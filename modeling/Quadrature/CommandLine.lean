/-!
# The command line

Four parameters may be given, each at most once and each with a value: `--name value`,
`--name=value`, `-n value`, `-nvalue` or `-n=value`. A value that stands alone may not look like a
parameter, and a value that names a file may not be empty. `--help` and `--version` may be asked
for. Anything else is a misuse.

* `CommandLine.read`: what a list of arguments asks for.
-/

namespace Quadrature

/-- The values of the parameters that were given. -/
structure CommandLine where
  config : Option String
  loglevel : Option String
  logFile : Option String
  functionsFile : Option String
deriving DecidableEq

namespace CommandLine

/-- No parameter. -/
def empty : CommandLine := ⟨none, none, none, none⟩

/-- The parameters. -/
inductive Parameter where
  | config | loglevel | logFile | functionsFile
deriving DecidableEq

namespace Parameter

/-- Every parameter. -/
def all : List Parameter := [config, loglevel, logFile, functionsFile]

/-- The long name of a parameter. -/
def name : Parameter → String
  | config => "config"
  | loglevel => "loglevel"
  | logFile => "log-file"
  | functionsFile => "functions-file"

/-- The letter of a parameter, if it has one. -/
def letter? : Parameter → Option Char
  | config => some 'c'
  | loglevel => some 'l'
  | logFile => none
  | functionsFile => some 'f'

/-- Whether a value can be given to a parameter. -/
def allows (p : Parameter) (value : String) : Bool := p = loglevel || value ≠ ""

end Parameter

/-- The value of a parameter. -/
def value? (c : CommandLine) : Parameter → Option String
  | .config => c.config
  | .loglevel => c.loglevel
  | .logFile => c.logFile
  | .functionsFile => c.functionsFile

/-- The command line with a value for a parameter that has none yet. -/
def give? (c : CommandLine) (p : Parameter) (value : String) : Option CommandLine :=
  if (c.value? p).isSome || !p.allows value then none
  else
    match p with
    | .config => some { c with config := some value }
    | .loglevel => some { c with loglevel := some value }
    | .logFile => some { c with logFile := some value }
    | .functionsFile => some { c with functionsFile := some value }

/-- What an argument is. -/
inductive Argument where
  /-- A parameter, with its value if that is part of the argument. -/
  | parameter (p : Parameter) (value : Option String)
  | help
  | version
  /-- The mark after which no parameter follows. -/
  | endMark
  | unknown

/-- A text up to its first equals sign, and what follows the sign. -/
def splitAtSign (cs : List Char) : List Char × Option String :=
  match cs.span (· ≠ '=') with
  | (name, _ :: value) => (name, some (String.ofList value))
  | (name, []) => (name, none)

/-- What follows the letter of a parameter: nothing, or a value with or without a sign. -/
def attached : List Char → Option String
  | [] => none
  | '=' :: value => some (String.ofList value)
  | value => some (String.ofList value)

/-- What an argument is. -/
def Argument.ofString (s : String) : Argument :=
  match s.toList with
  | ['-', '-'] => endMark
  | '-' :: '-' :: long =>
    let (name, value) := splitAtSign long
    match Parameter.all.find? fun p => p.name.toList = name with
    | some p => parameter p value
    | none => if s = "--help" then help else if s = "--version" then version else unknown
  | '-' :: letter :: rest =>
    match Parameter.all.find? fun p => p.letter? = some letter with
    | some p => parameter p (attached rest)
    | none => if letter = 'h' then help else if letter = 'V' then version else unknown
  | _ => unknown

/-- Whether an argument can stand alone as a value: it is not a dash with something after it. -/
def isValue (s : String) : Bool :=
  match s.toList with
  | '-' :: _ :: _ => false
  | _ => true

/-- What a command line asks for. -/
inductive Wish where
  | run (c : CommandLine)
  | help
  | version
  | misuse

/-- What further arguments ask for. -/
def readFrom (c : CommandLine) : List String → Wish
  | [] => .run c
  | s :: rest =>
    match Argument.ofString s, rest with
    | .help, _ => .help
    | .version, _ => .version
    | .endMark, [] => .run c
    | .parameter p (some value), rest =>
      match c.give? p value with
      | some c => readFrom c rest
      | none => .misuse
    | .parameter p none, value :: rest =>
      if isValue value then
        match c.give? p value with
        | some c => readFrom c rest
        | none => .misuse
      else .misuse
    | _, _ => .misuse

/-- What a list of arguments asks for. -/
def read (args : List String) : Wish := readFrom empty args

end CommandLine

end Quadrature
