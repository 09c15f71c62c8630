/-!
# Files by name

A `Folder` is a working directory that holds files and, with them, the directories that their
paths mention; around it lie the usual directories of a system. It answers the three questions that
the program asks of a file system: what a file holds, whether something can be appended to it, and
whether it can be created.

* `FileError.message`: the text of a failure.
* `Folder.get?_put`: what was put at a path is found there, and nothing else has changed.
* `Folder.locate`: the file that a name stands for.
* `Folder.read`, `Folder.append`, `Folder.create`: the operations.
-/

namespace Quadrature

/-- Why a file cannot be used. -/
inductive FileError where
  | notFound
  | isDirectory
  | notDirectory
  | nameTooLong
  | nulInName
  | invalidText
  /-- A failure in the system's own words. -/
  | other (text : String)
deriving DecidableEq

/-- The text of a failure. -/
def FileError.message : FileError → String
  | notFound => "No such file or directory (os error 2)"
  | isDirectory => "Is a directory (os error 21)"
  | notDirectory => "Not a directory (os error 20)"
  | nameTooLong => "File name too long (os error 36)"
  | nulInName => "file name contained an unexpected NUL byte"
  | invalidText => "stream did not contain valid UTF-8"
  | other text => text

/-- Bytes as text. -/
def decode (bytes : ByteArray) : Except FileError String :=
  match String.fromUTF8? bytes with
  | some text => .ok text
  | none => .error .invalidText

/-- The way to a file from the working directory, or from the top if it begins there. -/
abbrev Path := List String

/-- The files of a working directory. -/
abbrev Folder := List (Path × ByteArray)

namespace Folder

/-- Where absolute names begin: the top of the system's directories. -/
def root : Path := ["/"]

/-- The directories under the top one. -/
def systemDirectories : List String :=
  ["bin", "boot", "dev", "etc", "home", "lib", "media", "mnt", "opt", "proc", "root", "run", "sbin",
    "srv", "sys", "tmp", "usr", "var"]

/-- The file at a path. -/
def get? (d : Folder) (p : Path) : Option ByteArray := (d.find? fun f => f.1 = p).map Prod.snd

/-- The folder with a file at a path, in place of any file that is there. -/
def put (d : Folder) (p : Path) (content : ByteArray) : Folder :=
  d.filter (fun f => f.1 ≠ p) ++ [(p, content)]

/-- What was put at a path is found there, and every other file is as before. -/
theorem get?_put (d : Folder) (p q : Path) (content : ByteArray) :
    (d.put p content).get? q = if p = q then some content else d.get? q := by
  by_cases h : p = q
  · subst h
    have gone : d.find? (fun _ => false) = none := by simp
    simp [get?, put, List.find?_append, gone]
  · have kept : ∀ f : Path × ByteArray,
        (!decide (f.1 = p) && decide (f.1 = q)) = decide (f.1 = q) := by
      intro f
      by_cases hf : f.1 = q
      · simp [hf, Ne.symm h]
      · simp [hf]
    simp [get?, put, List.find?_append, h, kept]

/-- Whether a directory is there: the working directory, one above it, one of the system, or one
that a file lies in. -/
def hasDirectory (d : Folder) (p : Path) : Bool :=
  p.all (· = "..") || p = root || systemDirectories.any (fun top => p = root ++ [top]) ||
    d.any fun f => p.isPrefixOf f.1 && p.length < f.1.length

/-- The longest part of a name, in bytes. -/
def maxPartLength : Nat := 255

/-- The longest name, in bytes. -/
def maxNameLength : Nat := 4095

/-- The parts of a name, which slashes separate. -/
def parts (name : String) : List String :=
  ((name.toList.splitOn '/').filter fun part => !part.isEmpty).map String.ofList

/-- The directory in which a name begins. -/
def start (name : String) : Path := if name.startsWith "/" then root else []

/-- Where a part of a name leads from a directory: a dot stays there, and two dots lead up, but not
beyond the top. -/
def enter (here : Path) (part : String) : Path :=
  if part = "." then here
  else if part ≠ ".." || here.all (· = "..") then here ++ [part]
  else if here = root then root
  else here.dropLast

/-- The path that a name writes. -/
def path (name : String) : Path := (parts name).foldl enter (start name)

/-- Follows parts of a name through directories that are there. -/
def walk (d : Folder) (here : Path) : List String → Except FileError Path
  | [] => .ok here
  | part :: rest =>
    if maxPartLength < part.utf8ByteSize then .error .nameTooLong
    else
      let next := enter here part
      if d.hasDirectory next then d.walk next rest
      else if (d.get? next).isSome then .error .notDirectory
      else .error .notFound

/-- The path of the file that a name stands for, which need not be there, but its directory must.
A name whose last part is a dot or two stands for a directory, and a file that may have to be
created takes no slash after its name. -/
def locate (d : Folder) (name : String) (creating : Bool) : Except FileError Path := do
  if name.toList.contains '\x00' then throw .nulInName
  if name.isEmpty then throw .notFound
  if maxNameLength < name.utf8ByteSize then throw .nameTooLong
  let last := (parts name).getLast?.getD "."
  let here ← d.walk (start name) (parts name).dropLast
  if last = "." || last = ".." then throw .isDirectory
  let slash := name.endsWith "/"
  if creating && slash then throw .isDirectory
  if maxPartLength < last.utf8ByteSize then throw .nameTooLong
  let file := here ++ [last]
  if d.hasDirectory file then throw .isDirectory
  if slash && (d.get? file).isSome then throw .notDirectory
  return file

/-- The content of a file. -/
def read (d : Folder) (name : String) : Except FileError ByteArray := do
  match d.get? (← d.locate name false) with
  | some content => return content
  | none => throw .notFound

/-- The folder after bytes were appended to a file, which is created if it is missing. -/
def append (d : Folder) (name : String) (bytes : ByteArray) : Except FileError Folder := do
  let file ← d.locate name true
  return d.put file ((d.get? file).getD ByteArray.empty ++ bytes)

/-- The folder with an empty file of this name. -/
def create (d : Folder) (name : String) : Except FileError Folder := do
  return d.put (← d.locate name true) ByteArray.empty

end Folder

end Quadrature
