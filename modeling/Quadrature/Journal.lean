import Quadrature.Interval
import Quadrature.Session.Dialogue

/-!
# The file of saved functions

Every function that is integrated is saved as two lines, the integrand and the interval. Blank lines
do not count.

* `Journal.record`: the two lines of an entry.
* `Journal.entries`: the entries of a text, the oldest first; an integrand at the end that has no
  interval is left out.
* `Journal.last?`: the newest entry, unless the text ends with an integrand that has no interval.
* `Journal.append`, `Journal.contents`, `Journal.list`, `Journal.newest`: the same on a file.
-/

namespace Quadrature

open Text

/-- A function that was integrated. -/
structure Entry where
  integrand : String
  interval : String
deriving DecidableEq

namespace Journal

/-- The two lines of an entry. -/
def record (e : Entry) : String := trimmed e.integrand ++ "\n" ++ trimmed e.interval ++ "\n"

/-- The lines that are not blank, without the blanks around them. -/
def written (text : String) : List String :=
  (((lines text.toList).map trim).filter fun l => !l.isEmpty).map String.ofList

/-- Lines taken two by two from the first one on. -/
def paired : List String → List Entry
  | integrand :: interval :: rest => ⟨integrand, interval⟩ :: paired rest
  | _ => []

/-- The entries of a text. -/
def entries (text : String) : List Entry := paired (written text)

/-- Whether an integrand at the end of a text has no interval. -/
def isDangling (text : String) : Bool := (written text).length % 2 == 1

/-- The newest entry of a text. -/
def last? (text : String) : Option Entry :=
  if isDangling text then none
  else
    match (written text).reverse with
    | interval :: integrand :: _ => some ⟨integrand, interval⟩
    | _ => none

/-- Saves an entry. -/
def append (file : String) (e : Entry) : ExceptT FileError Dialogue Unit := do
  ExceptT.mk (Dialogue.request (.appendFile file (record e)))
  Dialogue.log <| Log.info <|
    "saved " ++ trimmed e.integrand ++ " on " ++ trimmed e.interval ++ " to " ++ file

/-- The text of the file. -/
def contents (file : String) : ExceptT FileError Dialogue String := Dialogue.readText file

/-- The entries of the file. -/
def list (file : String) : ExceptT FileError Dialogue (List Entry) := do
  let text ← contents file
  if isDangling text then
    Dialogue.log <| Log.warn <|
      file ++ " has an odd number of lines, the last integrand has no interval"
  return entries text

/-- The newest entry of the file. -/
def newest (file : String) : ExceptT FileError Dialogue (Option Entry) := do
  let text ← contents file
  if isDangling text then
    Dialogue.log <| Log.warn <| file ++ " ends with an integrand that has no interval"
  return last? text

end Journal

end Quadrature
