import Quadrature.Rejection
import Quadrature.Text.Blank

/-!
# Settings documents

A document is a sequence of sections, each a title followed by one or more pairs `key: value`.
Titles and keys are identifiers; a value ends at the next blank. Lines that begin with `//`, `#` or
`%` are comments. Titles and keys are told apart by the colon alone: a section goes on as long as
pairs follow.

* `withoutComments`: what the grammar reads.
* `identifier`, `value`, `pair`, `titled`: the grammar; each rule yields what it has read and the
  rest, or the place where it breaks off.
* `Document.read`: the entries of a document. Sections of one title are one section, and of two
  entries with the same title and key the later one counts.
-/

namespace Quadrature

open Text

/-- One setting as a document writes it. -/
structure Setting where
  title : String
  key : String
  value : String
deriving DecidableEq

/-- Whether this is the setting of a key in a section. -/
def Setting.isAt (s : Setting) (title key : String) : Bool := s.title = title && s.key = key

theorem Setting.isAt_iff (s : Setting) {title key : String} :
    s.isAt title key = true ↔ s.title = title ∧ s.key = key := by
  simp [isAt]

/-- The settings of a document, one for each title and key. -/
abbrev Document := List Setting

namespace Document

/-- Where a rule breaks off, and what should have followed there. -/
structure Break where
  rest : List Char
  expected : Expected
deriving DecidableEq

/-- What a rule makes of a text, unless it breaks off. -/
abbrev Step := Except Break

/-- Whether a line is a comment. -/
def isComment (line : List Char) : Bool :=
  match trim line with
  | '/' :: '/' :: _ => true
  | '#' :: _ => true
  | '%' :: _ => true
  | _ => false

/-- The lines that are no comments, with line feeds between them. -/
def withoutComments (cs : List Char) : List Char :=
  ['\n'].intercalate ((lines cs).filter fun l => !isComment l)

/-- An ASCII letter or an underscore. -/
def isInitial (c : Char) : Bool := c.isAlpha || c == '_'

/-- An ASCII letter, a digit or an underscore. -/
def isInner (c : Char) : Bool := c.isAlphanum || c == '_'

/-- A maximal run of letters, digits and underscores that does not begin with a digit. -/
def identifier (cs : List Char) : Step (List Char × List Char) :=
  match cs with
  | c :: _ => if isInitial c then .ok (cs.span isInner) else .error ⟨cs, .tag⟩
  | [] => .error ⟨[], .tag⟩

/-- What follows a colon with spaces around it. -/
def colon (cs : List Char) : Step (List Char) :=
  match cs.dropWhile isSpace with
  | ':' :: rest => .ok (rest.dropWhile isSpace)
  | rest => .error ⟨rest, .tag⟩

/-- A maximal run of characters that are not blank. -/
def value (cs : List Char) : Step (List Char × List Char) :=
  match cs with
  | c :: _ => if isBlank c then .error ⟨cs, .value⟩ else .ok (cs.span fun c => !isBlank c)
  | [] => .error ⟨[], .value⟩

/-- Gaps, a key, a colon and a value. -/
def pair (cs : List Char) : Step ((List Char × List Char) × List Char) := do
  let (key, cs) ← identifier (cs.dropWhile isGap)
  let (value, cs) ← value (← colon cs)
  return ((key, value), cs)

/-- As many repetitions of a rule as follow, and the rest; the rule has to read something. -/
def many {β : Type} (rule : List Char → Step (β × List Char)) (cs : List Char) :
    List β × List Char :=
  match rule cs with
  | .error _ => ([], cs)
  | .ok (b, rest) =>
    if rest.length < cs.length then
      let (bs, rest) := many rule rest
      (b :: bs, rest)
    else ([], cs)
termination_by cs.length

/-- At least one repetition of a rule. -/
def many1 {β : Type} (rule : List Char → Step (β × List Char)) (cs : List Char) :
    Step (List β × List Char) := do
  let (b, rest) ← rule cs
  let (bs, rest) := many rule rest
  return (b :: bs, rest)

/-- Gaps, a title and at least one pair. -/
def titled (cs : List Char) : Step (List Setting × List Char) := do
  let (title, cs) ← identifier (cs.dropWhile isGap)
  let (pairs, cs) ← many1 pair cs
  let settings := pairs.map fun p =>
    ⟨String.ofList title, String.ofList p.1, String.ofList p.2⟩
  return (settings, cs)

/-- A document with one more setting, which replaces an earlier one of the same title and key. -/
def put (d : Document) (s : Setting) : Document :=
  d.filter (fun t => !t.isAt s.title s.key) ++ [s]

/-- The value of a key in a section. -/
def value? (d : Document) (title key : String) : Option String :=
  (d.find? fun s => s.isAt title key).map Setting.value

/-- Of two settings with the same title and key the later one counts. -/
theorem value?_put (d : Document) (s : Setting) (title key : String) :
    (d.put s).value? title key =
      if s.isAt title key then some s.value else d.value? title key := by
  by_cases h : s.isAt title key
  · obtain ⟨rfl, rfl⟩ := s.isAt_iff.1 h
    have gone : d.find? (fun _ => false) = none := by simp
    simp [value?, put, List.find?_append, h, gone]
  · have kept : ∀ t : Setting, (!t.isAt s.title s.key && t.isAt title key) = t.isAt title key := by
      intro t
      by_cases ht : t.isAt title key
      · obtain ⟨rfl, rfl⟩ := t.isAt_iff.1 ht
        have apart : t.isAt s.title s.key = false :=
          Bool.eq_false_iff.2 fun e =>
            h (s.isAt_iff.2 ⟨(t.isAt_iff.1 e).1.symm, (t.isAt_iff.1 e).2.symm⟩)
        simp [ht, apart]
      · simp [ht]
    simp [value?, put, List.find?_append, h, kept]

/-- The settings of a text. -/
def read {α : Type} (text : String) : Except (Rejection α) Document :=
  let kept := withoutComments text.toList
  if blank kept then .ok []
  else
    match many1 titled kept with
    | .error b =>
      .error (.invalidSetting "document" (.noSection (String.ofList b.rest) b.expected))
    | .ok (sections, rest) =>
      if blank rest then .ok (sections.flatten.foldl put [])
      else .error (.invalidSetting "document" (.unparsed (String.ofList (trim rest))))

end Document

end Quadrature
