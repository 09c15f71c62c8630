import Quadrature.Decimal.Literal
import Quadrature.Rejection
import Quadrature.Text.Blank

/-!
# Interval lines

An interval is written `[start ; end]`, with gaps anywhere but inside of the two bounds. The line
`[ ; ]` stands for an interval that was never entered.

* `Interval.line`: the line for two bounds as they were typed.
* `Interval.isUndefined`, `Interval.bounds?`: the two grammars.
* `Interval.read`: the bounds of a line; they have to be finite and different.
-/

namespace Quadrature.Interval

open Text Decimal

/-- The line for two bounds as they were typed. -/
def line (start stop : String) : String := "[" ++ trimmed start ++ " ; " ++ trimmed stop ++ "]"

/-- What follows a run of gaps. -/
def skipGaps (cs : List Char) : List Char := cs.dropWhile isGap

/-- What follows a character that has to come next, after gaps. -/
def mark? (c : Char) (cs : List Char) : Option (List Char) :=
  match skipGaps cs with
  | d :: rest => if d = c then some rest else none
  | [] => none

/-- A word for a value that is not finite, in any case, at the front of a text. -/
def word? (cs : List Char) : Option (Float × List Char) :=
  specials.findSome? fun s =>
    let n := s.1.toList.length
    if lowerAscii (cs.take n) = s.1.toList then some (s.2, cs.drop n) else none

/-- A bound at the front of a text, after gaps: a numeral or, without a sign, a word. -/
def bound? (cs : List Char) : Option (Float × List Char) :=
  let cs := skipGaps cs
  match Numeral.scan? cs with
  | some (n, rest) => some (n.value, rest)
  | none => word? cs

/-- Whether a text is an interval without bounds. -/
def isUndefined (cs : List Char) : Bool :=
  match mark? '[' cs >>= mark? ';' >>= mark? ']' with
  | some rest => (skipGaps rest).isEmpty
  | none => false

/-- The bounds of an interval. -/
def bounds? (cs : List Char) : Option (Float × Float) := do
  let (start, cs) ← mark? '[' cs >>= bound?
  let (stop, cs) ← mark? ';' cs >>= bound?
  let rest ← mark? ']' cs
  if (skipGaps rest).isEmpty then some (start, stop) else none

/-- The bounds of an interval that can be integrated over. -/
def read (text : String) : Except (Rejection Float) (Float × Float) :=
  if isUndefined text.toList then .error .undefinedInterval
  else
    match bounds? text.toList with
    | none => .error (.malformedInterval (trimmed text))
    | some (start, stop) =>
      if !start.isFinite || !stop.isFinite then .error (.nonFiniteBound start stop)
      else if start == stop then .error (.degenerateInterval start)
      else .ok (start, stop)

end Quadrature.Interval
