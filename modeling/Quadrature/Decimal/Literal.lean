import Quadrature.Text.Blank

/-!
# Number literals

The written form of a double is an optional sign and a **numeral**, digits with an optional point
and an optional exponent, with at least one digit beside the point and in the exponent. Next to
numerals there are three words for the values that are not finite, in any case.

* `Numeral.scan?`: the numeral at the front of a text, and what follows it.
* `readDouble?`: a whole text as a double.
* `readInteger?`, `readNatural?`: a whole text as an integer in a range.

A numeral is rounded to the nearest double; it overflows to infinity and underflows to zero.
-/

namespace Quadrature.Decimal

/-- The digits at the front of a text, and what follows them. -/
def spanDigits (cs : List Char) : List Char × List Char := cs.span Char.isDigit

/-- The number that decimal digits write. -/
def natural (cs : List Char) : Nat := cs.foldl (fun n c => 10 * n + (c.toNat - '0'.toNat)) 0

/-- An optional sign at the front of a text, true for a minus, and what follows it. -/
def sign : List Char → Bool × List Char
  | '-' :: cs => (true, cs)
  | '+' :: cs => (false, cs)
  | cs => (false, cs)

/-- A signed decimal: `± whole.fraction · 10 ^ exponent`. -/
structure Numeral where
  negative : Bool
  whole : List Char
  fraction : List Char
  exponent : Int
deriving DecidableEq

namespace Numeral

/-- The digits around an optional point; none stands for no digit on either side. -/
def mantissa? (cs : List Char) : Option ((List Char × List Char) × List Char) :=
  let (whole, rest) := spanDigits cs
  match rest with
  | '.' :: after =>
    let (fraction, rest) := spanDigits after
    if whole.isEmpty && fraction.isEmpty then none else some ((whole, fraction), rest)
  | _ => if whole.isEmpty then none else some ((whole, []), rest)

/-- An optional exponent; none stands for an exponent mark without digits. -/
def exponent? (cs : List Char) : Option (Int × List Char) :=
  match cs with
  | c :: after =>
    if c == 'e' || c == 'E' then
      let (negative, rest) := sign after
      let (ds, rest) := spanDigits rest
      if ds.isEmpty then none
      else some (if negative then -(natural ds : Int) else natural ds, rest)
    else some (0, cs)
  | [] => some (0, [])

/-- The longest numeral at the front of a text, and what follows it. -/
def scan? (cs : List Char) : Option (Numeral × List Char) := do
  let (negative, rest) := sign cs
  let ((whole, fraction), rest) ← mantissa? rest
  let (exponent, rest) ← exponent? rest
  return (⟨negative, whole, fraction, exponent⟩, rest)

/-- A natural number times a power of ten as the nearest double. Beyond 310 digits before the
point every value is infinite, and with 330 zeros after it every value is zero. -/
def scaled (m : Nat) (e : Int) : Float :=
  let top := (Nat.toDigits 10 m).length + e
  if m = 0 || top < -330 then 0.0
  else if 310 < top then 1.0 / 0.0
  else Float.ofScientific m (e < 0) e.natAbs

/-- The double nearest to a numeral. -/
def value (n : Numeral) : Float :=
  let x := scaled (natural (n.whole ++ n.fraction)) (n.exponent - n.fraction.length)
  if n.negative then -x else x

end Numeral

/-- An ASCII letter in lower case; other characters are kept. -/
def lowerAscii (cs : List Char) : List Char := cs.map Char.toLower

/-- The words for values that are not finite. -/
def specials : List (String × Float) :=
  [("nan", 0.0 / 0.0), ("infinity", 1.0 / 0.0), ("inf", 1.0 / 0.0)]

/-- The value that a word in any case stands for. -/
def special? (cs : List Char) : Option Float :=
  (specials.find? fun s => s.1.toList = lowerAscii cs).map Prod.snd

/-- A whole text as a double. -/
def readDouble? (s : String) : Option Float :=
  let (negative, rest) := sign s.toList
  match special? rest with
  | some x => some (if negative then -x else x)
  | none =>
    match Numeral.scan? s.toList with
    | some (n, []) => some n.value
    | _ => none

/-- A whole text as an integer: digits after an optional sign. -/
def readInteger? (s : String) (least greatest : Int) : Option Int :=
  let (negative, ds) := sign s.toList
  if ds.isEmpty || !ds.all Char.isDigit then none
  else
    let n : Int := if negative then -(natural ds : Int) else natural ds
    if least ≤ n && n ≤ greatest then some n else none

/-- A whole text as a natural number: digits after an optional plus. -/
def readNatural? (s : String) (greatest : Nat) : Option Nat :=
  if s.toList.head? = some '-' then none
  else (readInteger? s 0 greatest).map Int.toNat

end Quadrature.Decimal
