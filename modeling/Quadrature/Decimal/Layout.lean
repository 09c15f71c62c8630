import Quadrature.Decimal.Shortest

/-!
# Written forms of doubles

A `Layout` says when a double is written positionally and how many decimal places it shows at
least; its digits are always the fewest that read back. Three layouts are in use.

* `Layout.plain`: never an exponent, no places beyond the digits (`0.0000001`, `5`).
* `Layout.scientific`: always an exponent (`1.5e-3`).
* `Layout.precise`: at least one place, an exponent below `1e-4` and from `1e16` on (`10.0`).

`fixed` writes a given number of places of the exact binary value, a tie to the even digit.
-/

namespace Quadrature.Decimal

/-- How the digits of a double are laid out. -/
structure Layout where
  /-- Decimal places of the positional form, filled up with zeros. -/
  leastPlaces : Nat
  /-- Whether a value with this exponent of its leading digit is written without an exponent. -/
  positional : Int → Bool

namespace Layout

/-- Positional, with no more places than digits. -/
def plain : Layout := ⟨0, fun _ => true⟩

/-- One digit before the point and an exponent. -/
def scientific : Layout := ⟨0, fun _ => false⟩

/-- At least one place; an exponent below `1e-4` and from `1e16` on. -/
def precise : Layout := ⟨1, fun e => -4 ≤ e && e < 16⟩

end Layout

/-- Zeros. -/
def zeros (n : Nat) : List Char := List.replicate n '0'

/-- A whole part and, if there are places, a point and the places. -/
def withPlaces (whole places : List Char) : List Char :=
  if places.isEmpty then whole else whole ++ '.' :: places

/-- The digits with a point, `10 ^ scale` being the place of the last one. -/
def positionalText (leastPlaces : Nat) (digits : List Char) (scale : Int) : List Char :=
  let whole := digits ++ zeros scale.toNat
  let places := (-scale).toNat
  let padded := zeros (places + 1 - whole.length) ++ whole
  let cut := padded.length - places
  let fraction := padded.drop cut
  withPlaces (padded.take cut) (fraction ++ zeros (leastPlaces - fraction.length))

/-- The first digit, a point before the others, and the exponent of the first. -/
def scientificText (digits : List Char) (exponent : Int) : List Char :=
  withPlaces (digits.take 1) (digits.drop 1) ++ 'e' :: (toString exponent).toList

/-- The text of a decimal without its sign. -/
def Layout.unsigned (layout : Layout) (d : Scaled) : List Char :=
  let digits := Nat.toDigits 10 d.digits
  let leading := if d.digits = 0 then 0 else d.scale + (digits.length - 1 : Nat)
  if layout.positional leading then positionalText layout.leastPlaces digits d.scale
  else scientificText digits leading

/-- The decimal with the fewest digits that reads back as a magnitude. -/
def Magnitude.decimal (v : Magnitude) : Scaled :=
  if v.significand = 0 then ⟨0, 0⟩ else v.shortest

/-- A minus sign before the text of a negative number. -/
def signed (negative : Bool) (text : List Char) : List Char :=
  if negative then '-' :: text else text

/-- The text of what is left of a double once its finite values are laid out. -/
def Binary64.text (finite : Magnitude → List Char) : Binary64 → List Char
  | nan => "NaN".toList
  | infinite negative => signed negative "inf".toList
  | .finite negative v => signed negative (finite v)

/-- The text of a double in a layout. -/
def Layout.text (layout : Layout) (x : Float) : String :=
  String.ofList ((Binary64.of x).text fun v => layout.unsigned v.decimal)

/-- A magnitude in units of `10 ^ -places`, rounded to the nearest, a tie to the even one. -/
def Magnitude.rounded (places : Nat) (v : Magnitude) : Nat :=
  divRoundEven (v.num * Nat.pow 10 places) v.den

/-- The text of a double with a fixed number of decimal places. -/
def fixed (places : Nat) (x : Float) : String :=
  String.ofList <| (Binary64.of x).text fun v =>
    positionalText places (Nat.toDigits 10 (v.rounded places)) (-(places : Int))

end Quadrature.Decimal
