import Quadrature.Text.Printable

/-!
# String literals

`quoted` writes a text between quotes: quotes and backslashes behind a backslash, the usual
controls by their letters, and every other character that is not printable by its code point.
-/

namespace Quadrature.Text

/-- A character inside of quotes. -/
def escape (c : Char) : List Char :=
  match c with
  | '\x00' => ['\\', '0']
  | '\t' => ['\\', 't']
  | '\r' => ['\\', 'r']
  | '\n' => ['\\', 'n']
  | '"' => ['\\', '"']
  | '\\' => ['\\', '\\']
  | c =>
    if isPrintable c then [c]
    else ['\\', 'u', '\x7b'] ++ Nat.toDigits 16 c.toNat ++ ['\x7d']

/-- A text as a string literal. -/
def quoted (cs : List Char) : List Char := '"' :: cs.flatMap escape ++ ['"']

end Quadrature.Text
