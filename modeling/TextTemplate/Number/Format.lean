import TextTemplate.Number.Shortest

/-!
# Written doubles

The text of a double: its shortest decimal, in positional notation between `0.0001` and `10 ^ 16` and
with an exponent elsewhere.
-/

namespace TextTemplate

/-- The decisions of a notation for doubles. -/
structure NumberFormat where
  /-- Positional notation is used when the point lies above this place. -/
  pointAbove : Int
  /-- Positional notation is used when the point lies no further right than this place. -/
  pointUpTo : Int
  exponentDigits : Nat
  nanText : Text
  infinityText : Text

/-- A point is always shown in positional notation, and an exponent has a sign and two digits. -/
def NumberFormat.plain : NumberFormat where
  pointAbove := -4
  pointUpTo := 16
  exponentDigits := 2
  nanText := ['n', 'a', 'n']
  infinityText := ['i', 'n', 'f']

namespace NumberFormat

/-- Digits with a point, `point` places after their start. -/
def positional (digits : Text) (point : Int) : Text :=
  if point ≤ 0 then "0.".text ++ List.replicate (-point).toNat (.char '0') ++ digits
  else if digits.length ≤ point.toNat then
    digits ++ List.replicate (point.toNat - digits.length) (.char '0') ++ ".0".text
  else digits.take point.toNat ++ .char '.' :: digits.drop point.toNat

/-- Digits with a point after the first, and an exponent. -/
def scientific (f : NumberFormat) (digits : Text) (exponent : Int) : Text :=
  let mantissa :=
    match digits with
    | first :: second :: rest => first :: '.' :: second :: rest
    | short => short
  let power := Text.decimal exponent.natAbs
  mantissa ++ .char 'e' :: .char (if exponent < 0 then '-' else '+')
    :: List.replicate (f.exponentDigits - power.length) (.char '0') ++ power

def magnitude (f : NumberFormat) (m : Nat) (e : Int) : Text :=
  let (digits, point) := Binary64.significand (Binary64.shortestDecimal m e)
  if f.pointAbove < point ∧ point ≤ f.pointUpTo then positional digits point
  else f.scientific digits (point - 1)

def write (f : NumberFormat) : Binary64 → Text
  | .nan => f.nanText
  | .infinite negative => (if negative then "-".text else []) ++ f.infinityText
  | .finite negative m e =>
    (if negative then "-".text else []) ++ if m = 0 then positional ['0'] 1 else f.magnitude m e

end NumberFormat

end TextTemplate
