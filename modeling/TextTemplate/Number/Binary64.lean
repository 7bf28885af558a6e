import TextTemplate.Text.Numeral

/-!
# Double-precision numbers

A finite double is `± m · 2 ^ e` with a mantissa below `2 ^ 53`; the largest exponent that keeps
the mantissa an integer is fixed by its size. A decimal is read as the nearest double, a tie going
to the even mantissa.
-/

namespace TextTemplate

/-- A double-precision number. -/
inductive Binary64 where
  | nan
  | infinite (negative : Bool)
  /-- The number `± mantissa * 2 ^ exponent`. -/
  | finite (negative : Bool) (mantissa : Nat) (exponent : Int)
  deriving DecidableEq, Repr

namespace Binary64

def precision : Nat := 53

/-- The number `2 ^ precision`; every mantissa is below it. -/
def fullMantissa : Nat := Nat.pow 2 precision

/-- The least mantissa of a normal double, at which the gap to the next lower one halves. -/
def halfMantissa : Nat := Nat.pow 2 (precision - 1)

def minExponent : Int := -1074

def maxExponent : Int := 971

/-- Zero, with either sign. -/
def zero (negative : Bool) : Binary64 := .finite negative 0 minExponent

def isZero : Binary64 → Bool
  | .finite _ m _ => m == 0
  | _ => false

/-- The quotient rounded to the nearest natural number, a tie going to the even one. -/
def roundQuotient (num den : Nat) : Nat :=
  let q := num / den
  let r := num % den
  if 2 * r < den then q
  else if 2 * r > den then q + 1
  else if q % 2 = 0 then q else q + 1

/-- A fraction divided by a power of two, as a fraction. -/
def scaleDown (num den : Nat) (e : Int) : Nat × Nat :=
  if e < 0 then (num * Nat.pow 2 e.natAbs, den) else (num, den * Nat.pow 2 e.natAbs)

def ofFraction (negative : Bool) (num den : Nat) : Binary64 :=
  let guess : Int := (num.log2 : Int) - (den.log2 : Int) - precision
  let (n, d) := scaleDown num den guess
  let fit := if n / d < fullMantissa then guess else guess + 1
  let e := max fit minExponent
  let (n, d) := scaleDown num den e
  let m := roundQuotient n d
  let (m, e) := if m = fullMantissa then (halfMantissa, e + 1) else (m, e)
  if e > maxExponent then .infinite negative else .finite negative m e

/-- The double nearest to `± digits * 10 ^ exponent`. Numbers far beyond the range of finite doubles
are told apart by their size alone. -/
def ofDecimal (negative : Bool) (digits : Nat) (exponent : Int) : Binary64 :=
  let magnitude : Int := (Text.decimal digits).length + exponent
  if digits = 0 ∨ magnitude < -400 then zero negative
  else if magnitude > 400 then .infinite negative
  else if exponent < 0 then ofFraction negative digits (Nat.pow 10 exponent.natAbs)
  else ofFraction negative (digits * Nat.pow 10 exponent.natAbs) 1

def eqInt (x : Binary64) (n : Int) : Bool :=
  match x with
  | .finite negative m e =>
    let signed : Int := if negative then -(m : Int) else m
    if e < 0 then signed == n * Nat.pow 2 e.natAbs else signed * Nat.pow 2 e.natAbs == n
  | _ => false

/-- Whether two doubles are equal as numbers: both zeros are the same number, and no number is equal
to what is none. -/
def eqNumber (x y : Binary64) : Bool :=
  match x, y with
  | .nan, _ => false
  | _, .nan => false
  | x, y => (x.isZero && y.isZero) || x == y

end Binary64

end TextTemplate
