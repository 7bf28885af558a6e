import TextTemplate.Number.Binary64

/-!
# The shortest decimal of a double

All the real numbers in an interval around a double round to it. The shortest decimal of a double is
the one with the fewest digits in that interval, and of two such the one nearer to the double.
-/

namespace TextTemplate

/-- The number `digits * 10 ^ exponent`. -/
structure Decimal where
  digits : Nat
  exponent : Int
  deriving DecidableEq, Repr

namespace Binary64

/-- The ends of the interval that rounds to `m * 2 ^ e`, in units of `2 ^ (e - 2)`. The neighbour
below a power of two is only half as far as the one above. -/
def roundingInterval (m : Nat) (e : Int) : Nat × Nat :=
  let below := if m = halfMantissa ∧ e > minExponent then 1 else 2
  (4 * m - below, 4 * m + 2)

/-- The decimal exponent of the first digit of a positive fraction. -/
def decimalMagnitude (num den : Nat) : Int :=
  if den ≤ num then ((Text.decimal (num / den)).length : Int) - 1
  else -((Text.decimal ((den - 1) / num)).length : Int)

/-- The multiple of `10 ^ q` that rounds to `m * 2 ^ e` and is nearest to it, if there is one. A tie
goes to the even multiple. -/
def onGrid? (m : Nat) (e q : Int) : Option Decimal :=
  -- in units of `2 ^ (e - 2)` the double is `4 * m`, and `k * 10 ^ q` is `k * step / base`
  let unit := e - 2
  let step := Nat.pow 10 q.toNat * Nat.pow 2 (-unit).toNat
  let base := Nat.pow 10 (-q).toNat * Nat.pow 2 unit.toNat
  let (low, high) := roundingInterval m e
  let inside (k : Nat) : Bool :=
    if m % 2 = 0 then low * base ≤ k * step && k * step ≤ high * base
    else low * base < k * step && k * step < high * base
  let value := 4 * m * base
  let k := value / step
  let below := value - k * step
  let above := (k + 1) * step - value
  let nearerBelow := below < above || (below == above && k % 2 == 0)
  if inside k && (nearerBelow || !inside (k + 1)) then some ⟨k, q⟩
  else if inside (k + 1) then some ⟨k + 1, q⟩
  else none

def maxSignificant : Nat := 17

/-- The shortest decimal of the positive double `m * 2 ^ e`. -/
def shortestDecimal (m : Nat) (e : Int) : Decimal :=
  let first := decimalMagnitude (m * Nat.pow 2 e.toNat) (Nat.pow 2 (-e).toNat)
  ((List.range maxSignificant).findSome? fun (i : Nat) => onGrid? m e (first - i)).getD ⟨m, e⟩

/-- Digits as read after `0.`, with the power of ten that they are to be multiplied by. -/
def significand (d : Decimal) : Text × Int :=
  let digits := Text.decimal d.digits
  (Text.trimEndOf (· == .char '0') digits, digits.length + d.exponent)

end Binary64

end TextTemplate
