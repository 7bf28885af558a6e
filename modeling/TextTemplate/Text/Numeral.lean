import TextTemplate.Text.DecimalDigit

/-!
# Integer numerals

An integer is read from decimal digits of any script, with an optional sign in front, blanks around
it and single underscores between digits. It is written in ASCII digits. Numerals of more than 4300
digits are neither read nor written.
-/

namespace TextTemplate.Text

/-- The largest number of digits that a numeral may have. -/
def maxDigits : Nat := 4300

/-- The blanks that may stand around a numeral: all but the four information separators. -/
def isNumeralBlank (c : CodePoint) : Bool :=
  isBlank c && !inRanges [(0x1C, 0x1F)] c.toNat

/-- The digit values of a numeral without sign. An underscore must have a digit on either side. -/
def numeralDigits? : Text → Option (List Nat)
  | [] => none
  | [c] => (digitValue? c).map ([·])
  | c :: '_' :: rest => do return (← digitValue? c) :: (← numeralDigits? rest)
  | c :: rest => do return (← digitValue? c) :: (← numeralDigits? rest)

/-- The number written by a list of digit values. -/
def ofDigits (digits : List Nat) : Nat :=
  digits.foldl (fun n d => 10 * n + d) 0

def readNatural? (t : Text) : Option Nat := do
  let digits ← numeralDigits? t
  guard (digits.length ≤ maxDigits)
  return ofDigits digits

def readInteger? (t : Text) : Option Int :=
  match t.trimOf isNumeralBlank with
  | '-' :: digits => (readNatural? digits).map fun n => -(n : Int)
  | '+' :: digits => (readNatural? digits).map Int.ofNat
  | digits => (readNatural? digits).map Int.ofNat

def decimal (n : Nat) : Text :=
  .ofChars (Nat.toDigits 10 n)

/-- The numeral of an integer, unless it has too many digits. -/
def writeInteger? (n : Int) : Option Text :=
  let digits := decimal n.natAbs
  if digits.length ≤ maxDigits then some (if n < 0 then '-' :: digits else digits) else none

end TextTemplate.Text
