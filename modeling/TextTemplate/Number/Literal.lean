import TextTemplate.Number.Binary64

/-!
# Decimal literals

The parts of a decimal literal in ASCII digits: a fraction after a point, and an exponent after an
`e`. A part that is not well formed is no part of the literal.
-/

namespace TextTemplate.DecimalLiteral

/-- The digits at the front of an input, and what follows them. -/
def digits (input : Text) : Text × Text :=
  (input.takeWhile CodePoint.isDigit, input.dropWhile CodePoint.isDigit)

def naturalOf (digits : Text) : Nat :=
  Text.ofDigits (digits.map fun c => c.toNat - '0'.toNat)

/-- The sign at the front of an input, where a minus counts, and what follows it. -/
def minus (input : Text) : Bool × Text :=
  match input with
  | '-' :: rest => (true, rest)
  | _ => (false, input)

/-- The fraction at the front of an input: its digits, and what follows them. -/
def fraction? (input : Text) : Option (Text × Text) :=
  match input with
  | '.' :: rest =>
    let (ds, rest) := digits rest
    if ds.isEmpty then none else some (ds, rest)
  | _ => none

/-- The exponent at the front of an input, and what follows it. -/
def exponent? (input : Text) : Option (Int × Text) :=
  match input with
  | e :: rest =>
    if e == 'e' || e == 'E' then
      let (negative, unsigned) :=
        match rest with
        | '+' :: rest => (false, rest)
        | _ => minus rest
      let (ds, rest) := digits unsigned
      if ds.isEmpty then none
      else
        let n : Int := naturalOf ds
        some (if negative then -n else n, rest)
    else none
  | [] => none

/-- The double of a literal's whole digits, fraction digits and exponent. -/
def toBinary64 (negative : Bool) (whole fraction : Text) (exponent : Int) : Binary64 :=
  Binary64.ofDecimal negative (naturalOf (whole ++ fraction)) (exponent - fraction.length)

/-- The double that a text writes: a decimal literal, an infinity or the word for no number. -/
def read? (t : Text) : Option Binary64 := do
  let (negative, unsigned) := minus t
  if unsigned = "inf".text then return .infinite negative
  else if unsigned = "nan".text then return .nan
  else
    let (whole, rest) := digits unsigned
    let (fraction, rest) := (fraction? rest).getD ([], rest)
    let (exponent, rest) := (exponent? rest).getD (0, rest)
    guard (!whole.isEmpty && rest.isEmpty)
    return toBinary64 negative whole fraction exponent

end TextTemplate.DecimalLiteral
