import TextTemplate.Json.Fault
import TextTemplate.Number.Literal
import TextTemplate.Text.Split
import TextTemplate.Value.Basic

/-!
# Reading JSON

A JSON text is read into a value. Objects become mappings, where a name that occurs twice keeps its
first place and its last value; a number with a fraction or an exponent becomes a double, any other an
integer. `NaN` and the infinities are read as well. Every reader returns what is left of its input
with a proof that it is shorter.
-/

namespace TextTemplate.Json

/-- What is left of an input of which something has been read. -/
abbrev Rest (input : Text) := { rest : Text // rest.length < input.length }

def fail {α : Type} (expected : Expectation) (input : Text) : Except Fault α :=
  .error (.malformed expected input.length)

/-- The white space between the parts of a JSON text. -/
def isSpace (c : CodePoint) : Bool :=
  c == ' ' || c == '\t' || c == '\n' || c == '\r'

def skipSpace (input : Text) : Text :=
  input.dropWhile isSpace

theorem skipSpace_length (input : Text) : (skipSpace input).length ≤ input.length :=
  (List.dropWhile_sublist _).length_le

/-! ## Strings -/

def hexValue? (c : CodePoint) : Option Nat :=
  if c.isDigit then some (c.toNat - '0'.toNat)
  else if 'a' ≤ c ∧ c ≤ 'f' then some (c.toNat - 'a'.toNat + 10)
  else if 'A' ≤ c ∧ c ≤ 'F' then some (c.toNat - 'A'.toNat + 10)
  else none

/-- The number written by the first four characters in hexadecimal. -/
def hexUnit? : Text → Option Nat
  | a :: b :: c :: d :: _ => do
    return (((← hexValue? a) * 16 + (← hexValue? b)) * 16 + (← hexValue? c)) * 16 + (← hexValue? d)
  | _ => none

/-- Whether a code unit is the first half of a pair. -/
def isHighUnit (n : Nat) : Bool := 0xD800 ≤ n && n ≤ 0xDBFF

/-- Whether a code unit is the second half of a pair. -/
def isLowUnit (n : Nat) : Bool := 0xDC00 ≤ n && n ≤ 0xDFFF

def charOfPair (high low : Nat) : Char :=
  Char.ofNat (0x10000 + (high - 0xD800) * 0x400 + (low - 0xDC00))

def goesOn (input : Text) : Bool :=
  !(input.drop 4).isEmpty

theorem drop_length_lt {input : Text} (h : goesOn input) :
    (input.drop 4).length < input.length := by
  have : input.drop 4 ≠ [] := by simpa [goesOn] using h
  have := List.length_pos_iff.mpr this
  rw [List.length_drop] at this ⊢
  omega

theorem drop_pair_length_lt {input second : Text} (h : goesOn input)
    (hr : input.drop 4 = .char '\\' :: .char 'u' :: second) : (second.drop 4).length < input.length := by
  have hlt := drop_length_lt h
  rw [hr, List.length_cons, List.length_cons] at hlt
  rw [List.length_drop]
  omega

/-- Read the code point that code units escape. The input begins after the `u` of the first. A low
unit is joined to the high unit before it; half a pair that stands alone is a code point by itself. -/
def readUnits (input : Text) : Except Fault (CodePoint × Rest input) := do
  if h : goesOn input then
    match hexUnit? input with
    | none => .error (.malformed .unicodeEscape (input.length + 1))
    | some unit =>
      let rest : Rest input := ⟨input.drop 4, drop_length_lt h⟩
      match hr : input.drop 4 with
      | '\\' :: 'u' :: second =>
        if isHighUnit unit && goesOn second then
          match hexUnit? second with
          | none => .error (.malformed .unicodeEscape (second.length + 1))
          | some low =>
            if isLowUnit low then
              return (charOfPair unit low, ⟨second.drop 4, drop_pair_length_lt h hr⟩)
            else return (.ofNat unit, rest)
        else return (.ofNat unit, rest)
      | _ => return (.ofNat unit, rest)
  else .error (.malformed .unicodeEscape (input.length + 1))

/-- The characters that are escaped by a single letter or by themselves. -/
def simpleEscape? (c : CodePoint) : Option CodePoint :=
  match c with
  | '"' | '\\' | '/' => some c
  | 'b' => some '\x08'
  | 'f' => some '\x0C'
  | 'n' => some '\n'
  | 'r' => some '\r'
  | 't' => some '\t'
  | _ => none

/-- Read the rest of a string, up to the quote that ends it. `opening` characters are left where the
string starts. -/
def readString (opening : Nat) (input : Text) : Except Fault (Text × Rest input) := do
  match hin : input with
  | [] => .error (.malformed .endOfString opening)
  | '"' :: rest => return ([], ⟨rest, by grind⟩)
  | ['\\'] => .error (.malformed .endOfString opening)
  | '\\' :: 'u' :: units =>
    let (c, ⟨rest, hrest⟩) ← readUnits units
    let (text, ⟨rest', hrest'⟩) ← readString opening rest
    return (c :: text, ⟨rest', by grind⟩)
  | '\\' :: letter :: rest =>
    match simpleEscape? letter with
    | none => fail .escape input
    | some c =>
      let (text, ⟨rest', hrest'⟩) ← readString opening rest
      return (c :: text, ⟨rest', by grind⟩)
  | c :: rest =>
    if c.toNat ≤ 0x1F then fail .plainCharacter input
    else
      let (text, ⟨rest', hrest'⟩) ← readString opening rest
      return (c :: text, ⟨rest', by grind⟩)
termination_by input.length
decreasing_by all_goals grind

/-! ## Numbers -/

open DecimalLiteral

/-- The whole part at the front of an input: a zero, or digits that do not start with one. -/
def whole? (input : Text) : Option (Text × Text) :=
  match input with
  | '0' :: rest => some (['0'], rest)
  | input =>
    let (ds, rest) := digits input
    if ds.isEmpty then none else some (ds, rest)

/-- The number at the front of an input, and what follows it. -/
def number? (input : Text) : Option (Except Fault Value × Text) := do
  let (negative, unsigned) := minus input
  let (whole, rest) ← whole? unsigned
  let fractionPart? := fraction? rest
  let (fraction, afterFraction) := fractionPart?.getD ([], rest)
  let exponentPart? := exponent? afterFraction
  let (exponent, afterExponent) := exponentPart?.getD (0, afterFraction)
  if fractionPart?.isSome || exponentPart?.isSome then
    return (.ok (.float (toBinary64 negative whole fraction exponent)), afterExponent)
  else if whole.length ≤ Text.maxDigits then
    let n : Int := naturalOf whole
    return (.ok (.int (if negative then -n else n)), rest)
  else return (.error (.tooManyDigits whole.length), rest)

/-! ## Values -/

def words : List (String × Value) :=
  [("null", .null), ("true", .bool true), ("false", .bool false), ("NaN", .float .nan),
    ("Infinity", .float (.infinite false)), ("-Infinity", .float (.infinite true))]

def readScalar (input : Text) : Except Fault (Value × Rest input) := do
  match words.find? fun (word, _) => input.startsWith word.text with
  | some (word, value) =>
    let rest := input.drop word.length
    if h : rest.length < input.length then return (value, ⟨rest, h⟩) else fail .value input
  | none =>
    match number? input with
    | none => fail .value input
    | some (value, rest) =>
      if h : rest.length < input.length then return (← value, ⟨rest, h⟩) else fail .value input

mutual
def readValue (input : Text) : Except Fault (Value × Rest input) := do
  match hin : input with
  | '"' :: rest =>
    let (text, ⟨rest', h⟩) ← readString input.length rest
    return (.text text, ⟨rest', by grind⟩)
  | '[' :: rest =>
    have hskip := skipSpace_length rest
    match hs : skipSpace rest with
    | ']' :: rest' =>
      have := congrArg List.length hs
      return (.list [], ⟨rest', by grind⟩)
    | start =>
      let (items, ⟨rest', h⟩) ← readItems start
      return (.list items, ⟨rest', by grind⟩)
  | '{' :: rest =>
    have hskip := skipSpace_length rest
    match hs : skipSpace rest with
    | '}' :: rest' =>
      have := congrArg List.length hs
      return (.map [], ⟨rest', by grind⟩)
    | start =>
      let (members, ⟨rest', h⟩) ← readMembers start
      return (Value.ofEntries members, ⟨rest', by grind⟩)
  | _ => readScalar input
termination_by 2 * input.length
decreasing_by all_goals grind

/-- Read the items of a list from the first on, and the bracket that ends it. -/
def readItems (input : Text) : Except Fault (List Value × Rest input) := do
  let (item, ⟨afterItem, h⟩) ← readValue input
  have hskip := skipSpace_length afterItem
  match hs : skipSpace afterItem with
  | ']' :: rest =>
    have := congrArg List.length hs
    return ([item], ⟨rest, by grind⟩)
  | ',' :: rest =>
    have := congrArg List.length hs
    have hskip' := skipSpace_length rest
    let (items, ⟨rest', h'⟩) ← readItems (skipSpace rest)
    return (item :: items, ⟨rest', by grind⟩)
  | other => fail .comma other
termination_by 2 * input.length + 1
decreasing_by all_goals grind

/-- Read the members of an object from the first on, and the brace that ends it. -/
def readMembers (input : Text) : Except Fault (List (Value × Value) × Rest input) := do
  match hin : input with
  | '"' :: afterQuote =>
    let (name, ⟨afterName, hname⟩) ← readString input.length afterQuote
    have hskip := skipSpace_length afterName
    match hs : skipSpace afterName with
    | ':' :: afterColon =>
      have hcolon := congrArg List.length hs
      have hskip' := skipSpace_length afterColon
      let (value, ⟨afterValue, hvalue⟩) ← readValue (skipSpace afterColon)
      have hskip'' := skipSpace_length afterValue
      match hs' : skipSpace afterValue with
      | '}' :: rest =>
        have := congrArg List.length hs'
        return ([(.text name, value)], ⟨rest, by grind⟩)
      | ',' :: rest =>
        have := congrArg List.length hs'
        have hskip''' := skipSpace_length rest
        let (members, ⟨rest', h'⟩) ← readMembers (skipSpace rest)
        return ((.text name, value) :: members, ⟨rest', by grind⟩)
      | other => fail .comma other
    | other => fail .colon other
  | _ => fail .propertyName input
termination_by 2 * input.length + 1
decreasing_by all_goals grind
end

def read (input : Text) : Except Fault Value := do
  if input.head? = some (.char '\uFEFF') then fail .noByteOrderMark input
  else
    let (value, ⟨rest, _⟩) ← readValue (skipSpace input)
    let rest := skipSpace rest
    if rest.isEmpty then return value else fail .nothingMore rest

end TextTemplate.Json
