import TextTemplate.Text.Basic

/-!
# Faults in JSON texts

A fault says what was expected and where. While a text is read, a place is known by the number of
characters that are left there; a message gives the line, the column and the offset.
-/

namespace TextTemplate.Json

/-- What a JSON text was expected to hold. -/
inductive Expectation where
  | value
  | propertyName
  | colon
  | comma
  | nothingMore
  | endOfString
  | plainCharacter
  | escape
  | unicodeEscape
  | noByteOrderMark
  deriving DecidableEq, Repr

def Expectation.message : Expectation → String
  | value => "Expecting value"
  | propertyName => "Expecting property name enclosed in double quotes"
  | colon => "Expecting ':' delimiter"
  | comma => "Expecting ',' delimiter"
  | nothingMore => "Extra data"
  | endOfString => "Unterminated string starting at"
  | plainCharacter => "Invalid control character at"
  | escape => "Invalid \\escape"
  | unicodeEscape => "Invalid \\uXXXX escape"
  | noByteOrderMark => "Unexpected UTF-8 BOM (decode using utf-8-sig)"

/-- Why a text is not read as JSON. -/
inductive Fault where
  /-- Something else was expected where `left` characters are left. -/
  | malformed (expected : Expectation) (left : Nat)
  /-- An integer has too many digits to be read. -/
  | tooManyDigits (count : Nat)
  deriving DecidableEq, Repr

/-- A place in a text, as a message gives it: the line and the column, counted from one, and the
offset, counted from zero. -/
def place (input : Text) (offset : Nat) : String :=
  let before : Text := input.take offset
  let column := (before.reverse.takeWhile (· != .char '\n')).length + 1
  s!"line {before.lineBreaks + 1} column {column} (char {offset})"

def malformedMessage (input : Text) (expected : Expectation) (left : Nat) : String :=
  s!"{expected.message}: {place input (input.length - left)}"

end TextTemplate.Json
