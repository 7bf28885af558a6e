import TextTemplate.Text.Printable

/-!
# Quoted text

Inside a container a text is shown between quotes: single ones, unless it holds a single quote and no
double one. The quote in use, the backslash, and characters that are not printable are escaped.
Byte strings are shown alike, with every byte outside printable ASCII escaped.
-/

namespace TextTemplate.Text

/-- A number in lower-case hexadecimal, padded with zeros. -/
def hex (width n : Nat) : Text :=
  let digits : Text := .ofChars (Nat.toDigits 16 n)
  List.replicate (width - digits.length) (.char '0') ++ digits

def quoteFor (t : Text) : CodePoint :=
  if t.contains '\'' && !t.contains '"' then '"' else '\''

/-- The escape of a character that has a short one of its own. -/
def shortEscape? (quote c : CodePoint) : Option Text :=
  if c == quote || c == .char '\\' then some ['\\', c]
  else if c == .char '\n' then some ['\\', 'n']
  else if c == .char '\r' then some ['\\', 'r']
  else if c == .char '\t' then some ['\\', 't']
  else none

/-- The escape of a character by its code, in two, four or eight digits. -/
def codeEscape (c : CodePoint) : Text :=
  let n := c.toNat
  if n < 0x100 then '\\' :: 'x' :: hex 2 n
  else if n < 0x10000 then '\\' :: 'u' :: hex 4 n
  else '\\' :: 'U' :: hex 8 n

/-- A text with an escape in the place of what cannot be encoded. -/
def backslashed (t : Text) : Text :=
  t.flatMap fun c => if c.isChar then [c] else codeEscape c

def quotedChar (quote c : CodePoint) : Text :=
  match shortEscape? quote c with
  | some escape => escape
  | none => if isPrintable c then [c] else codeEscape c

def quoted (t : Text) : Text :=
  let quote := quoteFor t
  quote :: t.flatMap (quotedChar quote) ++ [quote]

/-- A byte inside quotes, where `quote` is the quote that is escaped. -/
def quotedByte (quote : CodePoint) (b : UInt8) : Text :=
  let c := CodePoint.ofNat b.toNat
  match shortEscape? quote c with
  | some escape => escape
  | none => if 0x20 ≤ b ∧ b < 0x7F then [c] else '\\' :: 'x' :: hex 2 b.toNat

def quoteForBytes (bytes : List UInt8) : CodePoint :=
  quoteFor (bytes.map fun b => CodePoint.ofNat b.toNat)

def quotedBytes (bytes : List UInt8) : Text :=
  let quote := quoteForBytes bytes
  quote :: bytes.flatMap (quotedByte quote) ++ [quote]

/-- The bytes of a byte array between quotes: a single quote is escaped between double ones too. -/
def quotedByteArray (bytes : List UInt8) : Text :=
  let quote := quoteForBytes bytes
  quote :: bytes.flatMap (quotedByte '\'') ++ [quote]

end TextTemplate.Text
