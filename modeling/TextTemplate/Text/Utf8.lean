import TextTemplate.Text.Basic

/-!
# UTF-8

Bytes are read as UTF-8 one at a time. A fault names the bytes that cannot be read and the reason:
a byte that starts no character, one that does not continue the character before it, or an end in the
middle of a character. In the other direction only halves of surrogate pairs are at fault, since they have
no bytes.
-/

namespace TextTemplate

/-- Why bytes are not UTF-8. -/
inductive Utf8Reason where
  | invalidStart
  | invalidContinuation
  | unexpectedEnd
  deriving DecidableEq, Repr

/-- The bytes that are not UTF-8, from `start` up to `stop`. -/
structure Utf8Fault where
  start : Nat
  stop : Nat
  /-- The byte at `start`. -/
  byte : UInt8
  reason : Utf8Reason
  deriving DecidableEq, Repr

/-- The code points that have no bytes, from `start` up to `stop`. -/
structure EncodingFault where
  start : Nat
  stop : Nat
  /-- The code point at `start`. -/
  first : CodePoint
  deriving DecidableEq, Repr

def Utf8Reason.message : Utf8Reason → String
  | invalidStart => "invalid start byte"
  | invalidContinuation => "invalid continuation byte"
  | unexpectedEnd => "unexpected end of data"

namespace Text

/-- A character of which some bytes have been read. -/
structure PartialChar where
  start : Nat
  lead : UInt8
  owed : Nat
  /-- The least and the greatest byte that may come next. -/
  low : UInt8
  high : UInt8
  code : Nat

/-- What the first byte of a longer character announces. -/
def leadByte? (position : Nat) (b : UInt8) : Option PartialChar :=
  if 0xC2 ≤ b ∧ b ≤ 0xDF then some ⟨position, b, 1, 0x80, 0xBF, b.toNat - 0xC0⟩
  else if 0xE0 ≤ b ∧ b ≤ 0xEF then
    some ⟨position, b, 2, if b = 0xE0 then 0xA0 else 0x80, if b = 0xED then 0x9F else 0xBF,
      b.toNat - 0xE0⟩
  else if 0xF0 ≤ b ∧ b ≤ 0xF4 then
    some ⟨position, b, 3, if b = 0xF0 then 0x90 else 0x80, if b = 0xF4 then 0x8F else 0xBF,
      b.toNat - 0xF0⟩
  else none

/-- Read bytes from a position on, after the beginning of a character or between characters. -/
def decodeFrom (position : Nat) : Option PartialChar → List UInt8 → Except Utf8Fault (List Char)
  | none, [] => .ok []
  | some p, [] => .error ⟨p.start, position, p.lead, .unexpectedEnd⟩
  | none, b :: rest =>
    if b < 0x80 then (decodeFrom (position + 1) none rest).map (Char.ofNat b.toNat :: ·)
    else
      match leadByte? position b with
      | none => .error ⟨position, position + 1, b, .invalidStart⟩
      | some p => decodeFrom (position + 1) (some p) rest
  | some p, b :: rest =>
    if p.low ≤ b ∧ b ≤ p.high then
      let code := p.code * 64 + (b.toNat - 0x80)
      if p.owed = 1 then (decodeFrom (position + 1) none rest).map (Char.ofNat code :: ·)
      else
        decodeFrom (position + 1)
          (some { p with owed := p.owed - 1, low := 0x80, high := 0xBF, code := code }) rest
    else .error ⟨p.start, position, p.lead, .invalidContinuation⟩

def decodeUtf8 (bytes : List UInt8) : Except Utf8Fault (List Char) :=
  decodeFrom 0 none bytes

/-- What the first byte of a character comes to: the character, a sign that it is none, or the beginning of a
longer one. -/
def begun (b : UInt8) : List Char × Option PartialChar :=
  if b < 0x80 then ([Char.ofNat b.toNat], none)
  else
    match leadByte? 0 b with
    | none => (['\uFFFD'], none)
    | some p => ([], some p)

/-- Read bytes after the beginning of a character or between characters, with a sign in the place of what is
no character. -/
def decodeLossy : Option PartialChar → List UInt8 → List Char
  | none, [] => []
  | some _, [] => ['\uFFFD']
  | none, b :: rest => (begun b).1 ++ decodeLossy (begun b).2 rest
  | some p, b :: rest =>
    if p.low ≤ b ∧ b ≤ p.high then
      let code := p.code * 64 + (b.toNat - 0x80)
      if p.owed = 1 then Char.ofNat code :: decodeLossy none rest
      else decodeLossy (some { p with owed := p.owed - 1, low := 0x80, high := 0xBF, code := code }) rest
    else '\uFFFD' :: (begun b).1 ++ decodeLossy (begun b).2 rest

/-- What keeps a text from being encoded: the first half of a pair in it, and those right behind. -/
def encodingFault? (t : Text) : Option EncodingFault :=
  match t.dropWhile CodePoint.isChar with
  | [] => none
  | first :: rest =>
    let start := (t.takeWhile CodePoint.isChar).length
    some ⟨start, start + 1 + (rest.takeWhile fun c => !c.isChar).length, first⟩

/-- Line ends of two kinds made one: a carriage return, with or without a line feed after it, becomes
a line feed. -/
def unifyLineEnds : Text → Text
  | [] => []
  | '\r' :: '\n' :: rest => '\n' :: unifyLineEnds rest
  | '\r' :: rest => '\n' :: unifyLineEnds rest
  | c :: rest => c :: unifyLineEnds rest

end Text

end TextTemplate
