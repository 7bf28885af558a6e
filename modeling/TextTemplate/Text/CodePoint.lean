/-!
# Code points

What texts are made of. A code point is a character, or half of a surrogate pair that stands alone: an escape in
a JSON text or a byte of a word may come to such a half, and no encoding has bytes for it.
-/

namespace TextTemplate

/-- A unit of text. -/
inductive CodePoint where
  | char (c : Char)
  /-- The code unit `0xD800 + n`, without the other half of its pair. -/
  | half (n : Fin 0x800)
  deriving DecidableEq, Repr

instance : Coe Char CodePoint := ⟨CodePoint.char⟩

namespace CodePoint

def toNat : CodePoint → Nat
  | char c => c.toNat
  | half n => 0xD800 + n

/-- The code point of a number. -/
def ofNat (n : Nat) : CodePoint :=
  if h : 0xD800 ≤ n ∧ n < 0xE000 then half ⟨n - 0xD800, by omega⟩ else char (Char.ofNat n)

/-- The character that a code point is, if it is one. -/
def char? : CodePoint → Option Char
  | char c => some c
  | half _ => none

def isChar (c : CodePoint) : Bool :=
  c.char?.isSome

/-- The bytes of a code point in a path. Half a pair is how a byte that encodes nothing is read there. -/
def bytes : CodePoint → List UInt8
  | char c => String.utf8EncodeChar c
  | half n => [UInt8.ofNat n]

/-- Change the character that a code point is, if it is one. -/
def mapChar (f : Char → Char) : CodePoint → CodePoint
  | char c => char (f c)
  | half n => half n

/-- Code points are in the order of their numbers. -/
instance : LE CodePoint := ⟨fun a b => a.toNat ≤ b.toNat⟩

instance (a b : CodePoint) : Decidable (a ≤ b) :=
  inferInstanceAs (Decidable (a.toNat ≤ b.toNat))

/-- Whether a code point is one of the ten ASCII digits. -/
def isDigit (c : CodePoint) : Bool :=
  '0' ≤ c && c ≤ '9'

end CodePoint

/-- A piece of text, code point by code point. -/
abbrev Text := List CodePoint

/-- Characters as a text. -/
def Text.ofChars (cs : List Char) : Text :=
  cs.map .char

theorem Text.ofChars_append (cs cs' : List Char) : Text.ofChars (cs ++ cs') = .ofChars cs ++ .ofChars cs' :=
  List.map_append

end TextTemplate

/-- A string as a text. -/
def String.text (s : String) : TextTemplate.Text :=
  .ofChars s.toList

namespace TextTemplate

instance : Coe String Text := ⟨String.text⟩

end TextTemplate
