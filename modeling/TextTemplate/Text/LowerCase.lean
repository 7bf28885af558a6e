import TextTemplate.Text.Basic

/-!
# Lower case

The lower case of letters, as far as it lies in the Latin-1 range: two texts of which one is written
in lower-case letters of that range can be compared through it without regard to case.
-/

namespace TextTemplate.Text

/-- The capital letters outside the Latin-1 range whose lower case lies in it: Y with diaeresis, sharp
S, and the signs for kelvin and angstrom. -/
def distantCapitals : List (CodePoint × CodePoint) :=
  [('\u0178', 'ÿ'), ('\u1e9e', 'ß'), ('\u212a', 'k'), ('\u212b', 'å')]

/-- The capital letters that stand 32 code points before their lower case. -/
def capitalRanges : List (Nat × Nat) :=
  [(0x41, 0x5A), (0xC0, 0xD6), (0xD8, 0xDE)]

/-- The lower case of a character, where it lies in the Latin-1 range; else the character itself. -/
def lowerChar (c : CodePoint) : CodePoint :=
  if inRanges capitalRanges c.toNat then CodePoint.ofNat (c.toNat + 32)
  else (distantCapitals.lookup c).getD c

def lower (t : Text) : Text :=
  t.map lowerChar

end TextTemplate.Text
