import TextTemplate.Text.CodePoint

/-!
# Text

Templates, markers and rendered output are texts. This file holds the set of blank characters, trimming,
and the count of line breaks.
-/

namespace TextTemplate

namespace Text

/-- The ranges of code points that count as white space. The four information separators and the
next-line control belong to it; the zero-width space and the byte order mark do not. -/
def blankRanges : List (Nat × Nat) :=
  [(0x09, 0x0D), (0x1C, 0x20), (0x85, 0x85), (0xA0, 0xA0), (0x1680, 0x1680),
    (0x2000, 0x200A), (0x2028, 0x2029), (0x202F, 0x202F), (0x205F, 0x205F), (0x3000, 0x3000)]

/-- Whether a code point lies in one of some ranges, which are in ascending order: none that starts
behind it needs to be looked at. -/
def inRanges : List (Nat × Nat) → Nat → Bool
  | [], _ => false
  | (first, last) :: rest, n => first ≤ n && (n ≤ last || inRanges rest n)

theorem inRanges_iff {ranges : List (Nat × Nat)} (h : ranges.Pairwise fun r s => r.1 ≤ s.1) (n : Nat) :
    inRanges ranges n = true ↔ ∃ r ∈ ranges, r.1 ≤ n ∧ n ≤ r.2 := by
  induction ranges with
  | nil => simp [inRanges]
  | cons r rest ih =>
    obtain ⟨hr, hrest⟩ := List.pairwise_cons.mp h
    have hlater : (∃ s ∈ rest, s.1 ≤ n ∧ n ≤ s.2) → r.1 ≤ n := by
      rintro ⟨s, hs, hn, -⟩
      exact Nat.le_trans (hr s hs) hn
    simp only [inRanges, Bool.and_eq_true, Bool.or_eq_true, decide_eq_true_eq, ih hrest,
      List.mem_cons, exists_eq_or_imp]
    constructor
    · rintro ⟨hn, hn' | hs⟩
      · exact .inl ⟨hn, hn'⟩
      · exact .inr hs
    · rintro (⟨hn, hn'⟩ | hs)
      · exact ⟨hn, .inl hn'⟩
      · exact ⟨hlater hs, .inr hs⟩

/-- White space, in the sense used for trimming. -/
def isBlank (c : CodePoint) : Bool :=
  inRanges blankRanges c.toNat

/-- Drop the characters of a class from the back. -/
def trimEndOf (p : CodePoint → Bool) (t : Text) : Text :=
  (t.reverse.dropWhile p).reverse

/-- Drop the characters of a class from both sides. -/
def trimOf (p : CodePoint → Bool) (t : Text) : Text :=
  trimEndOf p (t.dropWhile p)

def trimEnd (t : Text) : Text :=
  trimEndOf isBlank t

def trim (t : Text) : Text :=
  trimOf isBlank t

/-- The number of line breaks in a text; only the line feed counts. -/
def lineBreaks (t : Text) : Nat :=
  t.count (.char '\n')

@[simp] theorem lineBreaks_nil : lineBreaks [] = 0 := rfl

@[simp] theorem lineBreaks_append (s t : Text) :
    lineBreaks (s ++ t) = lineBreaks s + lineBreaks t :=
  List.count_append

/-- The parts of a text between the characters of a class: the first part and the others. -/
def splitWhere (p : CodePoint → Bool) : Text → Text × List Text
  | [] => ([], [])
  | c :: rest =>
    let (first, others) := splitWhere p rest
    if p c then ([], first :: others) else (c :: first, others)

def intercalate (separator : Text) : List Text → Text
  | [] => []
  | [t] => t
  | t :: rest => t ++ separator ++ intercalate separator rest

/-- Whether a text comes no later than another in the order of code points. -/
def notAfter : Text → Text → Bool
  | [], _ => true
  | _ :: _, [] => false
  | a :: s, b :: t => a.toNat < b.toNat || (a == b && notAfter s t)

end Text

end TextTemplate
