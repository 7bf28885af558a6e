import TextTemplate.Text.Basic

/-!
# Similar texts

Two texts are compared by their common blocks: the longest common block, the earliest of several,
then the same on either side of it. The ratio of the characters in blocks to all characters says how
similar the texts are.
-/

namespace TextTemplate.Text

/-- The length of the common beginning of two texts. -/
def commonStart : Text → Text → Nat
  | a :: as, b :: bs => if a = b then commonStart as bs + 1 else 0
  | _, _ => 0

theorem commonStart_le_left (s t : Text) : commonStart s t ≤ s.length := by
  induction s generalizing t with
  | nil => simp [commonStart]
  | cons a as ih =>
    cases t with
    | nil => simp [commonStart]
    | cons b bs =>
      have := ih bs
      simp only [commonStart, List.length_cons]
      split <;> omega

/-- A block that two texts have in common: where it starts in each, and its length. -/
structure CommonBlock where
  left : Nat
  right : Nat
  length : Nat
  deriving DecidableEq, Repr

/-- The longest common block of two texts, the earliest of several. -/
def longestBlock (s t : Text) : CommonBlock :=
  let starts := (List.range s.length).flatMap fun i => (List.range t.length).map fun j => (i, j)
  starts.foldl
    (fun best (i, j) =>
      let n := commonStart (s.drop i) (t.drop j)
      if best.length < n then ⟨i, j, n⟩ else best)
    ⟨0, 0, 0⟩

/-- The number of characters in the common blocks of two texts, found to a given depth. -/
def blockCharacters : Nat → Text → Text → Nat
  | 0, _, _ => 0
  | depth + 1, s, t =>
    let block := longestBlock s t
    if block.length = 0 then 0
    else
      blockCharacters depth (s.take block.left) (t.take block.right) + block.length +
        blockCharacters depth (s.drop (block.left + block.length))
          (t.drop (block.right + block.length))

/-- How many characters two texts have in common blocks, of how many in both. -/
def similarity (s t : Text) : Nat × Nat :=
  (2 * blockCharacters (s.length + 1) s t, s.length + t.length)

/-- Whether the first of two ratios is the greater one. -/
def ratioGt (p q : Nat × Nat) : Bool :=
  q.1 * p.2 < p.1 * q.2

def maxSimilar : Nat := 3

/-- The candidates that are most similar to a word, if at least three fifths of it is. -/
def similarTo (word : Text) (candidates : List Text) : List Text :=
  let rated := candidates.map fun c => (similarity c word, c)
  let close := rated.filter fun ((part, whole), _) => 3 * whole ≤ 5 * part
  let before (a b : (Nat × Nat) × Text) : Bool :=
    ratioGt a.1 b.1 || (!ratioGt b.1 a.1 && notAfter b.2 a.2)
  ((close.mergeSort before).take maxSimilar).map (·.2)

end TextTemplate.Text
