import TextTemplate.Proofs.IntegerTexts

/-!
# Numerals and the limit of their digits

An integer is written unless it has more than 4300 digits, and what is read has no more. So the numbers that
are read are written again, but one more than the largest of them is not.
-/

namespace TextTemplate.Text

/-- The least number that takes more than so many digits. -/
def beyond (digits : Nat) : Nat :=
  Nat.pow 10 digits

lemma beyond_zero : beyond 0 = 1 := rfl

lemma beyond_succ (n : Nat) : beyond (n + 1) = 10 * beyond n :=
  Nat.mul_comm _ _

lemma beyond_mono {a b : Nat} (h : a ≤ b) : beyond a ≤ beyond b :=
  Nat.pow_le_pow_right (by decide) h

lemma length_decimal_le_iff {n digits : Nat} (h : 0 < digits) :
    (decimal n).length ≤ digits ↔ n < beyond digits := by
  rw [decimal, ofChars, List.length_map]
  exact Nat.length_toDigits_le_iff (by decide) h

lemma maxDigits_pos : 0 < maxDigits := by decide

lemma writeInteger?_isSome {n : Int} (h : n.natAbs < beyond maxDigits) : (writeInteger? n).isSome = true := by
  unfold writeInteger?
  dsimp only
  rw [if_pos ((length_decimal_le_iff maxDigits_pos).2 h)]
  rfl

lemma writeInteger?_eq_none {n : Int} (h : beyond maxDigits ≤ n.natAbs) : writeInteger? n = none := by
  have hlong : ¬ (decimal n.natAbs).length ≤ maxDigits := by
    rw [length_decimal_le_iff maxDigits_pos]
    omega
  unfold writeInteger?
  dsimp only
  rw [if_neg hlong]

lemma ofDigits_lt {digits : List Nat} (h : ∀ d ∈ digits, d < 10) :
    ofDigits digits < beyond digits.length := by
  have hfold : ∀ (ds : List Nat) (a : Nat), (∀ d ∈ ds, d < 10) →
      ds.foldl (fun n d => 10 * n + d) a < (a + 1) * beyond ds.length := by
    intro ds
    induction ds with
    | nil => simp [beyond_zero]
    | cons d rest ih =>
      intro a hds
      have hd := hds d List.mem_cons_self
      have hrest := ih (10 * a + d) fun d' hd' => hds d' (List.mem_cons_of_mem _ hd')
      have hle : (10 * a + d + 1) * beyond rest.length ≤ 10 * (a + 1) * beyond rest.length :=
        Nat.mul_le_mul_right _ (by omega)
      rw [List.foldl_cons, List.length_cons, beyond_succ, ← Nat.mul_assoc, Nat.mul_comm (a + 1)]
      exact Nat.lt_of_lt_of_le hrest hle
  have hlt := hfold digits 0 h
  rwa [Nat.zero_add, Nat.one_mul] at hlt

/-! ## Nines -/

lemma ofDigits_replicate (n : Nat) : ofDigits (List.replicate n 9) + 1 = beyond n := by
  have hfold : ∀ (n a : Nat),
      (List.replicate n 9).foldl (fun n d => 10 * n + d) a + 1 = (a + 1) * beyond n := by
    intro n
    induction n with
    | zero => simp [beyond_zero]
    | succ n ih =>
      intro a
      have hnext : 10 * a + 9 + 1 = (a + 1) * 10 := by omega
      rw [List.replicate_succ, List.foldl_cons, ih, beyond_succ, hnext, Nat.mul_assoc]
  have heq := hfold n 0
  rwa [Nat.zero_add, Nat.one_mul] at heq

lemma readInteger?_nines :
    ∃ n : Nat, readInteger? (List.replicate maxDigits '9') = some (Int.ofNat n) ∧ n + 1 = beyond maxDigits := by
  refine ⟨ofDigits (List.replicate maxDigits 9), ?_, ofDigits_replicate maxDigits⟩
  have hlength : (List.replicate maxDigits 9).length = maxDigits := List.length_replicate
  have hne : List.replicate maxDigits 9 ≠ [] := by
    rw [← List.length_pos_iff, hlength]
    exact maxDigits_pos
  have hnines : ∀ d ∈ List.replicate maxDigits 9, d < 10 := by
    intro d hd
    rw [List.eq_of_mem_replicate hd]
    decide
  have hspells := spells_map_digit hne hnines (Nat.le_of_eq hlength)
  rw [List.map_replicate] at hspells
  exact readInteger?_eq_some_iff.2 hspells

end TextTemplate.Text
