import Mathlib.Data.List.Forall2
import TextTemplate.Proofs.JsonData
import TextTemplate.Proofs.Paths

/-!
# Keys as path segments

The position of an item is written in decimal digits, and these are read as the same position again; the key
of an entry is found as it stands. So what a loop walks under a key is what a path leads to by that key.
-/

namespace TextTemplate

namespace Text

/-! ## Decimal numerals -/

lemma ofDigits_concat (ds : List Nat) (d : Nat) : ofDigits (ds ++ [d]) = 10 * ofDigits ds + d := by
  rw [ofDigits, List.foldl_append]
  rfl

lemma exists_digits (n : Nat) :
    ∃ ds, ds ≠ [] ∧ (∀ d ∈ ds, d < 10) ∧ ofDigits ds = n ∧ decimal n = ds.map digit := by
  induction n using Nat.strongRecOn with
  | ind n ih =>
    by_cases hn : n < 10
    · refine ⟨[n], List.cons_ne_nil _ _, by simpa using hn, ?_, ?_⟩
      · exact (ofDigits_concat [] n).trans (by simp [ofDigits])
      · exact congrArg ofChars (Nat.toDigits_of_lt_base hn)
    · obtain ⟨ds, hne, hds, hvalue, hwritten⟩ := ih (n / 10) (by omega)
      refine ⟨ds ++ [n % 10], by simp, ?_, ?_, ?_⟩
      · intro d hd
        rcases List.mem_append.1 hd with hd | hd
        · exact hds d hd
        · rw [List.mem_singleton.1 hd]
          omega
      · rw [ofDigits_concat, hvalue]
        omega
      · rw [decimal, Nat.toDigits_of_base_le (by decide) (by omega), ofChars_append, List.map_append, ← hwritten]
        rfl

lemma mem_decimal {n : Nat} {c : CodePoint} (h : c ∈ decimal n) : ∃ d < 10, c = digit d := by
  obtain ⟨ds, -, hds, -, hwritten⟩ := exists_digits n
  rw [hwritten] at h
  obtain ⟨d, hd, rfl⟩ := List.mem_map.1 h
  exact ⟨d, hds d hd, rfl⟩

lemma decimal_isClean (n : Nat) : (decimal n).IsClean := by
  have hblank : ∀ d < 10, isBlank (digit d) = false := by decide
  have havoids : ∀ d < 10, ∀ k ∈ MarkerName.all, digit d ∉ (Markers.default.get k).text := by decide
  refine ⟨⟨?_, ?_⟩, fun h => Nat.toDigits_ne_nil (List.map_eq_nil_iff.1 h)⟩
  · intro c hc
    obtain ⟨d, hd, rfl⟩ := mem_decimal hc
    exact hblank d hd
  · intro k c hc
    obtain ⟨d, hd, rfl⟩ := mem_decimal hc
    exact havoids d hd k (MarkerName.mem_all k)

lemma spells_decimal {n : Nat} (h : n < beyond maxDigits) : Spells (decimal n) n := by
  obtain ⟨ds, hne, hds, rfl, hwritten⟩ := exists_digits n
  have hcount : ds.length ≤ maxDigits := by
    have hlength := (length_decimal_le_iff maxDigits_pos).2 h
    rwa [hwritten, List.length_map] at hlength
  rw [hwritten]
  exact spells_map_digit hne hds hcount

end Text

namespace Value

/-! ## What a key leads to -/

/-- The keys under which the items of a list or the entries of a mapping are walked. Those of a mapping are
distinct, as those of any mapping are; a list is not so long that a position has too many digits to be read. -/
inductive HasKeys : Value → List Text → Prop
  | list {items : List Value} (hcount : items.length ≤ Text.beyond Text.maxDigits) :
      HasKeys (.list items) ((List.range items.length).map Text.decimal)
  | map {entries : List (Text × Value)} (hdistinct : (entries.map (·.1)).Nodup)
      (hclean : ∀ key ∈ entries.map (·.1), key.IsClean) :
      HasKeys (.map (entries.map fun entry => (.text entry.1, entry.2))) (entries.map (·.1))

section HasKeys

variable {target : Value} {keys : List Text}

lemma HasKeys.clean (h : target.HasKeys keys) : ∀ key ∈ keys, key.IsClean := by
  cases h with
  | list hcount =>
    intro key hkey
    obtain ⟨i, -, rfl⟩ := List.mem_map.1 hkey
    exact Text.decimal_isClean i
  | map hdistinct hclean => exact hclean

lemma valueAt?_text {entries : List (Text × Value)} (hdistinct : (entries.map (·.1)).Nodup)
    {entry : Text × Value} (hentry : entry ∈ entries) :
    valueAt? (.text entry.1) (entries.map fun e => (.text e.1, e.2)) = some entry.2 := by
  induction entries with
  | nil => cases hentry
  | cons first rest ih =>
    rw [List.map_cons, List.nodup_cons] at hdistinct
    rw [valueAt?, List.map_cons, List.find?_cons]
    by_cases hsame : first.1 = entry.1
    · obtain rfl : entry = first := by
        rcases List.mem_cons.1 hentry with rfl | hlater
        · rfl
        · rw [hsame] at hdistinct
          exact absurd (List.mem_map_of_mem hlater) hdistinct.1
      simp [sameKey]
    · have hlater : entry ∈ rest := by
        rcases List.mem_cons.1 hentry with rfl | hlater
        · exact absurd rfl hsame
        · exact hlater
      have hkey : sameKey (.text first.1) (.text entry.1) = false := by simpa [sameKey] using hsame
      dsimp only
      rw [hkey]
      exact ih hdistinct.2 hlater

lemma HasKeys.pairs (h : target.HasKeys keys) :
    ∃ pairs, target.pairs? [] = some pairs ∧
      List.Forall₂ (fun key pair => target.child? key = .ok (some pair.2)) keys pairs := by
  cases h with
  | @list items hcount =>
    refine ⟨enumerated items, rfl, ?_⟩
    have hkeys : (List.range items.length).map Text.decimal =
        items.zipIdx.map fun pair => Text.decimal pair.2 := by
      rw [List.range_eq_range', ← List.zipIdx_map_snd, List.map_map]
      rfl
    rw [hkeys, enumerated, List.forall₂_map_left_iff, List.forall₂_map_right_iff, List.forall₂_same]
    rintro ⟨v, i⟩ hmem
    obtain ⟨hlt, hget⟩ := List.mem_zipIdx' hmem
    have hread := Text.readInteger?_eq_some_iff.2 (Text.spells_decimal (Nat.lt_of_lt_of_le hlt hcount))
    have hitem : itemAt? items (i : Int) = some v := by
      rw [itemAt?, if_pos (Int.natCast_nonneg i), Int.toNat_natCast, List.getElem?_eq_getElem hlt, hget]
    dsimp only
    rw [child?, hread, Option.bind_some, hitem]
  | @map entries hdistinct hclean =>
    refine ⟨_, rfl, ?_⟩
    rw [List.forall₂_map_left_iff, List.forall₂_map_right_iff, List.forall₂_same]
    intro entry hentry
    rw [child?, valueAt?_text hdistinct hentry, Option.some_or]

end HasKeys

end Value

end TextTemplate
