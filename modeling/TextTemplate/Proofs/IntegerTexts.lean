import Mathlib.Data.List.TakeWhile
import Mathlib.Tactic.Lemma
import TextTemplate.Text.Numeral

/-!
# Texts that spell integers

An integer may be spelled with digits of any script, with single underscores between them, a sign in front and
blanks around, as long as its digits are no more than can be read. These texts are read as the integers that they
spell, and no others are read at all.
-/

namespace TextTemplate.Text

/-- Digits of any script, with single underscores between them at will, and the values of the digits. -/
inductive IsDigits : Text → List Nat → Prop where
  | last {c : CodePoint} {d : Nat} (h : digitValue? c = some d) : IsDigits [c] [d]
  | next {c : CodePoint} {d : Nat} {t : Text} {ds : List Nat} (h : digitValue? c = some d) (rest : IsDigits t ds) :
      IsDigits (c :: t) (d :: ds)
  | underscore {c : CodePoint} {d : Nat} {t : Text} {ds : List Nat} (h : digitValue? c = some d)
      (rest : IsDigits t ds) : IsDigits (c :: '_' :: t) (d :: ds)

/-- Digits that are not too many, perhaps behind a sign, and the integer that they stand for. -/
inductive IsNumeral : Text → Int → Prop where
  | unsigned {t : Text} {ds : List Nat} (h : IsDigits t ds) (hcount : ds.length ≤ maxDigits) :
      IsNumeral t (ofDigits ds)
  | positive {t : Text} {ds : List Nat} (h : IsDigits t ds) (hcount : ds.length ≤ maxDigits) :
      IsNumeral ('+' :: t) (ofDigits ds)
  | negative {t : Text} {ds : List Nat} (h : IsDigits t ds) (hcount : ds.length ≤ maxDigits) :
      IsNumeral ('-' :: t) (-ofDigits ds)

/-- A numeral with nothing but blanks around it. -/
def Spells (t : Text) (k : Int) : Prop :=
  ∃ lead numeral trail, t = lead ++ numeral ++ trail ∧ (∀ c ∈ lead, isNumeralBlank c = true) ∧
    IsNumeral numeral k ∧ ∀ c ∈ trail, isNumeralBlank c = true

/-! ## Trimming a class of characters -/

section TrimOf

variable {p : CodePoint → Bool}

lemma dropWhile_of_none {t : Text} (h : ∀ c ∈ t, p c = false) : t.dropWhile p = t := by
  cases t with
  | nil => rfl
  | cons c rest => exact List.dropWhile_cons_of_neg (by simp [h c List.mem_cons_self])

lemma trimOf_between {lead t trail : Text} (hlead : ∀ c ∈ lead, p c = true) (ht : ∀ c ∈ t, p c = false)
    (htrail : ∀ c ∈ trail, p c = true) : trimOf p (lead ++ t ++ trail) = t := by
  have hreversed : ∀ c ∈ trail.reverse, p c = true := fun c hc => htrail c (List.mem_reverse.1 hc)
  have hend : trimEndOf p (t ++ trail) = t := by
    rw [trimEndOf, List.reverse_append, List.dropWhile_append_of_pos hreversed,
      dropWhile_of_none fun c hc => ht c (List.mem_reverse.1 hc), List.reverse_reverse]
  rw [trimOf, List.append_assoc, List.dropWhile_append_of_pos hlead]
  cases t with
  | nil =>
    have hnil : trail.dropWhile p = [] := List.dropWhile_eq_nil_iff.2 htrail
    rw [List.nil_append, hnil]
    rfl
  | cons c rest =>
    have hc : ¬ p c = true := by simp [ht c List.mem_cons_self]
    rw [List.cons_append, List.dropWhile_cons_of_neg hc, ← List.cons_append, hend]

lemma exists_around_trimOf (p : CodePoint → Bool) (t : Text) :
    ∃ lead trail, t = lead ++ trimOf p t ++ trail ∧ (∀ c ∈ lead, p c = true) ∧ ∀ c ∈ trail, p c = true := by
  let rest := t.dropWhile p
  refine ⟨t.takeWhile p, (rest.reverse.takeWhile p).reverse, ?_, fun c hc => List.mem_takeWhile_imp hc, ?_⟩
  · have hrest : trimEndOf p rest ++ (rest.reverse.takeWhile p).reverse = rest := by
      rw [trimEndOf, ← List.reverse_append, List.takeWhile_append_dropWhile, List.reverse_reverse]
    rw [trimOf, List.append_assoc, hrest, List.takeWhile_append_dropWhile]
  · intro c hc
    exact List.mem_takeWhile_imp (List.mem_reverse.1 hc)

end TrimOf

/-! ## Digits -/

lemma digitValue?_underscore : digitValue? '_' = none := by decide

lemma isBlank_of_digitValue? {c : CodePoint} {d : Nat} (h : digitValue? c = some d) : isBlank c = false := by
  have hsorted : blankRanges.Pairwise fun r s => r.1 ≤ s.1 := by decide
  have hapart : ∀ z ∈ digitZeros, ∀ r ∈ blankRanges, z + 10 ≤ r.1 ∨ r.2 < z := by decide
  obtain ⟨z, hfind, -⟩ := Option.map_eq_some_iff.1 h
  have hz := hapart z (List.mem_of_find?_eq_some hfind)
  have hdigit := List.find?_some hfind
  simp only [Bool.and_eq_true, decide_eq_true_eq] at hdigit
  rw [Bool.eq_false_iff]
  intro hblank
  obtain ⟨r, hr, hlow, hhigh⟩ := (inRanges_iff hsorted c.toNat).1 hblank
  have := hz r hr
  omega

lemma isNumeralBlank_of_digitValue? {c : CodePoint} {d : Nat} (h : digitValue? c = some d) :
    isNumeralBlank c = false := by
  rw [isNumeralBlank, isBlank_of_digitValue? h, Bool.false_and]

section IsDigits

variable {t : Text} {ds : List Nat}

lemma IsDigits.starts (h : IsDigits t ds) : ∃ c rest d, t = c :: rest ∧ digitValue? c = some d := by
  cases h with
  | last h => exact ⟨_, _, _, rfl, h⟩
  | next h rest => exact ⟨_, _, _, rfl, h⟩
  | underscore h rest => exact ⟨_, _, _, rfl, h⟩

lemma IsDigits.not_blank (h : IsDigits t ds) : ∀ c ∈ t, isNumeralBlank c = false := by
  have hunderscore : isNumeralBlank '_' = false := by decide
  induction h with
  | last h => simpa using isNumeralBlank_of_digitValue? h
  | next h rest ih => exact List.forall_mem_cons.2 ⟨isNumeralBlank_of_digitValue? h, ih⟩
  | underscore h rest ih =>
    exact List.forall_mem_cons.2 ⟨isNumeralBlank_of_digitValue? h, List.forall_mem_cons.2 ⟨hunderscore, ih⟩⟩

lemma IsDigits.ne_sign (h : IsDigits t ds) (rest : Text) : t ≠ .char '-' :: rest ∧ t ≠ .char '+' :: rest := by
  have hminus : digitValue? '-' = none := by decide
  have hplus : digitValue? '+' = none := by decide
  obtain ⟨c, others, d, rfl, hc⟩ := h.starts
  constructor
  · intro heq
    rw [(List.cons.inj heq).1, hminus] at hc
    cases hc
  · intro heq
    rw [(List.cons.inj heq).1, hplus] at hc
    cases hc

/-- The ASCII digit of a number below ten. -/
def digit (d : Nat) : CodePoint :=
  Nat.digitChar d

lemma digitValue?_digit {d : Nat} (h : d < 10) : digitValue? (digit d) = some d := by
  have hall : ∀ d < 10, digitValue? (digit d) = some d := by decide
  exact hall d h

lemma isDigits_map_digit (hne : ds ≠ []) (hds : ∀ d ∈ ds, d < 10) : IsDigits (ds.map digit) ds := by
  induction ds with
  | nil => exact absurd rfl hne
  | cons d rest ih =>
    obtain ⟨hd, hrest⟩ := List.forall_mem_cons.1 hds
    cases rest with
    | nil => exact .last (digitValue?_digit hd)
    | cons d' more => exact .next (digitValue?_digit hd) (ih (List.cons_ne_nil _ _) hrest)

theorem numeralDigits?_eq_some_iff : numeralDigits? t = some ds ↔ IsDigits t ds := by
  constructor
  · intro h
    fun_induction numeralDigits? t generalizing ds with
    | case1 => cases h
    | case2 c =>
      obtain ⟨d, hd, rfl⟩ := Option.map_eq_some_iff.1 h
      exact .last hd
    | case3 c rest ih =>
      obtain ⟨d, hd, h⟩ := Option.bind_eq_some_iff.1 h
      obtain ⟨others, hothers, h⟩ := Option.bind_eq_some_iff.1 h
      obtain rfl := Option.some.inj h
      exact .underscore hd (ih hothers)
    | case4 c rest _ _ ih =>
      obtain ⟨d, hd, h⟩ := Option.bind_eq_some_iff.1 h
      obtain ⟨others, hothers, h⟩ := Option.bind_eq_some_iff.1 h
      obtain rfl := Option.some.inj h
      exact .next hd (ih hothers)
  · intro h
    induction h with
    | last h => rw [numeralDigits?, h, Option.map_some]
    | @next c d t ds h rest ih =>
      obtain ⟨c', others, d', rfl, hc'⟩ := rest.starts
      rw [numeralDigits?, h, ih]
      · rfl
      · simp
      · intro later heq
        rw [(List.cons.inj heq).1, digitValue?_underscore] at hc'
        cases hc'
    | underscore h rest ih =>
      rw [numeralDigits?, h, ih]
      rfl

lemma readNatural?_eq_some_iff {n : Nat} :
    readNatural? t = some n ↔ ∃ ds, IsDigits t ds ∧ ds.length ≤ maxDigits ∧ ofDigits ds = n := by
  unfold readNatural?
  constructor
  · intro h
    obtain ⟨ds, hds, h⟩ := Option.bind_eq_some_iff.1 h
    obtain ⟨_, hguard, h⟩ := Option.bind_eq_some_iff.1 h
    have hcount : ds.length ≤ maxDigits := by
      by_contra hlong
      have hnone : (guard (ds.length ≤ maxDigits) : Option Unit) = none := if_neg hlong
      rw [hnone] at hguard
      cases hguard
    exact ⟨ds, numeralDigits?_eq_some_iff.1 hds, hcount, Option.some.inj h⟩
  · rintro ⟨ds, hds, hcount, rfl⟩
    have hguard : (guard (ds.length ≤ maxDigits) : Option Unit) = some () := if_pos hcount
    rw [numeralDigits?_eq_some_iff.2 hds, Option.bind_eq_bind, Option.bind_some, hguard]
    rfl

end IsDigits

/-! ## Integers -/

lemma IsNumeral.not_blank {t : Text} {k : Int} (h : IsNumeral t k) : ∀ c ∈ t, isNumeralBlank c = false := by
  cases h with
  | unsigned h => exact h.not_blank
  | positive h => exact List.forall_mem_cons.2 ⟨by decide, h.not_blank⟩
  | negative h => exact List.forall_mem_cons.2 ⟨by decide, h.not_blank⟩

/-- A text is read as an integer exactly if it spells it. -/
theorem readInteger?_eq_some_iff {t : Text} {k : Int} : readInteger? t = some k ↔ Spells t k := by
  constructor
  · intro h
    obtain ⟨lead, trail, heq, hlead, htrail⟩ := exists_around_trimOf isNumeralBlank t
    refine ⟨lead, trimOf isNumeralBlank t, trail, heq, hlead, ?_, htrail⟩
    unfold readInteger? at h
    split at h
    · next digits hsign =>
      obtain ⟨_, hread, rfl⟩ := Option.map_eq_some_iff.1 h
      obtain ⟨n, hn, hread⟩ := Option.bind_eq_some_iff.1 hread
      obtain ⟨ds, hds, hcount, rfl⟩ := readNatural?_eq_some_iff.1 hn
      obtain rfl := Option.some.inj hread
      rw [hsign]
      exact .negative hds hcount
    · next digits hsign =>
      obtain ⟨n, hn, rfl⟩ := Option.map_eq_some_iff.1 h
      obtain ⟨ds, hds, hcount, rfl⟩ := readNatural?_eq_some_iff.1 hn
      rw [hsign]
      exact .positive hds hcount
    · obtain ⟨n, hn, rfl⟩ := Option.map_eq_some_iff.1 h
      obtain ⟨ds, hds, hcount, rfl⟩ := readNatural?_eq_some_iff.1 hn
      exact .unsigned hds hcount
  · rintro ⟨lead, numeral, trail, rfl, hlead, hnumeral, htrail⟩
    unfold readInteger?
    rw [trimOf_between hlead hnumeral.not_blank htrail]
    cases hnumeral with
    | @unsigned _ ds h hcount =>
      -- No digit is a sign, so only the last case of the reader is left.
      have hread := readNatural?_eq_some_iff.2 ⟨ds, h, hcount, rfl⟩
      split
      · next digits => exact absurd rfl (h.ne_sign digits).1
      · next digits => exact absurd rfl (h.ne_sign digits).2
      · rw [hread]
        rfl
    | @positive t ds h hcount =>
      have hread := readNatural?_eq_some_iff.2 ⟨ds, h, hcount, rfl⟩
      change (readNatural? t).map Int.ofNat = _
      rw [hread]
      rfl
    | @negative t ds h hcount =>
      have hread := readNatural?_eq_some_iff.2 ⟨ds, h, hcount, rfl⟩
      change Option.map (fun n => -n) (do return ((← readNatural? t : Nat) : Int)) = _
      rw [hread]
      rfl

lemma readInteger?_eq_none_iff {t : Text} : readInteger? t = none ↔ ∀ k, ¬ Spells t k := by
  simp only [Option.eq_none_iff_forall_ne_some, ne_eq, readInteger?_eq_some_iff]

lemma spells_map_digit {ds : List Nat} (hne : ds ≠ []) (hds : ∀ d ∈ ds, d < 10)
    (hcount : ds.length ≤ maxDigits) : Spells (ds.map digit) (ofDigits ds) :=
  ⟨[], _, [], (List.append_nil _).symm, by simp, .unsigned (isDigits_map_digit hne hds) hcount, by simp⟩

end TextTemplate.Text
