import Mathlib.Data.List.DropRight
import Mathlib.Tactic.Lemma
import TextTemplate.Text.Basic

/-!
# Trimming

Blanks at the front and at the back are dropped independently of each other, and a marker at the front of
what is left was there before.
-/

namespace TextTemplate.Text

lemma trimEnd_eq_nil_iff {t : Text} : trimEnd t = [] ↔ ∀ c ∈ t, isBlank c = true :=
  List.rdropWhile_eq_nil_iff

lemma trimEnd_isPrefix (t : Text) : trimEnd t <+: t :=
  List.rdropWhile_prefix isBlank (l := t)

lemma trimEnd_append (a b : Text) :
    trimEnd (a ++ b) = if trimEnd b = [] then trimEnd a else a ++ trimEnd b := by
  unfold trimEnd trimEndOf
  rw [List.reverse_append, List.dropWhile_append]
  by_cases hb : b.reverse.dropWhile isBlank = []
  · rw [hb]
    rfl
  · rw [if_neg (by simpa using hb), if_neg (by simpa using hb), List.reverse_append,
      List.reverse_reverse]

lemma trimEnd_cons_of_not_blank {c : CodePoint} (hc : isBlank c = false) (t : Text) :
    trimEnd (c :: t) = c :: trimEnd t := by
  have hsplit := trimEnd_append [c] t
  have hsingle : trimEnd [c] = [c] := by simp [trimEnd, trimEndOf, hc]
  rw [hsingle, List.singleton_append] at hsplit
  rw [hsplit]
  split
  · next ht => rw [ht]
  · rfl

lemma trim_cons_of_blank {c : CodePoint} (hc : isBlank c = true) (t : Text) : trim (c :: t) = trim t := by
  unfold trim trimOf
  rw [List.dropWhile_cons_of_pos hc]

lemma trim_cons_of_not_blank {c : CodePoint} (hc : isBlank c = false) (t : Text) :
    trim (c :: t) = c :: trimEnd t := by
  rw [← trimEnd_cons_of_not_blank hc]
  unfold trim trimOf
  rw [List.dropWhile_cons_of_neg (by simp [hc])]
  rfl

lemma isBlank_of_trim_eq_cons {t rest : Text} {c : CodePoint} (h : t.trim = c :: rest) :
    isBlank c = false := by
  have hprefix : c :: rest <+: t.dropWhile isBlank := by
    rw [← h]
    exact trimEnd_isPrefix _
  obtain ⟨after, hafter⟩ := hprefix
  have hhead := List.head?_dropWhile_not isBlank t
  rw [← hafter] at hhead
  simpa using hhead

lemma trim_trimEnd (t : Text) : trim (trimEnd t) = trim t := by
  induction t with
  | nil => rfl
  | cons c rest ih =>
    by_cases hc : isBlank c = true
    · rw [trim_cons_of_blank hc, ← ih, ← List.singleton_append, trimEnd_append]
      split
      · next hrest =>
        have hblank : trimEnd [c] = [] := trimEnd_eq_nil_iff.2 (by simpa using hc)
        rw [hrest, hblank]
      · rw [List.singleton_append, trim_cons_of_blank hc]
    · have hc : isBlank c = false := by simpa using hc
      rw [trimEnd_cons_of_not_blank hc, trim_cons_of_not_blank hc, trim_cons_of_not_blank hc]
      congr 1
      exact List.rdropWhile_idempotent isBlank rest

lemma trim_append_blank {pad : Text} (hpad : ∀ c ∈ pad, isBlank c = true) (t : Text) :
    trim (t ++ pad) = trim t := by
  rw [← trim_trimEnd, trimEnd_append, if_pos (trimEnd_eq_nil_iff.2 hpad), trim_trimEnd]

lemma trim_blank_append {pad : Text} (hpad : ∀ c ∈ pad, isBlank c = true) (t : Text) :
    trim (pad ++ t) = trim t := by
  induction pad with
  | nil => rfl
  | cons c rest ih =>
    rw [List.cons_append, trim_cons_of_blank (hpad c List.mem_cons_self)]
    exact ih fun d hd => hpad d (List.mem_cons_of_mem c hd)

lemma trim_drop_of_isPrefix {marker t : Text} (hmarker : marker ≠ []) (h : marker <+: (marker ++ t).trim) :
    trim ((marker ++ t).trim.drop marker.length) = t.trim := by
  obtain ⟨c, rest, rfl⟩ := List.exists_cons_of_ne_nil hmarker
  obtain ⟨after, hafter⟩ := h
  have hc := isBlank_of_trim_eq_cons hafter.symm
  have hback : rest ++ after = trimEnd (rest ++ t) := by
    have htrim := trim_cons_of_not_blank hc (rest ++ t)
    rw [← List.cons_append, ← hafter] at htrim
    exact List.tail_eq_of_cons_eq htrim
  have hrest : after = trimEnd t := by
    rw [trimEnd_append] at hback
    split at hback
    · next ht =>
      have hlength := (trimEnd_isPrefix rest).length_le
      rw [← hback, List.length_append] at hlength
      rw [ht]
      exact List.eq_nil_of_length_eq_zero (by omega)
    · exact List.append_cancel_left hback
  rw [← hafter, List.drop_left, hrest, trim_trimEnd]

/-! ## Texts that end in no blank -/

lemma isBlank_of_trim_eq_nil {t : Text} (h : t.trim = []) : ∀ c ∈ t, isBlank c = true := by
  induction t with
  | nil => simp
  | cons c rest ih =>
    by_cases hc : isBlank c = true
    · rw [trim_cons_of_blank hc] at h
      simpa [hc] using ih h
    · rw [trim_cons_of_not_blank (by simpa using hc)] at h
      cases h

lemma trimEnd_of_trim {t : Text} (h : t.trim = t) : trimEnd t = t := by
  cases t with
  | nil => rfl
  | cons c rest =>
    have hc := isBlank_of_trim_eq_cons h
    rw [trim_cons_of_not_blank hc] at h
    rw [trimEnd_cons_of_not_blank hc, h]

lemma trim_length_lt {a b : Text} (hb : b ≠ []) (hend : trimEnd b = b) :
    (trim a).length < (trim (a ++ b)).length := by
  induction a with
  | nil =>
    have hsome : trim b ≠ [] := by
      intro hnil
      have hblank := trimEnd_eq_nil_iff.2 (isBlank_of_trim_eq_nil hnil)
      exact hb (hend.symm.trans hblank)
    exact List.length_pos_iff.2 hsome
  | cons c rest ih =>
    rw [List.cons_append]
    by_cases hc : isBlank c = true
    · rw [trim_cons_of_blank hc, trim_cons_of_blank hc]
      exact ih
    · have hc : isBlank c = false := by simpa using hc
      have hlonger := List.length_pos_iff.2 hb
      have hshorter := (trimEnd_isPrefix rest).length_le
      rw [trim_cons_of_not_blank hc, trim_cons_of_not_blank hc, trimEnd_append, hend, if_neg hb]
      simp
      omega

lemma trimEnd_suffix {a b : Text} (hb : b ≠ []) (h : trimEnd (a ++ b) = a ++ b) : trimEnd b = b := by
  rw [trimEnd_append] at h
  split at h
  · have hshorter := (trimEnd_isPrefix a).length_le
    have hlonger := List.length_pos_iff.2 hb
    rw [h, List.length_append] at hshorter
    omega
  · exact List.append_cancel_left h

end TextTemplate.Text
