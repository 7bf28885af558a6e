import TextTemplate.Proofs.Trimming
import TextTemplate.Text.Split

/-!
# Splitting what was joined

Where no character of a marker stands in the pieces, nothing but the marker itself can be read as the marker:
the pieces that were joined by it are the pieces that the joined text is split into.
-/

namespace TextTemplate.Text

/-- No character of a marker stands in the text. -/
def Avoids (m : Marker) (t : Text) : Prop :=
  ∀ c ∈ t, c ∉ m.text

instance (m : Marker) (t : Text) : Decidable (Avoids m t) :=
  List.decidableBAll (fun c => c ∉ m.text) t

section Avoids

variable {m : Marker} {a b : Text}

lemma Avoids.append (ha : Avoids m a) (hb : Avoids m b) : Avoids m (a ++ b) := by
  intro c hc
  rcases List.mem_append.1 hc with hc | hc
  · exact ha c hc
  · exact hb c hc

lemma Avoids.not_infix_dropLast (ha : Avoids m a) : ¬ m.text <:+: a ++ m.text.dropLast := by
  induction a with
  | nil =>
    intro hin
    have hlength := hin.length_le
    have hpos := m.length_pos
    rw [List.nil_append, List.length_dropLast] at hlength
    omega
  | cons c rest ih =>
    rw [List.cons_append, List.infix_cons_iff]
    rintro (hstart | hlater)
    · obtain ⟨first, others, hm⟩ := List.exists_cons_of_ne_nil m.text_ne_nil
      rw [hm] at hstart
      have hc : c ∈ m.text := by
        rw [hm, (List.cons_prefix_cons.1 hstart).1]
        exact List.mem_cons_self
      exact ha c List.mem_cons_self hc
    · exact ih (fun c hc => ha c (List.mem_cons_of_mem _ hc)) hlater

lemma Avoids.not_infix (ha : Avoids m a) : ¬ m.text <:+: a := fun hin =>
  ha.not_infix_dropLast (hin.trans (List.prefix_append _ _).isInfix)

lemma joinWith_cons (m : Marker) (first second : Text) (rest : List Text) :
    joinWith m (first, second :: rest) = first ++ m.text ++ joinWith m (second, rest) := by
  simp only [joinWith, List.flatMap_cons, List.append_assoc]

lemma splitOn_of_avoids (ha : Avoids m a) : splitOn m a = (a, []) :=
  splitOn_of_cut?_none (cut?_eq_none_iff.2 ha.not_infix)

theorem splitOn_joinWith {first : Text} {rest : List Text}
    (h : ∀ piece ∈ first :: rest, Avoids m piece) : splitOn m (joinWith m (first, rest)) = (first, rest) := by
  induction rest generalizing first with
  | nil =>
    have hfirst : joinWith m (first, []) = first := List.append_nil _
    rw [hfirst]
    exact splitOn_of_avoids (h first List.mem_cons_self)
  | cons second rest ih =>
    have hfirst := (h first List.mem_cons_self).not_infix_dropLast
    have hcut : cut? m (joinWith m (first, second :: rest)) = some (first, joinWith m (second, rest)) := by
      rw [joinWith_cons]
      exact cut?_eq_some_iff.2 ⟨rfl, hfirst⟩
    rw [splitOn_of_cut?_some hcut, ih fun piece hpiece => h piece (List.mem_cons_of_mem _ hpiece)]

lemma Avoids.joinWith {m' : Marker} (hmarker : Avoids m' m.text) {first : Text} {rest : List Text}
    (h : ∀ piece ∈ first :: rest, Avoids m' piece) : Avoids m' (joinWith m (first, rest)) := by
  induction rest generalizing first with
  | nil =>
    have hfirst : Text.joinWith m (first, []) = first := List.append_nil _
    rw [hfirst]
    exact h first List.mem_cons_self
  | cons second rest ih =>
    rw [joinWith_cons]
    apply Avoids.append
    · exact (h first List.mem_cons_self).append hmarker
    · exact ih fun piece hpiece => h piece (List.mem_cons_of_mem _ hpiece)

end Avoids

lemma trim_of_not_blank {t : Text} (h : ∀ c ∈ t, isBlank c = false) : trim t = t := by
  have hend : ∀ u : Text, (∀ c ∈ u, isBlank c = false) → trimEnd u = u := by
    intro u hu
    induction u with
    | nil => rfl
    | cons c rest ih =>
      rw [trimEnd_cons_of_not_blank (hu c List.mem_cons_self)]
      rw [ih fun d hd => hu d (List.mem_cons_of_mem _ hd)]
  cases t with
  | nil => rfl
  | cons c rest =>
    rw [trim_cons_of_not_blank (h c List.mem_cons_self)]
    rw [hend rest fun d hd => h d (List.mem_cons_of_mem _ hd)]

/-! ## Splitting behind what avoids the marker -/

lemma not_startsWith_cons {m : Marker} {c : CodePoint} (hc : c ∉ m.text) (t : Text) :
    ¬ startsWith (c :: t) m.text = true := by
  obtain ⟨first, others, hm⟩ := List.exists_cons_of_ne_nil m.text_ne_nil
  rw [startsWith_iff, hm, List.cons_prefix_cons]
  rintro ⟨rfl, -⟩
  rw [hm] at hc
  exact hc List.mem_cons_self

lemma cut?_append_of_avoids {m : Marker} {a : Text} (ha : Avoids m a) (b : Text) :
    cut? m (a ++ b) = (cut? m b).map fun parts => (a ++ parts.1, parts.2) := by
  induction a with
  | nil => simp
  | cons c rest ih =>
    have hc := not_startsWith_cons (ha c List.mem_cons_self) (rest ++ b)
    rw [List.cons_append, cut?, if_neg hc, ih fun d hd => ha d (List.mem_cons_of_mem _ hd), Option.map_map]
    rfl

lemma splitOn_append {m : Marker} {a : Text} (ha : Avoids m a) (b : Text) :
    splitOn m (a ++ b) = (a ++ (splitOn m b).1, (splitOn m b).2) := by
  have hcut := cut?_append_of_avoids ha b
  cases hb : cut? m b with
  | none =>
    rw [hb] at hcut
    rw [splitOn_of_cut?_none hb, splitOn_of_cut?_none hcut]
  | some parts =>
    rw [hb] at hcut
    rw [splitOn_of_cut?_some hb, splitOn_of_cut?_some hcut]

lemma splitOn_fst_isPrefix (m : Marker) (t : Text) : (splitOn m t).1 <+: t := by
  have hjoin := joinWith_splitOn m t
  rw [joinWith] at hjoin
  exact ⟨_, hjoin⟩

/-! ## Markers around what avoids them -/

section Around

variable {x : Text}

lemma isPrefix_before {l : Text} (hx : x ≠ []) (havoids : ∀ c ∈ x, c ∉ l) {before after : Text}
    (h : l <+: before ++ (x ++ after)) : l <+: before := by
  induction before generalizing l with
  | nil =>
    cases l with
    | nil => exact List.nil_prefix
    | cons d rest =>
      obtain ⟨c, others, rfl⟩ := List.exists_cons_of_ne_nil hx
      rw [List.nil_append, List.cons_append, List.cons_prefix_cons] at h
      exact absurd (h.1 ▸ List.mem_cons_self) (havoids c List.mem_cons_self)
  | cons c others ih =>
    cases l with
    | nil => exact List.nil_prefix
    | cons d rest =>
      rw [List.cons_append, List.cons_prefix_cons] at h
      obtain ⟨rfl, h⟩ := h
      exact List.cons_prefix_cons.2 ⟨rfl, ih (fun c hc hin => havoids c hc (List.mem_cons_of_mem _ hin)) h⟩

lemma infix_behind {m : Marker} (havoids : Avoids m x) (after : Text) :
    m.text <:+: x ++ after ↔ m.text <:+: after := by
  rw [← not_iff_not, ← cut?_eq_none_iff, ← cut?_eq_none_iff, cut?_append_of_avoids havoids,
    Option.map_eq_none_iff]

lemma infix_around {m : Marker} (hx : x ≠ []) (havoids : Avoids m x) (before after : Text) :
    m.text <:+: before ++ (x ++ after) ↔ m.text <:+: before ∨ m.text <:+: after := by
  induction before with
  | nil =>
    have hnot : ¬ m.text <:+: [] := by simp [m.text_ne_nil]
    rw [List.nil_append, infix_behind havoids, or_iff_right hnot]
  | cons c rest ih =>
    rw [List.cons_append, List.infix_cons_iff, List.infix_cons_iff, ih, or_assoc]
    refine or_congr_left ⟨fun h => ?_, fun h => ?_⟩
    · rw [← List.cons_append] at h
      exact isPrefix_before hx havoids h
    · exact h.trans (List.prefix_append (c :: rest) _)

end Around

end TextTemplate.Text
