import TextTemplate.Marker

/-!
# Splitting at a marker

A text is cut at the first occurrence of a marker, and split at its occurrences from the left, each
looked for after the one before has ended. Joining the pieces with the marker gives the text back, and
no piece holds the marker.
-/

namespace TextTemplate

namespace Text

def startsWith (t start : Text) : Bool :=
  start.isPrefixOf t

theorem startsWith_iff {t start : Text} : t.startsWith start = true ↔ start <+: t :=
  List.isPrefixOf_iff_prefix

/-- The text before the first occurrence of a marker and the text after it. -/
def cut? (m : Marker) : Text → Option (Text × Text)
  | [] => none
  | c :: rest =>
    if startsWith (c :: rest) m.text then some ([], (c :: rest).drop m.text.length)
    else (cut? m rest).map fun (before, after) => (c :: before, after)

theorem cut?_append {m : Marker} {t before after : Text} (h : cut? m t = some (before, after)) :
    before ++ m.text ++ after = t := by
  induction t generalizing before with
  | nil => simp [cut?] at h
  | cons c rest ih =>
    rw [cut?] at h
    split at h
    · next hp =>
      obtain ⟨rfl, rfl⟩ : [] = before ∧ _ = after := by simpa using h
      obtain ⟨tail, ht⟩ := startsWith_iff.1 hp
      simp [← ht]
    · obtain ⟨⟨b, a⟩, hcut, heq⟩ := Option.map_eq_some_iff.1 h
      obtain ⟨rfl, rfl⟩ : c :: b = before ∧ a = after := by simpa using heq
      simp [← ih hcut]

theorem cut?_length {m : Marker} {t before after : Text} (h : cut? m t = some (before, after)) :
    after.length < t.length := by
  have hm := m.length_pos
  rw [← cut?_append h]
  simp
  omega

theorem cut?_eq_none_iff {m : Marker} {t : Text} : cut? m t = none ↔ ¬ m.text <:+: t := by
  induction t with
  | nil => simp [cut?, m.text_ne_nil]
  | cons c rest ih =>
    rw [cut?, List.infix_cons_iff, ← startsWith_iff]
    split <;> simp_all

theorem dropLast_prefix_append (m : Marker) (before after : Text) :
    before ++ m.text.dropLast <+: before ++ m.text ++ after := by
  have hdrop := List.dropLast_prefix m.text
  rw [List.append_assoc, List.prefix_append_right_inj]
  exact hdrop.trans (List.prefix_append _ _)

/-- A cut is made at the first occurrence: none starts further left. -/
theorem cut?_eq_some_iff {m : Marker} {t before after : Text} :
    cut? m t = some (before, after) ↔
      before ++ m.text ++ after = t ∧ ¬ m.text <:+: before ++ m.text.dropLast := by
  have hm := m.length_pos
  constructor
  · intro h
    refine ⟨cut?_append h, ?_⟩
    induction t generalizing before with
    | nil => simp [cut?] at h
    | cons c rest ih =>
      rw [cut?] at h
      split at h
      · obtain ⟨rfl, -⟩ : [] = before ∧ _ = after := by simpa using h
        intro hin
        have := hin.length_le
        simp at this
        omega
      · next hp =>
        obtain ⟨⟨b, a⟩, hcut, heq⟩ := Option.map_eq_some_iff.1 h
        obtain ⟨rfl, rfl⟩ : c :: b = before ∧ a = after := by simpa using heq
        rw [List.cons_append, List.infix_cons_iff]
        rintro (hpre | hin)
        · refine hp (startsWith_iff.2 (hpre.trans ?_))
          rw [← cut?_append hcut]
          exact dropLast_prefix_append m (c :: b) a
        · exact ih hcut hin
  · rintro ⟨rfl, hfree⟩
    induction before with
    | nil =>
      obtain ⟨c, rest, hc⟩ := List.exists_cons_of_ne_nil m.text_ne_nil
      have hp : startsWith (m.text ++ after) m.text = true := startsWith_iff.2 ⟨after, rfl⟩
      rw [List.nil_append, hc, List.cons_append, cut?, ← List.cons_append, ← hc, if_pos hp]
      simp
    | cons c b ih =>
      rw [List.cons_append, List.infix_cons_iff, not_or] at hfree
      have hnot : ¬ startsWith (c :: (b ++ m.text ++ after)) m.text = true := by
        intro hp
        refine hfree.1 (List.prefix_of_prefix_length_le (startsWith_iff.1 hp)
          (dropLast_prefix_append m (c :: b) after) ?_)
        simp
        omega
      rw [List.cons_append, List.cons_append, cut?, if_neg hnot, ih hfree.2]
      rfl

/-- The pieces of a text between the occurrences of a marker, taken from the left: the first piece
and those that follow an occurrence. -/
def splitOn (m : Marker) (t : Text) : Text × List Text :=
  match _h : cut? m t with
  | none => (t, [])
  | some (before, after) =>
    let pieces := splitOn m after
    (before, pieces.1 :: pieces.2)
termination_by t.length
decreasing_by exact cut?_length ‹_›

theorem splitOn_of_cut?_none {m : Marker} {t : Text} (h : cut? m t = none) :
    splitOn m t = (t, []) := by
  rw [splitOn]
  split
  · rfl
  · simp_all

theorem splitOn_of_cut?_some {m : Marker} {t before after : Text}
    (h : cut? m t = some (before, after)) :
    splitOn m t = (before, (splitOn m after).1 :: (splitOn m after).2) := by
  rw [splitOn]
  split
  · simp_all
  · next b a heq =>
    obtain ⟨rfl, rfl⟩ : b = before ∧ a = after := by simpa [h] using heq.symm
    rfl

def joinWith (m : Marker) (pieces : Text × List Text) : Text :=
  pieces.1 ++ pieces.2.flatMap fun piece => m.text ++ piece

theorem joinWith_splitOn (m : Marker) (t : Text) : joinWith m (splitOn m t) = t := by
  induction hn : t.length using Nat.strongRecOn generalizing t with
  | ind n ih =>
    cases h : cut? m t with
    | none => simp [splitOn_of_cut?_none h, joinWith]
    | some parts =>
      obtain ⟨before, after⟩ := parts
      have hrec := ih after.length (hn ▸ cut?_length h) after rfl
      rw [splitOn_of_cut?_some h, ← cut?_append h]
      simp only [joinWith, List.flatMap_cons, List.append_assoc] at hrec ⊢
      rw [hrec]

theorem splitOn_free {m : Marker} {t piece : Text}
    (h : piece ∈ (splitOn m t).1 :: (splitOn m t).2) : ¬ m.text <:+: piece := by
  induction hn : t.length using Nat.strongRecOn generalizing t piece with
  | ind n ih =>
    cases hcut : cut? m t with
    | none =>
      rw [splitOn_of_cut?_none hcut] at h
      obtain rfl : piece = t := by simpa using h
      exact cut?_eq_none_iff.1 hcut
    | some parts =>
      obtain ⟨before, after⟩ := parts
      rw [splitOn_of_cut?_some hcut] at h
      rcases List.mem_cons.1 h with rfl | h
      · exact fun hin => (cut?_eq_some_iff.1 hcut).2
          (hin.trans (List.prefix_append _ _).isInfix)
      · exact ih after.length (hn ▸ cut?_length hcut) h rfl

end Text

end TextTemplate
