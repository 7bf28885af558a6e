import TextTemplate.Proofs.Legibility
import TextTemplate.Proofs.Relocation

/-!
# Templates put together

Two templates that can be read are read together as the pieces of the one and then those of the other, with
the last text of the first and the first text of the second as one text in between. The only way in which
this can fail is a marker that begins in the first template and ends in the second.
-/

namespace TextTemplate

/-- A marker stands across the place where two texts meet. -/
def Marker.Straddles (m : Marker) (a b : Text) : Prop :=
  ∃ n < m.text.length, 0 < n ∧ m.text.take n <:+ a ∧ m.text.drop n <+: b

instance (m : Marker) (a b : Text) : Decidable (m.Straddles a b) :=
  inferInstanceAs (Decidable (∃ n < m.text.length, _))

namespace Marker

variable {m : Marker} {a a' b b' : Text}

lemma Straddles.mono (h : m.Straddles a b) (ha : a <:+ a') (hb : b <+: b') : m.Straddles a' b' := by
  obtain ⟨n, hn, hpos, hleft, hright⟩ := h
  exact ⟨n, hn, hpos, hleft.trans ha, hright.trans hb⟩

lemma not_infix_append (ha : ¬ m.text <:+: a) (hb : ¬ m.text <:+: b) (h : ¬ m.Straddles a b) :
    ¬ m.text <:+: a ++ b := by
  rw [List.infix_append_iff]
  rintro (hin | hin | ⟨left, right, heq, hleft, hright⟩)
  · exact ha hin
  · exact hb hin
  · have hlength := congrArg List.length heq
    rw [List.length_append] at hlength
    by_cases hall : right = []
    · rw [hall, List.append_nil] at heq
      exact ha (heq ▸ hleft.isInfix)
    · by_cases hnone : left = []
      · rw [hnone, List.nil_append] at heq
        exact hb (heq ▸ hright.isInfix)
      · have hpos := List.length_pos_iff.2 hall
        refine h ⟨left.length, by omega, List.length_pos_iff.2 hnone, ?_, ?_⟩
        · rwa [heq, List.take_left]
        · rwa [heq, List.drop_left]

end Marker

/-! ## Pieces -/

namespace Piece

variable {m : Markers}

lemma writeAll_cons_text (m : Markers) (t : Text) (rest : List Piece) :
    writeAll m ((.text, t) :: rest) = t ++ writeAll m rest := rfl

lemma writeAll_cons_command (m : Markers) (raw : Text) (rest : List Piece) :
    writeAll m ((.command, raw) :: rest) = m.opening.text ++ raw ++ m.closing.text ++ writeAll m rest := rfl

lemma Legible.head {before : Text} {pieces : List Piece} (h : Legible m before pieces) :
    ∃ t rest, pieces = (.text, t) :: rest := by
  match pieces, h with
  | [(.text, t)], _ => exact ⟨t, [], rfl⟩
  | (.text, t) :: (.command, raw) :: rest, _ => exact ⟨t, _, rfl⟩

lemma Legible.last {before : Text} {pieces : List Piece} (h : Legible m before pieces) :
    ∃ init t, pieces = init ++ [(.text, t)] := by
  fun_induction Legible m before pieces with
  | case1 before t => exact ⟨[], t, rfl⟩
  | case2 before t raw rest ih =>
    obtain ⟨init, u, rfl⟩ := ih h.2.2.2
    exact ⟨(.text, t) :: (.command, raw) :: init, u, rfl⟩
  | case3 => exact h.elim

lemma legible_seam {before t u : Text} {rest : List Piece} (ht : Legible m before [(.text, t)])
    (hu : Legible m [] ((.text, u) :: rest))
    (hopen : ¬ m.opening.Straddles (before ++ t) (writeAll m ((.text, u) :: rest)))
    (hclose : ¬ m.closing.Straddles (before ++ t) (writeAll m ((.text, u) :: rest))) :
    Legible m before ((.text, t ++ u) :: rest) := by
  have hclose' : ¬ m.closing.Straddles t u := fun h =>
    hclose (h.mono (List.suffix_append _ _) (List.prefix_append _ _))
  match rest, hu with
  | [], hu =>
    have hopen' : ¬ m.opening.Straddles (before ++ t) u := fun h =>
      hopen (h.mono (List.suffix_refl _) (List.prefix_append _ _))
    refine ⟨?_, Marker.not_infix_append ht.2 hu.2 hclose'⟩
    rw [← List.append_assoc]
    exact Marker.not_infix_append ht.1 hu.1 hopen'
  | (.command, raw) :: rest, hu =>
    obtain ⟨hu, huclose, hraw, hrest⟩ := hu
    refine ⟨?_, Marker.not_infix_append ht.2 huclose hclose', hraw, hrest⟩
    have hopen' : ¬ m.opening.Straddles (before ++ t) (u ++ m.opening.text.dropLast) := by
      intro h
      refine hopen (h.mono (List.suffix_refl _) ?_)
      rw [writeAll_cons_text, writeAll_cons_command, List.prefix_append_right_inj, List.append_assoc,
        List.append_assoc]
      exact (List.dropLast_prefix _).trans (List.prefix_append _ _)
    rw [← List.append_assoc, List.append_assoc]
    exact Marker.not_infix_append ht.1 hu hopen'

lemma legible_append {before t u : Text} {init rest : List Piece}
    (ht : Legible m before (init ++ [(.text, t)])) (hu : Legible m [] ((.text, u) :: rest))
    (hopen : ¬ m.opening.Straddles (before ++ writeAll m (init ++ [(.text, t)]))
      (writeAll m ((.text, u) :: rest)))
    (hclose : ¬ m.closing.Straddles (before ++ writeAll m (init ++ [(.text, t)]))
      (writeAll m ((.text, u) :: rest))) :
    Legible m before (init ++ (.text, t ++ u) :: rest) := by
  generalize hpieces : init ++ [(.text, t)] = pieces at ht hopen hclose
  fun_induction Legible m before pieces generalizing init with
  | case1 before v =>
    obtain rfl : init = [] := by
      have hlength := congrArg List.length hpieces
      rw [List.length_append] at hlength
      exact List.length_eq_zero_iff.1 (by simpa using hlength)
    obtain rfl : t = v := by simpa using hpieces
    have hwrite : writeAll m [(.text, t)] = t := List.append_nil t
    rw [hwrite] at hopen hclose
    exact legible_seam ht hu hopen hclose
  | case2 before v raw tail ih =>
    obtain ⟨hv, hvclose, hraw, htail⟩ := ht
    obtain ⟨init, rfl, rfl⟩ : ∃ init', init = (.text, v) :: (.command, raw) :: init' ∧
        init' ++ [(.text, t)] = tail := by
      rcases init with _ | ⟨first, _ | ⟨second, init'⟩⟩
      · simp at hpieces
      · simp at hpieces
      · simp_all
    have hsuffix : raw ++ m.closing.text ++ writeAll m (init ++ [(.text, t)]) <:+
        before ++ writeAll m ((.text, v) :: (.command, raw) :: (init ++ [(.text, t)])) := by
      refine ⟨before ++ v ++ m.opening.text, ?_⟩
      simp only [writeAll_cons_text, writeAll_cons_command, List.append_assoc]
    have hjoined := ih rfl htail (fun h => hopen (h.mono hsuffix (List.prefix_refl _)))
      (fun h => hclose (h.mono hsuffix (List.prefix_refl _)))
    exact ⟨hv, hvclose, hraw, hjoined⟩
  | case3 => exact ht.elim

end Piece

/-! ## Tokens -/

section Tokens

variable {m : Markers} {template first second : Text} {tokens : List Token}

lemma writeAll_pieces_of_tokenize (h : tokenize m template = .ok tokens) :
    Piece.writeAll m (tokens.map Token.piece) = template := by
  have hreconstruct : Piece.writeAll m (tokens.map Token.piece) = reconstruct m tokens := by
    rw [Piece.writeAll, reconstruct, List.flatMap_map]
    congr 1
    funext t
    unfold Token.piece Token.source Token.isCommand
    cases t.kind with
    | text => rfl
    | command => rfl
  rw [hreconstruct]
  obtain ⟨start, chunks, later, hsplit, -, hlater, rfl⟩ := tokenize_ok h
  have hjoin := Text.joinWith_splitOn m.opening template
  rw [hsplit] at hjoin
  rw [reconstruct_literal, reconstruct_tokensOfChunks hlater]
  exact hjoin

lemma unplaced_eq_of_piece_eq {tokens' : List Token} (h : ∀ t ∈ tokens, t.text = t.piece.text)
    (h' : ∀ t ∈ tokens', t.text = t.piece.text) (heq : tokens.map Token.piece = tokens'.map Token.piece) :
    tokens.map Token.unplaced = tokens'.map Token.unplaced := by
  have hread : ∀ list : List Token, (∀ t ∈ list, t.text = t.piece.text) →
      list.map Token.unplaced = (list.map Token.piece).map fun p => ⟨p.1, p.text, 0, []⟩ := by
    intro list hlist
    rw [List.map_map]
    refine List.map_congr_left fun t ht => ?_
    unfold Token.unplaced
    rw [hlist t ht]
    rfl
  rw [hread tokens h, hread tokens' h', heq]

lemma text_eq_of_tokenize (h : tokenize m template = .ok tokens) : ∀ t ∈ tokens, t.text = t.piece.text := by
  intro t ht
  have htext := (isRead_of_tokenize h t ht).text_eq
  unfold Token.piece Piece.text
  cases hkind : t.kind <;> simp_all [Token.isCommand]

lemma tokenize_append {tokens₁ tokens₂ : List Token} (h₁ : tokenize m first = .ok tokens₁)
    (h₂ : tokenize m second = .ok tokens₂) (hopen : ¬ m.opening.Straddles first second)
    (hclose : ¬ m.closing.Straddles first second) :
    ∃ (init rest joined : List Token) (last next : Token),
      tokens₁ = init ++ [last] ∧ tokens₂ = next :: rest ∧
        last.isCommand = false ∧ next.isCommand = false ∧
        tokenize m (first ++ second) = .ok joined ∧
        joined.map Token.unplaced =
          (init ++ .literal 0 (last.text ++ next.text) :: rest).map Token.unplaced := by
  have hlegible₁ := legible_of_tokenize h₁
  have hlegible₂ := legible_of_tokenize h₂
  have hfirst := writeAll_pieces_of_tokenize h₁
  have hsecond := writeAll_pieces_of_tokenize h₂
  have htext₁ := text_eq_of_tokenize h₁
  have htext₂ := text_eq_of_tokenize h₂
  obtain ⟨initial, t, hinitial⟩ := hlegible₁.last
  obtain ⟨u, final, hfinal⟩ := hlegible₂.head
  obtain ⟨init, lasts, rfl, rfl, hlasts⟩ := List.map_eq_append_iff.1 hinitial
  obtain ⟨last, rfl, hlast⟩ := List.map_eq_singleton_iff.1 hlasts
  obtain ⟨next, rest, rfl, hnext, rfl⟩ := List.map_eq_cons_iff.1 hfinal
  rw [hinitial] at hlegible₁ hfirst
  rw [hfinal] at hlegible₂ hsecond
  have hlegible : Piece.Legible m [] (init.map Token.piece ++ (.text, t ++ u) :: rest.map Token.piece) := by
    refine Piece.legible_append hlegible₁ hlegible₂ ?_ ?_
    · rwa [hfirst, hsecond]
    · rwa [hfirst, hsecond]
  have hwrite : Piece.writeAll m (init.map Token.piece ++ (.text, t ++ u) :: rest.map Token.piece) =
      first ++ second := by
    rw [← hfirst, ← hsecond]
    simp [Piece.writeAll, Piece.write]
  obtain ⟨joined, hjoined, hpieces⟩ := tokenize_writeAll hlegible
  rw [hwrite] at hjoined
  have hlasttext : last.text = t := by rw [htext₁ last (by simp), hlast]; rfl
  have hnexttext : next.text = u := by rw [htext₂ next (by simp), hnext]; rfl
  have hlastkind : last.kind = .text := congrArg Prod.fst hlast
  have hnextkind : next.kind = .text := congrArg Prod.fst hnext
  refine ⟨init, rest, joined, last, next, rfl, rfl, by simp [Token.isCommand, hlastkind],
    by simp [Token.isCommand, hnextkind], hjoined, ?_⟩
  refine unplaced_eq_of_piece_eq (text_eq_of_tokenize hjoined) (fun v hv => ?_) ?_
  · rcases List.mem_append.1 hv with hv | hv
    · exact htext₁ v (List.mem_append_left _ hv)
    · rcases List.mem_cons.1 hv with rfl | hv
      · rfl
      · exact htext₂ v (List.mem_cons_of_mem _ hv)
  · rw [hpieces, List.map_append, List.map_cons, hlasttext, hnexttext]
    rfl

end Tokens

end TextTemplate
