import Mathlib.Data.List.Forall2
import TextTemplate.Proofs.Composition
import TextTemplate.Proofs.Trimming

/-!
# Blanks just inside the markers

A command is trimmed before anything looks at it, and the markers, if they hold no blank themselves, stand
where they stood when blanks are put next to them. So blanks behind an open marker or before a close marker
change the lines on which things stand, and nothing else.
-/

namespace TextTemplate

/-- A piece with more blanks at both ends of what stands between its markers. -/
inductive Piece.Padded : Piece → Piece → Prop where
  | text (t : Text) : Padded (.text, t) (.text, t)
  | command (front raw back : Text) (hfront : ∀ c ∈ front, Text.isBlank c = true)
      (hback : ∀ c ∈ back, Text.isBlank c = true) :
      Padded (.command, raw) (.command, front ++ raw ++ back)

/-! ## Markers among more blanks -/

namespace Marker

variable {m : Marker} {a b pad : Text}

lemma infix_of_insert {c : CodePoint} (hc : c ∉ m.text) (h : m.text <:+: a ++ c :: b) :
    m.text <:+: a ++ b := by
  by_contra hno
  have ha : ¬ m.text <:+: a := fun hin => hno (hin.trans (List.prefix_append a b).isInfix)
  have hb : ¬ m.text <:+: c :: b := by
    rw [List.infix_cons_iff]
    rintro (hstart | hin)
    · obtain ⟨d, rest, hm⟩ := List.exists_cons_of_ne_nil m.text_ne_nil
      rw [hm, List.cons_prefix_cons] at hstart
      apply hc
      simp [hm, hstart.1]
    · exact hno (hin.trans (List.suffix_append a b).isInfix)
  refine not_infix_append ha hb ?_ h
  -- A marker that goes on behind `a` would go on with the character that is not its own.
  rintro ⟨n, hn, -, -, hright⟩
  rw [List.drop_eq_getElem_cons hn, List.cons_prefix_cons] at hright
  apply hc
  rw [← hright.1]
  exact List.getElem_mem hn

lemma infix_of_padded (hm : ∀ c ∈ m.text, Text.isBlank c = false)
    (hpad : ∀ c ∈ pad, Text.isBlank c = true) (h : m.text <:+: a ++ (pad ++ b)) : m.text <:+: a ++ b := by
  induction pad with
  | nil => exact h
  | cons c rest ih =>
    have hc : c ∉ m.text := by
      intro hin
      have hblank := hpad c List.mem_cons_self
      simp [hm c hin] at hblank
    apply ih
    · intro d hd
      exact hpad d (List.mem_cons_of_mem c hd)
    · exact infix_of_insert hc h

lemma infix_of_surrounded {front back : Text} (hm : ∀ c ∈ m.text, Text.isBlank c = false)
    (hfront : ∀ c ∈ front, Text.isBlank c = true) (hback : ∀ c ∈ back, Text.isBlank c = true)
    (h : m.text <:+: front ++ a ++ back ++ b) : m.text <:+: a ++ b := by
  apply infix_of_padded hm hback
  apply infix_of_padded (a := []) hm hfront
  simpa using h

end Marker

/-! ## Reading what was padded -/

namespace Piece

variable {m : Markers}

lemma legible_padded (hopen : ∀ c ∈ m.opening.text, Text.isBlank c = false)
    (hclose : ∀ c ∈ m.closing.text, Text.isBlank c = false) {before before' : Text}
    {pieces pieces' : List Piece} (hpad : List.Forall₂ Padded pieces pieces')
    (hbefore : ∀ t, m.opening.text <:+: before' ++ t → m.opening.text <:+: before ++ t)
    (h : Legible m before pieces) : Legible m before' pieces' := by
  fun_induction Legible m before pieces generalizing before' pieces' with
  | case1 before t =>
    cases hpad with
    | cons hpiece hrest =>
      cases hrest
      cases hpiece
      exact ⟨fun hin => h.1 (hbefore t hin), h.2⟩
  | case2 before t raw rest ih =>
    obtain ⟨hfirst, ht, hraw, hlegible⟩ := h
    cases hpad with
    | cons hpiece hpad =>
      cases hpad with
      | cons hcommand hrest =>
        cases hpiece
        cases hcommand with
        | command front raw back hfront hback =>
          refine ⟨?_, ht, ?_, ?_⟩
          · intro hin
            apply hfirst
            rw [List.append_assoc] at hin ⊢
            exact hbefore _ hin
          · intro hin
            exact hraw (Marker.infix_of_surrounded hclose hfront hback hin)
          · apply ih hrest _ hlegible
            intro u hin
            rw [List.append_assoc] at hin ⊢
            exact Marker.infix_of_surrounded hopen hfront hback hin
  | case3 => exact h.elim

lemma Padded.text_eq {p p' : Piece} (h : Padded p p') : p'.1 = p.1 ∧ p'.text = p.text := by
  cases h with
  | text t => exact ⟨rfl, rfl⟩
  | command front raw back hfront hback =>
    refine ⟨rfl, ?_⟩
    simp only [Piece.text]
    rw [Text.trim_append_blank hback, Text.trim_blank_append hfront]

end Piece

section Tokens

variable {m : Markers} {template : Text} {tokens : List Token} {pieces : List Piece}

lemma tokenize_padded (hopen : ∀ c ∈ m.opening.text, Text.isBlank c = false)
    (hclose : ∀ c ∈ m.closing.text, Text.isBlank c = false) (hread : tokenize m template = .ok tokens)
    (hpad : List.Forall₂ Piece.Padded (tokens.map Token.piece) pieces) :
    ∃ padded, tokenize m (Piece.writeAll m pieces) = .ok padded ∧ padded.map Token.piece = pieces ∧
      padded.map Token.unplaced = tokens.map Token.unplaced := by
  have hlegible := Piece.legible_padded hopen hclose hpad (fun _ hin => hin) (legible_of_tokenize hread)
  obtain ⟨padded, hpadded, hpieces⟩ := tokenize_writeAll hlegible
  refine ⟨padded, hpadded, hpieces, ?_⟩
  have htexts := text_eq_of_tokenize hread
  have htexts' := text_eq_of_tokenize hpadded
  rw [← hpieces, List.forall₂_map_left_iff, List.forall₂_map_right_iff] at hpad
  clear hread hpadded hpieces hlegible
  induction hpad with
  | nil => rfl
  | @cons t t' rest rest' hpiece _ ih =>
    obtain ⟨hkind, htext⟩ := hpiece.text_eq
    rw [← htexts t List.mem_cons_self, ← htexts' t' List.mem_cons_self] at htext
    rw [List.map_cons, List.map_cons, ih (fun u hu => htexts u (List.mem_cons_of_mem t hu))
      (fun u hu => htexts' u (List.mem_cons_of_mem t' hu))]
    congr 1
    simp only [Token.unplaced, htext]
    exact congrArg (Token.mk · t.text 0 []) hkind

end Tokens

namespace Engine

/-- Blanks behind the open markers of a template and before its close markers, any number of them, change
nothing: the template is read as the same kinds and texts, and rendered with the same text, or the same
failure on whatever line, after the same questions. -/
theorem format_padded (engine : Engine) (r : Resolver) (streams : Value.Streams) {template : Text}
    {tokens : List Token} {pieces : List Piece} (hread : tokenize engine.markers template = .ok tokens)
    (hopen : ∀ c ∈ engine.markers.opening.text, Text.isBlank c = false)
    (hclose : ∀ c ∈ engine.markers.closing.text, Text.isBlank c = false)
    (hpad : List.Forall₂ Piece.Padded (tokens.map Token.piece) pieces) :
    let padded := Piece.writeAll engine.markers pieces
    let run := engine.format r streams template
    let run' := engine.format r streams padded
    (∃ tokens', tokenize engine.markers padded = .ok tokens' ∧ tokens'.map Token.piece = pieces ∧
      tokens'.map (fun t => (t.kind, t.text)) = tokens.map (fun t => (t.kind, t.text))) ∧
    run'.1.mapError Failure.unplaced = run.1.mapError Failure.unplaced ∧ run'.2.calls = run.2.calls := by
  intro padded run run'
  obtain ⟨tokens', hread', hpieces, hsame⟩ := tokenize_padded hopen hclose hread hpad
  constructor
  · refine ⟨tokens', hread', hpieces, ?_⟩
    have hboth := congrArg (List.map fun t => (t.kind, t.text)) hsame
    simpa [Function.comp_def, Token.unplaced] using hboth
  · let c := engine.context r
    obtain ⟨notes, hrun⟩ : ∃ notes, run = Render.all c tokens { streams := streams, notes := notes } :=
      ⟨_, Render.template_of_tokenize (c := c) hread _⟩
    obtain ⟨notes', hrun'⟩ : ∃ notes, run' = Render.all c tokens' { streams := streams, notes := notes } :=
      ⟨_, Render.template_of_tokenize (c := c) hread' _⟩
    have hend := Render.all_echoes (c := c) r.forgets_empty hsame.symm { streams := streams, notes := notes }
      { streams := streams, notes := notes' } ⟨rfl, rfl, rfl, Array.empty_append.symm⟩
    rw [← hrun, ← hrun'] at hend
    refine ⟨hend.result, ?_⟩
    have hcalls := hend.state.calls
    rwa [Array.empty_append] at hcalls

/-- A loop whose opener ends on a new line, and whose end command has blanks on both sides. -/
theorem format_padded_lineBreak :
    let engine : Engine := ⟨.default, defaultMaxDepth⟩
    let pieces : List Piece := [(.text, []), (.command, "@b,i".text), (.text, []), (.command, ['i']),
      (.text, [';']), (.command, "/@b".text), (.text, [])]
    let pieces' : List Piece := [(.text, []), (.command, "@b,i\n".text), (.text, []), (.command, ['i']),
      (.text, [';']), (.command, " /@b\t".text), (.text, [])]
    let run := engine.format sparseResolver [] (Piece.writeAll .default pieces')
    (∃ tokens, tokenize .default (Piece.writeAll .default pieces) = .ok tokens ∧
      tokens.map Token.piece = pieces) ∧
      List.Forall₂ Piece.Padded pieces pieces' ∧
      run.1.mapError Failure.unplaced = .ok "1;2;".text ∧ run.2.calls = #["b".text] := by
  intro engine pieces pieces' run
  have hread : tokenize .default (Piece.writeAll .default pieces) =
      .ok ((tokenize .default (Piece.writeAll .default pieces)).toOption.getD []) := by
    decide +kernel
  have hpieces : ((tokenize .default (Piece.writeAll .default pieces)).toOption.getD []).map Token.piece =
      pieces := by
    decide +kernel
  have hopener : Piece.Padded (.command, "@b,i".text) (.command, "@b,i\n".text) :=
    .command [] _ ['\n'] (List.forall_mem_nil _) (List.forall_mem_singleton.2 rfl)
  have hend : Piece.Padded (.command, "/@b".text) (.command, " /@b\t".text) :=
    .command [' '] _ ['\t'] (List.forall_mem_singleton.2 rfl) (List.forall_mem_singleton.2 rfl)
  have hname : Piece.Padded (.command, ['i']) (.command, ['i']) :=
    .command [] _ [] (List.forall_mem_nil _) (List.forall_mem_nil _)
  have hpad : List.Forall₂ Piece.Padded pieces pieces' :=
    .cons (.text _) (.cons hopener (.cons (.text _) (.cons hname (.cons (.text _) (.cons hend
      (.cons (.text _) .nil))))))
  have hrun : (engine.format sparseResolver [] (Piece.writeAll .default pieces)).1 = .ok "1;2;".text := by
    decide +kernel
  have hcalls : (engine.format sparseResolver [] (Piece.writeAll .default pieces)).2.calls = #["b".text] := by
    decide +kernel
  have hopen : ∀ c ∈ engine.markers.opening.text, Text.isBlank c = false :=
    List.forall_mem_cons.2 ⟨rfl, List.forall_mem_singleton.2 rfl⟩
  have hclose : ∀ c ∈ engine.markers.closing.text, Text.isBlank c = false :=
    List.forall_mem_cons.2 ⟨rfl, List.forall_mem_singleton.2 rfl⟩
  obtain ⟨-, htext, hasked⟩ := format_padded engine sparseResolver [] hread hopen hclose
    (hpieces.symm ▸ hpad)
  rw [hrun] at htext
  exact ⟨⟨_, hread, hpieces⟩, hpad, htext, hasked.trans hcalls⟩

end Engine

end TextTemplate
