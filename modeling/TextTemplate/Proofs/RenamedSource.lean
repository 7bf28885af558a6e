import Mathlib.Data.List.Forall2
import TextTemplate.Proofs.Paths
import TextTemplate.Proofs.TreeSource

/-!
# Sources of renamed templates

Where a template can be told from its source, so can the template with a loop variable renamed. A clean segment
that takes the place of another one brings no marker with it; and two blocks that are renamed alike, or that
are not both renamed, end in the same text only if they did before.
-/

namespace TextTemplate

/-! ## A segment in the place of another -/

namespace Text

/-- A text as it was, or with one text for another somewhere in it. -/
inductive Swapped (x y : Text) : Text → Text → Prop
  | same (t : Text) : Swapped x y t t
  | swap (before after : Text) : Swapped x y (before ++ (x ++ after)) (before ++ (y ++ after))

section Swapped

variable {x y t t' : Text}

lemma Swapped.prepend (h : Swapped x y t t') (u : Text) : Swapped x y (u ++ t) (u ++ t') := by
  cases h with
  | same => exact .same _
  | swap before after =>
    have hswap := Swapped.swap (x := x) (y := y) (u ++ before) after
    rwa [List.append_assoc, List.append_assoc] at hswap

lemma Swapped.append (h : Swapped x y t t') (u : Text) : Swapped x y (t ++ u) (t' ++ u) := by
  cases h with
  | same => exact .same _
  | swap before after =>
    rw [List.append_assoc, List.append_assoc, List.append_assoc, List.append_assoc]
    exact .swap before (after ++ u)

lemma swapped_renameFirst (hx : x.IsClean) (e y : Text) : Swapped x y e (e.renameFirst .default x y) := by
  by_cases h : e.firstSegment .default = x
  · obtain ⟨lead, rest, hstart⟩ := exists_startsIn hx h
    rw [hstart.renameFirst hx, hstart.eq]
    exact .swap lead rest
  · rw [renameFirst_of_ne h]
    exact .same e

lemma swapped_replaceStart (hx : x.IsClean) {name : Text} (hname : name.trim = x) (y : Text) :
    Swapped x y name (name.replaceStart x y) := by
  obtain ⟨lead, rest, hstart⟩ := exists_startsIn hx (firstSegment_of_trim hx hname)
  rw [hstart.replaceStart hx, hstart.eq]
  exact .swap lead rest

lemma Swapped.avoids (hy : y.IsClean) (n : MarkerName) (h : Swapped x y t t')
    (ht : Avoids (Markers.default.get n) t) : Avoids (Markers.default.get n) t' := by
  cases h with
  | same => exact ht
  | swap before after =>
    have hbefore : Avoids (Markers.default.get n) before := fun c hc => ht c (List.mem_append_left _ hc)
    have hafter : Avoids (Markers.default.get n) after := fun c hc =>
      ht c (List.mem_append_right _ (List.mem_append_right _ hc))
    exact hbefore.append ((hy.avoids n).append hafter)

lemma Swapped.infix_iff (hx : x.IsClean) (hy : y.IsClean) (n : MarkerName) (h : Swapped x y t t') :
    (Markers.default.get n).text <:+: t ↔ (Markers.default.get n).text <:+: t' := by
  cases h with
  | same => exact Iff.rfl
  | swap before after =>
    rw [infix_around hx.ne_nil (hx.avoids n), infix_around hy.ne_nil (hy.avoids n)]

end Swapped

end Text

/-! ## Pieces -/

/-- Pieces with one segment for another in some of the commands. -/
inductive Piece.Swapped (x y : Text) : Piece → Piece → Prop
  | text (t : Text) : Swapped x y (.text, t) (.text, t)
  | command {raw raw' : Text} (h : Text.Swapped x y raw raw') : Swapped x y (.command, raw) (.command, raw')

section Pieces

variable {x y : Text}

lemma Piece.legible_swapped (hx : x.IsClean) (hy : y.IsClean) {before before' : Text}
    {pieces pieces' : List Piece} (hpieces : List.Forall₂ (Piece.Swapped x y) pieces pieces')
    (hbefore : Text.Swapped x y before before') (h : Piece.Legible .default before pieces) :
    Piece.Legible .default before' pieces' := by
  fun_induction Piece.Legible .default before pieces generalizing before' pieces' with
  | case1 before t =>
    obtain _ | ⟨⟨⟩, ⟨⟩⟩ := hpieces
    have hopening := (hbefore.append t).infix_iff hx hy .opening
    exact ⟨fun hin => h.1 (hopening.2 hin), h.2⟩
  | case2 before t raw rest ih =>
    obtain _ | ⟨⟨⟩, hothers⟩ := hpieces
    obtain _ | ⟨hcommand, hrest⟩ := hothers
    obtain _ | hraw := hcommand
    obtain ⟨hopen, ht, hclose, hlegible⟩ := h
    have hopening := ((hbefore.append t).append Markers.default.opening.text.dropLast).infix_iff hx hy .opening
    have hclosing := (hraw.append Markers.default.closing.text.dropLast).infix_iff hx hy .closing
    refine ⟨fun hin => hopen (hopening.2 hin), ht, fun hin => hclose (hclosing.2 hin), ?_⟩
    exact ih hrest (hraw.append _) hlegible
  | case3 => exact h.elim

lemma swapped_append {a a' b b' : List Piece} {raw raw' : Text} (ha : List.Forall₂ (Piece.Swapped x y) a a')
    (hraw : Text.Swapped x y raw raw') (hb : List.Forall₂ (Piece.Swapped x y) b b') :
    List.Forall₂ (Piece.Swapped x y) (a ++ (.command, raw) :: b) (a' ++ (.command, raw') :: b') :=
  List.rel_append ha (.cons (.command hraw) hb)

lemma Template.pieces_rename (hx : x.IsClean) (y : Text) (t : Template) (lead : Text) :
    List.Forall₂ (Piece.Swapped x y) (t.pieces .default lead)
      ((t.rename .default x y).pieces .default lead) := by
  have hswap : ∀ e, Text.Swapped x y e (e.renameFirst .default x y) := fun e =>
    Text.swapped_renameFirst hx e y
  induction t generalizing lead with
  | empty => exact .cons (.text lead) .nil
  | literal text rest ih => exact ih _
  | substitution e rest ih => exact .cons (.text lead) (.cons (.command (hswap e)) (ih []))
  | conditional test holds rest ihh ihr =>
    have hopener := (hswap test).prepend Markers.default.test.text
    exact .cons (.text lead) (.cons (.command hopener) (swapped_append (ihh []) (hopener.prepend _) (ihr [])))
  | choice test holds otherwise rest ihh iho ihr =>
    have hopener := (hswap test).prepend Markers.default.test.text
    have hbody := swapped_append (ihh []) (hopener.prepend Markers.default.otherwise.text) (iho [])
    exact .cons (.text lead) (.cons (.command hopener) (swapped_append hbody (hopener.prepend _) (ihr [])))
  | loop target name? body rest ihb ihr =>
    have htarget := (hswap target).prepend Markers.default.loop.text
    have hopener : Text.Swapped x y (loopOpener .default target name?)
        (loopOpener .default (target.renameFirst .default x y) name?) := by
      cases name? with
      | none => exact htarget
      | some name => exact (htarget.append _).append _
    exact .cons (.text lead) (.cons (.command hopener) (swapped_append (ihb []) (htarget.prepend _) (ihr [])))

lemma swapped_refl (pieces : List Piece) : List.Forall₂ (Piece.Swapped x y) pieces pieces := by
  rw [List.forall₂_same]
  rintro ⟨kind, t⟩ -
  cases kind with
  | text => exact .text t
  | command => exact .command (.same t)

lemma Template.RenamesLoop.pieces (hx : x.IsClean) {t t' : Template} (h : t.RenamesLoop .default x y t')
    (lead : Text) : List.Forall₂ (Piece.Swapped x y) (t.pieces .default lead) (t'.pieces .default lead) := by
  induction h generalizing lead with
  | @here target name body rest hname _ _ =>
    have hvariable := Text.swapped_replaceStart hx hname y
    exact .cons (.text lead) (.cons (.command (hvariable.prepend _))
      (swapped_append (body.pieces_rename hx y []) (.same _) (swapped_refl _)))
  | literal _ _ ih => exact ih _
  | substitution e _ ih => exact .cons (.text lead) (.cons (.command (.same e)) (ih []))
  | inConditional rest _ _ ih =>
    exact .cons (.text lead) (.cons (.command (.same _)) (swapped_append (ih []) (.same _) (swapped_refl _)))
  | behindConditional test holds _ ih =>
    exact .cons (.text lead) (.cons (.command (.same _)) (swapped_append (swapped_refl _) (.same _) (ih [])))
  | @inChoice test _ _ otherwise rest _ _ ih =>
    have hbody := swapped_append (ih []) (.same (Markers.default.otherwise.text ++ testOpener .default test))
      (swapped_refl (otherwise.pieces .default []))
    exact .cons (.text lead) (.cons (.command (.same _)) (swapped_append hbody (.same _) (swapped_refl _)))
  | @inOtherwise test _ _ holds rest _ _ ih =>
    have hbody := swapped_append (swapped_refl (holds.pieces .default []))
      (.same (Markers.default.otherwise.text ++ testOpener .default test)) (ih [])
    exact .cons (.text lead) (.cons (.command (.same _)) (swapped_append hbody (.same _) (swapped_refl _)))
  | behindChoice test holds otherwise _ ih =>
    exact .cons (.text lead) (.cons (.command (.same _)) (swapped_append (swapped_refl _) (.same _) (ih [])))
  | inLoop rest _ _ _ ih =>
    exact .cons (.text lead) (.cons (.command (.same _)) (swapped_append (ih []) (.same _) (swapped_refl _)))
  | behindLoop target name? body _ ih =>
    exact .cons (.text lead) (.cons (.command (.same _)) (swapped_append (swapped_refl _) (.same _) (ih [])))

end Pieces

end TextTemplate
