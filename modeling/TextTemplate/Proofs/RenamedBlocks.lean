import TextTemplate.Proofs.DefaultBlocks
import TextTemplate.Proofs.RenamedSource

/-!
# Blocks of renamed templates

Where the new name is no first segment, expressions that are renamed, or not, differ as they did before. So no
block ends where it did not, and a template can be told from its source with the new name too.
-/

namespace TextTemplate

namespace Text

lemma firstSegment_congr {m : Markers} {e f : Text} (h : trimEnd e = trimEnd f) :
    e.firstSegment m = f.firstSegment m := by
  rw [firstSegment, ← trim_trimEnd, h, trim_trimEnd, firstSegment]

section Renamed

variable {x y e f : Text}

lemma StartsIn.trimEnd {lead rest : Text} (h : e.StartsIn lead x rest) (hx : x.IsClean) :
    (Text.trimEnd e).StartsIn lead x (Text.trimEnd rest) := by
  have hagain : Text.trimEnd (Text.trimEnd rest) = Text.trimEnd rest := List.rdropWhile_idempotent isBlank rest
  have hkept : Text.trimEnd (x ++ rest) ≠ [] := by
    rw [hx.trimEnd_append]
    exact List.append_ne_nil_of_left_ne_nil hx.ne_nil _
  refine ⟨?_, h.blank, ?_⟩
  · rw [h.eq, trimEnd_append, if_neg hkept, hx.trimEnd_append]
  · rw [hagain]
    exact h.ends

lemma firstSegment_renameFirst (hx : x.IsClean) (hy : y.IsClean) (h : e.firstSegment .default = x) :
    (e.renameFirst .default x y).firstSegment .default = y := by
  obtain ⟨lead, rest, hstart⟩ := exists_startsIn hx h
  have hrenamed := hstart.renamed hx y
  exact hrenamed.firstSegment hy

lemma trimEnd_eq_replaceStart (hx : x.IsClean) (hy : y.IsClean) (h : e.firstSegment .default = x) :
    trimEnd e = (trimEnd (e.renameFirst .default x y)).replaceStart y x := by
  obtain ⟨lead, rest, hstart⟩ := exists_startsIn hx h
  have hrenamed := hstart.renamed hx y
  rw [(hrenamed.trimEnd hy).replaceStart hy, (hstart.trimEnd hx).eq]

lemma trimEnd_renameFirst (hx : x.IsClean) (hy : y.IsClean) (he : e.firstSegment .default ≠ y)
    (hf : f.firstSegment .default ≠ y)
    (h : trimEnd (e.renameFirst .default x y) = trimEnd (f.renameFirst .default x y)) :
    trimEnd e = trimEnd f := by
  have hsegment := firstSegment_congr (m := .default) h
  by_cases hex : e.firstSegment .default = x <;> by_cases hfx : f.firstSegment .default = x
  · rw [trimEnd_eq_replaceStart hx hy hex, h, ← trimEnd_eq_replaceStart hx hy hfx]
  · rw [firstSegment_renameFirst hx hy hex, renameFirst_of_ne hfx] at hsegment
    exact absurd hsegment.symm hf
  · rw [renameFirst_of_ne hex, firstSegment_renameFirst hx hy hfx] at hsegment
    exact absurd hsegment he
  · rwa [renameFirst_of_ne hex, renameFirst_of_ne hfx] at h

end Renamed

end Text

namespace Template

lemma listing_rename (m : Markers) (x y : Text) (t : Template) :
    (t.rename m x y).listing = t.listing.map fun command => (command.1, command.2.renameFirst m x y) := by
  induction t <;> simp_all [rename, listing]

/-! ## Renaming -/

section Renaming

variable {x y : Text} {t t' : Template}

lemma renameFirst_not_isPrefix (hx : x.IsClean) (hy : y.IsClean) (n : MarkerName) {e : Text}
    (h : ¬ (Markers.default.get n).text <+: e.trim) :
    ¬ (Markers.default.get n).text <+: (e.renameFirst .default x y).trim := by
  by_cases hsegment : e.firstSegment .default = x
  · obtain ⟨lead, rest, hstart⟩ := Text.exists_startsIn hx hsegment
    have hrenamed := hstart.renamed hx y
    rw [hrenamed.trim hy]
    exact hy.not_isPrefix (List.prefix_append _ _) n
  · rwa [Text.renameFirst_of_ne hsegment]

/-- Of the commands that do not open a loop, each was there before, perhaps with the old name. -/
def CameFrom (x y : Text) (t' t : Template) : Prop :=
  ∀ kind e', (∀ name?, kind ≠ .loop name?) → (kind, e') ∈ t'.listing →
    ∃ e, (kind, e) ∈ t.listing ∧ (e' = e ∨ e' = e.renameFirst .default x y)

lemma cameFrom_rename (x y : Text) (t : Template) : CameFrom x y (t.rename .default x y) t := by
  intro kind e' _ hmem
  rw [listing_rename] at hmem
  obtain ⟨⟨_, e⟩, hsource, heq⟩ := List.mem_map.1 hmem
  obtain ⟨rfl, rfl⟩ := Prod.mk.inj heq
  exact ⟨e, hsource, .inr rfl⟩

lemma RenamesLoop.cameFrom (h : t.RenamesLoop .default x y t') : CameFrom x y t' t := by
  intro kind e' hkind hmem
  induction h <;> grind [listing, listing_rename]

lemma CameFrom.isPlain (hx : x.IsClean) (hy : y.IsClean) (h : CameFrom x y t' t) (ht : t.IsPlain .default) :
    t'.IsPlain .default := by
  rintro ⟨kind, e'⟩ hmem rfl n hn
  obtain ⟨e, hsource, hsame⟩ := h .shown e' (fun _ => by simp) hmem
  have hplain := ht _ hsource rfl n hn
  rcases hsame with rfl | rfl
  · exact hplain
  · exact renameFirst_not_isPrefix hx hy n hplain

lemma CameFrom.omits (hx : x.IsClean) (hy : y.IsClean) (h : CameFrom x y t' t) {kind : CommandKind}
    (hkind : kind.Repeats) {e : Text} (homits : t.Omits kind e) (he : e.firstSegment .default ≠ y) :
    t'.Omits kind e := by
  intro e' hmem hsame
  have hother : ∀ name?, kind ≠ .loop name? := by
    rintro name? rfl
    cases hkind
  obtain ⟨f, hsource, rfl | rfl⟩ := h kind e' hother hmem
  · exact homits _ hsource hsame
  · by_cases hsegment : f.firstSegment .default = x
    · rw [← Text.firstSegment_congr hsame, Text.firstSegment_renameFirst hx hy hsegment] at he
      exact he rfl
    · rw [Text.renameFirst_of_ne hsegment] at hsame
      exact homits f hsource hsame

lemma Omits.rename (hx : x.IsClean) (hy : y.IsClean) {kind : CommandKind} {e : Text}
    (h : t.Omits kind e) (hfree : ¬ t.Mentions .default y) (he : e.firstSegment .default ≠ y) :
    (t.rename .default x y).Omits kind (e.renameFirst .default x y) := by
  intro e' hmem hsame
  rw [listing_rename] at hmem
  obtain ⟨⟨_, f⟩, hsource, heq⟩ := List.mem_map.1 hmem
  obtain ⟨rfl, rfl⟩ := Prod.mk.inj heq
  have hf : f.firstSegment .default ≠ y := fun hy => hfree ⟨_, hsource, hy⟩
  exact h f hsource (Text.trimEnd_renameFirst hx hy hf he hsame)

lemma Distinct.rename (hx : x.IsClean) (hy : y.IsClean) (ht : t.Distinct .default) (hplain : t.IsPlain .default)
    (hfree : ¬ t.Mentions .default y) : (t.rename .default x y).Distinct .default := by
  induction t with
  | empty => trivial
  | literal text rest ih => exact ih ht hplain hfree
  | substitution e rest ih =>
    obtain ⟨hshown, hrest⟩ := ht
    rw [isPlain_substitution] at hplain
    rw [mentions_substitution, not_or] at hfree
    refine ⟨⟨?_, ?_, ?_⟩, ih hrest hplain.2 hfree.2⟩
    · exact renameFirst_not_isPrefix hx hy .ending hshown.not_ending
    · exact renameFirst_not_isPrefix hx hy .loop hshown.not_loop
    · exact renameFirst_not_isPrefix hx hy .test hshown.not_test
  | conditional test holds rest ihh ihr =>
    obtain ⟨hblock, hholds, hrest⟩ := ht
    rw [isPlain_conditional] at hplain
    rw [mentions_conditional, not_or, not_or] at hfree
    obtain ⟨htest, hfreeHolds, hfreeRest⟩ := hfree
    obtain ⟨hend, hseparator⟩ := (readsAsConditional_iff_omits hplain.1).1 hblock
    refine ⟨(readsAsConditional_iff_omits ((cameFrom_rename x y holds).isPlain hx hy hplain.1)).2 ⟨?_, ?_⟩,
      ihh hholds hplain.1 hfreeHolds, ihr hrest hplain.2 hfreeRest⟩
    · exact hend.rename hx hy hfreeHolds htest
    · exact hseparator.rename hx hy hfreeHolds htest
  | choice test holds otherwise rest ihh iho ihr =>
    obtain ⟨hblock, hholds, hotherwise, hrest⟩ := ht
    obtain ⟨hplainHolds, hplainOther, hplainRest⟩ := (isPlain_choice ..).1 hplain
    rw [mentions_choice, not_or, not_or, not_or] at hfree
    obtain ⟨htest, hfreeHolds, hfreeOther, hfreeRest⟩ := hfree
    obtain ⟨⟨hend, hseparator⟩, hend'⟩ := (readsAsChoice_iff_omits hplainHolds hplainOther).1 hblock
    refine ⟨(readsAsChoice_iff_omits ((cameFrom_rename x y holds).isPlain hx hy hplainHolds)
      ((cameFrom_rename x y otherwise).isPlain hx hy hplainOther)).2 ⟨⟨?_, ?_⟩, ?_⟩,
      ihh hholds hplainHolds hfreeHolds, iho hotherwise hplainOther hfreeOther,
      ihr hrest hplainRest hfreeRest⟩
    · exact hend.rename hx hy hfreeHolds htest
    · exact hseparator.rename hx hy hfreeHolds htest
    · exact hend'.rename hx hy hfreeOther htest
  | loop target name? body rest ihb ihr =>
    obtain ⟨hblock, hbody, hrest⟩ := ht
    rw [isPlain_loop] at hplain
    rw [mentions_loop, not_or, not_or] at hfree
    obtain ⟨htarget, hfreeBody, hfreeRest⟩ := hfree
    obtain ⟨havoids, hname, hend⟩ := (readsAsLoop_iff_omits hplain.1).1 hblock
    refine ⟨(readsAsLoop_iff_omits ((cameFrom_rename x y body).isPlain hx hy hplain.1)).2 ⟨?_, hname, ?_⟩,
      ihb hbody hplain.1 hfreeBody, ihr hrest hplain.2 hfreeRest⟩
    · exact (Text.swapped_renameFirst hx target y).avoids hy .args havoids
    · exact hend.rename hx hy hfreeBody htarget

lemma RenamesLoop.distinct (hx : x.IsClean) (hy : y.IsClean) (h : t.RenamesLoop .default x y t')
    (ht : t.Distinct .default) (hplain : t.IsPlain .default) : t'.Distinct .default := by
  induction h with
  | @here target name body rest hname htarget hfree =>
    obtain ⟨hblock, hbody, hrest⟩ := ht
    rw [isPlain_loop] at hplain
    have hcame := cameFrom_rename x y body
    obtain ⟨havoids, hvariable, hend⟩ := (readsAsLoop_iff_omits hplain.1).1 hblock
    refine ⟨(readsAsLoop_iff_omits (hcame.isPlain hx hy hplain.1)).2 ⟨havoids, ?_, ?_⟩,
      hbody.rename hx hy hplain.1 hfree, hrest⟩
    · rintro name' hname'
      rw [← Option.some.inj hname']
      exact (Text.swapped_replaceStart hx hname y).avoids hy .args (hvariable name rfl)
    · exact hcame.omits hx hy .loopEnd hend htarget
  | literal text _ ih => exact ih ht hplain
  | substitution e _ ih => exact ⟨ht.1, ih ht.2 ((isPlain_substitution ..).1 hplain).2⟩
  | inConditional rest htest h ih =>
    obtain ⟨hblock, hholds, hrest⟩ := ht
    rw [isPlain_conditional] at hplain
    have hcame := h.cameFrom
    obtain ⟨hend, hseparator⟩ := (readsAsConditional_iff_omits hplain.1).1 hblock
    refine ⟨(readsAsConditional_iff_omits (hcame.isPlain hx hy hplain.1)).2 ⟨?_, ?_⟩, ih hholds hplain.1, hrest⟩
    · exact hcame.omits hx hy .testEnd hend htest
    · exact hcame.omits hx hy .separator hseparator htest
  | behindConditional test holds _ ih =>
    exact ⟨ht.1, ht.2.1, ih ht.2.2 ((isPlain_conditional ..).1 hplain).2⟩
  | inChoice otherwise rest htest h ih =>
    obtain ⟨hblock, hholds, hotherwise, hrest⟩ := ht
    obtain ⟨hplainHolds, hplainOther, -⟩ := (isPlain_choice ..).1 hplain
    have hcame := h.cameFrom
    obtain ⟨⟨hend, hseparator⟩, hend'⟩ := (readsAsChoice_iff_omits hplainHolds hplainOther).1 hblock
    refine ⟨(readsAsChoice_iff_omits (hcame.isPlain hx hy hplainHolds) hplainOther).2 ⟨⟨?_, ?_⟩, hend'⟩,
      ih hholds hplainHolds, hotherwise, hrest⟩
    · exact hcame.omits hx hy .testEnd hend htest
    · exact hcame.omits hx hy .separator hseparator htest
  | inOtherwise holds rest htest h ih =>
    obtain ⟨hblock, hholds, hotherwise, hrest⟩ := ht
    obtain ⟨hplainHolds, hplainOther, -⟩ := (isPlain_choice ..).1 hplain
    have hcame := h.cameFrom
    obtain ⟨hheld, hend⟩ := (readsAsChoice_iff_omits hplainHolds hplainOther).1 hblock
    refine ⟨(readsAsChoice_iff_omits hplainHolds (hcame.isPlain hx hy hplainOther)).2 ⟨hheld, ?_⟩,
      hholds, ih hotherwise hplainOther, hrest⟩
    exact hcame.omits hx hy .testEnd hend htest
  | behindChoice test holds otherwise _ ih =>
    exact ⟨ht.1, ht.2.1, ht.2.2.1, ih ht.2.2.2 ((isPlain_choice ..).1 hplain).2.2⟩
  | inLoop rest htarget _ h ih =>
    obtain ⟨hblock, hbody, hrest⟩ := ht
    rw [isPlain_loop] at hplain
    have hcame := h.cameFrom
    obtain ⟨havoids, hvariable, hend⟩ := (readsAsLoop_iff_omits hplain.1).1 hblock
    refine ⟨(readsAsLoop_iff_omits (hcame.isPlain hx hy hplain.1)).2 ⟨havoids, hvariable, ?_⟩,
      ih hbody hplain.1, hrest⟩
    exact hcame.omits hx hy .loopEnd hend htarget
  | behindLoop target name? body _ ih =>
    exact ⟨ht.1, ht.2.1, ih ht.2.2 ((isPlain_loop ..).1 hplain).2⟩

lemma RenamesLoop.printable (hx : x.IsClean) (hy : y.IsClean) (h : t.RenamesLoop .default x y t')
    (ht : t.Printable .default) (hplain : t.IsPlain .default) : t'.Printable .default :=
  ⟨Piece.legible_swapped hx hy (h.pieces hx []) (.same []) ht.1, h.distinct hx hy ht.2 hplain⟩

end Renaming

end Template

end TextTemplate
