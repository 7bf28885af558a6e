import Mathlib.Control.Monad.Basic
import TextTemplate.Proofs.Outcomes
import TextTemplate.Proofs.TreeSource

/-!
# Rendering the source of a template tree

The rendering of the source of a tree comes to what the tree means. It is proved by induction on the tree,
for every list of tokens that is read from its pieces, every loop stack and every depth.
-/

namespace TextTemplate.Render

/-! ## Tokens read from pieces -/

/-- The tokens are read from the pieces, on whatever lines. -/
def Reads (tokens : List Token) (pieces : List Piece) : Prop :=
  tokens.map (fun t => (t.kind, t.text)) = pieces.map fun p => (p.1, p.text)

lemma reads_singleton {tokens : List Token} {p : Piece} (h : Reads tokens [p]) :
    ∃ t, tokens = [t] ∧ t.kind = p.1 ∧ t.text = p.text := by
  obtain ⟨t, rfl, ht⟩ := List.map_eq_singleton_iff.1 h
  rw [Prod.mk.injEq] at ht
  exact ⟨t, rfl, ht.1, ht.2⟩

lemma reads_cons {tokens : List Token} {p : Piece} {pieces : List Piece} (h : Reads tokens (p :: pieces)) :
    ∃ t rest, tokens = t :: rest ∧ t.kind = p.1 ∧ t.text = p.text ∧ Reads rest pieces := by
  obtain ⟨t, rest, rfl, ht, hrest⟩ := List.map_eq_cons_iff.1 h
  rw [Prod.mk.injEq] at ht
  exact ⟨t, rest, rfl, ht.1, ht.2, hrest⟩

lemma reads_append {tokens : List Token} {a b : List Piece} (h : Reads tokens (a ++ b)) :
    ∃ first second, tokens = first ++ second ∧ Reads first a ∧ Reads second b := by
  rw [Reads, List.map_append] at h
  obtain ⟨first, second, rfl, hfirst, hsecond⟩ := List.map_eq_append_iff.1 h
  exact ⟨first, second, rfl, hfirst, hsecond⟩

lemma reads_block {tokens : List Token} {lead opener close : Text} {body rest : List Piece}
    (h : Reads tokens ((.text, lead) :: (.command, opener) :: (body ++ (.command, close) :: rest))) :
    ∃ (before first last : Token) (inner after : List Token),
      tokens = before :: first :: (inner ++ last :: after) ∧
      before.isCommand = false ∧ before.text = lead ∧
      first.isCommand = true ∧ first.text = opener.trim ∧
      last.isCommand = true ∧ last.text = close.trim ∧ Reads inner body ∧ Reads after rest := by
  obtain ⟨before, tail, rfl, hbefore, hlead, htail⟩ := reads_cons h
  obtain ⟨first, tail, rfl, hfirst, hopener, htail⟩ := reads_cons htail
  obtain ⟨inner, tail, rfl, hinner, htail⟩ := reads_append htail
  obtain ⟨last, after, rfl, hlast, hclose, hafter⟩ := reads_cons htail
  exact ⟨before, first, last, inner, after, rfl, by simp [Token.isCommand, hbefore], hlead,
    by simp [Token.isCommand, hfirst], hopener, by simp [Token.isCommand, hlast], hclose, hinner, hafter⟩

lemma text_ne_of_reads {m : Markers} {tokens : List Token} {t : Template} {text : Text}
    (h : Reads tokens (t.pieces m [])) (hfree : text ∉ t.commands m) :
    ∀ u ∈ tokens, u.isCommand = true → u.text ≠ text := by
  intro u hu hcommand heq
  have hmem : (u.kind, u.text) ∈ (t.pieces m []).map fun p => (p.1, p.text) := by
    rw [← h]
    exact List.mem_map_of_mem hu
  obtain ⟨p, hp, heqp⟩ := List.mem_map.1 hmem
  rw [Prod.mk.injEq] at heqp
  have hkind : p.1 = .command := by
    rw [heqp.1]
    simpa [Token.isCommand] using hcommand
  refine hfree (List.mem_filterMap.2 ⟨p, hp, ?_⟩)
  rw [if_pos hkind, heqp.2, heq]

/-! ## The tree -/

/-- Tokens that are read from the pieces of a tree, behind some text, come to that text and what the tree
means, under every loop stack and at every depth. -/
def RendersMeaning (c : Context) (t : Template) : Prop :=
  ∀ (tokens : List Token) (lead : Text), Reads tokens (t.pieces c.markers lead) →
    ∀ (frames : List Frame) (depth : Nat),
      Renders (all c tokens) frames depth ((Outcome.text lead).append (t.meaning c.environment frames depth))

section RendersMeaning

variable {c : Context}

lemma RendersMeaning.renders {t : Template} (h : RendersMeaning c t) {tokens : List Token}
    (hreads : Reads tokens (t.pieces c.markers [])) (frames : List Frame) (depth : Nat) :
    Renders (all c tokens) frames depth (t.meaning c.environment frames depth) := by
  have hrun := h tokens [] hreads frames depth
  rwa [Outcome.text_append] at hrun

lemma rendersMeaning_empty (c : Context) : RendersMeaning c .empty := by
  intro tokens lead h frames depth
  obtain ⟨t, rfl, hkind, rfl⟩ := reads_singleton h
  rw [all_text (by simp [Token.isCommand, hkind]), all_nil]
  exact renders_append (renders_return _) (renders_return [])

lemma rendersMeaning_literal (text : Text) {rest : Template} (hrest : RendersMeaning c rest) :
    RendersMeaning c (.literal text rest) := by
  intro tokens lead h frames depth
  have hrun := hrest tokens (lead ++ text) h frames depth
  have hlead : Outcome.text (lead ++ text) = (Outcome.text lead).append (.text text) := rfl
  rwa [hlead, Outcome.append_assoc] at hrun

lemma rendersMeaning_substitution (hc : c.resolver.IsFixed) {expression : Text}
    {rest : Template} (hexpression : expression.trim.IsSubstitution c.markers)
    (hrest : RendersMeaning c rest) : RendersMeaning c (.substitution expression rest) := by
  intro tokens lead h frames depth
  obtain ⟨before, tail, rfl, hbefore, rfl, htail⟩ := reads_cons h
  obtain ⟨shown, after, rfl, hshown, htext, hafter⟩ := reads_cons htail
  have hrun := hrest.renders hafter frames depth
  change shown.text = expression.trim at htext
  rw [← htext] at hexpression
  rw [all_text (by simp [Token.isCommand, hbefore]),
    all_substitution (by simp [Token.isCommand, hshown]) hexpression, Template.meaning, ← htext]
  exact renders_append (renders_return _) (renders_append (renders_substitution hc _) hrun)

lemma rendersMeaning_conditional (hc : c.resolver.IsFixed) {test : Text}
    {holds rest : Template} (hblock : Template.ReadsAsConditional c.markers test holds)
    (hholds : RendersMeaning c holds) (hrest : RendersMeaning c rest) :
    RendersMeaning c (.conditional test holds rest) := by
  intro tokens lead h frames depth
  obtain ⟨before, first, last, inner, after, rfl, hbefore, rfl, hfirst, hopener, hlast, hclose, hinner,
    hafter⟩ := reads_block h
  have htest := Template.test_of_testOpener hblock.opens
  obtain ⟨hopens, hend, hinside, hother⟩ := hblock
  rw [← hopener] at hopens htest hend hinside hother
  have hchosen := renders_conditional hc ⟨first, test.trim, none, 1 + inner.length⟩
    (hholds.renders hinner frames (depth + 1))
  dsimp only at hchosen
  rw [hopener] at hchosen
  rw [all_text hbefore, all_conditional hfirst hopens hlast (hclose.trans hend)
    (text_ne_of_reads hinner hinside) (text_ne_of_reads hinner hother), htest, Template.meaning]
  exact renders_append (renders_return _) (renders_append hchosen (hrest.renders hafter frames depth))

lemma rendersMeaning_choice (hc : c.resolver.IsFixed) {test : Text}
    {holds otherwise rest : Template} (hblock : Template.ReadsAsChoice c.markers test holds otherwise)
    (hholds : RendersMeaning c holds) (hotherwise : RendersMeaning c otherwise)
    (hrest : RendersMeaning c rest) : RendersMeaning c (.choice test holds otherwise rest) := by
  intro tokens lead h frames depth
  obtain ⟨before, first, last, inner, after, rfl, hbefore, rfl, hfirst, hopener, hlast, hclose, hinner,
    hafter⟩ := reads_block h
  obtain ⟨held, tail, rfl, hheld, htail⟩ := reads_append hinner
  obtain ⟨separator, other, rfl, hkind, hseparated, hreads⟩ := reads_cons htail
  have htest := Template.test_of_testOpener hblock.opens
  obtain ⟨⟨hopens, hend, hinside, hother⟩, hseparates, hne, hinside'⟩ := hblock
  rw [← hopener] at hopens htest hend hinside hother hseparates hinside'
  have hseparator : separator.isCommand = true := by simp [Token.isCommand, hkind]
  have htext : separator.text = c.markers.otherwise.text ++ first.text := hseparated.trans hseparates
  -- the separator does not close the block, since the two markers differ
  have hbody : ∀ u ∈ held ++ separator :: other, u.isCommand = true →
      u.text ≠ c.markers.ending.text ++ first.text := by
    intro u hu hcommand
    rw [List.mem_append, List.mem_cons] at hu
    obtain hu | rfl | hu := hu
    · exact text_ne_of_reads hheld hinside u hu hcommand
    · intro h
      rw [htext] at h
      exact hne (Marker.ext (List.append_cancel_right h))
    · exact text_ne_of_reads hreads hinside' u hu hcommand
  have hchosen := renders_choice hc
    ⟨first, test.trim, some (1 + held.length), 1 + (held ++ separator :: other).length⟩
    (hholds.renders hheld frames (depth + 1)) (hotherwise.renders hreads frames (depth + 1))
  dsimp only at hchosen
  rw [hopener] at hchosen
  rw [all_text hbefore, all_choice hfirst hopens hlast (hclose.trans hend) hseparator htext hbody
    (text_ne_of_reads hheld hother), htest, Template.meaning]
  exact renders_append (renders_return _) (renders_append hchosen (hrest.renders hafter frames depth))

lemma rendersMeaning_loop (hc : c.resolver.IsFixed) {target : Text} {name? : Option Text}
    {body rest : Template} (hblock : Template.ReadsAsLoop c.markers target name? body)
    (hbody : RendersMeaning c body) (hrest : RendersMeaning c rest) :
    RendersMeaning c (.loop target name? body rest) := by
  intro tokens lead h frames depth
  obtain ⟨before, first, last, inner, after, rfl, hbefore, rfl, hfirst, hopener, hlast, hclose, hinner,
    hafter⟩ := reads_block h
  obtain ⟨hopens, htarget, hname, hend, hinside⟩ := hblock
  rw [← hopener] at hopens htarget hname hend hinside
  have hwalked := fun current => hbody.renders hinner (frames ++ [current]) (depth + 1)
  have hloop := renders_loop hc ⟨first, target.trim, (name?.map Text.trim).filter (· ≠ []),
    1 + inner.length⟩ (balanced_range c _ _ _) hwalked
  dsimp only at hloop
  rw [hopener] at hloop
  rw [all_text hbefore, all_loop hfirst hopens hlast (hclose.trans hend)
    (text_ne_of_reads hinner hinside), htarget, hname, Template.meaning]
  exact renders_append (renders_return _) (renders_append hloop (hrest.renders hafter frames depth))

lemma rendersMeaning_of_distinct (hc : c.resolver.IsFixed) {t : Template}
    (ht : t.Distinct c.markers) : RendersMeaning c t := by
  induction t with
  | empty => exact rendersMeaning_empty c
  | literal text rest ih => exact rendersMeaning_literal text (ih ht)
  | substitution expression rest ih => exact rendersMeaning_substitution hc ht.1 (ih ht.2)
  | conditional test holds rest ihh ihr =>
    obtain ⟨hblock, hholds, hrest⟩ := ht
    exact rendersMeaning_conditional hc hblock (ihh hholds) (ihr hrest)
  | choice test holds otherwise rest ihh iho ihr =>
    obtain ⟨hblock, hholds, hotherwise, hrest⟩ := ht
    exact rendersMeaning_choice hc hblock (ihh hholds) (iho hotherwise) (ihr hrest)
  | loop target name? body rest ihb ihr =>
    obtain ⟨hblock, hbody, hrest⟩ := ht
    exact rendersMeaning_loop hc hblock (ihb hbody) (ihr hrest)

end RendersMeaning

/-! ## The source of a tree -/

lemma tokens_of_tokenize {m : Markers} {source : Text} {read : List Token} (h : tokenize m source = .ok read)
    (s : RunState) :
    tokens m source s =
      (.ok read, { s with notes := s.notes.push (.tokenized read.length (lastLine read)) }) := by
  unfold tokens
  rw [h]
  rfl

lemma reads_of_printable {m : Markers} {t : Template} (h : t.Printable m) :
    ∃ read, tokenize m (t.source m) = .ok read ∧ Reads read (t.pieces m []) := by
  obtain ⟨read, hread, hpieces⟩ := tokenize_writeAll h.1
  have hsource : Piece.writeAll m (t.pieces m []) = t.source m := Template.writeAll_pieces m t []
  rw [hsource] at hread
  refine ⟨read, hread, ?_⟩
  unfold Reads
  rw [← hpieces, List.map_map]
  refine List.map_congr_left fun u hu => ?_
  have htext := (isRead_of_tokenize hread u hu).text_eq
  unfold Token.piece Piece.text
  cases hkind : u.kind <;> simp_all [Token.isCommand]

lemma renders_source {c : Context} (hc : c.resolver.IsFixed) {t : Template} (ht : t.Printable c.markers)
    (frames : List Frame) (depth : Nat) :
    Renders (template c (t.source c.markers)) frames depth (t.meaning c.environment frames depth) := by
  obtain ⟨read, htokenize, hreads⟩ := reads_of_printable ht
  have hrun := (rendersMeaning_of_distinct hc ht.2).renders hreads frames depth
  intro s hframes hdepth hstreams
  have hend := hrun { s with notes := s.notes.push (.tokenized read.length (lastLine read)) }
    hframes hdepth hstreams
  unfold template
  rw [bind_apply, tokens_of_tokenize htokenize]
  exact ⟨hend.result, hend.calls, hend.frames, hend.depth, hend.streams⟩

end TextTemplate.Render

namespace TextTemplate.Engine

/-- The rendering of the source of a template comes to what the template means: the same text, or the same
failure on whatever line, and the same questions to the resolver. -/
def FormatsAsMeant (engine : Engine) (r : Resolver) (t : Template) : Prop :=
  let run := engine.format r [] (t.source engine.markers)
  let meant := t.meaning (engine.context r).environment [] 0
  run.1.mapError Failure.unplaced = meant.result.mapError Failure.unplaced ∧
    run.2.calls.toList = meant.calls

instance (engine : Engine) (r : Resolver) (t : Template) : Decidable (engine.FormatsAsMeant r t) :=
  inferInstanceAs (Decidable (_ = _ ∧ _ = _))

theorem format_source (engine : Engine) {r : Resolver} (hr : r.IsFixed) {t : Template}
    (ht : t.Printable engine.markers) : engine.FormatsAsMeant r t := by
  have hrun := Render.renders_source (c := engine.context r) hr ht [] 0
  have hend := hrun {} rfl rfl rfl
  exact ⟨hend.result, hend.calls⟩

/-- Lists under `xs`, and the truth under every other name. -/
def sampleResolver : Resolver :=
  .ofFunction fun e => .ok (if e = "xs".text then .list [.int 1, .int 0] else .bool true)

/-- A conditional in a branch of a choice in a loop. -/
def nestedTemplate : Template :=
  let marked := .conditional ['d', 'e', 'e', 'p'] (.literal ['+'] .empty) .empty
  let choice := .choice ['i', 't'] (.substitution ['i', 't'] marked) (.literal ['-'] .empty) .empty
  .loop ['x', 's'] (some ['i', 't']) choice (.literal ['.'] .empty)

theorem format_source_nested :
    sampleResolver.IsFixed ∧ nestedTemplate.Printable Markers.default ∧
      FormatsAsMeant ⟨Markers.default, 3⟩ sampleResolver nestedTemplate := by
  have hfixed : sampleResolver.IsFixed := Resolver.isFixed_ofFunction _
  have hprintable : nestedTemplate.Printable Markers.default := by decide +kernel
  exact ⟨hfixed, hprintable, format_source ⟨Markers.default, 3⟩ hfixed hprintable⟩

/-- A conditional that starts with a conditional on the same test. -/
def repeatedTest : Template :=
  .conditional ['a'] (.conditional ['a'] (.literal ['x'] .empty) (.literal ['y'] .empty)) .empty

/-- The end of the inner block is taken for that of the outer one, which leaves the inner one without. -/
theorem format_source_repeatedTest :
    sampleResolver.IsFixed ∧
      (repeatedTest.meaning (context ⟨Markers.default, 0⟩ sampleResolver).environment [] 0).result =
        .ok ['x', 'y'] ∧
      (format ⟨Markers.default, 0⟩ sampleResolver [] (repeatedTest.source Markers.default)).1 =
        .error (.unterminated .conditional ['?', 'a'] 1) ∧
      ¬ FormatsAsMeant ⟨Markers.default, 0⟩ sampleResolver repeatedTest := by
  have hfixed : sampleResolver.IsFixed := Resolver.isFixed_ofFunction _
  exact ⟨hfixed, by decide +kernel, by decide +kernel, by decide +kernel⟩

end TextTemplate.Engine
