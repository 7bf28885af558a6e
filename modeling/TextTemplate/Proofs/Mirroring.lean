import TextTemplate.Proofs.Composition
import TextTemplate.Proofs.TreeMeaning

/-!
# Runs side by side

Two runs of two templates go side by side from two loop stacks if whatever one of them asks its stack is answered
as what the other one asks of the other stack. They end with the same text or with failures of one kind, and ask
the resolver the same. For trees of the same shape this comes down to the expressions of their commands and to
the frames that their loops put on the stacks.
-/

namespace TextTemplate

/-- An expression is answered by one stack as another expression is by another stack; where no frame answers,
the two are the same. -/
structure Frame.Agree (m : Markers) (frames frames' : List Frame) (e e' : Text) : Prop where
  answer : lookup? m frames' e' = lookup? m frames e
  same : lookup? m frames e = none → e' = e

lemma Frame.agree_refl (m : Markers) (frames : List Frame) (e : Text) : Agree m frames frames e e :=
  ⟨rfl, fun _ => rfl⟩

/-- Two states under these loop stacks that are equally far along, but for the notes. -/
structure Mirrored (frames frames' : List Frame) (s s' : RunState) : Prop where
  left : s.frames = frames
  right : s'.frames = frames'
  depth : s'.depth = s.depth
  streams : s'.streams = s.streams
  calls : s'.calls = s.calls

/-- The ends of two runs that stayed side by side: the same result, or failures of one kind. -/
structure EndMirrored {α : Type} (frames frames' : List Frame) (r r' : Except Failure α × RunState) : Prop where
  result : r'.1.mapError Failure.kind = r.1.mapError Failure.kind
  state : Mirrored frames frames' r.2 r'.2

namespace Render

/-- One piece of a run after another, and their texts together. -/
def followedBy (x y : Render Text) : Render Text := do
  let piece ← x
  return piece ++ (← y)

/-- Two pieces of a run that do alike under these loop stacks. -/
def Mirrors {α : Type} (frames frames' : List Frame) (x x' : Render α) : Prop :=
  ∀ s s', Mirrored frames frames' s s' → EndMirrored frames frames' (x s) (x' s')

section Mirrors

variable {α β : Type} {frames frames' : List Frame} {c : Context}

lemma mirrors_pure (a : α) : Mirrors frames frames' (pure a : Render α) (pure a) :=
  fun _ _ h => ⟨rfl, h⟩

lemma mirrors_throw {f f' : Failure} (h : f'.kind = f.kind) :
    Mirrors frames frames' (throw f : Render α) (throw f') :=
  fun _ _ hs => ⟨congrArg Except.error h, hs⟩

lemma mirrors_note (n n' : Note) : Mirrors frames frames' (note n) (note n') :=
  fun _ _ h => ⟨rfl, h.left, h.right, h.depth, h.streams, h.calls⟩

lemma mirrors_bind {x x' : Render α} {f f' : α → Render β} (hx : Mirrors frames frames' x x')
    (hf : ∀ a, Mirrors frames frames' (f a) (f' a)) : Mirrors frames frames' (x >>= f) (x' >>= f') := by
  intro s s' h
  have hend := hx s s' h
  rw [bind_apply, bind_apply]
  rcases hfirst : x s with ⟨e | a, t⟩ <;> rcases hsecond : x' s' with ⟨e' | a', t'⟩ <;>
    rw [hfirst, hsecond] at hend <;> obtain ⟨hresult, hstate⟩ := hend
  · exact ⟨congrArg Except.error (Except.error.inj hresult), hstate⟩
  · cases hresult
  · cases hresult
  · obtain rfl : a' = a := Except.ok.inj hresult
    exact hf a' t t' hstate

lemma mirrors_followedBy {x x' y y' : Render Text} (hx : Mirrors frames frames' x x')
    (hy : Mirrors frames frames' y y') : Mirrors frames frames' (followedBy x y) (followedBy x' y') :=
  mirrors_bind hx fun _ => mirrors_bind hy fun _ => mirrors_pure _

lemma mirrors_lookup {e e' : Text} (h : Frame.Agree c.markers frames frames' e e') :
    Mirrors frames frames' (lookup c e) (lookup c e') := by
  intro s s' hs
  rw [lookup_apply, lookup_apply, hs.left, hs.right, h.answer]
  rcases hanswer : Frame.lookup? c.markers frames e with _ | f | v
  · rw [h.same hanswer]
    unfold ask
    rw [hs.calls]
    exact ⟨rfl, hs.left, hs.right, hs.depth, hs.streams, rfl⟩
  · exact ⟨rfl, hs⟩
  · exact ⟨rfl, hs⟩

lemma mirrors_takePairs? (v : Value) : Mirrors frames frames' (takePairs? v) (takePairs? v) := by
  intro s s' h
  unfold takePairs?
  rw [h.streams]
  exact ⟨rfl, h.left, h.right, h.depth, rfl, h.calls⟩

lemma mirrors_inBody {x x' : Render α} (opener opener' : Token) (hx : Mirrors frames frames' x x') :
    Mirrors frames frames' (inBody c opener x) (inBody c opener' x') := by
  intro s s' h
  unfold inBody
  rw [h.depth]
  split
  · exact ⟨rfl, h⟩
  · have hend := hx { s with depth := s.depth + 1 } { s' with depth := s.depth + 1 }
      ⟨h.left, h.right, rfl, h.streams, h.calls⟩
    obtain ⟨hresult, hleft, hright, hdepth, hstreams, hcalls⟩ := hend
    exact ⟨hresult, hleft, hright, congrArg (· - 1) hdepth, hstreams, hcalls⟩

lemma mirrors_withFrame {frame frame' : Frame} {x x' : Render α}
    (hx : Mirrors (frames ++ [frame]) (frames' ++ [frame']) x x') :
    Mirrors frames frames' (withFrame frame fun _ => x) (withFrame frame' fun _ => x') := by
  intro s s' h
  have hend := hx { s with frames := s.frames ++ [frame] } { s' with frames := s'.frames ++ [frame'] }
    ⟨congrArg (· ++ [frame]) h.left, congrArg (· ++ [frame']) h.right, h.depth, h.streams, h.calls⟩
  obtain ⟨hresult, hleft, hright, hdepth, hstreams, hcalls⟩ := hend
  have hback := congrArg List.dropLast hleft
  have hback' := congrArg List.dropLast hright
  rw [List.dropLast_concat] at hback hback'
  exact ⟨hresult, hback, hback', hdepth, hstreams, hcalls⟩

lemma mirrors_substitution {e e' : Text} (h : Frame.Agree c.markers frames frames' e e') :
    Mirrors frames frames' (substitution c e) (substitution c e') := by
  refine mirrors_bind (mirrors_lookup h) fun v => ?_
  cases v.display with
  | error f => exact mirrors_throw rfl
  | ok t => exact mirrors_pure t

variable {x x' : Render Text}

lemma mirrors_conditional {block block' : ConditionalBlock}
    (htest : Frame.Agree c.markers frames frames' block.test block'.test) {y? y'? : Option (Render Text)}
    (hx : Mirrors frames frames' x x') (hy : Option.Rel (Mirrors frames frames') y? y'?) :
    Mirrors frames frames' (conditional c block x y?) (conditional c block' x' y'?) := by
  refine mirrors_bind (mirrors_lookup htest) fun v => ?_
  split
  · exact mirrors_inBody _ _ hx
  · cases hy with
    | none => exact mirrors_pure []
    | some h => exact mirrors_inBody _ _ h

lemma mirrors_walk (opener opener' : Token) (hbalanced : Balanced x) (hbalanced' : Balanced x') (frame : Frame)
    (name' : Text)
    (hx : ∀ current : Frame, current.name = frame.name →
      Mirrors (frames ++ [current]) (frames' ++ [{ current with name := name' }]) x x')
    (row : Nat) (pairs : List (Value × Value)) :
    Mirrors frames frames' (withFrame frame fun height => eachPair c opener frame x height row pairs)
      (withFrame { frame with name := name' } fun height =>
        eachPair c opener' { frame with name := name' } x' height row pairs) := by
  induction pairs generalizing row with
  | nil =>
    rw [walk_nil, walk_nil]
    exact mirrors_pure []
  | cons pair rest ih =>
    obtain ⟨key, value⟩ := pair
    rw [walk_cons hbalanced, walk_cons hbalanced']
    exact mirrors_followedBy (mirrors_withFrame (mirrors_inBody _ _ (hx _ rfl))) (ih (row + 1))

/-- The name of the variable of a loop that is entered at a height. -/
def variableName (block : LoopBlock) (height : Nat) : Text :=
  block.name?.getD (Frame.defaultName (height + 1))

lemma mirrors_loop {block block' : LoopBlock}
    (htarget : Frame.Agree c.markers frames frames' block.target block'.target) (hbalanced : Balanced x)
    (hbalanced' : Balanced x')
    (hx : ∀ current : Frame, current.name = variableName block frames.length →
      Mirrors (frames ++ [current]) (frames' ++ [{ current with name := variableName block' frames'.length }])
        x x') :
    Mirrors frames frames' (loop c block x) (loop c block' x') := by
  intro s s' h
  unfold loop
  rw [bind_apply, bind_apply, get_apply, get_apply]
  dsimp only
  rw [h.left, h.right]
  refine mirrors_bind (mirrors_lookup htarget) (fun v => ?_) s s' h
  refine mirrors_bind (mirrors_takePairs? v) fun pairs? => ?_
  cases pairs? with
  | none => exact mirrors_bind (mirrors_note _ _) fun _ => mirrors_throw rfl
  | some pairs =>
    refine mirrors_bind (mirrors_note _ _) fun _ => ?_
    exact mirrors_walk _ _ hbalanced hbalanced'
      { name := variableName block frames.length, pairs, key := .null, row := 0, value := .null }
      (variableName block' frames'.length) hx 0 pairs

end Mirrors

/-! ## What a tree is rendered as -/

section Trees

variable {c : Context} {tokens : List Token} {lead : Text} {rest : Template}

lemma all_of_reads_substitution {e : Text} (he : e.trim.IsSubstitution c.markers)
    (h : Reads tokens ((Template.substitution e rest).pieces c.markers lead)) :
    ∃ after, Reads after (rest.pieces c.markers []) ∧
      all c tokens = followedBy (pure lead) (followedBy (substitution c e.trim) (all c after)) := by
  obtain ⟨before, tail, rfl, hbefore, rfl, htail⟩ := reads_cons h
  obtain ⟨shown, after, rfl, hshown, htext, hafter⟩ := reads_cons htail
  change shown.text = e.trim at htext
  rw [← htext] at he
  refine ⟨after, hafter, ?_⟩
  rw [all_text (by simp [Token.isCommand, hbefore]), all_substitution (by simp [Token.isCommand, hshown]) he,
    htext]
  rfl

lemma all_of_reads_conditional {test : Text} {holds : Template}
    (hblock : Template.ReadsAsConditional c.markers test holds)
    (h : Reads tokens ((Template.conditional test holds rest).pieces c.markers lead)) :
    ∃ (block : ConditionalBlock) (held after : List Token), block.test = test.trim ∧
      Reads held (holds.pieces c.markers []) ∧ Reads after (rest.pieces c.markers []) ∧
      all c tokens =
        followedBy (pure lead) (followedBy (conditional c block (all c held) none) (all c after)) := by
  obtain ⟨before, first, last, held, after, rfl, hbefore, rfl, hfirst, hopener, hlast, hclose, hheld,
    hafter⟩ := reads_block h
  have htest := Template.test_of_testOpener hblock.opens
  obtain ⟨hopens, hend, hinside, hother⟩ := hblock
  rw [← hopener] at hopens htest hend hinside hother
  refine ⟨⟨first, test.trim, none, 1 + held.length⟩, held, after, rfl, hheld, hafter, ?_⟩
  rw [all_text hbefore, all_conditional hfirst hopens hlast (hclose.trans hend)
    (text_ne_of_reads hheld hinside) (text_ne_of_reads hheld hother), htest]
  rfl

lemma all_of_reads_choice {test : Text} {holds otherwise : Template}
    (hblock : Template.ReadsAsChoice c.markers test holds otherwise)
    (h : Reads tokens ((Template.choice test holds otherwise rest).pieces c.markers lead)) :
    ∃ (block : ConditionalBlock) (held other after : List Token), block.test = test.trim ∧
      Reads held (holds.pieces c.markers []) ∧ Reads other (otherwise.pieces c.markers []) ∧
      Reads after (rest.pieces c.markers []) ∧
      all c tokens =
        followedBy (pure lead)
          (followedBy (conditional c block (all c held) (some (all c other))) (all c after)) := by
  obtain ⟨before, first, last, inner, after, rfl, hbefore, rfl, hfirst, hopener, hlast, hclose, hinner,
    hafter⟩ := reads_block h
  obtain ⟨held, tail, rfl, hheld, htail⟩ := reads_append hinner
  obtain ⟨separator, other, rfl, hkind, hseparated, hother⟩ := reads_cons htail
  have htest := Template.test_of_testOpener hblock.opens
  obtain ⟨⟨hopens, hend, hinside, hfree⟩, hseparates, hne, hinside'⟩ := hblock
  rw [← hopener] at hopens htest hend hinside hfree hseparates hinside'
  have hseparator : separator.isCommand = true := by simp [Token.isCommand, hkind]
  have htext : separator.text = c.markers.otherwise.text ++ first.text := hseparated.trans hseparates
  -- the separator does not close the block, since the two markers differ
  have hbody : ∀ u ∈ held ++ separator :: other, u.isCommand = true →
      u.text ≠ c.markers.ending.text ++ first.text := by
    intro u hu hcommand
    rw [List.mem_append, List.mem_cons] at hu
    obtain hu | rfl | hu := hu
    · exact text_ne_of_reads hheld hinside u hu hcommand
    · intro h
      rw [htext] at h
      exact hne (Marker.ext (List.append_cancel_right h))
    · exact text_ne_of_reads hother hinside' u hu hcommand
  refine ⟨⟨first, test.trim, some (1 + held.length), 1 + (held ++ separator :: other).length⟩, held, other, after,
    rfl, hheld, hother, hafter, ?_⟩
  rw [all_text hbefore, all_choice hfirst hopens hlast (hclose.trans hend) hseparator htext hbody
    (text_ne_of_reads hheld hfree), htest]
  rfl

lemma all_of_reads_loop {target : Text} {name? : Option Text} {body : Template}
    (hblock : Template.ReadsAsLoop c.markers target name? body)
    (h : Reads tokens ((Template.loop target name? body rest).pieces c.markers lead)) :
    ∃ (block : LoopBlock) (inner after : List Token), block.target = target.trim ∧
      block.name? = (name?.map Text.trim).filter (· ≠ []) ∧ Reads inner (body.pieces c.markers []) ∧
      Reads after (rest.pieces c.markers []) ∧
      all c tokens = followedBy (pure lead) (followedBy (loop c block (all c inner)) (all c after)) := by
  obtain ⟨before, first, last, inner, after, rfl, hbefore, rfl, hfirst, hopener, hlast, hclose, hinner,
    hafter⟩ := reads_block h
  obtain ⟨hopens, htarget, hname, hend, hinside⟩ := hblock
  rw [← hopener] at hopens htarget hname hend hinside
  refine ⟨⟨first, target.trim, (name?.map Text.trim).filter (· ≠ []), 1 + inner.length⟩, inner, after, rfl, rfl,
    hinner, hafter, ?_⟩
  rw [all_text hbefore, all_loop hfirst hopens hlast (hclose.trans hend) (text_ne_of_reads hinner hinside),
    htarget, hname]
  rfl

end Trees

/-! ## Trees side by side -/

/-- Tokens that are read from the pieces of one tree do under a loop stack as tokens that are read from those of
another tree do under a stack that is related to it. -/
def RendersAlike (c : Context) (R : List Frame → List Frame → Prop) (t t' : Template) : Prop :=
  ∀ (tokens tokens' : List Token) (lead : Text), Reads tokens (t.pieces c.markers lead) →
    Reads tokens' (t'.pieces c.markers lead) → ∀ frames frames', R frames frames' →
      Mirrors frames frames' (all c tokens) (all c tokens')

/-- Two expressions are answered alike under every two stacks that are related. -/
def AnsweredAlike (c : Context) (R : List Frame → List Frame → Prop) (e e' : Text) : Prop :=
  ∀ frames frames', R frames frames' → Frame.Agree c.markers frames frames' e.trim e'.trim

section RendersAlike

variable {c : Context} {R : List Frame → List Frame → Prop} {rest rest' : Template}

lemma rendersAlike_empty (c : Context) (R : List Frame → List Frame → Prop) :
    RendersAlike c R .empty .empty := by
  intro tokens tokens' lead h h' frames frames' _
  obtain ⟨t, rfl, hkind, rfl⟩ := reads_singleton h
  obtain ⟨t', rfl, hkind', htext⟩ := reads_singleton h'
  rw [all_text (by simp [Token.isCommand, hkind]), all_text (by simp [Token.isCommand, hkind']), all_nil, htext]
  exact mirrors_followedBy (mirrors_pure _) (mirrors_pure [])

lemma rendersAlike_literal (text : Text) (hrest : RendersAlike c R rest rest') :
    RendersAlike c R (.literal text rest) (.literal text rest') :=
  fun tokens tokens' lead h h' => hrest tokens tokens' (lead ++ text) h h'

lemma rendersAlike_substitution {e e' : Text} (he : e.trim.IsSubstitution c.markers)
    (he' : e'.trim.IsSubstitution c.markers) (hagree : AnsweredAlike c R e e')
    (hrest : RendersAlike c R rest rest') :
    RendersAlike c R (.substitution e rest) (.substitution e' rest') := by
  intro tokens tokens' lead h h' frames frames' hR
  obtain ⟨after, hafter, hall⟩ := all_of_reads_substitution he h
  obtain ⟨after', hafter', hall'⟩ := all_of_reads_substitution he' h'
  rw [hall, hall']
  refine mirrors_followedBy (mirrors_pure lead) (mirrors_followedBy ?_ ?_)
  · exact mirrors_substitution (hagree frames frames' hR)
  · exact hrest after after' [] hafter hafter' frames frames' hR

lemma rendersAlike_conditional {test test' : Text} {holds holds' : Template}
    (hblock : Template.ReadsAsConditional c.markers test holds)
    (hblock' : Template.ReadsAsConditional c.markers test' holds') (hagree : AnsweredAlike c R test test')
    (hholds : RendersAlike c R holds holds') (hrest : RendersAlike c R rest rest') :
    RendersAlike c R (.conditional test holds rest) (.conditional test' holds' rest') := by
  intro tokens tokens' lead h h' frames frames' hR
  obtain ⟨block, held, after, htest, hheld, hafter, hall⟩ := all_of_reads_conditional hblock h
  obtain ⟨block', held', after', htest', hheld', hafter', hall'⟩ := all_of_reads_conditional hblock' h'
  have hanswer := hagree frames frames' hR
  rw [← htest, ← htest'] at hanswer
  rw [hall, hall']
  refine mirrors_followedBy (mirrors_pure lead) (mirrors_followedBy ?_ ?_)
  · exact mirrors_conditional hanswer (hholds held held' [] hheld hheld' frames frames' hR) .none
  · exact hrest after after' [] hafter hafter' frames frames' hR

lemma rendersAlike_choice {test test' : Text} {holds holds' otherwise otherwise' : Template}
    (hblock : Template.ReadsAsChoice c.markers test holds otherwise)
    (hblock' : Template.ReadsAsChoice c.markers test' holds' otherwise') (hagree : AnsweredAlike c R test test')
    (hholds : RendersAlike c R holds holds') (hother : RendersAlike c R otherwise otherwise')
    (hrest : RendersAlike c R rest rest') :
    RendersAlike c R (.choice test holds otherwise rest) (.choice test' holds' otherwise' rest') := by
  intro tokens tokens' lead h h' frames frames' hR
  obtain ⟨block, held, other, after, htest, hheld, hread, hafter, hall⟩ := all_of_reads_choice hblock h
  obtain ⟨block', held', other', after', htest', hheld', hread', hafter', hall'⟩ := all_of_reads_choice hblock' h'
  have hanswer := hagree frames frames' hR
  rw [← htest, ← htest'] at hanswer
  rw [hall, hall']
  refine mirrors_followedBy (mirrors_pure lead) (mirrors_followedBy ?_ ?_)
  · exact mirrors_conditional hanswer (hholds held held' [] hheld hheld' frames frames' hR)
      (.some (hother other other' [] hread hread' frames frames' hR))
  · exact hrest after after' [] hafter hafter' frames frames' hR

/-- The frames that two loops put on related stacks make them related as their bodies need it. -/
def PushesAlike (R R' : List Frame → List Frame → Prop) (name? name?' : Option Text) : Prop :=
  ∀ frames frames', R frames frames' → ∀ current : Frame,
    current.name = name?.getD (Frame.defaultName (frames.length + 1)) →
    R' (frames ++ [current])
      (frames' ++ [{ current with name := name?'.getD (Frame.defaultName (frames'.length + 1)) }])

lemma rendersAlike_loop {R' : List Frame → List Frame → Prop} {target target' : Text} {name? name?' : Option Text}
    {body body' : Template} (hblock : Template.ReadsAsLoop c.markers target name? body)
    (hblock' : Template.ReadsAsLoop c.markers target' name?' body') (hagree : AnsweredAlike c R target target')
    (hpush : PushesAlike R R' ((name?.map Text.trim).filter (· ≠ [])) ((name?'.map Text.trim).filter (· ≠ [])))
    (hbody : RendersAlike c R' body body') (hrest : RendersAlike c R rest rest') :
    RendersAlike c R (.loop target name? body rest) (.loop target' name?' body' rest') := by
  intro tokens tokens' lead h h' frames frames' hR
  obtain ⟨block, inner, after, htarget, hname, hinner, hafter, hall⟩ := all_of_reads_loop hblock h
  obtain ⟨block', inner', after', htarget', hname', hinner', hafter', hall'⟩ := all_of_reads_loop hblock' h'
  have hanswer := hagree frames frames' hR
  rw [← htarget, ← htarget'] at hanswer
  rw [← hname, ← hname'] at hpush
  rw [hall, hall']
  refine mirrors_followedBy (mirrors_pure lead) (mirrors_followedBy ?_ ?_)
  · refine mirrors_loop hanswer (balanced_all c inner) (balanced_all c inner') fun current hcurrent => ?_
    exact hbody inner inner' [] hinner hinner' _ _ (hpush frames frames' hR current hcurrent)
  · exact hrest after after' [] hafter hafter' frames frames' hR

lemma kind_unplaced (f : Failure) : f.unplaced.kind = f.kind := by
  cases f <;> rfl

lemma mapError_kind_of_unplaced {α : Type} {a b : Except Failure α}
    (h : a.mapError Failure.unplaced = b.mapError Failure.unplaced) :
    a.mapError Failure.kind = b.mapError Failure.kind := by
  cases a with
  | error f =>
    cases b with
    | error g =>
      have hkind := congrArg Failure.kind (Except.error.inj h)
      rw [kind_unplaced, kind_unplaced] at hkind
      exact congrArg Except.error hkind
    | ok u => cases h
  | ok t =>
    cases b with
    | error g => cases h
    | ok u => exact congrArg Except.ok (Except.ok.inj h)

lemma unplaced_of_reads {pieces : List Piece} {tokens tokens' : List Token} (h : Reads tokens pieces)
    (h' : Reads tokens' pieces) : tokens.map Token.unplaced = tokens'.map Token.unplaced := by
  have hsame := congrArg (List.map fun p : TokenKind × Text => (⟨p.1, p.2, 0, []⟩ : Token)) (h.trans h'.symm)
  rw [List.map_map, List.map_map] at hsame
  exact hsame

lemma rendersAlike_self (c : Context) (t : Template) : RendersAlike c Eq t t := by
  rintro tokens tokens' lead h h' frames _ rfl s s' hs
  obtain ⟨hresult, hstate⟩ := all_echoes (c := c) c.resolver.forgets_empty (unplaced_of_reads h h') s s'
    ⟨hs.right.trans hs.left.symm, hs.depth, hs.streams, by rw [hs.calls, Array.empty_append]⟩
  have hbalanced := (balanced_all c tokens s).1.trans hs.left
  refine ⟨mapError_kind_of_unplaced hresult, hbalanced, hstate.frames.trans hbalanced, hstate.depth,
    hstate.streams, ?_⟩
  rw [hstate.calls, Array.empty_append]

lemma mirrors_template {t t' : Template} (ht : t.Printable c.markers) (ht' : t'.Printable c.markers)
    (h : RendersAlike c R t t') {frames frames' : List Frame} (hR : R frames frames') :
    Mirrors frames frames' (template c (t.source c.markers)) (template c (t'.source c.markers)) := by
  obtain ⟨tokens, htokens, hreads⟩ := reads_of_printable ht
  obtain ⟨tokens', htokens', hreads'⟩ := reads_of_printable ht'
  intro s s' hs
  rw [template_of_tokenize htokens, template_of_tokenize htokens']
  exact h tokens tokens' [] hreads hreads' frames frames' hR _ _
    ⟨hs.left, hs.right, hs.depth, hs.streams, hs.calls⟩

end RendersAlike

end Render

end TextTemplate
