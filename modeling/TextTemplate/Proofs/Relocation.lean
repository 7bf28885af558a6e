import TextTemplate.Proofs.Outcomes
import TextTemplate.Proofs.Reading

/-!
# Tokens in another place

The line of a token is told by failures and nothing else, and so is what a run was asked before, where the
resolver does not mind it. Tokens that only stand on other lines, rendered by a run that has other questions
behind it, come to the same text, or to the same failure on another line, and ask the same.
-/

namespace TextTemplate

/-- A token on no line, and not as it was written. -/
def Token.unplaced (t : Token) : Token :=
  { t with line := 0, raw := [] }

/-- A state as far along as another, but for some questions asked before, and for the notes. -/
structure Alongside (asked : Array Text) (s s' : RunState) : Prop where
  frames : s'.frames = s.frames
  depth : s'.depth = s.depth
  streams : s'.streams = s.streams
  calls : s'.calls = asked ++ s.calls

/-- The ends of two runs that stayed alongside each other. -/
structure EndAlongside {α : Type} (asked : Array Text) (r r' : Except Failure α × RunState) : Prop where
  result : r'.1.mapError Failure.unplaced = r.1.mapError Failure.unplaced
  state : Alongside asked r.2 r'.2

/-- The replies of a resolver do not depend on some questions asked before all others. -/
def Resolver.Forgets (r : Resolver) (asked : Array Text) : Prop :=
  ∀ calls e, (r (asked ++ calls) e).result = (r calls e).result

lemma Resolver.IsFixed.forgets {r : Resolver} (hr : r.IsFixed) (asked : Array Text) : r.Forgets asked :=
  fun calls e => congrArg Reply.result (hr (asked ++ calls) calls e)

lemma Resolver.forgets_empty (r : Resolver) : r.Forgets #[] := by
  intro calls e
  rw [Array.empty_append]

namespace Render

/-- Two pieces of a run, the second of which does from a state that is alongside as the first one does. -/
def Echoes {α : Type} (asked : Array Text) (x x' : Render α) : Prop :=
  ∀ s s', Alongside asked s s' → EndAlongside asked (x s) (x' s')

section Echoes

variable {α β : Type} {asked : Array Text} {c : Context}

lemma echoes_pure (a : α) : Echoes asked (pure a : Render α) (pure a) :=
  fun _ _ h => ⟨rfl, h⟩

lemma echoes_throw {f f' : Failure} (h : f'.unplaced = f.unplaced) :
    Echoes asked (throw f : Render α) (throw f') :=
  fun _ _ hs => ⟨congrArg Except.error h, hs⟩

lemma echoes_note (n n' : Note) : Echoes asked (note n) (note n') :=
  fun _ _ h => ⟨rfl, h.frames, h.depth, h.streams, h.calls⟩

lemma echoes_bind {x x' : Render α} {f f' : α → Render β} (hx : Echoes asked x x')
    (hf : ∀ a, Echoes asked (f a) (f' a)) : Echoes asked (x >>= f) (x' >>= f') := by
  intro s s' h
  have hend := hx s s' h
  rw [bind_apply, bind_apply]
  rcases hfirst : x s with ⟨e | a, t⟩ <;> rcases hsecond : x' s' with ⟨e' | a', t'⟩ <;>
    rw [hfirst, hsecond] at hend <;> obtain ⟨hresult, hstate⟩ := hend
  · exact ⟨congrArg Except.error (Except.error.inj hresult), hstate⟩
  · cases hresult
  · cases hresult
  · obtain rfl : a' = a := Except.ok.inj hresult
    exact hf a' t t' hstate

lemma echoes_append {x x' y y' : Render Text} (hx : Echoes asked x x') (hy : Echoes asked y y') :
    Echoes asked (do let piece ← x; return piece ++ (← y)) (do let piece ← x'; return piece ++ (← y')) :=
  echoes_bind hx fun _ => echoes_bind hy fun _ => echoes_pure _

lemma echoes_fail {f f' : Failure} (h : f'.unplaced = f.unplaced)
    (hnote : (Note.ofFailure? f').isSome = (Note.ofFailure? f).isSome) :
    Echoes asked (fail f : Render α) (fail f') := by
  unfold fail
  cases hn : Note.ofFailure? f with
  | none =>
    rw [hn, Option.isSome_none, Option.isSome_eq_false_iff, Option.isNone_iff_eq_none] at hnote
    rw [hnote]
    exact echoes_throw h
  | some n =>
    rw [hn, Option.isSome_some, Option.isSome_iff_exists] at hnote
    obtain ⟨n', hn'⟩ := hnote
    rw [hn']
    exact echoes_bind (echoes_note n n') fun _ => echoes_throw h

lemma echoes_lookup (hasked : c.resolver.Forgets asked) (e : Text) :
    Echoes asked (lookup c e) (lookup c e) := by
  intro s s' h
  rw [lookup_apply, lookup_apply, h.frames]
  rcases Frame.lookup? c.markers s.frames e with _ | f | v
  · unfold ask
    rw [h.calls]
    refine ⟨congrArg _ (hasked s.calls e), h.frames, h.depth, h.streams, ?_⟩
    exact Array.append_push.symm
  · exact ⟨rfl, h⟩
  · exact ⟨rfl, h⟩

lemma echoes_takePairs? (v : Value) : Echoes asked (takePairs? v) (takePairs? v) := by
  intro s s' h
  unfold takePairs?
  rw [h.streams]
  exact ⟨rfl, h.frames, h.depth, rfl, h.calls⟩

lemma echoes_inBody {opener opener' : Token} (hopener : opener'.text = opener.text) {x x' : Render α}
    (hx : Echoes asked x x') : Echoes asked (inBody c opener x) (inBody c opener' x') := by
  intro s s' h
  unfold inBody
  rw [h.depth]
  split
  · refine ⟨?_, h⟩
    rw [hopener]
    rfl
  · have hend := hx { s with depth := s.depth + 1 } { s' with depth := s.depth + 1 }
      ⟨h.frames, rfl, h.streams, h.calls⟩
    obtain ⟨hresult, hframes, hdepth, hstreams, hcalls⟩ := hend
    exact ⟨hresult, hframes, congrArg (· - 1) hdepth, hstreams, hcalls⟩

lemma echoes_withFrame {frame : Frame} {x x' : Render α} (hx : Echoes asked x x') :
    Echoes asked (withFrame frame fun _ => x) (withFrame frame fun _ => x') := by
  intro s s' h
  have hend := hx { s with frames := s.frames ++ [frame] } { s' with frames := s'.frames ++ [frame] }
    ⟨congrArg (· ++ [frame]) h.frames, h.depth, h.streams, h.calls⟩
  obtain ⟨hresult, hframes, hdepth, hstreams, hcalls⟩ := hend
  exact ⟨hresult, congrArg List.dropLast hframes, hdepth, hstreams, hcalls⟩

lemma echoes_substitution (hasked : c.resolver.Forgets asked) (e : Text) :
    Echoes asked (substitution c e) (substitution c e) := by
  refine echoes_bind (echoes_lookup hasked e) fun v => ?_
  cases v.display with
  | error f => exact echoes_throw rfl
  | ok t => exact echoes_pure t

variable {x x' : Render Text}

lemma echoes_conditional (hasked : c.resolver.Forgets asked) {block block' : ConditionalBlock}
    (hopener : block'.opener.text = block.opener.text) (htest : block'.test = block.test)
    {y? y'? : Option (Render Text)} (hx : Echoes asked x x') (hy : Option.Rel (Echoes asked) y? y'?) :
    Echoes asked (conditional c block x y?) (conditional c block' x' y'?) := by
  unfold conditional
  rw [htest]
  refine echoes_bind (echoes_lookup hasked _) fun v => ?_
  split
  · exact echoes_inBody hopener hx
  · cases hy with
    | none => exact echoes_pure []
    | some h => exact echoes_inBody hopener h

lemma echoes_walk {opener opener' : Token} (hopener : opener'.text = opener.text) (hx : Echoes asked x x')
    (hbalanced : Balanced x) (hbalanced' : Balanced x') (frame : Frame) (row : Nat)
    (pairs : List (Value × Value)) :
    Echoes asked (withFrame frame fun height => eachPair c opener frame x height row pairs)
      (withFrame frame fun height => eachPair c opener' frame x' height row pairs) := by
  induction pairs generalizing row with
  | nil =>
    rw [walk_nil, walk_nil]
    exact echoes_pure []
  | cons pair rest ih =>
    obtain ⟨key, value⟩ := pair
    -- Each row is under a frame of its own, since a body leaves the loop stack as it was.
    rw [walk_cons hbalanced, walk_cons hbalanced']
    exact echoes_append (echoes_withFrame (echoes_inBody hopener hx)) (ih (row + 1))

lemma echoes_loop (hasked : c.resolver.Forgets asked) {block block' : LoopBlock}
    (hopener : block'.opener.text = block.opener.text) (htarget : block'.target = block.target)
    (hname : block'.name? = block.name?) (hx : Echoes asked x x') (hbalanced : Balanced x)
    (hbalanced' : Balanced x') : Echoes asked (loop c block x) (loop c block' x') := by
  intro s s' h
  -- The name of the frame depends on the height of the stack, which is the same for both.
  unfold loop
  rw [bind_apply, bind_apply, get_apply, get_apply]
  dsimp only
  rw [h.frames, htarget, hname]
  refine echoes_bind (echoes_lookup hasked _) (fun v => ?_) s s' h
  refine echoes_bind (echoes_takePairs? v) fun pairs? => ?_
  cases pairs? with
  | none => exact echoes_bind (echoes_note _ _) fun _ => echoes_throw rfl
  | some pairs =>
    refine echoes_bind (echoes_note _ _) fun _ => ?_
    exact echoes_walk hopener hx hbalanced hbalanced' _ 0 pairs

end Echoes

/-! ## Lists on other lines -/

section Lists

variable {asked : Array Text} {c : Context}

lemma balanced_all (c : Context) (tokens : List Token) : Balanced (all c tokens) :=
  balanced_range c _ _ _

lemma lacks_unplaced {text : Text} {tokens : List Token} (h : Lacks text tokens) :
    Lacks text (tokens.map Token.unplaced) := by
  intro t ht
  obtain ⟨u, hu, rfl⟩ := List.mem_map.1 ht
  exact h u hu

lemma all_unplaced (hasked : c.resolver.Forgets asked) (tokens : List Token) :
    Echoes asked (all c tokens) (all c (tokens.map Token.unplaced)) := by
  induction Reading.of_list c.markers tokens with
  | nil =>
    rw [List.map_nil, all_nil]
    exact echoes_pure []
  | @text t rest ht _ ih =>
    rw [List.map_cons, all_text ht, all_text (t := t.unplaced) ht]
    exact echoes_append (echoes_pure t.text) ih
  | @ending t rest hcommand ht _ ih =>
    rw [List.map_cons, all_ending hcommand ht, all_ending (t := t.unplaced) hcommand ht]
    exact ih
  | @substitution t rest hcommand ht _ ih =>
    rw [List.map_cons, all_substitution hcommand ht, all_substitution (t := t.unplaced) hcommand ht]
    exact echoes_append (echoes_substitution hasked t.text) ih
  | @conditional t close body rest hcommand ht hclose htext hend hno _ _ ihBody ih =>
    have hclose' : close.unplaced.isCommand = true := hclose
    rw [List.map_cons, List.map_append, List.map_cons, all_conditional hcommand ht hclose htext hend hno,
      all_conditional (t := t.unplaced) hcommand ht hclose' htext (lacks_unplaced hend)
        (lacks_unplaced hno), List.length_map]
    refine echoes_append (echoes_conditional hasked ?_ ?_ ihBody .none) ih
    · rfl
    · rfl
  | @choice t separator close holds otherwise rest hcommand ht hclose htext hseparator hother hend hno _ _ _
      ihHolds ihOther ih =>
    have hclose' : close.unplaced.isCommand = true := hclose
    have hseparator' : separator.unplaced.isCommand = true := hseparator
    have hend' := lacks_unplaced hend
    rw [List.map_append, List.map_cons] at hend'
    rw [List.map_cons, List.map_append, List.map_append, List.map_cons, List.map_cons,
      all_choice hcommand ht hclose htext hseparator hother hend hno,
      all_choice (t := t.unplaced) hcommand ht hclose' htext hseparator' hother hend' (lacks_unplaced hno)]
    simp only [List.length_append, List.length_cons, List.length_map]
    refine echoes_append (echoes_conditional hasked ?_ ?_ ihHolds (.some ihOther)) ih
    · rfl
    · rfl
  | @loop t close body rest hcommand ht hclose htext hend _ _ ihBody ih =>
    have hclose' : close.unplaced.isCommand = true := hclose
    rw [List.map_cons, List.map_append, List.map_cons, all_loop hcommand ht hclose htext hend,
      all_loop (t := t.unplaced) hcommand ht hclose' htext (lacks_unplaced hend), List.length_map]
    exact echoes_append (echoes_loop hasked rfl rfl rfl ihBody (balanced_all c _) (balanced_all c _)) ih
  | @openConditional t rest hcommand ht hend =>
    rw [List.map_cons, all_openConditional hcommand ht hend,
      all_openConditional (t := t.unplaced) hcommand ht (lacks_unplaced hend)]
    exact echoes_fail rfl rfl
  | @openLoop t rest hcommand ht hend =>
    rw [List.map_cons, all_openLoop hcommand ht hend,
      all_openLoop (t := t.unplaced) hcommand ht (lacks_unplaced hend)]
    exact echoes_fail rfl rfl

lemma alongside_self (s : RunState) : Alongside #[] s s :=
  ⟨rfl, rfl, rfl, Array.empty_append.symm⟩

lemma echoes_cancel {x y z : Render Text} (hx : Echoes asked x z) (hy : Echoes #[] y z) :
    Echoes asked x y := by
  intro s s' h
  obtain ⟨hresult, hstate⟩ := hx s s' h
  obtain ⟨hresult', hstate'⟩ := hy s' s' (alongside_self s')
  refine ⟨hresult'.symm.trans hresult, hstate'.frames.symm.trans hstate.frames,
    hstate'.depth.symm.trans hstate.depth, hstate'.streams.symm.trans hstate.streams, ?_⟩
  have hcalls := hstate'.calls.symm.trans hstate.calls
  rwa [Array.empty_append] at hcalls

theorem all_echoes (hasked : c.resolver.Forgets asked) {tokens tokens' : List Token}
    (h : tokens.map Token.unplaced = tokens'.map Token.unplaced) :
    Echoes asked (all c tokens) (all c tokens') := by
  refine echoes_cancel (all_unplaced hasked tokens) ?_
  rw [h]
  exact all_unplaced c.resolver.forgets_empty tokens'

end Lists

end Render

end TextTemplate
