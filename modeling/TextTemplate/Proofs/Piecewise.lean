import TextTemplate.Proofs.Plan

/-!
# Properties of runs, piece by piece

A rendering is put together from a few primitive pieces. A property that the primitive pieces have and
that is handed on by every way of putting pieces together holds of the rendering of any range of tokens,
well nested or not: the induction, over the plan of the range, is made here once.
-/

namespace TextTemplate.Render

/-- A property of pieces of a run that everything put together from such pieces has as well. -/
structure Piecewise (c : Context) (P : ∀ {α : Type}, Render α → Prop) : Prop where
  pure : ∀ {α : Type} (a : α), P (Pure.pure a : Render α)
  throw : ∀ {α : Type} (f : Failure), P (MonadExcept.throw f : Render α)
  bind : ∀ {α β : Type} {x : Render α} {f : α → Render β}, P x → (∀ a, P (f a)) → P (x >>= f)
  get : P (MonadState.get : Render RunState)
  note : ∀ n : Note, P (Render.note n)
  ask : ∀ e : Text, P (Render.ask c.resolver e)
  takePairs? : ∀ v : Value, P (Render.takePairs? v)
  inBody : ∀ (opener : Token) {x : Render Text}, P x → P (Render.inBody c opener x)
  walk : ∀ (opener : Token) (frame : Frame) (pairs : List (Value × Value)) {body : Render Text},
    P body → P (withFrame frame fun height => eachPair c opener frame body height 0 pairs)

namespace Piecewise

variable {c : Context} {P : ∀ {α : Type}, Render α → Prop} (hP : Piecewise c P)

include hP

theorem fail {α : Type} (f : Failure) : P (Render.fail f : Render α) := by
  unfold Render.fail
  cases Note.ofFailure? f with
  | none => exact hP.throw f
  | some n => exact hP.bind (hP.note n) fun _ => hP.throw f

theorem lookup (e : Text) : P (Render.lookup c e) := by
  refine hP.bind hP.get fun s => ?_
  rcases Frame.lookup? c.markers s.frames e with _ | f | v
  · exact hP.ask e
  · exact hP.throw f
  · exact hP.pure v

theorem substitution (e : Text) : P (Render.substitution c e) := by
  refine hP.bind (hP.lookup e) fun v => ?_
  rcases v.display with f | t
  · exact hP.throw f
  · exact hP.pure t

theorem loop (block : LoopBlock) {body : Render Text} (hbody : P body) :
    P (Render.loop c block body) := by
  refine hP.bind hP.get fun s => hP.bind (hP.lookup _) fun v => hP.bind (hP.takePairs? v) fun ps => ?_
  cases ps with
  | none => exact hP.bind (hP.note _) fun _ => hP.throw _
  | some pairs => exact hP.bind (hP.note _) fun _ => hP.walk _ _ _ hbody

theorem conditional (block : ConditionalBlock) {holds : Render Text}
    {otherwise? : Option (Render Text)} (hholds : P holds) (hother : ∀ x ∈ otherwise?, P x) :
    P (Render.conditional c block holds otherwise?) := by
  refine hP.bind (hP.lookup _) fun v => ?_
  split
  · exact hP.inBody _ hholds
  · cases otherwise? with
    | none => exact hP.pure _
    | some x => exact hP.inBody _ (hother x rfl)

theorem andThen {x y : Render Text} (hx : P x) (hy : P y) :
    P (do return (← x) ++ (← y)) :=
  hP.bind hx fun _ => hP.bind hy fun _ => hP.pure _

theorem run (p : Plan) : P (p.run c) := by
  induction p with
  | done => exact hP.pure _
  | literal t rest ih => exact hP.bind ih fun _ => hP.pure _
  | substitution e rest ih => exact hP.andThen (hP.substitution e) ih
  | loop block body rest ihBody ih => exact hP.andThen (hP.loop block ihBody) ih
  | conditional block holds rest ihHolds ih =>
    exact hP.andThen (hP.conditional block ihHolds (by simp)) ih
  | choice block holds otherwise rest ihHolds ihOther ih =>
    exact hP.andThen (hP.conditional block ihHolds (by simpa using ihOther)) ih
  | failure f => exact hP.fail f

/-- The property holds of the rendering of every range, since a range is rendered by following a plan. -/
theorem range (tokens : Array Token) (start stop : Nat) : P (Render.range c tokens start stop) := by
  rw [range_eq_run]
  exact hP.run _

end Piecewise

end TextTemplate.Render
