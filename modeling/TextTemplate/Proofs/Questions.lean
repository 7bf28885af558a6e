import TextTemplate.Proofs.Watch

/-!
# The questions of a run

The resolver is asked where an expression is looked up that no frame answers, and nowhere else. So the
moments of a run tell all its questions, and the state at each moment holds those asked before it.
-/

namespace TextTemplate

namespace Moment

/-- The state at a moment, where one is written down. -/
def state? : Moment → Option RunState
  | evaluating s _ => some s
  | entering s _ => some s
  | leaving => none

/-- The expression that the resolver is asked at a moment. -/
def asked? (m : Markers) : Moment → Option Text
  | evaluating s e => if (Frame.lookup? m s.frames e).isNone then some e else none
  | entering .. => none
  | leaving => none

end Moment

/-- All that the resolver is asked at some moments. -/
def questions (m : Markers) (moments : List Moment) : Array Text :=
  (moments.filterMap (Moment.asked? m)).toArray

/-- Moments that lead from some questions to others. Each of them knows the questions before it. -/
inductive Tally (m : Markers) : Array Text → List Moment → Array Text → Prop where
  | nil (calls : Array Text) : Tally m calls [] calls
  | cons {calls calls' : Array Text} {moment : Moment} {rest : List Moment}
      (known : ∀ s, moment.state? = some s → s.calls = calls)
      (later : Tally m (calls ++ questions m [moment]) rest calls') :
      Tally m calls (moment :: rest) calls'

section Tally

variable {m : Markers} {calls calls' calls'' : Array Text} {moments moments' : List Moment}

lemma questions_nil : questions m [] = #[] := rfl

lemma questions_append (a b : List Moment) :
    questions m (a ++ b) = questions m a ++ questions m b := by
  simp [questions]

namespace Tally

lemma trans (h : Tally m calls moments calls') (h' : Tally m calls' moments' calls'') :
    Tally m calls (moments ++ moments') calls'' := by
  induction h with
  | nil => exact h'
  | cons known later ih => exact .cons known (ih h')

lemma silent {moment : Moment} (known : ∀ s, moment.state? = some s → s.calls = calls)
    (hsilent : moment.asked? m = none) : Tally m calls [moment] calls := by
  refine .cons known ?_
  have hnone : questions m [moment] = #[] := by simp [questions, hsilent]
  rw [hnone, Array.append_empty]
  exact .nil calls

theorem total (h : Tally m calls moments calls') : calls' = calls ++ questions m moments := by
  induction h with
  | nil calls => rw [questions_nil, Array.append_empty]
  | @cons calls calls' moment rest known later ih =>
    rw [ih, Array.append_assoc, ← questions_append, List.singleton_append]

theorem before {earlier later : List Moment} {moment : Moment} {s : RunState}
    (h : Tally m calls (earlier ++ moment :: later) calls') (hs : moment.state? = some s) :
    s.calls = calls ++ questions m earlier := by
  induction earlier generalizing calls with
  | nil =>
    cases h with
    | cons known _ => rw [known s hs, questions_nil, Array.append_empty]
  | cons first rest ih =>
    cases h with
    | cons _ h => rw [ih h, Array.append_assoc, ← questions_append, List.singleton_append]

end Tally

end Tally

namespace Watch

variable {α : Type}

/-- The moments of a piece account for its questions. -/
def Accounted (m : Markers) (w : Watch α) : Prop :=
  ∀ s, Tally m s.calls (w s).moments (w s).ending.2.calls

lemma accounted_lookup (c : Context) (e : Text) : Accounted c.markers (lookup c e) := by
  intro s
  unfold lookup
  dsimp only
  rw [Render.lookup_apply]
  cases hframe : Frame.lookup? c.markers s.frames e with
  | some answer =>
    have hsilent : Tally c.markers s.calls [.evaluating s e] s.calls := by
      refine .silent (fun t ht => ?_) (by simp [Moment.asked?, hframe])
      rw [Option.some.inj ht]
    cases answer with
    | ok v => exact hsilent
    | error f => exact hsilent
  | none =>
    refine .cons (fun t ht => by rw [Option.some.inj ht]) ?_
    have hasked : questions c.markers [.evaluating s e] = #[e] := by
      simp [questions, Moment.asked?, hframe]
    rw [hasked]
    exact .nil _

theorem stepwise_accounted (c : Context) :
    Stepwise c c fun w _ => Accounted c.markers w where
  plain hx s := by
    unfold plain
    rw [(hx s).2.2]
    exact .nil _
  bind {_ _ w _ f _} hw hf s := by
    have h := hw s
    rcases hfirst : w s with ⟨⟨e | a, s'⟩, moments⟩
    · rw [hfirst] at h
      rw [bind_error hfirst]
      exact h
    · rw [hfirst] at h
      rw [bind_ok hfirst]
      exact h.trans (hf a s')
  lookup := accounted_lookup c
  inBody opener w _ hw s := by
    rw [inBody_apply]
    split
    · exact .nil _
    · have hentering : Tally c.markers s.calls [.entering s opener] s.calls :=
        .silent (fun t ht => by rw [Option.some.inj ht]) rfl
      have hleaving (calls : Array Text) : Tally c.markers calls [.leaving] calls :=
        .silent (fun t ht => by cases ht) rfl
      exact hentering.trans ((hw { s with depth := s.depth + 1 }).trans (hleaving _))
  withFrame frame _ _ hw s := hw { s with frames := s.frames ++ [frame] }

theorem range_accounted (c : Context) (tokens : Array Token) (start stop : Nat) :
    Accounted c.markers (range c tokens start stop) :=
  (stepwise_accounted c).parallel.range rfl tokens start stop

theorem template_accounted (c : Context) (source : Text) :
    Accounted c.markers (template c source) :=
  (stepwise_accounted c).template rfl source

end Watch

/-- A rendering asks its resolver what it looks up and no frame answers, in this order, and nothing else. -/
theorem Engine.format_calls (engine : Engine) (r : Resolver) (streams : Value.Streams) (template : Text) :
    (engine.format r streams template).2.calls =
      questions engine.markers (engine.watch r streams template).moments := by
  have htally := Watch.template_accounted (engine.context r) template { streams := streams }
  rw [← watch_ending, watch, htally.total]
  simp [context]

end TextTemplate
