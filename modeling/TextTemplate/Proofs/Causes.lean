import TextTemplate.Proofs.Watch

/-!
# Why a run fails

A run fails because its template is not well formed or too deep, because a target cannot be walked, or else
because of the expression that it looked up last: there is no value for it, or none that can be shown. After
that look-up the run does nothing but leave the bodies that it is in.
-/

namespace TextTemplate

/-! ## Look-ups that fail -/

lemma error_of_map {α β : Type} {x : Except Failure α} {g : α → β} {f : Failure}
    (h : x.map g = .error f) : x = .error f := by
  cases x with
  | error e => exact congrArg Except.error (Except.error.inj h)
  | ok a => cases h

namespace Value

lemma rangeAt?_error {start stop step i : Int} {f : Failure} (h : rangeAt? start stop step i = .error f) :
    f = .tooManyItems := by
  unfold rangeAt? at h
  dsimp only at h
  generalize (if i < 0 then (rangeLength start stop step : Int) + i else i) = position at h
  by_cases hlong : maxItems < rangeLength start stop step
  · rw [if_pos hlong] at h
    exact (Except.error.inj h).symm
  · rw [if_neg hlong] at h
    split at h
    · cases h
    · cases h

lemma child?_error {v : Value} {segment : Text} {f : Failure} (h : v.child? segment = .error f) :
    f = .tooManyItems := by
  unfold child? at h
  split at h
  · cases h
  · cases h
  · cases h
  · cases h
  · split at h
    · exact rangeAt?_error h
    · cases h
  · cases h

lemma walk?_error {v : Value} {path : List Text} {f : Failure} (h : v.walk? path = .error f) :
    f = .tooManyItems := by
  induction path generalizing v with
  | nil => cases h
  | cons segment rest ih =>
    rw [walk?] at h
    rcases hchild : v.child? segment with g | _ | w
    · rw [hchild] at h
      obtain rfl : g = f := Except.error.inj h
      exact child?_error hchild
    · rw [hchild] at h
      cases h
    · rw [hchild] at h
      exact ih h

lemma display_error {v : Value} {f : Failure} (h : v.display = .error f) : f = .tooManyDigits := by
  unfold display at h
  split at h
  · cases h
  · cases h
  · cases h
  · split at h
    · cases h
    · exact (Except.error.inj h).symm

end Value

lemma Frame.answer_error {m : Markers} {frame : Frame} {segments : List Text} {default : Text} {f : Failure}
    (h : frame.answer m segments default = .error f) : f = .tooManyItems := by
  by_cases hindex : segments.head? = some m.index.text
  · cases segments with
    | nil => cases hindex
    | cons first rest =>
      rw [answer, if_pos (Option.some.inj hindex)] at h
      split at h
      · cases h
      · cases h
  · rw [answer_eq hindex] at h
    exact Value.walk?_error (error_of_map h)

lemma Frame.lookup?_error {m : Markers} {frames : List Frame} {e : Text} {f : Failure}
    (h : lookup? m frames e = some (.error f)) : f = .tooManyItems := by
  obtain ⟨frame, -, hanswer⟩ := Option.map_eq_some_iff.1 h
  exact answer_error hanswer

lemma Render.lookup_display_error {c : Context} {e : Text} {s : RunState} {f : Failure}
    (h : (lookup c e s).1.bind Value.display = .error f) :
    (Frame.lookup? c.markers s.frames e = none ∧ (c.resolver s.calls e).result = .error f) ∨
      Frame.lookup? c.markers s.frames e = some (.error f) ∨
      ∃ v, (lookup c e s).1 = .ok v ∧ v.display = .error f := by
  cases hvalue : (lookup c e s).1 with
  | ok v =>
    rw [hvalue] at h
    exact .inr (.inr ⟨v, rfl, h⟩)
  | error g =>
    rw [hvalue] at h
    obtain rfl : g = f := Except.error.inj h
    rw [lookup_apply] at hvalue
    rcases hframe : Frame.lookup? c.markers s.frames e with _ | f' | v <;> rw [hframe] at hvalue
    · exact .inl ⟨rfl, hvalue⟩
    · obtain rfl : f' = g := Except.error.inj hvalue
      exact .inr (.inl rfl)
    · cases hvalue

/-! ## Causes -/

/-- Where the failure of a run comes from, by the moments of the run. -/
inductive Cause (c : Context) (f : Failure) : List Moment → Prop where
  | structural (h : f.kind = .structural) (moments : List Moment) : Cause c f moments
  | target (h : f.kind = .loopTarget) (moments : List Moment) : Cause c f moments
  /-- The expression that was looked up last has no value, or none that can be shown. -/
  | evaluating {s : RunState} {e : Text} (h : (Render.lookup c e s).1.bind Value.display = .error f)
      (earlier : List Moment) {later : List Moment} (hlater : ∀ moment ∈ later, moment = .leaving) :
      Cause c f (earlier ++ .evaluating s e :: later)

namespace Cause

variable {c : Context} {f : Failure} {moments : List Moment}

lemma behind (h : Cause c f moments) (before : List Moment) : Cause c f (before ++ moments) := by
  cases h with
  | structural h => exact .structural h _
  | target h => exact .target h _
  | evaluating h earlier hlater =>
    rw [← List.append_assoc]
    exact .evaluating h _ hlater

lemma left (h : Cause c f moments) : Cause c f (moments ++ [.leaving]) := by
  cases h with
  | structural h => exact .structural h _
  | target h => exact .target h _
  | @evaluating s e h earlier later hlater =>
    rw [List.append_assoc, List.cons_append]
    refine .evaluating h _ fun moment hmoment => ?_
    rcases List.mem_append.1 hmoment with hbefore | hlast
    · exact hlater moment hbefore
    · exact List.mem_singleton.1 hlast

end Cause

/-! ## What can be wrong with a plan -/

namespace Plan

/-- All that is wrong with a plan is the structure of its template. -/
def Structural : Plan → Prop
  | done => True
  | literal _ rest => rest.Structural
  | substitution _ rest => rest.Structural
  | loop _ body rest => body.Structural ∧ rest.Structural
  | conditional _ holds rest => holds.Structural ∧ rest.Structural
  | choice _ holds otherwise rest => holds.Structural ∧ otherwise.Structural ∧ rest.Structural
  | failure f => f.kind = .structural

lemma kind_of_requireEnd {m : Markers} {tokens : Array Token} {construct : Construct} {opener : Token}
    {position stop : Nat} {f : Failure} (hstop : stop ≤ tokens.size)
    (h : requireEnd m tokens construct opener position stop = .error f) : f.kind = .structural := by
  unfold requireEnd at h
  split at h
  · cases h
  · rw [if_neg (by omega)] at h
    obtain rfl := Except.error.inj h
    rfl

lemma kind_of_failure {m : Markers} {tokens : Array Token} {start stop : Nat} {f : Failure}
    (hstart : start < stop) (hstop : stop ≤ tokens.size)
    (h : Step.ofPosition m tokens start stop = .failure f) : f.kind = .structural := by
  have htoken : tokens[start]? = some tokens[start] := Array.getElem?_eq_getElem (by omega)
  unfold Step.ofPosition at h
  rw [htoken] at h
  dsimp only at h
  split at h
  · cases h
  split at h
  · cases h
  split at h
  · unfold Step.ofLoop at h
    dsimp only at h
    split at h
    · next hend =>
      obtain rfl := Step.failure.inj h
      exact kind_of_requireEnd hstop hend
    · cases h
  split at h
  · unfold Step.ofConditional at h
    split at h
    · next hend =>
      obtain rfl := Step.failure.inj h
      exact kind_of_requireEnd hstop hend
    · cases h
  · cases h

lemma ofRange_structural (m : Markers) (tokens : Array Token) {start stop : Nat}
    (hstop : stop ≤ tokens.size) : (ofRange m tokens start stop).Structural := by
  induction hn : stop - start using Nat.strongRecOn generalizing start stop with
  | ind n ih =>
    rw [ofRange]
    split
    · next hlt =>
      have hrest : ∀ next, start < next → (ofRange m tokens next stop).Structural := fun next hnext =>
        ih (stop - next) (by omega) hstop rfl
      split
      · exact hrest _ (Nat.lt_succ_self start)
      · exact hrest _ (Nat.lt_succ_self start)
      · exact hrest _ (Nat.lt_succ_self start)
      · next block h =>
        have hbounds := Step.loop_bounds h
        exact ⟨ih _ (by omega) (by omega) rfl, hrest _ (by omega)⟩
      · next block h =>
        have hbounds := Step.conditional_bounds h
        have hfirst := Step.firstStop_bounds h
        have hholds : (ofRange m tokens (start + 1) block.firstStop).Structural :=
          ih _ (by omega) (by omega) rfl
        dsimp only
        split
        · exact ⟨hholds, hrest _ (by omega)⟩
        · next q hq =>
          have hbranch := hbounds.2.2 q hq
          exact ⟨hholds, ih _ (by omega) (by omega) rfl, hrest _ (by omega)⟩
      · next f h => exact kind_of_failure hlt hstop h
    · exact trivial

end Plan

lemma kind_of_tokensOfChunks {m : Markers} {line : Nat} {chunks : List Text} {f : Failure}
    (h : tokensOfChunks m line chunks = .error f) : f.kind = .structural := by
  induction chunks generalizing line with
  | nil => cases h
  | cons chunk rest ih =>
    rw [tokensOfChunks] at h
    split at h
    · obtain rfl := Except.error.inj h
      rfl
    · next inside trailing _ =>
      dsimp only at h
      cases hlater : tokensOfChunks m (line + inside.lineBreaks + trailing.lineBreaks) rest with
      | error g =>
        rw [hlater] at h
        obtain rfl := Except.error.inj h
        exact ih hlater
      | ok later =>
        rw [hlater] at h
        cases h
    · obtain rfl := Except.error.inj h
      rfl

lemma kind_of_tokenize {m : Markers} {template : Text} {f : Failure}
    (h : tokenize m template = .error f) : f.kind = .structural := by
  unfold tokenize at h
  dsimp only at h
  split at h
  · obtain rfl := Except.error.inj h
    rfl
  · cases hlater : tokensOfChunks m (1 + (template.splitOn m.opening).1.lineBreaks)
      (template.splitOn m.opening).2 with
    | error g =>
      rw [hlater] at h
      obtain rfl := Except.error.inj h
      exact kind_of_tokensOfChunks hlater
    | ok later =>
      rw [hlater] at h
      cases h

/-! ## Runs that fail -/

namespace Watch

/-- A piece whose failures have a cause. -/
def Caused {α : Type} (c : Context) (w : Watch α) : Prop :=
  ∀ s f, (w s).ending.1 = .error f → Cause c f (w s).moments

section Caused

variable {c : Context} {α β : Type}

lemma caused_of_ok {x : Render α} (hx : ∀ s, ∃ a, (x s).1 = .ok a) : Caused c (plain x) := by
  intro s f h
  obtain ⟨a, ha⟩ := hx s
  have hok : (plain x s).ending.1 = .ok a := ha
  rw [hok] at h
  cases h

lemma caused_pure (a : α) : Caused c (pure a : Watch α) :=
  caused_of_ok fun _ => ⟨a, rfl⟩

lemma caused_bind {w : Watch α} {g : α → Watch β} (hw : Caused c w) (hg : ∀ a, Caused c (g a)) :
    Caused c (w >>= g) := by
  intro s f h
  have hfirst := hw s
  rcases hs : w s with ⟨⟨e | a, s'⟩, moments⟩
  · rw [bind_error hs] at h ⊢
    rw [hs] at hfirst
    obtain rfl : e = f := Except.error.inj h
    exact hfirst e rfl
  · rw [bind_ok hs] at h ⊢
    exact (hg a s' f h).behind moments

lemma caused_lookup (e : Text) : Caused c (lookup c e) := by
  intro s f h
  have hfails : (Render.lookup c e s).1.bind Value.display = .error f := by
    change (Render.lookup c e s).1 = .error f at h
    rw [h]
    rfl
  exact .evaluating hfails [] (by simp)

lemma substitution_apply (c : Context) (e : Text) (s : RunState) :
    (substitution c e s).ending.1 = (Render.lookup c e s).1.bind Value.display ∧
      (substitution c e s).moments = [.evaluating s e] := by
  unfold substitution
  rcases hs : Render.lookup c e s with ⟨f | v, s'⟩
  · have hlookup : lookup c e s = ⟨(.error f, s'), [.evaluating s e]⟩ := by rw [lookup, hs]
    rw [bind_error hlookup]
    exact ⟨rfl, rfl⟩
  · have hlookup : lookup c e s = ⟨(.ok v, s'), [.evaluating s e]⟩ := by rw [lookup, hs]
    rw [bind_ok hlookup]
    cases hshown : v.display with
    | error f => exact ⟨hshown.symm, rfl⟩
    | ok t => exact ⟨hshown.symm, rfl⟩

lemma caused_substitution (e : Text) : Caused c (substitution c e) := by
  intro s f h
  obtain ⟨hending, hmoments⟩ := substitution_apply c e s
  rw [hending] at h
  rw [hmoments]
  exact .evaluating h [] (by simp)

lemma caused_inBody (opener : Token) {w : Watch α} (hw : Caused c w) : Caused c (inBody c opener w) := by
  intro s f h
  rw [inBody_apply] at h ⊢
  split at h
  · obtain rfl := Except.error.inj h
    exact .structural rfl _
  · next hdeep =>
    rw [if_neg hdeep]
    exact (hw { s with depth := s.depth + 1 } f h).left.behind [_]

lemma caused_withFrame (frame : Frame) {w : Watch α} (hw : Caused c w) :
    Caused c (withFrame frame w) :=
  fun s f h => hw { s with frames := s.frames ++ [frame] } f h

lemma caused_append {w v : Watch Text} (hw : Caused c w) (hv : Caused c v) : Caused c (w.append v) :=
  caused_bind hw fun _ => caused_bind hv fun _ => caused_pure _

lemma caused_walk (opener : Token) (frame : Frame) {w : Watch Text} (hw : Caused c w) (row : Nat)
    (pairs : List (Value × Value)) : Caused c (walk c opener frame w row pairs) := by
  induction pairs generalizing row with
  | nil => exact caused_pure []
  | cons pair rest ih =>
    obtain ⟨key, value⟩ := pair
    exact caused_append (caused_withFrame _ (caused_inBody opener hw)) (ih (row + 1))

lemma caused_loop (block : LoopBlock) {w : Watch Text} (hw : Caused c w) :
    Caused c (loop c block w) := by
  refine caused_bind (caused_of_ok fun s => ⟨s, rfl⟩) fun s => ?_
  refine caused_bind (caused_lookup _) fun v => ?_
  refine caused_bind (caused_of_ok fun s => ⟨_, rfl⟩) fun pairs? => ?_
  cases pairs? with
  | none =>
    refine caused_bind (caused_of_ok fun s => ⟨_, rfl⟩) fun _ s f h => ?_
    obtain rfl := Except.error.inj h
    exact .target rfl _
  | some pairs => exact caused_bind (caused_of_ok fun s => ⟨_, rfl⟩) fun _ => caused_walk _ _ hw 0 pairs

lemma caused_conditional (block : ConditionalBlock) {w : Watch Text} {v? : Option (Watch Text)}
    (hw : Caused c w) (hv : ∀ v ∈ v?, Caused c v) : Caused c (conditional c block w v?) := by
  refine caused_bind (caused_lookup _) fun v => ?_
  split
  · exact caused_inBody _ hw
  · cases v? with
    | none => exact caused_pure []
    | some v => exact caused_inBody _ (hv v rfl)

lemma caused_fail {f : Failure} (hf : f.kind = .structural) :
    Caused c (plain (Render.fail f : Render α)) := by
  intro s g h
  have hfails : (Render.fail f s : Except Failure α × RunState).1 = .error f := by
    unfold Render.fail
    cases Note.ofFailure? f with
    | none => rfl
    | some n => rfl
  obtain rfl := Except.error.inj (hfails.symm.trans h)
  exact .structural hf _

lemma caused_plan {p : Plan} (hp : p.Structural) : Caused c (p.watch c) := by
  induction p with
  | done => exact caused_pure []
  | literal t rest ih => exact caused_append (caused_pure t) (ih hp)
  | substitution e rest ih => exact caused_append (caused_substitution e) (ih hp)
  | loop block body rest ihBody ih => exact caused_append (caused_loop block (ihBody hp.1)) (ih hp.2)
  | conditional block holds rest ihHolds ih =>
    exact caused_append (caused_conditional block (ihHolds hp.1) (by simp)) (ih hp.2)
  | choice block holds otherwise rest ihHolds ihOther ih =>
    exact caused_append (caused_conditional block (ihHolds hp.1) (by simpa using ihOther hp.2.1)) (ih hp.2.2)
  | failure f => exact caused_fail hp

theorem caused_range {tokens : Array Token} {stop : Nat} (hstop : stop ≤ tokens.size) (start : Nat) :
    Caused c (range c tokens start stop) :=
  caused_plan (Plan.ofRange_structural _ _ hstop)

theorem caused_template (c : Context) (source : Text) : Caused c (template c source) := by
  refine caused_bind (fun s f h => ?_) fun tokens => caused_range (Nat.le_refl _) 0
  have hread : (Render.tokens c.markers source s).1 = .error f := h
  rw [Render.tokens_apply] at hread
  exact .structural (kind_of_tokenize hread) _

end Caused

end Watch

theorem Engine.cause_of_format {engine : Engine} {r : Resolver} {streams : Value.Streams} {template : Text}
    {f : Failure} (h : (engine.format r streams template).1 = .error f) :
    Cause (engine.context r) f (engine.watch r streams template).moments := by
  rw [← watch_ending] at h
  exact Watch.caused_template _ _ _ f h

end TextTemplate
