import Mathlib.Control.Monad.Basic
import Mathlib.Data.List.Infix
import TextTemplate.Proofs.Questions
import TextTemplate.Template.Basic

/-!
# Loop variables

The body of a loop runs above the frame of its row: whatever it pushes stands behind that frame, and is gone
when the body is left. The outermost frame of a name answers, so as long as no frame further out has the name
of the loop, that name stands for the element of the row throughout the body. A name that holds a marker of
paths is taken apart before it is looked up, and the bare stem is read as the name of the outermost default.
-/

namespace TextTemplate

/-- A name that is looked up as it is. -/
structure Frame.IsName (m : Markers) (name : Text) : Prop where
  ne_stem : name ≠ defaultStem
  no_scope : ¬ m.scope.text <:+: name
  no_args : ¬ m.args.text <:+: name

instance (m : Markers) (name : Text) : Decidable (Frame.IsName m name) :=
  decidable_of_iff (name ≠ Frame.defaultStem ∧ ¬ m.scope.text <:+: name ∧ ¬ m.args.text <:+: name)
    ⟨fun ⟨hstem, hscope, hargs⟩ => ⟨hstem, hscope, hargs⟩, fun h => ⟨h.ne_stem, h.no_scope, h.no_args⟩⟩

/-- The variable of a loop that stands above some frames. -/
def LoopBlock.variable (block : LoopBlock) (frames : List Frame) : Text :=
  block.name?.getD (Frame.defaultName (frames.length + 1))

/-! ## The frame of a name -/

section Name

variable {m : Markers} {name : Text} {frames inner : List Frame} {frame : Frame}

lemma Frame.find?_of_free (hfree : ∀ f ∈ frames, f.name ≠ frame.name) :
    find? (frames ++ frame :: inner) frame.name = some frame := by
  induction frames with
  | nil => simp [find?]
  | cons f rest ih =>
    have hfirst := hfree f List.mem_cons_self
    rw [List.cons_append, find?, List.find?_cons_of_neg (by simpa using hfirst)]
    exact ih fun g hg => hfree g (List.mem_cons_of_mem f hg)

lemma Frame.IsName.lookup? (hname : IsName m name) (frames : List Frame) :
    Frame.lookup? m frames name = (find? frames name).map fun frame => .ok frame.value := by
  have hargs : name.splitOn m.args = (name, []) :=
    Text.splitOn_of_cut?_none (Text.cut?_eq_none_iff.2 hname.no_args)
  have hscope : name.splitOn m.scope = (name, []) :=
    Text.splitOn_of_cut?_none (Text.cut?_eq_none_iff.2 hname.no_scope)
  have hself : resolveName name = name := if_neg hname.ne_stem
  simp only [Frame.lookup?, hargs, hscope, hself]
  rfl

lemma Render.lookup_name {c : Context} {t : RunState} (frames : List Frame) (frame : Frame)
    (hname : Frame.IsName c.markers frame.name) (hfree : ∀ f ∈ frames, f.name ≠ frame.name)
    (ht : frames ++ [frame] <+: t.frames) : lookup c frame.name t = (.ok frame.value, t) := by
  obtain ⟨inner, hinner⟩ := ht
  rw [List.append_assoc, List.singleton_append] at hinner
  rw [lookup_apply, hname.lookup?, ← hinner, Frame.find?_of_free hfree]
  rfl

end Name

/-! ## What stands above a frame -/

namespace Watch

variable {α β : Type} {c : Context}

/-- A piece whose moments are all above the loop stack that it starts from, and that leaves that stack. -/
def Above (w : Watch α) : Prop :=
  ∀ s, (w s).ending.2.frames = s.frames ∧
    ∀ moment ∈ (w s).moments, ∀ t, moment.state? = some t → s.frames <+: t.frames

lemma above_plain {x : Render α} (hx : x.Quiet) : Above (plain x) := by
  intro s
  refine ⟨(hx s).1, ?_⟩
  intro moment hmoment
  cases hmoment

lemma above_bind {w : Watch α} {f : α → Watch β} (hw : Above w) (hf : ∀ a, Above (f a)) :
    Above (w >>= f) := by
  intro s
  obtain ⟨hframes, hmoments⟩ := hw s
  rcases hfirst : w s with ⟨⟨e | a, s'⟩, moments⟩ <;> rw [hfirst] at hframes hmoments
  · rw [bind_error hfirst]
    exact ⟨hframes, hmoments⟩
  · obtain ⟨hframes', hmoments'⟩ := hf a s'
    rw [bind_ok hfirst]
    refine ⟨hframes'.trans hframes, ?_⟩
    intro moment hmoment t ht
    rcases List.mem_append.1 hmoment with hbefore | hafter
    · exact hmoments moment hbefore t ht
    · have hprefix := hmoments' moment hafter t ht
      rwa [show s'.frames = s.frames from hframes] at hprefix

lemma above_lookup (c : Context) (e : Text) : Above (lookup c e) := by
  intro s
  refine ⟨((Render.piecewise_balanced c).lookup e s).1, ?_⟩
  intro moment hmoment t ht
  obtain rfl : moment = .evaluating s e := by simpa [lookup] using hmoment
  obtain rfl : s = t := Option.some.inj ht
  exact List.prefix_refl _

lemma above_inBody (opener : Token) {w : Watch α} (hw : Above w) : Above (inBody c opener w) := by
  intro s
  rw [inBody_apply]
  by_cases hdeep : c.maxDepth ≠ 0 ∧ c.maxDepth < s.depth + 1
  · rw [if_pos hdeep]
    refine ⟨rfl, ?_⟩
    intro moment hmoment
    cases hmoment
  · rw [if_neg hdeep]
    obtain ⟨hframes, hmoments⟩ := hw { s with depth := s.depth + 1 }
    refine ⟨hframes, ?_⟩
    intro moment hmoment t ht
    rcases List.mem_cons.1 hmoment with rfl | hmoment
    · obtain rfl : s = t := Option.some.inj ht
      exact List.prefix_refl _
    rcases List.mem_append.1 hmoment with hinner | hlast
    · exact hmoments moment hinner t ht
    · obtain rfl := List.mem_singleton.1 hlast
      cases ht

lemma above_withFrame (frame : Frame) {w : Watch α} (hw : Above w) : Above (withFrame frame w) := by
  intro s
  obtain ⟨hframes, hmoments⟩ := hw { s with frames := s.frames ++ [frame] }
  rw [withFrame_apply]
  constructor
  · dsimp only
    rw [hframes, List.dropLast_concat]
  · intro moment hmoment t ht
    exact (List.prefix_append _ _).trans (hmoments moment hmoment t ht)

theorem stepwise_above (c : Context) : Stepwise c c fun w _ => Above w where
  plain := above_plain
  bind := above_bind
  lookup := above_lookup c
  inBody opener _ _ := above_inBody opener
  withFrame frame _ _ := above_withFrame frame

end Watch

/-! ## The rows of a loop -/

/-- The moments of a row of a loop: its body is entered with the frame of the row on top of the stack, and until
it is left everything stands above that frame. -/
structure RowAbove (opener : Token) (frames : List Frame) (frame : Frame) (moments : List Moment) : Prop where
  entered : ∃ t inner, moments = .entering t opener :: (inner ++ [.leaving]) ∧ t.frames = frames ++ [frame]
  above : ∀ moment ∈ moments, ∀ t, moment.state? = some t → frames ++ [frame] <+: t.frames

/-- The moments of a row of a loop: its body is entered with the frame of the row on top of the stack, and until
it is left the name of the frame stands for the element of the row, without a question to the resolver. -/
structure BoundRow (c : Context) (opener : Token) (frames : List Frame) (frame : Frame)
    (moments : List Moment) : Prop where
  entered : ∃ t inner, moments = .entering t opener :: (inner ++ [.leaving]) ∧ t.frames = frames ++ [frame]
  bound : ∀ moment ∈ moments, ∀ t, moment.state? = some t →
    Render.lookup c frame.name t = (.ok frame.value, t)

lemma RowAbove.bound {c : Context} {opener : Token} {frames : List Frame} {frame : Frame} {moments : List Moment}
    (hrow : RowAbove opener frames frame moments) (hname : Frame.IsName c.markers frame.name)
    (hfree : ∀ f ∈ frames, f.name ≠ frame.name) : BoundRow c opener frames frame moments where
  entered := hrow.entered
  bound moment hmoment t ht := Render.lookup_name frames frame hname hfree (hrow.above moment hmoment t ht)

/-- The moments of a loop over some pairs, row by row from a row on, and what the loop comes to. It stops early
where a body lies too deep to be entered, or where a row fails. -/
inductive BoundRows (c : Context) (opener : Token) (frames : List Frame) (frame : Frame) :
    Nat → List (Value × Value) → Except Failure Text → List Moment → Prop where
  | done (row : Nat) : BoundRows c opener frames frame row [] (.ok []) []
  | tooDeep (row : Nat) (pairs : List (Value × Value)) (f : Failure) :
      BoundRows c opener frames frame row pairs (.error f) []
  | failed {row : Nat} {key value : Value} {moments : List Moment} (rest : List (Value × Value)) (f : Failure)
      (bound : BoundRow c opener frames { frame with key, row, value } moments) :
      BoundRows c opener frames frame row ((key, value) :: rest) (.error f) moments
  | cons {row : Nat} {key value : Value} {rest : List (Value × Value)} {outcome : Except Failure Text}
      {moments later : List Moment} (t : Text)
      (bound : BoundRow c opener frames { frame with key, row, value } moments)
      (rows : BoundRows c opener frames frame (row + 1) rest outcome later) :
      BoundRows c opener frames frame row ((key, value) :: rest) (outcome.map (t ++ ·)) (moments ++ later)

namespace Watch

variable {c : Context} {w x y : Watch Text} {s s' : RunState} {moments : List Moment}

lemma append_of_error {f : Failure} (h : x s = ⟨(.error f, s'), moments⟩) :
    x.append y s = ⟨(.error f, s'), moments⟩ :=
  bind_error h _

lemma append_of_ok {t : Text} (h : x s = ⟨(.ok t, s'), moments⟩) :
    x.append y s = ⟨((y s').ending.1.map (t ++ ·), (y s').ending.2), moments ++ (y s').moments⟩ := by
  unfold append
  rw [bind_ok h]
  rcases hy : y s' with ⟨⟨f | u, s''⟩, later⟩
  · rw [bind_error hy]
    rfl
  · rw [bind_ok hy]
    exact congrArg (Sighting.mk _) (congrArg (moments ++ ·) (List.append_nil later))

lemma row_above (opener : Token) (frame : Frame) (hw : Above w) (s : RunState) :
    let r := withFrame frame (inBody c opener w) s
    (r.ending.1 = .error (.tooDeep c.maxDepth opener.text opener.line) ∧ r.moments = []) ∨
      (RowAbove opener s.frames frame r.moments ∧
        ∃ t, t.frames = s.frames ++ [frame] ∧ r.ending.1 = (w t).ending.1) := by
  have habove := (above_inBody (c := c) opener hw { s with frames := s.frames ++ [frame] }).2
  rw [withFrame_apply]
  dsimp only
  by_cases hdeep : c.maxDepth ≠ 0 ∧ c.maxDepth < s.depth + 1
  · left
    rw [inBody_apply, if_pos hdeep]
    exact ⟨rfl, rfl⟩
  · right
    refine ⟨⟨?_, habove⟩, ?_⟩
    · rw [inBody_apply, if_neg hdeep]
      exact ⟨_, _, rfl, rfl⟩
    · rw [inBody_apply, if_neg hdeep]
      exact ⟨_, rfl, rfl⟩

lemma walk_rows (opener : Token) (frame : Frame) (hw : Above w) (hname : Frame.IsName c.markers frame.name)
    (hfree : ∀ f ∈ s.frames, f.name ≠ frame.name) (row : Nat) (pairs : List (Value × Value)) :
    BoundRows c opener s.frames frame row pairs (walk c opener frame w row pairs s).ending.1
      (walk c opener frame w row pairs s).moments := by
  induction pairs generalizing row s with
  | nil => exact .done row
  | cons pair rest ih =>
    obtain ⟨key, value⟩ := pair
    let current : Frame := { frame with key, row, value }
    have hrow := row_above (c := c) opener current hw s
    have hframes := (above_withFrame current (above_inBody (c := c) opener hw) s).1
    rw [walk]
    rcases hfirst : withFrame current (inBody c opener w) s with ⟨⟨f | t, s'⟩, moments⟩ <;>
      rw [hfirst] at hrow hframes
    · rw [append_of_error hfirst]
      rcases hrow with ⟨-, rfl⟩ | ⟨hrow, -⟩
      · exact .tooDeep row _ f
      · exact .failed rest f (hrow.bound hname hfree)
    · rw [append_of_ok hfirst]
      rcases hrow with ⟨herror, -⟩ | ⟨hrow, -⟩
      · cases herror
      · -- The row has left the loop stack as it was, so the next one stands in the same place.
        have hlater := ih (s := s') (by rw [show s'.frames = s.frames from hframes]; exact hfree) (row + 1)
        rw [show s'.frames = s.frames from hframes] at hlater
        exact .cons t (hrow.bound hname hfree) hlater

lemma loop_of_pairs (block : LoopBlock) {subject : Value} {pairs : List (Value × Value)}
    (hlookup : Render.lookup c block.target s = (.ok subject, s'))
    (hpairs : subject.pairs? s'.streams = some pairs) :
    ∃ start : RunState, start.frames = s.frames ∧
      loop c block w s =
        let r := walk c block.opener ⟨block.variable s.frames, pairs, .null, 0, .null⟩ w 0 pairs start
        ⟨r.ending, .evaluating s block.target :: r.moments⟩ := by
  have hframes : s'.frames = s.frames := by
    have hbalanced := ((Render.piecewise_balanced c).lookup block.target s).1
    rwa [hlookup] at hbalanced
  have hget : plain get s = (⟨(.ok s, s), []⟩ : Sighting RunState) := rfl
  have htarget : lookup c block.target s = ⟨(.ok subject, s'), [.evaluating s block.target]⟩ := by
    rw [← hlookup]
    rfl
  let drained : RunState := { s' with streams := subject.drained s'.streams }
  have htake : plain (Render.takePairs? subject) s' = ⟨(.ok (some pairs), drained), []⟩ := by
    rw [← hpairs]
    rfl
  refine ⟨{ drained with
    notes := drained.notes.push (.looping (block.variable s.frames) block.target pairs.length) }, hframes, ?_⟩
  unfold loop
  rw [bind_ok hget, bind_ok htarget, bind_ok htake]
  rfl

lemma range_above (c : Context) (tokens : Array Token) (start stop : Nat) : Above (range c tokens start stop) :=
  (stepwise_above c).parallel.range rfl tokens start stop

end Watch

/-- Every loop binds its variable. In every row of a loop whose target can be walked, from the entry of the body
to its end, and at whatever depth inside it, the name of the loop stands for the element of the row, and
no resolver is asked for it; provided that the name is looked up as it is, and no frame around has it. -/
theorem Render.loop_bindsVariable (c : Context) (block : LoopBlock) (tokens : Array Token) (start stop : Nat)
    {s s' : RunState} {subject : Value} {pairs : List (Value × Value)}
    (hname : Frame.IsName c.markers (block.variable s.frames))
    (hfree : ∀ frame ∈ s.frames, frame.name ≠ block.variable s.frames)
    (hlookup : lookup c block.target s = (.ok subject, s'))
    (hpairs : subject.pairs? s'.streams = some pairs) :
    let run := loop c block (range c tokens start stop) s
    let watched := Watch.loop c block (Watch.range c tokens start stop) s
    let frame : Frame := ⟨block.variable s.frames, pairs, .null, 0, .null⟩
    watched.ending = run ∧ ∃ moments, watched.moments = .evaluating s block.target :: moments ∧
      BoundRows c block.opener s.frames frame 0 pairs run.1 moments := by
  intro run watched frame
  have hending : watched.ending = run :=
    Watch.erases_loop block (Watch.range_ending c tokens start stop) (balanced_range c tokens start stop) s
  refine ⟨hending, ?_⟩
  obtain ⟨begin, hbegin, hloop⟩ :=
    Watch.loop_of_pairs (w := Watch.range c tokens start stop) block hlookup hpairs
  have hrows := Watch.walk_rows (s := begin) block.opener frame (Watch.range_above c tokens start stop) hname
    (by rw [hbegin]; exact hfree) 0 pairs
  have hwatched : watched = _ := hloop
  rw [hbegin] at hrows
  rw [← hending, hwatched]
  exact ⟨_, rfl, hrows⟩

/-- Inside a default loop, another one over the element, and in its body a loop with a variable of the same
name, which is hidden. -/
theorem Render.loop_bindsVariable_default :
    let c : Context := ⟨.default, .ofFunction fun _ => .ok .null, 0⟩
    let tokens : Array Token := #[.command 1 "loop2".text, .command 1 "@loop1,loop2".text,
      .command 1 "loop2".text, .command 1 "/@loop1".text]
    let block : LoopBlock := ⟨.command 1 "@loop1".text, "loop1".text, none, 4⟩
    let outer : Frame := ⟨"loop1".text, [], .null, 0, .list [.int 7, .null]⟩
    let s : RunState := { frames := [outer] }
    let pairs : List (Value × Value) := [(.int 0, .int 7), (.int 1, .null)]
    let watched := Watch.loop c block (Watch.range c tokens 0 4) s
    Frame.IsName c.markers (block.variable s.frames) ∧
      (∀ frame ∈ s.frames, frame.name ≠ block.variable s.frames) ∧
      lookup c block.target s = (.ok outer.value, s) ∧ outer.value.pairs? s.streams = some pairs ∧
      block.variable s.frames = "loop2".text ∧
      ∃ moments, watched.moments = .evaluating s block.target :: moments ∧
        BoundRows c block.opener s.frames ⟨block.variable s.frames, pairs, .null, 0, .null⟩ 0 pairs
          (loop c block (range c tokens 0 4) s).1 moments := by
  intro c tokens block outer s pairs watched
  have hname : Frame.IsName c.markers (block.variable s.frames) := by decide
  have hfree : ∀ frame ∈ s.frames, frame.name ≠ block.variable s.frames := by
    intro frame hframe
    obtain rfl := List.mem_singleton.1 hframe
    decide
  have hlookup : lookup c block.target s = (.ok outer.value, s) :=
    lookup_name [] outer (by decide) (by simp) (List.prefix_refl _)
  have hpairs : outer.value.pairs? s.streams = some pairs := rfl
  obtain ⟨-, hbound⟩ := loop_bindsVariable c block tokens 0 4 hname hfree hlookup hpairs
  exact ⟨hname, hfree, hlookup, hpairs, by decide, hbound⟩

/-- Markers of which the separator of paths is a part of the stem of default names. -/
def stemSplittingMarkers : Markers :=
  { Markers.default with scope := ⟨"oo".text, by decide⟩ }

/-- Two numbers under `b`, and a letter under every other name. -/
def twoNumbersResolver : Resolver :=
  .ofFunction fun e => .ok (if e = "b".text then .list [.int 1, .int 2] else .text ['r'])

/-- The bare stem is no name of a loop's own frame, and neither is a default name that holds the separator of
paths: the resolver is asked in every row. -/
theorem Engine.format_variable_unbound :
    let named : Template := .loop ['b'] (some Frame.defaultStem) (.substitution Frame.defaultStem .empty) .empty
    let numbered : Template := .loop ['b'] none (.substitution (Frame.defaultName 1) .empty) .empty
    let run := format ⟨.default, defaultMaxDepth⟩ twoNumbersResolver [] (named.source .default)
    let run' := format ⟨stemSplittingMarkers, defaultMaxDepth⟩ twoNumbersResolver []
      (numbered.source stemSplittingMarkers)
    run.1 = .ok "rr".text ∧ run.2.calls = #["b".text, "loop".text, "loop".text] ∧
      run'.1 = .ok "rr".text ∧ run'.2.calls = #["b".text, "loop1".text, "loop1".text] := by
  decide +kernel

end TextTemplate
