import TextTemplate.Proofs.Tour

/-!
# What holds all along a run

An invariant is a property of a place and of the state that a run is in there. It says something of the visits at
that place, and it passes on to the bodies of the blocks there. By induction on the steps it then holds at every
place of a run, and the run ends, within as many steps as there are positions.
-/

namespace TextTemplate

/-! ## A run step by step -/

open Render in
/-- Do what the token at a position asks for. -/
def Render.perform (c : Context) (tokens : Array Token) (position : Nat) : Step → Render Text
  | .literal text => return text
  | .skip => return []
  | .substitution expression => substitution c expression
  | .loop block => loop c block (range c tokens (position + 1) block.close)
  | .conditional block =>
    conditional c block (range c tokens (position + 1) block.firstStop)
      (block.else?.map fun q => range c tokens (q + 1) block.close)
  | .failure f => fail f

lemma Render.fail_bind {α β : Type} (f : Failure) (g : α → Render β) : fail f >>= g = fail f := by
  funext s
  unfold fail
  cases Note.ofFailure? f with
  | none => rfl
  | some n => rfl

lemma Render.range_eq_perform {c : Context} {tokens : Array Token} {position stop : Nat} (hlt : position < stop) :
    range c tokens position stop = (do
      let piece ← perform c tokens position (Step.ofPosition c.markers tokens position stop)
      return piece ++ (← range c tokens ((Step.ofPosition c.markers tokens position stop).next position) stop)) := by
  cases h : Step.ofPosition c.markers tokens position stop with
  | literal text => exact range_literal hlt h
  | skip =>
    rw [range_skip hlt h]
    simp only [perform, pure_bind, List.nil_append, bind_pure]
    rfl
  | substitution e => exact range_substitution hlt h
  | loop block => exact range_loop hlt h
  | conditional block => exact range_conditional hlt h
  | failure f => rw [range_failure hlt h, perform, fail_bind]

lemma Render.balanced_perform (c : Context) (tokens : Array Token) (position : Nat) (asked : Step) :
    Balanced (perform c tokens position asked) := by
  have hP := piecewise_balanced c
  cases asked with
  | literal text => exact hP.pure text
  | skip => exact hP.pure []
  | substitution e => exact hP.substitution e
  | loop block => exact hP.loop block (balanced_range c tokens _ _)
  | conditional block =>
    refine hP.conditional block (balanced_range c tokens _ _) ?_
    intro x hx
    obtain ⟨q, -, rfl⟩ := Option.map_eq_some_iff.1 hx
    exact balanced_range c tokens _ _
  | failure f => exact hP.fail f

lemma Step.next_bounds {m : Markers} {tokens : Array Token} {position stop : Nat} (hlt : position < stop) :
    position < (Step.ofPosition m tokens position stop).next position ∧
      (Step.ofPosition m tokens position stop).next position ≤ stop := by
  cases h : Step.ofPosition m tokens position stop with
  | loop block =>
    have := loop_bounds h
    dsimp only [next]
    omega
  | conditional block =>
    have := conditional_bounds h
    dsimp only [next]
    omega
  | literal | skip | substitution | failure =>
    dsimp only [next]
    omega

/-! ## The rows of a loop -/

/-- The target that the opener of a loop names. -/
def Token.loopTarget (m : Markers) (opener : Token) : Text :=
  Text.trim (Text.splitOn m.args (opener.text.drop m.loop.text.length)).1

/-- The variable that the opener of a loop names, unless it is empty. -/
def Token.loopVariable? (m : Markers) (opener : Token) : Option Text :=
  ((Text.splitOn m.args (opener.text.drop m.loop.text.length)).2.head?.map Text.trim).filter (· ≠ [])

lemma Step.loop_spelled {m : Markers} {tokens : Array Token} {position stop : Nat} {block : LoopBlock}
    (h : ofPosition m tokens position stop = .loop block) :
    block.target = block.opener.loopTarget m ∧ block.name? = block.opener.loopVariable? m := by
  revert h
  simp only [ofPosition, ofLoop, ofConditional]
  repeat' split
  all_goals simp only [Step.loop.injEq, reduceCtorEq, false_implies]
  rintro rfl
  exact ⟨rfl, rfl⟩

/-- The frame of a row of a loop, at a height of the stack that is counted from one. Its pairs are those of the
value that the target stood for when the loop was entered. -/
structure LoopRow.Binds (c : Context) (r : LoopRow) (height : Nat) (frame : Frame) : Prop where
  name_eq : frame.name = (r.opener.loopVariable? c.markers).getD (Frame.defaultName height)
  pairs_eq : ∃ subject looked, Render.lookup c (r.opener.loopTarget c.markers) r.entered = (.ok subject, looked) ∧
    subject.pairs? looked.streams = some frame.pairs
  row_eq : frame.row = r.row
  row_lt : r.row < frame.pairs.length
  current : frame.pairs[r.row]? = some (frame.key, frame.value)

/-! ## Invariants -/

/-- A body lies strictly inside the range around it. -/
structure Place.Inside (inner place : Place) : Prop where
  start_lt : place.start < inner.start
  start_le_stop : inner.start ≤ inner.stop
  stop_lt : inner.stop < place.stop

/-- A nesting depth that is not too deep. -/
def Context.Admits (c : Context) (depth : Int) : Prop :=
  ¬ (c.maxDepth ≠ 0 ∧ c.maxDepth < depth)

namespace Tour

/-- What holds at a place, all along a run with the visits `whole`, and what it says of a visit. -/
structure Invariant (c : Context) (whole : List Visit) (I : Place → RunState → Prop) (V : Visit → Prop) :
    Prop where
  /-- It is about the loop stack and the depth only. -/
  still : ∀ {place : Place} {s t : RunState}, I place s → t.frames = s.frames → t.depth = s.depth → I place t
  branch : ∀ {place : Place} {start stop : Nat} {opener : Token} {s : RunState}, I place s →
    (place.body start stop (.branch opener)).Inside place → c.Admits (s.depth + 1) →
    I (place.body start stop (.branch opener)) { s with depth := s.depth + 1 }
  /-- A row has its frame on top of the stack that its loop was entered with. -/
  row : ∀ {place : Place} {start stop : Nat} {r : LoopRow} {frame : Frame}, I place r.entered →
    .evaluating place r.entered (r.opener.loopTarget c.markers) ∈ whole →
    (place.body start stop (.row r)).Inside place → c.Admits (r.entered.depth + 1) →
    r.Binds c (r.entered.frames.length + 1) frame →
    I (place.body start stop (.row r))
      { r.entered with frames := r.entered.frames ++ [frame], depth := r.entered.depth + 1 }
  reading : ∀ {place : Place} {s : RunState} {position : Nat}, I place s → place.start ≤ position →
    position < place.stop → V (.reading place position)
  evaluating : ∀ {place : Place} {s : RunState} (expression : Text), I place s →
    V (.evaluating place s expression)
  entering : ∀ {place inner : Place} {s : RunState}, I place s → inner.Inside place → V (.entering place inner)
  advancing : ∀ {place : Place} {s : RunState} {position next : Nat}, I place s → place.start ≤ position →
    position < next → next ≤ place.stop → V (.advancing place position next)

section Follows

variable {α β : Type} {whole : List Visit} {V : Visit → Prop}

/-- A trail that belongs to a run ends as it should, with visits as they should be. -/
def Follows (whole : List Visit) (V : Visit → Prop) (r : Trail α) (outcome : Except Failure α × RunState) : Prop :=
  r.visits ⊆ whole → r.ending? = some outcome ∧ ∀ v ∈ r.visits, V v

lemma follows_plain (x : Render α) (s : RunState) : Follows whole V (plain x s) (x s) :=
  fun _ => ⟨rfl, fun v hv => by cases hv⟩

lemma follows_pure (a : α) (s : RunState) : Follows whole V ((pure a : Tour α) s) ((pure a : Render α) s) :=
  fun _ => ⟨rfl, fun v hv => by cases hv⟩

lemma Follows.bind {w : Tour α} {x : Render α} {f : α → Tour β} {g : α → Render β} {s : RunState}
    (hw : Follows whole V (w s) (x s))
    (hf : ∀ a s', x s = (.ok a, s') → (w s).visits ⊆ whole → Follows whole V (f a s') (g a s')) :
    Follows whole V ((w >>= f) s) ((x >>= g) s) := by
  intro hwhole
  have hsub : (w s).visits ⊆ whole := List.Subset.trans (visits_subset_bind w f s) hwhole
  obtain ⟨hending, hvisits⟩ := hw hsub
  have hfirst : w s = ⟨some (x s), (w s).visits⟩ := by rw [← hending]
  rw [Render.bind_apply]
  rcases hxs : x s with ⟨e | a, s'⟩ <;> rw [hxs] at hfirst
  · rw [bind_error hfirst]
    exact ⟨rfl, hvisits⟩
  · rw [bind_ok hfirst] at hwhole ⊢
    obtain ⟨hending', hvisits'⟩ := hf a s' hxs hsub (List.append_subset.1 hwhole).2
    exact ⟨hending', List.forall_mem_append.2 ⟨hvisits, hvisits'⟩⟩

lemma follows_withFrame {frame : Frame} {body : Nat → Tour α} {x : Nat → Render α} {s : RunState}
    (h : Follows whole V (body s.frames.length { s with frames := s.frames ++ [frame] })
      (x s.frames.length { s with frames := s.frames ++ [frame] })) :
    Follows whole V (withFrame frame body s) (Render.withFrame frame x s) := by
  intro hwhole
  obtain ⟨hending, hvisits⟩ := h hwhole
  refine ⟨?_, hvisits⟩
  unfold withFrame Render.withFrame
  dsimp only
  rw [hending]
  rfl

/-- A piece of a run that goes as it should from every state in which something holds. -/
def Guided (whole : List Visit) (I : Place → RunState → Prop) (V : Visit → Prop) (place : Place) (w : Tour α)
    (x : Render α) : Prop :=
  ∀ s, I place s → Follows whole V (w s) (x s)

end Follows

namespace Invariant

open Render (Balanced)

variable {c : Context} {whole : List Visit} {I : Place → RunState → Prop} {V : Visit → Prop} {α β : Type}
  {place inner : Place} (hI : Invariant c whole I V)

include hI

lemma bind {w : Tour α} {x : Render α} {f : α → Tour β} {g : α → Render β} (hx : Balanced x)
    (hw : Guided whole I V place w x) (hf : ∀ a, Guided whole I V place (f a) (g a)) :
    Guided whole I V place (w >>= f) (x >>= g) := by
  intro s hs
  refine (hw s hs).bind fun a s' hxs _ => hf a s' ?_
  have hkept := hx s
  rw [hxs] at hkept
  exact hI.still hs hkept.1 hkept.2

lemma lookup (e : Text) : Guided whole I V place (Tour.lookup c place e) (Render.lookup c e) := by
  intro s hs _
  refine ⟨rfl, fun v hv => ?_⟩
  rw [List.mem_singleton.1 hv]
  exact hI.evaluating e hs

lemma findsThen {w : Tour α} {a : α} {f : α → Tour β} {x : Render β} {start stop : Nat}
    (h : Finds place start stop w a) (hstart : place.start ≤ start) (hstop : stop ≤ place.stop)
    (hf : Guided whole I V place (f a) x) : Guided whole I V place (w >>= f) x := by
  intro s hs hwhole
  obtain ⟨visits, hw, hvisits⟩ := h s
  rw [bind_ok hw] at hwhole ⊢
  obtain ⟨hending, hlater⟩ := hf s hs (List.append_subset.1 hwhole).2
  refine ⟨hending, List.forall_mem_append.2 ⟨fun v hv => ?_, hlater⟩⟩
  obtain ⟨p, rfl, hle, hlt⟩ := hvisits v hv
  exact hI.reading hs (by omega) (by omega)

/-! ### Bodies -/

omit hI in
lemma follows_inBody {render : Place → Tour Text} {x : Render Text} {s : RunState} (opener : Token)
    (hrender : Guided whole I V inner (render inner) x) (hentering : V (.entering place inner))
    (hinner : c.Admits (s.depth + 1) → I inner { s with depth := s.depth + 1 }) :
    Follows whole V (Tour.inBody c opener (within place inner render) s) (Render.inBody c opener x s) := by
  unfold Tour.inBody Render.inBody
  by_cases hdeep : c.maxDepth ≠ 0 ∧ c.maxDepth < s.depth + 1
  · rw [if_pos hdeep, if_pos hdeep]
    exact fun _ => ⟨rfl, fun v hv => by cases hv⟩
  · rw [if_neg hdeep, if_neg hdeep]
    have hbody : within place inner render { s with depth := s.depth + 1 } =
        ⟨(render inner { s with depth := s.depth + 1 }).ending?,
          .entering place inner :: (render inner { s with depth := s.depth + 1 }).visits⟩ := rfl
    rw [hbody]
    intro hwhole
    obtain ⟨hending, hvisits⟩ := hrender _ (hinner hdeep) (List.cons_subset.1 hwhole).2
    refine ⟨?_, List.forall_mem_cons.2 ⟨hentering, hvisits⟩⟩
    dsimp only
    rw [hending]
    rfl

lemma branchBody {opener : Token} {start stop : Nat} {render : Place → Tour Text} {x : Render Text}
    (hinside : (place.body start stop (.branch opener)).Inside place)
    (hrender : Guided whole I V (place.body start stop (.branch opener))
      (render (place.body start stop (.branch opener))) x) :
    Guided whole I V place (Tour.inBody c opener (within place (place.body start stop (.branch opener)) render))
      (Render.inBody c opener x) :=
  fun _ hs => follows_inBody opener hrender (hI.entering hs hinside) (hI.branch hs hinside)

lemma follows_eachPair {opener : Token} {entered : RunState} {start stop : Nat} {frame : Frame}
    {render : Place → Tour Text} {x : Render Text} (hx : Balanced x) (hentered : I place entered)
    (hlooked : .evaluating place entered (opener.loopTarget c.markers) ∈ whole)
    (hinside : ∀ enclosure, (place.body start stop enclosure).Inside place)
    (hbinds : ∀ n key value, frame.pairs[n]? = some (key, value) →
      LoopRow.Binds c ⟨opener, entered, n⟩ (entered.frames.length + 1) { frame with key, row := n, value })
    (hrender : ∀ enclosure, Guided whole I V (place.body start stop enclosure)
      (render (place.body start stop enclosure)) x)
    {row : Nat} {rest : List (Value × Value)} (hrest : frame.pairs.drop row = rest) {s : RunState} {top : Frame}
    (hframes : s.frames = entered.frames ++ [top]) (hdepth : s.depth = entered.depth) :
    Follows whole V
      (Tour.eachPair c opener frame
        (fun n => within place (place.body start stop (.row ⟨opener, entered, n⟩)) render)
        entered.frames.length row rest s)
      (Render.eachPair c opener frame x entered.frames.length row rest s) := by
  -- Whatever frame is on top before a row is replaced by the frame of that row.
  induction rest generalizing row s top with
  | nil => exact follows_pure [] s
  | cons pair rest ih =>
    obtain ⟨key, value⟩ := pair
    let current : Frame := { frame with key, row, value }
    have hpair : frame.pairs[row]? = some (key, value) := by
      rw [← List.head?_drop, hrest, List.head?_cons]
    have hlater : frame.pairs.drop (row + 1) = rest := by
      rw [← List.tail_drop, hrest, List.tail_cons]
    refine (follows_plain _ s).bind fun _ t ht _ => ?_
    rw [Render.setFrame_apply, hframes, Render.set_top] at ht
    obtain rfl : { s with frames := entered.frames ++ [current] } = t := (Prod.mk.inj ht).2
    have hbody := follows_inBody (s := { s with frames := entered.frames ++ [current] }) opener
      (hrender (.row ⟨opener, entered, row⟩)) (hI.entering hentered (hinside _)) fun hadmits => by
        refine hI.still (hI.row (r := ⟨opener, entered, row⟩) hentered hlooked (hinside _) ?_
          (hbinds row key value hpair)) rfl (congrArg (· + 1) hdepth)
        rwa [← hdepth]
    refine hbody.bind fun piece u hu _ => ?_
    have hrow : Balanced (Render.inBody c opener x) := Render.balanced_inBody hx
    have hkept := hrow { s with frames := entered.frames ++ [current] }
    rw [hu] at hkept
    exact (ih hlater hkept.1 (hkept.2.trans hdepth)).bind fun _ _ _ _ => follows_pure _ _

lemma loop {block : LoopBlock} {start stop : Nat} {render : Place → Tour Text} {x : Render Text}
    (htarget : block.target = block.opener.loopTarget c.markers)
    (hname : block.name? = block.opener.loopVariable? c.markers) (hx : Balanced x)
    (hinside : ∀ enclosure, (place.body start stop enclosure).Inside place)
    (hrender : ∀ enclosure, Guided whole I V (place.body start stop enclosure)
      (render (place.body start stop enclosure)) x) :
    Guided whole I V place
      (Tour.loop c place block fun enclosure => within place (place.body start stop enclosure) render)
      (Render.loop c block x) := by
  intro s hs
  refine (follows_plain _ s).bind fun entered _ hget _ => ?_
  rw [Render.get_apply] at hget
  cases hget
  refine (hI.lookup block.target s hs).bind fun subject looked hsubject hvisits => ?_
  have hlooked : .evaluating place s block.target ∈ whole := hvisits (List.mem_singleton_self _)
  have hkept := (Render.piecewise_balanced c).lookup block.target s
  rw [hsubject] at hkept
  refine (follows_plain _ looked).bind fun pairs? _ htake _ => ?_
  rw [Render.takePairs?] at htake
  cases htake
  cases hpairs : subject.pairs? looked.streams with
  | none => exact (follows_plain _ _).bind fun _ _ _ _ => follows_plain _ _
  | some pairs =>
    refine (follows_plain _ _).bind fun _ t hnote _ => ?_
    rw [Render.note_apply] at hnote
    cases hnote
    refine follows_withFrame ?_
    dsimp only
    rw [hkept.1]
    rw [htarget] at hsubject hlooked
    refine hI.follows_eachPair hx hs hlooked hinside ?_ hrender List.drop_zero rfl hkept.2
    intro n key value hpair
    obtain ⟨hlt, -⟩ := List.getElem?_eq_some_iff.1 hpair
    exact ⟨by rw [hname], ⟨subject, looked, hsubject, hpairs⟩, rfl, hlt, hpair⟩

lemma conditional {block : ConditionalBlock} {holds : Tour Text} {x : Render Text} {otherwise? : Option (Tour Text)}
    {x? : Option (Render Text)}
    (hholds : Guided whole I V place (Tour.inBody c block.opener holds) (Render.inBody c block.opener x))
    (hother : Option.Rel (fun w y => Guided whole I V place (Tour.inBody c block.opener w)
      (Render.inBody c block.opener y)) otherwise? x?) :
    Guided whole I V place (Tour.conditional c place block holds otherwise?)
      (Render.conditional c block x x?) := by
  refine hI.bind ((Render.piecewise_balanced c).lookup _) (hI.lookup _) fun subject => ?_
  split
  · exact hholds
  · cases hother with
    | none => exact fun s _ => follows_pure [] s
    | some h => exact h

/-! ### Ranges -/

lemma perform {tokens : Array Token} {position : Nat} {render : Place → Tour Text}
    (hposition : place.start ≤ position)
    (hrender : ∀ inner : Place, inner.Inside place → position < inner.start →
      Guided whole I V inner (render inner) (Render.range c tokens inner.start inner.stop)) :
    let asked := Step.ofPosition c.markers tokens position place.stop
    Guided whole I V place (Tour.perform c place position render asked)
      (Render.perform c tokens position asked) := by
  intro asked
  cases h : asked with
  | literal text => exact fun s _ => follows_pure text s
  | skip => exact fun s _ => follows_pure [] s
  | substitution e =>
    exact hI.bind ((Render.piecewise_balanced c).lookup e) (hI.lookup e) fun v s _ => follows_plain _ s
  | failure f => exact fun s _ => follows_plain _ s
  | loop block =>
    obtain ⟨htarget, hname⟩ := Step.loop_spelled h
    have hbounds := Step.loop_bounds h
    have hinside (enclosure : Enclosure) :
        (place.body (position + 1) block.close enclosure).Inside place :=
      ⟨Nat.lt_succ_of_le hposition, hbounds.1, hbounds.2⟩
    exact hI.loop htarget hname (Render.balanced_range c tokens _ _) hinside fun enclosure =>
      hrender _ (hinside enclosure) (Nat.lt_succ_self position)
  | conditional block =>
    have hbounds := Step.conditional_bounds h
    have hfirst := Step.firstStop_bounds h
    have hbranch (start stop : Nat) (hstart : position < start) (hle : start ≤ stop) (hstop : stop < place.stop) :
        Guided whole I V place
          (Tour.inBody c block.opener
            (within place (place.body start stop (.branch block.opener)) render))
          (Render.inBody c block.opener (Render.range c tokens start stop)) := by
      have hinside : (place.body start stop (.branch block.opener)).Inside place :=
        ⟨Nat.lt_of_le_of_lt hposition hstart, hle, hstop⟩
      exact hI.branchBody hinside (hrender _ hinside hstart)
    refine hI.conditional (hbranch _ _ (by omega) (by omega) (by omega)) ?_
    cases hq : block.else? with
    | none => exact .none
    | some q =>
      have := hbounds.2.2 q hq
      exact .some (hbranch _ _ (by omega) (by omega) (by omega))

/-- A run that has a step for each position ends as the run itself does, and its visits are as they should be. -/
theorem range {tokens : Array Token} {steps position : Nat} (hposition : place.start ≤ position)
    (hstop : place.stop ≤ tokens.size) (hsteps : place.stop - position ≤ steps) :
    Guided whole I V place (Tour.range c tokens steps place position)
      (Render.range c tokens position place.stop) := by
  -- A body is shorter than what is left of the range around it, and so is what follows a step.
  induction steps generalizing place position with
  | zero =>
    rw [Tour.range, if_neg (by omega), Render.range_of_le (by omega)]
    exact fun s _ => follows_pure [] s
  | succ steps ih =>
    rw [Tour.range]
    by_cases hlt : position < place.stop
    · rw [if_pos hlt, Render.range_eq_perform hlt]
      refine hI.findsThen (finds_step c.markers hlt hstop) hposition (Nat.le_refl _) ?_
      refine hI.bind (Render.balanced_perform c tokens position _) ?_ fun piece s hs hwhole => ?_
      · refine hI.perform hposition fun inner hinside hstart => ?_
        have := hinside.stop_lt
        exact ih (Nat.le_refl _) (by omega) (by omega)
      · obtain ⟨hforward, hnext⟩ := Step.next_bounds hlt
        have hrest := ih (Nat.le_trans hposition (Nat.le_of_lt hforward)) hstop (by omega) s hs
        obtain ⟨hending, hvisits⟩ := hrest.bind
          (fun _ t _ _ => follows_pure _ t) (List.cons_subset.1 hwhole).2
        exact ⟨hending, List.forall_mem_cons.2 ⟨hI.advancing hs hposition hforward hnext, hvisits⟩⟩
    · rw [if_neg hlt, Render.range_of_le (by omega)]
      exact fun s _ => follows_pure [] s

theorem template (source : Text) {s : RunState} (hs : ∀ stop, I ⟨0, stop, []⟩ s) :
    Follows whole V (Tour.template c source s) (Render.template c source s) := by
  refine (follows_plain _ s).bind fun tokens t htokens _ => ?_
  rw [Render.tokens_apply] at htokens
  obtain rfl := (Prod.mk.inj htokens).2
  have hrange : Guided whole I V ⟨0, tokens.toArray.size, []⟩ (Tour.range c tokens.toArray tokens.toArray.size _ 0)
      (Render.range c tokens.toArray 0 tokens.toArray.size) :=
    hI.range (Nat.le_refl 0) (Nat.le_refl _) (Nat.sub_le _ _)
  exact hrange _ (hI.still (hs _) rfl rfl)

end Invariant

end Tour

end TextTemplate
