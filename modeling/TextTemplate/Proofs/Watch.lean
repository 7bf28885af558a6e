import TextTemplate.Engine.Basic
import TextTemplate.Proofs.Balance
import TextTemplate.Proofs.Plan

/-!
# Watching a run

What a run does on the way does not show in how it ends: which expressions it looks up under which loop
stack, and which bodies it enters. Here a plan is followed once more, and these moments are written down.
Only a look-up and the entry of a body leave a moment, and the walk of a loop is told row by row, each row
with a frame of its own. Forgetting the moments gives the run itself.
-/

namespace TextTemplate

/-- A point of a run, with the state at that point. -/
inductive Moment where
  /-- An expression is looked up. -/
  | evaluating (s : RunState) (expression : Text)
  /-- The body of a block is entered. -/
  | entering (s : RunState) (opener : Token)
  /-- The body that was entered last is left. -/
  | leaving

/-- How a watched piece of a run ends, and the moments on the way. -/
structure Sighting (α : Type) where
  ending : Except Failure α × RunState
  moments : List Moment

/-- A piece of a run that is watched. -/
def Watch (α : Type) : Type :=
  RunState → Sighting α

namespace Watch

variable {α β : Type}

instance : Monad Watch where
  pure a := fun s => ⟨(.ok a, s), []⟩
  bind w f := fun s =>
    match w s with
    | ⟨(.ok a, s'), moments⟩ => { f a s' with moments := moments ++ (f a s').moments }
    | ⟨(.error e, s'), moments⟩ => ⟨(.error e, s'), moments⟩

theorem bind_apply (w : Watch α) (f : α → Watch β) (s : RunState) :
    (w >>= f) s =
      match w s with
      | ⟨(.ok a, s'), moments⟩ => { f a s' with moments := moments ++ (f a s').moments }
      | ⟨(.error e, s'), moments⟩ => ⟨(.error e, s'), moments⟩ := rfl

theorem bind_error {w : Watch α} {e : Failure} {s s' : RunState} {moments : List Moment}
    (h : w s = ⟨(.error e, s'), moments⟩) (f : α → Watch β) :
    (w >>= f) s = ⟨(.error e, s'), moments⟩ := by
  rw [bind_apply, h]

theorem bind_ok {w : Watch α} {a : α} {s s' : RunState} {moments : List Moment}
    (h : w s = ⟨(.ok a, s'), moments⟩) (f : α → Watch β) :
    (w >>= f) s = ⟨(f a s').ending, moments ++ (f a s').moments⟩ := by
  rw [bind_apply, h]

theorem bind_ending (w : Watch α) (f : α → Watch β) (s : RunState) :
    ((w >>= f) s).ending =
      match (w s).ending with
      | (.ok a, s') => (f a s').ending
      | (.error e, s') => (.error e, s') := by
  rw [bind_apply]
  rcases w s with ⟨⟨e | a, s'⟩, moments⟩ <;> rfl

/-- A piece without a moment to write down. -/
def plain (x : Render α) : Watch α := fun s => ⟨x s, []⟩

def lookup (c : Context) (expression : Text) : Watch Value := fun s =>
  ⟨Render.lookup c expression s, [.evaluating s expression]⟩

def inBody (c : Context) (opener : Token) (body : Watch α) : Watch α := fun s =>
  if c.maxDepth ≠ 0 ∧ c.maxDepth < s.depth + 1 then
    ⟨(.error (.tooDeep c.maxDepth opener.text opener.line), s), []⟩
  else
    let r := body { s with depth := s.depth + 1 }
    ⟨(r.ending.1, { r.ending.2 with depth := r.ending.2.depth - 1 }),
      .entering s opener :: (r.moments ++ [.leaving])⟩

def withFrame (frame : Frame) (body : Watch α) : Watch α := fun s =>
  let r := body { s with frames := s.frames ++ [frame] }
  ⟨(r.ending.1, { r.ending.2 with frames := r.ending.2.frames.dropLast }), r.moments⟩

theorem inBody_apply (c : Context) (opener : Token) (body : Watch α) (s : RunState) :
    inBody c opener body s =
      if c.maxDepth ≠ 0 ∧ c.maxDepth < s.depth + 1 then
        ⟨(.error (.tooDeep c.maxDepth opener.text opener.line), s), []⟩
      else
        let r := body { s with depth := s.depth + 1 }
        ⟨(r.ending.1, { r.ending.2 with depth := r.ending.2.depth - 1 }),
          .entering s opener :: (r.moments ++ [.leaving])⟩ := rfl

theorem withFrame_apply (frame : Frame) (body : Watch α) (s : RunState) :
    withFrame frame body s =
      let r := body { s with frames := s.frames ++ [frame] }
      ⟨(r.ending.1, { r.ending.2 with frames := r.ending.2.frames.dropLast }), r.moments⟩ := rfl

/-- One piece after another. -/
def append (x y : Watch Text) : Watch Text := do
  let piece ← x
  return piece ++ (← y)

/-- The body of a loop for each pair from a row on. -/
def walk (c : Context) (opener : Token) (frame : Frame) (body : Watch Text) (row : Nat) :
    List (Value × Value) → Watch Text
  | [] => return []
  | (key, value) :: rest =>
    append (withFrame { frame with key, row, value } (inBody c opener body))
      (walk c opener frame body (row + 1) rest)

def loop (c : Context) (block : LoopBlock) (body : Watch Text) : Watch Text := do
  let name := block.name?.getD (Frame.defaultName ((← plain get).frames.length + 1))
  let subject ← lookup c block.target
  match ← plain (Render.takePairs? subject) with
  | none =>
    plain (Render.note (.notIterable block.target block.opener.line))
    plain (throw (.notIterable block.target subject.typeName))
  | some pairs =>
    plain (Render.note (.looping name block.target pairs.length))
    walk c block.opener { name, pairs, key := .null, row := 0, value := .null } body 0 pairs

def conditional (c : Context) (block : ConditionalBlock) (holds : Watch Text)
    (otherwise? : Option (Watch Text)) : Watch Text := do
  let subject ← lookup c block.test
  if subject.isTruthy then inBody c block.opener holds
  else
    match otherwise? with
    | some otherwise => inBody c block.opener otherwise
    | none => return []

def substitution (c : Context) (expression : Text) : Watch Text := do
  plain (← lookup c expression).display

end Watch

def Plan.watch (c : Context) : Plan → Watch Text
  | done => return []
  | literal text rest => (return text : Watch Text).append (rest.watch c)
  | substitution expression rest => (Watch.substitution c expression).append (rest.watch c)
  | loop block body rest => (Watch.loop c block (body.watch c)).append (rest.watch c)
  | conditional block holds rest =>
    (Watch.conditional c block (holds.watch c) none).append (rest.watch c)
  | choice block holds otherwise rest =>
    (Watch.conditional c block (holds.watch c) (some (otherwise.watch c))).append (rest.watch c)
  | failure f => Watch.plain (Render.fail f)

namespace Watch

def range (c : Context) (tokens : Array Token) (start stop : Nat) : Watch Text :=
  (Plan.ofRange c.markers tokens start stop).watch c

def template (c : Context) (source : Text) : Watch Text := do
  let tokens := (← plain (Render.tokens c.markers source)).toArray
  range c tokens 0 tokens.size

end Watch

def Engine.watch (e : Engine) (resolver : Resolver) (streams : Value.Streams) (template : Text) :
    Sighting Text :=
  Watch.template (e.context resolver) template { streams := streams }

/-! ## Forgetting the moments -/

namespace Watch

variable {α β : Type} {c : Context}

/-- A watched piece ends as the piece itself does. -/
def Erases (w : Watch α) (x : Render α) : Prop :=
  ∀ s, (w s).ending = x s

lemma erases_plain (x : Render α) : Erases (plain x) x := fun _ => rfl

lemma erases_pure (a : α) : Erases (pure a : Watch α) (pure a) := fun _ => rfl

lemma erases_bind {w : Watch α} {x : Render α} {f : α → Watch β} {g : α → Render β}
    (hw : Erases w x) (hf : ∀ a, Erases (f a) (g a)) : Erases (w >>= f) (x >>= g) := by
  intro s
  have h := hw s
  rw [bind_apply, Render.bind_apply, ← h]
  rcases w s with ⟨⟨e | a, s'⟩, moments⟩
  · rfl
  · exact hf a s'

lemma erases_append {w v : Watch Text} {x y : Render Text} (hw : Erases w x) (hv : Erases v y) :
    Erases (w.append v) (do return (← x) ++ (← y)) :=
  erases_bind hw fun _ => erases_bind hv fun _ => erases_pure _

lemma erases_inBody {opener : Token} {w : Watch α} {x : Render α} (hw : Erases w x) :
    Erases (inBody c opener w) (Render.inBody c opener x) := by
  intro s
  have h := hw { s with depth := s.depth + 1 }
  rw [inBody_apply, Render.inBody, ← h]
  split <;> rfl

lemma erases_withFrame {frame : Frame} {w : Watch α} {x : Render α} (hw : Erases w x) :
    Erases (withFrame frame w) (Render.withFrame frame fun _ => x) := by
  intro s
  have h := hw { s with frames := s.frames ++ [frame] }
  rw [withFrame_apply, Render.withFrame, ← h]

/-- The walk of a loop replaces the frame on top of the stack in place; row by row comes to the same,
since a body leaves the stack as it was. -/
lemma erases_walk {opener : Token} {w : Watch Text} {x : Render Text} (hw : Erases w x)
    (hx : Render.Balanced x) (frame : Frame) (row : Nat) (pairs : List (Value × Value)) :
    Erases (walk c opener frame w row pairs)
      (Render.withFrame frame fun height => Render.eachPair c opener frame x height row pairs) := by
  induction pairs generalizing row with
  | nil =>
    rw [Render.walk_nil]
    exact erases_pure []
  | cons pair rest ih =>
    obtain ⟨key, value⟩ := pair
    rw [Render.walk_cons hx]
    exact erases_append (erases_withFrame (erases_inBody hw)) (ih (row + 1))

lemma erases_loop (block : LoopBlock) {w : Watch Text} {x : Render Text} (hw : Erases w x)
    (hx : Render.Balanced x) : Erases (loop c block w) (Render.loop c block x) := by
  refine erases_bind (erases_plain _) fun s => erases_bind (fun _ => rfl) fun v => ?_
  refine erases_bind (erases_plain _) fun pairs? => ?_
  cases pairs? with
  | none => exact erases_bind (erases_plain _) fun _ => erases_plain _
  | some pairs => exact erases_bind (erases_plain _) fun _ => erases_walk hw hx _ 0 pairs

lemma erases_conditional (block : ConditionalBlock) {w : Watch Text} {x : Render Text}
    {w? : Option (Watch Text)} {x? : Option (Render Text)} (hw : Erases w x)
    (hw? : Option.Rel Erases w? x?) :
    Erases (conditional c block w w?) (Render.conditional c block x x?) := by
  refine erases_bind (fun _ => rfl) fun v => ?_
  split
  · exact erases_inBody hw
  · cases hw? with
    | none => exact erases_pure []
    | some h => exact erases_inBody h

lemma erases_substitution (e : Text) :
    Erases (substitution c e) (Render.substitution c e) :=
  erases_bind (fun _ => rfl) fun _ => erases_plain _

end Watch

open Watch in
lemma Plan.erases_watch (c : Context) (p : Plan) : Erases (p.watch c) (p.run c) := by
  induction p with
  | done => exact erases_pure []
  | literal t rest ih => exact erases_append (erases_pure t) ih
  | substitution e rest ih => exact erases_append (erases_substitution e) ih
  | loop block body rest ihBody ih =>
    have hbody := (Render.piecewise_balanced c).run body
    exact erases_append (erases_loop block ihBody hbody) ih
  | conditional block holds rest ihHolds ih =>
    exact erases_append (erases_conditional block ihHolds .none) ih
  | choice block holds otherwise rest ihHolds ihOther ih =>
    exact erases_append (erases_conditional block ihHolds (.some ihOther)) ih
  | failure f => exact erases_plain _

namespace Watch

theorem range_ending (c : Context) (tokens : Array Token) (start stop : Nat) :
    Erases (range c tokens start stop) (Render.range c tokens start stop) := by
  rw [Render.range_eq_run]
  exact Plan.erases_watch c _

theorem template_ending (c : Context) (source : Text) (s : RunState) :
    (template c source s).ending = Render.template c source s :=
  erases_bind (erases_plain _) (fun (tokens : List Token) => range_ending c tokens.toArray 0 _) s

end Watch

theorem Engine.watch_ending (e : Engine) (resolver : Resolver) (streams : Value.Streams)
    (template : Text) :
    (e.watch resolver streams template).ending = e.format resolver streams template :=
  Watch.template_ending _ _ _

/-! ## Two runs side by side -/

/-- A relation of watched pieces under two contexts in which everything put together from related pieces
stands as well. -/
structure Parallel (c c' : Context) (R : Watch Text → Watch Text → Prop) : Prop where
  text : ∀ t : Text, R (pure t) (pure t)
  append : ∀ {w w' v v' : Watch Text}, R w w' → R v v' → R (w.append v) (w'.append v')
  substitution : ∀ e : Text, R (Watch.substitution c e) (Watch.substitution c' e)
  loop : ∀ (block : LoopBlock) {w w' : Watch Text}, R w w' →
    R (Watch.loop c block w) (Watch.loop c' block w')
  conditional : ∀ (block : ConditionalBlock) {w w' : Watch Text} {v? v'? : Option (Watch Text)},
    R w w' → Option.Rel R v? v'? →
    R (Watch.conditional c block w v?) (Watch.conditional c' block w' v'?)
  fail : ∀ f : Failure, R (Watch.plain (Render.fail f)) (Watch.plain (Render.fail f))

namespace Parallel

variable {c c' : Context} {R : Watch Text → Watch Text → Prop}

theorem watch (hR : Parallel c c' R) (p : Plan) : R (p.watch c) (p.watch c') := by
  induction p with
  | done => exact hR.text []
  | literal t rest ih => exact hR.append (hR.text t) ih
  | substitution e rest ih => exact hR.append (hR.substitution e) ih
  | loop block body rest ihBody ih => exact hR.append (hR.loop block ihBody) ih
  | conditional block holds rest ihHolds ih =>
    exact hR.append (hR.conditional block ihHolds .none) ih
  | choice block holds otherwise rest ihHolds ihOther ih =>
    exact hR.append (hR.conditional block ihHolds (.some ihOther)) ih
  | failure f => exact hR.fail f

theorem range (hR : Parallel c c' R) (hmarkers : c.markers = c'.markers) (tokens : Array Token)
    (start stop : Nat) : R (Watch.range c tokens start stop) (Watch.range c' tokens start stop) := by
  unfold Watch.range
  rw [hmarkers]
  exact hR.watch _

end Parallel

/-! ## Pieces without a moment -/

namespace Render

variable {α : Type}

/-- A piece that leaves the loop stack, the depth and the questions as they were. -/
def Quiet (x : Render α) : Prop :=
  ∀ s, (x s).2.frames = s.frames ∧ (x s).2.depth = s.depth ∧ (x s).2.calls = s.calls

lemma quiet_pure (a : α) : Quiet (pure a) := fun _ => ⟨rfl, rfl, rfl⟩

lemma quiet_throw (f : Failure) : Quiet (throw f : Render α) := fun _ => ⟨rfl, rfl, rfl⟩

lemma quiet_get : Quiet (get : Render RunState) := fun _ => ⟨rfl, rfl, rfl⟩

lemma quiet_note (n : Note) : Quiet (note n) := fun _ => ⟨rfl, rfl, rfl⟩

lemma quiet_takePairs? (v : Value) : Quiet (takePairs? v) := fun _ => ⟨rfl, rfl, rfl⟩

lemma quiet_fail (f : Failure) : Quiet (fail f : Render α) := by
  intro s
  unfold fail
  cases Note.ofFailure? f with
  | none => exact ⟨rfl, rfl, rfl⟩
  | some n => exact ⟨rfl, rfl, rfl⟩

lemma quiet_display (v : Value) : Quiet (v.display : Render Text) := by
  intro s
  cases v.display with
  | error f => exact ⟨rfl, rfl, rfl⟩
  | ok t => exact ⟨rfl, rfl, rfl⟩

theorem tokens_apply (m : Markers) (source : Text) (s : RunState) :
    tokens m source s =
      (tokenize m source,
        { s with notes := s.notes ++ (tokenizeNotes (tokenize m source)).toArray }) := by
  unfold tokens
  cases tokenize m source with
  | ok read => rfl
  | error f =>
    rw [tokenizeNotes]
    cases Note.ofFailure? f with
    | none => rfl
    | some n => rfl

end Render

/-- A relation of watched pieces under two contexts that is handed on by every way of putting pieces
together. -/
structure Stepwise (c c' : Context) (R : ∀ {α : Type}, Watch α → Watch α → Prop) : Prop where
  plain : ∀ {α : Type} {x : Render α}, x.Quiet → R (Watch.plain x) (Watch.plain x)
  bind : ∀ {α β : Type} {w w' : Watch α} {f f' : α → Watch β}, R w w' → (∀ a, R (f a) (f' a)) →
    R (w >>= f) (w' >>= f')
  lookup : ∀ e : Text, R (Watch.lookup c e) (Watch.lookup c' e)
  inBody : ∀ (opener : Token) {w w' : Watch Text}, R w w' →
    R (Watch.inBody c opener w) (Watch.inBody c' opener w')
  withFrame : ∀ (frame : Frame) {w w' : Watch Text}, R w w' →
    R (Watch.withFrame frame w) (Watch.withFrame frame w')

namespace Stepwise

open Render

variable {c c' : Context} {R : ∀ {α : Type}, Watch α → Watch α → Prop} {w w' : Watch Text}
  (hR : Stepwise c c' R)

include hR

lemma pure (t : Text) : R (Pure.pure t : Watch Text) (Pure.pure t) :=
  hR.plain (quiet_pure t)

lemma append {v v' : Watch Text} (hw : R w w') (hv : R v v') : R (w.append v) (w'.append v') :=
  hR.bind hw fun _ => hR.bind hv fun _ => hR.pure _

lemma walk (opener : Token) (frame : Frame) (row : Nat) (pairs : List (Value × Value))
    (hw : R w w') :
    R (Watch.walk c opener frame w row pairs) (Watch.walk c' opener frame w' row pairs) := by
  induction pairs generalizing row with
  | nil => exact hR.pure []
  | cons pair rest ih =>
    obtain ⟨key, value⟩ := pair
    exact hR.append (hR.withFrame _ (hR.inBody opener hw)) (ih (row + 1))

lemma loop (block : LoopBlock) (hw : R w w') :
    R (Watch.loop c block w) (Watch.loop c' block w') := by
  refine hR.bind (hR.plain quiet_get) fun s => hR.bind (hR.lookup _) fun v => ?_
  refine hR.bind (hR.plain (quiet_takePairs? v)) fun pairs? => ?_
  cases pairs? with
  | none => exact hR.bind (hR.plain (quiet_note _)) fun _ => hR.plain (quiet_throw _)
  | some pairs => exact hR.bind (hR.plain (quiet_note _)) fun _ => hR.walk _ _ 0 pairs hw

lemma conditional (block : ConditionalBlock) {v? v'? : Option (Watch Text)} (hw : R w w')
    (hv : Option.Rel (fun v v' => R v v') v? v'?) :
    R (Watch.conditional c block w v?) (Watch.conditional c' block w' v'?) := by
  refine hR.bind (hR.lookup _) fun v => ?_
  split
  · exact hR.inBody _ hw
  · cases hv with
    | none => exact hR.pure []
    | some h => exact hR.inBody _ h

theorem parallel : Parallel c c' fun w w' => R w w' where
  text := hR.pure
  append := hR.append
  substitution _ := hR.bind (hR.lookup _) fun v => hR.plain (quiet_display v)
  loop block _ _ := hR.loop block
  conditional block _ _ _ _ := hR.conditional block
  fail f := hR.plain (quiet_fail f)

theorem template (hmarkers : c.markers = c'.markers) (source : Text) :
    R (Watch.template c source) (Watch.template c' source) := by
  unfold Watch.template
  rw [hmarkers]
  refine hR.bind (hR.plain fun s => ?_) fun tokens => hR.parallel.range hmarkers _ _ _
  rw [tokens_apply]
  exact ⟨rfl, rfl, rfl⟩

end Stepwise

end TextTemplate
