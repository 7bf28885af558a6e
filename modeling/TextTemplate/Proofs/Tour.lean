import TextTemplate.Engine.Basic
import TextTemplate.Proofs.Watch

/-!
# Following a run through its tokens

A run is followed once more, token by token: which positions are read, by the run itself and by the searches for
the ends of blocks, where a body is rendered, where the run goes on, and which expressions are looked up under
which loop stack. The tokens are known only by reading them, a loop goes over its rows with one frame that is
changed in place, and nothing is known beforehand of how far a position moves: the number of steps is limited,
and a run that needs more of them does not end. Forgetting all this gives the run itself.
-/

namespace TextTemplate

/-- A row of a loop that is being rendered. -/
structure LoopRow where
  opener : Token
  /-- The state in which the target of the loop was looked up. -/
  entered : RunState
  /-- The position of the row, counted from zero. -/
  row : Nat

/-- A body of a block that is being rendered. -/
inductive Enclosure where
  /-- A branch of a conditional. -/
  | branch (opener : Token)
  | row (r : LoopRow)

/-- A range of tokens that is being rendered, and the bodies around it, outermost first. -/
structure Place where
  start : Nat
  stop : Nat
  around : List Enclosure

/-- The place of a body of a block. -/
def Place.body (place : Place) (start stop : Nat) (enclosure : Enclosure) : Place :=
  ⟨start, stop, place.around ++ [enclosure]⟩

/-- What a run does at a place. -/
inductive Visit where
  /-- The token at a position is read. -/
  | reading (place : Place) (position : Nat)
  /-- An expression is looked up. -/
  | evaluating (place : Place) (s : RunState) (expression : Text)
  /-- A body is rendered, as a range of its own. -/
  | entering (place inner : Place)
  /-- The run goes on at another position. -/
  | advancing (place : Place) (position next : Nat)

/-- How a piece of a run ends, if it does within its steps, and the visits on the way. -/
structure Trail (α : Type) where
  ending? : Option (Except Failure α × RunState)
  visits : List Visit

/-- A piece of a run that is followed. -/
def Tour (α : Type) : Type :=
  RunState → Trail α

namespace Tour

variable {α β : Type}

instance : Monad Tour where
  pure a := fun s => ⟨some (.ok a, s), []⟩
  bind w f := fun s =>
    match w s with
    | ⟨some (.ok a, s'), visits⟩ => { f a s' with visits := visits ++ (f a s').visits }
    | ⟨some (.error e, s'), visits⟩ => ⟨some (.error e, s'), visits⟩
    | ⟨none, visits⟩ => ⟨none, visits⟩

theorem bind_ok {w : Tour α} {a : α} {s s' : RunState} {visits : List Visit}
    (h : w s = ⟨some (.ok a, s'), visits⟩) (f : α → Tour β) :
    (w >>= f) s = ⟨(f a s').ending?, visits ++ (f a s').visits⟩ := by
  simp only [bind, h]

theorem bind_error {w : Tour α} {e : Failure} {s s' : RunState} {visits : List Visit}
    (h : w s = ⟨some (.error e, s'), visits⟩) (f : α → Tour β) :
    (w >>= f) s = ⟨some (.error e, s'), visits⟩ := by
  simp only [bind, h]

lemma visits_subset_bind (w : Tour α) (f : α → Tour β) (s : RunState) : (w s).visits ⊆ ((w >>= f) s).visits := by
  simp only [bind]
  split
  next h =>
    rw [h]
    exact List.subset_append_left _ _
  next h =>
    rw [h]
    exact List.Subset.refl _
  next h =>
    rw [h]
    exact List.Subset.refl _

/-- All steps have been made. -/
def exhausted : Tour α := fun _ => ⟨none, []⟩

/-- A piece without a visit. -/
def plain (x : Render α) : Tour α := fun s => ⟨some (x s), []⟩

def visit (v : Visit) : Tour Unit := fun s => ⟨some (.ok (), s), [v]⟩

/-! ## Reading tokens -/

def read (tokens : Array Token) (place : Place) (position : Nat) : Tour Token := do
  visit (.reading place position)
  match tokens[position]? with
  | some token => return token
  | none => plain (throw .outOfRange)

/-- The first command of a given text among a number of positions. -/
def search (tokens : Array Token) (place : Place) (text : Text) (position : Nat) :
    (count : Nat) → Tour (Option Nat)
  | 0 => return none
  | count + 1 => do
    let token ← read tokens place position
    if token.isCommand && token.text == text then return some position
    else search tokens place text (position + 1) count

def searchUpTo (tokens : Array Token) (place : Place) (text : Text) (start stop : Nat) :
    Tour (Option Nat) :=
  search tokens place text start (stop - start)

/-- What the token at a position asks for. -/
def step (m : Markers) (tokens : Array Token) (place : Place) (position : Nat) : Tour Step := do
  let token ← read tokens place position
  if !token.isCommand then return .literal token.text
  else if token.text.startsWith m.ending.text then return .skip
  else if token.text.startsWith m.loop.text then
    let (target, args) := Text.splitOn m.args (token.text.drop m.loop.text.length)
    let opener := token.withText (m.loop.text ++ target.trimEnd)
    match ← searchUpTo tokens place (m.ending.text ++ opener.text) (position + 1) place.stop with
    | none => return .failure (.unterminated .loop opener.text opener.line)
    | some close =>
      return .loop ⟨token, target.trim, (args.head?.map Text.trim).filter (· ≠ []), close⟩
  else if token.text.startsWith m.test.text then
    match ← searchUpTo tokens place (m.ending.text ++ token.text) (position + 1) place.stop with
    | none => return .failure (.unterminated .conditional token.text token.line)
    | some close =>
      let else? ← searchUpTo tokens place (m.otherwise.text ++ token.text) (position + 1) close
      return .conditional ⟨token, Text.trim (token.text.drop m.test.text.length), else?, close⟩
  else return .substitution token.text

/-! ## Rendering -/

def lookup (c : Context) (place : Place) (expression : Text) : Tour Value := fun s =>
  ⟨some (Render.lookup c expression s), [.evaluating place s expression]⟩

def inBody (c : Context) (opener : Token) (body : Tour α) : Tour α := fun s =>
  if c.maxDepth ≠ 0 ∧ c.maxDepth < s.depth + 1 then
    ⟨some (.error (.tooDeep c.maxDepth opener.text opener.line), s), []⟩
  else
    let r := body { s with depth := s.depth + 1 }
    ⟨r.ending?.map fun (a, t) => (a, { t with depth := t.depth - 1 }), r.visits⟩

def withFrame (frame : Frame) (body : Nat → Tour α) : Tour α := fun s =>
  let r := body s.frames.length { s with frames := s.frames ++ [frame] }
  ⟨r.ending?.map fun (a, t) => (a, { t with frames := t.frames.dropLast }), r.visits⟩

/-- The rows of a loop, whose frame is at a height of the stack. The body is told the position of its row. -/
def eachPair (c : Context) (opener : Token) (frame : Frame) (body : Nat → Tour Text) (height row : Nat) :
    List (Value × Value) → Tour Text
  | [] => return []
  | (key, value) :: rest => do
    plain (Render.setFrame height { frame with key, row, value })
    let piece ← inBody c opener (body row)
    return piece ++ (← eachPair c opener frame body height (row + 1) rest)

def loop (c : Context) (place : Place) (block : LoopBlock) (body : Enclosure → Tour Text) : Tour Text := do
  let entered ← plain get
  let name := block.name?.getD (Frame.defaultName (entered.frames.length + 1))
  let subject ← lookup c place block.target
  match ← plain (Render.takePairs? subject) with
  | none =>
    plain (Render.note (.notIterable block.target block.opener.line))
    plain (throw (.notIterable block.target subject.typeName))
  | some pairs =>
    plain (Render.note (.looping name block.target pairs.length))
    let frame : Frame := { name, pairs, key := .null, row := 0, value := .null }
    let rowBody (row : Nat) := body (.row ⟨block.opener, entered, row⟩)
    withFrame frame fun height => eachPair c block.opener frame rowBody height 0 pairs

def conditional (c : Context) (place : Place) (block : ConditionalBlock) (holds : Tour Text)
    (otherwise? : Option (Tour Text)) : Tour Text := do
  let subject ← lookup c place block.test
  if subject.isTruthy then inBody c block.opener holds
  else
    match otherwise? with
    | some otherwise => inBody c block.opener otherwise
    | none => return []

def substitution (c : Context) (place : Place) (expression : Text) : Tour Text := do
  plain (← lookup c place expression).display

/-- Render a body of a block at a place of its own. -/
def within (place inner : Place) (render : Place → Tour Text) : Tour Text := do
  visit (.entering place inner)
  render inner

/-- Do what the token at a position asks for. -/
def perform (c : Context) (place : Place) (position : Nat) (render : Place → Tour Text) : Step → Tour Text
  | .literal text => return text
  | .skip => return []
  | .substitution expression => substitution c place expression
  | .loop block =>
    loop c place block fun enclosure => within place (place.body (position + 1) block.close enclosure) render
  | .conditional block =>
    let branch (start stop : Nat) := within place (place.body start stop (.branch block.opener)) render
    conditional c place block (branch (position + 1) block.firstStop)
      (block.else?.map fun q => branch (q + 1) block.close)
  | .failure f => plain (Render.fail f)

end Tour

/-- Where a run goes on after what the token at a position asks for. -/
def Step.next (position : Nat) : Step → Nat
  | .loop block => block.close + 1
  | .conditional block => block.close + 1
  | _ => position + 1

namespace Tour

/-- Render the tokens of a place from a position on, in a number of steps. -/
def range (c : Context) (tokens : Array Token) : (steps : Nat) → Place → (position : Nat) → Tour Text
  | 0, place, position => if position < place.stop then exhausted else return []
  | steps + 1, place, position =>
    if position < place.stop then do
      let asked ← step c.markers tokens place position
      let piece ← perform c place position (fun inner => range c tokens steps inner inner.start) asked
      let next := asked.next position
      visit (.advancing place position next)
      return piece ++ (← range c tokens steps place next)
    else return []

def template (c : Context) (source : Text) : Tour Text := do
  let tokens := (← plain (Render.tokens c.markers source)).toArray
  range c tokens tokens.size ⟨0, tokens.size, []⟩ 0

end Tour

def Engine.tour (e : Engine) (resolver : Resolver) (streams : Value.Streams) (template : Text) : Trail Text :=
  Tour.template (e.context resolver) template { streams := streams }

/-! ## What is found out by reading -/

namespace Tour

/-- A piece that finds something out by reading some of the tokens from `start` up to `stop`, and changes nothing. -/
def Finds {α : Type} (place : Place) (start stop : Nat) (w : Tour α) (a : α) : Prop :=
  ∀ s, ∃ visits, w s = ⟨some (.ok a, s), visits⟩ ∧
    ∀ v ∈ visits, ∃ p, v = .reading place p ∧ start ≤ p ∧ p < stop

section Finds

variable {α β : Type} {m : Markers} {tokens : Array Token} {place : Place} {position start stop : Nat}

lemma finds_pure (a : α) : Finds place start stop (pure a) a :=
  fun _ => ⟨[], rfl, by simp⟩

lemma Finds.bind {w : Tour α} {f : α → Tour β} {a : α} {b : β} (hw : Finds place start stop w a)
    (hf : Finds place start stop (f a) b) : Finds place start stop (w >>= f) b := by
  intro s
  obtain ⟨visits, hfirst, hvisits⟩ := hw s
  obtain ⟨later, hsecond, hlater⟩ := hf s
  rw [bind_ok hfirst, hsecond]
  exact ⟨visits ++ later, rfl, List.forall_mem_append.2 ⟨hvisits, hlater⟩⟩

lemma Finds.mono {w : Tour α} {a : α} {start' stop' : Nat} (h : Finds place start stop w a)
    (hstart : start' ≤ start) (hstop : stop ≤ stop') : Finds place start' stop' w a := by
  intro s
  obtain ⟨visits, hw, hvisits⟩ := h s
  refine ⟨visits, hw, fun v hv => ?_⟩
  obtain ⟨p, rfl, hle, hlt⟩ := hvisits v hv
  exact ⟨p, rfl, by omega, by omega⟩

lemma finds_read {token : Token} (h : tokens[position]? = some token) (hstart : start ≤ position)
    (hstop : position < stop) : Finds place start stop (read tokens place position) token := by
  intro s
  refine ⟨[.reading place position], ?_, ?_⟩
  · simp only [read, h]
    rfl
  · intro v hv
    exact ⟨position, List.mem_singleton.1 hv, hstart, hstop⟩

lemma finds_search (text : Text) {count : Nat} (hcount : position + count ≤ tokens.size) :
    Finds place position (position + count) (search tokens place text position count)
      (findCommand tokens text position (position + count)) := by
  induction count generalizing position with
  | zero =>
    rw [findCommand_of_le (by omega)]
    exact finds_pure none
  | succ count ih =>
    obtain ⟨token, htoken⟩ : ∃ token, tokens[position]? = some token :=
      ⟨_, Array.getElem?_eq_getElem (by omega : position < tokens.size)⟩
    rw [search, findCommand_of_some (by omega) htoken]
    refine (finds_read htoken (by omega) (by omega)).bind ?_
    split
    · exact finds_pure _
    · have hrest := @ih (position + 1) (by omega)
      rw [show position + 1 + count = position + (count + 1) by omega] at hrest
      exact hrest.mono (by omega) (by omega)

lemma finds_searchUpTo (text : Text) (start : Nat) (hstop : stop ≤ tokens.size) :
    Finds place start stop (searchUpTo tokens place text start stop) (findCommand tokens text start stop) := by
  unfold searchUpTo
  by_cases h : start ≤ stop
  · have hsearch : Finds place start (start + (stop - start)) _ _ :=
      finds_search text (by omega : start + (stop - start) ≤ tokens.size)
    rwa [show start + (stop - start) = stop by omega] at hsearch
  · rw [Nat.sub_eq_zero_of_le (by omega), findCommand_of_le (by omega)]
    exact finds_pure none

lemma finds_step (m : Markers) (hlt : position < place.stop) (hstop : place.stop ≤ tokens.size) :
    Finds place position place.stop (step m tokens place position)
      (Step.ofPosition m tokens position place.stop) := by
  obtain ⟨token, htoken⟩ : ∃ token, tokens[position]? = some token :=
    ⟨_, Array.getElem?_eq_getElem (by omega : position < tokens.size)⟩
  have hsize : ¬ tokens.size < place.stop := by omega
  have hsearch (text : Text) : Finds place position place.stop _ _ :=
    (finds_searchUpTo text (position + 1) hstop).mono (Nat.le_succ position) (Nat.le_refl place.stop)
  rw [step, Step.ofPosition, htoken]
  refine (finds_read htoken (by omega) hlt).bind ?_
  dsimp only
  split
  · exact finds_pure _
  split
  · exact finds_pure _
  split
  · rw [Step.ofLoop]
    rcases Text.splitOn m.args (token.text.drop m.loop.text.length) with ⟨target, args⟩
    dsimp only
    rw [requireEnd, findEnd]
    refine (hsearch _).bind ?_
    cases findCommand tokens _ (position + 1) place.stop with
    | none =>
      rw [if_neg hsize]
      exact finds_pure _
    | some close => exact finds_pure _
  split
  · rw [Step.ofConditional, requireEnd, findEnd]
    refine (hsearch _).bind ?_
    cases hclose : findCommand tokens _ (position + 1) place.stop with
    | none =>
      rw [if_neg hsize]
      exact finds_pure _
    | some close =>
      have hbounds := findCommand_bounds hclose
      have helse : Finds place (position + 1) close _ _ :=
        finds_searchUpTo (m.otherwise.text ++ token.text) (position + 1) (by omega : close ≤ tokens.size)
      exact (helse.mono (by omega) (by omega)).bind (finds_pure _)
  · exact finds_pure _

end Finds

/-! ## How pieces are put together -/

/-- A relation of pieces that read two lists of tokens, which is handed on by every way of putting pieces
together. -/
structure Stepwise (c : Context) (tokens tokens' : Array Token) (R : ∀ {α : Type}, Tour α → Tour α → Prop) :
    Prop where
  exhausted : R (exhausted : Tour Text) exhausted
  plain : ∀ {α : Type} {x : Render α}, x.Quiet → R (plain x) (plain x)
  setFrame : ∀ (height : Nat) (frame : Frame),
    R (Tour.plain (Render.setFrame height frame)) (Tour.plain (Render.setFrame height frame))
  bind : ∀ {α β : Type} {w w' : Tour α} {f f' : α → Tour β}, R w w' → (∀ a, R (f a) (f' a)) →
    R (w >>= f) (w' >>= f')
  read : ∀ (place : Place) (position : Nat), R (read tokens place position) (read tokens' place position)
  entering : ∀ place inner : Place, R (visit (.entering place inner)) (visit (.entering place inner))
  advancing : ∀ (place : Place) (position next : Nat),
    R (visit (.advancing place position next)) (visit (.advancing place position next))
  lookup : ∀ (place : Place) (e : Text), R (lookup c place e) (lookup c place e)
  inBody : ∀ (opener : Token) {w w' : Tour Text}, R w w' → R (inBody c opener w) (inBody c opener w')
  withFrame : ∀ (frame : Frame) {w w' : Nat → Tour Text}, (∀ height, R (w height) (w' height)) →
    R (withFrame frame w) (withFrame frame w')

namespace Stepwise

open Render

variable {c : Context} {tokens tokens' : Array Token} {R : ∀ {α : Type}, Tour α → Tour α → Prop} {place : Place}
  (hR : Stepwise c tokens tokens' R)

include hR

lemma pure {α : Type} (a : α) : R (Pure.pure a : Tour α) (Pure.pure a) :=
  hR.plain (quiet_pure a)

lemma search (text : Text) (position count : Nat) :
    R (search tokens place text position count) (search tokens' place text position count) := by
  induction count generalizing position with
  | zero => exact hR.pure none
  | succ count ih =>
    refine hR.bind (hR.read place position) fun token => ?_
    split
    · exact hR.pure _
    · exact ih _

lemma step (position : Nat) :
    R (step c.markers tokens place position) (step c.markers tokens' place position) := by
  refine hR.bind (hR.read place position) fun token => ?_
  split
  · exact hR.pure _
  split
  · exact hR.pure _
  split
  · refine hR.bind (hR.search _ _ _) fun close? => ?_
    cases close? <;> exact hR.pure _
  split
  · refine hR.bind (hR.search _ _ _) fun close? => ?_
    cases close? with
    | none => exact hR.pure _
    | some close => exact hR.bind (hR.search _ _ _) fun _ => hR.pure _
  · exact hR.pure _

lemma eachPair {w w' : Nat → Tour Text} (opener : Token) (frame : Frame) (height row : Nat)
    (pairs : List (Value × Value)) (hw : ∀ n, R (w n) (w' n)) :
    R (eachPair c opener frame w height row pairs) (eachPair c opener frame w' height row pairs) := by
  induction pairs generalizing row with
  | nil => exact hR.pure []
  | cons pair rest ih =>
    exact hR.bind (hR.setFrame _ _) fun _ => hR.bind (hR.inBody opener (hw row)) fun _ =>
      hR.bind (ih (row + 1)) fun _ => hR.pure _

lemma loop {w w' : Enclosure → Tour Text} (block : LoopBlock) (hw : ∀ enclosure, R (w enclosure) (w' enclosure)) :
    R (loop c place block w) (loop c place block w') := by
  refine hR.bind (hR.plain quiet_get) fun entered => hR.bind (hR.lookup place _) fun subject => ?_
  refine hR.bind (hR.plain (quiet_takePairs? subject)) fun pairs? => ?_
  cases pairs? with
  | none => exact hR.bind (hR.plain (quiet_note _)) fun _ => hR.plain (quiet_throw _)
  | some pairs =>
    exact hR.bind (hR.plain (quiet_note _)) fun _ => hR.withFrame _ fun height =>
      hR.eachPair _ _ height 0 pairs fun _ => hw _

lemma conditional {w w' : Tour Text} {v? v'? : Option (Tour Text)} (block : ConditionalBlock) (hw : R w w')
    (hv : Option.Rel (fun v v' => R v v') v? v'?) :
    R (conditional c place block w v?) (conditional c place block w' v'?) := by
  refine hR.bind (hR.lookup place _) fun subject => ?_
  split
  · exact hR.inBody _ hw
  · cases hv with
    | none => exact hR.pure []
    | some h => exact hR.inBody _ h

lemma perform {render render' : Place → Tour Text} (position : Nat) (asked : Step)
    (h : ∀ inner, R (render inner) (render' inner)) :
    R (perform c place position render asked) (perform c place position render' asked) := by
  have hwithin (inner : Place) : R (within place inner render) (within place inner render') :=
    hR.bind (hR.entering place inner) fun _ => h inner
  cases asked with
  | literal text => exact hR.pure text
  | skip => exact hR.pure []
  | substitution e => exact hR.bind (hR.lookup place e) fun v => hR.plain (quiet_display v)
  | loop block => exact hR.loop block fun _ => hwithin _
  | conditional block =>
    refine hR.conditional block (hwithin _) ?_
    cases block.else? with
    | none => exact .none
    | some q => exact .some (hwithin _)
  | failure f => exact hR.plain (quiet_fail f)

theorem range (steps : Nat) (place : Place) (position : Nat) :
    R (range c tokens steps place position) (range c tokens' steps place position) := by
  induction steps generalizing place position with
  | zero =>
    rw [Tour.range, Tour.range]
    split
    · exact hR.exhausted
    · exact hR.pure []
  | succ steps ih =>
    rw [Tour.range, Tour.range]
    split
    · refine hR.bind (hR.step position) fun asked => ?_
      refine hR.bind (hR.perform position asked fun inner => ih inner inner.start) fun piece => ?_
      exact hR.bind (hR.advancing _ _ _) fun _ => hR.bind (ih place _) fun _ => hR.pure _
    · exact hR.pure []

omit hR in
theorem template (hall : ∀ tokens, Stepwise c tokens tokens R) (source : Text) :
    R (template c source) (template c source) := by
  refine (hall #[]).bind ((hall #[]).plain fun s => ?_) fun tokens => (hall tokens.toArray).range _ _ _
  rw [tokens_apply]
  exact ⟨rfl, rfl, rfl⟩

end Stepwise

end Tour

end TextTemplate
