import TextTemplate.Block
import TextTemplate.Render.Basic
import TextTemplate.Value.Display

/-!
# Rendering a range of tokens

A range is rendered from its first position on. Text is copied, a substitution shows the value of its
expression, a conditional renders the branch that its test selects, and a loop renders its body once
for every pair of its target. Bodies are ranges of the same token list.
-/

namespace TextTemplate.Render

/-- Render the body of a loop for each of the remaining pairs. The frame of the loop, at its height of
the stack, is brought up to date before each. -/
def eachPair (c : Context) (opener : Token) (frame : Frame) (body : Render Text) (height row : Nat) :
    List (Value × Value) → Render Text
  | [] => return []
  | (key, value) :: rest => do
    setFrame height { frame with key, row, value }
    let piece ← inBody c opener body
    return piece ++ (← eachPair c opener frame body height (row + 1) rest)

/-- Render a loop: look the target up once, then walk its pairs. -/
def loop (c : Context) (block : LoopBlock) (body : Render Text) : Render Text := do
  let name := block.name?.getD (Frame.defaultName ((← get).frames.length + 1))
  let subject ← lookup c block.target
  match ← takePairs? subject with
  | none =>
    note (.notIterable block.target block.opener.line)
    throw (.notIterable block.target subject.typeName)
  | some pairs =>
    note (.looping name block.target pairs.length)
    let frame : Frame := { name, pairs, key := .null, row := 0, value := .null }
    withFrame frame fun height => eachPair c block.opener frame body height 0 pairs

/-- Render a conditional: look the test up once, then render one branch at most. -/
def conditional (c : Context) (block : ConditionalBlock) (holds : Render Text)
    (otherwise? : Option (Render Text)) : Render Text := do
  let subject ← lookup c block.test
  if subject.isTruthy then inBody c block.opener holds
  else
    match otherwise? with
    | some otherwise => inBody c block.opener otherwise
    | none => return []

/-- Show the value of an expression. -/
def substitution (c : Context) (expression : Text) : Render Text := do
  (← lookup c expression).display

/-- Render the tokens from `start` up to `stop`. -/
def range (c : Context) (tokens : Array Token) (start stop : Nat) : Render Text :=
  if start < stop then
    match h : Step.ofPosition c.markers tokens start stop with
    | .literal text => return text ++ (← range c tokens (start + 1) stop)
    | .skip => range c tokens (start + 1) stop
    | .substitution expression => do
      let piece ← substitution c expression
      return piece ++ (← range c tokens (start + 1) stop)
    | .loop block => do
      have := Step.loop_bounds h
      let piece ← loop c block (range c tokens (start + 1) block.close)
      return piece ++ (← range c tokens (block.close + 1) stop)
    | .conditional block => do
      have bounds := Step.conditional_bounds h
      have := Step.firstStop_bounds h
      let otherwise? := block.else?.pmap
        (fun q hq =>
          have := bounds.2.2 q hq
          range c tokens (q + 1) block.close)
        (fun _ hq => hq)
      let piece ← conditional c block (range c tokens (start + 1) block.firstStop) otherwise?
      return piece ++ (← range c tokens (block.close + 1) stop)
    | .failure f => fail f
  else return []
termination_by stop - start

/-! ## What each step comes to -/

variable {c : Context} {tokens : Array Token} {start stop : Nat}

theorem range_of_le (h : stop ≤ start) : range c tokens start stop = return [] := by
  rw [range, if_neg (by omega)]

theorem range_literal {text : Text} (hlt : start < stop)
    (h : Step.ofPosition c.markers tokens start stop = .literal text) :
    range c tokens start stop = (do return text ++ (← range c tokens (start + 1) stop)) := by
  rw [range, if_pos hlt]
  split <;> simp_all

theorem range_skip (hlt : start < stop)
    (h : Step.ofPosition c.markers tokens start stop = .skip) :
    range c tokens start stop = range c tokens (start + 1) stop := by
  rw [range, if_pos hlt]
  split <;> simp_all

theorem range_substitution {expression : Text} (hlt : start < stop)
    (h : Step.ofPosition c.markers tokens start stop = .substitution expression) :
    range c tokens start stop = (do
      let piece ← substitution c expression
      return piece ++ (← range c tokens (start + 1) stop)) := by
  rw [range, if_pos hlt]
  split <;> simp_all

theorem range_loop {block : LoopBlock} (hlt : start < stop)
    (h : Step.ofPosition c.markers tokens start stop = .loop block) :
    range c tokens start stop = (do
      let piece ← loop c block (range c tokens (start + 1) block.close)
      return piece ++ (← range c tokens (block.close + 1) stop)) := by
  rw [range, if_pos hlt]
  split <;> simp_all

theorem range_conditional {block : ConditionalBlock} (hlt : start < stop)
    (h : Step.ofPosition c.markers tokens start stop = .conditional block) :
    range c tokens start stop = (do
      let piece ← conditional c block (range c tokens (start + 1) block.firstStop)
        (block.else?.map fun q => range c tokens (q + 1) block.close)
      return piece ++ (← range c tokens (block.close + 1) stop)) := by
  rw [range, if_pos hlt]
  split <;> simp_all

theorem range_failure {f : Failure} (hlt : start < stop)
    (h : Step.ofPosition c.markers tokens start stop = .failure f) :
    range c tokens start stop = fail f := by
  rw [range, if_pos hlt]
  split <;> simp_all

end TextTemplate.Render
