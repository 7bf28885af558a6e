import Mathlib.Tactic.Lemma
import TextTemplate.Render.Range

/-!
# What a range of tokens asks for

Where the blocks of a range begin and end depends on the markers and the tokens alone, not on any value.
So a range is a plan, a tree of texts, substitutions and blocks, and rendering the range is following the
plan. What holds of every rendering may then be shown by induction on the plan.
-/

namespace TextTemplate

/-- What a range of tokens asks for, and what follows. A block without an end cuts the plan short. -/
inductive Plan where
  | done
  | literal (text : Text) (rest : Plan)
  | substitution (expression : Text) (rest : Plan)
  | loop (block : LoopBlock) (body rest : Plan)
  /-- A conditional with one branch. -/
  | conditional (block : ConditionalBlock) (holds rest : Plan)
  /-- A conditional with two branches. -/
  | choice (block : ConditionalBlock) (holds otherwise rest : Plan)
  | failure (f : Failure)

namespace Plan

/-- The plan of the tokens from `start` up to `stop`. -/
def ofRange (m : Markers) (tokens : Array Token) (start stop : Nat) : Plan :=
  if start < stop then
    match h : Step.ofPosition m tokens start stop with
    | .literal text => .literal text (ofRange m tokens (start + 1) stop)
    | .skip => ofRange m tokens (start + 1) stop
    | .substitution expression => .substitution expression (ofRange m tokens (start + 1) stop)
    | .loop block =>
      have := Step.loop_bounds h
      .loop block (ofRange m tokens (start + 1) block.close) (ofRange m tokens (block.close + 1) stop)
    | .conditional block =>
      have bounds := Step.conditional_bounds h
      have := Step.firstStop_bounds h
      let holds := ofRange m tokens (start + 1) block.firstStop
      let rest := ofRange m tokens (block.close + 1) stop
      match hq : block.else? with
      | none => .conditional block holds rest
      | some q =>
        have := bounds.2.2 q hq
        .choice block holds (ofRange m tokens (q + 1) block.close) rest
    | .failure f => .failure f
  else .done
termination_by stop - start

/-- Render what a plan asks for. -/
def run (c : Context) : Plan → Render Text
  | done => return []
  | literal text rest => do return text ++ (← rest.run c)
  | substitution expression rest => do
    let piece ← Render.substitution c expression
    return piece ++ (← rest.run c)
  | loop block body rest => do
    let piece ← Render.loop c block (body.run c)
    return piece ++ (← rest.run c)
  | conditional block holds rest => do
    let piece ← Render.conditional c block (holds.run c) none
    return piece ++ (← rest.run c)
  | choice block holds otherwise rest => do
    let piece ← Render.conditional c block (holds.run c) (some (otherwise.run c))
    return piece ++ (← rest.run c)
  | failure f => Render.fail f

end Plan

/-- To render a range is to follow its plan. -/
theorem Render.range_eq_run (c : Context) (tokens : Array Token) (start stop : Nat) :
    range c tokens start stop = (Plan.ofRange c.markers tokens start stop).run c := by
  -- The bodies of a block and what follows it are shorter ranges than the one the block stands in.
  induction hn : stop - start using Nat.strongRecOn generalizing start stop with
  | ind n ih =>
    by_cases hlt : start < stop
    · have hrest : ∀ next, start < next →
          range c tokens next stop = (Plan.ofRange c.markers tokens next stop).run c := fun next hnext =>
        ih (stop - next) (by omega) next stop rfl
      rw [Plan.ofRange, if_pos hlt]
      split
      · next h => rw [range_literal hlt h, hrest _ (by omega), Plan.run]
      · next h => rw [range_skip hlt h, hrest _ (by omega)]
      · next h => rw [range_substitution hlt h, hrest _ (by omega), Plan.run]
      · next block h =>
        have := Step.loop_bounds h
        rw [range_loop hlt h, hrest _ (by omega), ih _ (by omega) (start + 1) block.close rfl, Plan.run]
      · next block h =>
        have hbounds := Step.conditional_bounds h
        have hfirst := Step.firstStop_bounds h
        rw [range_conditional hlt h, hrest _ (by omega),
          ih _ (by omega) (start + 1) block.firstStop rfl]
        dsimp only
        split
        · next hq => rw [hq, Option.map_none, Plan.run]
        · next q hq =>
          have := hbounds.2.2 q hq
          rw [hq, Option.map_some, ih _ (by omega) (q + 1) block.close rfl, Plan.run]
      · next h => rw [range_failure hlt h, Plan.run]
    · rw [range_of_le (by omega), Plan.ofRange, if_neg hlt, Plan.run]

end TextTemplate
