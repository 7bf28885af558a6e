import Mathlib.Control.Monad.Basic
import Mathlib.Tactic.Lemma
import TextTemplate.Render.Range

/-!
# Ranges and slices

Rendering a range of a token list is rendering the list that holds just the tokens of the range. Every
search for an end or a separator stops at the end of the range, so positions may be shifted and the tokens
around the range replaced: each step is the same step, at other positions.
-/

namespace TextTemplate

/-- Two token lists hold the same tokens on a range, at positions that are greater by `d` in the first. -/
structure SameWindow (tokens slice : Array Token) (d start stop : Nat) : Prop where
  agree : ∀ i, start ≤ i → i < stop → tokens[i + d]? = slice[i]?
  stop_le : stop + d ≤ tokens.size
  stop_le' : stop ≤ slice.size

lemma SameWindow.mono {tokens slice : Array Token} {d start stop start' stop' : Nat}
    (h : SameWindow tokens slice d start stop) (hstart : start ≤ start') (hstop : stop' ≤ stop) :
    SameWindow tokens slice d start' stop' where
  agree i hi hi' := h.agree i (by omega) (by omega)
  stop_le := by have := h.stop_le; omega
  stop_le' := by have := h.stop_le'; omega

lemma sameWindow_extract {tokens : Array Token} {start stop : Nat} (h : start ≤ stop)
    (hstop : stop ≤ tokens.size) :
    SameWindow tokens (tokens.extract start stop) start 0 (tokens.extract start stop).size where
  agree i hi hi' := by
    have hsize : (tokens.extract start stop).size = stop - start := by
      rw [Array.size_extract, Nat.min_eq_left hstop]
    rw [Array.getElem?_extract, if_pos (by omega), Nat.add_comm]
  stop_le := by rw [Array.size_extract, Nat.min_eq_left hstop]; omega
  stop_le' := Nat.le_refl _

/-! ## Searches -/

section Searches

variable {tokens slice : Array Token} {d position stop : Nat}

lemma findCommand_shift (text : Text) {start : Nat} (h : SameWindow tokens slice d start stop) :
    findCommand tokens text (start + d) (stop + d) = (findCommand slice text start stop).map (· + d) := by
  induction hn : stop - start generalizing start with
  | zero =>
    rw [findCommand_of_le (by omega), findCommand_of_le (by omega)]
    rfl
  | succ n ih =>
    have hlt : start < stop := by omega
    have htoken := h.agree start (Nat.le_refl _) hlt
    have hrest := ih (h.mono (Nat.le_succ _) (Nat.le_refl _)) (by omega)
    have hnext : start.succ + d = start + d + 1 := by omega
    rw [hnext] at hrest
    cases hs : slice[start]? with
    | none => rw [findCommand_of_none (htoken.trans hs), findCommand_of_none hs, Option.map_none]
    | some token =>
      rw [findCommand_of_some (by omega) (htoken.trans hs), findCommand_of_some hlt hs, hrest]
      split <;> rfl

lemma requireEnd_shift {m : Markers} {construct : Construct} {opener : Token}
    (h : SameWindow tokens slice d (position + 1) stop) :
    requireEnd m tokens construct opener (position + d) (stop + d) =
      (requireEnd m slice construct opener position stop).map (· + d) := by
  have hfind := findCommand_shift (m.ending.text ++ opener.text) h
  have hstop := h.stop_le
  have hstop' := h.stop_le'
  simp only [requireEnd, findEnd, show position + d + 1 = position + 1 + d by omega, hfind]
  cases findCommand slice (m.ending.text ++ opener.text) (position + 1) stop with
  | some close => rfl
  | none =>
    simp only [Option.map_none]
    rw [if_neg (by omega), if_neg (by omega)]
    rfl

end Searches

/-! ## Steps -/

/-- The same loop at positions that are greater by `d`. -/
def LoopBlock.shift (d : Nat) (block : LoopBlock) : LoopBlock :=
  { block with close := block.close + d }

/-- The same conditional at positions that are greater by `d`. -/
def ConditionalBlock.shift (d : Nat) (block : ConditionalBlock) : ConditionalBlock :=
  { block with else? := block.else?.map (· + d), close := block.close + d }

lemma ConditionalBlock.firstStop_shift (d : Nat) (block : ConditionalBlock) :
    (block.shift d).firstStop = block.firstStop + d := by
  cases h : block.else? <;> simp [ConditionalBlock.shift, ConditionalBlock.firstStop, h]

namespace Step

/-- The same step at positions that are greater by `d`. -/
def shift (d : Nat) : Step → Step
  | loop block => loop (block.shift d)
  | conditional block => conditional (block.shift d)
  | step => step

variable {m : Markers} {tokens slice : Array Token} {d position stop : Nat}

lemma ofLoop_shift (token : Token) (h : SameWindow tokens slice d (position + 1) stop) :
    ofLoop m tokens token (position + d) (stop + d) = (ofLoop m slice token position stop).shift d := by
  simp only [ofLoop, requireEnd_shift h]
  generalize requireEnd m slice .loop _ position stop = close
  rcases close with f | close
  · rfl
  · rfl

lemma ofConditional_shift (token : Token) (h : SameWindow tokens slice d (position + 1) stop) :
    ofConditional m tokens token (position + d) (stop + d) =
      (ofConditional m slice token position stop).shift d := by
  simp only [ofConditional, requireEnd_shift h]
  rcases hclose : requireEnd m slice .conditional token position stop with f | close
  · rfl
  · have hbounds := requireEnd_bounds hclose
    have helse := findCommand_shift (m.otherwise.text ++ token.text)
      (h.mono (Nat.le_refl _) (Nat.le_of_lt hbounds.2))
    simp only [Except.map, findElse, show position + d + 1 = position + 1 + d by omega, helse]
    rfl

lemma ofPosition_shift (h : SameWindow tokens slice d position stop) (hlt : position < stop) :
    ofPosition m tokens (position + d) (stop + d) = (ofPosition m slice position stop).shift d := by
  have hrest := h.mono (Nat.le_succ position) (Nat.le_refl stop)
  rw [ofPosition, h.agree position (Nat.le_refl _) hlt, ofPosition]
  cases slice[position]? with
  | none => rfl
  | some token =>
    dsimp only
    split
    · rfl
    split
    · rfl
    split
    · exact ofLoop_shift token hrest
    split
    · exact ofConditional_shift token hrest
    · rfl

end Step

/-! ## Ranges -/

namespace Render

lemma range_shift (c : Context) {tokens slice : Array Token} {d start stop : Nat}
    (h : SameWindow tokens slice d start stop) :
    range c tokens (start + d) (stop + d) = range c slice start stop := by
  induction hn : stop - start using Nat.strongRecOn generalizing start stop with
  | ind n ih =>
    by_cases hlt : start < stop
    · have hlt' : start + d < stop + d := by omega
      have hshift := Step.ofPosition_shift (m := c.markers) h hlt
      -- what is left of the range, from any later position on
      have htail : ∀ next, start < next →
          range c tokens (next + d) (stop + d) = range c slice next stop := fun next hnext =>
        ih (stop - next) (by omega) (h.mono (by omega) (Nat.le_refl _)) rfl
      have hnext : start + d + 1 = start + 1 + d := by omega
      cases hstep : Step.ofPosition c.markers slice start stop with
      | literal t =>
        rw [hstep] at hshift
        rw [range_literal hlt' hshift, range_literal hlt hstep, hnext, htail _ (by omega)]
      | skip =>
        rw [hstep] at hshift
        rw [range_skip hlt' hshift, range_skip hlt hstep, hnext, htail _ (by omega)]
      | substitution e =>
        rw [hstep] at hshift
        rw [range_substitution hlt' hshift, range_substitution hlt hstep, hnext, htail _ (by omega)]
      | loop block =>
        have hbounds := Step.loop_bounds hstep
        have hbody := ih (block.close - (start + 1)) (by omega)
          (h.mono (Nat.le_succ _) (Nat.le_of_lt hbounds.2)) rfl
        have hclose : (block.shift d).close + 1 = block.close + 1 + d := by
          change block.close + d + 1 = _
          omega
        rw [hstep] at hshift
        rw [range_loop hlt' hshift, range_loop hlt hstep, hnext, hclose, htail _ (by omega)]
        rw [← hbody]
        rfl
      | conditional block =>
        have hbounds := Step.conditional_bounds hstep
        have hfirst := Step.firstStop_bounds hstep
        have hholds := ih (block.firstStop - (start + 1)) (by omega)
          (h.mono (Nat.le_succ _) (by omega)) rfl
        have hclose : (block.shift d).close + 1 = block.close + 1 + d := by
          change block.close + d + 1 = _
          omega
        have hother : (block.shift d).else?.map
              (fun q => range c tokens (q + 1) (block.shift d).close) =
            block.else?.map (fun q => range c slice (q + 1) block.close) := by
          unfold ConditionalBlock.shift
          rw [Option.map_map]
          refine Option.map_congr fun q hq => ?_
          have hbranch := hbounds.2.2 q hq
          have hplace : q + d + 1 = q + 1 + d := by omega
          have hwindow : SameWindow tokens slice d (q + 1) block.close :=
            h.mono (by omega) (Nat.le_of_lt hbounds.2.1)
          rw [Function.comp_apply, hplace]
          exact ih (block.close - (q + 1)) (by omega) hwindow rfl
        rw [hstep] at hshift
        rw [range_conditional hlt' hshift, range_conditional hlt hstep, hnext, hclose,
          htail _ (by omega), ConditionalBlock.firstStop_shift, hholds, hother]
        rfl
      | failure f =>
        rw [hstep] at hshift
        rw [range_failure hlt' hshift, range_failure hlt hstep]
    · rw [range_of_le (by omega), range_of_le (by omega)]

/-- Rendering a range is rendering the slice of its tokens, as a piece of a run: from every state it comes
to the same text or failure, the same questions and the same state. So two ranges with the same tokens,
of whatever lists, are rendered alike, and no token outside a range has an influence. -/
theorem range_eq_range_extract (c : Context) (tokens : Array Token) (start stop : Nat)
    (h : start ≤ stop) (hstop : stop ≤ tokens.size) :
    range c tokens start stop =
        range c (tokens.extract start stop) 0 (tokens.extract start stop).size ∧
      ∀ (others : Array Token) (start' stop' : Nat), start' ≤ stop' → stop' ≤ others.size →
        others.extract start' stop' = tokens.extract start stop →
        range c others start' stop' = range c tokens start stop := by
  have hslice : ∀ (others : Array Token) (start' stop' : Nat), start' ≤ stop' → stop' ≤ others.size →
      range c others start' stop' =
        range c (others.extract start' stop') 0 (others.extract start' stop').size := by
    intro others start' stop' h' hstop'
    have hshift := range_shift c (sameWindow_extract h' hstop')
    have hend : (others.extract start' stop').size + start' = stop' := by
      rw [Array.size_extract, Nat.min_eq_left hstop']
      omega
    rwa [Nat.zero_add, hend] at hshift
  refine ⟨hslice tokens start stop h hstop, ?_⟩
  intro others start' stop' h' hstop' heq
  rw [hslice others start' stop' h' hstop', heq, ← hslice tokens start stop h hstop]

def truthfulContext : Context where
  markers := Markers.default
  resolver := .ofFunction fun _ => .ok (.bool true)
  maxDepth := 0

/-- A conditional and its end. -/
def closedTokens : Array Token :=
  #[.command 1 ['?', 'a'], .literal 1 ['x'], .command 1 ['/', '?', 'a']]

/-- The same conditional, without an end. -/
def openTokens : Array Token :=
  #[.literal 1 ['y'], .command 1 ['?', 'a'], .literal 1 ['x']]

/-- The end of a block right behind a range is not seen. -/
theorem range_eq_range_extract_unclosed :
    (range truthfulContext closedTokens 0 3 {}).1 = .ok ['x'] ∧
      (range truthfulContext closedTokens 0 2 {}).1 =
        .error (.unterminated .conditional ['?', 'a'] 1) ∧
      range truthfulContext closedTokens 0 2 =
        range truthfulContext (closedTokens.extract 0 2) 0 (closedTokens.extract 0 2).size ∧
      range truthfulContext openTokens 1 3 = range truthfulContext closedTokens 0 2 := by
  have hwhole : (range truthfulContext closedTokens 0 3 {}).1 = .ok ['x'] := by decide +kernel
  have hpart : (range truthfulContext closedTokens 0 2 {}).1 =
      .error (.unterminated .conditional ['?', 'a'] 1) := by decide +kernel
  have h := range_eq_range_extract truthfulContext closedTokens 0 2 (by decide) (by decide)
  exact ⟨hwhole, hpart, h.1, h.2 openTokens 1 3 (by decide) (by decide) (by decide)⟩

end Render

end TextTemplate
