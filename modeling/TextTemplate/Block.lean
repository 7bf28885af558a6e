import TextTemplate.Token.Basic
import TextTemplate.Text.Split
import TextTemplate.Failure

/-!
# Blocks

What a token of a range asks for. The prefix of a command tells ends, loops, conditionals and
substitutions apart, in this order. A block reaches up to the first later command whose text is the
end marker followed by the opener's text; a conditional's other branch starts after the first command
before its end whose text is the else marker followed by the opener's text. Nothing outside the range
is looked at.
-/

namespace TextTemplate

/-- The first command of a given text among the positions from `start` up to `stop`. -/
def findCommand (tokens : Array Token) (text : Text) (start stop : Nat) : Option Nat :=
  if start < stop then
    match tokens[start]? with
    | none => none
    | some token =>
      if token.isCommand && token.text == text then some start
      else findCommand tokens text (start + 1) stop
  else none
termination_by stop - start

theorem findCommand_of_le {tokens : Array Token} {text : Text} {start stop : Nat} (h : stop ≤ start) :
    findCommand tokens text start stop = none := by
  rw [findCommand, if_neg (by omega)]

theorem findCommand_of_some {tokens : Array Token} {text : Text} {start stop : Nat} {token : Token}
    (h : start < stop) (ht : tokens[start]? = some token) :
    findCommand tokens text start stop =
      if token.isCommand && token.text == text then some start
      else findCommand tokens text (start + 1) stop := by
  rw [findCommand, if_pos h, ht]

theorem findCommand_of_none {tokens : Array Token} {text : Text} {start stop : Nat}
    (ht : tokens[start]? = none) : findCommand tokens text start stop = none := by
  rw [findCommand, ht]
  split <;> rfl

theorem findCommand_bounds {tokens : Array Token} {text : Text} {start stop p : Nat}
    (h : findCommand tokens text start stop = some p) : start ≤ p ∧ p < stop := by
  fun_induction findCommand tokens text start stop with
  | case1 => simp at h
  | case2 start hlt => simp at h; omega
  | case3 start hlt _ _ _ ih => have := ih h; omega
  | case4 => simp at h

/-- The end of the block that a token opens at a position. -/
def findEnd (m : Markers) (tokens : Array Token) (opener : Token) (position stop : Nat) :
    Option Nat :=
  findCommand tokens (m.ending.text ++ opener.text) (position + 1) stop

/-- The command that separates the branches of the conditional that a token opens. -/
def findElse (m : Markers) (tokens : Array Token) (opener : Token) (position stop : Nat) :
    Option Nat :=
  findCommand tokens (m.otherwise.text ++ opener.text) (position + 1) stop

/-- The end of the block that a token opens, or the failure for want of one. A range that ends past
the tokens is found out first. -/
def requireEnd (m : Markers) (tokens : Array Token) (construct : Construct) (opener : Token)
    (position stop : Nat) : Except Failure Nat :=
  match findEnd m tokens opener position stop with
  | some close => .ok close
  | none =>
    if tokens.size < stop then .error .outOfRange
    else .error (.unterminated construct opener.text opener.line)

theorem requireEnd_bounds {m : Markers} {tokens : Array Token} {construct : Construct}
    {opener : Token} {position stop close : Nat}
    (h : requireEnd m tokens construct opener position stop = .ok close) :
    position < close ∧ close < stop := by
  rw [requireEnd] at h
  split at h
  · next hfind =>
    cases h
    exact findCommand_bounds hfind
  · split at h <;> simp at h

/-- The command that separates the branches of a conditional, where there is one. A range that ends
past the tokens is found out. -/
def seekElse (m : Markers) (tokens : Array Token) (opener : Token) (position stop : Nat) :
    Except Failure (Option Nat) :=
  match findElse m tokens opener position stop with
  | some otherwise => .ok (some otherwise)
  | none => if tokens.size < stop then .error .outOfRange else .ok none

/-- A loop, from its opener to its end. -/
structure LoopBlock where
  opener : Token
  /-- The expression whose pairs are walked. -/
  target : Text
  /-- The loop variable, where the opener names one. -/
  name? : Option Text
  /-- The position of the end command. -/
  close : Nat

/-- A conditional, from its opener to its end. -/
structure ConditionalBlock where
  opener : Token
  /-- The expression that is tested. -/
  test : Text
  /-- The position of the command that separates the two branches. -/
  else? : Option Nat
  /-- The position of the end command. -/
  close : Nat

/-- Where the first branch of a conditional ends. -/
def ConditionalBlock.firstStop (block : ConditionalBlock) : Nat :=
  block.else?.getD block.close

/-- What the token at a position asks for. -/
inductive Step where
  | literal (text : Text)
  /-- An end command, which only marks where a block ends. -/
  | skip
  | substitution (expression : Text)
  | loop (block : LoopBlock)
  | conditional (block : ConditionalBlock)
  /-- A block whose end is not in the range, or a position past the end of the token list. -/
  | failure (f : Failure)

namespace Step

/-- A loop, read from its opener. The end command names the target as it is written. -/
def ofLoop (m : Markers) (tokens : Array Token) (token : Token) (position stop : Nat) : Step :=
  let (target, args) := Text.splitOn m.args (token.text.drop m.loop.text.length)
  let opener := token.withText (m.loop.text ++ target.trimEnd)
  match requireEnd m tokens .loop opener position stop with
  | .error f => .failure f
  | .ok close =>
    .loop
      { opener := token
        target := target.trim
        name? := (args.head?.map Text.trim).filter (· ≠ [])
        close := close }

/-- A conditional, read from its opener. -/
def ofConditional (m : Markers) (tokens : Array Token) (opener : Token) (position stop : Nat) :
    Step :=
  match requireEnd m tokens .conditional opener position stop with
  | .error f => .failure f
  | .ok close =>
    .conditional
      { opener := opener
        test := Text.trim (opener.text.drop m.test.text.length)
        else? := findElse m tokens opener position close
        close := close }

/-- What the token at a position asks for within a range that ends before `stop`. -/
def ofPosition (m : Markers) (tokens : Array Token) (position stop : Nat) : Step :=
  match tokens[position]? with
  | none => .failure .outOfRange
  | some token =>
    if !token.isCommand then .literal token.text
    else if token.text.startsWith m.ending.text then .skip
    else if token.text.startsWith m.loop.text then ofLoop m tokens token position stop
    else if token.text.startsWith m.test.text then ofConditional m tokens token position stop
    else .substitution token.text

theorem loop_bounds {m : Markers} {tokens : Array Token} {position stop : Nat} {block : LoopBlock}
    (h : ofPosition m tokens position stop = .loop block) :
    position < block.close ∧ block.close < stop := by
  revert h
  simp only [ofPosition, ofLoop, ofConditional]
  repeat' split
  all_goals simp only [Step.loop.injEq, reduceCtorEq, false_implies]
  rintro rfl
  next hend => exact requireEnd_bounds hend

theorem conditional_bounds {m : Markers} {tokens : Array Token} {position stop : Nat}
    {block : ConditionalBlock} (h : ofPosition m tokens position stop = .conditional block) :
    position < block.close ∧ block.close < stop ∧
      ∀ q, block.else? = some q → position < q ∧ q < block.close := by
  revert h
  simp only [ofPosition, ofLoop, ofConditional]
  repeat' split
  all_goals simp only [Step.conditional.injEq, reduceCtorEq, false_implies]
  rintro rfl
  next hend =>
    have := requireEnd_bounds hend
    exact ⟨this.1, this.2, fun q hq => findCommand_bounds hq⟩

theorem firstStop_bounds {m : Markers} {tokens : Array Token} {position stop : Nat}
    {block : ConditionalBlock} (h : ofPosition m tokens position stop = .conditional block) :
    position < block.firstStop ∧ block.firstStop ≤ block.close := by
  obtain ⟨hclose, _, helse⟩ := conditional_bounds h
  cases hq : block.else? with
  | none => simp [ConditionalBlock.firstStop, hq, hclose]
  | some q =>
    have := helse q hq
    simp only [ConditionalBlock.firstStop, hq, Option.getD_some]
    omega

end Step

end TextTemplate
