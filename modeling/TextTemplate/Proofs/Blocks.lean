import Mathlib.Tactic.MkIffOfInductiveProp
import TextTemplate.Proofs.Slice

/-!
# Rendering a token list block by block

What the rendering of a whole token list comes to, told by the list and not by positions: a text and what
follows it, a substitution and what follows it, a block and what follows its end. A block is closed by the
first command with the text that is looked for, and the lists between the commands are rendered as lists
of their own.
-/

namespace TextTemplate

/-! ## Searches in a list -/

section Searches

variable {text : Text} {found : Token} (before : List Token) {between after : List Token} {stop : Nat}

lemma findCommand_append (hbetween : ∀ t ∈ between, t.isCommand = true → t.text ≠ text)
    (hstop : before.length + between.length ≤ stop) :
    findCommand (before ++ (between ++ after)).toArray text before.length stop =
      findCommand (before ++ (between ++ after)).toArray text (before.length + between.length) stop := by
  induction between generalizing before with
  | nil => rfl
  | cons t rest ih =>
    rw [List.length_cons] at hstop
    have hget : (before ++ (t :: rest ++ after)).toArray[before.length]? = some t := by simp
    have ht : ¬ (t.isCommand && t.text == text) = true := by
      intro h
      rw [Bool.and_eq_true, beq_iff_eq] at h
      exact hbetween t List.mem_cons_self h.1 h.2
    have hsplit : before ++ (t :: rest ++ after) = before ++ [t] ++ (rest ++ after) := by simp
    have hlength : (before ++ [t]).length = before.length + 1 := by simp
    rw [findCommand_of_some (by omega) hget, if_neg ht, hsplit, ← hlength,
      ih _ (fun u hu => hbetween u (List.mem_cons_of_mem _ hu)) (by rw [hlength]; omega)]
    congr 1
    rw [hlength, List.length_cons]
    omega

lemma findCommand_found (hbetween : ∀ t ∈ between, t.isCommand = true → t.text ≠ text)
    (hfound : found.isCommand = true) (htext : found.text = text)
    (hstop : before.length + between.length < stop) :
    findCommand (before ++ (between ++ found :: after)).toArray text before.length stop =
      some (before.length + between.length) := by
  have hget : (before ++ (between ++ found :: after)).toArray[before.length + between.length]? =
      some found := by
    rw [← List.append_assoc, List.getElem?_toArray, ← List.length_append,
      List.getElem?_append_right (Nat.le_refl _)]
    simp
  rw [findCommand_append _ hbetween (by omega), findCommand_of_some hstop hget, if_pos]
  rw [hfound, htext, beq_self_eq_true, Bool.and_true]

lemma findCommand_missing (hbetween : ∀ t ∈ between, t.isCommand = true → t.text ≠ text) :
    findCommand (before ++ (between ++ after)).toArray text before.length
      (before.length + between.length) = none := by
  rw [findCommand_append _ hbetween (Nat.le_refl _), findCommand_of_le (Nat.le_refl _)]

end Searches

/-! ## What a command asks for -/

namespace Text

/-- The text of a command that is looked up and shown. -/
@[mk_iff]
structure IsSubstitution (m : Markers) (t : Text) : Prop where
  not_ending : ¬ m.ending.text <+: t
  not_loop : ¬ m.loop.text <+: t
  not_test : ¬ m.test.text <+: t

/-- The text of a command that opens a conditional. -/
@[mk_iff]
structure IsTest (m : Markers) (t : Text) : Prop where
  not_ending : ¬ m.ending.text <+: t
  not_loop : ¬ m.loop.text <+: t
  test : m.test.text <+: t

/-- The text of a command that opens a loop. -/
@[mk_iff]
structure IsLoop (m : Markers) (t : Text) : Prop where
  not_ending : ¬ m.ending.text <+: t
  loop : m.loop.text <+: t

/-- The target of a loop as its opener has it, and what follows behind args markers. -/
def loopParts (m : Markers) (opener : Text) : Text × List Text :=
  splitOn m.args (opener.drop m.loop.text.length)

/-- The loop variable that an opener names. -/
def loopName? (m : Markers) (opener : Text) : Option Text :=
  ((opener.loopParts m).2.head?.map trim).filter (· ≠ [])

/-- The text by which the end of a loop is looked for: the opener up to its target. -/
def loopEnd (m : Markers) (opener : Text) : Text :=
  m.ending.text ++ (m.loop.text ++ (opener.loopParts m).1.trimEnd)

end Text

namespace Render

/-- Render a token list from its start to its end. -/
def all (c : Context) (tokens : List Token) : Render Text :=
  range c tokens.toArray 0 tokens.length

lemma range_part (c : Context) (before part after : List Token) :
    range c (before ++ (part ++ after)).toArray before.length (before.length + part.length) =
      all c part := by
  have hwindow : SameWindow (before ++ (part ++ after)).toArray part.toArray before.length 0
      part.length := by
    refine ⟨fun i _ hi => ?_, by simp; omega, by simp⟩
    rw [List.getElem?_toArray, List.getElem?_toArray, Nat.add_comm,
      List.getElem?_append_right (by omega), Nat.add_sub_cancel_left, List.getElem?_append_left hi]
  have hshift := range_shift c hwindow
  rwa [Nat.zero_add, Nat.add_comm] at hshift

lemma range_rest (c : Context) (before rest : List Token) :
    range c (before ++ rest).toArray before.length (before ++ rest).length = all c rest := by
  have hpart := range_part c before rest []
  rwa [List.append_nil, ← List.length_append] at hpart

variable {c : Context} {t : Token} {rest : List Token}

lemma all_nil : all c [] = return [] :=
  range_of_le (Nat.le_refl 0)

lemma all_text (ht : t.isCommand = false) :
    all c (t :: rest) = (do return t.text ++ (← all c rest)) := by
  have hstep : Step.ofPosition c.markers (t :: rest).toArray 0 (t :: rest).length =
      .literal t.text := by simp [Step.ofPosition, ht]
  rw [all, range_literal (by simp) hstep]
  have hrest := range_rest c [t] rest
  rw [← hrest]
  rfl

lemma all_substitution (hcommand : t.isCommand = true) (ht : t.text.IsSubstitution c.markers) :
    all c (t :: rest) = (do
      let piece ← substitution c t.text
      return piece ++ (← all c rest)) := by
  have hstep : Step.ofPosition c.markers (t :: rest).toArray 0 (t :: rest).length =
      .substitution t.text := by
    simp [Step.ofPosition, hcommand, Text.startsWith_iff, ht.not_ending, ht.not_loop, ht.not_test]
  rw [all, range_substitution (by simp) hstep]
  have hrest := range_rest c [t] rest
  rw [← hrest]
  rfl

/-! ## Conditionals -/

section Conditionals

variable {close : Token} {body : List Token}

lemma ofPosition_test (rest : List Token) {stop : Nat} (hcommand : t.isCommand = true)
    (ht : t.text.IsTest c.markers) (hclose : close.isCommand = true)
    (htext : close.text = c.markers.ending.text ++ t.text)
    (hbody : ∀ u ∈ body, u.isCommand = true → u.text ≠ c.markers.ending.text ++ t.text)
    (hstop : 1 + body.length < stop) :
    Step.ofPosition c.markers (t :: (body ++ close :: rest)).toArray 0 stop =
      .conditional
        { opener := t
          test := Text.trim (t.text.drop c.markers.test.text.length)
          else? := findCommand (t :: (body ++ close :: rest)).toArray
            (c.markers.otherwise.text ++ t.text) 1 (1 + body.length)
          close := 1 + body.length } := by
  have hfind : findEnd c.markers (t :: (body ++ close :: rest)).toArray t 0 stop =
      some (1 + body.length) := findCommand_found [t] hbody hclose htext hstop
  simp [Step.ofPosition, hcommand, Text.startsWith_iff, ht.not_ending, ht.not_loop, ht.test,
    Step.ofConditional, requireEnd, hfind, findElse]

lemma all_conditional (hcommand : t.isCommand = true) (ht : t.text.IsTest c.markers)
    (hclose : close.isCommand = true)
    (htext : close.text = c.markers.ending.text ++ t.text)
    (hbody : ∀ u ∈ body, u.isCommand = true → u.text ≠ c.markers.ending.text ++ t.text)
    (hno : ∀ u ∈ body, u.isCommand = true → u.text ≠ c.markers.otherwise.text ++ t.text) :
    all c (t :: (body ++ close :: rest)) = (do
      let block : ConditionalBlock :=
        { opener := t, test := Text.trim (t.text.drop c.markers.test.text.length), else? := none,
          close := 1 + body.length }
      let piece ← conditional c block (all c body) none
      return piece ++ (← all c rest)) := by
  have hlength : 1 + body.length < (t :: (body ++ close :: rest)).length := by simp; omega
  have hstep := ofPosition_test rest hcommand ht hclose htext hbody hlength
  have helse : findCommand (t :: (body ++ close :: rest)).toArray
      (c.markers.otherwise.text ++ t.text) 1 (1 + body.length) = none :=
    findCommand_missing [t] hno
  rw [helse] at hstep
  rw [all, range_conditional (by simp) hstep]
  have hholds := range_part c [t] body (close :: rest)
  have hrest := range_rest c (t :: (body ++ [close])) rest
  rw [List.cons_append, List.append_assoc] at hrest
  rw [← hholds, ← hrest]
  simp [ConditionalBlock.firstStop, Nat.add_comm]

lemma all_choice {separator : Token} {holds otherwise : List Token} (hcommand : t.isCommand = true)
    (ht : t.text.IsTest c.markers) (hclose : close.isCommand = true)
    (htext : close.text = c.markers.ending.text ++ t.text)
    (hseparator : separator.isCommand = true)
    (hother : separator.text = c.markers.otherwise.text ++ t.text)
    (hbody : ∀ u ∈ holds ++ separator :: otherwise, u.isCommand = true →
      u.text ≠ c.markers.ending.text ++ t.text)
    (hno : ∀ u ∈ holds, u.isCommand = true → u.text ≠ c.markers.otherwise.text ++ t.text) :
    all c (t :: (holds ++ separator :: otherwise ++ close :: rest)) = (do
      let block : ConditionalBlock :=
        { opener := t, test := Text.trim (t.text.drop c.markers.test.text.length),
          else? := some (1 + holds.length), close := 1 + (holds ++ separator :: otherwise).length }
      let piece ← conditional c block (all c holds) (some (all c otherwise))
      return piece ++ (← all c rest)) := by
  have hlength : 1 + (holds ++ separator :: otherwise).length <
      (t :: (holds ++ separator :: otherwise ++ close :: rest)).length := by simp; omega
  have hstep := ofPosition_test rest hcommand ht hclose htext hbody hlength
  have hsplit : t :: (holds ++ separator :: otherwise ++ close :: rest) =
      [t] ++ (holds ++ separator :: (otherwise ++ close :: rest)) := by simp
  have helse : findCommand (t :: (holds ++ separator :: otherwise ++ close :: rest)).toArray
      (c.markers.otherwise.text ++ t.text) 1 (1 + (holds ++ separator :: otherwise).length) =
      some (1 + holds.length) := by
    rw [hsplit]
    exact findCommand_found [t] hno hseparator hother (by simp)
  rw [helse] at hstep
  rw [all, range_conditional (by simp) hstep]
  have hholds := range_part c [t] holds (separator :: (otherwise ++ close :: rest))
  have hotherwise := range_part c (t :: (holds ++ [separator])) otherwise (close :: rest)
  have hrest := range_rest c (t :: (holds ++ separator :: otherwise ++ [close])) rest
  simp only [List.cons_append, List.append_assoc, List.nil_append] at hholds hotherwise hrest
  rw [← hholds, ← hotherwise, ← hrest]
  simp [ConditionalBlock.firstStop, Nat.add_comm, Nat.add_left_comm]

end Conditionals

/-! ## Loops -/

section Loops

variable {close : Token} {body : List Token}

lemma all_loop (hcommand : t.isCommand = true) (ht : t.text.IsLoop c.markers)
    (hclose : close.isCommand = true) (htext : close.text = t.text.loopEnd c.markers)
    (hbody : ∀ u ∈ body, u.isCommand = true → u.text ≠ t.text.loopEnd c.markers) :
    all c (t :: (body ++ close :: rest)) = (do
      let block : LoopBlock :=
        { opener := t, target := (t.text.loopParts c.markers).1.trim, name? := t.text.loopName? c.markers,
          close := 1 + body.length }
      let piece ← loop c block (all c body)
      return piece ++ (← all c rest)) := by
  have hstep : ∀ stop, 1 + body.length < stop →
      Step.ofPosition c.markers (t :: (body ++ close :: rest)).toArray 0 stop =
        .loop
          { opener := t
            target := (t.text.loopParts c.markers).1.trim
            name? := t.text.loopName? c.markers
            close := 1 + body.length } := by
    intro stop hstop
    have hfind : findEnd c.markers (t :: (body ++ close :: rest)).toArray
        (t.withText (c.markers.loop.text ++ (t.text.loopParts c.markers).1.trimEnd)) 0 stop =
          some (1 + body.length) := findCommand_found [t] hbody hclose htext hstop
    unfold Text.loopParts at hfind
    simp [Step.ofPosition, hcommand, Text.startsWith_iff, ht.not_ending, ht.loop, Step.ofLoop,
      Text.loopName?, Text.loopParts, requireEnd, hfind]
  rw [all, range_loop (by simp) (hstep _ (by simp; omega))]
  have hinner := range_part c [t] body (close :: rest)
  have hrest := range_rest c (t :: (body ++ [close])) rest
  rw [List.cons_append, List.append_assoc] at hrest
  rw [← hinner, ← hrest]
  simp [Nat.add_comm]

end Loops

end Render

end TextTemplate
