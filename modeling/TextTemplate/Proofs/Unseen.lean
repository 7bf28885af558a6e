import Mathlib.Control.Monad.Basic
import TextTemplate.Proofs.Reading

/-!
# What is not rendered

A block passes over one of its parts: the branch that its test does not select, or the body of a loop without
elements. Such a part is searched for the end of the block and for the separator of its branches, by their
exact text, and not looked at otherwise. So whatever stands in its place, ill nested or not, the rendering
is the same, and so is that of what follows.
-/

namespace TextTemplate

def Text.tested (m : Markers) (opener : Text) : Text :=
  trim (opener.drop m.test.text.length)

/-- A command that opens a conditional, and a command that ends it. -/
structure EndsTest (m : Markers) (opener close : Token) : Prop where
  command : opener.isCommand = true
  opens : opener.text.IsTest m
  closes : close.isCommand = true
  text_eq : close.text = m.ending.text ++ opener.text

/-- A command that separates the branches of the conditional that another one opens, and does not end it. -/
structure SeparatesTest (m : Markers) (opener separator : Token) : Prop where
  separates : separator.isCommand = true
  text_eq : separator.text = m.otherwise.text ++ opener.text
  text_ne : separator.text ≠ m.ending.text ++ opener.text

/-- A command that opens a loop, and a command that ends it. -/
structure EndsLoop (m : Markers) (opener close : Token) : Prop where
  command : opener.isCommand = true
  opens : opener.text.IsLoop m
  closes : close.isCommand = true
  text_eq : close.text = opener.text.loopEnd m

namespace Render

/-- A block and what follows it, without a part that is not rendered from a state: the tokens before the
part, those behind it, and the texts of the commands that are looked for in it. -/
inductive Unseen (c : Context) (s : RunState) : List Token → List Token → List Text → Prop where
  /-- The test holds, and the part is the other branch. -/
  | otherwise {opener separator close : Token} {holds rest : List Token} {v : Value}
      (ends : EndsTest c.markers opener close) (separates : SeparatesTest c.markers opener separator)
      (no_end : Lacks (c.markers.ending.text ++ opener.text) holds)
      (no_separator : Lacks (c.markers.otherwise.text ++ opener.text) holds)
      (looked : (lookup c (opener.text.tested c.markers) s).1 = .ok v) (truthy : v.isTruthy = true) :
      Unseen c s (opener :: (holds ++ [separator])) (close :: rest)
        [c.markers.ending.text ++ opener.text]
  /-- The test does not hold, and the part is the only branch. -/
  | only {opener close : Token} {rest : List Token} {v : Value} (ends : EndsTest c.markers opener close)
      (looked : (lookup c (opener.text.tested c.markers) s).1 = .ok v) (falsy : v.isTruthy = false) :
      Unseen c s [opener] (close :: rest)
        [c.markers.ending.text ++ opener.text, c.markers.otherwise.text ++ opener.text]
  /-- The test does not hold, and the part is the first of two branches. -/
  | first {opener separator close : Token} {otherwise rest : List Token} {v : Value}
      (ends : EndsTest c.markers opener close) (separates : SeparatesTest c.markers opener separator)
      (no_end : Lacks (c.markers.ending.text ++ opener.text) otherwise)
      (looked : (lookup c (opener.text.tested c.markers) s).1 = .ok v) (falsy : v.isTruthy = false) :
      Unseen c s [opener] (separator :: (otherwise ++ close :: rest))
        [c.markers.ending.text ++ opener.text, c.markers.otherwise.text ++ opener.text]
  /-- The target has no elements, and the part is the body of the loop. -/
  | body {opener close : Token} {rest : List Token} {v : Value} (ends : EndsLoop c.markers opener close)
      (looked : (lookup c (opener.text.loopParts c.markers).1.trim s).1 = .ok v)
      (empty : v.pairs? s.streams = some []) :
      Unseen c s [opener] (close :: rest) [opener.text.loopEnd c.markers]

/-! ## Blocks that pass over a part -/

section Blocks

variable {c : Context} {s : RunState} {v : Value}

lemma lookup_streams (c : Context) (e : Text) (s : RunState) : (lookup c e s).2.streams = s.streams := by
  rw [lookup_apply]
  rcases Frame.lookup? c.markers s.frames e with _ | f | w
  · rfl
  · rfl
  · rfl

lemma lookup_eq_of_fst {e : Text} (h : (lookup c e s).1 = .ok v) :
    lookup c e s = (.ok v, (lookup c e s).2) :=
  Prod.ext h rfl

lemma conditional_of_truthy {block : ConditionalBlock} (holds : Render Text)
    (otherwise? : Option (Render Text)) (h : (lookup c block.test s).1 = .ok v)
    (htruthy : v.isTruthy = true) :
    conditional c block holds otherwise? s = inBody c block.opener holds (lookup c block.test s).2 := by
  unfold conditional
  rw [bind_apply, lookup_eq_of_fst h]
  dsimp only
  rw [if_pos htruthy]

lemma conditional_of_falsy {block : ConditionalBlock} (holds : Render Text)
    (otherwise? : Option (Render Text)) (h : (lookup c block.test s).1 = .ok v)
    (hfalsy : v.isTruthy = false) :
    conditional c block holds otherwise? s =
      (otherwise?.elim (return []) (inBody c block.opener) : Render Text) (lookup c block.test s).2 := by
  have hnot : ¬ v.isTruthy = true := by simp [hfalsy]
  unfold conditional
  rw [bind_apply, lookup_eq_of_fst h]
  dsimp only
  rw [if_neg hnot]
  cases otherwise? with
  | none => rfl
  | some otherwise => rfl

lemma loop_of_no_pairs {block : LoopBlock} (body : Render Text)
    (h : (lookup c block.target s).1 = .ok v) (hempty : v.pairs? s.streams = some []) :
    loop c block body s =
      let name := block.name?.getD (Frame.defaultName (s.frames.length + 1))
      let frame : Frame := { name, pairs := [], key := .null, row := 0, value := .null }
      let t := (lookup c block.target s).2
      (.ok [], { t with
        frames := (t.frames ++ [frame]).dropLast
        streams := v.drained s.streams
        notes := t.notes.push (.looping name block.target 0) }) := by
  have htake : takePairs? v (lookup c block.target s).2 =
      (.ok (some []), { (lookup c block.target s).2 with streams := v.drained s.streams }) := by
    rw [takePairs?, lookup_streams, hempty]
  unfold loop
  rw [bind_apply, get_apply]
  dsimp only
  rw [bind_apply, lookup_eq_of_fst h]
  dsimp only
  rw [bind_apply, htake]
  rfl

lemma bind_eq_bind {α β : Type} {x y : Render α} {s s' : RunState} (h : x s = y s') (f : α → Render β) :
    (x >>= f) s = (y >>= f) s' := by
  rw [bind_apply, bind_apply, h]

end Blocks

section Parts

variable {c : Context} {s : RunState} {v : Value} {opener separator close : Token}
  {holds otherwise rest : List Token}

lemma all_choice_of_truthy (ends : EndsTest c.markers opener close)
    (separates : SeparatesTest c.markers opener separator)
    (hend : Lacks (c.markers.ending.text ++ opener.text) holds)
    (hend' : Lacks (c.markers.ending.text ++ opener.text) otherwise)
    (hno : Lacks (c.markers.otherwise.text ++ opener.text) holds)
    (looked : (lookup c (opener.text.tested c.markers) s).1 = .ok v) (truthy : v.isTruthy = true) :
    all c (opener :: (holds ++ [separator]) ++ (otherwise ++ close :: rest)) s =
      (do
        let piece ← inBody c opener (all c holds)
        return piece ++ (← all c rest)) (lookup c (opener.text.tested c.markers) s).2 := by
  have hlist : opener :: (holds ++ [separator]) ++ (otherwise ++ close :: rest) =
      opener :: (holds ++ separator :: otherwise ++ close :: rest) := by simp
  have hbody : Lacks (c.markers.ending.text ++ opener.text) (holds ++ separator :: otherwise) :=
    hend.append ((lacks_singleton separates.text_ne).append hend')
  rw [hlist, all_choice ends.command ends.opens ends.closes ends.text_eq separates.separates
    separates.text_eq hbody hno]
  apply bind_eq_bind
  exact conditional_of_truthy _ _ looked truthy

lemma all_choice_of_falsy (ends : EndsTest c.markers opener close)
    (separates : SeparatesTest c.markers opener separator)
    (hend : Lacks (c.markers.ending.text ++ opener.text) holds)
    (hend' : Lacks (c.markers.ending.text ++ opener.text) otherwise)
    (hno : Lacks (c.markers.otherwise.text ++ opener.text) holds)
    (looked : (lookup c (opener.text.tested c.markers) s).1 = .ok v) (falsy : v.isTruthy = false) :
    all c ([opener] ++ (holds ++ separator :: (otherwise ++ close :: rest))) s =
      (do
        let piece ← inBody c opener (all c otherwise)
        return piece ++ (← all c rest)) (lookup c (opener.text.tested c.markers) s).2 := by
  have hlist : [opener] ++ (holds ++ separator :: (otherwise ++ close :: rest)) =
      opener :: (holds ++ separator :: otherwise ++ close :: rest) := by simp
  have hbody : Lacks (c.markers.ending.text ++ opener.text) (holds ++ separator :: otherwise) :=
    hend.append ((lacks_singleton separates.text_ne).append hend')
  rw [hlist, all_choice ends.command ends.opens ends.closes ends.text_eq separates.separates
    separates.text_eq hbody hno]
  apply bind_eq_bind
  exact conditional_of_falsy _ (some _) looked falsy

lemma all_conditional_of_falsy (ends : EndsTest c.markers opener close)
    (hend : Lacks (c.markers.ending.text ++ opener.text) holds)
    (hno : Lacks (c.markers.otherwise.text ++ opener.text) holds)
    (looked : (lookup c (opener.text.tested c.markers) s).1 = .ok v) (falsy : v.isTruthy = false) :
    all c ([opener] ++ (holds ++ close :: rest)) s =
      (do
        let piece ← (return [] : Render Text)
        return piece ++ (← all c rest)) (lookup c (opener.text.tested c.markers) s).2 := by
  rw [List.singleton_append, all_conditional ends.command ends.opens ends.closes ends.text_eq hend hno]
  apply bind_eq_bind
  exact conditional_of_falsy _ none looked falsy

lemma all_loop_of_no_pairs {body body' : List Token} (ends : EndsLoop c.markers opener close)
    (hend : Lacks (opener.text.loopEnd c.markers) body)
    (hend' : Lacks (opener.text.loopEnd c.markers) body')
    (looked : (lookup c (opener.text.loopParts c.markers).1.trim s).1 = .ok v)
    (empty : v.pairs? s.streams = some []) :
    all c ([opener] ++ (body ++ close :: rest)) s = all c ([opener] ++ (body' ++ close :: rest)) s := by
  rw [List.singleton_append, List.singleton_append,
    all_loop ends.command ends.opens ends.closes ends.text_eq hend,
    all_loop ends.command ends.opens ends.closes ends.text_eq hend']
  apply bind_eq_bind
  rw [loop_of_no_pairs (v := v), loop_of_no_pairs (v := v)]
  · exact looked
  · exact empty
  · exact looked
  · exact empty

variable {head tail part part' : List Token} {limits : List Text}

lemma all_unseen (h : Unseen c s head tail limits) (hpart : ∀ text ∈ limits, Lacks text part)
    (hpart' : ∀ text ∈ limits, Lacks text part') :
    all c (head ++ (part ++ tail)) s = all c (head ++ (part' ++ tail)) s := by
  cases h with
  | otherwise ends separates no_end no_separator looked truthy =>
    have hend := hpart _ List.mem_cons_self
    have hend' := hpart' _ List.mem_cons_self
    rw [all_choice_of_truthy ends separates no_end hend no_separator looked truthy,
      all_choice_of_truthy ends separates no_end hend' no_separator looked truthy]
  | only ends looked falsy =>
    rw [all_conditional_of_falsy ends (hpart _ (by simp)) (hpart _ (by simp)) looked falsy,
      all_conditional_of_falsy ends (hpart' _ (by simp)) (hpart' _ (by simp)) looked falsy]
  | first ends separates no_end looked falsy =>
    rw [all_choice_of_falsy ends separates (hpart _ (by simp)) no_end (hpart _ (by simp)) looked falsy,
      all_choice_of_falsy ends separates (hpart' _ (by simp)) no_end (hpart' _ (by simp)) looked falsy]
  | body ends looked empty =>
    exact all_loop_of_no_pairs ends (hpart _ (by simp)) (hpart' _ (by simp)) looked empty

/-- A part that is not seen has no influence. From a state from which a block passes over a part, the range
that starts with the block is rendered as with any other part in its place, of whatever length, as long as
neither holds a command that is looked for there: it comes to the same text or failure, the same questions
and the same state. -/
theorem range_unseen (c : Context) (s : RunState) (h : Unseen c s head tail limits)
    (hpart : ∀ text ∈ limits, Lacks text part) (hpart' : ∀ text ∈ limits, Lacks text part')
    (before after : List Token) :
    let block := head ++ (part ++ tail)
    let block' := head ++ (part' ++ tail)
    range c (before ++ (block ++ after)).toArray before.length (before.length + block.length) s =
      range c (before ++ (block' ++ after)).toArray before.length (before.length + block'.length) s := by
  intro block block'
  rw [range_part, range_part]
  exact all_unseen h hpart hpart'

end Parts

/-- A branch that is not selected may hold blocks without an end, ends of other blocks and targets that
cannot be walked. -/
theorem range_unseen_crossing :
    let head : List Token := [.command 1 "?a".text, .literal 1 "x".text, .command 1 "!?a".text]
    let tail : List Token := [.command 2 "/?a".text, .literal 2 "y".text]
    let limits : List Text := ["/?a".text]
    let part : List Token := [.literal 1 "n".text]
    let part' : List Token :=
      [.command 1 "/?b".text, .command 1 "@a".text, .command 1 "?c".text, .command 1 "?a".text]
    Unseen truthfulContext {} head tail limits ∧ (∀ text ∈ limits, Lacks text part) ∧
      (∀ text ∈ limits, Lacks text part') ∧
      (range truthfulContext (head ++ (part ++ tail)).toArray 0 6 {}).1 = .ok "xy".text ∧
      range truthfulContext (head ++ (part' ++ tail)).toArray 0 9 {} =
        range truthfulContext (head ++ (part ++ tail)).toArray 0 6 {} := by
  intro head tail limits part part'
  have hends : EndsTest Markers.default (.command 1 "?a".text) (.command 2 "/?a".text) :=
    ⟨by decide, ⟨by decide, by decide, by decide⟩, by decide, by decide⟩
  have hseparates : SeparatesTest Markers.default (.command 1 "?a".text) (.command 1 "!?a".text) :=
    ⟨by decide, by decide, by decide⟩
  have hunseen : Unseen truthfulContext {} head tail limits := by
    change Unseen truthfulContext {} (_ :: ([.literal 1 "x".text] ++ [_])) tail limits
    exact .otherwise hends hseparates (by decide) (by decide) rfl rfl
  have hpart : ∀ text ∈ limits, Lacks text part := by decide
  have hpart' : ∀ text ∈ limits, Lacks text part' := by decide
  have htext : (range truthfulContext (head ++ (part ++ tail)).toArray 0 6 {}).1 = .ok "xy".text := by
    decide +kernel
  have hsame := range_unseen truthfulContext {} hunseen hpart' hpart [] []
  exact ⟨hunseen, hpart, hpart', htext, hsame⟩

end Render

end TextTemplate
