import TextTemplate.Frame
import TextTemplate.Template.Basic
import TextTemplate.Value.Display

/-!
# The meaning of a template tree

What a template comes to, by recursion on its tree: the text or the failure, and the expressions for
which the resolver was asked on the way. Loops bind frames and bodies count as levels, as the stack
and the depth given to the recursion say.
-/

namespace TextTemplate

/-- What a template comes to. -/
structure Outcome where
  /-- The expressions that the resolver was asked, in order. -/
  calls : List Text
  result : Except Failure Text

namespace Outcome

/-- A text that takes no question. -/
def text (t : Text) : Outcome := ⟨[], .ok t⟩

/-- A failure before any question. -/
def fail (f : Failure) : Outcome := ⟨[], .error f⟩

/-- One outcome after another; a failure is the last. -/
def append (first second : Outcome) : Outcome :=
  match first.result with
  | .error _ => first
  | .ok t => ⟨first.calls ++ second.calls, second.result.map (t ++ ·)⟩

/-- The outcomes of a list, one after another. -/
def concat (outcomes : List Outcome) : Outcome :=
  outcomes.foldr append (text [])

@[simp] theorem text_append (o : Outcome) : (text []).append o = o := by
  obtain ⟨calls, result⟩ := o
  cases result <;> simp [append, text, Except.map]

@[simp] theorem append_text (o : Outcome) : o.append (text []) = o := by
  obtain ⟨calls, result⟩ := o
  cases result <;> simp [append, text, Except.map]

theorem append_assoc (o p q : Outcome) : (o.append p).append q = o.append (p.append q) := by
  obtain ⟨oc, or⟩ := o
  obtain ⟨pc, pr⟩ := p
  cases or <;> cases pr <;> simp [append, Except.map]
  cases q.result <;> simp

end Outcome

/-- What the meaning of a template depends on. -/
structure Environment where
  markers : Markers
  /-- The value of each expression. -/
  resolve : Text → Except Failure Value
  /-- The nesting limit; zero stands for none. -/
  maxDepth : Int

namespace Environment

/-- Go on with the value of an expression. A frame answers without a question to the resolver. -/
def withValue (e : Environment) (frames : List Frame) (expression : Text)
    (next : Value → Outcome) : Outcome :=
  match Frame.lookup? e.markers frames expression with
  | some (.ok v) => next v
  | some (.error f) => .fail f
  | none =>
    match e.resolve expression with
    | .ok v => { next v with calls := expression :: (next v).calls }
    | .error f => ⟨[expression], .error f⟩

/-- The outcome of a body one level below a depth, unless that is too deep. -/
def body (e : Environment) (opener : Text) (depth : Nat) (inner : Nat → Outcome) : Outcome :=
  if e.maxDepth ≠ 0 ∧ e.maxDepth < (depth + 1 : Nat) then .fail (.tooDeep e.maxDepth opener 0)
  else inner (depth + 1)

/-- The text that a value adds. -/
def shown (v : Value) : Outcome :=
  ⟨[], v.display⟩

end Environment

namespace Template

/-- What a template comes to under a loop stack, at a depth. -/
def meaning (e : Environment) : Template → List Frame → Nat → Outcome
  | empty, _, _ => .text []
  | literal text rest, frames, depth => (Outcome.text text).append (rest.meaning e frames depth)
  | substitution expression rest, frames, depth =>
    (e.withValue frames expression.trim Environment.shown).append (rest.meaning e frames depth)
  | conditional test holds rest, frames, depth =>
    let opener := (testOpener e.markers test).trim
    let chosen := e.withValue frames test.trim fun v =>
      if v.isTruthy then e.body opener depth (holds.meaning e frames) else .text []
    chosen.append (rest.meaning e frames depth)
  | choice test holds otherwise rest, frames, depth =>
    let opener := (testOpener e.markers test).trim
    let chosen := e.withValue frames test.trim fun v =>
      if v.isTruthy then e.body opener depth (holds.meaning e frames)
      else e.body opener depth (otherwise.meaning e frames)
    chosen.append (rest.meaning e frames depth)
  | loop target name? body rest, frames, depth =>
    let opener := (loopOpener e.markers target name?).trim
    let name := ((name?.map Text.trim).filter (· ≠ [])).getD (Frame.defaultName (frames.length + 1))
    let walked := e.withValue frames target.trim fun v =>
      match v.pairs? [] with
      | none => .fail (.notIterable target.trim v.typeName)
      | some pairs =>
        .concat (pairs.zipIdx.map fun ((key, value), row) =>
          e.body opener depth (body.meaning e (frames ++ [{ name, pairs, key, row, value }])))
    walked.append (rest.meaning e frames depth)

theorem meaning_append (e : Environment) (t u : Template) (frames : List Frame) (depth : Nat) :
    (t.append u).meaning e frames depth =
      (t.meaning e frames depth).append (u.meaning e frames depth) := by
  induction t generalizing frames depth <;> simp_all [append, meaning, Outcome.append_assoc]

end Template

end TextTemplate
