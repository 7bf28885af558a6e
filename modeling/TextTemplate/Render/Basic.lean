import TextTemplate.Frame
import TextTemplate.Resolver.Basic
import TextTemplate.Token.Basic

/-!
# The state of a run

A rendering threads the loop stack, the nesting depth, the streams that have elements left, the
expressions that the resolver was asked, and the notes. The state outlives a failure. What enters a
block or a loop row undoes its change of the state when the block is left, whether or not it failed.
-/

namespace TextTemplate

/-- What changes in the course of a run. -/
structure RunState where
  /-- The frames of the loops being walked, outermost first. -/
  frames : List Frame := []
  /-- The nesting depth: one more in every block body. -/
  depth : Int := 0
  /-- The elements that remain in each stream. -/
  streams : Value.Streams := []
  /-- The expressions that the resolver was asked, in order. -/
  calls : Array Text := #[]
  /-- The notes, in order. -/
  notes : Array Note := #[]

/-- What stays fixed in the course of a run. -/
structure Context where
  markers : Markers
  resolver : Resolver
  /-- The nesting limit; zero stands for none. -/
  maxDepth : Int

/-- A piece of a run: it may fail, and changes the state either way. -/
abbrev Render := ExceptT Failure (StateM RunState)

namespace Render

/-- Leave a note. -/
def note (n : Note) : Render Unit :=
  modify fun s => { s with notes := s.notes.push n }

/-- Fail, leaving the note that goes with the failure. -/
def fail {α : Type} (f : Failure) : Render α := do
  if let some n := Note.ofFailure? f then note n
  throw f

/-- Ask the resolver for the value of an expression. -/
def ask (resolver : Resolver) (expression : Text) : Render Value := fun s =>
  let reply := resolver s.calls expression
  (reply.result,
    { s with calls := s.calls.push expression, notes := s.notes ++ reply.notes.toArray })

/-- The value of an expression: the loop stack answers first, then the resolver. -/
def lookup (c : Context) (expression : Text) : Render Value := do
  match Frame.lookup? c.markers (← get).frames expression with
  | some (.ok v) => return v
  | some (.error f) => throw f
  | none => ask c.resolver expression

/-- The pairs of a value, if it can be walked; a stream is used up by this. -/
def takePairs? (v : Value) : Render (Option (List (Value × Value))) := fun s =>
  (.ok (v.pairs? s.streams), { s with streams := v.drained s.streams })

/-- Run the body of a block one level deeper, unless that is too deep. -/
def inBody {α : Type} (c : Context) (opener : Token) (body : Render α) : Render α := fun s =>
  if c.maxDepth ≠ 0 ∧ c.maxDepth < s.depth + 1 then
    (.error (.tooDeep c.maxDepth opener.text opener.line), s)
  else
    let r := body { s with depth := s.depth + 1 }
    (r.1, { r.2 with depth := r.2.depth - 1 })

/-- Run with one more frame on the stack; the piece that is run is told the height of the frame. What
is on top afterwards is taken off, whatever it is. -/
def withFrame {α : Type} (frame : Frame) (body : Nat → Render α) : Render α := fun s =>
  let r := body s.frames.length { s with frames := s.frames ++ [frame] }
  (r.1, { r.2 with frames := r.2.frames.dropLast })

/-- Bring the frame at a height of the stack up to date. -/
def setFrame (height : Nat) (frame : Frame) : Render Unit :=
  modify fun s => { s with frames := s.frames.set height frame }

/-! ## Running one piece after another -/

variable {α β : Type}

theorem bind_apply (x : Render α) (f : α → Render β) (s : RunState) :
    (x >>= f) s =
      match x s with
      | (.ok a, s') => f a s'
      | (.error e, s') => (.error e, s') := by
  simp only [bind, ExceptT.bind, ExceptT.mk, StateT.bind]
  rcases x s with ⟨_ | _, s'⟩ <;> rfl

theorem pure_apply (a : α) (s : RunState) : (pure a : Render α) s = (.ok a, s) := rfl

theorem throw_apply (f : Failure) (s : RunState) : (throw f : Render α) s = (.error f, s) := rfl

theorem get_apply (s : RunState) : (get : Render RunState) s = (.ok s, s) := rfl

theorem note_apply (n : Note) (s : RunState) :
    note n s = (.ok (), { s with notes := s.notes.push n }) := rfl

theorem setFrame_apply (height : Nat) (frame : Frame) (s : RunState) :
    setFrame height frame s = (.ok (), { s with frames := s.frames.set height frame }) := rfl

theorem lookup_apply (c : Context) (e : Text) (s : RunState) :
    lookup c e s =
      match Frame.lookup? c.markers s.frames e with
      | some (.ok v) => (.ok v, s)
      | some (.error f) => (.error f, s)
      | none => ask c.resolver e s := by
  simp only [lookup, bind_apply, get_apply]
  rcases Frame.lookup? c.markers s.frames e with _ | f | v <;> rfl

end Render

end TextTemplate
