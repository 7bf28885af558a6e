import TextTemplate.Markers.Basic
import TextTemplate.Text.Split
import TextTemplate.Value.Access

/-!
# Loop frames

Every loop that is being walked has a frame on the stack, outermost first. An expression whose first
segment names a frame is answered by the outermost frame of that name: alone it stands for the
current element, followed by the index marker for its key or a count, followed by anything else for
a part of the element, or the default where there is no such part.
-/

namespace TextTemplate

/-- The state of a loop that is being walked. -/
structure Frame where
  /-- The name of the loop variable. -/
  name : Text
  /-- All the pairs of the loop. -/
  pairs : List (Value × Value)
  /-- The key of the current pair. -/
  key : Value
  /-- The position of the current pair. -/
  row : Int
  /-- The element of the current pair. -/
  value : Value

namespace Frame

/-- The word that loop variables without a name of their own are numbered with. -/
def defaultStem : Text := ['l', 'o', 'o', 'p']

/-- The name of the loop variable at a height of the stack, counted from one. -/
def defaultName (height : Nat) : Text :=
  defaultStem ++ Text.decimal height

/-- The frame name that a first segment stands for: the bare stem means the outermost default. -/
def resolveName (name : Text) : Text :=
  if name = defaultStem then defaultName 1 else name

/-- The frame bound to a name, the outermost first. -/
def find? (frames : List Frame) (name : Text) : Option Frame :=
  List.find? (fun frame => frame.name == name) frames

/-- The position of the current pair, counted from an offset. -/
def count (frame : Frame) (offset : Int) : Value :=
  .int (frame.row + offset)

/-- What the segments after a frame's name stand for. -/
def answer (m : Markers) (frame : Frame) (segments : List Text) (default : Text) :
    Except Failure Value :=
  match segments with
  | [] => .ok frame.value
  | first :: rest =>
    if first = m.index.text then
      match rest.head?.bind Text.readInteger? with
      | some offset => .ok (frame.count offset)
      | none => .ok frame.key
    else (frame.value.walk? segments).map (·.getD (.text default))

/-- Unless it is asked for its key or a count, a frame answers by a walk from its element. -/
theorem answer_eq {m : Markers} {frame : Frame} {segments : List Text} {default : Text}
    (hindex : segments.head? ≠ some m.index.text) :
    frame.answer m segments default = (frame.value.walk? segments).map (·.getD (.text default)) := by
  cases segments with
  | nil => rfl
  | cons first rest =>
    have hfirst : first ≠ m.index.text := fun h => hindex (congrArg some h)
    rw [answer, if_neg hfirst]

/-- The answer of the loop stack to an expression, if its first segment names a frame. -/
def lookup? (m : Markers) (frames : List Frame) (expression : Text) :
    Option (Except Failure Value) :=
  let (path, args) := expression.splitOn m.args
  let (name, segments) := path.splitOn m.scope
  (find? frames (resolveName name)).map fun frame =>
    frame.answer m segments ((args.head?.map Text.trim).getD [])

end Frame

end TextTemplate
