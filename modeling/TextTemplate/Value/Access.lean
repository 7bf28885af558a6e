import TextTemplate.Failure
import TextTemplate.Text.Identifier
import TextTemplate.Value.Basic

/-!
# Inside a value

A path segment leads from a value to one of its parts: a mapping is asked for the segment as a key,
then for the integer that the segment writes; a sequence for the item at that position, counted from
the end when negative; a record for the field of that name. A function tells its name and the arguments it
takes in fields of its own, and a stream its state. Scalars have no parts, and a range that is too long to
be counted makes the walk fail. A loop walks the pairs of a value: the entries of a mapping,
the items of another collection under their positions.
-/

namespace TextTemplate.Value

/-- The item at a position of a sequence, counted from the end when negative. -/
def itemAt? (items : List Value) (i : Int) : Option Value :=
  if 0 ≤ i then items[i.toNat]?
  else if -(items.length : Int) ≤ i then items[(items.length + i).toNat]?
  else none

/-- The largest number of items that can be counted. -/
def maxItems : Nat := 9223372036854775807

/-- The integer at a position of a range, counted from the end when negative. A range that is too long
to be counted has no positions. -/
def rangeAt? (start stop step i : Int) : Except Failure (Option Value) :=
  let n := rangeLength start stop step
  let position := if i < 0 then n + i else i
  if maxItems < n then .error .tooManyItems
  else if 0 ≤ position ∧ position < n then .ok (some (int (start + position * step)))
  else .ok none

/-- Whether a value can be called; a field that can be called is not shown. -/
def isCallable : Value → Bool
  | function _ => true
  | _ => false

/-- The fields of a value: those that a record was given, and those that tell of a function and of a
stream. A stream is emptied as soon as it is walked, so none is ever found running, halted on the way or
waiting for another. -/
def fields : Value → List (Text × Value)
  | record given => given
  | function f =>
    [("__name__".text, text f.label.text), ("__qualname__".text, text f.label.text),
      ("__module__".text, text "builtins".text),
      ("__text_signature__".text, text f.signature.text)]
  | stream _ =>
    [("gi_running".text, bool false), ("gi_suspended".text, bool false),
      ("gi_yieldfrom".text, null)]
  | _ => []

/-- The field that a segment names, where the segment is an identifier and the field is no function. -/
def fieldAt? (fields : List (Text × Value)) (segment : Text) : Option Value := do
  guard segment.isIdentifier
  let (_, v) ← fields.find? fun (name, _) => name == segment
  guard !v.isCallable
  return v

/-- The part of a value that a path segment leads to, if there is one. -/
def child? (v : Value) (segment : Text) : Except Failure (Option Value) :=
  match v with
  | map entries =>
    .ok ((valueAt? (text segment) entries).or
      ((Text.readInteger? segment).bind fun i => valueAt? (int i) entries))
  | list items | tuple items => .ok ((Text.readInteger? segment).bind (itemAt? items))
  | byteArray bs =>
    .ok ((Text.readInteger? segment).bind (itemAt? (bs.map fun b => int b.toNat)))
  | range start stop step =>
    match Text.readInteger? segment with
    | some i => rangeAt? start stop step i
    | none => .ok none
  | _ => .ok (fieldAt? v.fields segment)

/-- The value at the end of a path, if every segment leads somewhere. -/
def walk? (v : Value) : List Text → Except Failure (Option Value)
  | [] => .ok (some v)
  | segment :: rest =>
    match v.child? segment with
    | .ok (some child) => walk? child rest
    | .ok none => .ok none
    | .error f => .error f

theorem walk?_append (v : Value) (path path' : List Text) :
    v.walk? (path ++ path') =
      match v.walk? path with
      | .ok (some w) => w.walk? path'
      | .ok none => .ok none
      | .error f => .error f := by
  induction path generalizing v with
  | nil => rfl
  | cons segment rest ih =>
    simp only [List.cons_append, walk?]
    rcases v.child? segment with f | _ | child
    · rfl
    · rfl
    · exact ih child

/-- The remaining elements of every stream. -/
abbrev Streams := List (List Value)

/-- The elements under their positions. -/
def enumerated (items : List Value) : List (Value × Value) :=
  items.zipIdx.map fun (v, i) => (int i, v)

/-- The pairs that a loop over a value walks, if it can be walked. -/
def pairs? (streams : Streams) : Value → Option (List (Value × Value))
  | map entries => some entries
  | list items | tuple items | set items => some (enumerated items)
  | range start stop step => some (enumerated (rangeItems start stop step))
  | stream id => some (enumerated (streams[id]?.getD []))
  | _ => none

/-- The streams after a value has been walked: a stream is empty then. -/
def drained (streams : Streams) : Value → Streams
  | stream id => streams.set id []
  | _ => streams

end TextTemplate.Value
