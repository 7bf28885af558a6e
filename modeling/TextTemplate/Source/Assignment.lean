import TextTemplate.Text.Quoted
import TextTemplate.Text.Split

/-!
# Assignments

An assignment is written `NAME=VALUE`. The name is trimmed and the value is not; what is assigned
twice keeps its first place and its last value. An item without an equals sign, or with nothing before
it, is no assignment.
-/

namespace TextTemplate

namespace Assignment

def ofItem? (item : Text) : Option (Text × Text) :=
  match item.cut? Marker.equalsSign with
  | some (name, value) => if name.isEmpty then none else some (name.trim, value)
  | none => none

/-- Assign a value to a name. A name that is there already keeps its place. -/
def insert (name value : Text) : List (Text × Text) → List (Text × Text)
  | [] => [(name, value)]
  | (n, v) :: rest => if n = name then (n, value) :: rest else (n, v) :: insert name value rest

/-- Assign the values of items one after another, up to the first that is no assignment. -/
def addAll (assigned : List (Text × Text)) : List Text → Except Text (List (Text × Text))
  | [] => .ok assigned
  | item :: rest =>
    match ofItem? item with
    | none => .error item
    | some (name, value) => addAll (insert name value assigned) rest

/-- The assignments that items write, or the first item that is none. -/
def ofItems (items : List Text) : Except Text (List (Text × Text)) :=
  addAll [] items

/-- The complaint about an item that is no assignment. -/
def complaint (item : Text) : Text :=
  "expected NAME=VALUE, got " ++ item.quoted

end Assignment

end TextTemplate
