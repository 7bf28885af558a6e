import TextTemplate.Markers.Basic
import TextTemplate.Text.Utf8
import TextTemplate.Value.Display

/-!
# Replacing markers

Markers are replaced in batches, and a batch is checked as a whole before any of it is applied: every
name must be one of the nine, and every value a non-empty text, or bytes that encode one. A mapping
can also be validated field by field; there the two names that are reserved words elsewhere may be
written with an underscore, and faults are listed one by one.
-/

namespace TextTemplate

/-- Why a value is no marker. -/
inductive LiteralFault where
  | notText
  | notUnicode
  | empty
  deriving DecidableEq, Repr

/-- The marker of a text. -/
def Marker.ofText (t : Text) : Except LiteralFault Marker :=
  match Marker.ofText? t with
  | some marker => .ok marker
  | none => .error .empty

/-- The marker that a value writes. -/
def Marker.ofValue (v : Value) : Except LiteralFault Marker :=
  match v with
  | .text t => Marker.ofText t
  | .bytes bs | .byteArray bs =>
    match Text.decodeUtf8 bs with
    | .ok cs => Marker.ofText (.ofChars cs)
    | .error _ => .error .notUnicode
  | _ => .error .notText

/-- Why a batch of replacements is refused. -/
inductive MarkerError where
  | unknownName (name : Text)
  /-- A name is no name of a marker and cannot be written either. -/
  | unwritableName (failure : Failure)
  | invalidValues (names : List MarkerName)

/-- The wording of a refusal. -/
def MarkerError.message : MarkerError → Text
  | unknownName name =>
    name ++ " is not a valid token name. Valid tokens are: " ++
      ", ".intercalate (MarkerName.all.map MarkerName.label)
  | unwritableName failure => failure.message
  | invalidValues names =>
    "Invalid value for token(s): " ++ ", ".intercalate (names.map MarkerName.label)

namespace MarkerName

/-- The name that a key writes. -/
def ofKey? : Value → Option MarkerName
  | .text t => ofLabel? t
  | _ => none

/-- The spelling that a mapping may use in place of a name. -/
def alternative : MarkerName → String
  | test => "if_"
  | otherwise => "else_"
  | n => n.label

end MarkerName

namespace Markers

/-- The configuration with a marker chosen for every name. -/
def tabulate (f : MarkerName → Marker) : Markers where
  opening := f .opening
  closing := f .closing
  test := f .test
  otherwise := f .otherwise
  ending := f .ending
  loop := f .loop
  index := f .index
  scope := f .scope
  args := f .args

@[simp] theorem get_tabulate (f : MarkerName → Marker) (n : MarkerName) :
    (tabulate f).get n = f n := by
  cases n <;> rfl

/-- A batch of replacements: keys and values, the last value of a key counting. -/
abbrev Batch := List (Value × Value)

namespace Batch

/-- The value that a batch gives to a marker. -/
def value? (batch : Batch) (n : MarkerName) : Option Value :=
  (batch.reverse.find? fun (key, _) => MarkerName.ofKey? key == some n).map (·.2)

/-- The first key of a batch that names no marker. -/
def unknown? (batch : Batch) : Option Value :=
  (batch.find? fun (key, _) => (MarkerName.ofKey? key).isNone).map (·.1)

/-- The markers whose new values are not acceptable. -/
def invalid (batch : Batch) : List MarkerName :=
  MarkerName.all.filter fun n =>
    match (batch.value? n).map Marker.ofValue with
    | some (.error _) => true
    | _ => false

end Batch

/-- The configuration after a batch has been laid over it, entry by entry. -/
def overlay (base : Markers) (batch : Batch) : Markers :=
  tabulate fun n =>
    match (batch.value? n).map Marker.ofValue with
    | some (.ok marker) => marker
    | _ => base.get n

/-- The refusal of a key that names no marker. -/
def refuseName (key : Value) : MarkerError :=
  match key.plain? with
  | some name => .unknownName name
  | none => .unwritableName .tooManyDigits

/-- Replace markers; a batch with a fault changes nothing. -/
def override (base : Markers) (batch : Batch) : Except MarkerError Markers :=
  match batch.unknown? with
  | some key => .error (refuseName key)
  | none =>
    if batch.invalid.isEmpty then .ok (base.overlay batch)
    else .error (.invalidValues batch.invalid)

/-- What is wrong with a field of a mapping. -/
inductive FieldReason where
  | literal (fault : LiteralFault)
  /-- The field names no marker. -/
  | unexpected
  /-- The key is no text. -/
  | invalidKey
  deriving DecidableEq, Repr

/-- A field of a mapping, and what is wrong with it. -/
structure FieldFault where
  field : Value
  reason : FieldReason

/-- How a field is named: a text as it is, a boolean as a number, any other key as a literal. -/
def FieldFault.name (f : FieldFault) : Text :=
  match f.field with
  | .text t => t
  | .bool b => if b then ['1'] else ['0']
  | key => key.literal?.getD s!"<unprintable {key.typeName} object>"

/-- The field that a mapping gives a marker by. -/
def field? (fields : List (Value × Value)) (n : MarkerName) : Option (String × Value) :=
  let under (spelling : String) :=
    (Value.valueAt? (.text spelling.text) fields).map fun v => (spelling, v)
  (under n.label).or (under n.alternative)

/-- The faults of the fields that give a marker, in the order of the markers. -/
def literalFaults (fields : List (Value × Value)) : List FieldFault :=
  MarkerName.all.filterMap fun n =>
    match field? fields n with
    | none => none
    | some (spelling, v) =>
      match Marker.ofValue v with
      | .ok _ => none
      | .error fault => some ⟨.text spelling.text, .literal fault⟩

/-- The fields that give no marker, in their order. -/
def unexpectedFields (fields : List (Value × Value)) : List FieldFault :=
  let used := MarkerName.all.filterMap fun n => (field? fields n).map (·.1.text)
  fields.filterMap fun (key, _) =>
    match key with
    | .text t => if used.contains t then none else some ⟨key, .unexpected⟩
    | _ => some ⟨key, .invalidKey⟩

/-- The configuration that a mapping describes, with the default markers where it is silent. -/
def validate (fields : List (Value × Value)) : Except (List FieldFault) Markers :=
  let faults := literalFaults fields ++ unexpectedFields fields
  if faults.isEmpty then
    .ok (tabulate fun n =>
      match (field? fields n).map (Marker.ofValue ·.2) with
      | some (.ok marker) => marker
      | _ => default.get n)
  else .error faults

end Markers

end TextTemplate
