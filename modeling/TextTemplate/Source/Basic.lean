import TextTemplate.Json.Reader
import TextTemplate.Markers.Override
import TextTemplate.Note
import TextTemplate.Source.FileTree

/-!
# Source files

Marker overrides and data are kept in files that hold a JSON object. A file is read as UTF-8, its
line ends are unified, and its text is read as JSON; whatever goes wrong on the way has a cause of
its own.
-/

namespace TextTemplate

/-- The two uses of a source file. -/
inductive SourceRole where
  | markers
  | data
  deriving DecidableEq, Repr

def SourceRole.label : SourceRole → String
  | markers => "Token file"
  | data => "Data file"

/-- Why nothing was loaded from a source file. -/
inductive SourceError where
  | unopened (obstacle : Obstacle) (path : Text)
  | notUnicode (fault : Utf8Fault)
  | tooManyDigits (count : Nat)
  | malformed (role : SourceRole) (path reason : Text)
  | notAnObject (role : SourceRole) (path : Text)
  | markers (error : MarkerError)

/-- A byte in hexadecimal, as messages show it. -/
def byteText (b : UInt8) : Text :=
  "0x" ++ Text.hex 2 b.toNat

def Utf8Fault.message (f : Utf8Fault) : Text :=
  let whereabouts : Text :=
    if f.stop = f.start + 1 then "byte " ++ byteText f.byte ++ " in position " ++ toString f.start
    else s!"bytes in position {f.start}-{f.stop - 1}"
  "'utf-8' codec can't decode " ++ whereabouts ++ ": " ++ f.reason.message

def EncodingFault.message (f : EncodingFault) : Text :=
  let whereabouts : Text :=
    if f.stop = f.start + 1 then
      "character '" ++ Text.codeEscape f.first ++ "' in position " ++ toString f.start
    else s!"characters in position {f.start}-{f.stop - 1}"
  "'utf-8' codec can't encode " ++ whereabouts ++ ": surrogates not allowed"

namespace SourceError

def message : SourceError → Text
  | unopened .nullCharacter _ => Obstacle.nullCharacter.reason
  | unopened obstacle path =>
    s!"[Errno {obstacle.code}] {obstacle.reason}: " ++ path.quoted
  | notUnicode fault => fault.message
  | tooManyDigits count =>
    "Exceeds the limit (4300 digits) for integer string conversion: " ++
      s!"value has {count} digits; use sys.set_int_max_str_digits() to increase the limit"
  | malformed role path reason =>
    role.label ++ " " ++ path ++ " is not valid JSON: " ++ reason
  | notAnObject role path => role.label ++ " " ++ path ++ " must hold a JSON object"
  | markers error => error.message

/-- Whether a cause is one of those that are reported to the user as they are. -/
def isOwn : SourceError → Bool
  | malformed .. | notAnObject .. | markers _ => true
  | unopened .. | notUnicode _ | tooManyDigits _ => false

end SourceError

namespace Source

def text (bytes : List UInt8) : Except Utf8Fault Text :=
  (Text.decodeUtf8 bytes).map fun cs => Text.unifyLineEnds (.ofChars cs)

/-- The members of the object that a file holds. -/
def members (role : SourceRole) (path : Text) (bytes : List UInt8) :
    Except SourceError (List (Value × Value)) :=
  match text bytes with
  | .error fault => .error (.notUnicode fault)
  | .ok input =>
    match Json.read input with
    | .error (.tooManyDigits count) => .error (.tooManyDigits count)
    | .error (.malformed expected left) =>
      .error (.malformed role path (Json.malformedMessage input expected left))
    | .ok (.map members) => .ok members
    | .ok _ => .error (.notAnObject role path)

/-- Whether a source file counts as not being there at all. -/
def isAbsent : Obstacle → Bool
  | .missing | .notDirectory | .nullCharacter => true
  | .directory | .nameTooLong => false

/-- The markers that a file describes, laid over the defaults; without the file, the defaults. -/
def markers (path : Text) : Entry → Except SourceError Markers × List Note
  | .error obstacle =>
    if isAbsent obstacle then (.ok Markers.default, [.noOverrideFile path])
    else (.error (.unopened obstacle path), [])
  | .ok bytes =>
    match members .markers path bytes with
    | .error error => (.error error, [])
    | .ok batch =>
      ((Markers.default.override batch).mapError .markers,
        [.overridesLoaded batch.length path])

/-- The data that a file holds, where there is one, with some top-level values replaced. -/
def data (file? : Option (Text × Entry)) (assignments : List (Text × Text)) :
    Except SourceError (List (Value × Value)) := do
  let loaded ←
    match file? with
    | none => .ok []
    | some (path, .error obstacle) => .error (.unopened obstacle path)
    | some (path, .ok bytes) => members .data path bytes
  return assignments.foldl
    (fun m (name, value) => Value.insertEntry (.text name) (.text value) m) loaded

end Source

end TextTemplate
