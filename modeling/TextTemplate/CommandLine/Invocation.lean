import TextTemplate.CommandLine.ControlSequence
import TextTemplate.CommandLine.Help
import TextTemplate.CommandLine.Message
import TextTemplate.CommandLine.Options
import TextTemplate.Settings
import TextTemplate.Source.Assignment
import TextTemplate.Source.Basic

/-!
# Calls of the program

A call depends on its words, the standard input, the settings and the files. A command reads files
through a function and writes nothing itself: its response holds the text for either output, the exit
status, and the file to be written, if any. A command that stops early has nothing to be written.
-/

namespace TextTemplate.CommandLine

/-- A call of the program. -/
structure Invocation where
  args : List Text
  stdin : Text
  settings : Settings
  userFile : Text
  find : Text → Entry

/-- A failure that no command reports by itself. -/
inductive Uncaught where
  | source (error : SourceError)
  | unreadable (fault : Utf8Fault)
  | failure (failure : Failure)
  /-- What is to be written cannot be encoded. -/
  | unencodable (fault : EncodingFault)
  /-- What is to be printed on a console cannot be encoded. -/
  | unprintable (fault : EncodingFault)

/-- The wording of a failure that no command reports. -/
def Uncaught.message : Uncaught → Text
  | source error => error.message
  | unreadable fault => fault.message
  | failure f => f.message
  | unencodable fault => fault.message
  | unprintable fault =>
    fault.message ++ "\n*** You may need to add PYTHONIOENCODING=utf-8 to your environment ***"

/-- What a call of the program comes to. -/
structure Response where
  exit : Nat
  stdout : Text := []
  stderr : Text := []
  /-- The path and the content of the file to be written. -/
  written : Option (Text × Text) := none
  uncaught : Option Uncaught := none

/-- The places at which usage is explained. -/
inductive Place where
  | program
  | render
  | tokens
  deriving DecidableEq, Repr

def Place.path : Place → String
  | program => "penknife"
  | render => "penknife render"
  | tokens => "penknife tokens"

def Place.synopsis : Place → String
  | program => "[OPTIONS] COMMAND [ARGS]..."
  | render => "[OPTIONS] TEMPLATE"
  | tokens => "[OPTIONS]"

/-- Why a command stops early. -/
inductive Stop where
  | usage (place : Place) (fault : UsageFault)
  | failed (message : Text)
  | unwritable (path : Text) (obstacle : Obstacle)
  | uncaught (failure : Uncaught)

/-- How the words of a place are used, and where to find help. -/
def Place.usage (place : Place) : String :=
  s!"Usage: {place.path} {place.synopsis}\nTry '{place.path} --help' for help.\n\n"

/-- The explanation of a mistake in the words of a command. -/
def usageText (place : Place) (fault : UsageFault) : Text :=
  (if fault.showsUsage then place.usage else "") ++ "Error: " ++ fault.message ++ "\n"

/-- What is left of a text where it is written for errors: escapes stand for what cannot be encoded. -/
def errorOutput (t : Text) : Text :=
  (ControlSequence.strip t).backslashed

/-- A text printed on the console, with an exit status. -/
def Response.printing (exit : Nat) (printed : Except Failure Text) : Response :=
  match printed with
  | .error f => { exit := 1, uncaught := some (.failure f) }
  | .ok text =>
    match text.encodingFault? with
    | some fault => { exit := 1, uncaught := some (.unprintable fault) }
    | none => { exit := exit, stdout := text }

def Stop.response : Stop → Response
  | usage place fault => { exit := 2, stderr := errorOutput (usageText place fault) }
  | failed message =>
    .printing 1 (Message.print ("[bold red]Error:[/bold red] " ++ Markup.escape message))
  | unwritable path obstacle =>
    let message := "Error: Could not open file " ++ (Path.shown path).quoted ++ s!": {obstacle.reason}\n"
    { exit := 1, stderr := errorOutput message }
  | uncaught failure => { exit := 1, uncaught := some failure }

/-- The complaint about a path where a file is expected. -/
def pathComplaint (path : Text) (what : String) : Text :=
  "File " ++ (Path.shown path).quoted ++ " " ++ what

/-- What is wrong with the path that an option gives. A path with a null character is no path. -/
def pathStop? (place : Place) (parameter : String) (mustExist : Bool) (path : Text) :
    Entry → Option Stop
  | .ok _ => none
  | .error .nullCharacter => some (.uncaught (.source (.unopened .nullCharacter path)))
  | .error .directory =>
    some (.usage place (.invalidValue parameter (pathComplaint path "is a directory.")))
  | .error _ =>
    if mustExist then
      some (.usage place (.invalidValue parameter (pathComplaint path "does not exist.")))
    else none

/-- The work of a command: it leaves notes, and may stop early. -/
abbrev Work := ExceptT Stop (StateM (Array Note))

namespace Work

def notes (ns : List Note) : Work Unit :=
  modify (· ++ ns.toArray)

/-- Go on with what was loaded from a source. -/
def loaded {α : Type} (r : Except SourceError α) : Work α :=
  match r with
  | .ok a => return a
  | .error e =>
    if e.isOwn then throw (.failed e.message) else throw (.uncaught (.source e))

/-- Go on with the assignments that the values of an option write. -/
def assigned (option : String) (items : List Text) : Work (List (Text × Text)) :=
  match Assignment.ofItems items with
  | .ok assignments => return assignments
  | .error item =>
    throw (.usage .render (.invalidValue option (Assignment.complaint item)))

end Work

/-- The file of marker overrides: the one that is named, the one of the settings, or the user's. -/
def overridePath (inv : Invocation) (named? : Option Text) : Text :=
  (named?.map Path.normal).getD (inv.settings.tokensFile.getD inv.userFile)

def loadMarkers (inv : Invocation) (named? : Option Text) : Work Markers := do
  let path := overridePath inv named?
  let (loaded, notes) := Source.markers path (inv.find path)
  Work.notes notes
  Work.loaded loaded

end TextTemplate.CommandLine
