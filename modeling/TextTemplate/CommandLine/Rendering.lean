import TextTemplate.CommandLine.Invocation

/-!
# Rendering a template

The command that renders a template over data, and delivers the text to a file or the standard output.
A command that stops before the delivery writes nothing. The delivery itself can break off, when a file has
been opened for a text that cannot be encoded.
-/

namespace TextTemplate.CommandLine

/-- The options of the command that renders a template. -/
inductive RenderOption where
  | data
  | set
  | token
  | tokens
  | strict
  | lenient
  | output
  | help
  deriving DecidableEq

def renderOptions : List (OptionSpec RenderOption) :=
  [⟨.data, ["--data".text, "-d".text], true⟩, ⟨.set, ["--set".text, "-s".text], true⟩,
    ⟨.token, ["--token".text, "-t".text], true⟩, ⟨.tokens, ["--tokens".text], true⟩,
    ⟨.strict, ["--strict".text], false⟩, ⟨.lenient, ["--lenient".text], false⟩,
    ⟨.output, ["--output".text, "-o".text], true⟩, ⟨.help, ["--help".text], false⟩]

/-- The name that stands for the standard input and output. -/
def standardName : Text := ['-']

/-- What a rendering is asked to do. -/
structure RenderRequest where
  template : Text
  data? : Option Text
  assignments : List Text
  overrides : List Text
  tokens? : Option Text
  strict? : Option Bool
  output : Text
  deriving DecidableEq

/-- What is wrong with the value of an option. -/
def optionStop? (inv : Invocation) (parsed : Parsed RenderOption) (key : RenderOption) :
    Option Stop := do
  let value ← parsed.value? key
  match key with
  | .tokens => pathStop? .render "'--tokens'" false value (inv.find value)
  | .data => pathStop? .render "'--data' / '-d'" true value (inv.find value)
  | _ => none

/-- What is wrong with the name of a template. -/
def templateStop? (name : Text) : Entry → Option Stop
  | .ok _ => none
  | .error .nullCharacter => some (.uncaught (.source (.unopened .nullCharacter name)))
  | .error obstacle =>
    let complaint := "'" ++ Path.shown name ++ s!"': {obstacle.reason}"
    some (.usage .render (.invalidValue "'TEMPLATE'" complaint))

/-- The last of two opposite switches that is given. -/
def strictness? (parsed : Parsed RenderOption) : Option Bool :=
  ((parsed.options.map (·.1)).reverse.find? fun key => key == .strict || key == .lenient).map
    (· == .strict)

/-- The request that the words of a command make. The options are checked in the order in which they
are first given, then the template, then the number of arguments. -/
def RenderRequest.ofParsed (inv : Invocation) (parsed : Parsed RenderOption) :
    Except Stop RenderRequest := do
  if let some stop := parsed.keys.findSome? (optionStop? inv parsed) then throw stop
  match parsed.arguments with
  | [] => throw (.usage .render (.missingArgument "TEMPLATE"))
  | template :: extra =>
    if template != standardName then
      if let some stop := templateStop? template (inv.find template) then throw stop
    if !extra.isEmpty then throw (.usage .render (.extraArguments extra))
    return {
      template := template
      data? := parsed.value? .data
      assignments := parsed.values .set
      overrides := parsed.values .token
      tokens? := parsed.value? .tokens
      strict? := strictness? parsed
      output := (parsed.value? .output).getD standardName }

def templateText (inv : Invocation) (name : Text) : Except Utf8Fault Text :=
  if name = standardName then .ok (Text.unifyLineEnds inv.stdin)
  else
    match inv.find name with
    | .ok bytes => Source.text bytes
    | .error _ => .ok []

/-- The markers of a rendering: the overrides of a file, then those of options. -/
def requestMarkers (inv : Invocation) (request : RenderRequest) : Work Markers := do
  let overrides ← Work.assigned "--token" request.overrides
  let base ← loadMarkers inv request.tokens?
  let batch : Markers.Batch := overrides.map fun (n, v) => (.text n, .text v)
  match base.override batch with
  | .ok markers => return markers
  | .error e => throw (.failed e.message)

def requestData (inv : Invocation) (request : RenderRequest) : Work Value := do
  let assignments ← Work.assigned "--set" request.assignments
  let file? := request.data?.map fun path => (Path.normal path, inv.find (Path.normal path))
  return .map (← Work.loaded (Source.data file? assignments))

def requestReport (inv : Invocation) (request : RenderRequest) (markers : Markers) (data : Value)
    (template : Text) : Work Report := do
  let engine : Engine := { markers := markers, maxDepth := inv.settings.maxDepth }
  let strict := request.strict?.getD inv.settings.strict
  let (outcome, notes) := engine.report data strict [] template
  Work.notes notes.toList
  match outcome with
  | .ok report => return report
  | .error f => throw (.uncaught (.failure f))

/-- What keeps a file from being opened for writing. The directory of its name has to be there, and
the name may be neither that of a directory nor followed by a slash. -/
def unwritable? (find : Text → Entry) (path : Text) : Option Obstacle :=
  match Path.obstacle? path, find (Path.parent path) with
  | some obstacle, _ => some obstacle
  | none, .ok _ => some .notDirectory
  | none, .error .directory =>
    if Path.endsInSlash path then some .directory
    else
      match find path with
      | .ok _ | .error .missing => none
      | .error obstacle => some obstacle
  | none, .error obstacle => some obstacle

/-- A text and nothing else goes to an output, and the command succeeds. -/
def Response.delivering (output text : Text) : Response :=
  if output = standardName then { exit := 0, stdout := text } else { exit := 0, written := some (output, text) }

/-- Nothing of a text goes to an output, and the command fails with what keeps the text from being encoded. A
file is open by then, and has lost what it held. -/
def Response.breakingOff (output text : Text) : Response :=
  { exit := 1
    written := if output = standardName then none else some (output, [])
    uncaught := text.encodingFault?.map .unencodable }

/-- Deliver a text to where a rendering is to go, less its control sequences. What is left is encoded when the
output is open. -/
def deliver (inv : Invocation) (output text : Text) : Work Response :=
  let obstacle? := if output = standardName then none else unwritable? inv.find output
  match obstacle? with
  | some .nullCharacter => throw (.uncaught (.source (.unopened .nullCharacter output)))
  | some obstacle => throw (.unwritable output obstacle)
  | none =>
    let left := ControlSequence.strip text
    return if left.encodingFault?.isNone then .delivering output left else .breakingOff output left

def RenderRequest.run (inv : Invocation) (request : RenderRequest) : Work Response := do
  let markers ← requestMarkers inv request
  let data ← requestData inv request
  match templateText inv request.template with
  | .error fault => throw (.uncaught (.unreadable fault))
  | .ok template =>
    let report ← requestReport inv request markers data template
    match report.error? with
    | some message => throw (.failed message)
    | none => deliver inv request.output report.text

def render (inv : Invocation) (args : List Text) : Work Response := do
  match parse renderOptions true args with
  | .error fault => throw (.usage .render fault)
  | .ok parsed =>
    if parsed.keys.contains .help then return { exit := 0, stdout := Help.ofRender.panel ++ [.char '\n'] }
    match RenderRequest.ofParsed inv parsed with
    | .error stop => throw stop
    | .ok request => request.run inv

end TextTemplate.CommandLine
