import TextTemplate.CommandLine.Program

/-!
# The program

Gathers what a call of the program depends on, asks for the response to it, and delivers that.
-/

namespace TextTemplate.CommandLine

def settingVariables : List String :=
  ["PNK_BEQUIET", "PNK_MAX_DEPTH", "PNK_STRICT", "PNK_TOKENS_FILE"]

/-- The setting variables that are set, with their values. -/
def readEnvironment : IO (List (Text × Text)) :=
  settingVariables.filterMapM fun name => do
    return (← IO.getEnv name).map fun value => (name.text, value.text)

/-- Where the marker overrides of the user are kept. -/
def readUserFile : IO Text := do
  let home := (← IO.getEnv "HOME").getD ""
  let config := (← IO.getEnv "XDG_CONFIG_HOME").getD (home ++ "/.config")
  return (config ++ "/penknife/tokens.json").text

/-- The obstacle that a failure to read a file reports; one that is not told apart counts as the file
not being there. -/
def obstacleOf : IO.Error → Obstacle
  | .inappropriateType _ code _ =>
    if code.toNat = Obstacle.directory.code then .directory else .notDirectory
  | .invalidArgument (some _) code _ =>
    if code.toNat = Obstacle.nameTooLong.code then .nameTooLong else .missing
  | _ => .missing

/-- The characters of a text. What is written, and what names a file that is opened here, has no others. -/
def stringOf (t : Text) : String :=
  .ofList (t.filterMap CodePoint.char?)

def readEntry (path : Text) : IO Entry := do
  try
    return .ok (← IO.FS.readBinFile (stringOf path)).toList
  catch error => return .error (obstacleOf error)

def readEntries (paths : List Text) : IO (Text → Entry) := do
  let found ← paths.mapM fun path => return (path, ← readEntry path)
  return fun path => (found.lookup path).getD (.error .missing)

/-- The standard input, where some word stands for it. -/
def readInput (words : List Text) : IO (Except Utf8Fault Text) := do
  if words.contains standardName then
    return (Text.decodeUtf8 (← (← IO.getStdin).readBinToEnd).toList).map .ofChars
  else return .ok []

def Response.deliver (r : Response) : IO UInt32 := do
  IO.print (stringOf r.stdout)
  IO.eprint (stringOf r.stderr)
  if let some failure := r.uncaught then IO.eprintln (stringOf failure.message.backslashed)
  if let some (path, content) := r.written then
    IO.FS.writeFile (stringOf path) (stringOf content)
  return r.exit.toUInt32

def runWith (settings : Settings) (words : List Text) : IO UInt32 := do
  let userFile ← readUserFile
  match ← readInput words with
  | .error fault => (Stop.uncaught (.unreadable fault)).response.deliver
  | .ok stdin =>
    let find ← readEntries (consultedPaths settings userFile words)
    let (response, notes) := respond { args := words, stdin, settings, userFile, find }
    unless settings.quiet do
      for n in notes do
        IO.eprintln (stringOf n.message.backslashed)
    response.deliver

end TextTemplate.CommandLine

open TextTemplate in
/-- The program: its words are the arguments of the command line. -/
def main (args : List String) : IO UInt32 := do
  match Settings.ofEnvironment (← CommandLine.readEnvironment) with
  | .error faults =>
    for fault in faults do
      IO.eprintln fault.message
    return 1
  | .ok settings => CommandLine.runWith settings (args.map String.text)
