import TextTemplate.CommandLine.Listing
import TextTemplate.CommandLine.Rendering

/-!
# The program

The program answers its own options, or hands the rest of its words to one of two commands.
-/

namespace TextTemplate.CommandLine

/-- The options of the program itself. -/
inductive ProgramOption where
  | version
  | help
  deriving DecidableEq

def programOptions : List (OptionSpec ProgramOption) :=
  [⟨.version, ["--version".text], false⟩, ⟨.help, ["--help".text], false⟩]

def versionText : Text := "penknife, version 0.1.0\n".text

def command? (name : Text) : Option (Invocation → List Text → Work Response) :=
  if name = "render".text then some render
  else if name = "tokens".text then some showTokens
  else none

def commandNames : List Text :=
  ["render".text, "tokens".text]

/-- What the options of the program itself ask for: the first of them is answered. -/
def answered? (parsed : Parsed ProgramOption) : Option Response :=
  match parsed.keys with
  | .version :: _ => some { exit := 0, stdout := versionText }
  | .help :: _ => some { exit := 0, stdout := Help.ofProgram ++ [.char '\n'] }
  | [] => none

/-- Read the options of the program itself, answer them, or go on with the arguments. -/
def withOptions (words : List Text) (next : List Text → Work Response) : Work Response :=
  match parse programOptions false words with
  | .error fault => throw (.usage .program fault)
  | .ok parsed =>
    match answered? parsed with
    | some response => return response
    | none => next parsed.arguments

/-- Choose a command by the first argument. What names no command may still be an option. -/
def dispatch (inv : Invocation) : List Text → Work Response
  | [] => throw (.usage .program .missingCommand)
  | name :: args =>
    match command? name with
    | some command => command inv args
    | none =>
      withOptions (name :: args) fun _ =>
        throw (.usage .program (.noSuchCommand name (Text.similarTo name commandNames)))

/-- Run the program. Without any words it explains itself, which counts as a mistake. -/
def program (inv : Invocation) : Work Response :=
  if inv.args.isEmpty then return { exit := 2, stdout := Help.ofProgram, stderr := ['\n'] }
  else withOptions inv.args (dispatch inv)

/-- The response to a call of the program, and the notes it leaves. -/
def respond (inv : Invocation) : Response × Array Note :=
  match program inv #[] with
  | (.ok response, notes) => (response, notes)
  | (.error stop, notes) => (stop.response, notes)

/-- The paths that a word may name: itself, what follows an equals sign, and what follows a short
option. -/
def namedPaths (word : Text) : List Text :=
  [word, (word.dropWhile (· != .char '=')).tail, word.drop 2]

/-- The paths about which a call of the program may ask, under all the forms in which it asks. -/
def consultedPaths (settings : Settings) (userFile : Text) (words : List Text) : List Text :=
  let named := words.flatMap namedPaths ++ settings.tokensFile.toList ++ [userFile]
  named.flatMap fun path => [path, Path.normal path, Path.parent path]

def interrupted : Response :=
  { exit := 130, stderr := "\nInterrupted. Exiting.\n".text }

end TextTemplate.CommandLine
