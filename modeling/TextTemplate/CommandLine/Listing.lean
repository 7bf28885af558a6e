import TextTemplate.CommandLine.Invocation

/-!
# Showing the markers

The command that shows the markers in effect takes them from a file of overrides and prints a table.
-/

namespace TextTemplate.CommandLine

/-- The options of the command that shows the markers. -/
inductive TokensOption where
  | tokens
  | help
  deriving DecidableEq

def tokensOptions : List (OptionSpec TokensOption) :=
  [⟨.tokens, ["--tokens".text], true⟩, ⟨.help, ["--help".text], false⟩]

def markerTable (m : Markers) : Except Failure Text :=
  Box.table "Penknife markers".text ["Name".text, "Literal".text]
    (m.entries.map fun (name, literal) =>
      [name.label, Console.shown (Markup.escape literal)])

def showTokens (inv : Invocation) (args : List Text) : Work Response := do
  let usage {α : Type} (fault : UsageFault) : Work α := throw (.usage .tokens fault)
  match parse tokensOptions true args with
  | .error fault => usage fault
  | .ok parsed =>
    if parsed.keys.contains .help then return { exit := 0, stdout := Help.ofTokens.panel ++ [.char '\n'] }
    let named? := parsed.value? .tokens
    let check (path : Text) := pathStop? .tokens "'--tokens'" false path (inv.find path)
    if let some stop := named?.bind check then throw stop
    if !parsed.arguments.isEmpty then usage (.extraArguments parsed.arguments)
    let markers ← loadMarkers inv named?
    return .printing 0 (markerTable markers)

end TextTemplate.CommandLine
