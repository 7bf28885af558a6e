import TextTemplate.CommandLine.Box

/-!
# Help

The help of a command is a marked-up text, shown in a panel. The help of the whole program lists its
commands and options.
-/

namespace TextTemplate.CommandLine

/-- What the help of a command says. -/
structure Help where
  description : Text
  usage : Text
  /-- The arguments and options, each with its description. -/
  entries : List (Text × Text)

namespace Help

def styled (style : String) (t : Text) : Text :=
  s!"[{style}]" ++ t ++ s!"[/{style}]"

/-- The lines on the arguments, under their heading; nothing where there are none. -/
def entryLines (entries : List (Text × Text)) : Text :=
  if entries.isEmpty then []
  else
    styled "bold yellow" "Arguments:".text ++ [.char '\n'] ++
      entries.flatMap fun (name, description) =>
        "    ".text ++ styled "green" name ++ ": ".text ++ description ++ [.char '\n']

def markup (h : Help) : Text :=
  styled "bold cyan" h.description ++ "\n\n".text ++ styled "bold yellow" "Usage:".text ++
    "\n    ".text ++ styled "green" h.usage ++ "\n\n".text ++ entryLines h.entries

def panel (h : Help) : Text :=
  Box.panel (Console.shown h.markup)

/-- The help of the command that renders a template. -/
def ofRender : Help where
  description := "Expand a template file against JSON data.".text
  usage := "penknife render TEMPLATE [--data FILE] [--set KEY=VALUE]...".text
  entries :=
    [("TEMPLATE", "Template file, or - for stdin."),
      ("--data, -d", "JSON object file supplying values."),
      ("--set, -s", "Top-level KEY=VALUE, overrides --data. Repeatable."),
      ("--token, -t", "Marker override NAME=VALUE. Repeatable."),
      ("--tokens", "JSON file of marker overrides."),
      ("--strict", "Fail on values missing from the data."),
      ("--output, -o", "Output file (default stdout).")].map fun (n, d) => (n.text, d.text)

/-- The help of the command that shows the markers. -/
def ofTokens : Help where
  description := "Show the effective marker literals.".text
  usage := "penknife tokens [--tokens FILE]".text
  entries := [("--tokens".text, "JSON file of marker overrides.".text)]

def ofProgram : Text :=
  ("Usage: penknife [OPTIONS] COMMAND [ARGS]...\n\n" ++
    "Penknife Templates\n\n    Expand small nested templates from the shell.\n\n" ++
    "Available Commands:\n- render: Expand a template\n- tokens: Show marker configuration\n\n" ++
    "Options:\n- --version: Show the version and exit.\n" ++
    "- --help: Show this message and exit.\n").text

end Help

end TextTemplate.CommandLine
