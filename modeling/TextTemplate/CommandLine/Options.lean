import TextTemplate.Text.Quoted
import TextTemplate.Text.Similarity
import TextTemplate.Text.Split

/-!
# Options and arguments

The words of a command are options, which start with a dash, and arguments. A long option may carry
its value after an equals sign, a short one directly; else the value is the next word. Short options
without value may share a dash. Two dashes end the options.
-/

namespace TextTemplate.CommandLine

/-- An option that a command understands. -/
structure OptionSpec (κ : Type) where
  key : κ
  names : List Text
  takesValue : Bool

/-- A mistake in the words of a command. -/
inductive UsageFault where
  | noSuchOption (name : Text) (similar : List Text)
  | needsValue (option : Text)
  | takesNoValue (option : Text)
  | missingArgument (name : String)
  | invalidValue (parameter : String) (reason : Text)
  | extraArguments (arguments : List Text)
  | noSuchCommand (name : Text) (similar : List Text)
  | missingCommand
  deriving DecidableEq, Repr

/-- The hint at names that may have been meant, in alphabetical order. -/
def suggestion : List Text → Text
  | [] => []
  | [one] => " Did you mean " ++ one.quoted ++ "?"
  | several =>
    let names := Text.intercalate ", " ((several.mergeSort Text.notAfter).map Text.quoted)
    " (Did you mean one of: " ++ names ++ "?)"

def UsageFault.message : UsageFault → Text
  | noSuchOption name similar => "No such option " ++ name.quoted ++ "." ++ suggestion similar
  | needsValue option => "Option " ++ option.quoted ++ " requires an argument."
  | takesNoValue option => "Option " ++ option.quoted ++ " does not take a value."
  | missingArgument name => s!"Missing argument '{name}'."
  | invalidValue parameter reason => s!"Invalid value for {parameter}: " ++ reason
  | extraArguments arguments =>
    let noun := if arguments.length = 1 then "argument" else "arguments"
    s!"Got unexpected extra {noun} (" ++ Text.intercalate " " arguments ++ ")"
  | noSuchCommand name similar => "No such command " ++ name.quoted ++ "." ++ suggestion similar
  | missingCommand => "Missing command."

/-- Whether the usage of the command is shown along with a mistake. It is not where an option has a
value too few or too many. -/
def UsageFault.showsUsage : UsageFault → Bool
  | needsValue _ | takesNoValue _ => false
  | _ => true

/-- The words of a command, told apart. -/
structure Parsed (κ : Type) where
  /-- The options in order, each with its value. -/
  options : List (κ × Text)
  arguments : List Text

namespace Parsed

variable {κ : Type}

def withOptions (p : Parsed κ) (options : List (κ × Text)) : Parsed κ :=
  { p with options := options ++ p.options }

def withArgument (p : Parsed κ) (argument : Text) : Parsed κ :=
  { p with arguments := argument :: p.arguments }

/-- The values of an option, in order. -/
def values [BEq κ] (p : Parsed κ) (key : κ) : List Text :=
  (p.options.filter fun o => o.1 == key).map (·.2)

def value? [BEq κ] (p : Parsed κ) (key : κ) : Option Text :=
  (p.values key).getLast?

/-- The options that occur, in the order of their first occurrence. -/
def keys [BEq κ] (p : Parsed κ) : List κ :=
  (p.options.map (·.1)).eraseDups

end Parsed

section

variable {κ : Type} (specs : List (OptionSpec κ))

def isLong (name : Text) : Bool :=
  name.startsWith ['-', '-'] || name.length != 2

def spec? (name : Text) : Option (OptionSpec κ) :=
  specs.find? fun spec => spec.names.contains name

def longNames : List Text :=
  (specs.flatMap OptionSpec.names).filter isLong

/-- What one word comes to: options with their values, and the option that still needs the next word
for its value. -/
structure WordOptions (κ : Type) where
  options : List (κ × Text)
  pending? : Option (κ × Text)

/-- Read the letters of short options that share a dash. -/
def shortOptions : Text → Except UsageFault (WordOptions κ)
  | [] => .ok ⟨[], none⟩
  | letter :: rest =>
    let name : Text := ['-', letter]
    match spec? specs name with
    | none => .error (.noSuchOption name [])
    | some spec =>
      if spec.takesValue then
        if rest.isEmpty then .ok ⟨[], some (spec.key, name)⟩ else .ok ⟨[(spec.key, rest)], none⟩
      else
        (shortOptions rest).map fun more => { more with options := (spec.key, []) :: more.options }

/-- Read a long option, with the value that its word gives it. -/
def longOption (spec : OptionSpec κ) (name : Text) : Option Text → Except UsageFault (WordOptions κ)
  | some value =>
    if spec.takesValue then .ok ⟨[(spec.key, value)], none⟩ else .error (.takesNoValue name)
  | none =>
    if spec.takesValue then .ok ⟨[], some (spec.key, name)⟩ else .ok ⟨[(spec.key, [])], none⟩

def wordOptions (word : Text) : Except UsageFault (WordOptions κ) :=
  let (name, value?) :=
    match word.cut? Marker.equalsSign with
    | some (name, value) => (name, some value)
    | none => (word, none)
  match spec? specs name with
  | some spec => if isLong name then longOption spec name value? else shortOptions specs word.tail
  | none =>
    if word.startsWith ['-', '-'] then
      .error (.noSuchOption name (Text.similarTo name (longNames specs)))
    else shortOptions specs word.tail

/-- Whether a word holds options: it starts with a dash and is not the dash alone. -/
def holdsOptions (word : Text) : Bool :=
  word.startsWith ['-'] && word != "-".text

/-- Tell options and arguments apart. Where arguments may not be mixed with options, the first one
ends the options. -/
def parse (mixed : Bool) : List Text → Except UsageFault (Parsed κ)
  | [] => .ok ⟨[], []⟩
  | word :: rest =>
    if word = "--".text then .ok ⟨[], rest⟩
    else if holdsOptions word then
      match wordOptions specs word with
      | .error fault => .error fault
      | .ok ⟨options, none⟩ => (parse mixed rest).map (·.withOptions options)
      | .ok ⟨options, some (key, name)⟩ =>
        match rest with
        | [] => .error (.needsValue name)
        | value :: rest' => (parse mixed rest').map (·.withOptions (options ++ [(key, value)]))
    else if mixed then (parse mixed rest).map (·.withArgument word)
    else .ok ⟨[], word :: rest⟩

end

end TextTemplate.CommandLine
