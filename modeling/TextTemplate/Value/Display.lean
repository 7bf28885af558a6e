import TextTemplate.Failure
import TextTemplate.Number.Format
import TextTemplate.Text.Quoted
import TextTemplate.Value.Basic

/-!
# The text of a value

`Value.literal?` writes a value as it stands inside a container, `Value.plain?` as it stands alone,
where a text has no quotes. `Value.display` is what a substitution puts into the output: nothing for
null and false, and `1` for true. All three fail on integers with too many digits, and on nothing
else.
-/

namespace TextTemplate.Value

/-- Items between brackets, separated by commas. -/
def bracketed (left right : String) (items : List Text) : Text :=
  left ++ Text.intercalate [',', ' '] items ++ right

/-- The text of a tuple; a single item is followed by a comma. -/
def tupleText : List Text → Text
  | [item] => .char '(' :: item ++ [.char ',', .char ')']
  | items => bracketed "(" ")" items

/-- The text of a set; the empty one has no braces. -/
def setText : List Text → Text
  | [] => "set()".text
  | items => .char '{' :: Text.intercalate [',', ' '] items ++ [.char '}']

/-- The text of a range; a step of one is left out. -/
def rangeText? (start stop step : Int) : Option Text := do
  let bounds := if step = 1 then [start, stop] else [start, stop, step]
  return bracketed "range(" ")" (← bounds.mapM Text.writeInteger?)

mutual
def literal? : Value → Option Text
  | null => some "None".text
  | bool b => some (if b then "True" else "False" : String)
  | int n => Text.writeInteger? n
  | float x => some (NumberFormat.plain.write x)
  | text t => some t.quoted
  | bytes bs => some ('b' :: Text.quotedBytes bs)
  | byteArray bs => some (bracketed "bytearray(b" ")" [Text.quotedByteArray bs])
  | list items => (literals? items).map (bracketed "[" "]")
  | tuple items => (literals? items).map tupleText
  | range start stop step => rangeText? start stop step
  | set items => (literals? items).map setText
  | map entries => (entryLiterals? entries).map (bracketed "\x7b" "\x7d")
  | record fields => (fieldLiterals? fields).map (bracketed "namespace(" ")")
  | stream _ => some "<generator object>".text
  | function f => some s!"<built-in function {f.label}>"

def literals? : List Value → Option (List Text)
  | [] => some []
  | v :: rest => do return (← literal? v) :: (← literals? rest)

/-- The text of an entry: its key and its value. -/
def entryLiteral? : Value × Value → Option Text
  | (k, v) => do return (← literal? k) ++ .char ':' :: .char ' ' :: (← literal? v)

def entryLiterals? : List (Value × Value) → Option (List Text)
  | [] => some []
  | e :: rest => do return (← entryLiteral? e) :: (← entryLiterals? rest)

/-- The text of a field: its name and its value. -/
def fieldLiteral? : Text × Value → Option Text
  | (name, v) => do return name ++ .char '=' :: (← literal? v)

/-- The texts of the fields of a record. A field without a name is left out. -/
def fieldLiterals? : List (Text × Value) → Option (List Text)
  | [] => some []
  | f :: rest => do
    if f.1.isEmpty then fieldLiterals? rest
    else return (← fieldLiteral? f) :: (← fieldLiterals? rest)
end

def plain? : Value → Option Text
  | text t => some t
  | v => literal? v

def display : Value → Except Failure Text
  | null | bool false => .ok []
  | bool true => .ok ['1']
  | v =>
    match plain? v with
    | some t => .ok t
    | none => .error .tooManyDigits

@[simp] theorem display_text (t : Text) : display (text t) = .ok t := rfl

end TextTemplate.Value
