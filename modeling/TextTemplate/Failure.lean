import TextTemplate.Text.Basic

/-!
# Failures

Why a rendering stops. Each cause is a constructor; `Failure.message` words it, and `Failure.kind`
says to which family it belongs.
-/

namespace TextTemplate

/-- The kinds of block. -/
inductive Construct where
  | conditional
  | loop
  /-- A kind known by its name alone. -/
  | named (name : String)
  deriving DecidableEq, Repr

/-- The name of a kind of block in messages. -/
def Construct.label : Construct → String
  | .conditional => "if"
  | .loop => "loop"
  | .named name => name

/-- The cause of a failed rendering. -/
inductive Failure where
  /-- A close marker stands before any open marker. -/
  | unmatchedClose (line : Nat)
  /-- An open marker has no close marker; `start` is the beginning of the command. -/
  | unclosedCommand (line : Nat) (start text : Text)
  /-- A second close marker follows the one that ended a command. -/
  | unexpectedClose (line : Nat) (text : Text)
  /-- A block has no end command. -/
  | unterminated (construct : Construct) (text : Text) (line : Nat)
  /-- A block body lies deeper than the nesting limit. -/
  | tooDeep (limit : Int) (text : Text) (line : Nat)
  /-- A loop target has no elements to walk. -/
  | notIterable (expression : Text) (typeName : String)
  /-- A strict resolver found nothing at a path. -/
  | unresolved (path : Text)
  /-- An integer has too many digits to be written. -/
  | tooManyDigits
  /-- A separator is empty. -/
  | emptySeparator
  /-- A range of integers is too long for its items to be counted. -/
  | tooManyItems
  /-- A range reaches past the end of the token list, or a text ends before it can be cut. -/
  | outOfRange
  /-- A text is to be cut in proportion to its cells, and has none. -/
  | divisionByZero
  /-- What should be a resolver is none. -/
  | notAResolver (typeName : String)
  /-- What should be called cannot be. -/
  | notCallable (typeName : String)
  /-- A value cannot be the key of a mapping. -/
  | unfitKey (typeName : String)
  /-- The resolver of the caller failed for a reason of its own. -/
  | raised (kind : String) (message : Text)
  deriving DecidableEq, Repr

namespace Failure

/-- The families of failures. -/
inductive Kind where
  /-- The template is not well formed. -/
  | structural
  /-- A loop target cannot be walked. -/
  | loopTarget
  /-- A strict resolver found no value. -/
  | unresolved
  /-- A value cannot be used as asked. -/
  | value
  /-- A value is of the wrong type. -/
  | type
  /-- A position does not exist. -/
  | position
  /-- A number is too large to be counted with. -/
  | overflow
  /-- A quotient does not exist. -/
  | quotient
  /-- A failure of the caller's resolver, under its own name. -/
  | foreign (name : String)
  deriving DecidableEq, Repr

/-- The family of a failure. -/
def kind : Failure → Kind
  | unmatchedClose _ | unclosedCommand .. | unexpectedClose .. | unterminated .. | tooDeep .. =>
    .structural
  | notIterable .. => .loopTarget
  | unresolved _ => .unresolved
  | tooManyDigits | emptySeparator => .value
  | notAResolver _ | notCallable _ | unfitKey _ => .type
  | outOfRange => .position
  | tooManyItems => .overflow
  | divisionByZero => .quotient
  | raised name _ => .foreign name

/-- Whether a failure is the template's or the data's own, and not one of the caller's code. -/
def isOwn (f : Failure) : Bool :=
  match f.kind with
  | .structural | .loopTarget | .unresolved => true
  | .value | .type | .position | .overflow | .quotient | .foreign _ => false

/-- The command text that a structural failure complains about, where there is one. -/
def text? : Failure → Option Text
  | unclosedCommand _ _ text | unexpectedClose _ text | unterminated _ text _ | tooDeep _ text _ =>
    some text
  | _ => none

/-- The source line that a structural failure names. -/
def line? : Failure → Option Nat
  | unmatchedClose line | unclosedCommand line .. | unexpectedClose line _
  | unterminated _ _ line | tooDeep _ _ line => some line
  | _ => none

/-- The expression whose value could not be walked. -/
def expression? : Failure → Option Text
  | notIterable expression _ => some expression
  | _ => none

/-- The wording of a failure. -/
def message : Failure → Text
  | unmatchedClose line => "Unmatched closing token on or after line " ++ toString line
  | unclosedCommand line start _ =>
    "Unclosed command on or after line " ++ toString line ++ ": " ++ start
  | unexpectedClose line _ => "Unexpected closing token on or after line " ++ toString line
  | unterminated construct text line =>
    "Unterminated " ++ construct.label ++ ": " ++ text ++ " starting on or after line " ++ toString line
  | tooDeep limit text line =>
    "Blocks nested deeper than " ++ toString limit ++ " levels at " ++ text ++ " on or after line " ++
      toString line
  | notIterable expression typeName =>
    "Loop variable " ++ expression ++ " is not an array (resolved to " ++ typeName ++ ")."
  | unresolved path => "Unresolved template value: " ++ path
  | tooManyDigits =>
    "Exceeds the limit (4300 digits) for integer string conversion; " ++
      "use sys.set_int_max_str_digits() to increase the limit"
  | emptySeparator => "empty separator"
  | tooManyItems => "Python int too large to convert to C ssize_t"
  | outOfRange => "list index out of range"
  | divisionByZero => "division by zero"
  | notAResolver typeName => s!"resolver must be callable or provide resolve(), not {typeName}"
  | notCallable typeName => s!"'{typeName}' object is not callable"
  | unfitKey typeName => s!"unhashable type: '{typeName}'"
  | raised _ message => message

end Failure

end TextTemplate
