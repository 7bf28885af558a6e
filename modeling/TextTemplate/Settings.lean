import TextTemplate.Engine.Basic
import TextTemplate.Source.Assignment
import TextTemplate.Source.Path
import TextTemplate.Text.LowerCase
import TextTemplate.Text.Numeral

/-!
# Settings

Settings are read from environment variables, whose names are compared without regard to case: whether
notes are shown, the nesting limit, whether missing data is a failure, and the file of marker
overrides.
-/

namespace TextTemplate

/-- The settings of the command line. -/
structure Settings where
  quiet : Bool := true
  maxDepth : Int := Engine.defaultMaxDepth
  /-- Whether data that is missing and has no default is a failure. -/
  strict : Bool := false
  tokensFile : Option Text := none
  deriving DecidableEq, Repr

/-- Why a setting cannot be read. -/
inductive SettingReason where
  | notBoolean
  | notInteger
  | tooLong
  deriving DecidableEq, Repr

/-- A setting that cannot be read. -/
structure SettingFault where
  setting : String
  reason : SettingReason
  deriving DecidableEq, Repr

def SettingReason.message : SettingReason → String
  | notBoolean => "not a truth value"
  | notInteger => "not an integer"
  | tooLong => "an integer with too many digits"

def SettingFault.message (f : SettingFault) : String :=
  s!"{f.setting}: {f.reason.message}"

namespace Settings

def trueWords : List String := ["1", "t", "y", "on", "yes", "true"]

def falseWords : List String := ["0", "f", "n", "no", "off", "false"]

/-- Whether a text is one of some words, in any case. -/
def isWord (words : List String) (t : Text) : Bool :=
  words.any fun word => word.text == t.map fun c => c.mapChar Char.toLower

def readSwitch (t : Text) : Except SettingReason Bool :=
  if isWord trueWords t then .ok true
  else if isWord falseWords t then .ok false
  else .error .notBoolean

/-- The integer that plain digits write, after a minus sign perhaps; no zero stands in front of other
digits. A numeral whose digits, with the sign, are too many is not read any further. -/
def readPlain (t : Text) : Except SettingReason Int :=
  let (negative, unsigned) :=
    match t with
    | '-' :: rest => (true, rest)
    | _ => (false, t)
  let digits := unsigned.takeWhile CodePoint.isDigit
  let length := digits.length + if negative then 1 else 0
  if digits.isEmpty || (digits.head? == some (.char '0') && 1 < digits.length) then .error .notInteger
  else if Text.maxDigits < length then .error .tooLong
  else if digits != unsigned then .error .notInteger
  else
    let n := Text.ofDigits (digits.map fun c => c.toNat - '0'.toNat)
    .ok (if negative then -n else n)

/-- Whether a numeral may start with a character, zeros apart. -/
def startsNumeral (c : CodePoint) : Bool :=
  c == .char '-' || (c != .char '0' && c.isDigit)

/-- What stays of a numeral after some zeros and underscores, the last of which is given: it stays
before a point, and at the end. -/
def afterZeros? (last : CodePoint) : Text → Option Text
  | [] => some [last]
  | c :: rest =>
    if c = '0' ∨ c = '_' then afterZeros? c rest
    else if c = '.' then some (last :: c :: rest)
    else if startsNumeral c then some (c :: rest)
    else none

/-- A numeral without the zeros in front of it. -/
def dropZeros? : Text → Option Text
  | [] => none
  | c :: rest =>
    if c = '0' then afterZeros? c rest else if startsNumeral c then some (c :: rest) else none

/-- A numeral without the zeros after its minus sign, or in front of it. -/
def dropLeadingZeros? : Text → Option Text
  | '-' :: rest => (dropZeros? rest).map ('-' :: ·)
  | t => dropZeros? t

def dropZeroFraction (t : Text) : Text :=
  match t.dropWhile (· != .char '.') with
  | '.' :: '0' :: zeros => if zeros.all (· == .char '0') then t.takeWhile (· != .char '.') else t
  | _ => t

/-- Whether underscores stand only between other characters, and singly. -/
def underscoresFit (t : Text) : Bool :=
  t.head? != some (.char '_') && t.getLast? != some (.char '_') &&
    (t.zip t.tail).all fun (a, b) => !(a == '_' && b == '_')

/-- A numeral without its underscores, if they are where they may be. -/
def dropUnderscores (t : Text) : Text :=
  if underscoresFit t then t.filter (· != .char '_') else t

/-- A numeral without the plus sign in front of it; no minus sign may follow. -/
def dropPlus? : Text → Option Text
  | '+' :: '-' :: _ => none
  | '+' :: rest => some rest
  | t => some t

/-- The plain form of a numeral with blanks around it, a plus sign, zeros in front, underscores between
digits or a fraction of zeros. -/
def plainNumeral? (t : Text) : Option Text :=
  ((dropPlus? (t.trimOf Text.isNumeralBlank)).bind dropLeadingZeros?).map fun numeral =>
    dropUnderscores (dropZeroFraction numeral)

/-- The integer that a text writes, as it stands or in its plain form. Only a numeral as it stands can
be found too long. -/
def readLimit (t : Text) : Except SettingReason Int :=
  match readPlain t with
  | .ok n => .ok n
  | .error .tooLong => .error .tooLong
  | .error _ => ((plainNumeral? t).elim (.error .notInteger) readPlain).mapError fun _ => .notInteger

/-- The value that an environment gives to a name written in lower case. A variable keeps its first
place and its last value; of several that differ only in case the last counts. -/
def environmentValue? (environment : List (Text × Text)) (name : String) : Option Text :=
  let distinct := environment.foldl (fun vs (n, v) => Assignment.insert n v vs) []
  (distinct.reverse.find? fun (key, _) => Text.lower key == name.text).map (·.2)

/-- Read one setting, noting its name where it cannot be read. -/
def readSetting {α : Type} (setting : String) (read : Text → Except SettingReason α) (unset : α) :
    Option Text → Except SettingFault α
  | none => .ok unset
  | some t => (read t).mapError fun reason => ⟨setting, reason⟩

/-- The fault of a setting, if it has one. -/
def fault? {α : Type} : Except SettingFault α → Option SettingFault
  | .ok _ => none
  | .error fault => some fault

/-- The settings that an environment gives, or all the faults in it. -/
def ofEnvironment (environment : List (Text × Text)) : Except (List SettingFault) Settings :=
  let base : Settings := {}
  let given := environmentValue? environment
  let quiet := readSetting "beQuiet" readSwitch base.quiet (given "pnk_bequiet")
  let maxDepth := readSetting "max_depth" readLimit base.maxDepth (given "pnk_max_depth")
  let strict := readSetting "strict" readSwitch base.strict (given "pnk_strict")
  let tokensFile := (given "pnk_tokens_file").map Path.normal
  match quiet, maxDepth, strict with
  | .ok quiet, .ok maxDepth, .ok strict => .ok { quiet, maxDepth, strict, tokensFile }
  | _, _, _ => .error ([fault? quiet, fault? maxDepth, fault? strict].filterMap id)

end Settings

end TextTemplate
