import TextTemplate.Text.Cells
import TextTemplate.Text.Pattern
import TextTemplate.Text.WordCharacter

/-!
# Parts that stand out

In a message on the console some parts stand out: numbers, quoted texts, brackets, names before an
equals sign, paths and addresses. Such a part is measured by itself, between two seams. This shows only in
a line with a joiner, which has nothing to glue where a seam parts it from what it stands before or
behind.
-/

namespace TextTemplate.Highlight

open Text.Pattern

/-- A pattern of a part that stands out. -/
abbrev Pattern := Text.Pattern

/-- Whether there is a word character on a side of a point. -/
def isWordAt (side? : Option CodePoint) : Bool :=
  side?.any Text.isWord

def edge : Pattern :=
  between fun before? after? => isWordAt before? != isWordAt after?

/-- A point that is no edge of a word. -/
def noEdge : Pattern :=
  between fun before? after? => isWordAt before? == isWordAt after?

def notAfterWord : Pattern :=
  between fun before? _ => !isWordAt before?

def notEscaped : Pattern :=
  between fun before? _ => before? != some (.char '\\')

def digit : Pattern :=
  one CodePoint.isDigit

def anyDigit : Pattern :=
  one fun c => (Text.digitValue? c).isSome

def hexDigit : Pattern :=
  one fun c => c.isDigit || ('a' ≤ c && c ≤ 'f') || ('A' ≤ c && c ≤ 'F')

def oneOf (characters : String) : Pattern :=
  one characters.text.contains

def word (w : String) : Pattern :=
  literal w

/-- A group of digits, followed by a sign. -/
def grouped (group : Pattern) (sign : CodePoint) : Pattern :=
  all [group, char sign]

def address4 : Pattern :=
  remembered <| all [times 3 (grouped (oneTo 3 digit) '.'), oneTo 3 digit]

def address6 : Pattern :=
  remembered <| all [oneTo 7 (all [grouped (oneTo 4 hexDigit) ':', optional (char ':')]), oneTo 4 hexDigit]

/-- The address of a device, of so many bytes. -/
def deviceAddress (bytes : Nat) : Pattern :=
  let pair := oneTo 2 hexDigit
  remembered <| any [all [times (bytes - 1) (grouped pair '-'), pair],
    all [times (bytes - 1) (grouped pair ':'), pair],
    all [times (bytes / 2 - 1) (grouped (times 4 hexDigit) '.'), times 4 hexDigit]]

def uniqueId : Pattern :=
  remembered <| all [grouped (times 8 hexDigit) '-', times 3 (grouped (times 4 hexDigit) '-'),
    times 12 hexDigit]

/-- The name of a function, before its bracket. -/
def call : Pattern :=
  all [remembered (few (one fun c => Text.isWord c || c == .char '.')), char '(']

/-- A word that stands for a truth value or for nothing. -/
def constant : Pattern :=
  any (["True", "False", "None"].map fun w => all [edge, remembered (word w), edge])

def exponent (digits : Pattern) : Pattern :=
  optional (all [char 'e', optional (oneOf "-+"), digits])

/-- The digits of a number, with a point perhaps. -/
def decimal : Pattern :=
  all [several digit, optional (char '.'), many digit]

/-- A number, with a minus sign perhaps, that does not end a word. The exponent is as short as it can
be. -/
def real : Pattern :=
  all [notAfterWord, optional (char '-'), decimal, exponent (all [anyDigit, few anyDigit])]

def ellipsis : Pattern :=
  remembered (word "...")

def complex : Pattern :=
  remembered <| all [real, optional (all [oneOf "-+", decimal, exponent (several anyDigit)]), char 'j']

def number : Pattern :=
  remembered <| any [all [real, edge], all [word "0x", many hexDigit]]

/-- A path with a slash in it: the folders, and the name behind them. -/
def path : Pattern :=
  let name := one fun c => Text.isWord c || "-._+".text.contains c
  all [remembered (all [noEdge, many (all [char '/', several name]), char '/']),
    remembered (many name)]

def quoted : Pattern :=
  let between (quote : String) : Pattern :=
    all [optional (char 'b'), word quote, few (one (· != .char '\n')), notEscaped, word quote]
  all [notEscaped, notAfterWord,
    remembered (any (["'''", "'", "\"\"\"", "\""].map between))]

def link : Pattern :=
  let scheme := any (["file", "https", "http", "ws", "wss"].map word)
  let sign := one fun c => c.char?.any Char.isAlphanum || "-$_+!`(),.?/;:&=%#~@".text.contains c
  remembered <| all [scheme, word "://", many sign]

def part : Pattern :=
  any [address4, address6, deviceAddress 8, deviceAddress 6, uniqueId, call, constant, ellipsis,
    complex, number, path, quoted, link]

/-- A name before an equals sign, and the word behind it. -/
def assigned : Pattern :=
  let quote := optional (char '"')
  all [remembered (oneTo 50 (one Text.isWord)), char '=',
    optional (remembered (all [quote, several (one Text.isWord), quote]))]

def bracket : Pattern :=
  remembered (oneOf "][{}()")

/-- A tag: it reaches from its first bracket to the last one. -/
def tag : Pattern :=
  let name := one fun c => Text.isWord c || "-.:|".text.contains c
  all [remembered (char '<'), remembered (many name), remembered (many (one fun _ => true)),
    remembered (char '>')]

def spans (t : Text) : List Text.Span :=
  [tag, assigned, bracket, part].flatMap fun p => p.spans t

def tabEnds (t : Text) : List Nat :=
  t.zipIdx.filterMap fun (c, i) => if c == .char '\t' then some (i + 1) else none

/-- The seams that a span brings about: its ends, and the tabs in it, behind which it starts anew. -/
def seamsOf (tabs : List Nat) (s : Text.Span) : List Nat :=
  s.start :: s.stop :: tabs.filter fun i => s.start < i && i < s.stop

/-- The seams of a text, from left to right: how many characters stand before each. -/
def seams (t : Text) : List Nat :=
  if t.contains Text.joiner then
    let tabs := tabEnds t
    let marked := (spans t).filter fun s => s.start < s.stop
    (marked.flatMap fun s => seamsOf tabs s).mergeSort
  else []

end TextTemplate.Highlight
