import TextTemplate.CommandLine.Emoji
import TextTemplate.CommandLine.Markup

/-!
# Console output

Text for a console is marked up, and may name pictures. It is shown line by line: some control
characters are left out, tabs are filled up with spaces, and a line that is too wide is broken between
words. A word that is too wide by itself is broken too, or cut; there are texts that cannot be cut.
-/

namespace TextTemplate.Console

/-- The width of a console that is no terminal. -/
def width : Nat := 400

def tabStop : Nat := 8

/-- The control characters that are not shown: bell, backspace, vertical tab, form feed and carriage
return. -/
def isHidden (c : CodePoint) : Bool :=
  [7, 8, 11, 12, 13].contains c.toNat

def shown (markup : Text) : Text :=
  ((Markup.pieces markup).flatMap Emoji.replace).filter (!isHidden ·)

/-- What becomes of a word that is wider than a line. -/
inductive Overflow where
  | fold
  /-- It is cut, and an ellipsis stands for the rest. -/
  | ellipsis
  deriving DecidableEq, Repr

def Overflow.cut (overflow : Overflow) (limit : Nat) (t : Text) : Except Failure Text :=
  if Text.cells t ≤ limit then .ok t
  else
    match overflow with
    | fold => Text.crop limit t
    | ellipsis => (Text.crop (limit - 1) t).map (· ++ [.char '…'])

def lines (t : Text) : List Text :=
  let (first, others) := Text.splitWhere (· == .char '\n') t
  first :: others

/-- Fill up with spaces to the next tab stop what is followed by a tab, from a column on. -/
def fillTabs (column : Nat) (part : Text) : List Text → List Text
  | [] => [part]
  | next :: others =>
    let spaced := part ++ [.char ' ']
    let reached := column + Text.cells spaced
    let missing := (tabStop - reached % tabStop) % tabStop
    (spaced ++ List.replicate missing (.char ' ')) :: fillTabs (reached + missing) next others

/-- The parts of a line from tab to tab, filled up. -/
def tabbed (line : Text) : List Text :=
  let (first, others) := Text.splitWhere (· == .char '\t') line
  fillTabs 0 first others

def expandTabs (line : Text) : Text :=
  (tabbed line).flatten

/-- Cut a line into words, each with the blanks that follow it. -/
def words : Text → List Text
  | [] => []
  | c :: rest =>
    match words rest with
    | [] => [[c]]
    | word :: others =>
      -- a word ends where a blank is followed by something else
      if Text.isBlank c && !(word.head?.map Text.isBlank).getD true then [c] :: word :: others
      else (c :: word) :: others

/-- Words with the blanks in front of the first made part of it. -/
def joinIndent : List Text → List Text
  | indent :: word :: rest =>
    if indent.all Text.isBlank then (indent ++ word) :: rest else indent :: word :: rest
  | short => short

/-- Lines in the making: the ones that are done, the last first, and the current one. -/
structure Folding where
  done : List Text
  current : Text
  used : Nat

/-- The lines that are done when the current one is closed. -/
def Folding.closed (f : Folding) : List Text :=
  if f.current.isEmpty then f.done else f.current :: f.done

/-- Put a word on the current line, or on the next. -/
def Folding.add (limit : Nat) (overflow : Overflow) (f : Folding) (word : Text) : Folding :=
  let size := Text.cells word.trimEnd
  if f.used + size ≤ limit then
    { f with current := f.current ++ word, used := f.used + Text.cells word }
  else if limit < size ∧ overflow = .fold then
    match (Text.pieces limit word).reverse with
    | last :: before => ⟨before ++ f.closed, last, Text.cells last⟩
    | [] => f
  else ⟨f.closed, word, Text.cells word⟩

/-- Cut the blanks at the end of a line, as far as it has more characters than it may have cells. -/
def cutBlanks (limit : Nat) (line : Text) : Text :=
  let blanks := line.length - line.trimEnd.length
  line.take (line.length - min blanks (line.length - limit))

/-- The parts into which a line that is too wide is broken. -/
def parts (limit : Nat) (overflow : Overflow) (line : Text) : List Text :=
  let f := (joinIndent (words line)).foldl (Folding.add limit overflow) ⟨[], [], 0⟩
  (f.current :: f.done).reverse

/-- The cells of a line that is measured in stretches. -/
def measured (line : List Text) : Nat :=
  (line.map Text.cells).foldl (· + ·) 0

/-- Stretches up to a width, of which some cells are used up. -/
def cutAt (limit used : Nat) : List Text → Except Failure (List Text)
  | [] => .ok []
  | stretch :: others =>
    let reached := used + Text.cells stretch
    if reached < limit then (cutAt limit reached others).map (stretch :: ·)
    else (Text.crop (limit - used) stretch).map ([·])

/-- A line, in stretches, cut to a width. -/
def fitted (limit : Nat) (line : List Text) : Except Failure (List Text) :=
  if measured line ≤ limit then .ok line else cutAt limit 0 line

/-- The lines of a text, broken to a width as far as that is possible between words. -/
def layout (limit : Nat) (overflow : Overflow) (t : Text) : List Text :=
  (lines t).flatMap fun line =>
    (parts limit overflow (expandTabs line)).map (cutBlanks limit)

end TextTemplate.Console
