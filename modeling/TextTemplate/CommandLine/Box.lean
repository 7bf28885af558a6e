import TextTemplate.CommandLine.Console

/-!
# Boxes

Tables and panels drawn with lines. A column is as wide as its widest cell, unless the table gets too
wide for the console, and a panel as wide as its widest line. Every cell and line has a space on either
side.
-/

namespace TextTemplate.Box

/-- A text with as many spaces after it as it lacks cells to a width. -/
def padded (width : Nat) (t : Text) : Text :=
  t ++ List.replicate (width - Text.cells t) (.char ' ')

/-- A line, in stretches, cut or filled up to a width. -/
def filled (width : Nat) (line : List Text) : Except Failure (List Text) :=
  (Console.fitted width line).map fun fit =>
    fit ++ [List.replicate (width - Console.measured fit) (.char ' ')]

/-- A text with spaces on both sides, the smaller half in front. -/
def centred (width : Nat) (t : Text) : Text :=
  let missing := width - Text.cells t
  List.replicate (missing / 2) (.char ' ') ++ t ++ List.replicate (missing - missing / 2) (.char ' ')

def widest (lines : List Text) : Nat :=
  (lines.map Text.cells).foldl max 0

/-- The characters of a horizontal rule: its ends, the crossings between columns, and the line. -/
structure Rule where
  left : CodePoint
  line : CodePoint
  crossing : CodePoint
  right : CodePoint

def Rule.draw (r : Rule) (widths : List Nat) : Text :=
  let spans := widths.map fun w => List.replicate (w + 2) r.line
  r.left :: Text.intercalate [r.crossing] spans ++ [r.right]

/-- A row of cells, each of one line, between vertical bars. -/
def cellLine (bar : CodePoint) (cells : List Text) : Text :=
  bar :: Text.intercalate [bar] cells ++ [bar]

/-- A line of a cell as it is shown in a column, with a space on either side. A joiner at its end swallows
a space, which is made good. What is still too wide when an ellipsis has been put in is cut once more, and
takes the place of the space behind it. -/
def cellPart (width : Nat) (line : Text) : Except Failure Text := do
  let cut ← Console.Overflow.ellipsis.cut width (padded width line)
  let inside ← filled width [← Console.Overflow.ellipsis.cut width cut]
  return (← filled (width + 2) ([.char ' '] :: inside ++ [[.char ' ']])).flatten

/-- The lines of a cell as they are shown in a column. -/
def cellLines (width : Nat) (cell : Text) : Except Failure (List Text) :=
  (Console.layout width .ellipsis cell).mapM (cellPart width)

def rowLines (bar : CodePoint) (widths : List Nat) (row : List Text) : Except Failure (List Text) := do
  let cells ← (widths.zip row).mapM fun (w, cell) => cellLines w cell
  let height := (cells.map List.length).foldl max 0
  return (List.range height).map fun i =>
    cellLine bar ((widths.zip cells).map fun (w, lines) => lines.getD i (List.replicate (w + 2) (.char ' ')))

def tableTop : Rule := ⟨'┏', '━', '┳', '┓'⟩

def tableHeadEnd : Rule := ⟨'┡', '━', '╇', '┩'⟩

/-- The rule below the last row of a table. -/
def tableBottom : Rule := ⟨'└', '─', '┴', '┘'⟩

/-- The characters that end a line in the sense of measuring: line feed, the file, group and record
separators, next line, and the line and paragraph separators. -/
def isLineEnd (c : CodePoint) : Bool :=
  [0x0A, 0x1C, 0x1D, 0x1E, 0x85, 0x2028, 0x2029].contains c.toNat

/-- The width that the text of a cell asks for. -/
def measure (cell : Text) : Nat :=
  let (first, others) := Text.splitWhere isLineEnd cell
  widest (first :: others)

/-- The cells that the columns of a table take in all, with their spaces and bars. -/
def totalWidth (widths : List Nat) : Nat :=
  widths.foldl (fun total w => total + w + 3) 1

/-- Column widths that fit on the console: the widest column gives way. -/
def narrowed (widths : List Nat) : List Nat :=
  let excess := totalWidth widths - Console.width
  let most := widths.foldl max 0
  widths.map fun w => if w = most then w - excess else w

/-- The width of each of `n` columns. -/
def columnWidths (n : Nat) (rows : List (List Text)) : List Nat :=
  narrowed <| (List.range n).map fun i =>
    (rows.map fun row => measure (row.getD i [])).foldl max 0

/-- A table with a title, headings and rows. -/
def table (title : Text) (headings : List Text) (rows : List (List Text)) : Except Failure Text := do
  let widths := columnWidths headings.length (headings :: rows)
  let head ← rowLines '┃' widths headings
  let body ← rows.mapM (rowLines '│' widths)
  let lines :=
    [centred (totalWidth widths) title, tableTop.draw widths] ++ head ++
      [tableHeadEnd.draw widths] ++ body.flatten ++ [tableBottom.draw widths]
  return lines.flatMap (· ++ [.char '\n'])

def panelTop : Rule := ⟨'╭', '─', '─', '╮'⟩

def panelBottom : Rule := ⟨'╰', '─', '─', '╯'⟩

/-- The width that the inside of a panel may take. -/
def maxPanelWidth : Nat := 76

def panel (content : Text) : Text :=
  let inside := Console.layout maxPanelWidth .fold content
  let width := widest inside
  let lines :=
    panelTop.draw [width] :: inside.map (fun line => cellLine '│' [.char ' ' :: padded width line ++ [.char ' ']]) ++
      [panelBottom.draw [width]]
  lines.flatMap (· ++ [.char '\n'])

end TextTemplate.Box
