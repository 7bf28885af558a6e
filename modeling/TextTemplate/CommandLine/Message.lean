import TextTemplate.CommandLine.Console
import TextTemplate.CommandLine.Highlight

/-!
# Messages

A message is printed line by line. A line is measured in stretches, from one seam to the next, and
what does not fit on the console by that measure is left out. A stretch that cannot be cut makes the
printing fail.
-/

namespace TextTemplate.Message

/-- The stretches of a text between seams, of which so many characters stand before it. -/
def stretches (seams : List Nat) (before : Nat) : Text → List Text
  | [] => []
  | c :: rest =>
    let later := seams.dropWhile (· ≤ before)
    match stretches later (before + 1) rest with
    | [] => [[c]]
    | stretch :: others =>
      if later.head? = some (before + 1) then [c] :: stretch :: others
      else (c :: stretch) :: others

theorem flatten_stretches (seams : List Nat) (before : Nat) (t : Text) :
    (stretches seams before t).flatten = t := by
  induction t generalizing seams before with
  | nil => rfl
  | cons c rest ih =>
    have h := ih (seams.dropWhile (· ≤ before)) (before + 1)
    simp only [stretches]
    split
    · next hnil => rw [hnil] at h; simp [← h]
    · next hcons =>
      rw [hcons] at h
      split <;> simp [← h]

/-- The seams of a line whose parts from tab to tab get longer. The lengths of a part before and after
are given, and how long the line was and is in front of it. -/
def movedSeams (seams : List Nat) (was is : Nat) : List (Nat × Nat) → List Nat
  | [] => []
  | (old, new) :: others =>
    let (own, later) := seams.span (· ≤ was + old)
    own.map (fun seam => if seam = was + old then is + new else is + (seam - was)) ++
      movedSeams later (was + old) (is + new) others

/-- The lengths of the parts of a line from tab to tab, before and after they are filled up. -/
def tabLengths (line : Text) : List (Nat × Nat) :=
  let (first, others) := Text.splitWhere (· == .char '\t') line
  ((first :: others).zip (Console.tabbed line)).map fun (part, filled) =>
    (part.length + 1, filled.length)

/-- A part of a line, of which so many characters stand before it, as it is printed. -/
def printedPart (seams : List Nat) (before : Nat) (part : Text) : Except Failure Text := do
  let cut ← Console.Overflow.fold.cut Console.width (Console.cutBlanks Console.width part)
  let shown ← Console.fitted Console.width (stretches seams before cut)
  return shown.flatten ++ [.char '\n']

/-- The parts of a line as they are printed. -/
def printedParts (seams : List Nat) : Nat → List Text → Except Failure Text
  | _, [] => .ok []
  | before, part :: others => do
    let later := seams.dropWhile (· ≤ before)
    return (← printedPart later before part) ++
      (← printedParts later (before + part.length) others)

/-- A line of a message as it is printed. Tabs that are filled up move the seams behind them. -/
def printedLine (seams : List Nat) (line : Text) : Except Failure Text :=
  let moved := movedSeams seams 0 0 (tabLengths line)
  printedParts moved 0 (Console.parts Console.width .fold (Console.expandTabs line))

/-- Lines of a message, of which so many characters stand before the first, as they are printed. -/
def printedLines (seams : List Nat) : Nat → List Text → Except Failure Text
  | _, [] => .ok []
  | before, line :: others => do
    let stop := before + line.length
    let (own, later) := seams.span (· ≤ stop)
    return (← printedLine (own.map (· - before)) line) ++ (← printedLines later (stop + 1) others)

def print (markup : Text) : Except Failure Text :=
  let shown := Console.shown markup
  printedLines (Highlight.seams shown) 0 (Console.lines shown)

end TextTemplate.Message
