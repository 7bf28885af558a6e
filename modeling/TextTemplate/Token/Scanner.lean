import TextTemplate.Token.Basic
import TextTemplate.Text.Split

/-!
# Scanning a template in one pass

The same division of a template as by splitting, made by a walk from left to right that knows only
whether it is inside a command: where a marker starts it is consumed whole, else one character is.
-/

namespace TextTemplate

/-- Where a walk through a template stands. -/
inductive ScanState where
  /-- In the text before any command. -/
  | start
  | command
  /-- In the text after a command. -/
  | text
  deriving DecidableEq, Repr

/-- Why a walk through a template stops early. -/
inductive ScanFault where
  /-- A close marker before any command. -/
  | closeAtStart
  /-- A close marker in a later text. -/
  | closeInText
  /-- An open marker, or the end of the template, inside a command. -/
  | openCommand
  deriving DecidableEq, Repr

/-- The kind of the piece that a walk stands in. -/
def ScanState.kind : ScanState → TokenKind
  | start | text => .text
  | command => .command

/-- A piece of a template. -/
abbrev Piece := TokenKind × Text

namespace Piece

/-- One more character at the start of the first piece. -/
def extend (c : CodePoint) : List Piece → List Piece
  | [] => []
  | (kind, raw) :: rest => (kind, c :: raw) :: rest

end Piece

/-- The pieces of what is left of a template, the first of which the walk stands in. -/
def scan (m : Markers) (state : ScanState) (left : Text) : Except ScanFault (List Piece) :=
  match left with
  | [] => if state = .command then .error .openCommand else .ok [(state.kind, [])]
  | c :: rest =>
    let afterOpening := (c :: rest).drop m.opening.text.length
    let afterClosing := (c :: rest).drop m.closing.text.length
    have := m.opening.length_pos
    have := m.closing.length_pos
    if state = .command then
      if Text.startsWith (c :: rest) m.closing.text then
        (scan m .text afterClosing).map ((state.kind, []) :: ·)
      else if Text.startsWith (c :: rest) m.opening.text then .error .openCommand
      else (scan m state rest).map (Piece.extend c)
    else if Text.startsWith (c :: rest) m.opening.text then
      (scan m .command afterOpening).map ((state.kind, []) :: ·)
    else if Text.startsWith (c :: rest) m.closing.text then
      .error (if state = .start then .closeAtStart else .closeInText)
    else (scan m state rest).map (Piece.extend c)
termination_by left.length

end TextTemplate
