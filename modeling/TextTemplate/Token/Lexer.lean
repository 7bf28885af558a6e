import TextTemplate.Token.Basic
import TextTemplate.Text.Split
import TextTemplate.Note

/-!
# From templates to tokens

A template is split at the open marker, and each piece that follows one at the close marker. Text
and commands alternate, with a text at both ends, so every command is followed by a text, be it
empty. A piece with no close marker is a command that was never closed; a piece with two has a
close marker too many.
-/

namespace TextTemplate

/-- How many characters of an unclosed command a message shows. -/
def unclosedPreview : Nat := 20

/-- The tokens of the pieces that follow an open marker, the first of which starts on `line`. -/
def tokensOfChunks (m : Markers) (line : Nat) : List Text → Except Failure (List Token)
  | [] => .ok []
  | chunk :: rest =>
    match chunk.splitOn m.closing with
    | (_, []) =>
      .error (.unclosedCommand line (m.opening.text ++ chunk.take unclosedPreview) chunk.trim)
    | (inside, [trailing]) =>
      let lineAfter := line + inside.lineBreaks
      (tokensOfChunks m (lineAfter + trailing.lineBreaks) rest).map fun tokens =>
        .command line inside :: .literal lineAfter trailing :: tokens
    | (inside, _ :: _ :: _) => .error (.unexpectedClose line inside.trim)

/-- The tokens of a template, or the first fault of its markers. -/
def tokenize (m : Markers) (template : Text) : Except Failure (List Token) :=
  let (first, chunks) := template.splitOn m.opening
  match first.cut? m.closing with
  | some (before, _) => .error (.unmatchedClose (1 + before.lineBreaks))
  | none => (tokensOfChunks m (1 + first.lineBreaks) chunks).map (.literal 1 first :: ·)

/-- The line on which the last token ends. -/
def lastLine (tokens : List Token) : Nat :=
  match tokens.getLast? with
  | none => 1
  | some token => token.line + token.raw.lineBreaks

/-- What a reading of a template leaves in the trace. -/
def tokenizeNotes : Except Failure (List Token) → List Note
  | .ok tokens => [.tokenized tokens.length (lastLine tokens)]
  | .error f => (Note.ofFailure? f).toList

end TextTemplate
