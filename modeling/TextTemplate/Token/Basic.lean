import TextTemplate.Markers.Basic

/-!
# Tokens

A template is a sequence of tokens: literal text and commands. A token remembers the line on which
it starts and the text it was read from, from which the template can be written again.
-/

namespace TextTemplate

/-- The two kinds of token. -/
inductive TokenKind where
  | text
  | command
  deriving DecidableEq, Repr

/-- A piece of a template. -/
structure Token where
  kind : TokenKind
  /-- The literal text, or the trimmed text of a command. -/
  text : Text
  /-- The line on which the token starts, counted from one. -/
  line : Nat
  /-- The text between the markers of a command, untrimmed. -/
  raw : Text
  deriving DecidableEq, Repr

namespace Token

/-- A literal token. -/
def literal (line : Nat) (t : Text) : Token := ⟨.text, t, line, t⟩

/-- A command token, read from the text between its markers. -/
def command (line : Nat) (raw : Text) : Token := ⟨.command, raw.trim, line, raw⟩

/-- Whether the token is a command. -/
def isCommand (t : Token) : Bool :=
  t.kind == .command

/-- The same token with another text. -/
def withText (t : Token) (text : Text) : Token :=
  { t with text := text, raw := text }

/-- A token as it stands in a template. -/
def source (m : Markers) (t : Token) : Text :=
  if t.isCommand then m.opening.text ++ t.raw ++ m.closing.text else t.raw

end Token

/-- The template that a list of tokens was read from. -/
def reconstruct (m : Markers) (tokens : List Token) : Text :=
  tokens.flatMap (Token.source m)

end TextTemplate
