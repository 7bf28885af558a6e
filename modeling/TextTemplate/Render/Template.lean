import TextTemplate.Render.Range
import TextTemplate.Token.Lexer

/-!
# Rendering a template

A template is read into tokens, which are then rendered as one range.
-/

namespace TextTemplate.Render

/-- Read a template, and note what came of it. -/
def tokens (m : Markers) (source : Text) : Render (List Token) := do
  let outcome := tokenize m source
  for n in tokenizeNotes outcome do
    note n
  outcome

/-- Render a template. -/
def template (c : Context) (source : Text) : Render Text := do
  let tokens := (← tokens c.markers source).toArray
  range c tokens 0 tokens.size

end TextTemplate.Render
