import TextTemplate.Text.Basic

/-!
# Markers

A marker is a non-empty literal that the template syntax gives a meaning.
-/

namespace TextTemplate

/-- A non-empty literal. -/
@[ext]
structure Marker where
  text : Text
  text_ne_nil : text ≠ []
  deriving DecidableEq

namespace Marker

/-- The marker with this text, if the text is not empty. -/
def ofText? (t : Text) : Option Marker :=
  if h : t ≠ [] then some ⟨t, h⟩ else none

@[simp] theorem ofText?_text (m : Marker) : ofText? m.text = some m := by
  simp [ofText?, m.text_ne_nil]

/-- The sign between a name and a value. -/
def equalsSign : Marker := ⟨['='], by decide⟩

theorem length_pos (m : Marker) : 0 < m.text.length :=
  List.length_pos_iff.2 m.text_ne_nil

end Marker

end TextTemplate
