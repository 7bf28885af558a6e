import TextTemplate.Marker

/-!
# Marker configurations

Nine markers delimit and tag the commands of a template. Each has a fixed logical name, by which it
is read and replaced.
-/

namespace TextTemplate

/-- The logical names of the nine markers. -/
inductive MarkerName where
  | opening
  | closing
  | test
  | otherwise
  | ending
  | loop
  | index
  | scope
  | args
  deriving DecidableEq, Repr, Inhabited

namespace MarkerName

/-- All names, in the order in which a configuration is listed. -/
def all : List MarkerName :=
  [opening, closing, test, otherwise, ending, loop, index, scope, args]

theorem mem_all (n : MarkerName) : n ∈ all := by
  cases n <;> decide

/-- The name as it is written in overrides and messages. -/
def label : MarkerName → String
  | opening => "open"
  | closing => "close"
  | test => "if"
  | otherwise => "else"
  | ending => "end"
  | loop => "loop"
  | index => "index"
  | scope => "scope"
  | args => "args"

/-- The name written so, if there is one. -/
def ofLabel? (t : Text) : Option MarkerName :=
  all.find? fun n => n.label.text == t

end MarkerName

/-- A full set of markers. -/
structure Markers where
  /-- Starts a command. -/
  opening : Marker
  /-- Ends a command. -/
  closing : Marker
  /-- Starts the text of a conditional. -/
  test : Marker
  /-- Starts the text of the command that separates the two branches of a conditional. -/
  otherwise : Marker
  /-- Starts the text of the command that ends a block. -/
  ending : Marker
  /-- Starts the text of a loop. -/
  loop : Marker
  /-- The path segment that selects the key of a loop's current element. -/
  index : Marker
  /-- Separates the segments of a path. -/
  scope : Marker
  /-- Separates a path from its default, and a loop target from its variable. -/
  args : Marker
  deriving DecidableEq

namespace Markers

/-- The marker of a name. -/
def get (m : Markers) : MarkerName → Marker
  | .opening => m.opening
  | .closing => m.closing
  | .test => m.test
  | .otherwise => m.otherwise
  | .ending => m.ending
  | .loop => m.loop
  | .index => m.index
  | .scope => m.scope
  | .args => m.args

/-- Replace the marker of a name. -/
def set (m : Markers) (name : MarkerName) (marker : Marker) : Markers :=
  match name with
  | .opening => { m with opening := marker }
  | .closing => { m with closing := marker }
  | .test => { m with test := marker }
  | .otherwise => { m with otherwise := marker }
  | .ending => { m with ending := marker }
  | .loop => { m with loop := marker }
  | .index => { m with index := marker }
  | .scope => { m with scope := marker }
  | .args => { m with args := marker }

theorem get_set (m : Markers) (n k : MarkerName) (v : Marker) :
    (m.set n v).get k = if k = n then v else m.get k := by
  cases n <;> cases k <;> rfl

theorem ext_get {m m' : Markers} (h : ∀ n, m.get n = m'.get n) : m = m' := by
  obtain ⟨a, b, c, d, e, f, g, i, j⟩ := m
  have h₁ := h .opening
  have h₂ := h .closing
  have h₃ := h .test
  have h₄ := h .otherwise
  have h₅ := h .ending
  have h₆ := h .loop
  have h₇ := h .index
  have h₈ := h .scope
  have h₉ := h .args
  simp only [get] at h₁ h₂ h₃ h₄ h₅ h₆ h₇ h₈ h₉
  subst h₁ h₂ h₃ h₄ h₅ h₆ h₇ h₈ h₉
  rfl

/-- The markers that hold where nothing else is configured. -/
def default : Markers where
  opening := ⟨['{', '{'], by decide⟩
  closing := ⟨['}', '}'], by decide⟩
  test := ⟨['?'], by decide⟩
  otherwise := ⟨['!'], by decide⟩
  ending := ⟨['/'], by decide⟩
  loop := ⟨['@'], by decide⟩
  index := ⟨['#'], by decide⟩
  scope := ⟨['.'], by decide⟩
  args := ⟨[','], by decide⟩

instance : Inhabited Markers := ⟨default⟩

/-- The configuration as a list of names and literals. -/
def entries (m : Markers) : List (MarkerName × Text) :=
  MarkerName.all.map fun n => (n, (m.get n).text)

end Markers

end TextTemplate
