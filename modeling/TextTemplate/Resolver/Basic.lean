import TextTemplate.Note
import TextTemplate.Value.Basic

/-!
# Resolvers

A resolver gives an expression a value, or fails. Its reply may depend on the expressions it was
asked before, and may leave notes in the trace.
-/

namespace TextTemplate

/-- The reply to an expression. -/
structure Reply where
  result : Except Failure Value
  notes : List Note := []

/-- What gives expressions their values: the first argument holds the expressions asked so far, in
order. -/
abbrev Resolver := Array Text → Text → Reply

namespace Resolver

/-- The resolver that answers by a function of the expression alone. -/
def ofFunction (f : Text → Except Failure Value) : Resolver :=
  fun _ expression => { result := f expression }

/-- A resolver whose reply does not depend on what it was asked before. -/
def IsFixed (r : Resolver) : Prop :=
  ∀ asked asked' expression, r asked expression = r asked' expression

theorem isFixed_ofFunction (f : Text → Except Failure Value) : (ofFunction f).IsFixed :=
  fun _ _ _ => rfl

end Resolver

end TextTemplate
