import TextTemplate.Resolver.Basic
import TextTemplate.Text.Split
import TextTemplate.Value.Access

/-!
# Values from nested data

An expression is a path, optionally followed by a default. The path is trimmed, cut into segments and
walked from the root of the data. Where it leads nowhere, the trimmed default is the answer; without
a default, a strict source fails and a lenient one answers with the empty text.
-/

namespace TextTemplate

/-- Data that is addressed by paths. -/
structure DataSource where
  root : Value
  /-- Separates the segments of a path. -/
  scope : Marker
  /-- Separates a path from its default. -/
  args : Marker
  /-- Whether a missing value without default is a failure. -/
  strict : Bool

namespace DataSource

/-- The trimmed path of an expression, and its default, if it has one. -/
def parse (d : DataSource) (expression : Text) : Text × Option Text :=
  match expression.cut? d.args with
  | some (path, default) => (path.trim, some default.trim)
  | none => (expression.trim, none)

/-- The segments of a path. -/
def segments (d : DataSource) (path : Text) : List Text :=
  let (first, rest) := path.splitOn d.scope
  first :: rest

/-- The reply to an expression. -/
def reply (d : DataSource) (expression : Text) : Reply :=
  let (path, default?) := d.parse expression
  match d.root.walk? (d.segments path), default? with
  | .error f, _ => { result := .error f }
  | .ok (some v), _ => { result := .ok v }
  | .ok none, some default => { result := .ok (.text default) }
  | .ok none, none =>
    if d.strict then { result := .error (.unresolved path) }
    else { result := .ok (.text []), notes := [.noValue path] }

/-- The source as a resolver. -/
def resolver (d : DataSource) : Resolver :=
  fun _ expression => d.reply expression

theorem isFixed_resolver (d : DataSource) : d.resolver.IsFixed :=
  fun _ _ _ => rfl

end DataSource

namespace Resolver

/-- Data addressed by paths with the given separators; an empty one fails at every use. -/
def ofData (root : Value) (scope args : Text) (strict : Bool) : Resolver :=
  match Marker.ofText? scope, Marker.ofText? args with
  | some scope, some args => DataSource.resolver { root, scope, args, strict }
  | _, _ => fun _ _ => { result := .error .emptySeparator }

end Resolver

end TextTemplate
