import TextTemplate.Resolver.Basic

/-!
# Values as resolvers

A function is a resolver, and so is a record with a field `resolve`, unless that field is null. What
the field holds is only called when an expression is asked for.
-/

namespace TextTemplate

/-- The result of a function on a text. -/
def Builtin.call (f : Builtin) (argument : Text) : Value :=
  match f with
  | .len => .int argument.length
  | .print => .null

namespace Resolver

/-- The field that makes a record a resolver. -/
def methodName : Text := "resolve".text

/-- Call a value on every expression. -/
def ofCallee (callee : Value) : Resolver :=
  match callee with
  | .function f => ofFunction fun expression => .ok (f.call expression)
  | other => ofFunction fun _ => .error (.notCallable other.fullTypeName)

/-- The value that a record answers expressions with. -/
def method? (fields : List (Text × Value)) : Option Value :=
  match fields.find? fun (name, _) => name == methodName with
  | some (_, .null) | none => none
  | some (_, v) => some v

/-- A value taken as a resolver. -/
def ofValue (v : Value) : Except Failure Resolver :=
  match v with
  | .function _ => .ok (ofCallee v)
  | .record fields =>
    match method? fields with
    | some callee => .ok (ofCallee callee)
    | none => .error (.notAResolver v.typeName)
  | _ => .error (.notAResolver v.typeName)

end Resolver

end TextTemplate
