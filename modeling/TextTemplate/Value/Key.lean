import TextTemplate.Failure
import TextTemplate.Value.Basic

/-!
# Keys

Collections that can change, and records, are no keys of a mapping, and neither is a tuple that holds
one of them.
-/

namespace TextTemplate.Value

mutual
/-- The first part of a value because of which it can be no key. -/
def unfitPart? : Value → Option Value
  | list items => some (list items)
  | map entries => some (map entries)
  | set items => some (set items)
  | byteArray bs => some (byteArray bs)
  | record fields => some (record fields)
  | tuple items => unfitItem? items
  | _ => none

/-- The first part of several values because of which one of them can be no key. -/
def unfitItem? : List Value → Option Value
  | [] => none
  | v :: rest => (unfitPart? v).or (unfitItem? rest)
end

/-- A value as a key, if it can be one. -/
def asKey (v : Value) : Except Failure Value :=
  match v.unfitPart? with
  | some part => .error (.unfitKey part.fullTypeName)
  | none => .ok v

end TextTemplate.Value
