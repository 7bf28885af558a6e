import TextTemplate.Number.Binary64

/-!
# Values

What a resolver may answer: scalars, sequences, mappings, records and a few stranger things. A
mapping keeps its entries in order and its keys apart; equal numbers are equal keys, whatever their
type. A stream can be walked only once, so a value holds just the number under which its remaining
elements are kept.
-/

namespace TextTemplate

/-- The functions that may turn up as values. -/
inductive Builtin where
  | len
  | print
  deriving DecidableEq, Repr

def Builtin.label : Builtin → String
  | .len => "len"
  | .print => "print"

/-- The arguments that a builtin function takes, as it tells them itself. -/
def Builtin.signature : Builtin → String
  | .len => "($module, obj, /)"
  | .print => "($module, /, *args, sep=' ', end='\\n', file=None, flush=False)"

/-- A value that a template can show, test or walk. -/
inductive Value where
  | null
  | bool (b : Bool)
  | int (n : Int)
  | float (x : Binary64)
  | text (t : Text)
  | bytes (bs : List UInt8)
  | byteArray (bs : List UInt8)
  | list (items : List Value)
  | tuple (items : List Value)
  /-- The integers from `start` up or down to `stop`, which is left out, in steps of `step`. -/
  | range (start stop step : Int)
  | set (items : List Value)
  | map (entries : List (Value × Value))
  | record (fields : List (Text × Value))
  | stream (id : Nat)
  | function (f : Builtin)
  deriving Inhabited

namespace Value

def typeName : Value → String
  | null => "NoneType"
  | bool _ => "bool"
  | int _ => "int"
  | float _ => "float"
  | text _ => "str"
  | bytes _ => "bytes"
  | byteArray _ => "bytearray"
  | list _ => "list"
  | tuple _ => "tuple"
  | range .. => "range"
  | set _ => "set"
  | map _ => "dict"
  | record _ => "SimpleNamespace"
  | stream _ => "generator"
  | function _ => "builtin_function_or_method"

/-- The name of a value's type with the place where the type belongs, as other messages show it. -/
def fullTypeName : Value → String
  | record _ => "types.SimpleNamespace"
  | v => v.typeName

def rangeLength (start stop step : Int) : Nat :=
  if 0 < step then ((stop - start + step - 1) / step).toNat
  else if step < 0 then ((start - stop - step - 1) / -step).toNat
  else 0

def rangeItems (start stop step : Int) : List Value :=
  (List.range (rangeLength start stop step)).map fun (i : Nat) => int (start + i * step)

/-- Whether a value passes for true: all but the empty and zero ones do. -/
def isTruthy : Value → Bool
  | null => false
  | bool b => b
  | int n => n != 0
  | float x => !x.isZero
  | text t => !t.isEmpty
  | bytes bs | byteArray bs => !bs.isEmpty
  | list items | tuple items | set items => !items.isEmpty
  | range start stop step => rangeLength start stop step != 0
  | map entries => !entries.isEmpty
  | record _ | stream _ | function _ => true

/-- The integer that a value is equal to as a number, if it is a boolean or an integer. -/
def asInt? : Value → Option Int
  | bool b => some (if b then 1 else 0)
  | int n => some n
  | _ => none

mutual
def sameKey : Value → Value → Bool
  | null, null => true
  | text s, text t => s == t
  | bytes as, bytes bs => as == bs
  | tuple xs, tuple ys => sameKeys xs ys
  | range a b c, range a' b' c' =>
    let n := rangeLength a b c
    n == rangeLength a' b' c' && (n == 0 || a == a' && (n == 1 || c == c'))
  | stream i, stream j => i == j
  | function f, function g => f == g
  | float x, float y => x.eqNumber y
  | float x, v => (v.asInt?.map x.eqInt).getD false
  | v, float y => (v.asInt?.map y.eqInt).getD false
  | v, w =>
    match v.asInt?, w.asInt? with
    | some m, some n => m == n
    | _, _ => false

/-- Whether two sequences of keys are the same, one by one. -/
def sameKeys : List Value → List Value → Bool
  | [], [] => true
  | x :: xs, y :: ys => sameKey x y && sameKeys xs ys
  | _, _ => false
end

/-- Enter a value under a key. A key that is there already keeps its place and its first form. -/
def insertEntry (key value : Value) : List (Value × Value) → List (Value × Value)
  | [] => [(key, value)]
  | (k, v) :: rest =>
    if sameKey k key then (k, value) :: rest else (k, v) :: insertEntry key value rest

/-- The mapping of a list of entries, entered one after another. -/
def ofEntries (entries : List (Value × Value)) : Value :=
  map (entries.foldl (fun m (k, v) => insertEntry k v m) [])

/-- Give a field of a record a value. A field that is there already keeps its place. -/
def insertField (name : Text) (value : Value) : List (Text × Value) → List (Text × Value)
  | [] => [(name, value)]
  | (n, v) :: rest =>
    if n = name then (n, value) :: rest else (n, v) :: insertField name value rest

/-- The record of a list of fields, given one after another. -/
def ofFields (fields : List (Text × Value)) : Value :=
  record (fields.foldl (fun r (n, v) => insertField n v r) [])

def valueAt? (key : Value) (entries : List (Value × Value)) : Option Value :=
  (entries.find? fun (k, _) => sameKey k key).map (·.2)

end Value

end TextTemplate
