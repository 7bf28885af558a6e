import TextTemplate.Text.Basic

/-!
# Patterns

A pattern describes stretches of text. It is matched together with what has to follow it: of the
stretches that it describes from a point on, in its order of preference, the first one counts from
whose end the rest of the match succeeds. A match remembers the spans of the patterns in it that ask for
that. A text is searched from left to right, and matches do not overlap.
-/

namespace TextTemplate.Text

/-- A stretch of a text, by the numbers of characters before its two ends. -/
structure Span where
  start : Nat
  stop : Nat
  deriving DecidableEq, Repr

/-- A point in a text. -/
structure Point where
  index : Nat
  before? : Option CodePoint
  after : Text
  /-- The spans that are remembered from the way to it, the last first. -/
  found : List Span

/-- A pattern. Given what a match comes to from each point at which the pattern may end, it says what
the match comes to from a point at which the pattern starts. -/
abbrev Pattern := (Point → Option Point) → Point → Option Point

namespace Pattern

def one (admits : CodePoint → Bool) : Pattern := fun next s =>
  match s.after with
  | c :: rest => if admits c then next ⟨s.index + 1, some c, rest, s.found⟩ else none
  | [] => none

/-- No character, at a point where something holds of the characters on both sides. -/
def between (holds : Option CodePoint → Option CodePoint → Bool) : Pattern := fun next s =>
  if holds s.before? s.after.head? then next s else none

def all (ps : List Pattern) : Pattern := fun next =>
  ps.foldr (fun p rest => p rest) next

/-- One of some patterns, the first if possible. -/
def any (ps : List Pattern) : Pattern := fun next s =>
  ps.findSome? fun p => p next s

/-- A pattern as often as possible, up to once for every item of a list. -/
def greedy {α : Type} (p : Pattern) : List α → Pattern
  | [] => id
  | _ :: more => fun next s =>
    match p (greedy p more next) s with
    | some e => some e
    | none => next s

/-- A pattern as seldom as possible, up to once for every item of a list. -/
def lazy {α : Type} (p : Pattern) : List α → Pattern
  | [] => id
  | _ :: more => fun next s =>
    match next s with
    | some e => some e
    | none => p (lazy p more next) s

def optional (p : Pattern) : Pattern :=
  greedy p [()]

def times (n : Nat) (p : Pattern) : Pattern :=
  all (List.replicate n p)

/-- A pattern from one up to a number of times. -/
def oneTo (most : Nat) (p : Pattern) : Pattern :=
  all [p, greedy p (List.replicate (most - 1) ())]

/-- A pattern as often as possible, but not more often than there are characters. -/
def many (p : Pattern) : Pattern := fun next s =>
  greedy p s.after next s

/-- A pattern as often as possible, and at least once. -/
def several (p : Pattern) : Pattern :=
  all [p, many p]

/-- A pattern as seldom as possible, and not more often than there are characters. -/
def few (p : Pattern) : Pattern := fun next s =>
  lazy p s.after next s

def remembered (p : Pattern) : Pattern := fun next s =>
  p (fun e => next { e with found := ⟨s.index, e.index⟩ :: e.found }) s

def char (c : CodePoint) : Pattern :=
  one (· == c)

def literal (t : Text) : Pattern :=
  all (t.map char)

/-- The end of the match from a point on. -/
def end? (p : Pattern) (s : Point) : Option Point :=
  p some s

/-- The points at which matches end in a text, of which some characters belong to a match that has been
found. -/
def endsFrom (p : Pattern) (matched index : Nat) (before? : Option CodePoint) : Text → List Point
  | [] => []
  | c :: rest =>
    match matched with
    | n + 1 => endsFrom p n (index + 1) (some c) rest
    | 0 =>
      match p.end? ⟨index, before?, c :: rest, []⟩ with
      | some e => e :: endsFrom p (e.index - index - 1) (index + 1) (some c) rest
      | none => endsFrom p 0 (index + 1) (some c) rest

/-- The spans that the matches in a text remember. -/
def spans (p : Pattern) (t : Text) : List Span :=
  (endsFrom p 0 0 none t).flatMap Point.found

theorem all_nil (next : Point → Option Point) : all [] next = next := rfl

theorem all_cons (p : Pattern) (ps : List Pattern) (next : Point → Option Point) :
    all (p :: ps) next = p (all ps next) := rfl

theorem literal_append (t rest : Text) (next : Point → Option Point) (i : Nat)
    (before? : Option CodePoint) (found : List Span) :
    literal t next ⟨i, before?, t ++ rest, found⟩ =
      next ⟨i + t.length, t.getLast?.or before?, rest, found⟩ := by
  induction t generalizing i before? with
  | nil => simp [literal, all_nil]
  | cons c t ih =>
    have step : literal (c :: t) next ⟨i, before?, c :: t ++ rest, found⟩ =
        literal t next ⟨i + 1, some c, t ++ rest, found⟩ := by
      simp [literal, all_cons, char, one]
    rw [step, ih, List.getLast?_cons, List.length_cons]
    cases t.getLast? <;> simp [Nat.add_comm, Nat.add_left_comm]

theorem remembered_literal_append (t rest : Text) (next : Point → Option Point) (i : Nat)
    (before? : Option CodePoint) (found : List Span) :
    remembered (literal t) next ⟨i, before?, t ++ rest, found⟩ =
      next ⟨i + t.length, t.getLast?.or before?, rest, ⟨i, i + t.length⟩ :: found⟩ := by
  simp only [remembered, literal_append]

end Pattern

end TextTemplate.Text
