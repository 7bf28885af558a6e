import TextTemplate.Text.Basic

/-!
# Markup

Styled text marks its styles by tags: a bracket, a lower-case letter or one of a few signs, and
anything up to the closing bracket. Where no styles can be shown the tags are dropped. A backslash in
front of a tag makes it literal, and pairs of backslashes in front of one stand for single ones.
-/

namespace TextTemplate.Markup

def isTagStart (c : CodePoint) : Bool :=
  ('a' ≤ c && c ≤ 'z') || c == .char '#' || c == .char '/' || c == .char '@'

/-- The inside of a tag whose opening bracket has been read, and what follows the tag. -/
def tag? (t : Text) : Option (Text × Text) :=
  if (t.head?.map isTagStart).getD false then
    match t.dropWhile fun c => c != .char ']' && c != .char '[' with
    | ']' :: rest => some (t.takeWhile fun c => c != .char ']' && c != .char '[', rest)
    | _ => none
  else none

theorem tag?_length {t inside rest : Text} (h : tag? t = some (inside, rest)) :
    rest.length < t.length := by
  rw [tag?] at h
  split at h
  · split at h
    · next r hdrop =>
      obtain ⟨-, rfl⟩ : _ ∧ r = rest := by simpa using h
      have := (List.dropWhile_sublist (l := t) fun c => c != .char ']' && c != .char '[').length_le
      rw [hdrop] at this
      exact this
    · simp at h
  · simp at h

def backslashes (n : Nat) : Text :=
  List.replicate n '\\'

/-- Escape the tags of a text, of which `n` backslashes have been read. -/
def escapeFrom (n : Nat) (t : Text) : Text :=
  match t with
  | [] => backslashes n
  | '\\' :: rest => escapeFrom (n + 1) rest
  | '[' :: rest =>
    match h : tag? rest with
    | some (inside, after) =>
      have := tag?_length h
      backslashes (2 * n + 1) ++ .char '[' :: inside ++ .char ']' :: escapeFrom 0 after
    | none => backslashes n ++ .char '[' :: escapeFrom 0 rest
  | c :: rest => backslashes n ++ c :: escapeFrom 0 rest
termination_by t.length
decreasing_by all_goals grind

/-- Escape a text, so that it holds no tag. A single backslash at the end is doubled. -/
def escape (t : Text) : Text :=
  let escaped := escapeFrom 0 t
  match escaped.reverse with
  | '\\' :: '\\' :: _ => escaped
  | '\\' :: _ => escaped ++ [.char '\\']
  | _ => escaped

/-- A piece of text, unless it is empty. -/
def nonempty (t : Text) : List Text :=
  if t.isEmpty then [] else [t]

/-- What `n` backslashes in front of a tag leave: half as many of them, and with an odd one the tag as
it is written. -/
def escaped (n : Nat) (inside : Text) : List Text :=
  nonempty (backslashes (n / 2)) ++ if n % 2 = 1 then [.char '[' :: inside ++ [.char ']']] else []

/-- The pieces between the tags of a text, given what has been read of the current piece, backwards, and
the number of backslashes read after that. -/
def piecesFrom (read : Text) (n : Nat) (t : Text) : List Text :=
  match t with
  | [] => nonempty (backslashes n ++ read).reverse
  | '\\' :: rest => piecesFrom read (n + 1) rest
  | '[' :: rest =>
    match h : tag? rest with
    | some (inside, after) =>
      have := tag?_length h
      nonempty read.reverse ++ escaped n inside ++ piecesFrom [] 0 after
    | none => piecesFrom ('[' :: (backslashes (n - 1) ++ read)) 0 rest
  | c :: rest => piecesFrom (c :: (backslashes n ++ read)) 0 rest
termination_by t.length
decreasing_by all_goals grind

/-- The pieces between the tags of a text. A literal tag, and the backslashes in front of it, are
pieces of their own; in front of any other bracket one backslash is left out. -/
def pieces (t : Text) : List Text :=
  piecesFrom [] 0 t

end TextTemplate.Markup
