import TextTemplate.Text.Basic

/-!
# Control sequences

What steers a terminal and is not text: an escape character, a bracket, parameters, intermediate
characters, and a final character. Where output goes to no terminal the sequences are left out.
-/

namespace TextTemplate.ControlSequence

def escape : CodePoint := '\x1b'

/-- Whether a character may be one of the parameters. -/
def isParameter (c : CodePoint) : Bool :=
  '0' ≤ c && c ≤ '?'

/-- Whether a character may stand between the parameters and the end. -/
def isIntermediate (c : CodePoint) : Bool :=
  ' ' ≤ c && c ≤ '/'

def isFinal (c : CodePoint) : Bool :=
  '@' ≤ c && c ≤ '~'

/-- What follows the control sequence at the start of a text, if there is one. -/
def after? (t : Text) : Option Text :=
  if [escape, '['].isPrefixOf t then
    match ((t.drop 2).dropWhile isParameter).dropWhile isIntermediate with
    | c :: rest => if isFinal c then some rest else none
    | [] => none
  else none

theorem after?_length {t rest : Text} (h : after? t = some rest) : rest.length < t.length := by
  rw [after?] at h
  split at h
  · split at h
    · next c r hdrop =>
      obtain ⟨-, rfl⟩ : _ ∧ r = rest := by simpa using h
      have := (List.dropWhile_sublist (l := (t.drop 2).dropWhile isParameter) isIntermediate).length_le
      have := (List.dropWhile_sublist (l := t.drop 2) isParameter).length_le
      have := List.length_drop (i := 2) (l := t)
      rw [hdrop] at *
      simp only [List.length_cons] at *
      omega
    · simp at h
  · simp at h

def strip (t : Text) : Text :=
  match t with
  | [] => []
  | c :: rest =>
    match h : after? (c :: rest) with
    | some rest' =>
      have := after?_length h
      strip rest'
    | none => c :: strip rest
termination_by t.length
decreasing_by all_goals grind

theorem strip_of_notMem {t : Text} (h : escape ∉ t) : strip t = t := by
  induction t with
  | nil => simp [strip]
  | cons c rest ih =>
    have hc : after? (c :: rest) = none := by
      rw [after?, if_neg]
      intro hp
      have := (List.isPrefixOf_iff_prefix.1 hp).subset (List.mem_cons_self)
      exact h this
    rw [strip]
    split
    · simp_all
    · rw [ih fun hr => h (List.mem_cons_of_mem c hr)]

end TextTemplate.ControlSequence
