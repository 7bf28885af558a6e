import TextTemplate.Proofs.Blocks

/-!
# How a token list is read

Rendering takes a token list apart from its start: a text, a command without a block, a block up to the
first command with the text of its end, or a block that no command ends. Every list can be read so, well
nested or not, and what holds of its parts may be put together again by induction.
-/

namespace TextTemplate

/-- No command of a list has a text. -/
def Lacks (text : Text) (tokens : List Token) : Prop :=
  ∀ t ∈ tokens, t.isCommand = true → t.text ≠ text

instance (text : Text) (tokens : List Token) : Decidable (Lacks text tokens) :=
  inferInstanceAs (Decidable (∀ t ∈ tokens, _))

lemma Lacks.append {text : Text} {a b : List Token} (ha : Lacks text a) (hb : Lacks text b) :
    Lacks text (a ++ b) := by
  intro t ht
  rcases List.mem_append.1 ht with hleft | hright
  · exact ha t hleft
  · exact hb t hright

lemma lacks_singleton {text : Text} {t : Token} (ht : t.text ≠ text) : Lacks text [t] := by
  intro u hu _
  obtain rfl := List.mem_singleton.1 hu
  exact ht

lemma lacks_or_split (text : Text) (tokens : List Token) :
    Lacks text tokens ∨ ∃ before found after, tokens = before ++ found :: after ∧
      found.isCommand = true ∧ found.text = text ∧ Lacks text before := by
  induction tokens with
  | nil =>
    left
    intro t ht
    simp at ht
  | cons t rest ih =>
    by_cases hfound : t.isCommand = true ∧ t.text = text
    · right
      exact ⟨[], t, rest, rfl, hfound.1, hfound.2, by intro u hu; simp at hu⟩
    · have ht : Lacks text [t] := by
        intro u hu hcommand htext
        obtain rfl := List.mem_singleton.1 hu
        exact hfound ⟨hcommand, htext⟩
      rcases ih with hlacks | ⟨before, found, after, rfl, hcommand, htext, hbefore⟩
      · left
        exact ht.append hlacks
      · right
        exact ⟨t :: before, found, after, rfl, hcommand, htext, ht.append hbefore⟩

/-- A token list, taken apart as rendering does. -/
inductive Reading (m : Markers) : List Token → Prop where
  | nil : Reading m []
  | text {t : Token} {rest : List Token} (ht : t.isCommand = false) (hrest : Reading m rest) :
      Reading m (t :: rest)
  | ending {t : Token} {rest : List Token} (hcommand : t.isCommand = true)
      (ht : m.ending.text <+: t.text) (hrest : Reading m rest) : Reading m (t :: rest)
  | substitution {t : Token} {rest : List Token} (hcommand : t.isCommand = true)
      (ht : t.text.IsSubstitution m) (hrest : Reading m rest) : Reading m (t :: rest)
  | conditional {t close : Token} {body rest : List Token} (hcommand : t.isCommand = true)
      (ht : t.text.IsTest m) (hclose : close.isCommand = true)
      (htext : close.text = m.ending.text ++ t.text) (hend : Lacks (m.ending.text ++ t.text) body)
      (hno : Lacks (m.otherwise.text ++ t.text) body) (hbody : Reading m body)
      (hrest : Reading m rest) : Reading m (t :: (body ++ close :: rest))
  | choice {t separator close : Token} {holds otherwise rest : List Token} (hcommand : t.isCommand = true)
      (ht : t.text.IsTest m) (hclose : close.isCommand = true)
      (htext : close.text = m.ending.text ++ t.text) (hseparator : separator.isCommand = true)
      (hother : separator.text = m.otherwise.text ++ t.text)
      (hend : Lacks (m.ending.text ++ t.text) (holds ++ separator :: otherwise))
      (hno : Lacks (m.otherwise.text ++ t.text) holds) (hholds : Reading m holds)
      (hotherwise : Reading m otherwise) (hrest : Reading m rest) :
      Reading m (t :: (holds ++ separator :: otherwise ++ close :: rest))
  | loop {t close : Token} {body rest : List Token} (hcommand : t.isCommand = true)
      (ht : t.text.IsLoop m) (hclose : close.isCommand = true) (htext : close.text = t.text.loopEnd m)
      (hend : Lacks (t.text.loopEnd m) body) (hbody : Reading m body) (hrest : Reading m rest) :
      Reading m (t :: (body ++ close :: rest))
  | openConditional {t : Token} {rest : List Token} (hcommand : t.isCommand = true)
      (ht : t.text.IsTest m) (hend : Lacks (m.ending.text ++ t.text) rest) : Reading m (t :: rest)
  | openLoop {t : Token} {rest : List Token} (hcommand : t.isCommand = true)
      (ht : t.text.IsLoop m) (hend : Lacks (t.text.loopEnd m) rest) : Reading m (t :: rest)

namespace Reading

variable {m : Markers} {t : Token} {rest : List Token}

lemma of_test (hcommand : t.isCommand = true) (ht : t.text.IsTest m)
    (h : ∀ part : List Token, part.length ≤ rest.length → Reading m part) : Reading m (t :: rest) := by
  rcases lacks_or_split (m.ending.text ++ t.text) rest with hend | ⟨body, close, after, rfl, hclose, htext,
    hend⟩
  · exact .openConditional hcommand ht hend
  · have hafter : Reading m after := h after (by simp; omega)
    rcases lacks_or_split (m.otherwise.text ++ t.text) body with hno | ⟨holds, separator, otherwise, rfl,
      hseparator, hother, hno⟩
    · have hbody : Reading m body := h body (by simp)
      exact .conditional hcommand ht hclose htext hend hno hbody hafter
    · have hholds : Reading m holds := h holds (by simp)
      have hotherwise : Reading m otherwise := h otherwise (by simp; omega)
      exact .choice hcommand ht hclose htext hseparator hother hend hno hholds hotherwise hafter

lemma of_loop (hcommand : t.isCommand = true) (ht : t.text.IsLoop m)
    (h : ∀ part : List Token, part.length ≤ rest.length → Reading m part) : Reading m (t :: rest) := by
  rcases lacks_or_split (t.text.loopEnd m) rest with hend | ⟨body, close, after, rfl, hclose, htext, hend⟩
  · exact .openLoop hcommand ht hend
  · have hbody : Reading m body := h body (by simp)
    have hafter : Reading m after := h after (by simp; omega)
    exact .loop hcommand ht hclose htext hend hbody hafter

theorem of_list (m : Markers) (tokens : List Token) : Reading m tokens := by
  -- What a block holds and what follows it are shorter than the list that starts with its opener.
  induction hn : tokens.length using Nat.strongRecOn generalizing tokens with
  | ind n ih =>
    cases tokens with
    | nil => exact .nil
    | cons t rest =>
      have hshorter : ∀ part : List Token, part.length ≤ rest.length → Reading m part := by
        intro part hpart
        rw [List.length_cons] at hn
        exact ih part.length (by omega) part rfl
      by_cases hcommand : t.isCommand = true
      · by_cases hending : m.ending.text <+: t.text
        · exact .ending hcommand hending (hshorter rest (Nat.le_refl _))
        · by_cases hloop : m.loop.text <+: t.text
          · exact of_loop hcommand ⟨hending, hloop⟩ hshorter
          · by_cases htest : m.test.text <+: t.text
            · exact of_test hcommand ⟨hending, hloop, htest⟩ hshorter
            · exact .substitution hcommand ⟨hending, hloop, htest⟩ (hshorter rest (Nat.le_refl _))
      · exact .text (by simpa using hcommand) (hshorter rest (Nat.le_refl _))

end Reading

/-! ## Commands without a block and blocks without an end -/

namespace Render

variable {c : Context} {t : Token} {rest : List Token}

lemma all_ending (hcommand : t.isCommand = true) (ht : c.markers.ending.text <+: t.text) :
    all c (t :: rest) = all c rest := by
  have hstep : Step.ofPosition c.markers (t :: rest).toArray 0 (t :: rest).length = .skip := by
    simp [Step.ofPosition, hcommand, Text.startsWith_iff, ht]
  rw [all, range_skip (by simp) hstep]
  exact range_rest c [t] rest

lemma requireEnd_open (construct : Construct) (opener : Token)
    (hend : Lacks (c.markers.ending.text ++ opener.text) rest) :
    requireEnd c.markers (t :: rest).toArray construct opener 0 (t :: rest).length =
      .error (.unterminated construct opener.text opener.line) := by
  have hlength : (t :: rest).length = [t].length + rest.length := by simp [Nat.add_comm]
  have hfind : findEnd c.markers (t :: rest).toArray opener 0 (t :: rest).length = none := by
    rw [hlength]
    have hmissing : findCommand ([t] ++ (rest ++ [])).toArray (c.markers.ending.text ++ opener.text) [t].length
        ([t].length + rest.length) = none := findCommand_missing [t] hend
    rwa [List.append_nil] at hmissing
  rw [requireEnd, hfind]
  simp

lemma all_openConditional (hcommand : t.isCommand = true) (ht : t.text.IsTest c.markers)
    (hend : Lacks (c.markers.ending.text ++ t.text) rest) :
    all c (t :: rest) = fail (.unterminated .conditional t.text t.line) := by
  have hstep : Step.ofPosition c.markers (t :: rest).toArray 0 (t :: rest).length =
      .failure (.unterminated .conditional t.text t.line) := by
    have hopen := requireEnd_open (t := t) .conditional t hend
    rw [Step.ofPosition]
    simp only [List.getElem?_toArray, List.getElem?_cons_zero, hcommand, Text.startsWith_iff,
      ht.not_ending, ht.not_loop, ht.test, Step.ofConditional, hopen]
    rfl
  rw [all, range_failure (by simp) hstep]

/-- The text by which a loop's end is looked for, the end marker apart. -/
def loopStem (m : Markers) (opener : Text) : Text :=
  m.loop.text ++ (opener.loopParts m).1.trimEnd

lemma all_openLoop (hcommand : t.isCommand = true) (ht : t.text.IsLoop c.markers)
    (hend : Lacks (t.text.loopEnd c.markers) rest) :
    all c (t :: rest) = fail (.unterminated .loop (loopStem c.markers t.text) t.line) := by
  have hstep : Step.ofPosition c.markers (t :: rest).toArray 0 (t :: rest).length =
      .failure (.unterminated .loop (loopStem c.markers t.text) t.line) := by
    have hopen := requireEnd_open (t := t) .loop (t.withText (loopStem c.markers t.text)) hend
    unfold loopStem Text.loopParts at hopen ⊢
    rw [Step.ofPosition]
    simp only [List.getElem?_toArray, List.getElem?_cons_zero, hcommand, Text.startsWith_iff,
      ht.not_ending, ht.loop, Step.ofLoop, hopen]
    rfl
  rw [all, range_failure (by simp) hstep]

end Render

end TextTemplate
