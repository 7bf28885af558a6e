import TextTemplate.Engine.Session
import TextTemplate.Proofs.Encoding

/-!
# Engines over whole sessions

An update of an engine's markers is accepted as a whole or not at all. The markers after a session are
those at its start with the accepted updates laid over them in order, and what a question is answered
depends on nothing of the steps before it but the markers and the nesting limit that they leave.
-/

namespace TextTemplate

/-! ## Values that write a marker -/

/-- What a value writes: a text itself, and bytes the text that they encode. -/
inductive Value.Writes : Value → Text → Prop
  | text (t : Text) : Value.Writes (.text t) t
  | bytes (cs : List Char) : Value.Writes (.bytes (Text.utf8 cs)) (.ofChars cs)
  | byteArray (cs : List Char) : Value.Writes (.byteArray (Text.utf8 cs)) (.ofChars cs)

namespace Marker

lemma ofText_eq_ok_iff {t : Text} {m : Marker} : ofText t = .ok m ↔ t = m.text := by
  constructor
  · intro h
    unfold ofText ofText? at h
    split at h
    · next hm =>
      split at hm
      · cases hm
        cases h
        rfl
      · cases hm
    · cases h
  · rintro rfl
    rw [ofText, ofText?_text]

lemma ofBytes_eq_ok_iff {bytes : List UInt8} {m : Marker} :
    (match Text.decodeUtf8 bytes with
      | .ok cs => Marker.ofText (.ofChars cs)
      | .error _ => .error .notUnicode) = .ok m ↔ ∃ cs, bytes = Text.utf8 cs ∧ m.text = .ofChars cs := by
  simp only [← Text.decodeUtf8_eq_ok_iff]
  rcases Text.decodeUtf8 bytes with f | cs
  · simp
  · simpa using ofText_eq_ok_iff.trans eq_comm

lemma ofValue_eq_ok_iff {v : Value} {m : Marker} : ofValue v = .ok m ↔ v.Writes m.text := by
  constructor
  · intro h
    cases v with
    | text t =>
      rw [ofText_eq_ok_iff.1 h]
      exact .text _
    | bytes bs =>
      obtain ⟨cs, rfl, htext⟩ := ofBytes_eq_ok_iff.1 h
      rw [htext]
      exact .bytes cs
    | byteArray bs =>
      obtain ⟨cs, rfl, htext⟩ := ofBytes_eq_ok_iff.1 h
      rw [htext]
      exact .byteArray cs
    | _ => cases h
  · intro h
    generalize hm : m.text = t at h
    cases h with
    | text => exact ofText_eq_ok_iff.2 hm.symm
    | bytes cs => exact ofBytes_eq_ok_iff.2 ⟨cs, rfl, hm⟩
    | byteArray cs => exact ofBytes_eq_ok_iff.2 ⟨cs, rfl, hm⟩

end Marker

/-! ## Batches of replacements -/

/-- The key under which a batch gives a marker. -/
def MarkerName.key (n : MarkerName) : Value :=
  .text n.label

lemma MarkerName.ofKey?_eq_some_iff {key : Value} {n : MarkerName} : ofKey? key = some n ↔ key = n.key := by
  constructor
  · intro h
    cases key with
    | text t =>
      have hlabel : (n.label.text == t) = true :=
        List.find?_some (p := fun n : MarkerName => n.label.text == t) h
      rw [MarkerName.key, eq_of_beq hlabel]
    | _ => cases h
  · rintro rfl
    cases n <;> rfl

lemma MarkerName.ofKey?_isNone_iff {key : Value} :
    ¬ (ofKey? key).isNone ↔ ∃ n : MarkerName, key = n.key := by
  rw [Option.isNone_iff_eq_none, ← Ne, Option.ne_none_iff_exists']
  exact exists_congr fun n => ofKey?_eq_some_iff

namespace Markers

namespace Batch

variable {batch : Batch} {n : MarkerName} {v : Value}

/-- A batch gives a value to a marker: no entry behind that of the value has the same name. -/
def Gives (batch : Batch) (n : MarkerName) (v : Value) : Prop :=
  ∃ before after : Batch, batch = before ++ (n.key, v) :: after ∧ ∀ entry ∈ after, entry.1 ≠ n.key

/-- A batch names markers only, and gives each of them a text that is not empty. -/
structure Acceptable (batch : Batch) : Prop where
  named : ∀ entry ∈ batch, ∃ n : MarkerName, entry.1 = n.key
  written : ∀ n v, batch.Gives n v → ∃ t, t ≠ [] ∧ v.Writes t

lemma value?_eq_some_iff : batch.value? n = some v ↔ batch.Gives n v := by
  rw [value?, Option.map_eq_some_iff]
  constructor
  · rintro ⟨⟨key, v'⟩, hfind, rfl⟩
    obtain ⟨hkey, after, before, hsplit, hafter⟩ := List.find?_eq_some_iff_append.1 hfind
    obtain rfl := MarkerName.ofKey?_eq_some_iff.1 (eq_of_beq hkey)
    refine ⟨before.reverse, after.reverse, ?_, ?_⟩
    · have hbatch := congrArg List.reverse hsplit
      simpa using hbatch
    · rintro ⟨key, w⟩ hentry rfl
      have hother := hafter (n.key, w) (List.mem_reverse.1 hentry)
      simp [MarkerName.ofKey?_eq_some_iff] at hother
  · rintro ⟨before, after, rfl, hafter⟩
    refine ⟨(n.key, v), ?_, rfl⟩
    rw [List.find?_eq_some_iff_append]
    refine ⟨beq_iff_eq.2 (MarkerName.ofKey?_eq_some_iff.2 rfl), after.reverse, before.reverse, ?_, ?_⟩
    · simp
    · rintro ⟨key, w⟩ hentry
      have hother := hafter (key, w) (List.mem_reverse.1 hentry)
      simpa [MarkerName.ofKey?_eq_some_iff] using hother

lemma value?_eq_none_iff : batch.value? n = none ↔ ∀ entry ∈ batch, entry.1 ≠ n.key := by
  rw [value?, Option.map_eq_none_iff, List.find?_eq_none]
  simp [MarkerName.ofKey?_eq_some_iff]

lemma unknown?_eq_none_iff :
    batch.unknown? = none ↔ ∀ entry ∈ batch, ∃ n : MarkerName, entry.1 = n.key := by
  rw [unknown?, Option.map_eq_none_iff, List.find?_eq_none]
  exact forall₂_congr fun entry _ => MarkerName.ofKey?_isNone_iff

lemma mem_invalid_iff : n ∈ batch.invalid ↔ ∃ v, batch.Gives n v ∧ ¬ ∃ t, t ≠ [] ∧ v.Writes t := by
  rw [invalid, List.mem_filter, and_iff_right (MarkerName.mem_all n)]
  cases hgiven : batch.value? n with
  | none =>
    refine iff_of_false (by simp) ?_
    rintro ⟨v, hgives, -⟩
    rw [value?_eq_some_iff.2 hgives] at hgiven
    cases hgiven
  | some v =>
    have hgives := value?_eq_some_iff.1 hgiven
    rcases hv : Marker.ofValue v with fault | m
    · have hnone : ¬ ∃ t, t ≠ [] ∧ v.Writes t := by
        rintro ⟨t, hne, hwrites⟩
        have hok : Marker.ofValue v = .ok ⟨t, hne⟩ := Marker.ofValue_eq_ok_iff.2 hwrites
        rw [hv] at hok
        cases hok
      exact iff_of_true (by simp [hv]) ⟨v, hgives, hnone⟩
    · refine iff_of_false (by simp [hv]) ?_
      rintro ⟨w, hother, hnone⟩
      rw [value?_eq_some_iff.2 hother] at hgiven
      obtain rfl := Option.some.inj hgiven
      exact hnone ⟨m.text, m.text_ne_nil, Marker.ofValue_eq_ok_iff.1 hv⟩

lemma invalid_isEmpty_iff :
    batch.invalid.isEmpty ↔ ∀ n v, batch.Gives n v → ∃ t, t ≠ [] ∧ v.Writes t := by
  rw [List.isEmpty_iff, List.eq_nil_iff_forall_not_mem]
  constructor
  · intro hvalid n v hgives
    apply Classical.byContradiction
    exact fun hnone => hvalid n (mem_invalid_iff.2 ⟨v, hgives, hnone⟩)
  · intro hwritten n hinvalid
    obtain ⟨v, hgives, hnone⟩ := mem_invalid_iff.1 hinvalid
    exact hnone (hwritten n v hgives)

end Batch

variable {base : Markers} {batch : Batch}

/-- A configuration is another with a batch laid over it: what the batch names is as the batch writes it,
and the rest as it was. -/
def Overlaid (base : Markers) (batch : Batch) (m : Markers) : Prop :=
  ∀ n, (∃ v, batch.Gives n v ∧ v.Writes (m.get n).text) ∨
    ((∀ entry ∈ batch, entry.1 ≠ n.key) ∧ m.get n = base.get n)

/-- Batches laid over a configuration one after another. -/
inductive OverlaidAll : Markers → List Batch → Markers → Prop
  | none (m : Markers) : OverlaidAll m [] m
  | first {base m m' : Markers} {batch : Batch} {rest : List Batch} :
      base.Overlaid batch m → OverlaidAll m rest m' → OverlaidAll base (batch :: rest) m'

lemma overlaid_overlay (h : batch.Acceptable) : base.Overlaid batch (base.overlay batch) := by
  intro n
  rw [overlay, get_tabulate]
  cases hgiven : batch.value? n with
  | none => exact .inr ⟨Batch.value?_eq_none_iff.1 hgiven, rfl⟩
  | some v =>
    have hgives := Batch.value?_eq_some_iff.1 hgiven
    obtain ⟨t, hne, hwrites⟩ := h.written n v hgives
    have hv : Marker.ofValue v = .ok ⟨t, hne⟩ := Marker.ofValue_eq_ok_iff.2 hwrites
    refine .inl ⟨v, hgives, ?_⟩
    simp only [Option.map_some, hv]
    exact hwrites

lemma override_cases (base : Markers) (batch : Batch) :
    (batch.Acceptable ∧ base.override batch = .ok (base.overlay batch)) ∨
      (¬ batch.Acceptable ∧ ∃ error, base.override batch = .error error) := by
  rw [override]
  cases hunknown : batch.unknown? with
  | some key =>
    refine .inr ⟨fun h => ?_, _, rfl⟩
    rw [Batch.unknown?_eq_none_iff.2 h.named] at hunknown
    cases hunknown
  | none =>
    by_cases hvalid : batch.invalid.isEmpty
    · exact .inl ⟨⟨Batch.unknown?_eq_none_iff.1 hunknown, Batch.invalid_isEmpty_iff.1 hvalid⟩, if_pos hvalid⟩
    · exact .inr ⟨fun h => hvalid (Batch.invalid_isEmpty_iff.2 h.written), _, if_neg hvalid⟩

end Markers

/-! ## Steps -/

/-- The nesting limit that a step sets. -/
def SessionStep.limit? : SessionStep → Option Int
  | .limit maxDepth => some maxDepth
  | _ => none

/-- The batch of a step that was accepted. -/
def SessionStep.accepted? : SessionStep → StepAnswer → Option Markers.Batch
  | .override (.ok batch), .accepted => some batch
  | _, _ => none

lemma SessionStep.accepted?_of_ne {step : SessionStep} {answer : StepAnswer} (h : answer ≠ .accepted) :
    step.accepted? answer = none := by
  unfold accepted?
  split
  · exact absurd rfl h
  · rfl

namespace Engine

/-- What a step answers and leaves, told by the engine that it finds. -/
structure Answers (now next : Engine) (step : SessionStep) (answer : StepAnswer) : Prop where
  accepted : answer = .accepted ↔ ∃ batch, step = .override (.ok batch) ∧ batch.Acceptable
  kept : answer ≠ .accepted → next.markers = now.markers
  written : ∀ n, (next.markers.get n).text ≠ []
  marker : ∀ n : MarkerName, step = .marker n.key → answer = .marker (now.markers.get n).text
  tokens : ∀ template, step = .tokenize template → answer = .tokens (tokenize now.markers template)
  text : ∀ resolver streams template, step = .format (.ok resolver) streams template →
    ∃ outcome, outcome = Render.template ⟨now.markers, resolver, now.maxDepth⟩ template { streams } ∧
      answer = .text outcome.1 outcome.2.calls
  unanswered : ∀ failure streams template, step = .format (.error failure) streams template →
    answer = .text (.error failure) #[]

lemma override_cases (e : Engine) (batch : Markers.Batch) :
    (batch.Acceptable ∧ e.override batch = .ok { e with markers := e.markers.overlay batch }) ∨
      (¬ batch.Acceptable ∧ ∃ error, e.override batch = .error error) := by
  obtain ⟨hbatch, hoverride⟩ | ⟨hbatch, error, hoverride⟩ := e.markers.override_cases batch
  · exact .inl ⟨hbatch, by rw [override, hoverride]; rfl⟩
  · exact .inr ⟨hbatch, error, by rw [override, hoverride]; rfl⟩

lemma after_cases (e : Engine) (step : SessionStep) :
    (∃ batch, step = .override (.ok batch) ∧ batch.Acceptable ∧ (e.answer step).1 = .accepted ∧
        e.markers.Overlaid batch (e.after step).markers) ∨
      ((∀ batch, step = .override (.ok batch) → ¬ batch.Acceptable) ∧ (e.answer step).1 ≠ .accepted ∧
        (e.after step).markers = e.markers) := by
  cases step with
  | override given =>
    cases given with
    | error f => exact .inr ⟨fun batch h => (nomatch h), fun h => (nomatch h), rfl⟩
    | ok batch =>
      obtain ⟨hbatch, hoverride⟩ | ⟨hbatch, error, hoverride⟩ := e.override_cases batch
      · refine .inl ⟨batch, rfl, hbatch, ?_, ?_⟩
        · rw [answer, hoverride]
        · rw [after, hoverride]
          exact Markers.overlaid_overlay hbatch
      · refine .inr ⟨fun other hother => ?_, ?_, ?_⟩
        · cases hother
          exact hbatch
        · rw [answer, hoverride]
          exact fun h => (nomatch h)
        · rw [after, hoverride]
  | writeCopy name literal =>
    refine .inr ⟨fun batch h => (nomatch h), ?_, rfl⟩
    rw [answer]
    split <;> simp
  | marker name =>
    refine .inr ⟨fun batch h => (nomatch h), ?_, rfl⟩
    rw [answer]
    split <;> simp
  | format resolver streams template =>
    refine .inr ⟨fun batch h => (nomatch h), ?_, rfl⟩
    cases resolver <;> simp [answer]
  | _ => exact .inr ⟨fun batch h => (nomatch h), fun h => (nomatch h), rfl⟩

lemma after_maxDepth (e : Engine) (step : SessionStep) :
    (e.after step).maxDepth = step.limit?.getD e.maxDepth := by
  cases step with
  | override given =>
    cases given with
    | error f => rfl
    | ok batch =>
      rw [after, override]
      cases e.markers.override batch <;> rfl
  | _ => rfl

lemma answers_after (e : Engine) (step : SessionStep) :
    e.Answers (e.after step) step (e.answer step).1 where
  accepted := by
    obtain ⟨batch, rfl, hbatch, haccepted, -⟩ | ⟨hbatch, hrefused, -⟩ := e.after_cases step
    · exact iff_of_true haccepted ⟨batch, rfl, hbatch⟩
    · exact iff_of_false hrefused fun ⟨batch, hstep, h⟩ => hbatch batch hstep h
  kept := by
    intro hrefused
    obtain ⟨batch, -, -, haccepted, -⟩ | ⟨-, -, hkept⟩ := e.after_cases step
    · exact absurd haccepted hrefused
    · exact hkept
  written n := ((e.after step).markers.get n).text_ne_nil
  marker := by
    rintro n rfl
    cases n <;> rfl
  tokens := by
    rintro template rfl
    rfl
  text := by
    rintro resolver streams template rfl
    exact ⟨_, rfl, rfl⟩
  unanswered := by
    rintro failure streams template rfl
    rfl

/-! ## Sessions -/

/-- The batches of the steps that were accepted, in order. -/
def accepted (e : Engine) (steps : List SessionStep) : List Markers.Batch :=
  (steps.zip (e.run steps)).filterMap fun (step, answer, _) => step.accepted? answer

variable {e : Engine} {step : SessionStep} {steps rest : List SessionStep}

lemma afterAll_cons : e.afterAll (step :: rest) = (e.after step).afterAll rest := rfl

lemma run_cons :
    e.run (step :: rest) =
      ((e.answer step).1, (e.answer step).2, e.after step) :: (e.after step).run rest := rfl

lemma accepted_cons :
    e.accepted (step :: rest) =
      (step.accepted? (e.answer step).1).toList ++ (e.after step).accepted rest := by
  rw [accepted, run_cons, List.zip_cons_cons, List.filterMap_cons]
  cases h : step.accepted? (e.answer step).1 <;> simp [h, accepted]

lemma overlaidAll_accepted (e : Engine) (steps : List SessionStep) :
    Markers.OverlaidAll e.markers (e.accepted steps) (e.afterAll steps).markers := by
  induction steps generalizing e with
  | nil => exact .none e.markers
  | cons step rest ih =>
    have hrest := ih (e.after step)
    rw [accepted_cons, afterAll_cons]
    obtain ⟨batch, rfl, -, haccepted, hover⟩ | ⟨-, hrefused, hkept⟩ := e.after_cases step
    · rw [haccepted]
      exact .first hover hrest
    · rw [SessionStep.accepted?_of_ne hrefused]
      rw [hkept] at hrest
      exact hrest

lemma afterAll_maxDepth (e : Engine) (steps : List SessionStep) :
    (e.afterAll steps).maxDepth = (steps.filterMap SessionStep.limit?).getLast?.getD e.maxDepth := by
  induction steps generalizing e with
  | nil => rfl
  | cons step rest ih =>
    rw [afterAll_cons, ih, after_maxDepth, List.filterMap_cons]
    cases step.limit? with
    | none => rfl
    | some limit => simp [List.getLast?_cons]

lemma run_getElem? (e : Engine) (before after : List SessionStep) (step : SessionStep) :
    ∃ notes, (e.run (before ++ step :: after))[before.length]? =
      some (((e.afterAll before).answer step).1, notes, e.afterAll (before ++ [step])) := by
  induction before generalizing e with
  | nil => exact ⟨(e.answer step).2, rfl⟩
  | cons earlier before ih => exact ih (e.after earlier)

/-- What a session answers and leaves. -/
structure Lawful (e : Engine) (steps : List SessionStep) : Prop where
  overlaid : Markers.OverlaidAll e.markers (e.accepted steps) (e.afterAll steps).markers
  limited : (e.afterAll steps).maxDepth = (steps.filterMap SessionStep.limit?).getLast?.getD e.maxDepth
  answered : ∀ before step after, steps = before ++ step :: after → ∃ answer notes next,
    (e.run steps)[before.length]? = some (answer, notes, next) ∧ next = e.afterAll (before ++ [step]) ∧
      (e.afterAll before).Answers next step answer

/-- Whatever the steps of a session are, its updates are accepted or refused as wholes, those accepted make
up the markers, and each question is answered from the engine as it stands. -/
theorem session_lawful (e : Engine) (steps : List SessionStep) : e.Lawful steps where
  overlaid := overlaidAll_accepted e steps
  limited := afterAll_maxDepth e steps
  answered := by
    rintro before step after rfl
    obtain ⟨notes, hrun⟩ := run_getElem? e before after step
    refine ⟨_, notes, _, hrun, rfl, ?_⟩
    have hnext : e.afterAll (before ++ [step]) = (e.afterAll before).after step := List.foldl_append
    rw [hnext]
    exact answers_after (e.afterAll before) step

end Engine

end TextTemplate
