import Mathlib.Control.Monad.Basic
import TextTemplate.Proofs.Watch
import TextTemplate.Template.Basic

/-!
# Answers are opaque

The text of an answer is shown as it is and never read as a template. Of two resolvers whose answers differ
only where both give a text that is not empty, the runs take the same course: they ask the same questions
and enter the same bodies, and what they put out differs only where the answers are shown.
-/

namespace TextTemplate

/-- Two results that are the same, or two texts that are not empty. -/
inductive Alike : Except Failure Value → Except Failure Value → Prop where
  | same (result : Except Failure Value) : Alike result result
  | texts {t t' : Text} : t ≠ [] → t' ≠ [] → Alike (.ok (.text t)) (.ok (.text t'))

/-- A piece of the output. -/
inductive Fragment where
  | fixed (text : Text)
  /-- What a resolver answers to an expression, having been asked others before. -/
  | answer (asked : Array Text) (expression : Text)

namespace Fragment

/-- The text of a fragment, if the resolver answers with one. -/
def fill? (r : Resolver) : Fragment → Option Text
  | fixed text => some text
  | answer asked expression =>
    match (r asked expression).result with
    | .ok (.text t) => some t
    | _ => none

def fillAll? (r : Resolver) : List Fragment → Option Text
  | [] => some []
  | f :: rest => do return (← f.fill? r) ++ (← fillAll? r rest)

/-- The expression of a fragment was asked in the course of a run with these questions. -/
def AskedIn (calls : Array Text) : Fragment → Prop
  | fixed _ => True
  | answer asked expression => (asked.push expression).toList <+: calls.toList

lemma fillAll?_append {r : Resolver} {a b : List Fragment} {t u : Text}
    (ht : fillAll? r a = some t) (hu : fillAll? r b = some u) : fillAll? r (a ++ b) = some (t ++ u) := by
  induction a generalizing t with
  | nil =>
    obtain rfl : [] = t := Option.some.inj ht
    exact hu
  | cons f rest ih =>
    rw [fillAll?] at ht
    obtain ⟨first, hfirst, ht⟩ := Option.bind_eq_some_iff.1 ht
    obtain ⟨more, hmore, ht⟩ := Option.bind_eq_some_iff.1 ht
    obtain rfl : first ++ more = t := Option.some.inj ht
    rw [List.cons_append, fillAll?, hfirst, ih hmore, List.append_assoc]
    rfl

lemma AskedIn.mono {calls calls' : Array Text} {f : Fragment} (h : f.AskedIn calls)
    (hgrown : calls.toList <+: calls'.toList) : f.AskedIn calls' := by
  cases f with
  | fixed text => trivial
  | answer asked expression => exact List.IsPrefix.trans h hgrown

end Fragment

/-- Two texts that are filled from the same fragments, each with the answers of one of two resolvers. -/
def Filled (r r' : Resolver) (calls : Array Text) (t t' : Text) : Prop :=
  ∃ fragments : List Fragment, (∀ f ∈ fragments, f.AskedIn calls) ∧
    Fragment.fillAll? r fragments = some t ∧ Fragment.fillAll? r' fragments = some t'

section Filled

variable {r r' : Resolver} {calls calls' : Array Text} {t t' u u' : Text}

lemma filled_fixed (t : Text) : Filled r r' calls t t := by
  refine ⟨[.fixed t], ?_, ?_, ?_⟩
  · intro f hf
    obtain rfl := List.mem_singleton.1 hf
    trivial
  · exact congrArg some (List.append_nil t)
  · exact congrArg some (List.append_nil t)

lemma Filled.append (h : Filled r r' calls t t') (hgrown : calls.toList <+: calls'.toList)
    (h' : Filled r r' calls' u u') : Filled r r' calls' (t ++ u) (t' ++ u') := by
  obtain ⟨a, hasked, ht, ht'⟩ := h
  obtain ⟨b, hasked', hu, hu'⟩ := h'
  refine ⟨a ++ b, ?_, Fragment.fillAll?_append ht hu, Fragment.fillAll?_append ht' hu'⟩
  intro f hf
  rcases List.mem_append.1 hf with hleft | hright
  · exact (hasked f hleft).mono hgrown
  · exact hasked' f hright

end Filled

/-- Two values that are the same, or the texts with which two resolvers answer one question. -/
inductive Answered (r r' : Resolver) (calls : Array Text) : Value → Value → Prop where
  | same (v : Value) : Answered r r' calls v v
  | texts {t t' : Text} (asked : Array Text) (e : Text) (shown : t ≠ []) (shown' : t' ≠ [])
      (answer : (r asked e).result = .ok (.text t)) (answer' : (r' asked e).result = .ok (.text t'))
      (within : (asked.push e).toList <+: calls.toList) : Answered r r' calls (.text t) (.text t')

namespace Answered

variable {r r' : Resolver} {calls : Array Text} {v v' : Value}

lemma isTruthy_eq (h : Answered r r' calls v v') : v.isTruthy = v'.isTruthy := by
  cases h with
  | same => rfl
  | texts _ _ shown shown' =>
    simp only [Value.isTruthy, List.isEmpty_eq_false_iff.2 shown, List.isEmpty_eq_false_iff.2 shown']

lemma typeName_eq (h : Answered r r' calls v v') : v.typeName = v'.typeName := by
  cases h with
  | same => rfl
  | texts => rfl

lemma display (h : Answered r r' calls v v') :
    (∃ f, v.display = .error f ∧ v'.display = .error f) ∨
      ∃ t t', v.display = .ok t ∧ v'.display = .ok t' ∧ Filled r r' calls t t' := by
  cases h with
  | same =>
    cases v.display with
    | error f => exact .inl ⟨f, rfl, rfl⟩
    | ok t => exact .inr ⟨t, t, rfl, rfl, filled_fixed t⟩
  | @texts t t' asked e _ _ answer answer' within =>
    refine .inr ⟨t, t', rfl, rfl, [.answer asked e], ?_, ?_, ?_⟩
    · intro f hf
      obtain rfl := List.mem_singleton.1 hf
      exact within
    · simp [Fragment.fillAll?, Fragment.fill?, answer]
    · simp [Fragment.fillAll?, Fragment.fill?, answer']

end Answered

/-- A moment without the notes, which a resolver may add to as it likes. -/
def Moment.unnoted : Moment → Moment
  | evaluating s e => evaluating { s with notes := #[] } e
  | entering s opener => entering { s with notes := #[] } opener
  | leaving => leaving

/-- Two sightings of runs that take the same course and end alike, from where `asked` were asked. -/
inductive Abreast {α : Type} (Q : Array Text → α → α → Prop) (asked : Array Text) :
    Sighting α → Sighting α → Prop where
  | failed (f : Failure) (t : RunState) (notes : Array Note) {moments moments' : List Moment}
      (grown : asked.toList <+: t.calls.toList)
      (course : moments.map Moment.unnoted = moments'.map Moment.unnoted) :
      Abreast Q asked ⟨(.error f, t), moments⟩ ⟨(.error f, { t with notes := notes }), moments'⟩
  | done {a a' : α} (t : RunState) (notes : Array Note) {moments moments' : List Moment}
      (alike : Q t.calls a a') (grown : asked.toList <+: t.calls.toList)
      (course : moments.map Moment.unnoted = moments'.map Moment.unnoted) :
      Abreast Q asked ⟨(.ok a, t), moments⟩ ⟨(.ok a', { t with notes := notes }), moments'⟩

namespace Abreast

variable {α : Type} {Q : Array Text → α → α → Prop} {asked calls : Array Text} {x x' : Sighting α}

lemma around {before before' later later' : List Moment} (h : Abreast Q calls x x')
    (hgrown : asked.toList <+: calls.toList)
    (hbefore : before.map Moment.unnoted = before'.map Moment.unnoted)
    (hlater : later.map Moment.unnoted = later'.map Moment.unnoted) :
    Abreast Q asked ⟨x.ending, before ++ (x.moments ++ later)⟩
      ⟨x'.ending, before' ++ (x'.moments ++ later')⟩ := by
  cases h with
  | failed f t notes grown course =>
    refine .failed f t notes (hgrown.trans grown) ?_
    simp only [List.map_append, hbefore, hlater, course]
  | done t notes alike grown course =>
    refine .done t notes alike (hgrown.trans grown) ?_
    simp only [List.map_append, hbefore, hlater, course]

lemma undone {g : RunState → RunState} (h : Abreast Q asked x x') (hcalls : ∀ t, (g t).calls = t.calls)
    (hnotes : ∀ t notes, g { t with notes := notes } = { g t with notes := notes }) :
    Abreast Q asked ⟨(x.ending.1, g x.ending.2), x.moments⟩
      ⟨(x'.ending.1, g x'.ending.2), x'.moments⟩ := by
  cases h with
  | failed f t notes grown course =>
    dsimp only
    rw [hnotes t notes]
    exact .failed f (g t) notes (by rw [hcalls]; exact grown) course
  | done t notes alike grown course =>
    dsimp only
    rw [hnotes t notes]
    exact .done (g t) notes (by rw [hcalls]; exact alike) (by rw [hcalls]; exact grown) course

end Abreast

namespace Watch

variable {α β : Type}

/-- Two pieces whose runs from one state go abreast, whatever was noted before. -/
def Side (Q : Array Text → α → α → Prop) (w w' : Watch α) (s : RunState) : Prop :=
  ∀ notes, Abreast Q s.calls (w s) (w' { s with notes := notes })

section Side

variable {Q : Array Text → α → α → Prop} {Q' : Array Text → β → β → Prop} {s : RunState}

lemma side_pure {a a' : α} (h : Q s.calls a a') : Side Q (pure a) (pure a') s :=
  fun notes => .done s notes h (List.prefix_refl _) rfl

lemma side_fail (f : Failure) : Side Q (plain (Render.fail f)) (plain (Render.fail f)) s := by
  intro notes
  unfold plain Render.fail
  cases Note.ofFailure? f with
  | none => exact .failed f s notes (List.prefix_refl _) rfl
  | some n => exact .failed f { s with notes := s.notes.push n } (notes.push n) (List.prefix_refl _) rfl

lemma side_throw (f : Failure) : Side Q (plain (throw f)) (plain (throw f)) s :=
  fun notes => .failed f s notes (List.prefix_refl _) rfl

lemma side_note (n : Note) :
    Side (fun _ _ _ => True) (plain (Render.note n)) (plain (Render.note n)) s :=
  fun notes => .done { s with notes := s.notes.push n } (notes.push n) trivial (List.prefix_refl _) rfl

lemma side_bind {w w' : Watch α} {f f' : α → Watch β} (hw : Side Q w w' s)
    (hf : ∀ a a' t, s.calls.toList <+: t.calls.toList → Q t.calls a a' → Side Q' (f a) (f' a') t) :
    Side Q' (w >>= f) (w' >>= f') s := by
  intro notes
  have h := hw notes
  rw [bind_apply, bind_apply]
  generalize w s = first at h ⊢
  generalize w' { s with notes := notes } = first' at h ⊢
  cases h with
  | failed e t notes' grown course => exact .failed e t notes' grown course
  | done t notes' alike grown course =>
    have hthen := hf _ _ t grown alike notes'
    have hnothing : ([] : List Moment).map Moment.unnoted = [].map Moment.unnoted := rfl
    simpa using hthen.around grown course hnothing

lemma side_inBody (c : Context) (r r' : Resolver) (opener : Token) {w w' : Watch α}
    (hw : ∀ s, Side Q w w' s) :
    Side Q (inBody { c with resolver := r } opener w) (inBody { c with resolver := r' } opener w') s := by
  intro notes
  rw [inBody_apply, inBody_apply]
  by_cases hdeep : c.maxDepth ≠ 0 ∧ c.maxDepth < s.depth + 1
  · rw [if_pos hdeep, if_pos hdeep]
    exact .failed _ s notes (List.prefix_refl _) rfl
  · rw [if_neg hdeep, if_neg hdeep]
    have hbody := hw { s with depth := s.depth + 1 } notes
    have hentering : [Moment.entering s opener].map Moment.unnoted =
        [Moment.entering { s with notes := notes } opener].map Moment.unnoted := rfl
    have hleft := hbody.undone (g := fun t => { t with depth := t.depth - 1 }) (fun _ => rfl) fun _ _ => rfl
    exact hleft.around (List.prefix_refl _) hentering rfl

lemma side_withFrame (frame : Frame) {w w' : Watch α} (hw : ∀ s, Side Q w w' s) :
    Side Q (withFrame frame w) (withFrame frame w') s := by
  intro notes
  have hbody := hw { s with frames := s.frames ++ [frame] } notes
  exact hbody.undone (g := fun t => { t with frames := t.frames.dropLast }) (fun _ => rfl) fun _ _ => rfl

end Side

section Runs

variable (c : Context) {r r' : Resolver} {s : RunState}

lemma side_lookup (halike : ∀ asked e, Alike (r asked e).result (r' asked e).result) (e : Text) :
    Side (Answered r r') (lookup { c with resolver := r } e) (lookup { c with resolver := r' } e) s := by
  intro notes
  unfold lookup
  rw [Render.lookup_apply, Render.lookup_apply]
  dsimp only
  rcases Frame.lookup? c.markers s.frames e with _ | f | v
  · have h := halike s.calls e
    have hgrown : s.calls.toList <+: (s.calls.push e).toList := by simp
    unfold Render.ask
    dsimp only
    generalize hresult : (r s.calls e).result = result at h ⊢
    generalize hresult' : (r' s.calls e).result = result' at h ⊢
    cases h with
    | same =>
      cases result with
      | error f => exact .failed f { s with calls := s.calls.push e, notes := _ } _ hgrown rfl
      | ok v => exact .done { s with calls := s.calls.push e, notes := _ } _ (.same v) hgrown rfl
    | texts shown shown' =>
      have hanswered := Answered.texts s.calls e shown shown' hresult hresult' (List.prefix_refl _)
      exact .done { s with calls := s.calls.push e, notes := _ } _ hanswered hgrown rfl
  · exact .failed f s notes (List.prefix_refl _) rfl
  · exact .done s notes (.same v) (List.prefix_refl _) rfl

lemma side_takePairs? {v v' : Value} {calls : Array Text} (h : Answered r r' calls v v') :
    Side (fun _ pairs? pairs?' => pairs? = pairs?') (plain (Render.takePairs? v))
      (plain (Render.takePairs? v')) s := by
  intro notes
  cases h with
  | same =>
    exact .done { s with streams := v.drained s.streams } notes rfl (List.prefix_refl _) rfl
  | texts => exact .done s notes rfl (List.prefix_refl _) rfl

lemma side_display {v v' : Value} (h : Answered r r' s.calls v v') :
    Side (Filled r r') (plain v.display) (plain v'.display) s := by
  intro notes
  unfold plain
  rcases h.display with ⟨f, hv, hv'⟩ | ⟨t, t', hv, hv', hfilled⟩
  · rw [hv, hv']
    exact .failed f s notes (List.prefix_refl _) rfl
  · rw [hv, hv']
    exact .done s notes hfilled (List.prefix_refl _) rfl

variable {c}

lemma side_append {w w' v v' : Watch Text} (hw : ∀ s, Side (Filled r r') w w' s)
    (hv : ∀ s, Side (Filled r r') v v' s) : Side (Filled r r') (w.append v) (w'.append v') s := by
  refine side_bind (hw s) fun piece piece' t _ hpiece => ?_
  exact side_bind (hv t) fun more more' u hgrown hmore => side_pure (hpiece.append hgrown hmore)

variable (c)

lemma side_walk (opener : Token) (frame : Frame) {w w' : Watch Text}
    (hw : ∀ s, Side (Filled r r') w w' s) (row : Nat) (pairs : List (Value × Value)) :
    Side (Filled r r') (walk { c with resolver := r } opener frame w row pairs)
      (walk { c with resolver := r' } opener frame w' row pairs) s := by
  induction pairs generalizing row s with
  | nil => exact side_pure (filled_fixed [])
  | cons pair rest ih =>
    obtain ⟨key, value⟩ := pair
    exact side_append (fun _ => side_withFrame _ fun _ => side_inBody c r r' opener hw)
      (fun _ => ih (row + 1))

theorem parallel_side (halike : ∀ asked e, Alike (r asked e).result (r' asked e).result) :
    Parallel { c with resolver := r } { c with resolver := r' }
      fun w w' => ∀ s, Side (Filled r r') w w' s where
  text t _ := side_pure (filled_fixed t)
  append hw hv _ := side_append hw hv
  substitution e _ := side_bind (side_lookup c halike e) fun _ _ _ _ hanswer => side_display hanswer
  loop block w w' hw s := by
    have hget : Side (fun _ t t' => t.frames = t'.frames) (plain get) (plain get) s :=
      fun notes => .done s notes rfl (List.prefix_refl _) rfl
    refine side_bind hget fun t t' _ _ hframes => ?_
    rw [hframes]
    refine side_bind (side_lookup c halike block.target) fun v v' _ _ hanswer => ?_
    refine side_bind (side_takePairs? hanswer) fun pairs? pairs?' _ _ hpairs => ?_
    subst hpairs
    cases pairs? with
    | none =>
      rw [hanswer.typeName_eq]
      exact side_bind (side_note _) fun _ _ _ _ _ => side_throw _
    | some pairs => exact side_bind (side_note _) fun _ _ _ _ _ => side_walk c _ _ hw 0 pairs
  conditional block w w' v? v'? hw hv s := by
    refine side_bind (side_lookup c halike block.test) fun v v' t _ hanswer => ?_
    rw [hanswer.isTruthy_eq]
    split
    · exact side_inBody c r r' _ hw
    · cases hv with
      | none => exact side_pure (filled_fixed [])
      | some h => exact side_inBody c r r' _ h
  fail f _ := side_fail f

theorem side_template (halike : ∀ asked e, Alike (r asked e).result (r' asked e).result) (source : Text)
    (s : RunState) :
    Side (Filled r r') (template { c with resolver := r } source)
      (template { c with resolver := r' } source) s := by
  have htokens : Side (fun _ tokens tokens' => tokens = tokens') (plain (Render.tokens c.markers source))
      (plain (Render.tokens c.markers source)) s := by
    intro notes
    unfold plain
    rw [Render.tokens_apply, Render.tokens_apply]
    cases tokenize c.markers source with
    | error f => exact .failed f { s with notes := _ } _ (List.prefix_refl _) rfl
    | ok tokens => exact .done { s with notes := _ } _ rfl (List.prefix_refl _) rfl
  refine side_bind htokens fun tokens tokens' t _ heq => ?_
  subst heq
  exact (parallel_side c halike).range rfl _ _ _ t

end Runs

end Watch

/-- Answers are never read as template text. Where two resolvers answer alike, that is, with the same
result or with texts that are not empty, the runs of a template ask the same questions and pass through the
same moments. They end with the same failure, or with texts that are filled from the same fragments, each
with the answers of its own resolver. -/
theorem Engine.format_alike (engine : Engine) {r r' : Resolver}
    (halike : ∀ asked e, Alike (r asked e).result (r' asked e).result) (streams : Value.Streams)
    (template : Text) :
    let run := engine.format r streams template
    let run' := engine.format r' streams template
    run.2.calls = run'.2.calls ∧
      (engine.watch r streams template).moments.map Moment.unnoted =
        (engine.watch r' streams template).moments.map Moment.unnoted ∧
      ((∃ f, run.1 = .error f ∧ run'.1 = .error f) ∨
        ∃ t t', run.1 = .ok t ∧ run'.1 = .ok t' ∧ Filled r r' run.2.calls t t') := by
  intro run run'
  have hrun : (engine.watch r streams template).ending = run := engine.watch_ending r streams template
  have hrun' : (engine.watch r' streams template).ending = run' := engine.watch_ending r' streams template
  have h : Abreast (Filled r r') #[] (engine.watch r streams template) (engine.watch r' streams template) :=
    Watch.side_template (engine.context r) halike template { streams := streams } #[]
  rw [← hrun, ← hrun']
  generalize engine.watch r streams template = sighting at h ⊢
  generalize engine.watch r' streams template = sighting' at h ⊢
  cases h with
  | failed f t notes grown course => exact ⟨rfl, course, .inl ⟨f, rfl, rfl⟩⟩
  | done t notes filled grown course => exact ⟨rfl, course, .inr ⟨_, _, rfl, rfl, filled⟩⟩

/-- The resolver that answers every expression with one text. -/
def Resolver.constant (t : Text) : Resolver :=
  .ofFunction fun _ => .ok (.text t)

/-- An answer that reads like the end of the block it stands in. -/
theorem Engine.format_alike_markup :
    let engine : Engine := ⟨.default, 0⟩
    let template := (Template.conditional ['a'] (.substitution ['b'] .empty) .empty).source .default
    let markup := Template.command .default "/?a".text ++ Markers.default.opening.text
    (∀ asked e, Alike (Resolver.constant ['1'] asked e).result (Resolver.constant markup asked e).result) ∧
      (engine.format (.constant ['1']) [] template).1 = .ok ['1'] ∧
      (engine.format (.constant markup) [] template).1 = .ok markup ∧
      (engine.format (.constant ['1']) [] template).2.calls =
        (engine.format (.constant markup) [] template).2.calls := by
  intro engine template markup
  have halike : ∀ asked e,
      Alike (Resolver.constant ['1'] asked e).result (Resolver.constant markup asked e).result :=
    fun _ _ => .texts (by decide) (by decide)
  have hplain : (engine.format (.constant ['1']) [] template).1 = .ok ['1'] := by decide +kernel
  have hmarkup : (engine.format (.constant markup) [] template).1 = .ok markup := by decide +kernel
  exact ⟨halike, hplain, hmarkup, (format_alike engine halike [] template).1⟩

end TextTemplate
