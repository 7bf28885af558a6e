import TextTemplate.Proofs.Agreement
import TextTemplate.Proofs.Causes
import TextTemplate.Proofs.Questions
import TextTemplate.Proofs.Unwinding
import TextTemplate.Template.Basic

/-!
# Strict and lenient renderings

A strict source and a lenient one differ in the reply to an expression without a default whose path leads
nowhere. So a strict rendering and a lenient one over the same data are the same run up to the first such
expression, and there the strict one stops.
-/

namespace TextTemplate

namespace DataSource

/-- An expression without a default, whose path leads nowhere. -/
def Misses (d : DataSource) (e : Text) : Prop :=
  ¬ d.args.text <:+: e ∧ d.root.walk? (d.segments e.trim) = .ok none

variable {d : DataSource} {e : Text}

lemma parse_of_no_args (h : ¬ d.args.text <:+: e) : d.parse e = (e.trim, none) := by
  rw [parse, Text.cut?_eq_none_iff.2 h]

lemma reply_of_misses (h : d.Misses e) :
    d.reply e =
      if d.strict then { result := .error (.unresolved e.trim) }
      else { result := .ok (.text []), notes := [.noValue e.trim] } := by
  unfold reply
  rw [parse_of_no_args h.1]
  dsimp only
  rw [h.2]

lemma reply_of_not_misses (h : ¬ d.Misses e) (strict : Bool) :
    DataSource.reply { d with strict := strict } e = d.reply e := by
  unfold reply
  have hparse : DataSource.parse { d with strict := strict } e = d.parse e := rfl
  have hsegments : DataSource.segments { d with strict := strict } = d.segments := rfl
  rw [hparse, hsegments]
  dsimp only
  rcases hwalk : d.root.walk? (d.segments (d.parse e).1) with f | _ | v
  · rfl
  · by_cases hargs : d.args.text <:+: e
    · obtain ⟨⟨path, default⟩, hcut⟩ : ∃ parts, e.cut? d.args = some parts := by
        rw [← Option.ne_none_iff_exists', ne_eq, Text.cut?_eq_none_iff, not_not]
        exact hargs
      have hdefault : (d.parse e).2 = some default.trim := by rw [parse, hcut]
      rw [hdefault]
    · rw [parse_of_no_args hargs] at hwalk
      exact absurd ⟨hargs, hwalk⟩ h
  · rfl

lemma misses_of_reply {f : Failure} (h : (d.reply e).result = .error f) (hf : f.kind = .unresolved) :
    d.Misses e ∧ f = .unresolved e.trim := by
  by_cases hmisses : d.Misses e
  · refine ⟨hmisses, ?_⟩
    rw [reply_of_misses hmisses] at h
    split at h
    · exact (Except.error.inj h).symm
    · cases h
  · rw [← reply_of_not_misses hmisses false, reply_result rfl] at h
    rw [Value.walk?_error (error_of_map h)] at hf
    cases hf

end DataSource

/-! ## Runs up to the first expression that misses -/

def DataSource.strictly (d : DataSource) : DataSource :=
  { d with strict := true }

def DataSource.leniently (d : DataSource) : DataSource :=
  { d with strict := false }

namespace Watch

variable {α β : Type}

/-- Two pieces that end alike, unless the first one stops for want of a value, and the second one asks on. -/
structure Outlasts (w w' : Watch α) : Prop where
  adds : ∀ s, ∃ later, (w' s).ending.2.calls = s.calls ++ later
  ends : ∀ s, (w s).ending = (w' s).ending ∨
    (∃ path, (w s).ending.1 = .error (.unresolved path)) ∧
      ∃ later, (w' s).ending.2.calls = (w s).ending.2.calls ++ later

lemma outlasts_plain {x : Render α} (hx : x.Quiet) : Outlasts (plain x) (plain x) where
  adds s := ⟨#[], by rw [Array.append_empty]; exact (hx s).2.2⟩
  ends _ := .inl rfl

lemma outlasts_bind {w w' : Watch α} {g g' : α → Watch β} (hw : Outlasts w w')
    (hg : ∀ a, Outlasts (g a) (g' a)) : Outlasts (w >>= g) (w' >>= g') where
  adds s := by
    obtain ⟨later, hlater⟩ := hw.adds s
    rw [bind_ending]
    rcases hfirst : (w' s).ending with ⟨f | a, t⟩ <;> rw [hfirst] at hlater
    · exact ⟨later, hlater⟩
    · obtain ⟨more, hmore⟩ := (hg a).adds t
      refine ⟨later ++ more, ?_⟩
      rw [hmore, hlater, Array.append_assoc]
  ends s := by
    rw [bind_ending, bind_ending]
    rcases hw.ends s with hsame | ⟨⟨path, hstop⟩, later, hlater⟩
    · rw [← hsame]
      rcases (w s).ending with ⟨f | a, t⟩
      · exact .inl rfl
      · exact (hg a).ends t
    · right
      rcases hfirst : (w s).ending with ⟨f | a, t⟩ <;> rw [hfirst] at hstop hlater
      · obtain rfl : f = .unresolved path := Except.error.inj hstop
        refine ⟨⟨path, rfl⟩, ?_⟩
        -- the second piece may have failed meanwhile, or go on with more questions
        rcases hsecond : (w' s).ending with ⟨f' | a', t'⟩ <;> rw [hsecond] at hlater
        · exact ⟨later, hlater⟩
        · obtain ⟨more, hmore⟩ := (hg a').adds t'
          refine ⟨later ++ more, ?_⟩
          rw [hmore, hlater, Array.append_assoc]
      · cases hstop

variable {c c' : Context} {d : DataSource}

lemma outlasts_lookup (hmarkers : c.markers = c'.markers) (hstrict : c.resolver = d.strictly.resolver)
    (hlenient : c'.resolver = d.leniently.resolver) (e : Text) :
    Outlasts (lookup c e) (lookup c' e) where
  adds s := by
    change ∃ later, (Render.lookup c' e s).2.calls = s.calls ++ later
    rw [Render.lookup_apply]
    rcases Frame.lookup? c'.markers s.frames e with _ | f | v
    · exact ⟨#[e], Array.push_eq_append⟩
    · exact ⟨#[], Array.append_empty.symm⟩
    · exact ⟨#[], Array.append_empty.symm⟩
  ends s := by
    change Render.lookup c e s = Render.lookup c' e s ∨
      (∃ path, (Render.lookup c e s).1 = .error (.unresolved path)) ∧
        ∃ later, (Render.lookup c' e s).2.calls = (Render.lookup c e s).2.calls ++ later
    rw [Render.lookup_apply, Render.lookup_apply, ← hmarkers]
    rcases Frame.lookup? c.markers s.frames e with _ | f | v
    · dsimp only
      unfold Render.ask
      rw [hstrict, hlenient]
      unfold DataSource.resolver
      by_cases hmisses : d.Misses e
      · right
        have hreply : d.strictly.reply e = { result := .error (.unresolved e.trim) } :=
          DataSource.reply_of_misses (d := d.strictly) hmisses
        rw [hreply]
        exact ⟨⟨e.trim, rfl⟩, #[], Array.append_empty.symm⟩
      · left
        have hreply : d.strictly.reply e = d.leniently.reply e :=
          (DataSource.reply_of_not_misses hmisses true).trans
            (DataSource.reply_of_not_misses hmisses false).symm
        rw [hreply]
    · exact .inl rfl
    · exact .inl rfl

lemma outlasts_inBody (hdepth : c.maxDepth = c'.maxDepth) (opener : Token) {w w' : Watch α}
    (hw : Outlasts w w') : Outlasts (inBody c opener w) (inBody c' opener w') where
  adds s := by
    rw [inBody_apply]
    split
    · exact ⟨#[], Array.append_empty.symm⟩
    · exact hw.adds { s with depth := s.depth + 1 }
  ends s := by
    rw [inBody_apply, inBody_apply, hdepth]
    split
    · exact .inl rfl
    · rcases hw.ends { s with depth := s.depth + 1 } with hsame | hstop
      · left
        dsimp only
        rw [hsame]
      · exact .inr hstop

lemma outlasts_withFrame (frame : Frame) {w w' : Watch α} (hw : Outlasts w w') :
    Outlasts (withFrame frame w) (withFrame frame w') where
  adds s := hw.adds { s with frames := s.frames ++ [frame] }
  ends s := by
    rw [withFrame_apply, withFrame_apply]
    rcases hw.ends { s with frames := s.frames ++ [frame] } with hsame | hstop
    · left
      dsimp only
      rw [hsame]
    · exact .inr hstop

theorem stepwise_outlasts (hmarkers : c.markers = c'.markers) (hdepth : c.maxDepth = c'.maxDepth)
    (hstrict : c.resolver = d.strictly.resolver) (hlenient : c'.resolver = d.leniently.resolver) :
    Stepwise c c' fun w w' => Outlasts w w' where
  plain := outlasts_plain
  bind := outlasts_bind
  lookup := outlasts_lookup hmarkers hstrict hlenient
  inBody opener _ _ := outlasts_inBody hdepth opener
  withFrame frame _ _ := outlasts_withFrame frame

end Watch

/-! ## Where a strict rendering stops -/

lemma Cause.misses {c : Context} {d : DataSource} (hresolver : c.resolver = d.resolver) {f : Failure}
    (hf : f.kind = .unresolved) {moments : List Moment} (h : Cause c f moments) :
    ∃ (earlier : Array Text) (e : Text), questions c.markers moments = earlier.push e ∧ d.Misses e ∧
      f = .unresolved e.trim := by
  cases h with
  | structural h =>
    rw [hf] at h
    cases h
  | target h =>
    rw [hf] at h
    cases h
  | @evaluating s e h earlier later hlater =>
    rcases Render.lookup_display_error h with ⟨hframe, hreply⟩ | hframe | ⟨v, -, hshown⟩
    · rw [hresolver] at hreply
      obtain ⟨hmisses, rfl⟩ := DataSource.misses_of_reply hreply hf
      have hsilent : questions c.markers later = #[] := by
        have hnone : later.filterMap (Moment.asked? c.markers) = [] := by
          rw [List.filterMap_eq_nil_iff]
          intro moment hmoment
          rw [hlater moment hmoment]
          rfl
        rw [questions, hnone]
      have hasked : questions c.markers [.evaluating s e] = #[e] := by
        simp [questions, Moment.asked?, hframe]
      refine ⟨questions c.markers earlier, e, ?_, hmisses, rfl⟩
      rw [questions_append, ← List.singleton_append, questions_append, hasked, hsilent, Array.append_empty,
        Array.push_eq_append]
    · rw [Frame.lookup?_error hframe] at hf
      cases hf
    · rw [Value.display_error hshown] at hf
      cases hf

lemma Render.stopsAtRaise_template (c : Context) (source : Text) : StopsAtRaise c (template c source) := by
  refine stopsAtRaise_bind (stopsAtRaise_of_calls_eq fun s => ?_) fun tokens => ?_
  · rw [tokens_apply]
  · exact (piecewise_stopsAtRaise c).range _ 0 _

namespace Engine

variable {engine : Engine} {d : DataSource} {streams : Value.Streams} {template : Text} {f : Failure}

lemma not_misses_of_earlier {earlier : Array Text} {e : Text}
    (hcalls : (engine.format d.strictly.resolver streams template).2.calls = earlier.push e) :
    ∀ e' ∈ earlier, ¬ d.Misses e' := by
  intro e' he' hmisses
  obtain ⟨asked, hasked, hstop⟩ :=
    Render.stopsAtRaise_template (engine.context d.strictly.resolver) template { streams := streams }
  have hlist : asked = earlier.toList ++ [e] := by
    have h : (#[] : Array Text) ++ asked.toArray = earlier.push e := hasked.symm.trans hcalls
    simpa using congrArg Array.toList h
  obtain ⟨before, after, hsplit⟩ := List.append_of_mem (Array.mem_toList_iff.2 he')
  rw [hsplit, List.append_assoc, List.cons_append] at hlist
  have hreply : d.strictly.reply e' = { result := .error (.unresolved e'.trim) } :=
    DataSource.reply_of_misses (d := d.strictly) hmisses
  have hlast := (hstop before e' (after ++ [e]) (.unresolved e'.trim) hlist (congrArg Reply.result hreply)).1
  simp at hlast

/-- Strict and lenient rendering over the same data differ only by stopping. Unless the strict one fails for
want of a value, both are the same run: the same text or failure, the same questions and notes. If it does,
the lenient one has asked the same so far, and nothing that misses before; the last question is an
expression without a default whose path leads nowhere, and the failure names this path. -/
theorem format_strict_lenient (engine : Engine) (d : DataSource) (streams : Value.Streams)
    (template : Text) :
    let strict := engine.format d.strictly.resolver streams template
    let lenient := engine.format d.leniently.resolver streams template
    (∀ t, strict.1 = .ok t → lenient = strict) ∧
      (∀ f, strict.1 = .error f → f.kind ≠ .unresolved → lenient = strict) ∧
      ∀ f, strict.1 = .error f → f.kind = .unresolved →
        ∃ (earlier : Array Text) (e : Text) (later : Array Text), strict.2.calls = earlier.push e ∧
          lenient.2.calls = strict.2.calls ++ later ∧ (∀ e' ∈ earlier, ¬ d.Misses e') ∧ d.Misses e ∧
          f = .unresolved e.trim := by
  intro strict lenient
  have hends : strict = lenient ∨ (∃ path, strict.1 = .error (.unresolved path)) ∧
      ∃ later, lenient.2.calls = strict.2.calls ++ later := by
    have hsteps : Stepwise (engine.context d.strictly.resolver) (engine.context d.leniently.resolver)
        fun w w' => Watch.Outlasts w w' := Watch.stepwise_outlasts (d := d) rfl rfl rfl rfl
    have h := (hsteps.template rfl template).ends { streams := streams }
    rwa [Watch.template_ending, Watch.template_ending] at h
  refine ⟨fun t hok => ?_, fun f herror hkind => ?_, fun f herror hkind => ?_⟩
  · rcases hends with hsame | ⟨⟨path, hstop⟩, -⟩
    · exact hsame.symm
    · rw [hok] at hstop
      cases hstop
  · rcases hends with hsame | ⟨⟨path, hstop⟩, -⟩
    · exact hsame.symm
    · rw [herror] at hstop
      obtain rfl := Except.error.inj hstop
      exact absurd rfl hkind
  · obtain ⟨later, hlater⟩ : ∃ later, lenient.2.calls = strict.2.calls ++ later := by
      rcases hends with hsame | ⟨-, hlater⟩
      · exact ⟨#[], by rw [hsame, Array.append_empty]⟩
      · exact hlater
    obtain ⟨earlier, e, hquestions, hmisses, hpath⟩ := (cause_of_format herror).misses rfl hkind
    have hcalls : strict.2.calls = earlier.push e := (format_calls engine _ _ _).trans hquestions
    exact ⟨earlier, e, later, hcalls, hlater, not_misses_of_earlier hcalls, hmisses, hpath⟩

/-- A number under `a`, and nothing else. -/
def singleNumber : DataSource where
  root := .map [(.text ['a'], .int 1)]
  scope := Markers.default.scope
  args := Markers.default.args
  strict := false

/-- A success, a target that is no collection, and a missing value behind a missing one with a default. -/
theorem format_strict_lenient_defaults :
    let engine : Engine := ⟨.default, defaultMaxDepth⟩
    let strict := fun t : Template => engine.format singleNumber.strictly.resolver [] (t.source .default)
    let lenient := fun t : Template => engine.format singleNumber.leniently.resolver [] (t.source .default)
    let shown : Template := .substitution ['a'] (.substitution "b,x".text .empty)
    let walked : Template := .loop ['a'] none .empty .empty
    let missing := shown.append (.substitution ['c'] (.substitution ['d'] .empty))
    (strict shown).1 = .ok "1x".text ∧ (lenient shown).1 = .ok "1x".text ∧
      (strict walked).1 = .error (.notIterable ['a'] "int") ∧
      (lenient walked).1 = .error (.notIterable ['a'] "int") ∧
      (strict missing).1 = .error (.unresolved ['c']) ∧
      ∃ (earlier : Array Text) (e : Text) (later : Array Text),
        (strict missing).2.calls = earlier.push e ∧
          (lenient missing).2.calls = (strict missing).2.calls ++ later ∧
          (∀ e' ∈ earlier, ¬ singleNumber.Misses e') ∧ singleNumber.Misses e ∧ e.trim = "c".text := by
  intro engine strict lenient shown walked missing
  have hshown : (strict shown).1 = .ok "1x".text := by decide +kernel
  have hwalked : (strict walked).1 = .error (.notIterable ['a'] "int") := by decide +kernel
  have hmissing : (strict missing).1 = .error (.unresolved ['c']) := by decide +kernel
  have hsame := (format_strict_lenient engine singleNumber [] (shown.source .default)).1 _ hshown
  have hsame' := (format_strict_lenient engine singleNumber [] (walked.source .default)).2.1 _ hwalked (by decide)
  obtain ⟨earlier, e, later, hcalls, hlater, hearlier, hmisses, hpath⟩ :=
    (format_strict_lenient engine singleNumber [] (missing.source .default)).2.2 _ hmissing rfl
  refine ⟨hshown, (congrArg Prod.fst hsame).trans hshown, hwalked,
    (congrArg Prod.fst hsame').trans hwalked, hmissing, earlier, e, later, hcalls, hlater, hearlier, hmisses,
    ?_⟩
  exact (Failure.unresolved.inj hpath).symm

end Engine

end TextTemplate
