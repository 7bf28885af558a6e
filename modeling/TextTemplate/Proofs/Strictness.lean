import Mathlib.Control.Monad.Basic
import TextTemplate.Proofs.Watch
import TextTemplate.Template.Basic

/-!
# Strict renderings

A strict source fails where a value is missing that has no default. The loop stack answers before the
source and knows no strictness: where a part of an element is missing, it answers with the empty text. So a
strict rendering that succeeds has met no missing value, but for the missing parts of elements.
-/

namespace TextTemplate

/-! ## Values that are there -/

/-- Every segment of a path leads somewhere. -/
def Value.Has (v : Value) (path : List Text) : Prop :=
  ∃ w, v.walk? path = .ok (some w)

instance (v : Value) (path : List Text) : Decidable (v.Has path) :=
  match h : v.walk? path with
  | .ok (some w) => .isTrue ⟨w, h⟩
  | .ok none => .isFalse fun ⟨w, hw⟩ => by rw [h] at hw; cases hw
  | .error f => .isFalse fun ⟨w, hw⟩ => by rw [h] at hw; cases hw

/-- The path of an expression, without the default. -/
def pathOf (m : Markers) (e : Text) : Text :=
  (e.splitOn m.args).1

namespace Frame

/-- The frame that the first segment of an expression names. -/
def named? (m : Markers) (frames : List Frame) (e : Text) : Option Frame :=
  find? frames (resolveName ((pathOf m e).splitOn m.scope).1)

/-- The segments that follow the name of a frame. -/
def segments (m : Markers) (e : Text) : List Text :=
  ((pathOf m e).splitOn m.scope).2

lemma lookup?_eq (m : Markers) (frames : List Frame) (e : Text) :
    lookup? m frames e = (named? m frames e).map fun frame =>
      frame.answer m (segments m e) (((e.splitOn m.args).2.head?.map Text.trim).getD []) := rfl

end Frame

/-- What an expression stands for is there, in the element of the frame that it names, if it names one, or
else in the data. The key and the count of a frame always are. -/
def Present (m : Markers) (data : Value) (e : Text) : Option Frame → Prop
  | some frame =>
    (Frame.segments m e).head? = some m.index.text ∨ frame.value.Has (Frame.segments m e)
  | none =>
    let (first, rest) := (pathOf m e).trim.splitOn m.scope
    data.Has (first :: rest)

instance (m : Markers) (data : Value) (e : Text) : (frame? : Option Frame) →
    Decidable (Present m data e frame?)
  | some _ => inferInstanceAs (Decidable (_ ∨ _))
  | none => inferInstanceAs (Decidable (Value.Has _ _))

namespace Moment

/-- What is looked up without a default at a moment is there. -/
def Denotes (m : Markers) (data : Value) : Moment → Prop
  | evaluating s e => m.args.text <:+: e ∨ Present m data e (Frame.named? m s.frames e)
  | entering .. => True
  | leaving => True

instance (m : Markers) (data : Value) : (moment : Moment) → Decidable (moment.Denotes m data)
  | evaluating .. => inferInstanceAs (Decidable (_ ∨ _))
  | entering .. => .isTrue trivial
  | leaving => .isTrue trivial

/-- What is looked up at a moment is a missing part of the element of a frame, and the answer is the empty
text. -/
def LacksPart (m : Markers) : Moment → Prop
  | evaluating s e => ∃ frame, Frame.named? m s.frames e = some frame ∧
      frame.value.walk? (Frame.segments m e) = .ok none ∧
      Frame.lookup? m s.frames e = some (.ok (.text []))
  | entering .. => False
  | leaving => False

end Moment

/-! ## Look-ups that succeed -/

lemma splitOn_args {m : Markers} {e : Text} (h : ¬ m.args.text <:+: e) :
    e.splitOn m.args = (e, []) :=
  Text.splitOn_of_cut?_none (Text.cut?_eq_none_iff.2 h)

lemma DataSource.has_of_reply {d : DataSource} (hstrict : d.strict = true) {e : Text}
    (hargs : ¬ d.args.text <:+: e) {v : Value} (h : (d.reply e).result = .ok v) :
    d.root.Has (d.segments e.trim) := by
  have hparse : d.parse e = (e.trim, none) := by
    rw [parse, Text.cut?_eq_none_iff.2 hargs]
  unfold reply at h
  rw [hparse] at h
  dsimp only at h
  cases hwalk : d.root.walk? (d.segments e.trim) with
  | error f =>
    rw [hwalk] at h
    cases h
  | ok found =>
    rw [hwalk] at h
    cases found with
    | some w => exact ⟨w, hwalk⟩
    | none =>
      dsimp only at h
      rw [if_pos hstrict] at h
      cases h

lemma Frame.answer_cases {m : Markers} {frame : Frame} {segments : List Text} {v : Value}
    (h : frame.answer m segments [] = .ok v) :
    segments.head? = some m.index.text ∨ frame.value.Has segments ∨
      (frame.value.walk? segments = .ok none ∧ v = .text []) := by
  by_cases hindex : segments.head? = some m.index.text
  · exact .inl hindex
  · rw [answer_eq hindex] at h
    cases hwalk : frame.value.walk? segments with
    | error f =>
      rw [hwalk] at h
      cases h
    | ok found =>
      rw [hwalk] at h
      cases found with
      | some w => exact .inr (.inl ⟨w, hwalk⟩)
      | none =>
        obtain rfl : Value.text [] = v := Except.ok.inj h
        exact .inr (.inr ⟨rfl, rfl⟩)

namespace Moment

variable {m : Markers} {s : RunState} {e : Text} {frame : Frame} {v data : Value}

lemma denotes_of_frame (hargs : ¬ m.args.text <:+: e) (hnamed : Frame.named? m s.frames e = some frame)
    (h : Frame.lookup? m s.frames e = some (.ok v)) :
    (evaluating s e).Denotes m data ∨ (evaluating s e).LacksPart m := by
  have hanswer : frame.answer m (Frame.segments m e) [] = .ok v := by
    have hlookup := Frame.lookup?_eq m s.frames e
    rw [h, hnamed, splitOn_args hargs, Option.map_some] at hlookup
    exact (Option.some.inj hlookup).symm
  rcases Frame.answer_cases hanswer with hindex | hhas | ⟨hlacks, rfl⟩
  · refine .inl (.inr ?_)
    rw [hnamed]
    exact .inl hindex
  · refine .inl (.inr ?_)
    rw [hnamed]
    exact .inr hhas
  · exact .inr ⟨frame, hnamed, hlacks, h⟩

lemma denotes_of_data {d : DataSource} (hscope : d.scope = m.scope) (hargs : ¬ m.args.text <:+: e)
    (hnamed : Frame.named? m s.frames e = none) (hhas : d.root.Has (d.segments e.trim)) :
    (evaluating s e).Denotes m d.root := by
  have hpath : pathOf m e = e := congrArg Prod.fst (splitOn_args hargs)
  refine .inr ?_
  rw [hnamed]
  unfold Present
  rw [hpath, ← hscope]
  exact hhas

end Moment

/-- Where a look-up succeeds, what it asks for is there, or is a missing part of an element. -/
lemma Render.lookup_denotes {c : Context} {d : DataSource} (hresolver : c.resolver = d.resolver)
    (hscope : d.scope = c.markers.scope) (hargs : d.args = c.markers.args) (hstrict : d.strict = true)
    {e : Text} {s : RunState} {v : Value} (h : (lookup c e s).1 = .ok v) :
    (Moment.evaluating s e).Denotes c.markers d.root ∨ (Moment.evaluating s e).LacksPart c.markers := by
  by_cases hdefault : c.markers.args.text <:+: e
  · exact .inl (.inl hdefault)
  · have hlookup := Frame.lookup?_eq c.markers s.frames e
    rw [lookup_apply] at h
    cases hnamed : Frame.named? c.markers s.frames e with
    | none =>
      rw [hnamed, Option.map_none] at hlookup
      rw [hlookup] at h
      dsimp only [ask] at h
      rw [hresolver] at h
      have hhas := d.has_of_reply hstrict (hargs ▸ hdefault) h
      exact .inl (Moment.denotes_of_data hscope hdefault hnamed hhas)
    | some frame =>
      rw [hnamed, Option.map_some] at hlookup
      cases hanswer : Frame.lookup? c.markers s.frames e with
      | none =>
        rw [hanswer] at hlookup
        cases hlookup
      | some answer =>
        rw [hanswer] at h
        cases answer with
        | error f => cases h
        | ok w => exact Moment.denotes_of_frame hdefault hnamed hanswer

/-! ## Runs that succeed -/

namespace Watch

variable {α : Type}

/-- Where a piece succeeds, every look-up on the way has. -/
def Unfailing (c : Context) (w : Watch α) : Prop :=
  ∀ s a, (w s).ending.1 = .ok a → ∀ t e, .evaluating t e ∈ (w s).moments →
    ∃ v, (Render.lookup c e t).1 = .ok v

theorem stepwise_unfailing (c : Context) : Stepwise c c fun w _ => Unfailing c w where
  plain _ s a _ t e he := by cases he
  bind {_ _ w _ f _} hw hf s b hok t e he := by
    have h := hw s
    rcases hfirst : w s with ⟨⟨failure | a, s'⟩, moments⟩
    · rw [bind_error hfirst] at hok
      cases hok
    · rw [bind_ok hfirst] at hok he
      rw [hfirst] at h
      rcases List.mem_append.1 he with hbefore | hafter
      · exact h a rfl t e hbefore
      · exact hf a s' b hok t e hafter
  lookup e s v hok t e' he := by
    obtain ⟨rfl, rfl⟩ : t = s ∧ e' = e := by simpa [lookup] using he
    exact ⟨v, hok⟩
  inBody opener w _ hw s a hok t e he := by
    rw [inBody_apply] at hok he
    split at hok
    · cases hok
    · next hdeep =>
      rw [if_neg hdeep] at he
      refine hw { s with depth := s.depth + 1 } a hok t e ?_
      simpa using he
  withFrame frame w _ hw s a hok t e he :=
    hw { s with frames := s.frames ++ [frame] } a hok t e he

end Watch

namespace Engine

/-- The source of a strict rendering. -/
def strictSource (engine : Engine) (data : Value) : DataSource where
  root := data
  scope := engine.markers.scope
  args := engine.markers.args
  strict := true

lemma format_of_report {engine : Engine} {data : Value} {streams : Value.Streams} {template : Text}
    {answer : Report} (hreport : (engine.report data true streams template).1 = .ok answer)
    (hsuccess : answer.success = true) :
    (engine.format (engine.strictSource data).resolver streams template).1 = .ok answer.text := by
  unfold report at hreport
  dsimp only at hreport
  have hsource : engine.strictSource data = ⟨data, engine.markers.scope, engine.markers.args, true⟩ := rfl
  rw [← hsource] at hreport
  rcases hrun : engine.format (engine.strictSource data).resolver streams template with ⟨f | text, s⟩
  · rw [hrun] at hreport
    dsimp only at hreport
    split at hreport
    · obtain rfl := Except.ok.inj hreport
      simp [Report.success] at hsuccess
    · cases hreport
  · rw [hrun] at hreport
    obtain rfl := Except.ok.inj hreport
    rfl

/-- In a strict rendering that succeeds, whatever was looked up without a default was there, but for missing
parts of the elements of loops, which are shown as nothing. -/
theorem report_strict (engine : Engine) (data : Value) (streams : Value.Streams) (template : Text)
    {answer : Report} (hreport : (engine.report data true streams template).1 = .ok answer)
    (hsuccess : answer.success = true) :
    ∀ moment ∈ (engine.watch (engine.strictSource data).resolver streams template).moments,
      moment.Denotes engine.markers data ∨ moment.LacksPart engine.markers := by
  have hformat := format_of_report hreport hsuccess
  rw [← watch_ending] at hformat
  have hmet := (Watch.stepwise_unfailing (engine.context (engine.strictSource data).resolver)).template rfl
    template { streams := streams } answer.text hformat
  intro moment hmoment
  cases moment with
  | entering s opener => exact .inl trivial
  | leaving => exact .inl trivial
  | evaluating s e =>
    obtain ⟨v, hv⟩ := hmet s e hmoment
    exact Render.lookup_denotes rfl rfl rfl rfl hv

/-- A list of one mapping, under the name `xs`. -/
def oneRow (entries : List (Value × Value)) : Value :=
  .map [(.text ['x', 's'], .list [.map entries])]

/-- The name of every element under `xs`, in brackets. -/
def rowTemplate : Text :=
  let name : Template := .literal ['['] (.substitution "x.name".text (.literal [']'] .empty))
  (Template.loop ['x', 's'] (some ['x']) name .empty).source .default

/-- The name of the element is there. -/
theorem report_strict_namedRow :
    let engine : Engine := ⟨.default, defaultMaxDepth⟩
    let data := oneRow [(.text "name".text, .text ['a'])]
    (engine.report data true [] rowTemplate).1 = .ok ⟨"[a]".text, none⟩ ∧
      ∀ moment ∈ (engine.watch (engine.strictSource data).resolver [] rowTemplate).moments,
        moment.Denotes engine.markers data ∨ moment.LacksPart engine.markers := by
  intro engine data
  have hreport : (engine.report data true [] rowTemplate).1 = .ok ⟨"[a]".text, none⟩ := by
    decide +kernel
  exact ⟨hreport, report_strict engine data [] rowTemplate hreport rfl⟩

/-- The name of the element is missing, and the strict rendering succeeds all the same. -/
theorem report_strict_emptyRow :
    let engine : Engine := ⟨.default, defaultMaxDepth⟩
    let data := oneRow []
    (engine.report data true [] rowTemplate).1 = .ok ⟨"[]".text, none⟩ ∧
      ∃ moment ∈ (engine.watch (engine.strictSource data).resolver [] rowTemplate).moments,
        ¬ moment.Denotes engine.markers data := by
  decide +kernel

end Engine

end TextTemplate
