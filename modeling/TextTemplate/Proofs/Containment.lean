import TextTemplate.Proofs.Causes
import TextTemplate.Proofs.Counting
import TextTemplate.Proofs.Strictness

/-!
# Failures over JSON data

A rendering over JSON data that fails is reported, but for one failure: a loop counter that is too long to be
written. Every frame on the loop stack is of such data, so a look-up finds data, or nothing, or a count, and
only the count need not be shown.
-/

namespace TextTemplate

/-- Every frame on the loop stack is of JSON data. -/
def RunState.OfJson (s : RunState) : Prop :=
  ∀ frame ∈ s.frames, frame.OfJson

def Moment.OfJson : Moment → Prop
  | evaluating s _ => s.OfJson
  | entering _ _ => True
  | leaving => True

/-- What a look-up comes to: data, or nothing in a strict source, or the position of a loop. -/
inductive Findings (m : Markers) (s : RunState) (e : Text) : Except Failure Value → Prop where
  | data {v : Value} (h : v.IsJson) : Findings m s e (.ok v)
  | missing (path : Text) : Findings m s e (.error (.unresolved path))
  | position {n : Int} (hindex : (Frame.segments m e).head? = some m.index.text)
      (h : Frame.lookup? m s.frames e = some (.ok (.int n))) : Findings m s e (.ok (.int n))

section Lookup

variable {c : Context} {d : DataSource}

lemma Render.lookup_findings (hresolver : c.resolver = d.resolver) (hroot : d.root.IsJson) {s : RunState}
    (hs : s.OfJson) (e : Text) : Findings c.markers s e (lookup c e s).1 := by
  have hlookup := Frame.lookup?_eq c.markers s.frames e
  rw [lookup_apply]
  cases hnamed : Frame.named? c.markers s.frames e with
  | none =>
    rw [hnamed, Option.map_none] at hlookup
    rw [hlookup]
    change Findings c.markers s e (c.resolver s.calls e).result
    rw [hresolver]
    rcases DataSource.reply_isJson hroot e with ⟨v, hreply, hv⟩ | ⟨path, hreply⟩
    · rw [show (d.resolver s.calls e).result = .ok v from hreply]
      exact .data hv
    · rw [show (d.resolver s.calls e).result = .error (.unresolved path) from hreply]
      exact .missing path
  | some frame =>
    have hframe : frame.OfJson := hs frame (List.mem_of_find?_eq_some hnamed)
    obtain ⟨v, hanswer, hv⟩ := hframe.answer (m := c.markers) (Frame.segments c.markers e)
      ((((e.splitOn c.markers.args).2.head?).map Text.trim).getD [])
    rw [hnamed, Option.map_some, hanswer] at hlookup
    rw [hlookup]
    rcases hv with hjson | ⟨hindex, n, rfl⟩
    · exact .data hjson
    · exact .position hindex hlookup

end Lookup

/-! ## Runs over JSON data -/

/-- A piece of a run that stays over JSON data, and whose answer has a property. -/
structure Sighting.Stays {α : Type} (Q : α → Prop) (r : Sighting α) : Prop where
  stack : r.ending.2.OfJson
  moments : ∀ moment ∈ r.moments, moment.OfJson
  answer : ∀ a, r.ending.1 = .ok a → Q a

namespace Watch

/-- Over JSON data, a piece stays over JSON data. -/
def Keeps {α : Type} (Q : α → Prop) (w : Watch α) : Prop :=
  ∀ s, s.OfJson → (w s).Stays Q

section Keeps

variable {α β : Type} {P : α → Prop} {Q : β → Prop} {c : Context} {d : DataSource}

def Known (v : Value) : Prop :=
  v.IsJson ∨ ∃ n, v = .int n

lemma keeps_plain {x : Render α} (hx : x.Quiet) (hP : ∀ s a, (x s).1 = .ok a → P a) : Keeps P (plain x) := by
  intro s hs
  constructor
  · intro frame hframe
    apply hs
    rwa [← (hx s).1]
  · intro moment hmoment
    cases hmoment
  · exact hP s

lemma keeps_quiet {x : Render α} (hx : x.Quiet) : Keeps (fun _ => True) (plain x) :=
  keeps_plain hx fun _ _ _ => trivial

lemma keeps_pure {a : α} (ha : P a) : Keeps P (pure a : Watch α) := by
  apply keeps_plain (Render.quiet_pure a)
  intro s b hb
  obtain rfl : a = b := Except.ok.inj hb
  exact ha

lemma keeps_bind {w : Watch α} {g : α → Watch β} (hw : Keeps P w) (hg : ∀ a, P a → Keeps Q (g a)) :
    Keeps Q (w >>= g) := by
  intro s hs
  have hfirst := hw s hs
  rcases hrun : w s with ⟨⟨e | a, s'⟩, moments⟩
  · rw [hrun] at hfirst
    rw [bind_error hrun]
    exact ⟨hfirst.stack, hfirst.moments, fun b hb => by cases hb⟩
  · rw [hrun] at hfirst
    rw [bind_ok hrun]
    have hsecond := hg a (hfirst.answer a rfl) s' hfirst.stack
    refine ⟨hsecond.stack, fun moment hmoment => ?_, hsecond.answer⟩
    rcases List.mem_append.1 hmoment with hbefore | hafter
    · exact hfirst.moments moment hbefore
    · exact hsecond.moments moment hafter

lemma keeps_lookup (hresolver : c.resolver = d.resolver) (hroot : d.root.IsJson) (e : Text) :
    Keeps Known (lookup c e) := by
  intro s hs
  constructor
  · have hframes : (Render.lookup c e s).2.frames = s.frames := ((Render.piecewise_balanced c).lookup e s).1
    intro frame hframe
    apply hs
    rwa [← hframes]
  · intro moment hmoment
    obtain rfl := List.mem_singleton.1 hmoment
    exact hs
  · intro v hv
    have hfound := Render.lookup_findings hresolver hroot hs e
    rw [show (Render.lookup c e s).1 = .ok v from hv] at hfound
    cases hfound with
    | data h => exact .inl h
    | position hindex h => exact .inr ⟨_, rfl⟩

lemma keeps_inBody (opener : Token) {w : Watch α} (hw : Keeps P w) : Keeps P (inBody c opener w) := by
  intro s hs
  rw [inBody_apply]
  by_cases hdeep : c.maxDepth ≠ 0 ∧ c.maxDepth < s.depth + 1
  · rw [if_pos hdeep]
    exact ⟨hs, fun moment hmoment => (by cases hmoment), fun a ha => by cases ha⟩
  · rw [if_neg hdeep]
    have hbody := hw { s with depth := s.depth + 1 } hs
    refine ⟨hbody.stack, fun moment hmoment => ?_, hbody.answer⟩
    simp only [List.mem_cons, List.mem_append, List.not_mem_nil, or_false] at hmoment
    rcases hmoment with rfl | hinside | rfl
    · exact trivial
    · exact hbody.moments moment hinside
    · exact trivial

lemma keeps_withFrame {frame : Frame} (hframe : frame.OfJson) {w : Watch α} (hw : Keeps P w) :
    Keeps P (withFrame frame w) := by
  intro s hs
  have hpushed : RunState.OfJson { s with frames := s.frames ++ [frame] } := by
    intro other hother
    rcases List.mem_append.1 hother with hbelow | htop
    · exact hs other hbelow
    · obtain rfl := List.mem_singleton.1 htop
      exact hframe
  have hbody := hw _ hpushed
  refine ⟨fun other hother => ?_, hbody.moments, hbody.answer⟩
  exact hbody.stack other ((List.dropLast_sublist _).subset hother)

def KeepsData (w : Watch Text) : Prop :=
  Keeps (fun _ => True) w

lemma keepsData_pure (t : Text) : KeepsData (pure t) :=
  keeps_pure trivial

lemma keepsData_append {w v : Watch Text} (hw : KeepsData w) (hv : KeepsData v) : KeepsData (w.append v) :=
  keeps_bind hw fun _ _ => keeps_bind hv fun _ _ => keepsData_pure _

lemma keepsData_walk (opener : Token) (frame : Frame) {w : Watch Text} (hw : KeepsData w) (row : Nat)
    {pairs : List (Value × Value)} (hpairs : ∀ pair ∈ pairs, pair.1.IsKey ∧ pair.2.IsJson) :
    KeepsData (walk c opener frame w row pairs) := by
  induction pairs generalizing row with
  | nil => exact keepsData_pure []
  | cons pair rest ih =>
    obtain ⟨key, value⟩ := pair
    obtain ⟨hkey, hvalue⟩ := hpairs _ List.mem_cons_self
    apply keepsData_append
    · exact keeps_withFrame ⟨hkey, hvalue⟩ (keeps_inBody opener hw)
    · exact ih (row + 1) fun pair hpair => hpairs pair (List.mem_cons_of_mem _ hpair)

lemma keepsData_loop (hresolver : c.resolver = d.resolver) (hroot : d.root.IsJson) (block : LoopBlock)
    {w : Watch Text} (hw : KeepsData w) : KeepsData (loop c block w) := by
  unfold loop
  refine keeps_bind (keeps_quiet Render.quiet_get) fun s _ => ?_
  refine keeps_bind (keeps_lookup hresolver hroot block.target) fun v hv => ?_
  -- A position cannot be walked, so whatever is walked is data.
  have hpairs : ∀ streams pairs, v.pairs? streams = some pairs →
      ∀ pair ∈ pairs, pair.1.IsKey ∧ pair.2.IsJson := by
    intro streams pairs h
    rcases hv with hjson | ⟨n, rfl⟩
    · exact hjson.pairs h
    · cases h
  refine keeps_bind (P := fun found => ∀ pairs ∈ found, ∀ pair ∈ pairs, pair.1.IsKey ∧ pair.2.IsJson)
    (keeps_plain (Render.quiet_takePairs? v) ?_) fun found hfound => ?_
  · intro s found h pairs hsome
    apply hpairs s.streams pairs
    exact (Except.ok.inj h).trans hsome
  cases found with
  | none => exact keeps_bind (keeps_quiet (Render.quiet_note _)) fun _ _ => keeps_quiet (Render.quiet_throw _)
  | some pairs =>
    apply keeps_bind (keeps_quiet (Render.quiet_note _))
    intro _ _
    exact keepsData_walk _ _ hw 0 (hfound pairs rfl)

lemma keepsData_conditional (hresolver : c.resolver = d.resolver) (hroot : d.root.IsJson)
    (block : ConditionalBlock) {w : Watch Text} {v? : Option (Watch Text)} (hw : KeepsData w)
    (hv : ∀ v ∈ v?, KeepsData v) : KeepsData (conditional c block w v?) := by
  refine keeps_bind (keeps_lookup hresolver hroot block.test) fun v _ => ?_
  split
  · exact keeps_inBody _ hw
  · cases v? with
    | none => exact keepsData_pure []
    | some v => exact keeps_inBody _ (hv v rfl)

theorem parallel_keepsData (hresolver : c.resolver = d.resolver) (hroot : d.root.IsJson) :
    Parallel c c fun w _ => KeepsData w where
  text := keepsData_pure
  append := keepsData_append
  substitution e := keeps_bind (keeps_lookup hresolver hroot e) fun v _ => keeps_quiet (Render.quiet_display v)
  loop block _ _ hw := keepsData_loop hresolver hroot block hw
  conditional block w w' v? v'? hw hv := by
    refine keepsData_conditional hresolver hroot block hw fun v hsome => ?_
    obtain rfl := hsome
    cases hv with
    | some h => exact h
  fail f := keeps_quiet (Render.quiet_fail f)

theorem keepsData_template (hresolver : c.resolver = d.resolver) (hroot : d.root.IsJson) (source : Text) :
    KeepsData (template c source) := by
  have htokens : (Render.tokens c.markers source).Quiet := by
    intro s
    rw [Render.tokens_apply]
    exact ⟨rfl, rfl, rfl⟩
  refine keeps_bind (keeps_quiet htokens) fun tokens _ => ?_
  exact (parallel_keepsData hresolver hroot).range rfl _ _ _

end Keeps

end Watch

/-! ## Reports -/

/-- The position of a loop is looked up, and it has too many digits to be written. -/
def Moment.Overflows (m : Markers) : Moment → Prop
  | evaluating s e =>
    (Frame.segments m e).head? = some m.index.text ∧
      ∃ n, Frame.lookup? m s.frames e = some (.ok (.int n)) ∧ Text.writeInteger? n = none
  | entering _ _ => False
  | leaving => False

lemma Cause.over_json {c : Context} {d : DataSource} (hresolver : c.resolver = d.resolver)
    (hroot : d.root.IsJson) {f : Failure} {moments : List Moment} (h : Cause c f moments)
    (hmoments : ∀ moment ∈ moments, moment.OfJson) :
    f.isOwn = true ∨ f = .tooManyDigits ∧ ∃ earlier moment later,
      moments = earlier ++ moment :: later ∧ moment.Overflows c.markers ∧
        ∀ moment' ∈ later, moment' = .leaving := by
  cases h with
  | structural h =>
    left
    unfold Failure.isOwn
    rw [h]
  | target h =>
    left
    unfold Failure.isOwn
    rw [h]
  | @evaluating s e h earlier later hlater =>
    have hs : s.OfJson := hmoments (.evaluating s e) (by simp)
    have hfound := Render.lookup_findings hresolver hroot hs e
    generalize (Render.lookup c e s).1 = result at h hfound
    cases hfound with
    | data hv =>
      obtain ⟨t, ht⟩ := hv.display
      rw [show Except.bind (.ok _) Value.display = .ok t from ht] at h
      cases h
    | missing path =>
      left
      obtain rfl := Except.error.inj h
      rfl
    | @position n hindex hlookup =>
      right
      have hshown : (Value.int n).display = .error f := h
      refine ⟨Value.display_error hshown, earlier, .evaluating s e, later, rfl, ?_, hlater⟩
      exact ⟨hindex, n, hlookup, Value.display_int_error hshown⟩

namespace Engine

def source (engine : Engine) (data : Value) (strict : Bool) : DataSource where
  root := data
  scope := engine.markers.scope
  args := engine.markers.args
  strict := strict

lemma report_of_ok {engine : Engine} {data : Value} {strict : Bool} {streams : Value.Streams}
    {template text : Text} (h : (engine.format (engine.source data strict).resolver streams template).1 = .ok text) :
    (engine.report data strict streams template).1 = .ok ⟨text, none⟩ := by
  unfold source at h
  unfold report
  dsimp only
  generalize engine.format _ streams template = run at h ⊢
  obtain ⟨result, s⟩ := run
  obtain rfl : result = .ok text := h
  rfl

lemma report_of_error {engine : Engine} {data : Value} {strict : Bool} {streams : Value.Streams}
    {template : Text} {f : Failure}
    (h : (engine.format (engine.source data strict).resolver streams template).1 = .error f) :
    (engine.report data strict streams template).1 =
      if f.isOwn then .ok ⟨[], some f.message⟩ else .error f := by
  unfold source at h
  unfold report
  dsimp only
  generalize engine.format _ streams template = run at h ⊢
  obtain ⟨result, s⟩ := run
  obtain rfl : result = .error f := h
  dsimp only
  split
  · rfl
  · rfl

/-- Over JSON data, a rendering is reported with its text or with the message of its failure, unless it ends
at the position of a loop that has too many digits to be written. Data may be nested as deeply as it likes: no
limit on the depth of recursion is modelled. -/
theorem report_json {data : Value} (hdata : data.IsJson) (engine : Engine) (strict : Bool)
    (streams : Value.Streams) (template : Text) :
    let resolver := (engine.source data strict).resolver
    let report := (engine.report data strict streams template).1
    (∃ text, (engine.format resolver streams template).1 = .ok text ∧ report = .ok ⟨text, none⟩) ∨
      (∃ f, (engine.format resolver streams template).1 = .error f ∧ f.isOwn = true ∧
        report = .ok ⟨[], some f.message⟩) ∨
      (report = .error .tooManyDigits ∧ ∃ earlier moment later,
        (engine.watch resolver streams template).moments = earlier ++ moment :: later ∧
          moment.Overflows engine.markers ∧ ∀ moment' ∈ later, moment' = .leaving) := by
  intro resolver report
  cases hformat : (engine.format resolver streams template).1 with
  | ok text => exact .inl ⟨text, rfl, report_of_ok hformat⟩
  | error f =>
    right
    have hreport : report = if f.isOwn then .ok ⟨[], some f.message⟩ else .error f := report_of_error hformat
    have hkeeps : Watch.KeepsData (Watch.template (engine.context resolver) template) :=
      Watch.keepsData_template (d := engine.source data strict) rfl hdata template
    have hstart : RunState.OfJson { streams := streams } := fun frame hframe => by cases hframe
    have hcause := (cause_of_format hformat).over_json (d := engine.source data strict) rfl hdata
      (hkeeps _ hstart).moments
    by_cases hown : f.isOwn = true
    · left
      rw [if_pos hown] at hreport
      exact ⟨f, rfl, hown, hreport⟩
    · right
      rw [if_neg hown] at hreport
      obtain hown' | ⟨rfl, hlast⟩ := hcause
      · exact absurd hown' hown
      · exact ⟨hreport, hlast⟩

/-- The rows are counted from one. -/
theorem report_json_counted :
    let engine : Engine := ⟨.default, defaultMaxDepth⟩
    let template := (countingTemplate ['1']).source .default
    let resolver := (engine.source nullRows true).resolver
    let report := (engine.report nullRows true [] template).1
    nullRows.IsJson ∧ report = .ok ⟨['1', '2'], none⟩ ∧
      ((∃ text, (engine.format resolver [] template).1 = .ok text ∧ report = .ok ⟨text, none⟩) ∨
        (∃ f, (engine.format resolver [] template).1 = .error f ∧ f.isOwn = true ∧
          report = .ok ⟨[], some f.message⟩) ∨
        (report = .error .tooManyDigits ∧ ∃ earlier moment later,
          (engine.watch resolver [] template).moments = earlier ++ moment :: later ∧
            moment.Overflows engine.markers ∧ ∀ moment' ∈ later, moment' = .leaving)) := by
  intro engine template resolver report
  have hreport : report = .ok ⟨['1', '2'], none⟩ := by decide +kernel
  exact ⟨nullRows_isJson, hreport, report_json nullRows_isJson engine true [] template⟩

/-- The rows are counted from the largest number that can be written, and the second is one too many. -/
theorem report_json_overflowing :
    let engine : Engine := ⟨.default, defaultMaxDepth⟩
    let template := (countingTemplate (List.replicate Text.maxDigits '9')).source .default
    nullRows.IsJson ∧ (engine.report nullRows false [] template).1 = .error .tooManyDigits ∧
      ¬ ∃ answer, (engine.report nullRows false [] template).1 = .ok answer := by
  intro engine template
  have hdigits : ∀ c ∈ List.replicate Text.maxDigits (.char '9'), c ∈ asciiDigits := by
    intro c hc
    rw [List.eq_of_mem_replicate hc]
    decide
  obtain ⟨n, hread, hn⟩ := Text.readInteger?_nines
  obtain ⟨t, hwritten⟩ : ∃ t, Text.writeInteger? (Int.ofNat n) = some t := by
    apply Option.isSome_iff_exists.1
    apply Text.writeInteger?_isSome
    change n < _
    omega
  have hlast : Text.writeInteger? (1 + Int.ofNat n) = none := by
    apply Text.writeInteger?_eq_none
    change _ ≤ (1 + (n : Int)).natAbs
    omega
  have hrows : ((engine.source nullRows false).reply "xs".text).result = .ok (.list [.null, .null]) := by
    have hparse : (engine.source nullRows false).parse "xs".text = ("xs".text, none) := by decide
    have hsegments : (engine.source nullRows false).segments "xs".text = ["xs".text] := by decide +kernel
    unfold DataSource.reply
    rw [hparse]
    dsimp only
    rw [hsegments]
    rfl
  have hformat : (engine.format (engine.source nullRows false).resolver [] template).1 = .error .tooManyDigits :=
    format_countingTemplate hdigits rfl (by decide) hrows hread hwritten hlast
  have hreport : (engine.report nullRows false [] template).1 = .error .tooManyDigits :=
    report_of_error hformat
  refine ⟨nullRows_isJson, hreport, ?_⟩
  rintro ⟨answer, hanswer⟩
  rw [hreport] at hanswer
  cases hanswer

end Engine

end TextTemplate
