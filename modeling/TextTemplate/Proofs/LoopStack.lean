import Mathlib.Control.Monad.Basic
import Mathlib.Tactic.Lemma
import TextTemplate.Proofs.Invariants
import TextTemplate.Proofs.Questions
import TextTemplate.Template.Basic

/-!
# The loop stack at every look-up

Wherever an expression is looked up in a run, the loop stack holds one frame for each row of a loop that is being
rendered around that place, outermost first, and the depth counts all the bodies around it. The frame of a loop is
pushed before it has a row, is changed in place from row to row, and other frames come and go above it, but no
expression is looked up in between. The look-ups that a run is seen to make are all that the resolver is asked for.
-/

namespace TextTemplate

/-- The row of a loop, if the body is one. -/
def Enclosure.row? : Enclosure → Option LoopRow
  | .branch _ => none
  | .row r => some r

/-- The rows of loops around a place, outermost first. -/
def Place.rows (place : Place) : List LoopRow :=
  place.around.filterMap Enclosure.row?

/-- The loop stack and the depth are those of a place, in a run with the visits `whole`. -/
structure Place.Stacked (c : Context) (whole : List Visit) (place : Place) (s : RunState) : Prop where
  frames_length : s.frames.length = place.rows.length
  binds : ∀ (i : Nat) (r : LoopRow) (frame : Frame), place.rows[i]? = some r → s.frames[i]? = some frame →
    r.Binds c (i + 1) frame
  /-- The target of each loop was looked up in the body right around the loop. -/
  looked : ∀ r ∈ place.rows, ∃ outer : Place, outer.around ++ [.row r] <+: place.around ∧
    .evaluating outer r.entered (r.opener.loopTarget c.markers) ∈ whole
  depth_eq : s.depth = place.around.length
  depth_le : 0 < c.maxDepth → s.depth ≤ c.maxDepth

lemma Context.Admits.le {c : Context} {depth : Int} (h : c.Admits depth) (hpos : 0 < c.maxDepth) :
    depth ≤ c.maxDepth := by
  unfold Admits at h
  omega

namespace Place

section Body

variable (place : Place) (start stop : Nat)

@[simp] lemma rows_branchBody (opener : Token) : (place.body start stop (.branch opener)).rows = place.rows := by
  simp [rows, body, Enclosure.row?]

@[simp] lemma rows_rowBody (r : LoopRow) : (place.body start stop (.row r)).rows = place.rows ++ [r] := by
  simp [rows, body, Enclosure.row?]

lemma rows_length_le : place.rows.length ≤ place.around.length :=
  List.length_filterMap_le _ _

end Body

namespace Stacked

variable {c : Context} {whole : List Visit} {place : Place} {s : RunState}

lemma frames_le_depth (h : place.Stacked c whole s) : (s.frames.length : Int) ≤ s.depth := by
  rw [h.frames_length, h.depth_eq]
  exact_mod_cast place.rows_length_le

lemma outermost (c : Context) (whole : List Visit) (start stop : Nat) (hframes : s.frames = [])
    (hdepth : s.depth = 0) : Stacked c whole ⟨start, stop, []⟩ s where
  frames_length := by rw [hframes]; rfl
  binds i r frame hr _ := by simp [rows] at hr
  looked r hr := by simp [rows] at hr
  depth_eq := hdepth
  depth_le h := by omega

lemma still {t : RunState} (h : place.Stacked c whole s) (hframes : t.frames = s.frames)
    (hdepth : t.depth = s.depth) : place.Stacked c whole t where
  frames_length := hframes ▸ h.frames_length
  binds := hframes ▸ h.binds
  looked := h.looked
  depth_eq := hdepth ▸ h.depth_eq
  depth_le := hdepth ▸ h.depth_le

lemma looked_body (h : place.Stacked c whole s) (start stop : Nat) (enclosure : Enclosure) {r : LoopRow}
    (hr : r ∈ place.rows) : ∃ outer : Place, outer.around ++ [.row r] <+: (place.body start stop enclosure).around ∧
      .evaluating outer r.entered (r.opener.loopTarget c.markers) ∈ whole := by
  obtain ⟨outer, hprefix, hlooked⟩ := h.looked r hr
  exact ⟨outer, hprefix.trans (List.prefix_append _ _), hlooked⟩

lemma depth_body (h : place.Stacked c whole s) (start stop : Nat) (enclosure : Enclosure) :
    s.depth + 1 = (place.body start stop enclosure).around.length := by
  rw [h.depth_eq, body, List.length_append]
  rfl

lemma branch (h : place.Stacked c whole s) (start stop : Nat) (opener : Token) (hdepth : c.Admits (s.depth + 1)) :
    (place.body start stop (.branch opener)).Stacked c whole { s with depth := s.depth + 1 } where
  frames_length := by rw [rows_branchBody]; exact h.frames_length
  binds := by rw [rows_branchBody]; exact h.binds
  looked r hr := h.looked_body start stop _ (by rwa [rows_branchBody] at hr)
  depth_eq := h.depth_body start stop _
  depth_le := hdepth.le

lemma row {r : LoopRow} {frame : Frame} (h : place.Stacked c whole r.entered) (start stop : Nat)
    (hlooked : .evaluating place r.entered (r.opener.loopTarget c.markers) ∈ whole)
    (hdepth : c.Admits (r.entered.depth + 1)) (hframe : r.Binds c (r.entered.frames.length + 1) frame) :
    (place.body start stop (.row r)).Stacked c whole
      { r.entered with frames := r.entered.frames ++ [frame], depth := r.entered.depth + 1 } where
  frames_length := by simp [h.frames_length]
  binds i r' frame' hr' hframe' := by
    have hlength := h.frames_length
    rw [rows_rowBody] at hr'
    -- The row is one of those around the loop, or the new one, and beyond it there is none.
    rcases Nat.lt_trichotomy i place.rows.length with hlt | rfl | hgt
    · rw [List.getElem?_append_left hlt] at hr'
      rw [List.getElem?_append_left (by omega)] at hframe'
      exact h.binds i r' frame' hr' hframe'
    · rw [List.getElem?_concat_length] at hr'
      rw [← hlength, List.getElem?_concat_length] at hframe'
      cases hr'
      cases hframe'
      rwa [← hlength]
    · rw [List.getElem?_eq_none (by simp; omega)] at hr'
      cases hr'
  looked r' hr' := by
    rw [rows_rowBody, List.mem_append, List.mem_singleton] at hr'
    rcases hr' with hr' | rfl
    · exact h.looked_body start stop _ hr'
    · exact ⟨place, List.prefix_refl _, hlooked⟩
  depth_eq := h.depth_body start stop _
  depth_le := hdepth.le

end Stacked

end Place

lemma Tour.invariant_stacked (c : Context) (whole : List Visit) :
    Invariant c whole (fun place s => place.Stacked c whole s)
      fun v => ∀ place s expression, v = .evaluating place s expression → place.Stacked c whole s where
  still h := h.still
  branch h _ := h.branch _ _ _
  row h hlooked _ := h.row _ _ hlooked
  reading _ _ _ _ _ _ h := by cases h
  evaluating _ h _ _ _ := by rintro ⟨⟩; exact h
  entering _ _ _ _ _ h := by cases h
  advancing _ _ _ _ _ _ _ h := by cases h

/-! ## No look-up is left out -/

/-- The expression that the resolver is asked at a visit. -/
def Visit.asked? (m : Markers) : Visit → Option Text
  | .evaluating _ s expression => Moment.asked? m (.evaluating s expression)
  | _ => none

namespace Tour

section Accounted

variable {α β : Type} {m : Markers}

/-- The visits of a piece account for its questions to the resolver. -/
def Accounted (m : Markers) (w : Tour α) : Prop :=
  ∀ s outcome, (w s).ending? = some outcome →
    outcome.2.calls = s.calls ++ ((w s).visits.filterMap (Visit.asked? m)).toArray

lemma accounted_plain {x : Render α} (h : ∀ s, (x s).2.calls = s.calls) : Accounted m (plain x) := by
  rintro s _ ⟨⟩
  simp [plain, h s]

lemma Accounted.bind {w : Tour α} {f : α → Tour β} (hw : Accounted m w) (hf : ∀ a, Accounted m (f a)) :
    Accounted m (w >>= f) := by
  intro s outcome hending
  rcases h : w s with ⟨_ | ⟨e | a, t⟩, visits⟩
  · simp only [Bind.bind, h, reduceCtorEq] at hending
  · rw [bind_error h] at hending ⊢
    have hfirst := hw s _ (by rw [h])
    rw [h] at hfirst
    cases hending
    exact hfirst
  · rw [bind_ok h] at hending ⊢
    have hfirst := hw s _ (by rw [h])
    rw [h] at hfirst
    rw [hf a t outcome hending, hfirst]
    simp [List.filterMap_append]

lemma accounted_silent {v : Visit} (h : v.asked? m = none) : Accounted m (visit v) := by
  rintro s _ ⟨⟩
  simp [visit, h]

lemma accounted_read (tokens : Array Token) (place : Place) (position : Nat) :
    Accounted m (read tokens place position) := by
  refine (accounted_silent rfl).bind fun _ => ?_
  split
  · exact accounted_plain fun _ => rfl
  · exact accounted_plain fun _ => rfl

lemma accounted_lookup (c : Context) (place : Place) (e : Text) : Accounted c.markers (lookup c place e) := by
  rintro s _ ⟨⟩
  have hasked : questions c.markers [.evaluating s e] =
      ((lookup c place e s).visits.filterMap (Visit.asked? c.markers)).toArray := rfl
  rw [← hasked]
  exact (Watch.accounted_lookup c e s).total

lemma stepwise_accounted (c : Context) (tokens : Array Token) :
    Stepwise c tokens tokens fun w _ => Accounted c.markers w where
  exhausted _ _ h := by cases h
  plain h := accounted_plain fun s => (h s).2.2
  setFrame _ _ := accounted_plain fun _ => rfl
  bind := Accounted.bind
  read := accounted_read tokens
  entering _ _ := accounted_silent rfl
  advancing _ _ _ := accounted_silent rfl
  lookup := accounted_lookup c
  inBody opener w _ h s outcome := by
    unfold inBody
    split
    · rintro ⟨⟩
      simp
    · intro hending
      obtain ⟨inner, hinner, rfl⟩ := Option.map_eq_some_iff.1 hending
      exact h _ inner hinner
  withFrame frame w _ h s outcome := by
    intro hending
    obtain ⟨inner, hinner, rfl⟩ := Option.map_eq_some_iff.1 hending
    exact h _ _ inner hinner

end Accounted

end Tour

/-- Wherever an expression is looked up in a run, the loop stack and the depth are those of the place: one frame for
each row of a loop around it, and one level for each body. The resolver is asked what is looked up and no frame
answers, and nothing else. -/
theorem Engine.format_loopStack (e : Engine) (resolver : Resolver) (streams : Value.Streams) (template : Text) :
    let trail := e.tour resolver streams template
    trail.ending? = some (e.format resolver streams template) ∧
      (∀ place s expression, .evaluating place s expression ∈ trail.visits →
        place.Stacked (e.context resolver) trail.visits s ∧ (s.frames.length : Int) ≤ s.depth) ∧
      (e.format resolver streams template).2.calls.toList = trail.visits.filterMap (Visit.asked? e.markers) := by
  intro trail
  have hI := Tour.invariant_stacked (e.context resolver) trail.visits
  obtain ⟨hending, hvisits⟩ := hI.template template (s := { streams := streams })
    (fun stop => .outermost _ _ 0 stop rfl rfl) (List.Subset.refl _)
  have haccounted := Tour.Stepwise.template (Tour.stepwise_accounted (e.context resolver)) template
  have hcalls : (e.format resolver streams template).2.calls =
      #[] ++ (trail.visits.filterMap (Visit.asked? e.markers)).toArray := haccounted _ _ hending
  refine ⟨hending, fun place s expression hv => ?_, ?_⟩
  · have h := hvisits _ hv place s expression rfl
    exact ⟨h, h.frames_le_depth⟩
  · rw [hcalls, Array.empty_append, List.toList_toArray]

/-- A loop, in its body a conditional, and in that a loop over the element. -/
def nestedLoops : Template :=
  let inner : Template := .loop (Frame.defaultName 1) (some ['y']) (.substitution ['y'] .empty) .empty
  .loop "xs".text none (.conditional (Frame.defaultName 1) inner .empty) .empty

/-- A list of two numbers and one of one number, under every name. -/
def unevenRows : Resolver :=
  .ofFunction fun _ => .ok (.list [.list [.int 1, .int 2], .list [.int 3]])

/-- An expression that is looked up, with the depth and with the names and rows of the loop stack. -/
def Visit.scope? : Visit → Option (Text × Int × List (Text × Int))
  | .evaluating _ s expression => some (expression, s.depth, s.frames.map fun frame => (frame.name, frame.row))
  | _ => none

/-- The target of the inner loop is looked up under the frame of the outer one, and the rows of both go on. -/
theorem Engine.format_loopStack_nested :
    let e : Engine := ⟨.default, 3⟩
    let template := nestedLoops.source .default
    let trail := e.tour unevenRows [] template
    let outer := Frame.defaultName 1
    trail.ending? = some (e.format unevenRows [] template) ∧
      trail.visits.filterMap Visit.scope? =
        [("xs".text, 0, []), (outer, 1, [(outer, 0)]), (outer, 2, [(outer, 0)]),
          (['y'], 3, [(outer, 0), (['y'], 0)]), (['y'], 3, [(outer, 0), (['y'], 1)]),
          (outer, 1, [(outer, 1)]), (outer, 2, [(outer, 1)]), (['y'], 3, [(outer, 1), (['y'], 0)])] ∧
      (∀ place s expression, .evaluating place s expression ∈ trail.visits →
        place.Stacked (e.context unevenRows) trail.visits s ∧ (s.frames.length : Int) ≤ s.depth) ∧
      (e.format unevenRows [] template).2.calls.toList = ["xs".text] := by
  obtain ⟨hending, hstacked, hcalls⟩ :=
    format_loopStack ⟨.default, 3⟩ unevenRows [] (nestedLoops.source .default)
  refine ⟨hending, ?_, hstacked, ?_⟩
  · decide +kernel
  · rw [hcalls]
    decide +kernel

end TextTemplate
