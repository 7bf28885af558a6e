import TextTemplate.Proofs.Questions

/-!
# The nesting limit

A run under a nesting limit is the run without one, cut off where the latter first enters a body that lies
too deep. How deep a body lies is told by the moments of the run without limit: as many bodies as were
entered and not yet left, itself included.
-/

namespace TextTemplate

/-- By how much a moment changes the number of open bodies. -/
def Moment.change : Moment → Int
  | .evaluating .. => 0
  | .entering .. => 1
  | .leaving => -1

/-- How many more bodies are open behind some moments than before them. -/
def nesting : List Moment → Int
  | [] => 0
  | m :: rest => m.change + nesting rest

/-- Every body entered lies within a limit, where `depth` bodies are open before. -/
def Within (limit depth : Int) (moments : List Moment) : Prop :=
  ∀ before s opener after, moments = before ++ .entering s opener :: after →
    depth + nesting before + 1 ≤ limit

lemma nesting_append (a b : List Moment) : nesting (a ++ b) = nesting a + nesting b := by
  induction a with
  | nil => simp [nesting]
  | cons m rest ih => rw [List.cons_append, nesting, nesting, ih, Int.add_assoc]

/-! ## The first body that lies too deep -/

/-- The body that a moment enters, with the state before, if it lies too deep. -/
def Moment.tooDeep? (limit depth : Int) : Moment → Option (RunState × Token)
  | .entering s opener => if limit < depth + 1 then some (s, opener) else none
  | _ => none

/-- The first body that lies deeper than a limit, with the state before. -/
def overrun? (limit : Int) : Int → List Moment → Option (RunState × Token)
  | _, [] => none
  | depth, m :: rest => (m.tooDeep? limit depth).or (overrun? limit (depth + m.change) rest)

section Overrun

variable {limit depth : Int} {moments : List Moment}

lemma overrun?_append (a b : List Moment) :
    overrun? limit depth (a ++ b) =
      (overrun? limit depth a).or (overrun? limit (depth + nesting a) b) := by
  induction a generalizing depth with
  | nil => simp [overrun?, nesting]
  | cons m rest ih => rw [List.cons_append, overrun?, overrun?, ih, Option.or_assoc, nesting, Int.add_assoc]

lemma tooDeep?_entering_eq_none_iff {s : RunState} {opener : Token} :
    (Moment.entering s opener).tooDeep? limit depth = none ↔ depth + 1 ≤ limit := by
  simp [Moment.tooDeep?]

lemma within_nil : Within limit depth [] := by
  intro before s opener after h
  simp at h

lemma within_cons {m : Moment} :
    Within limit depth (m :: moments) ↔
      m.tooDeep? limit depth = none ∧ Within limit (depth + m.change) moments := by
  constructor
  · intro h
    constructor
    · cases m with
      | evaluating => rfl
      | leaving => rfl
      | entering s opener =>
        have hfirst := h [] s opener moments rfl
        rw [nesting, Int.add_zero] at hfirst
        exact tooDeep?_entering_eq_none_iff.2 hfirst
    · intro before s opener after hsplit
      have hlater := h (m :: before) s opener after (by rw [hsplit, List.cons_append])
      rw [nesting] at hlater
      omega
  · rintro ⟨hfirst, hlater⟩ before s opener after hsplit
    cases before with
    | nil =>
      obtain ⟨rfl, rfl⟩ : m = .entering s opener ∧ moments = after := by simpa using hsplit
      rw [nesting, Int.add_zero]
      exact tooDeep?_entering_eq_none_iff.1 hfirst
    | cons b before =>
      obtain ⟨rfl, hrest⟩ : m = b ∧ moments = before ++ .entering s opener :: after := by
        simpa using hsplit
      have := hlater before s opener after hrest
      rw [nesting]
      omega

lemma Within.mono {limit' : Int} (h : Within limit depth moments) (hlimit : limit ≤ limit') :
    Within limit' depth moments := by
  intro before s opener after hsplit
  have := h before s opener after hsplit
  omega

lemma overrun?_eq_none_iff : overrun? limit depth moments = none ↔ Within limit depth moments := by
  induction moments generalizing depth with
  | nil => exact iff_of_true rfl within_nil
  | cons m rest ih => rw [within_cons, overrun?, Option.or_eq_none_iff, ih]

instance : Decidable (Within limit depth moments) :=
  decidable_of_iff (overrun? limit depth moments = none) overrun?_eq_none_iff

lemma overrun?_eq_some {s : RunState} {opener : Token}
    (h : overrun? limit depth moments = some (s, opener)) :
    ∃ before after, moments = before ++ .entering s opener :: after ∧ Within limit depth before ∧
      limit < depth + nesting before + 1 := by
  induction moments generalizing depth with
  | nil => simp [overrun?] at h
  | cons m rest ih =>
    rw [overrun?] at h
    cases hfirst : m.tooDeep? limit depth with
    | some found =>
      rw [hfirst, Option.some_or, Option.some.injEq] at h
      subst h
      cases m with
      | evaluating => simp [Moment.tooDeep?] at hfirst
      | leaving => simp [Moment.tooDeep?] at hfirst
      | entering t o =>
        rw [Moment.tooDeep?] at hfirst
        split at hfirst
        · next hdeep =>
          obtain ⟨rfl, rfl⟩ : t = s ∧ o = opener := by simpa using hfirst
          exact ⟨[], rest, rfl, within_nil, by simpa [nesting] using hdeep⟩
        · simp at hfirst
    | none =>
      rw [hfirst, Option.none_or] at h
      obtain ⟨before, after, rfl, hwithin, hdeep⟩ := ih h
      refine ⟨m :: before, after, rfl, within_cons.2 ⟨hfirst, hwithin⟩, ?_⟩
      rw [nesting]
      omega

end Overrun

/-! ## The limited run as a part of the free one -/

/-- How a watched run from a state ends when it is cut off at the first body that lies too deep. The loop
stack and the depth are unwound. -/
def Sighting.cut {α : Type} (limit : Int) (s : RunState) (r : Sighting α) : Except Failure α × RunState :=
  match overrun? limit s.depth r.moments with
  | none => r.ending
  | some (t, opener) =>
    (.error (.tooDeep limit opener.text opener.line), { t with frames := s.frames, depth := s.depth })

namespace Watch

variable {α β : Type}

/-- The first piece is the second, cut off at the first body that lies too deep. The second piece leaves
every body that it enters, and the loop stack and the depth as they were. -/
structure CutOff (limit : Int) (limited free : Watch α) (s : RunState) : Prop where
  ending : (limited s).ending = (free s).cut limit s
  closed : nesting (free s).moments = 0
  frames : (free s).ending.2.frames = s.frames
  depth : (free s).ending.2.depth = s.depth

section CutOff

variable {limit : Int} {s : RunState}

lemma cutOff_plain {x : Render α} (hx : x.Quiet) : CutOff limit (plain x) (plain x) s :=
  ⟨rfl, rfl, (hx s).1, (hx s).2.1⟩

lemma cutOff_bind {w w' : Watch α} {f f' : α → Watch β} (hw : CutOff limit w w' s)
    (hf : ∀ a s, CutOff limit (f a) (f' a) s) : CutOff limit (w >>= f) (w' >>= f') s := by
  obtain ⟨hending, hclosed, hframes, hdepth⟩ := hw
  have hlimited := bind_ending w f s
  rw [hending] at hlimited
  rcases hfree : w' s with ⟨⟨e | a, s'⟩, moments⟩
  · rw [hfree] at hclosed hframes hdepth hlimited
    refine ⟨?_, ?_, ?_, ?_⟩ <;> rw [bind_error hfree]
    · rw [hlimited]
      unfold Sighting.cut
      dsimp only
      cases overrun? limit s.depth moments with
      | none => rfl
      | some found => rfl
    · exact hclosed
    · exact hframes
    · exact hdepth
  · rw [hfree] at hclosed hframes hdepth hlimited
    obtain ⟨hending', hclosed', hframes', hdepth'⟩ := hf a s'
    dsimp only at hclosed hframes hdepth
    refine ⟨?_, ?_, ?_, ?_⟩ <;> rw [bind_ok hfree]
    · rw [hlimited]
      unfold Sighting.cut at hending' ⊢
      dsimp only
      -- The first piece has left what it entered, so what follows is at the depth of the start.
      rw [overrun?_append, hclosed, Int.add_zero, ← hdepth]
      cases overrun? limit s'.depth moments with
      | none =>
        rw [Option.none_or]
        dsimp only
        rw [hending', hframes]
      | some found => rfl
    · rw [nesting_append, hclosed, hclosed', Int.add_zero]
    · exact hframes'.trans hframes
    · exact hdepth'.trans hdepth

lemma cutOff_withFrame {frame : Frame} {w w' : Watch α} (hw : ∀ s, CutOff limit w w' s) :
    CutOff limit (withFrame frame w) (withFrame frame w') s := by
  obtain ⟨hending, hnesting, hframes, hdepth⟩ := hw { s with frames := s.frames ++ [frame] }
  refine ⟨?_, hnesting, ?_, hdepth⟩
  · rw [withFrame_apply, withFrame_apply]
    dsimp only
    rw [hending]
    unfold Sighting.cut
    dsimp only
    split <;> simp
  · rw [withFrame_apply]
    dsimp only
    rw [hframes, List.dropLast_concat]

lemma cutOff_lookup (c : Context) (e : Text) :
    CutOff limit (lookup { c with maxDepth := limit } e) (lookup { c with maxDepth := 0 } e) s := by
  have hbalanced := (Render.piecewise_balanced c).lookup e s
  exact ⟨rfl, rfl, hbalanced.1, hbalanced.2⟩

lemma cutOff_inBody (hlimit : 0 < limit) (c : Context) {opener : Token} {w w' : Watch α}
    (hw : ∀ s, CutOff limit w w' s) :
    CutOff limit (inBody { c with maxDepth := limit } opener w) (inBody { c with maxDepth := 0 } opener w')
      s := by
  obtain ⟨hending, hnesting, hframes, hdepth⟩ := hw { s with depth := s.depth + 1 }
  have hfree : inBody { c with maxDepth := 0 } opener w' s =
      let r := w' { s with depth := s.depth + 1 }
      ⟨(r.ending.1, { r.ending.2 with depth := r.ending.2.depth - 1 }),
        .entering s opener :: (r.moments ++ [.leaving])⟩ := by
    rw [inBody_apply, if_neg (by simp)]
  refine ⟨?_, ?_, ?_, ?_⟩ <;> rw [hfree]
  · rw [inBody_apply]
    unfold Sighting.cut
    dsimp only
    -- This body comes first. If it is not too deep, the overrun is one of the bodies inside it.
    rw [overrun?, overrun?_append]
    by_cases hdeep : limit < s.depth + 1
    · rw [if_pos ⟨by omega, hdeep⟩, Moment.tooDeep?, if_pos hdeep, Option.some_or]
    · rw [if_neg (by omega), Moment.tooDeep?, if_neg hdeep, Option.none_or, hending]
      unfold Sighting.cut
      dsimp only [Moment.change]
      cases overrun? limit (s.depth + 1) (w' { s with depth := s.depth + 1 }).moments with
      | none => rfl
      | some found => simp
  · simp only [nesting, nesting_append, hnesting, Moment.change]
    rfl
  · exact hframes
  · dsimp only at hdepth ⊢
    omega

lemma CutOff.eq_of_within {w w' : Watch α} (h : CutOff limit w w' s)
    (hwithin : Within limit s.depth (w' s).moments) : (w s).ending = (w' s).ending := by
  rw [h.ending, Sighting.cut, overrun?_eq_none_iff.2 hwithin]

lemma CutOff.within_of_ok {w w' : Watch α} (h : CutOff limit w w' s) {a : α}
    (hok : (w s).ending.1 = .ok a) : Within limit s.depth (w' s).moments := by
  rw [h.ending, Sighting.cut] at hok
  cases hover : overrun? limit s.depth (w' s).moments with
  | none => exact overrun?_eq_none_iff.1 hover
  | some found =>
    rw [hover] at hok
    simp at hok

lemma CutOff.overrun {w w' : Watch α} (h : CutOff limit w w' s)
    (hdeep : ¬ Within limit s.depth (w' s).moments) :
    ∃ before t opener after, (w' s).moments = before ++ .entering t opener :: after ∧
      Within limit s.depth before ∧ limit < s.depth + nesting before + 1 ∧
      (w s).ending.1 = .error (.tooDeep limit opener.text opener.line) ∧
      (w s).ending.2.calls = t.calls := by
  cases hover : overrun? limit s.depth (w' s).moments with
  | none => exact absurd (overrun?_eq_none_iff.1 hover) hdeep
  | some found =>
    obtain ⟨t, opener⟩ := found
    obtain ⟨before, after, hsplit, hbefore, hlimit⟩ := overrun?_eq_some hover
    refine ⟨before, t, opener, after, hsplit, hbefore, hlimit, ?_, ?_⟩ <;>
      rw [h.ending, Sighting.cut, hover]

end CutOff

theorem stepwise_cutOff {limit : Int} (hlimit : 0 < limit) (c : Context) :
    Stepwise { c with maxDepth := limit } { c with maxDepth := 0 }
      fun w w' => ∀ s, CutOff limit w w' s where
  plain hx _ := cutOff_plain hx
  bind hw hf s := cutOff_bind (hw s) hf
  lookup e _ := cutOff_lookup c e
  inBody _ _ _ hw _ := cutOff_inBody hlimit c hw
  withFrame _ _ _ hw _ := cutOff_withFrame hw

end Watch

namespace Render

open Watch

lemma template_raised (c : Context) (source : Text) (s : RunState) {limit other : Int}
    (hlimit : 0 < limit) (hother : other = 0 ∨ limit ≤ other) {text : Text}
    (hok : (template { c with maxDepth := limit } source s).1 = .ok text) :
    template { c with maxDepth := other } source s = template { c with maxDepth := limit } source s := by
  have hcut := (stepwise_cutOff hlimit c).template rfl source s
  rw [← template_ending] at hok
  have hwithin := hcut.within_of_ok hok
  rw [← template_ending, ← template_ending, hcut.eq_of_within hwithin]
  rcases hother with rfl | hlarger
  · rfl
  · have hcut' := (stepwise_cutOff (by omega : 0 < other) c).template rfl source s
    exact hcut'.eq_of_within (hwithin.mono hlarger)

/-- A nesting limit only ever cuts a run off. If no body that the run without a limit enters lies too
deep, the limit changes nothing. Otherwise the run fails at the opener of the first such body, having
asked what the run without a limit has asked before it enters that body. -/
theorem range_limited (c : Context) (tokens : Array Token) (start stop : Nat) (s : RunState)
    {limit : Int} (hlimit : 0 < limit) :
    let free : Context := { c with maxDepth := 0 }
    let limited : Context := { c with maxDepth := limit }
    let moments := (Watch.range free tokens start stop s).moments
    (Within limit s.depth moments → range limited tokens start stop s = range free tokens start stop s) ∧
    (¬ Within limit s.depth moments →
      ∃ before t opener after, moments = before ++ .entering t opener :: after ∧
        Within limit s.depth before ∧ limit < s.depth + nesting before + 1 ∧
        (range limited tokens start stop s).1 = .error (.tooDeep limit opener.text opener.line) ∧
        (range limited tokens start stop s).2.calls = s.calls ++ questions c.markers before ∧
        (range free tokens start stop s).2.calls =
          s.calls ++ questions c.markers before ++ questions c.markers after) ∧
    ∀ (source text : Text) (other : Int), other = 0 ∨ limit ≤ other →
      (template limited source s).1 = .ok text →
      template { c with maxDepth := other } source s = template limited source s := by
  intro free limited moments
  have hcut : CutOff limit (Watch.range limited tokens start stop) (Watch.range free tokens start stop) s :=
    (stepwise_cutOff hlimit c).parallel.range rfl tokens start stop s
  have hlimited := range_ending limited tokens start stop s
  have hfree := range_ending free tokens start stop s
  refine ⟨fun hwithin => ?_, fun hdeep => ?_, fun source text other hother hok => ?_⟩
  · rw [← hlimited, ← hfree]
    exact hcut.eq_of_within hwithin
  · obtain ⟨before, t, opener, after, hsplit, hbefore, hbelow, hfails, hcalls⟩ := hcut.overrun hdeep
    have htally := range_accounted free tokens start stop s
    rw [hsplit] at htally
    refine ⟨before, t, opener, after, hsplit, hbefore, hbelow, ?_, ?_, ?_⟩
    · rw [← hlimited]
      exact hfails
    · rw [← hlimited, hcalls]
      exact htally.before rfl
    · rw [← hfree, htally.total, questions_append, ← Array.append_assoc]
      rfl
  · exact template_raised c source s hlimit hother hok

/-- Two elements under `xs`, and the truth under every other name. -/
def pairContext : Context where
  markers := .default
  resolver := .ofFunction fun e => .ok (if e = "xs".text then .list [.int 1, .int 2] else .bool true)
  maxDepth := 0

/-- A conditional in a loop. -/
def rowTokens : Array Token :=
  #[.command 1 ['@', 'x', 's'], .command 1 ['?', 'a'], .literal 1 ['-'], .command 1 ['/', '?', 'a'],
    .command 1 ['/', '@', 'x', 's']]

/-- Under a limit of two nothing is cut off, and under a limit of one the run stops in the first row. -/
theorem range_limited_rows :
    let free : Context := { pairContext with maxDepth := 0 }
    let limited (limit : Int) : Context := { pairContext with maxDepth := limit }
    let moments := (Watch.range free rowTokens 0 5 {}).moments
    (Within 2 0 moments ∧ range (limited 2) rowTokens 0 5 {} = range free rowTokens 0 5 {}) ∧
      ¬ Within 1 0 moments ∧
      ∃ before t opener after, moments = before ++ .entering t opener :: after ∧
        (range (limited 1) rowTokens 0 5 {}).1 = .error (.tooDeep 1 opener.text opener.line) ∧
        questions Markers.default before = #["xs".text, "a".text] := by
  intro free limited moments
  have hwithin : Within 2 0 moments := by decide +kernel
  have hdeep : ¬ Within 1 0 moments := by decide +kernel
  have hasked : (range (limited 1) rowTokens 0 5 {}).2.calls = #["xs".text, "a".text] := by decide +kernel
  have hloose := range_limited pairContext rowTokens 0 5 {} (by decide : (0 : Int) < 2)
  have htight := range_limited pairContext rowTokens 0 5 {} (by decide : (0 : Int) < 1)
  obtain ⟨before, t, opener, after, hsplit, -, -, hfails, hcalls, -⟩ := htight.2.1 hdeep
  refine ⟨⟨hwithin, hloose.1 hwithin⟩, hdeep, before, t, opener, after, hsplit, hfails, ?_⟩
  have hquestions : #[] ++ questions Markers.default before = #["xs".text, "a".text] :=
    hcalls.symm.trans hasked
  simpa using hquestions

end Render

end TextTemplate
