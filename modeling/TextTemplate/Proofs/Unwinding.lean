import Mathlib.Control.Monad.Basic
import TextTemplate.Proofs.Balance

/-!
# How a rendering ends

However the rendering of a range ends, the loop stack and the depth are what they were before. The
expressions that the resolver was asked are only ever added to, and if the resolver raises on one of them,
this is the last one and its failure is the outcome, whatever the failure is: nothing on the way out
handles it.
-/

namespace TextTemplate.Render

/-- A piece of a run that asks the resolver a list of expressions, of which the resolver raises on the
last at most, and if it does, the piece fails as the resolver did. -/
def StopsAtRaise (c : Context) {α : Type} (x : Render α) : Prop :=
  ∀ s : RunState, ∃ asked : List Text, (x s).2.calls = s.calls ++ asked.toArray ∧
    ∀ (before : List Text) (e : Text) (after : List Text) (f : Failure), asked = before ++ e :: after →
      (c.resolver (s.calls ++ before.toArray) e).result = .error f → after = [] ∧ (x s).1 = .error f

section StopsAtRaise

variable {c : Context} {α β : Type}

lemma stopsAtRaise_of_calls_eq {x : Render α} (h : ∀ s, (x s).2.calls = s.calls) :
    StopsAtRaise c x := by
  intro s
  refine ⟨[], by simp [h], ?_⟩
  intro before e after f hasked
  simp at hasked

lemma stopsAtRaise_ask (e : Text) : StopsAtRaise c (ask c.resolver e) := by
  intro s
  refine ⟨[e], by simp [ask], ?_⟩
  intro before e' after f hasked hraise
  obtain ⟨rfl, rfl, rfl⟩ : before = [] ∧ e = e' ∧ after = [] := by
    cases before with
    | nil => simpa using hasked
    | cons b rest => simp at hasked
  exact ⟨rfl, by simpa [ask] using hraise⟩

lemma stopsAtRaise_bind {x : Render α} {f : α → Render β} (hx : StopsAtRaise c x)
    (hf : ∀ a, StopsAtRaise c (f a)) : StopsAtRaise c (x >>= f) := by
  intro s
  obtain ⟨first, hcalls, hstop⟩ := hx s
  rw [bind_apply]
  rcases hxs : x s with ⟨g | a, s'⟩ <;> rw [hxs] at hcalls hstop
  · exact ⟨first, hcalls, fun before e after f' h h' => by simpa using hstop before e after f' h h'⟩
  · obtain ⟨second, hcalls', hstop'⟩ := hf a s'
    refine ⟨first ++ second, by simp [hcalls', show s'.calls = _ from hcalls], ?_⟩
    intro before e after f' hasked hraise
    -- the question stands among those of the second piece, or among those of the first
    rcases List.append_eq_append_iff.1 hasked with ⟨left, rfl, hsecond⟩ | ⟨right, hfirst, hafter⟩
    · refine hstop' left e after f' hsecond ?_
      rw [show s'.calls = _ from hcalls]
      simpa using hraise
    · cases right with
      | nil =>
        refine hstop' [] e after f' (by simpa using hafter.symm) ?_
        rw [show s'.calls = _ from hcalls]
        simpa [hfirst] using hraise
      | cons e' right =>
        obtain ⟨rfl, rfl⟩ : e = e' ∧ after = right ++ second := by simpa using hafter
        have h := (hstop before e right f' hfirst hraise).2
        simp at h

lemma stopsAtRaise_inBody {opener : Token} {x : Render α} (hx : StopsAtRaise c x) :
    StopsAtRaise c (inBody c opener x) := by
  intro s
  unfold inBody
  split
  · exact stopsAtRaise_of_calls_eq (x := throw _) (fun _ => rfl) s
  · exact hx { s with depth := s.depth + 1 }

lemma stopsAtRaise_withFrame {frame : Frame} {x : Nat → Render α}
    (hx : ∀ height, StopsAtRaise c (x height)) :
    StopsAtRaise c (withFrame frame x) := by
  intro s
  exact hx s.frames.length { s with frames := s.frames ++ [frame] }

lemma stopsAtRaise_eachPair {opener : Token} {frame : Frame} {body : Render Text}
    (hbody : StopsAtRaise c body) (height row : Nat) (pairs : List (Value × Value)) :
    StopsAtRaise c (eachPair c opener frame body height row pairs) := by
  induction pairs generalizing row with
  | nil => exact stopsAtRaise_of_calls_eq fun _ => rfl
  | cons pair rest ih =>
    refine stopsAtRaise_bind (stopsAtRaise_of_calls_eq fun _ => rfl) fun _ => ?_
    refine stopsAtRaise_bind (stopsAtRaise_inBody hbody) fun piece => ?_
    exact stopsAtRaise_bind (ih (row + 1)) fun _ => stopsAtRaise_of_calls_eq fun _ => rfl

lemma piecewise_stopsAtRaise (c : Context) : Piecewise c (StopsAtRaise c) where
  pure _ := stopsAtRaise_of_calls_eq fun _ => rfl
  throw _ := stopsAtRaise_of_calls_eq fun _ => rfl
  bind := stopsAtRaise_bind
  get := stopsAtRaise_of_calls_eq fun _ => rfl
  note _ := stopsAtRaise_of_calls_eq fun _ => rfl
  ask := stopsAtRaise_ask
  takePairs? _ := stopsAtRaise_of_calls_eq fun _ => rfl
  inBody _ _ := stopsAtRaise_inBody
  walk _ _ pairs _ hbody := stopsAtRaise_withFrame fun height => stopsAtRaise_eachPair hbody height 0 pairs

end StopsAtRaise

/-- Rendering a range from any state leaves the loop stack and the depth as they were, however it ends.
The expressions that it asks are added behind those asked before; if the resolver raises on one of them,
no other follows, and the failure is passed on as it is. -/
theorem range_unwinds (c : Context) (tokens : Array Token) (start stop : Nat) (s : RunState) :
    let r := range c tokens start stop s
    r.2.frames = s.frames ∧ r.2.depth = s.depth ∧
      ∃ asked : List Text, r.2.calls = s.calls ++ asked.toArray ∧
        ∀ (before : List Text) (e : Text) (after : List Text) (f : Failure),
          asked = before ++ e :: after →
          (c.resolver (s.calls ++ before.toArray) e).result = .error f →
          after = [] ∧ r.1 = .error f := by
  have hbalanced := balanced_range c tokens start stop s
  have hstops := (piecewise_stopsAtRaise c).range tokens start stop s
  exact ⟨hbalanced.1, hbalanced.2, hstops⟩

/-- A resolver that answers two questions, and raises on every other. -/
def forgetfulContext : Context where
  markers := Markers.default
  resolver := fun asked _ =>
    { result :=
        if asked.size = 0 then .ok (.list [.int 1, .int 2])
        else if asked.size = 1 then .ok (.bool true)
        else .error (.raised "KeyError" "gone") }
  maxDepth := 0

/-- A conditional in a loop, with a substitution inside. -/
def nestedTokens : Array Token :=
  #[.command 1 ['@', 'x'], .command 1 ['?', 't'], .command 1 ['e'], .command 1 ['/', '?', 't'],
    .command 1 ['/', '@', 'x']]

def outerFrame : Frame where
  name := "o".text
  pairs := [(.int 0, .null)]
  key := .int 0
  row := 0
  value := .null

theorem range_unwinds_keyError :
    let s : RunState := { frames := [outerFrame], depth := 3 }
    let r := range forgetfulContext nestedTokens 0 5 s
    r.2.frames = [outerFrame] ∧ r.2.depth = 3 ∧ r.2.calls = #["x".text, "t".text, "e".text] ∧
      r.1 = .error (.raised "KeyError" "gone") := by
  intro s r
  have hcalls : r.2.calls = #["x".text, "t".text, "e".text] := by decide +kernel
  obtain ⟨hframes, hdepth, asked, hasked, hstop⟩ := range_unwinds forgetfulContext nestedTokens 0 5 s
  have hlist : asked = ["x".text, "t".text, "e".text] := by
    have h : #[] ++ asked.toArray = #["x".text, "t".text, "e".text] := hasked.symm.trans hcalls
    simpa using congrArg Array.toList h
  exact ⟨hframes, hdepth, hcalls, (hstop [['x'], ['t']] ['e'] [] _ hlist rfl).2⟩

end TextTemplate.Render
