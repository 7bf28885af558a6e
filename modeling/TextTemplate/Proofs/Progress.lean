import Mathlib.Control.Monad.Basic
import Mathlib.Tactic.Lemma
import TextTemplate.Proofs.Invariants

/-!
# A run makes progress inside its range

Blocks are found by searching for texts, whether or not they are nested well. Still every position that is read
lies in the range that is being rendered, a body is a range strictly inside, and the run goes on further to the
right, so a range is rendered within as many steps as it has positions. Nothing but the tokens at the positions
that are read has an influence on a run.
-/

namespace TextTemplate

/-- A visit that reads inside its range, enters a range that is strictly inside, or moves on to the right. -/
def Visit.Progresses (start stop : Nat) : Visit → Prop
  | .reading place position =>
    start ≤ place.start ∧ place.start ≤ position ∧ position < place.stop ∧ place.stop ≤ stop
  | .evaluating _ _ _ => True
  | .entering place inner => inner.Inside place
  | .advancing place position next => place.start ≤ position ∧ position < next ∧ next ≤ place.stop

/-- The position that is read, if one is. -/
def Visit.position? : Visit → Option Nat
  | .reading _ position => some position
  | _ => none

/-- The positions that are read, in order. -/
def Trail.positions {α : Type} (r : Trail α) : List Nat :=
  r.visits.filterMap Visit.position?

namespace Tour

lemma invariant_progresses (c : Context) (whole : List Visit) (start stop : Nat) :
    Invariant c whole (fun place _ => start ≤ place.start ∧ place.stop ≤ stop) (Visit.Progresses start stop) where
  still h _ _ := h
  branch h hinside _ := by
    obtain ⟨hstart, -, hstop⟩ := hinside
    omega
  row h _ hinside _ _ := by
    obtain ⟨hstart, -, hstop⟩ := hinside
    omega
  reading h hstart hstop := ⟨h.1, hstart, hstop, h.2⟩
  evaluating _ _ := trivial
  entering _ hinside := hinside
  advancing _ hstart hforward hstop := ⟨hstart, hforward, hstop⟩

/-! ## What a run depends on -/

section Depends

variable {α β : Type} {tokens tokens' : Array Token}

/-- Where other tokens agree with those that a piece reads, the other piece does the same. -/
def Depends (tokens tokens' : Array Token) (w w' : Tour α) : Prop :=
  ∀ s, (∀ p ∈ (w s).positions, tokens'[p]? = tokens[p]?) → w' s = w s

lemma depends_refl (w : Tour α) : Depends tokens tokens' w w :=
  fun _ _ => rfl

lemma Depends.bind {w w' : Tour α} {f f' : α → Tour β} (hw : Depends tokens tokens' w w')
    (hf : ∀ a, Depends tokens tokens' (f a) (f' a)) : Depends tokens tokens' (w >>= f) (w' >>= f') := by
  intro s hsame
  -- The second piece runs only where the first one ends, and reads after it.
  have hfirst : w' s = w s := hw s fun p hp => hsame p (List.filterMap_subset _ (visits_subset_bind w f s) hp)
  rcases h : w s with ⟨_ | ⟨e | a, t⟩, visits⟩
  · simp only [Bind.bind, hfirst, h]
  · rw [bind_error h, bind_error (hfirst.trans h)]
  · rw [bind_ok h, bind_ok (hfirst.trans h), hf a t fun p hp => hsame p ?_]
    rw [bind_ok h, Trail.positions, List.filterMap_append]
    exact List.mem_append_right _ hp

lemma depends_read (place : Place) (position : Nat) :
    Depends tokens tokens' (read tokens place position) (read tokens' place position) := by
  intro s hsame
  have hposition : tokens'[position]? = tokens[position]? := by
    -- A position is read whether or not there is a token.
    refine hsame position ?_
    cases h : tokens[position]? <;> simp [read, h, Bind.bind, visit, plain, Trail.positions, Visit.position?]
  rw [read, read, hposition]

/-- What a run does depends on the tokens that it reads, and on no others. -/
lemma stepwise_depends (c : Context) (tokens tokens' : Array Token) :
    Stepwise c tokens tokens' fun w w' => Depends tokens tokens' w w' where
  exhausted := depends_refl _
  plain _ := depends_refl _
  setFrame _ _ := depends_refl _
  bind := Depends.bind
  read := depends_read
  entering _ _ := depends_refl _
  advancing _ _ _ := depends_refl _
  lookup _ _ := depends_refl _
  inBody opener w w' h s := by
    unfold inBody
    split
    · exact fun _ => rfl
    · intro hsame
      dsimp only
      rw [h _ hsame]
  withFrame frame w w' h s hsame := by
    unfold withFrame at hsame ⊢
    dsimp only at hsame ⊢
    rw [h _ _ hsame]

end Depends

end Tour

/-! ## Progress -/

/-- A range within the tokens is rendered within as many steps as it has positions. It reads tokens of the range
only, and its bodies lie strictly inside. -/
theorem Render.range_progresses (c : Context) (tokens : Array Token) (start stop steps : Nat) (s : RunState)
    (hstop : stop ≤ tokens.size) (hsteps : stop - start ≤ steps) :
    let trail := Tour.range c tokens steps ⟨start, stop, []⟩ start s
    trail.ending? = some (range c tokens start stop s) ∧
      (∀ v ∈ trail.visits, v.Progresses start stop) ∧
      (∀ p ∈ trail.positions, p < tokens.size) ∧
      ∀ tokens' : Array Token, (∀ p ∈ trail.positions, tokens'[p]? = tokens[p]?) →
        Tour.range c tokens' steps ⟨start, stop, []⟩ start s = trail := by
  intro trail
  have hI := Tour.invariant_progresses c trail.visits start stop
  obtain ⟨hending, hvisits⟩ := hI.range (Nat.le_refl _) hstop hsteps s ⟨Nat.le_refl _, Nat.le_refl _⟩
    (List.Subset.refl _)
  have hdepends (tokens' : Array Token) :=
    (Tour.stepwise_depends c tokens tokens').range steps ⟨start, stop, []⟩ start
  refine ⟨hending, hvisits, fun p hp => ?_, fun tokens' => hdepends tokens' s⟩
  obtain ⟨v, hv, hposition⟩ := List.mem_filterMap.1 hp
  cases v with
  | reading place position =>
    cases hposition
    obtain ⟨-, -, hlt, hle⟩ := hvisits _ hv
    omega
  | evaluating | entering | advancing => cases hposition

/-- A loop over a conditional, with a text on either side. -/
def loopBetweenTexts : Array Token :=
  #[.literal 1 ['('], .command 1 "@xs".text, .command 1 "?loop1".text, .literal 1 ['-'],
    .command 1 "!?loop1".text, .literal 1 ['+'], .command 1 "/?loop1".text, .command 1 "/@xs".text,
    .literal 1 [')']]

/-- A falsy and a truthy number under every name. -/
def bothTruths : Context :=
  ⟨.default, .ofFunction fun _ => .ok (.list [.int 0, .int 1]), 0⟩

/-- The texts on either side of the range are never read. -/
theorem Render.range_progresses_between :
    let trail := Tour.range bothTruths loopBetweenTexts 7 ⟨1, 8, []⟩ 1 {}
    8 ≤ loopBetweenTexts.size ∧ 8 - 1 ≤ 7 ∧ trail.ending? = some (range bothTruths loopBetweenTexts 1 8 {}) ∧
      (range bothTruths loopBetweenTexts 1 8 {}).1 = .ok ['+', '-'] ∧
      trail.positions = [1, 2, 3, 4, 5, 6, 7, 2, 3, 4, 5, 6, 3, 4, 5, 2, 3, 4, 5, 6, 3, 4, 3] ∧
      (∀ v ∈ trail.visits, v.Progresses 1 8) ∧
      Tour.range bothTruths (loopBetweenTexts.set! 0 (.command 1 "@xs".text)) 7 ⟨1, 8, []⟩ 1 {} = trail := by
  have hsize : 8 ≤ loopBetweenTexts.size := by decide
  have hshown : (Tour.range bothTruths loopBetweenTexts 7 ⟨1, 8, []⟩ 1 {}).ending?.map Prod.fst =
      some (.ok ['+', '-']) := by decide +kernel
  have hpositions : (Tour.range bothTruths loopBetweenTexts 7 ⟨1, 8, []⟩ 1 {}).positions =
      [1, 2, 3, 4, 5, 6, 7, 2, 3, 4, 5, 6, 3, 4, 5, 2, 3, 4, 5, 6, 3, 4, 3] := by decide +kernel
  obtain ⟨hending, hvisits, -, hothers⟩ :=
    range_progresses bothTruths loopBetweenTexts 1 8 7 {} hsize (Nat.le_refl _)
  rw [hending] at hshown
  refine ⟨hsize, Nat.le_refl _, hending, Option.some.inj hshown, hpositions, hvisits, hothers _ ?_⟩
  rw [hpositions]
  decide

end TextTemplate
