import TextTemplate.Proofs.Piecewise
import Mathlib.Tactic.Lemma

/-!
# What a rendering undoes

Whether it succeeds or fails, a rendering leaves the loop stack and the depth as they were. The frame of
a loop is replaced in place for every row, and whatever is on top is taken off in the end, so the walk of
a loop is balanced only because every body is. For the same reason a walk may be read row by row, each
row with a frame of its own.
-/

namespace TextTemplate.Render

/-- A piece of a run that leaves the loop stack and the depth as they were. -/
def Balanced {α : Type} (x : Render α) : Prop :=
  ∀ s : RunState, (x s).2.frames = s.frames ∧ (x s).2.depth = s.depth

lemma balanced_bind {α β : Type} {x : Render α} {f : α → Render β} (hx : Balanced x)
    (hf : ∀ a, Balanced (f a)) : Balanced (x >>= f) := by
  intro s
  have h := hx s
  rw [bind_apply]
  rcases hxs : x s with ⟨e | a, s'⟩ <;> rw [hxs] at h
  · exact h
  · have h' := hf a s'
    exact ⟨h'.1.trans h.1, h'.2.trans h.2⟩

lemma balanced_inBody {α : Type} {c : Context} {opener : Token} {x : Render α} (hx : Balanced x) :
    Balanced (inBody c opener x) := by
  intro s
  unfold inBody
  split
  · exact ⟨rfl, rfl⟩
  · have h := hx { s with depth := s.depth + 1 }
    simp [h]

lemma balanced_withFrame {α : Type} {frame : Frame} {x : Render α} (hx : Balanced x) :
    Balanced (withFrame frame fun _ => x) := by
  intro s
  have h := hx { s with frames := s.frames ++ [frame] }
  simp [withFrame, h]

/-! ## The frame of a loop -/

lemma set_top (base : List Frame) (top frame : Frame) :
    (base ++ [top]).set base.length frame = base ++ [frame] := by
  rw [List.set_append_right _ _ (Nat.le_refl _), Nat.sub_self, List.set_cons_zero]

/-- What is on top of the stack before a walk has no influence on it: each row puts its own frame there,
and without a row nothing is asked of the stack. -/
lemma eachPair_top (c : Context) (opener : Token) (frame top : Frame) (body : Render Text) (row : Nat)
    (pairs : List (Value × Value)) (base : List Frame) (s : RunState) (hs : s.frames = base ++ [top]) :
    let r := eachPair c opener frame body base.length row pairs s
    let r' := eachPair c opener frame body base.length row pairs { s with frames := base ++ [frame] }
    (r.1, { r.2 with frames := r.2.frames.dropLast }) =
      (r'.1, { r'.2 with frames := r'.2.frames.dropLast }) := by
  cases pairs with
  | nil => simp only [eachPair, pure_apply, hs, List.dropLast_concat]
  | cons pair rest =>
    obtain ⟨key, value⟩ := pair
    simp only [eachPair, bind_apply, setFrame_apply, hs, set_top]

variable {c : Context} {opener : Token} {body : Render Text}

lemma walk_nil (frame : Frame) (row : Nat) :
    (withFrame frame fun height => eachPair c opener frame body height row []) = return [] := by
  funext s
  simp [withFrame, eachPair, pure_apply]

lemma walk_cons (hbody : Balanced body) (frame : Frame) (row : Nat) (key value : Value)
    (rest : List (Value × Value)) :
    (withFrame frame fun height => eachPair c opener frame body height row ((key, value) :: rest)) =
      (do
        let piece ← withFrame { frame with key, row, value } fun _ => inBody c opener body
        return piece ++
          (← withFrame frame fun height => eachPair c opener frame body height (row + 1) rest)) := by
  funext s
  let current : Frame := { frame with key, row, value }
  have hrow : Balanced (inBody c opener body) := balanced_inBody hbody
  have hkept := hrow { s with frames := s.frames ++ [current] }
  simp only [bind_apply, withFrame, eachPair, setFrame_apply, set_top]
  rcases hfirst : inBody c opener body { s with frames := s.frames ++ [current] } with ⟨f | piece, s'⟩
  · rfl
  · rw [hfirst] at hkept
    have htop := eachPair_top c opener frame current body (row + 1) rest s.frames s' hkept.1
    rcases hunder : eachPair c opener frame body s.frames.length (row + 1) rest s' with ⟨f | more, t⟩ <;>
      rcases hfresh : eachPair c opener frame body s.frames.length (row + 1) rest
        { s' with frames := s.frames ++ [frame] } with ⟨f' | more', t'⟩ <;>
      rw [hunder, hfresh] at htop <;> simp_all [pure_apply]

lemma balanced_walk (hbody : Balanced body) (frame : Frame) (row : Nat)
    (pairs : List (Value × Value)) :
    Balanced (withFrame frame fun height => eachPair c opener frame body height row pairs) := by
  induction pairs generalizing row with
  | nil =>
    rw [walk_nil]
    exact fun _ => ⟨rfl, rfl⟩
  | cons pair rest ih =>
    rw [walk_cons hbody]
    exact balanced_bind (balanced_withFrame (balanced_inBody hbody)) fun _ =>
      balanced_bind (ih _) fun _ _ => ⟨rfl, rfl⟩

lemma piecewise_balanced (c : Context) : Piecewise c Balanced where
  pure _ _ := ⟨rfl, rfl⟩
  throw _ _ := ⟨rfl, rfl⟩
  bind := balanced_bind
  get _ := ⟨rfl, rfl⟩
  note _ _ := ⟨rfl, rfl⟩
  ask _ _ := ⟨rfl, rfl⟩
  takePairs? _ _ := ⟨rfl, rfl⟩
  inBody _ _ := balanced_inBody
  walk _ frame pairs _ hbody := balanced_walk hbody frame 0 pairs

lemma balanced_range (c : Context) (tokens : Array Token) (start stop : Nat) :
    Balanced (range c tokens start stop) :=
  (piecewise_balanced c).range tokens start stop

end TextTemplate.Render
