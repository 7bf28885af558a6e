import TextTemplate.Engine.Basic
import TextTemplate.Proofs.Balance
import TextTemplate.Template.Meaning

/-!
# Pieces of a run and outcomes

What a piece of a run comes to, as an outcome in the sense of the meaning of templates: the same text, or
the same failure on whatever line, and the same questions to the resolver. Each way in which pieces are put
together goes with a way in which outcomes are.
-/

namespace TextTemplate

/-- A failure on whatever line. -/
def Failure.unplaced : Failure → Failure
  | unmatchedClose _ => unmatchedClose 0
  | unclosedCommand _ start text => unclosedCommand 0 start text
  | unexpectedClose _ text => unexpectedClose 0 text
  | unterminated construct text _ => unterminated construct text 0
  | tooDeep limit text _ => tooDeep limit text 0
  | f => f

@[simp] lemma Failure.mapError_ok (t : Text) : (Except.ok t).mapError Failure.unplaced = .ok t := rfl

@[simp] lemma Failure.mapError_error (f : Failure) :
    (Except.error f : Except Failure Text).mapError Failure.unplaced = .error f.unplaced := rfl

lemma Failure.mapError_map (r : Except Failure Text) (g : Text → Text) :
    (r.map g).mapError Failure.unplaced = (r.mapError Failure.unplaced).map g := by
  cases r <;> rfl

/-- What the meaning of a template depends on in a run, where the resolver's replies do not depend on what
it was asked before. -/
def Context.environment (c : Context) : Environment where
  markers := c.markers
  resolve := fun expression => (c.resolver #[] expression).result
  maxDepth := c.maxDepth

@[simp] lemma Context.environment_markers (c : Context) : c.environment.markers = c.markers := rfl

@[simp] lemma Context.environment_resolve (c : Context) (e : Text) :
    c.environment.resolve e = (c.resolver #[] e).result := rfl

namespace Render

/-- How a piece of a run that starts in a state ends, as an outcome says. No stream is left to be used
up, so values are what they were. -/
structure EndsAs (s : RunState) (r : Except Failure Text × RunState) (o : Outcome) : Prop where
  result : r.1.mapError Failure.unplaced = o.result.mapError Failure.unplaced
  calls : r.2.calls.toList = s.calls.toList ++ o.calls
  frames : r.2.frames = s.frames
  depth : r.2.depth = s.depth
  streams : r.2.streams = []

/-- A piece of a run that comes to an outcome under a loop stack, at a depth. -/
def Renders (x : Render Text) (frames : List Frame) (depth : Nat) (o : Outcome) : Prop :=
  ∀ s : RunState, s.frames = frames → s.depth = depth → s.streams = [] → EndsAs s (x s) o

lemma append_apply (t : Text) (y : Render Text) (s : RunState) :
    (do return t ++ (← y) : Render Text) s = ((y s).1.map (t ++ ·), (y s).2) := by
  rw [bind_apply]
  rcases y s with ⟨f | u, s'⟩ <;> rfl

section Renders

variable {c : Context} {x y : Render Text} {frames : List Frame} {depth : Nat} {o p : Outcome}

lemma renders_return (t : Text) : Renders (return t) frames depth (.text t) := by
  intro s _ _ hstreams
  exact ⟨rfl, (List.append_nil _).symm, rfl, rfl, hstreams⟩

lemma renders_append (hx : Renders x frames depth o) (hy : Renders y frames depth p) :
    Renders (do let piece ← x; return piece ++ (← y)) frames depth (o.append p) := by
  intro s hframes hdepth hstreams
  have h := hx s hframes hdepth hstreams
  obtain ⟨calls, result⟩ := o
  rw [bind_apply]
  rcases hfirst : x s with ⟨f | t, s'⟩ <;> rw [hfirst] at h <;> obtain ⟨hr, hc, hf, hd, hs⟩ := h
  · cases result with
    | ok t => simp at hr
    | error g => exact ⟨hr, hc, hf, hd, hs⟩
  · cases result with
    | error g => simp at hr
    | ok t' =>
      obtain rfl : t = t' := by simpa using hr
      have h' := hy s' (hf.trans hframes) (hd.trans hdepth) hs
      have hresult : ((y s').1.map (t ++ ·)).mapError Failure.unplaced =
          (p.result.map (t ++ ·)).mapError Failure.unplaced := by
        rw [Failure.mapError_map, Failure.mapError_map, h'.result]
      have hcalls : (y s').2.calls.toList = s.calls.toList ++ (calls ++ p.calls) := by
        rw [h'.calls, hc, List.append_assoc]
      dsimp only
      rw [append_apply]
      exact ⟨hresult, hcalls, h'.frames.trans hf, h'.depth.trans hd, h'.streams⟩

lemma renders_withValue (hc : c.resolver.IsFixed) (e : Text) {k : Value → Render Text}
    {next : Value → Outcome} (hk : ∀ v, Renders (k v) frames depth (next v)) :
    Renders (lookup c e >>= k) frames depth (c.environment.withValue frames e next) := by
  intro s hframes hdepth hstreams
  rw [bind_apply, lookup_apply, Environment.withValue, hframes, c.environment_markers]
  rcases Frame.lookup? c.markers frames e with _ | f | v
  · have hreply : c.resolver s.calls e = c.resolver #[] e := hc _ _ _
    simp only [ask, hreply, c.environment_resolve]
    cases (c.resolver #[] e).result with
    | error f => exact ⟨rfl, Array.toList_push, rfl, rfl, hstreams⟩
    | ok v =>
      have h := hk v
        { s with calls := s.calls.push e, notes := s.notes ++ (c.resolver #[] e).notes.toArray }
        hframes hdepth hstreams
      refine ⟨h.result, ?_, h.frames, h.depth, h.streams⟩
      rw [h.calls]
      simp
  · exact ⟨rfl, (List.append_nil _).symm, rfl, rfl, hstreams⟩
  · exact hk v s hframes hdepth hstreams

lemma renders_inBody {opener : Token} {inner : Nat → Outcome}
    (hx : Renders x frames (depth + 1) (inner (depth + 1))) :
    Renders (inBody c opener x) frames depth (c.environment.body opener.text depth inner) := by
  intro s hframes hdepth hstreams
  have hlevel : s.depth + 1 = ((depth + 1 : Nat) : Int) := by omega
  simp only [inBody, hlevel]
  by_cases hdeep : c.maxDepth ≠ 0 ∧ c.maxDepth < ((depth + 1 : Nat) : Int)
  · have hmeant : c.environment.body opener.text depth inner =
        .fail (.tooDeep c.maxDepth opener.text 0) := if_pos hdeep
    rw [if_pos hdeep, hmeant]
    exact ⟨rfl, (List.append_nil _).symm, rfl, rfl, hstreams⟩
  · have hmeant : c.environment.body opener.text depth inner = inner (depth + 1) := if_neg hdeep
    rw [if_neg hdeep, hmeant]
    have h := hx { s with depth := ((depth + 1 : Nat) : Int) } hframes rfl hstreams
    refine ⟨h.result, h.calls, h.frames, ?_, h.streams⟩
    have hback := h.depth
    dsimp only at hback ⊢
    omega

lemma renders_withFrame {frame : Frame} (hx : Renders x (frames ++ [frame]) depth o) :
    Renders (withFrame frame fun _ => x) frames depth o := by
  intro s hframes hdepth hstreams
  have h := hx { s with frames := s.frames ++ [frame] } (by rw [hframes]) hdepth hstreams
  refine ⟨h.result, h.calls, ?_, h.depth, h.streams⟩
  have hback := h.frames
  simp only [withFrame] at hback ⊢
  rw [hback, List.dropLast_concat]

lemma renders_walk {body : Render Text} (hbody : Balanced body) (opener : Token) (frame : Frame)
    (row : Nat) (walked : List (Value × Value)) (inner : Frame → Nat → Outcome)
    (h : ∀ key value row, let current := { frame with key, row, value }
      Renders body (frames ++ [current]) (depth + 1) (inner current (depth + 1))) :
    Renders (withFrame frame fun height => eachPair c opener frame body height row walked) frames depth
      (.concat ((walked.zipIdx row).map fun ((key, value), row) =>
        c.environment.body opener.text depth (inner { frame with key, row, value }))) := by
  induction walked generalizing row with
  | nil =>
    rw [walk_nil]
    exact renders_return []
  | cons pair rest ih =>
    obtain ⟨key, value⟩ := pair
    rw [walk_cons hbody]
    exact renders_append (renders_withFrame (renders_inBody (h key value row))) (ih (row + 1))

lemma renders_substitution (hc : c.resolver.IsFixed) (e : Text) :
    Renders (substitution c e) frames depth (c.environment.withValue frames e Environment.shown) := by
  refine renders_withValue hc e fun v => ?_
  intro s _ _ hstreams
  unfold Environment.shown
  cases v.display with
  | error f => exact ⟨rfl, (List.append_nil _).symm, rfl, rfl, hstreams⟩
  | ok t => exact ⟨rfl, (List.append_nil _).symm, rfl, rfl, hstreams⟩

lemma renders_conditional (hc : c.resolver.IsFixed) (block : ConditionalBlock) {inner : Nat → Outcome}
    (hx : Renders x frames (depth + 1) (inner (depth + 1))) :
    Renders (conditional c block x none) frames depth
      (c.environment.withValue frames block.test fun v =>
        if v.isTruthy then c.environment.body block.opener.text depth inner else .text []) := by
  refine renders_withValue hc _ fun v => ?_
  split
  · exact renders_inBody hx
  · exact renders_return []

lemma renders_choice (hc : c.resolver.IsFixed) (block : ConditionalBlock) {holds otherwise : Nat → Outcome}
    (hx : Renders x frames (depth + 1) (holds (depth + 1)))
    (hy : Renders y frames (depth + 1) (otherwise (depth + 1))) :
    Renders (conditional c block x (some y)) frames depth
      (c.environment.withValue frames block.test fun v =>
        if v.isTruthy then c.environment.body block.opener.text depth holds
        else c.environment.body block.opener.text depth otherwise) := by
  refine renders_withValue hc _ fun v => ?_
  split
  · exact renders_inBody hx
  · exact renders_inBody hy

lemma drained_nil (v : Value) : v.drained [] = [] := by
  cases v <;> rfl

lemma renders_loop (hc : c.resolver.IsFixed) (block : LoopBlock) {body : Render Text}
    (hbody : Balanced body) {inner : Frame → Nat → Outcome}
    (h : ∀ current, Renders body (frames ++ [current]) (depth + 1) (inner current (depth + 1))) :
    Renders (loop c block body) frames depth
      (c.environment.withValue frames block.target fun v =>
        match v.pairs? [] with
        | none => .fail (.notIterable block.target v.typeName)
        | some pairs =>
          .concat (pairs.zipIdx.map fun ((key, value), row) =>
            c.environment.body block.opener.text depth
              (inner
                { name := block.name?.getD (Frame.defaultName (frames.length + 1)), pairs, key, row,
                  value }))) := by
  intro s hframes
  rw [loop, bind_apply, get_apply]
  dsimp only
  rw [hframes]
  revert s hframes
  refine renders_withValue hc _ fun v => ?_
  intro s hframes hdepth hstreams
  have htake : takePairs? v s = (.ok (v.pairs? []), s) := by
    rw [takePairs?, hstreams, drained_nil, ← hstreams]
  rw [bind_apply, htake]
  dsimp only
  cases v.pairs? [] with
  | none => exact ⟨rfl, (List.append_nil _).symm, rfl, rfl, hstreams⟩
  | some pairs =>
    have hwalk := renders_walk (c := c) hbody block.opener
      { name := block.name?.getD (Frame.defaultName (frames.length + 1)), pairs, key := .null, row := 0,
        value := .null } 0 pairs inner fun key value row => h _
    have hend := hwalk
      { s with notes := s.notes.push (.looping (block.name?.getD (Frame.defaultName (frames.length + 1)))
          block.target pairs.length) } hframes hdepth hstreams
    exact ⟨hend.result, hend.calls, hend.frames, hend.depth, hend.streams⟩

end Renders

end Render

end TextTemplate
