import TextTemplate.Engine.Basic
import TextTemplate.Proofs.Joining
import TextTemplate.Proofs.Watch

/-!
# Rendering one template after another

A token list that leaves no block open is rendered before whatever follows it, and one that does leave a
block open can only fail. So a template that was rendered with success is rendered in the same way in front
of any other, and the other one starts from where it would start alone, with more questions behind it.
-/

namespace TextTemplate

namespace Render

variable {c : Context}

/-! ## Lists that leave no block open -/

/-- A piece of a run that stands for the tokens before any others. -/
def Leads (c : Context) (head : List Token) (x : Render Text) : Prop :=
  ∀ rest, all c (head ++ rest) = do
    let piece ← x
    return piece ++ (← all c rest)

/-- A list that is rendered before whatever follows it. -/
def Whole (c : Context) (tokens : List Token) : Prop :=
  Leads c tokens (all c tokens)

/-- A list that is not rendered with success, not in front of a text either. -/
def Unfinished (c : Context) (tokens : List Token) : Prop :=
  ∀ (t : Token) (s : RunState) (u : Text), t.isCommand = false → (all c (tokens ++ [t]) s).1 ≠ .ok u

section Lists

variable {head tokens : List Token} {x : Render Text}

lemma whole_nil (c : Context) : Whole c [] := by
  intro rest
  rw [List.nil_append, all_nil]
  simp

lemma Leads.whole (h : Leads c head x) (hrest : Whole c tokens) : Whole c (head ++ tokens) := by
  intro rest
  rw [List.append_assoc, h, hrest, h]
  simp only [bind_assoc, pure_bind, List.append_assoc]

lemma Leads.unfinished (h : Leads c head x) (hrest : Unfinished c tokens) :
    Unfinished c (head ++ tokens) := by
  intro t s u ht hok
  rw [List.append_assoc, h, bind_apply] at hok
  rcases hx : x s with ⟨f | piece, s'⟩ <;> rw [hx] at hok
  · cases hok
  · dsimp only at hok
    rw [append_apply] at hok
    cases hlater : (all c (tokens ++ [t]) s').1 with
    | error f =>
      rw [hlater] at hok
      cases hok
    | ok v => exact hrest t s' v ht hlater

lemma Leads.extend (h : Leads c head x) (hrest : Whole c tokens ∨ Unfinished c tokens) :
    Whole c (head ++ tokens) ∨ Unfinished c (head ++ tokens) := by
  rcases hrest with hwhole | hunfinished
  · exact .inl (h.whole hwhole)
  · exact .inr (h.unfinished hunfinished)

lemma extend_block (block : List Token) {close : Token}
    (h : ∀ rest, all c (block ++ close :: rest) = do
      let piece ← x
      return piece ++ (← all c rest))
    (hrest : Whole c tokens ∨ Unfinished c tokens) :
    Whole c (block ++ close :: tokens) ∨ Unfinished c (block ++ close :: tokens) := by
  have hlead : Leads c (block ++ [close]) x := by
    intro rest
    rw [List.append_assoc]
    exact h rest
  have hextended := hlead.extend hrest
  rwa [List.append_assoc] at hextended

lemma lacks_text {text : Text} {t : Token} (ht : t.isCommand = false) : Lacks text [t] := by
  intro u hu hcommand
  obtain rfl := List.mem_singleton.1 hu
  rw [ht] at hcommand
  cases hcommand

lemma fail_ne_ok (f : Failure) (s : RunState) (u : Text) : ((fail f : Render Text) s).1 ≠ .ok u := by
  intro h
  unfold fail at h
  cases hn : Note.ofFailure? f with
  | none =>
    rw [hn] at h
    cases h
  | some n =>
    rw [hn] at h
    cases h

lemma whole_or_unfinished (c : Context) (tokens : List Token) : Whole c tokens ∨ Unfinished c tokens := by
  induction Reading.of_list c.markers tokens with
  | nil => exact .inl (whole_nil c)
  | @text t rest ht _ ih =>
    have hlead : Leads c [t] (pure t.text) := by
      intro later
      rw [List.singleton_append, all_text ht]
      simp
    exact hlead.extend ih
  | @ending t rest hcommand ht _ ih =>
    have hlead : Leads c [t] (pure []) := by
      intro later
      rw [List.singleton_append, all_ending hcommand ht]
      simp
    exact hlead.extend ih
  | @substitution t rest hcommand ht _ ih =>
    have hlead : Leads c [t] (substitution c t.text) := fun later => all_substitution hcommand ht
    exact hlead.extend ih
  | @conditional t close body rest hcommand ht hclose htext hend hno _ _ _ ih =>
    exact extend_block (t :: body) (fun _ => all_conditional hcommand ht hclose htext hend hno) ih
  | @choice t separator close holds otherwise rest hcommand ht hclose htext hseparator hother hend hno _ _ _
      _ _ ih =>
    exact extend_block (t :: (holds ++ separator :: otherwise))
      (fun _ => all_choice hcommand ht hclose htext hseparator hother hend hno) ih
  | @loop t close body rest hcommand ht hclose htext hend _ _ _ ih =>
    exact extend_block (t :: body) (fun _ => all_loop hcommand ht hclose htext hend) ih
  | @openConditional t rest hcommand ht hend =>
    right
    intro u s v hu
    rw [List.cons_append, all_openConditional hcommand ht (hend.append (lacks_text hu))]
    exact fail_ne_ok _ s v
  | @openLoop t rest hcommand ht hend =>
    right
    intro u s v hu
    rw [List.cons_append, all_openLoop hcommand ht (hend.append (lacks_text hu))]
    exact fail_ne_ok _ s v

/-- What was rendered with success up to a text is rendered in the same way where the text goes on and
other tokens follow. -/
lemma all_append_of_ok {init rest : List Token} {last next seam : Token} {s s' : RunState} {t : Text}
    (hlast : last.isCommand = false) (hnext : next.isCommand = false) (hseam : seam.isCommand = false)
    (htext : seam.text = last.text ++ next.text) (h : all c (init ++ [last]) s = (.ok t, s')) :
    all c (init ++ seam :: rest) s =
      ((all c (next :: rest) s').1.map (t ++ ·), (all c (next :: rest) s').2) := by
  rcases whole_or_unfinished c init with hwhole | hunfinished
  · rw [hwhole, bind_apply] at h
    rw [hwhole, bind_apply]
    rcases hinit : all c init s with ⟨f | piece, t'⟩
    · rw [hinit] at h
      cases h
    · rw [hinit] at h
      have hsingle : all c [last] = return last.text := by
        rw [all_text hlast, all_nil]
        simp
      dsimp only at h ⊢
      rw [append_apply, hsingle, pure_apply] at h
      obtain rfl : piece ++ last.text = t := Except.ok.inj (congrArg Prod.fst h)
      obtain rfl : t' = s' := congrArg Prod.snd h
      rw [append_apply, all_text hseam, all_text hnext, append_apply, append_apply, htext]
      cases (all c rest t').1 with
      | error f => rfl
      | ok u => simp [Except.map]
  · exact absurd (congrArg Prod.fst h) (hunfinished last s t hlast)

end Lists

/-! ## Runs without streams -/

/-- A piece of a run that makes no streams. -/
def Streamless {α : Type} (x : Render α) : Prop :=
  ∀ s : RunState, s.streams = [] → (x s).2.streams = []

section Streamless

variable {α β : Type}

lemma streamless_bind {x : Render α} {f : α → Render β} (hx : Streamless x) (hf : ∀ a, Streamless (f a)) :
    Streamless (x >>= f) := by
  intro s hs
  have h := hx s hs
  rw [bind_apply]
  rcases hxs : x s with ⟨e | a, s'⟩ <;> rw [hxs] at h
  · exact h
  · exact hf a s' h

lemma streamless_inBody {opener : Token} {x : Render α} (hx : Streamless x) :
    Streamless (inBody c opener x) := by
  intro s hs
  unfold inBody
  split
  · exact hs
  · exact hx { s with depth := s.depth + 1 } hs

lemma streamless_eachPair {opener : Token} {frame : Frame} {body : Render Text} (hbody : Streamless body)
    (height row : Nat) (pairs : List (Value × Value)) :
    Streamless (eachPair c opener frame body height row pairs) := by
  induction pairs generalizing row with
  | nil => exact fun _ hs => hs
  | cons pair rest ih =>
    refine streamless_bind (fun _ hs => hs) fun _ => streamless_bind (streamless_inBody hbody) fun _ => ?_
    exact streamless_bind (ih (row + 1)) fun _ _ hs => hs

lemma piecewise_streamless (c : Context) : Piecewise c Streamless where
  pure _ _ hs := hs
  throw _ _ hs := hs
  bind := streamless_bind
  get _ hs := hs
  note _ _ hs := hs
  ask _ _ hs := hs
  takePairs? v s hs := by
    unfold takePairs?
    dsimp only
    rw [hs, drained_nil]
  inBody _ _ := streamless_inBody
  walk _ frame pairs _ hbody s hs :=
    streamless_eachPair hbody s.frames.length 0 pairs { s with frames := s.frames ++ [frame] } hs

end Streamless

lemma template_of_tokenize {source : Text} {read : List Token} (h : tokenize c.markers source = .ok read)
    (s : RunState) :
    template c source s =
      all c read { s with notes := s.notes ++ (tokenizeNotes (tokenize c.markers source)).toArray } := by
  unfold template
  rw [bind_apply, tokens_apply, h]
  rfl

end Render

namespace Engine

variable {engine : Engine} {r : Resolver} {source first second t : Text} {read : List Token}

lemma format_of_tokenize (h : tokenize engine.markers source = .ok read) :
    ∃ notes, engine.format r [] source = Render.all (engine.context r) read { notes := notes } :=
  ⟨_, Render.template_of_tokenize (c := engine.context r) h {}⟩

lemma tokenize_of_format_ok (h : (engine.format r [] source).1 = .ok t) :
    ∃ read, tokenize engine.markers source = .ok read := by
  unfold format Render.template at h
  rw [Render.bind_apply, Render.tokens_apply] at h
  cases hread : tokenize engine.markers source with
  | ok read => exact ⟨read, rfl⟩
  | error f =>
    rw [show (engine.context r).markers = engine.markers from rfl, hread] at h
    cases h

/-- Rendering is compositional. Where a template was rendered with success, that template followed by
another one comes to the text of the first followed by that of the second, or fails as the second one does,
on whatever line; and the resolver is asked what the first asks and then what the second does. -/
theorem format_append (engine : Engine) {r : Resolver} (hr : r.IsFixed) {first second t : Text}
    {read : List Token} (hread : tokenize engine.markers second = .ok read)
    (hopen : ¬ engine.markers.opening.Straddles first second)
    (hclose : ¬ engine.markers.closing.Straddles first second)
    (hfirst : (engine.format r [] first).1 = .ok t) :
    let whole := engine.format r [] (first ++ second)
    let rest := engine.format r [] second
    whole.1.mapError Failure.unplaced = (rest.1.map (t ++ ·)).mapError Failure.unplaced ∧
      whole.2.calls = (engine.format r [] first).2.calls ++ rest.2.calls := by
  intro whole rest
  obtain ⟨tokens, htokens⟩ := tokenize_of_format_ok hfirst
  obtain ⟨init, later, joined, last, next, rfl, rfl, hlast, hnext, hjoined, hsame⟩ :=
    tokenize_append htokens hread hopen hclose
  let c := engine.context r
  obtain ⟨notes₁, hrun₁⟩ := format_of_tokenize (r := r) htokens
  obtain ⟨notes₂, hrun₂⟩ := format_of_tokenize (r := r) hread
  obtain ⟨notes, hrun⟩ := format_of_tokenize (r := r) hjoined
  rcases hend : Render.all c (init ++ [last]) { notes := notes₁ } with ⟨f | t', s'⟩
  · rw [hrun₁, hend] at hfirst
    cases hfirst
  obtain rfl : t' = t := by
    rw [hrun₁, hend] at hfirst
    exact Except.ok.inj hfirst
  -- The second template starts where it would start alone, with the questions of the first one behind it.
  have hstart : Alongside s'.calls { notes := notes₂ } s' := by
    have hbalanced := Render.balanced_all c (init ++ [last]) { notes := notes₁ }
    have hstreams := (Render.piecewise_streamless c).range (init ++ [last]).toArray 0
      (init ++ [last]).length { notes := notes₁ } rfl
    rw [hend] at hbalanced
    change (Render.all c (init ++ [last]) { notes := notes₁ }).2.streams = [] at hstreams
    rw [hend] at hstreams
    exact ⟨hbalanced.1, hbalanced.2, hstreams, Array.append_empty.symm⟩
  have hplaces : (next :: later).map Token.unplaced = (next :: later).map Token.unplaced := rfl
  have hsecond := Render.all_echoes (c := c) (hr.forgets s'.calls) hplaces _ _ hstart
  have htogether := Render.all_echoes (c := c) (hr.forgets #[]) hsame.symm { notes := notes₁ }
    { notes := notes } ⟨rfl, rfl, rfl, rfl⟩
  rw [Render.all_append_of_ok hlast hnext rfl rfl hend] at htogether
  have hwhole : whole = Render.all c joined { notes := notes } := hrun
  have hrest : rest = Render.all c (next :: later) { notes := notes₂ } := hrun₂
  constructor
  · rw [hwhole, hrest, htogether.result, Failure.mapError_map, Failure.mapError_map, hsecond.result]
  · rw [hwhole, hrest, htogether.state.calls, Array.empty_append, hsecond.state.calls, hrun₁, hend]

/-- Nothing under `a`, and two numbers under every other name. -/
def sparseResolver : Resolver :=
  .ofFunction fun e => .ok (if e = "a".text then .null else .list [.int 1, .int 2])

/-- The branch that is skipped opens a block that only the second template ends. -/
theorem format_append_skipped :
    let engine : Engine := ⟨.default, defaultMaxDepth⟩
    let first := Piece.writeAll .default
      [(.command, "?a".text), (.command, "@b".text), (.command, "/?a".text), (.text, ['x'])]
    let second := Piece.writeAll .default
      [(.text, ['y']), (.command, "/@b".text), (.command, "@b,i".text), (.command, ['i']),
        (.command, "/@b".text)]
    let whole := engine.format sparseResolver [] (first ++ second)
    sparseResolver.IsFixed ∧ (∃ read, tokenize .default second = .ok read) ∧
      ¬ Markers.default.opening.Straddles first second ∧ ¬ Markers.default.closing.Straddles first second ∧
      (engine.format sparseResolver [] first).1 = .ok ['x'] ∧
      (engine.format sparseResolver [] second).1 = .ok "y12".text ∧
      whole.1.mapError Failure.unplaced = .ok "xy12".text ∧ whole.2.calls = #["a".text, "b".text] := by
  intro engine first second whole
  have hfixed : sparseResolver.IsFixed := Resolver.isFixed_ofFunction _
  have hread : tokenize .default second = .ok ((tokenize .default second).toOption.getD []) := by
    decide +kernel
  have hopen : ¬ Markers.default.opening.Straddles first second := by decide
  have hclose : ¬ Markers.default.closing.Straddles first second := by decide
  have hfirst : (engine.format sparseResolver [] first).1 = .ok ['x'] := by decide +kernel
  have hsecond : (engine.format sparseResolver [] second).1 = .ok "y12".text := by decide +kernel
  have hcalls : (engine.format sparseResolver [] first).2.calls ++
      (engine.format sparseResolver [] second).2.calls = #["a".text, "b".text] := by decide +kernel
  obtain ⟨htext, hasked⟩ := format_append engine hfixed hread hopen hclose hfirst
  rw [hsecond] at htext
  exact ⟨hfixed, ⟨_, hread⟩, hopen, hclose, hfirst, hsecond, htext, hasked.trans hcalls⟩

end Engine

end TextTemplate
