import TextTemplate.Proofs.Binding
import TextTemplate.Proofs.Counting
import TextTemplate.Proofs.IntegerTexts

/-!
# Loop counters

Rows are counted by the loop itself, from zero: what is asked for by the name of the loop, the index marker and
a text is the position of the row, counted from the integer that the text spells, whatever the keys and
the elements are. A text that spells no integer asks for the key. A path is cut at the marker of defaults before it
is split, so a separator that holds this marker leaves no path to be told.
-/

namespace TextTemplate

/-! ## The path of a counter -/

section CountPath

variable {m : Markers} {name offset : Text}

lemma countPath_eq (m : Markers) (name offset : Text) :
    countPath m name offset = name ++ (m.scope.text ++ (m.index.text ++ (m.scope.text ++ offset))) := by
  simp only [countPath, Text.joinWith, List.flatMap_cons, List.flatMap_nil, List.append_nil, List.append_assoc]

lemma countPath_no_args (hargs : ∀ piece ∈ [name, m.index.text, offset], piece.Avoids m.args)
    (hapart : ¬ m.args.text <:+: m.scope.text) : ¬ m.args.text <:+: countPath m name offset := by
  have hname := hargs name (by simp)
  have hindex := hargs m.index.text (by simp)
  have hoffset := hargs offset (by simp)
  have hback : ¬ m.args.text <:+: m.scope.text ++ offset := by
    rcases eq_or_ne offset [] with rfl | hne
    · rwa [List.append_nil]
    · have hnil : ¬ m.args.text <:+: [] := by simp [m.args.text_ne_nil]
      have haround := Text.infix_around hne hoffset m.scope.text []
      rw [List.append_nil] at haround
      rw [haround]
      exact not_or.2 ⟨hapart, hnil⟩
  rw [countPath_eq, Text.infix_behind hname, Text.infix_around m.index.text_ne_nil hindex]
  exact not_or.2 ⟨hapart, hback⟩

lemma Render.lookup_countPath {c : Context} {t : RunState} (frames : List Frame) (frame : Frame)
    (hstem : frame.name ≠ Frame.defaultStem)
    (hscope : ∀ piece ∈ [frame.name, c.markers.index.text, offset], piece.Avoids c.markers.scope)
    (hargs : ¬ c.markers.args.text <:+: countPath c.markers frame.name offset)
    (hfree : ∀ f ∈ frames, f.name ≠ frame.name) (ht : frames ++ [frame] <+: t.frames) :
    lookup c (countPath c.markers frame.name offset) t =
      (.ok ((offset.readInteger?.map frame.count).getD frame.key), t) := by
  obtain ⟨inner, hinner⟩ := ht
  rw [List.append_assoc, List.singleton_append] at hinner
  have hself : Frame.resolveName frame.name = frame.name := if_neg hstem
  have hfind : Frame.find? t.frames (Frame.resolveName frame.name) = some frame := by
    rw [hself, ← hinner]
    exact Frame.find?_of_free hfree
  rw [lookup_apply, Frame.lookup?_countPath_eq hfind hscope hargs]

end CountPath

/-! ## The rows by their positions -/

/-- The moments of a row of a loop: its body is entered with the frame of the row on top of the stack, and until
it is left the path of an offset stands for the position of the row, counted from the integer that the offset
spells, or for the key of the row where it spells none, without a question to the resolver. -/
structure CountedRow (c : Context) (opener : Token) (frames : List Frame) (frame : Frame) (offset : Text)
    (moments : List Moment) : Prop where
  entered : ∃ t inner, moments = .entering t opener :: (inner ++ [.leaving]) ∧ t.frames = frames ++ [frame]
  counted : ∀ k, offset.Spells k → ∀ moment ∈ moments, ∀ t, moment.state? = some t →
    Render.lookup c (countPath c.markers frame.name offset) t = (.ok (.int (k + frame.row)), t)
  keyed : (∀ k, ¬ offset.Spells k) → ∀ moment ∈ moments, ∀ t, moment.state? = some t →
    Render.lookup c (countPath c.markers frame.name offset) t = (.ok frame.key, t)

lemma RowAbove.counted {c : Context} {opener : Token} {frames : List Frame} {frame : Frame} {offset : Text}
    {moments : List Moment} (hrow : RowAbove opener frames frame moments)
    (hstem : frame.name ≠ Frame.defaultStem)
    (hscope : ∀ piece ∈ [frame.name, c.markers.index.text, offset], piece.Avoids c.markers.scope)
    (hargs : ¬ c.markers.args.text <:+: countPath c.markers frame.name offset)
    (hfree : ∀ f ∈ frames, f.name ≠ frame.name) : CountedRow c opener frames frame offset moments := by
  have hlookup := fun moment hmoment t ht =>
    Render.lookup_countPath frames frame hstem hscope hargs hfree (hrow.above moment hmoment t ht)
  refine ⟨hrow.entered, ?_, ?_⟩
  · intro k hk moment hmoment t ht
    rw [hlookup moment hmoment t ht, Text.readInteger?_eq_some_iff.2 hk, Option.map_some, Option.getD_some,
      Frame.count, Int.add_comm]
  · intro hnone moment hmoment t ht
    rw [hlookup moment hmoment t ht, Text.readInteger?_eq_none_iff.2 hnone]
    rfl

/-- Rows of a walk from a row on, each of them above the frame of its own pair. -/
structure RowsAbove (opener : Token) (frames : List Frame) (frame : Frame) (row : Nat)
    (pairs : List (Value × Value)) (rows : List (List Moment)) : Prop where
  length_le : rows.length ≤ pairs.length
  above : ∀ (n : Nat) (moments : List Moment) (key value : Value), rows[n]? = some moments →
    pairs[n]? = some (key, value) →
    RowAbove opener frames { frame with key, row := ((row + n : Nat) : Int), value } moments

section RowsAbove

variable {opener : Token} {frames : List Frame} {frame : Frame} {row : Nat} {rest : List (Value × Value)}

lemma rowsAbove_nil (pairs : List (Value × Value)) : RowsAbove opener frames frame row pairs [] := by
  refine ⟨Nat.zero_le _, ?_⟩
  intro n moments key value hmoments
  cases hmoments

lemma RowsAbove.cons {key value : Value} {moments : List Moment} {rows : List (List Moment)}
    (hrow : RowAbove opener frames { frame with key, row, value } moments)
    (hrows : RowsAbove opener frames frame (row + 1) rest rows) :
    RowsAbove opener frames frame row ((key, value) :: rest) (moments :: rows) := by
  refine ⟨Nat.succ_le_succ hrows.length_le, ?_⟩
  intro n others key' value' hothers hpair
  cases n with
  | zero =>
    obtain rfl := Option.some.inj hothers
    obtain ⟨rfl, rfl⟩ := Prod.mk.inj (Option.some.inj hpair)
    exact hrow
  | succ n =>
    have hlater := hrows.above n others key' value' hothers hpair
    rwa [Nat.succ_add_eq_add_succ] at hlater

end RowsAbove

/-- After how many rows a walk stops, and what it comes to: after all of them, or before one whose body lies too deep,
or after one whose body fails above its frame. -/
inductive StopsAfter (c : Context) (opener : Token) (body : Render Text) (frames : List Frame) (frame : Frame)
    (row : Nat) (pairs : List (Value × Value)) : Nat → Except Failure Text → Prop where
  | done (text : Text) : StopsAfter c opener body frames frame row pairs pairs.length (.ok text)
  | tooDeep (count : Nat) : StopsAfter c opener body frames frame row pairs count
      (.error (.tooDeep c.maxDepth opener.text opener.line))
  | failed {n : Nat} {key value : Value} {t : RunState} {f : Failure} (hpair : pairs[n]? = some (key, value))
      (hframes : t.frames = frames ++ [{ frame with key, row := ((row + n : Nat) : Int), value }])
      (hbody : (body t).1 = .error f) : StopsAfter c opener body frames frame row pairs (n + 1) (.error f)

lemma StopsAfter.next {c : Context} {opener : Token} {body : Render Text} {frames : List Frame} {frame : Frame}
    {row count : Nat} {rest : List (Value × Value)} {outcome : Except Failure Text}
    (h : StopsAfter c opener body frames frame (row + 1) rest count outcome) (pair : Value × Value) (piece : Text) :
    StopsAfter c opener body frames frame row (pair :: rest) (count + 1) (outcome.map (piece ++ ·)) := by
  cases h with
  | done text => exact .done (piece ++ text)
  | tooDeep count => exact .tooDeep (count + 1)
  | failed hpair hframes hbody =>
    rw [Nat.succ_add_eq_add_succ] at hframes
    exact .failed hpair hframes hbody

lemma Watch.walk_rowsAbove {c : Context} {w : Watch Text} {s : RunState} (opener : Token) (frame : Frame)
    (hw : Above w) (row : Nat) (pairs : List (Value × Value)) :
    ∃ rows : List (List Moment), (walk c opener frame w row pairs s).moments = rows.flatten ∧
      RowsAbove opener s.frames frame row pairs rows ∧
      StopsAfter c opener (fun t => (w t).ending) s.frames frame row pairs rows.length
        (walk c opener frame w row pairs s).ending.1 := by
  induction pairs generalizing row s with
  | nil => exact ⟨[], rfl, rowsAbove_nil [], .done []⟩
  | cons pair rest ih =>
    obtain ⟨key, value⟩ := pair
    let current : Frame := { frame with key, row, value }
    have hrow := row_above (c := c) opener current hw s
    have hframes := (above_withFrame current (above_inBody (c := c) opener hw) s).1
    rw [walk]
    rcases hfirst : withFrame current (inBody c opener w) s with ⟨⟨f | t, s'⟩, moments⟩ <;>
      rw [hfirst] at hrow hframes
    · rw [append_of_error hfirst]
      rcases hrow with ⟨hdeep, rfl⟩ | ⟨hrow, inside, hinside, hbody⟩
      · obtain rfl := Except.error.inj hdeep
        exact ⟨[], rfl, rowsAbove_nil _, .tooDeep 0⟩
      · have hmoments : moments = [moments].flatten := by simp
        have hfails : ((fun t => (w t).ending) inside).1 = .error f := hbody.symm
        exact ⟨[moments], hmoments, .cons hrow (rowsAbove_nil rest), .failed rfl hinside hfails⟩
    · rw [append_of_ok hfirst]
      rcases hrow with ⟨herror, -⟩ | ⟨hrow, -⟩
      · cases herror
      · -- The row has left the loop stack as it was, so the next one stands in the same place.
        obtain ⟨rows, hmoments, hrows, hstops⟩ := ih (s := s') (row + 1)
        rw [show s'.frames = s.frames from hframes] at hrows hstops
        exact ⟨moments :: rows, congrArg (moments ++ ·) hmoments, .cons hrow hrows, hstops.next (key, value) t⟩

/-- Loop counters count. A loop whose target can be walked comes to its rows one after another until it stops, and
from the entry of each body to its end the path of an offset stands for the integer that the offset spells plus
the position of the row, whatever the pairs are; or for the key of the row, where the offset spells no integer. -/
theorem Render.loop_counts (c : Context) (block : LoopBlock) (tokens : Array Token) (start stop : Nat)
    (offset : Text) {s s' : RunState} {subject : Value} {pairs : List (Value × Value)}
    (hstem : block.variable s.frames ≠ Frame.defaultStem)
    (hscope : ∀ piece ∈ [block.variable s.frames, c.markers.index.text, offset], piece.Avoids c.markers.scope)
    (hargs : ∀ piece ∈ [block.variable s.frames, c.markers.index.text, offset], piece.Avoids c.markers.args)
    (hapart : ¬ c.markers.args.text <:+: c.markers.scope.text)
    (hfree : ∀ frame ∈ s.frames, frame.name ≠ block.variable s.frames)
    (hlookup : lookup c block.target s = (.ok subject, s'))
    (hpairs : subject.pairs? s'.streams = some pairs) :
    let run := loop c block (range c tokens start stop) s
    let watched := Watch.loop c block (Watch.range c tokens start stop) s
    watched.ending = run ∧ ∃ rows : List (List Moment),
      watched.moments = .evaluating s block.target :: rows.flatten ∧ rows.length ≤ pairs.length ∧
      StopsAfter c block.opener (range c tokens start stop) s.frames
        ⟨block.variable s.frames, pairs, .null, 0, .null⟩ 0 pairs rows.length run.1 ∧
      ∀ (n : Nat) (moments : List Moment) (key value : Value), rows[n]? = some moments →
        pairs[n]? = some (key, value) →
        CountedRow c block.opener s.frames ⟨block.variable s.frames, pairs, key, n, value⟩ offset moments := by
  intro run watched
  have hending : watched.ending = run :=
    Watch.erases_loop block (Watch.range_ending c tokens start stop) (balanced_range c tokens start stop) s
  refine ⟨hending, ?_⟩
  obtain ⟨begin, hbegin, hloop⟩ :=
    Watch.loop_of_pairs (w := Watch.range c tokens start stop) block hlookup hpairs
  obtain ⟨rows, hmoments, hrows, hstops⟩ := Watch.walk_rowsAbove (c := c) (s := begin) block.opener
    ⟨block.variable s.frames, pairs, .null, 0, .null⟩ (Watch.range_above c tokens start stop) 0 pairs
  have hwatched : watched = _ := hloop
  have hbody : (fun t => (Watch.range c tokens start stop t).ending) = range c tokens start stop :=
    funext (Watch.range_ending c tokens start stop)
  rw [hbegin] at hrows hstops
  rw [hbody] at hstops
  refine ⟨rows, ?_, hrows.length_le, ?_, ?_⟩
  · rw [hwatched, ← hmoments]
  · rw [← hending, hwatched]
    exact hstops
  · intro n moments key value hmoments hpair
    have hrow := hrows.above n moments key value hmoments hpair
    rw [Nat.zero_add] at hrow
    exact hrow.counted hstem hscope (countPath_no_args hargs hapart) hfree

/-- A mapping whose keys are no positions, counted from minus ten, which is spelled with digits of two scripts and
an underscore. In the body a loop with a variable of the same name is hidden. -/
theorem Render.loop_counts_fromNegative :
    let offset : Text := "-1_\u0660".text
    let subject : Value := .map [(.null, .text ['a']), (.bool true, .int 0), (.text ['7'], .null)]
    let c : Context := ⟨.default, .ofFunction fun _ => .ok subject, 0⟩
    let path := countPath c.markers ['x'] offset
    let tokens : Array Token := #[.command 1 path, .command 1 "@y,x".text, .command 1 path,
      .command 1 "/@y".text]
    let block : LoopBlock := ⟨.command 1 "@z,x".text, ['z'], some ['x'], 4⟩
    let outer : Frame := ⟨"loop1".text, [], .null, 3, .null⟩
    let s : RunState := { frames := [outer] }
    let s' : RunState := { s with calls := #["z".text] }
    let pairs : List (Value × Value) :=
      [(.null, .text ['a']), (.bool true, .int 0), (.text ['7'], .null)]
    let watched := Watch.loop c block (Watch.range c tokens 0 4) s
    block.variable s.frames ≠ Frame.defaultStem ∧
      (∀ piece ∈ [block.variable s.frames, c.markers.index.text, offset],
        piece.Avoids c.markers.scope ∧ piece.Avoids c.markers.args) ∧
      ¬ c.markers.args.text <:+: c.markers.scope.text ∧
      (∀ frame ∈ s.frames, frame.name ≠ block.variable s.frames) ∧
      lookup c block.target s = (.ok subject, s') ∧ subject.pairs? s'.streams = some pairs ∧
      offset.Spells (-10) ∧
      (loop c block (range c tokens 0 4) s).1 = .ok "-10-10-10-10-9-9-9-9-8-8-8-8".text ∧
      ∃ rows : List (List Moment), watched.moments = .evaluating s block.target :: rows.flatten ∧
        rows.length = 3 ∧ ∀ (n : Nat) (moments : List Moment) (key value : Value), rows[n]? = some moments →
          pairs[n]? = some (key, value) →
          CountedRow c block.opener s.frames ⟨block.variable s.frames, pairs, key, n, value⟩ offset moments := by
  intro offset subject c path tokens block outer s s' pairs watched
  have hstem : block.variable s.frames ≠ Frame.defaultStem := by decide
  have hscope : ∀ piece ∈ [block.variable s.frames, c.markers.index.text, offset],
      piece.Avoids c.markers.scope := by decide
  have hargs : ∀ piece ∈ [block.variable s.frames, c.markers.index.text, offset],
      piece.Avoids c.markers.args := by decide
  have hapart : ¬ c.markers.args.text <:+: c.markers.scope.text := by decide
  have hfree : ∀ frame ∈ s.frames, frame.name ≠ block.variable s.frames := by
    intro frame hframe
    obtain rfl := List.mem_singleton.1 hframe
    decide
  have hlookup : lookup c block.target s = (.ok subject, s') := by
    have hname : Frame.IsName c.markers block.target := by decide
    rw [lookup_apply, hname.lookup?]
    rfl
  have hpairs : subject.pairs? s'.streams = some pairs := rfl
  have hspells : offset.Spells (-10) := Text.readInteger?_eq_some_iff.1 (by decide)
  have hrun : (loop c block (range c tokens 0 4) s).1 = .ok "-10-10-10-10-9-9-9-9-8-8-8-8".text := by
    decide +kernel
  obtain ⟨-, rows, hmoments, -, hstops, hrows⟩ :=
    loop_counts c block tokens 0 4 offset hstem hscope hargs hapart hfree hlookup hpairs
  have hlength : rows.length = 3 := by
    rw [hrun] at hstops
    generalize rows.length = count at hstops
    cases hstops
    rfl
  exact ⟨hstem, fun piece hpiece => ⟨hscope piece hpiece, hargs piece hpiece⟩, hapart, hfree, hlookup, hpairs,
    hspells, hrun, rows, hmoments, hlength, hrows⟩

/-- Markers of which the separator of paths is the marker of defaults as well. -/
def sharedSeparator : Markers :=
  { Markers.default with scope := Markers.default.args }

/-- Where the separator is the marker of defaults, the path of a counter is cut behind the name, and the elements
are shown instead of the positions. -/
theorem Engine.format_counter_cut :
    let m := sharedSeparator
    let path := countPath m ['x'] ['5']
    let counting : Template := .loop ['b'] (some ['x']) (.substitution path .empty) .empty
    let run := format ⟨m, defaultMaxDepth⟩ twoNumbersResolver [] (counting.source m)
    (∀ piece ∈ ["x".text, m.index.text, "5".text], piece.Avoids m.scope ∧ piece.Avoids m.args) ∧
      Text.Spells ['5'] 5 ∧ path = "x,#,5".text ∧ run.1 = .ok "12".text ∧ run.2.calls = #["b".text] := by
  have hspells : Text.Spells ['5'] 5 := Text.readInteger?_eq_some_iff.1 (by decide)
  refine ⟨by decide, hspells, by decide +kernel, by decide +kernel, by decide +kernel⟩

end TextTemplate
