import TextTemplate.Proofs.Mirroring
import TextTemplate.Proofs.RenamedBlocks

/-!
# Loop variables can be renamed

The runs of a template and of the same one with a loop variable renamed go side by side, from loop stacks that
differ in the name of one frame. What is asked of a stack under the old name is answered under the new one by
the same frame, so neither run asks the resolver for what the other one does not.
-/

namespace TextTemplate

namespace Frame

/-! ## Loop stacks -/

/-- Two loop stacks that differ in the name of one frame, and no frame further out has either name. -/
inductive Renamed (x y : Text) : List Frame → List Frame → Prop
  | here {frame : Frame} (h : frame.name = x) (above : List Frame) :
      Renamed x y (frame :: above) ({ frame with name := y } :: above)
  | behind {frame : Frame} {frames frames' : List Frame} (hx : frame.name ≠ x) (hy : frame.name ≠ y)
      (h : Renamed x y frames frames') : Renamed x y (frame :: frames) (frame :: frames')

/-- A clean name that no loop variable has by default. -/
structure IsOwnName (x : Text) : Prop extends Text.IsClean x where
  ne_stem : x ≠ defaultStem
  ne_default : ∀ height, x ≠ defaultName height

lemma isOwnName_of_not_isPrefix {x : Text} (hx : x.IsClean) (h : ¬ defaultStem <+: x) : IsOwnName x := by
  refine ⟨hx, ?_, ?_⟩
  · rintro rfl
    exact h (List.prefix_refl _)
  · rintro height rfl
    exact h (List.prefix_append _ _)

/-- A loop stack without either name. -/
def Unbound (x y : Text) (frames : List Frame) : Prop :=
  ∀ frame ∈ frames, frame.name ≠ x ∧ frame.name ≠ y

section Renamed

variable {x y : Text} {frames frames' : List Frame}

lemma Renamed.push (h : Renamed x y frames frames') (frame : Frame) :
    Renamed x y (frames ++ [frame]) (frames' ++ [frame]) := by
  induction h with
  | here h above => exact .here h (above ++ [frame])
  | behind hx hy _ ih => exact .behind hx hy ih

lemma Renamed.length_eq (h : Renamed x y frames frames') : frames'.length = frames.length := by
  induction h with
  | here h above => rfl
  | behind hx hy _ ih => exact congrArg (· + 1) ih

lemma Unbound.renamed (h : Unbound x y frames) {frame : Frame} (hframe : frame.name = x) :
    Renamed x y (frames ++ [frame]) (frames ++ [{ frame with name := y }]) := by
  induction frames with
  | nil => exact .here hframe []
  | cons first rest ih =>
    obtain ⟨⟨hx, hy⟩, hrest⟩ := List.forall_mem_cons.1 h
    exact .behind hx hy (ih hrest)

lemma Unbound.push (h : Unbound x y frames) {frame : Frame} (hx : frame.name ≠ x) (hy : frame.name ≠ y) :
    Unbound x y (frames ++ [frame]) :=
  List.forall_mem_append.2 ⟨h, List.forall_mem_singleton.2 ⟨hx, hy⟩⟩

lemma Renamed.find?_renamed (h : Renamed x y frames frames') :
    ∃ frame, find? frames x = some frame ∧ find? frames' y = some { frame with name := y } := by
  induction h with
  | @here frame h above =>
    refine ⟨frame, ?_, ?_⟩
    · simp [find?, h]
    · simp [find?]
  | behind hx hy _ ih =>
    obtain ⟨frame, hold, hnew⟩ := ih
    refine ⟨frame, ?_, ?_⟩
    · rw [← hold]
      simp [find?, hx]
    · rw [← hnew]
      simp [find?, hy]

lemma Renamed.find?_other (h : Renamed x y frames frames') {name : Text} (hx : name ≠ x) (hy : name ≠ y) :
    find? frames' name = find? frames name := by
  induction h with
  | here h above => simp [find?, h, hx.symm, hy.symm]
  | @behind frame _ _ _ _ _ ih =>
    simp only [find?] at ih
    simp only [find?, List.find?_cons, ih]

lemma lookup?_startsIn {e lead rest : Text} (h : e.StartsIn lead x rest) (hx : IsOwnName x)
    (frames : List Frame) :
    lookup? .default frames e.trim =
      (find? frames x).map fun frame =>
        frame.answer .default
          (Text.splitOn Markers.default.scope (Text.splitOn Markers.default.args rest.trimEnd).1).2
          (((Text.splitOn Markers.default.args rest.trimEnd).2.head?.map Text.trim).getD []) := by
  have hname : resolveName x = x := if_neg hx.ne_stem
  rw [lookup?, h.trim hx.toIsClean, Text.splitOn_args_of_clean hx.toIsClean]
  dsimp only
  rw [Text.splitOn_scope_of_clean hx.toIsClean, h.ends, List.append_nil]
  dsimp only
  rw [hname]

lemma resolveName_ne {name : Text} (hx : IsOwnName x) (h : name ≠ x) : resolveName name ≠ x := by
  unfold resolveName
  split
  · exact (hx.ne_default 1).symm
  · exact h

lemma Renamed.agree (h : Renamed x y frames frames') (hx : IsOwnName x) (hy : IsOwnName y) {e : Text}
    (he : e.firstSegment .default ≠ y) :
    Agree .default frames frames' e.trim (e.renameFirst .default x y).trim := by
  by_cases hsegment : e.firstSegment .default = x
  · obtain ⟨lead, rest, hstart⟩ := Text.exists_startsIn hx.toIsClean hsegment
    have hrenamed := hstart.renamed hx.toIsClean y
    obtain ⟨frame, hold, hnew⟩ := h.find?_renamed
    have hsame := lookup?_startsIn hstart hx frames
    have hother := lookup?_startsIn hrenamed hy frames'
    rw [hold] at hsame
    rw [hnew] at hother
    refine ⟨hother.trans hsame.symm, fun hnone => ?_⟩
    rw [hsame] at hnone
    cases hnone
  · have hfind := h.find?_other (resolveName_ne hx hsegment) (resolveName_ne hy he)
    rw [Text.firstSegment] at hfind
    rw [Text.renameFirst_of_ne hsegment]
    refine ⟨?_, fun _ => rfl⟩
    simp only [lookup?, hfind]

end Renamed

end Frame

namespace Render

/-! ## A loop variable -/

section Renaming

variable {x y : Text} {r : Resolver} {d : Int} {t t' : Template}

lemma variable_of_trim (hx : x.IsClean) {name : Text} (hname : name.trim = x) :
    ((some name).map Text.trim).filter (· ≠ []) = some x := by
  rw [Option.map_some, hname]
  simp [hx.ne_nil]

lemma pushesAlike_renamed (x y : Text) (name? : Option Text) :
    PushesAlike (Frame.Renamed x y) (Frame.Renamed x y) name? name? := by
  intro frames frames' h current hcurrent
  rw [h.length_eq, ← hcurrent]
  exact h.push current

/-- In the body of the loop that is renamed, one stack has the old name and the other one the new name. -/
lemma rendersAlike_rename (hx : Frame.IsOwnName x) (hy : Frame.IsOwnName y) (ht : t.Distinct .default)
    (ht' : (t.rename .default x y).Distinct .default) (hfree : ¬ t.Mentions .default y) :
    RendersAlike ⟨.default, r, d⟩ (Frame.Renamed x y) t (t.rename .default x y) := by
  have hagree : ∀ e : Text, e.firstSegment .default ≠ y →
      AnsweredAlike ⟨.default, r, d⟩ (Frame.Renamed x y) e (e.renameFirst .default x y) :=
    fun e he frames frames' h => h.agree hx hy he
  induction t with
  | empty => exact rendersAlike_empty _ _
  | literal text rest ih => exact rendersAlike_literal text (ih ht ht' hfree)
  | substitution e rest ih =>
    rw [Template.mentions_substitution, not_or] at hfree
    exact rendersAlike_substitution ht.1 ht'.1 (hagree e hfree.1) (ih ht.2 ht'.2 hfree.2)
  | conditional test holds rest ihh ihr =>
    rw [Template.mentions_conditional, not_or, not_or] at hfree
    obtain ⟨htest, hholds, hrest⟩ := hfree
    exact rendersAlike_conditional ht.1 ht'.1 (hagree test htest) (ihh ht.2.1 ht'.2.1 hholds)
      (ihr ht.2.2 ht'.2.2 hrest)
  | choice test holds otherwise rest ihh iho ihr =>
    rw [Template.mentions_choice, not_or, not_or, not_or] at hfree
    obtain ⟨htest, hholds, hother, hrest⟩ := hfree
    exact rendersAlike_choice ht.1 ht'.1 (hagree test htest) (ihh ht.2.1 ht'.2.1 hholds)
      (iho ht.2.2.1 ht'.2.2.1 hother) (ihr ht.2.2.2 ht'.2.2.2 hrest)
  | loop target name? body rest ihb ihr =>
    rw [Template.mentions_loop, not_or, not_or] at hfree
    obtain ⟨htarget, hbody, hrest⟩ := hfree
    exact rendersAlike_loop ht.1 ht'.1 (hagree target htarget) (pushesAlike_renamed x y _)
      (ihb ht.2.1 ht'.2.1 hbody) (ihr ht.2.2 ht'.2.2 hrest)

/-- One stack, without either name. -/
def Shared (x y : Text) (frames frames' : List Frame) : Prop :=
  frames = frames' ∧ Frame.Unbound x y frames

lemma Shared.answeredAlike (c : Context) (x y e : Text) : AnsweredAlike c (Shared x y) e e := by
  rintro frames _ ⟨rfl, -⟩
  exact Frame.agree_refl _ _ _

lemma RendersAlike.shared {c : Context} (h : RendersAlike c Eq t t') (x y : Text) :
    RendersAlike c (Shared x y) t t' :=
  fun tokens tokens' lead hreads hreads' frames frames' hshared =>
    h tokens tokens' lead hreads hreads' frames frames' hshared.1

lemma pushesAlike_self (x y : Text) (name? : Option Text) : PushesAlike (Shared x y) Eq name? name? := by
  rintro frames _ ⟨rfl, -⟩ current hcurrent
  rw [← hcurrent]

lemma pushesAlike_shared (hx : Frame.IsOwnName x) (hy : Frame.IsOwnName y) {name? : Option Text}
    (hname : ∀ name ∈ name?, name ≠ x ∧ name ≠ y) : PushesAlike (Shared x y) (Shared x y) name? name? := by
  rintro frames _ ⟨rfl, hfree⟩ current hcurrent
  have hother : current.name ≠ x ∧ current.name ≠ y := by
    rw [hcurrent]
    cases name? with
    | none => exact ⟨(hx.ne_default _).symm, (hy.ne_default _).symm⟩
    | some name => exact hname name rfl
  rw [← hcurrent]
  exact ⟨rfl, hfree.push hother.1 hother.2⟩

lemma pushesAlike_here (hx : x.IsClean) (hy : y.IsClean) {name : Text} (hname : name.trim = x) :
    PushesAlike (Shared x y) (Frame.Renamed x y) (((some name).map Text.trim).filter (· ≠ []))
      (((some (name.replaceStart x y)).map Text.trim).filter (· ≠ [])) := by
  rw [variable_of_trim hx hname, variable_of_trim hy (Text.trim_replaceStart hx hy hname)]
  rintro frames _ ⟨rfl, hfree⟩ current hcurrent
  exact hfree.renamed hcurrent

lemma variable_ne {name? : Option Text} (hname : ∀ name ∈ name?, name.trim ≠ x ∧ name.trim ≠ y) :
    ∀ name ∈ (name?.map Text.trim).filter (· ≠ []), name ≠ x ∧ name ≠ y := by
  intro name hmem
  obtain ⟨written, hwritten, rfl⟩ := Option.map_eq_some_iff.1 (Option.filter_eq_some_iff.1 hmem).1
  exact hname written hwritten

lemma rendersAlike_renamesLoop (hx : Frame.IsOwnName x) (hy : Frame.IsOwnName y)
    (h : t.RenamesLoop .default x y t') (ht : t.Distinct .default) (ht' : t'.Distinct .default) :
    RendersAlike ⟨.default, r, d⟩ (Shared x y) t t' := by
  have hself := fun u => (rendersAlike_self ⟨.default, r, d⟩ u).shared x y
  have hagree := Shared.answeredAlike ⟨.default, r, d⟩ x y
  induction h with
  | @here target name body rest hname _ hfree =>
    have hbody := rendersAlike_rename (r := r) (d := d) hx hy ht.2.1 ht'.2.1 hfree
    exact rendersAlike_loop ht.1 ht'.1 (hagree target) (pushesAlike_here hx.toIsClean hy.toIsClean hname) hbody
      (hself rest)
  | literal text _ ih => exact rendersAlike_literal text (ih ht ht')
  | substitution e _ ih => exact rendersAlike_substitution ht.1 ht'.1 (hagree e) (ih ht.2 ht'.2)
  | @inConditional test _ _ rest _ _ ih =>
    exact rendersAlike_conditional ht.1 ht'.1 (hagree test) (ih ht.2.1 ht'.2.1) (hself rest)
  | behindConditional test holds _ ih =>
    exact rendersAlike_conditional ht.1 ht'.1 (hagree test) (hself holds) (ih ht.2.2 ht'.2.2)
  | @inChoice test _ _ otherwise rest _ _ ih =>
    exact rendersAlike_choice ht.1 ht'.1 (hagree test) (ih ht.2.1 ht'.2.1) (hself otherwise) (hself rest)
  | @inOtherwise test _ _ holds rest _ _ ih =>
    exact rendersAlike_choice ht.1 ht'.1 (hagree test) (hself holds) (ih ht.2.2.1 ht'.2.2.1) (hself rest)
  | behindChoice test holds otherwise _ ih =>
    exact rendersAlike_choice ht.1 ht'.1 (hagree test) (hself holds) (hself otherwise) (ih ht.2.2.2 ht'.2.2.2)
  | @inLoop target _ _ _ rest _ hname _ ih =>
    exact rendersAlike_loop ht.1 ht'.1 (hagree target) (pushesAlike_shared hx hy (variable_ne hname))
      (ih ht.2.1 ht'.2.1) (hself rest)
  | behindLoop target name? body _ ih =>
    exact rendersAlike_loop ht.1 ht'.1 (hagree target) (pushesAlike_self x y _)
      (rendersAlike_self ⟨.default, r, d⟩ body) (ih ht.2.2 ht'.2.2)

end Renaming

end Render

namespace Engine

/-- A loop variable can be renamed. Where the new name is no first segment in the body of the loop, nor that of the
target or the test of a block around, the rendering comes to the same text or to a failure of the same kind, and
asks the resolver the same. -/
theorem format_loop_renamed (maxDepth : Int) (r : Resolver) (streams : Value.Streams) {x y : Text}
    (hx : Frame.IsOwnName x) (hy : Frame.IsOwnName y) {t t' : Template} (ht : t.Printable .default)
    (hplain : t.IsPlain .default) (h : t.RenamesLoop .default x y t') :
    let engine : Engine := ⟨.default, maxDepth⟩
    let run := engine.format r streams (t.source .default)
    let run' := engine.format r streams (t'.source .default)
    run'.1.mapError Failure.kind = run.1.mapError Failure.kind ∧ run'.2.calls = run.2.calls := by
  intro engine run run'
  have ht' := h.printable hx.toIsClean hy.toIsClean ht hplain
  have halike := Render.rendersAlike_renamesLoop (r := r) (d := maxDepth) hx hy h ht.2 ht'.2
  have hshared : Render.Shared x y [] [] := ⟨rfl, fun _ hframe => absurd hframe List.not_mem_nil⟩
  have hend := Render.mirrors_template ht ht' halike hshared { streams := streams } { streams := streams }
    ⟨rfl, rfl, rfl, rfl, rfl⟩
  exact ⟨hend.result, hend.state.calls⟩

/-- Lists under `xs` and `ys`, and a text under every other name. -/
def listResolver : Resolver :=
  .ofFunction fun e =>
    .ok (if e = "xs".text then .list [.int 1, .int 0] else if e = "ys".text then .list [.int 2] else .text ['z'])

/-- An inner loop with a variable of the old name, which the outer one hides. -/
theorem format_loop_renamed_hidden :
    let inner : Template := .loop ['y', 's'] (some ['x']) (.substitution ['x'] .empty) .empty
    let body : Template := .choice ['x'] (.substitution [' ', 'x'] inner) (.literal ['-'] .empty) .empty
    let around : Text → Template → Template := fun name body =>
      .conditional ['g', 'o'] (.loop ['x', 's'] (some name) body .empty) (.literal ['.'] .empty)
    let t := around [' ', 'x'] body
    let t' := around [' ', 'y'] (body.rename .default ['x'] ['y'])
    let run := format ⟨.default, 4⟩ listResolver [] (t.source .default)
    let run' := format ⟨.default, 4⟩ listResolver [] (t'.source .default)
    Frame.IsOwnName ['x'] ∧ Frame.IsOwnName ['y'] ∧ t.Printable .default ∧ t.IsPlain .default ∧
      t.RenamesLoop .default ['x'] ['y'] t' ∧ run.1 = .ok ['1', '1', '-', '.'] ∧
      run'.1.mapError Failure.kind = run.1.mapError Failure.kind ∧ run'.2.calls = run.2.calls := by
  intro inner body around t t' run run'
  have hx : Frame.IsOwnName ['x'] := Frame.isOwnName_of_not_isPrefix (by decide) (by decide)
  have hy : Frame.IsOwnName ['y'] := Frame.isOwnName_of_not_isPrefix (by decide) (by decide)
  have ht : t.Printable .default := by decide +kernel
  have hplain : t.IsPlain .default := by decide +kernel
  have hrenames : t.RenamesLoop .default ['x'] ['y'] t' :=
    .inConditional _ (by decide +kernel) (.here _ (by decide +kernel) (by decide +kernel) (by decide +kernel))
  have hrun : run.1 = .ok ['1', '1', '-', '.'] := by decide +kernel
  exact ⟨hx, hy, ht, hplain, hrenames, hrun, format_loop_renamed 4 listResolver [] hx hy ht hplain hrenames⟩

/-- A new name that the test of a block around has, so that the block ends at the end of one in the loop; one that
is asked for in the loop, where the loop answers instead of the resolver; and an expression with markers in it, which
is read as two. -/
theorem format_loop_renamed_taken :
    let format := fun t : Template => format ⟨.default, 0⟩ listResolver [] (t.source .default)
    let loop : Text → Template → Template := fun name body => .loop ['x', 's'] (some name) body .empty
    let tested : Template := .conditional ['x'] (.literal ['a'] .empty) .empty
    let within : Template := .conditional ['y'] (loop ['x'] tested) .empty
    let within' : Template := .conditional ['y'] (loop ['y'] (tested.rename .default ['x'] ['y'])) .empty
    let shown : Template := .substitution ['x'] (.substitution ['y'] .empty)
    let shown' : Template := shown.rename .default ['x'] ['y']
    let spilt : Template :=
      .substitution ("a".text ++ Markers.default.closing.text ++ Markers.default.opening.text ++ "x".text) .empty
    let spilt' : Template := spilt.rename .default ['x'] ['y']
    Frame.IsOwnName ['x'] ∧ Frame.IsOwnName ['y'] ∧
      (within.Printable .default ∧ within.IsPlain .default ∧
        (format within).1 = .ok ['a'] ∧ (format within).2.calls = #["y".text, "xs".text] ∧
        (format within').1.mapError Failure.kind = .error .structural ∧ (format within').2.calls = #["y".text]) ∧
      ((loop ['x'] shown).Printable .default ∧ (loop ['x'] shown).IsPlain .default ∧
        (format (loop ['x'] shown)).1 = .ok ['1', 'z', '0', 'z'] ∧
        (format (loop ['x'] shown)).2.calls = #["xs".text, "y".text, "y".text] ∧
        (format (loop ['y'] shown')).1 = .ok ['1', '1', '0', '0'] ∧
        (format (loop ['y'] shown')).2.calls = #["xs".text]) ∧
      (loop ['x'] spilt).IsPlain .default ∧
        (format (loop ['x'] spilt)).1 = .ok ['z', '1', 'z', '0'] ∧
        (format (loop ['x'] spilt)).2.calls = #["xs".text, "a".text, "a".text] ∧
        (format (loop ['y'] spilt')).1 = .ok ['z', 'z', 'z', 'z'] ∧
        (format (loop ['y'] spilt')).2.calls = #["xs".text, "a".text, "x".text, "a".text, "x".text] := by
  intro format loop tested within within' shown shown' spilt spilt'
  refine ⟨Frame.isOwnName_of_not_isPrefix (by decide) (by decide),
    Frame.isOwnName_of_not_isPrefix (by decide) (by decide), ?_, ?_, ?_⟩
  · decide +kernel
  · decide +kernel
  · decide +kernel

end Engine

end TextTemplate
