import TextTemplate.Proofs.Splitting
import TextTemplate.Proofs.TreeSource
import TextTemplate.Template.Renaming

/-!
# Blocks under the default markers

No two default markers share a character, so a command is taken for what its first characters say. A block is
read as one unless a command in it repeats its opener, with the same expression for the same end; a loop moreover
only if no args marker stands in its target or in its name.
-/

namespace TextTemplate

namespace Text

/-! ## Trimming and markers -/

lemma mem_trimEnd {t : Text} {c : CodePoint} (h : c ∈ t) (hc : isBlank c = false) : c ∈ trimEnd t := by
  obtain ⟨before, after, rfl⟩ := List.append_of_mem h
  rw [trimEnd_append, trimEnd_cons_of_not_blank hc, if_neg (List.cons_ne_nil _ _)]
  exact List.mem_append_right _ List.mem_cons_self

lemma trim_subset (t : Text) : t.trim ⊆ t :=
  fun _ hc => (List.dropWhile_sublist isBlank).subset ((trimEnd_isPrefix _).subset hc)

lemma avoids_args_iff_trimEnd {t : Text} :
    Avoids Markers.default.args (trimEnd t) ↔ Avoids Markers.default.args t := by
  refine ⟨fun h c hc hin => ?_, fun h c hc => h c ((trimEnd_isPrefix t).subset hc)⟩
  have hblank : isBlank c = false := by
    rw [List.mem_singleton.1 hin]
    decide
  exact h c (mem_trimEnd hc hblank) hin

lemma avoids_args_iff_trim {t : Text} : Avoids Markers.default.args t.trim ↔ Avoids Markers.default.args t := by
  refine ⟨fun h => ?_, fun h c hc => h c (trim_subset t hc)⟩
  have hback : Avoids Markers.default.args (t.dropWhile isBlank) := avoids_args_iff_trimEnd.1 h
  rw [← List.takeWhile_append_dropWhile (p := isBlank) (l := t)]
  refine Avoids.append (fun c hc hin => ?_) hback
  have hblank : isBlank c = true := List.mem_takeWhile_imp hc
  rw [List.mem_singleton.1 hin] at hblank
  cases hblank

lemma avoids_fst_splitOn (t : Text) : Avoids Markers.default.args (splitOn Markers.default.args t).1 := by
  intro c hc hin
  have hfree : ¬ Markers.default.args.text <:+: (splitOn Markers.default.args t).1 :=
    splitOn_free List.mem_cons_self
  obtain ⟨before, after, heq⟩ := List.append_of_mem hc
  obtain rfl : c = ',' := List.mem_singleton.1 hin
  refine hfree ⟨before, after, ?_⟩
  rw [heq, List.append_assoc]
  rfl

end Text

/-! ## The texts of commands -/

/-- The text of a command as it is read. -/
def CommandKind.text (m : Markers) (command : CommandKind × Text) : Text :=
  (command.1.lead m ++ command.2 ++ command.1.tail m).trim

/-- The commands that are written by a block behind its opener, with the expression of the opener. -/
inductive CommandKind.Repeats : CommandKind → Prop
  | separator : Repeats .separator
  | testEnd : Repeats .testEnd
  | loopEnd : Repeats .loopEnd

lemma CommandKind.Repeats.trim_lead {kind : CommandKind} (hkind : kind.Repeats) (e : Text) :
    Text.trim (kind.lead .default ++ e) = kind.lead .default ++ e.trimEnd := by
  have htrim : ∀ c d : CodePoint, Text.isBlank c = false → Text.isBlank d = false →
      Text.trim (c :: d :: e) = c :: d :: e.trimEnd := by
    intro c d hc hd
    rw [Text.trim_cons_of_not_blank hc, Text.trimEnd_cons_of_not_blank hd]
  cases hkind with
  | separator => exact htrim '!' '?' (by decide) (by decide)
  | testEnd => exact htrim '/' '?' (by decide) (by decide)
  | loopEnd => exact htrim '/' '@' (by decide) (by decide)

lemma CommandKind.Repeats.text_eq {kind : CommandKind} (hkind : kind.Repeats) (e : Text) :
    CommandKind.text .default (kind, e) = kind.lead .default ++ e.trimEnd := by
  have htail : kind.tail .default = [] := by
    cases hkind <;> rfl
  rw [CommandKind.text, htail, List.append_nil, hkind.trim_lead]

lemma CommandKind.Repeats.lead_inj {kind other : CommandKind} (hkind : kind.Repeats) (hother : other.Repeats)
    {u v : Text} (h : kind.lead .default ++ u = other.lead .default ++ v) : kind = other ∧ u = v := by
  cases hkind <;> cases hother <;> simp_all [CommandKind.lead, Markers.default]

/-- The texts of the commands among some pieces, as they are read. -/
def Piece.commandTexts (pieces : List Piece) : List Text :=
  pieces.filterMap fun piece => if piece.1 = .command then some piece.text else none

section CommandTexts

variable (t raw : Text) (a b : List Piece)

@[simp] lemma Piece.commandTexts_text : commandTexts ((.text, t) :: a) = commandTexts a := rfl

@[simp] lemma Piece.commandTexts_command :
    commandTexts ((.command, raw) :: a) = raw.trim :: commandTexts a := rfl

@[simp] lemma Piece.commandTexts_append : commandTexts (a ++ b) = commandTexts a ++ commandTexts b :=
  List.filterMap_append

end CommandTexts

namespace Template

lemma commandTexts_pieces (m : Markers) (t : Template) (lead : Text) :
    Piece.commandTexts (t.pieces m lead) = t.listing.map (CommandKind.text m) := by
  induction t generalizing lead with
  | empty => rfl
  | literal text rest ih => exact ih _
  | substitution e rest ih =>
    simp [pieces, listing, ih, CommandKind.text, CommandKind.lead, CommandKind.tail]
  | conditional test holds rest ihh ihr =>
    simp [pieces, listing, ihh, ihr, CommandKind.text, CommandKind.lead, CommandKind.tail, testOpener]
  | choice test holds otherwise rest ihh iho ihr =>
    simp [pieces, listing, ihh, iho, ihr, CommandKind.text, CommandKind.lead, CommandKind.tail, testOpener]
  | loop target name? body rest ihb ihr =>
    cases name? <;>
    simp [pieces, listing, ihb, ihr, CommandKind.text, CommandKind.lead, CommandKind.tail, loopOpener]

lemma commands_eq (m : Markers) (t : Template) : t.commands m = t.listing.map (CommandKind.text m) :=
  commandTexts_pieces m t []

lemma mem_commands_iff {t : Template} (ht : t.IsPlain .default) {kind : CommandKind} (hkind : kind.Repeats)
    (u : Text) :
    kind.lead .default ++ u ∈ t.commands .default ↔ ∃ e, (kind, e) ∈ t.listing ∧ e.trimEnd = u := by
  rw [commands_eq, List.mem_map]
  constructor
  · rintro ⟨⟨other, e⟩, hmem, htext⟩
    have hrepeats : other.Repeats := by
      cases other with
      | shown =>
        have hplain := ht _ hmem rfl
        have hshown : e.trim = kind.lead .default ++ u := by
          rw [← htext]
          simp [CommandKind.text, CommandKind.lead, CommandKind.tail]
        cases hkind <;> simp [hshown, CommandKind.lead, Markers.get] at hplain
      | test =>
        have hopener : CommandKind.text .default (.test, e) = .char '?' :: Text.trimEnd (e ++ []) :=
          Text.trim_cons_of_not_blank (by decide) _
        rw [hopener] at htext
        cases hkind <;> simp [CommandKind.lead, Markers.default] at htext
      | loop name? =>
        have hopener : CommandKind.text .default (.loop name?, e) =
            .char '@' :: Text.trimEnd (e ++ (CommandKind.loop name?).tail .default) :=
          Text.trim_cons_of_not_blank (by decide) _
        rw [hopener] at htext
        cases hkind <;> simp [CommandKind.lead, Markers.default] at htext
      | separator => exact .separator
      | testEnd => exact .testEnd
      | loopEnd => exact .loopEnd
    rw [hrepeats.text_eq] at htext
    obtain ⟨rfl, hexpression⟩ := hrepeats.lead_inj hkind htext
    exact ⟨e, hmem, hexpression⟩
  · rintro ⟨e, hmem, rfl⟩
    exact ⟨(kind, e), hmem, hkind.text_eq e⟩

/-! ## Blocks under the default markers -/

/-- No command of a kind has the expression, blanks at the end apart. -/
def Omits (t : Template) (kind : CommandKind) (e : Text) : Prop :=
  ∀ e', (kind, e') ∈ t.listing → e'.trimEnd ≠ e.trimEnd

lemma omits_iff {t : Template} (ht : t.IsPlain .default) {kind : CommandKind} (hkind : kind.Repeats) (e : Text) :
    t.Omits kind e ↔ kind.lead .default ++ e.trimEnd ∉ t.commands .default := by
  rw [mem_commands_iff ht hkind]
  exact ⟨fun h ⟨e', hmem, heq⟩ => h e' hmem heq, fun h e' hmem heq => h ⟨e', hmem, heq⟩⟩

section Blocks

variable {test target : Text} {name? : Option Text} {holds otherwise body : Template}

lemma trim_testOpener (test : Text) : (testOpener .default test).trim = .char '?' :: test.trimEnd :=
  Text.trim_cons_of_not_blank (by decide) test

lemma readsAsConditional_iff_omits (hplain : holds.IsPlain .default) :
    ReadsAsConditional .default test holds ↔ holds.Omits .testEnd test ∧ holds.Omits .separator test := by
  have hopens : Text.IsTest .default ('?' :: test.trimEnd) := by
    constructor <;> simp [Markers.default]
  have hcloses : Text.trim (Markers.default.ending.text ++ testOpener .default test) =
      Markers.default.ending.text ++ .char '?' :: test.trimEnd :=
    CommandKind.Repeats.testEnd.trim_lead test
  rw [omits_iff hplain .testEnd, omits_iff hplain .separator, readsAsConditional_iff, trim_testOpener]
  exact ⟨fun h => h.2.2, fun h => ⟨hopens, hcloses, h⟩⟩

lemma readsAsChoice_iff_omits (hplain : holds.IsPlain .default) (hplain' : otherwise.IsPlain .default) :
    ReadsAsChoice .default test holds otherwise ↔
      (holds.Omits .testEnd test ∧ holds.Omits .separator test) ∧ otherwise.Omits .testEnd test := by
  have hseparates : Text.trim (Markers.default.otherwise.text ++ testOpener .default test) =
      Markers.default.otherwise.text ++ .char '?' :: test.trimEnd :=
    CommandKind.Repeats.separator.trim_lead test
  have hne : Markers.default.otherwise ≠ Markers.default.ending := by decide
  rw [readsAsChoice_iff, readsAsConditional_iff_omits hplain, omits_iff hplain' .testEnd, trim_testOpener]
  exact ⟨fun h => ⟨h.1, h.2.2.2⟩, fun h => ⟨h.1, hseparates, hne, h.2⟩⟩

lemma loopParts_none (target : Text) :
    (loopOpener .default target none).trim.loopParts .default =
      Text.splitOn Markers.default.args target.trimEnd := by
  have htrim : (loopOpener .default target none).trim = .char '@' :: target.trimEnd :=
    Text.trim_cons_of_not_blank (by decide) target
  rw [htrim]
  rfl

lemma loopParts_some (htarget : Text.Avoids Markers.default.args target) (name : Text) :
    (loopOpener .default target (some name)).trim.loopParts .default =
      (target, (Text.splitOn Markers.default.args name.trimEnd).1 ::
        (Text.splitOn Markers.default.args name.trimEnd).2) := by
  have hargs : Text.trimEnd (Markers.default.args.text ++ name) = Markers.default.args.text ++ name.trimEnd :=
    Text.trimEnd_cons_of_not_blank (by decide) name
  have hne : Markers.default.args.text ++ name.trimEnd ≠ [] := List.cons_ne_nil _ _
  have hopener : loopOpener .default target (some name) =
      .char '@' :: (target ++ (Markers.default.args.text ++ name)) := List.append_assoc (.char '@' :: target) _ _
  have htrim : (loopOpener .default target (some name)).trim =
      .char '@' :: (target ++ (Markers.default.args.text ++ name.trimEnd)) := by
    rw [hopener, Text.trim_cons_of_not_blank (by decide), Text.trimEnd_append, hargs, if_neg hne]
  have hcut : Text.cut? Markers.default.args (Markers.default.args.text ++ name.trimEnd) =
      some ([], name.trimEnd) := rfl
  have hparts := Text.splitOn_append htarget (Markers.default.args.text ++ name.trimEnd)
  rw [Text.splitOn_of_cut?_some hcut, List.append_nil] at hparts
  rw [htrim]
  exact hparts

lemma isLoop_loopOpener (target : Text) (name? : Option Text) :
    (loopOpener .default target name?).trim.IsLoop .default := by
  obtain ⟨rest, hrest⟩ : ∃ rest, loopOpener .default target name? = .char '@' :: rest := by
    cases name? <;> exact ⟨_, rfl⟩
  rw [hrest, Text.trim_cons_of_not_blank (by decide)]
  constructor <;> simp [Markers.default]

lemma readsAsLoop_iff_omits (hplain : body.IsPlain .default) :
    ReadsAsLoop .default target name? body ↔
      Text.Avoids Markers.default.args target ∧ (∀ name ∈ name?, Text.Avoids Markers.default.args name) ∧
        body.Omits .loopEnd target := by
  have hcloses : Text.trim (Markers.default.ending.text ++ loopOpener .default target none) =
      CommandKind.loopEnd.lead .default ++ target.trimEnd :=
    CommandKind.Repeats.loopEnd.trim_lead target
  have hend : ∀ opener : Text, opener.loopEnd .default =
      CommandKind.loopEnd.lead .default ++ (opener.loopParts .default).1.trimEnd := fun _ => rfl
  rw [readsAsLoop_iff, hcloses, hend, omits_iff hplain .loopEnd]
  constructor
  · rintro ⟨-, -, hname, hsame, hfree⟩
    rw [← hsame] at hfree
    have htarget : Text.Avoids Markers.default.args target := by
      rw [← Text.avoids_args_iff_trimEnd, List.append_cancel_left hsame, Text.avoids_args_iff_trimEnd]
      exact Text.avoids_fst_splitOn _
    refine ⟨htarget, ?_, hfree⟩
    rintro name rfl
    rw [← Text.avoids_args_iff_trim]
    by_cases hempty : name.trim = []
    · rw [hempty]
      exact fun c hc => absurd hc List.not_mem_nil
    · have hkept : ((some name).map Text.trim).filter (· ≠ []) = some name.trim := by
        simp [hempty]
      rw [hkept, Text.loopName?, loopParts_some htarget] at hname
      have hread : (Text.splitOn Markers.default.args name.trimEnd).1.trim = name.trim :=
        Option.some.inj (Option.filter_eq_some_iff.1 hname).1
      rw [← hread, Text.avoids_args_iff_trim]
      exact Text.avoids_fst_splitOn _
  · rintro ⟨htarget, hname, hfree⟩
    have hopens := isLoop_loopOpener target name?
    cases name? with
    | none =>
      have hparts : (loopOpener .default target none).trim.loopParts .default = (target.trimEnd, []) := by
        rw [loopParts_none, Text.splitOn_of_avoids (Text.avoids_args_iff_trimEnd.2 htarget)]
      have hsame : CommandKind.loopEnd.lead .default ++ target.trimEnd.trimEnd =
          CommandKind.loopEnd.lead .default ++ target.trimEnd :=
        congrArg _ (List.rdropWhile_idempotent Text.isBlank target)
      rw [Text.loopName?, hparts, hsame]
      exact ⟨hopens, Text.trim_trimEnd target, rfl, rfl, hfree⟩
    | some name =>
      have havoids := Text.avoids_args_iff_trimEnd.2 (hname name rfl)
      have hparts : (loopOpener .default target (some name)).trim.loopParts .default =
          (target, [name.trimEnd]) := by
        rw [loopParts_some htarget, Text.splitOn_of_avoids havoids]
      have hvariable : ((some name.trimEnd).map Text.trim).filter (· ≠ []) =
          ((some name).map Text.trim).filter (· ≠ []) := by
        rw [Option.map_some, Option.map_some, Text.trim_trimEnd]
      rw [Text.loopName?, hparts]
      exact ⟨hopens, rfl, hvariable, rfl, hfree⟩

end Blocks

end Template

end TextTemplate
