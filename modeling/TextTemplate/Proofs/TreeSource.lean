import TextTemplate.Proofs.Blocks
import TextTemplate.Proofs.Legibility
import TextTemplate.Proofs.Trimming
import TextTemplate.Template.Basic

/-!
# The pieces of a template tree

The source of a tree as a list of pieces, and what it takes to tell the tree from it. Blocks are matched by
their text alone and without counting, so the first command with the text of a block's end must be that
end, and a command must be what the tree takes it for.
-/

namespace TextTemplate.Template

/-- The pieces in which a template is written, behind some text. A text stands between two commands, be it
empty; literals that meet are one text. -/
def pieces (m : Markers) : Template → Text → List Piece
  | empty, lead => [(.text, lead)]
  | literal text rest, lead => rest.pieces m (lead ++ text)
  | substitution expression rest, lead =>
    (.text, lead) :: (.command, expression) :: rest.pieces m []
  | conditional test holds rest, lead =>
    let opener := testOpener m test
    (.text, lead) :: (.command, opener) ::
      (holds.pieces m [] ++ (.command, m.ending.text ++ opener) :: rest.pieces m [])
  | choice test holds otherwise rest, lead =>
    let opener := testOpener m test
    (.text, lead) :: (.command, opener) ::
      (holds.pieces m [] ++ (.command, m.otherwise.text ++ opener) :: otherwise.pieces m [] ++
        (.command, m.ending.text ++ opener) :: rest.pieces m [])
  | loop target name? body rest, lead =>
    (.text, lead) :: (.command, loopOpener m target name?) ::
      (body.pieces m [] ++ (.command, m.ending.text ++ loopOpener m target none) :: rest.pieces m [])

lemma writeAll_append (m : Markers) (a b : List Piece) :
    Piece.writeAll m (a ++ b) = Piece.writeAll m a ++ Piece.writeAll m b :=
  List.flatMap_append

lemma writeAll_text (m : Markers) (t : Text) (rest : List Piece) :
    Piece.writeAll m ((.text, t) :: rest) = t ++ Piece.writeAll m rest := rfl

lemma writeAll_command (m : Markers) (raw : Text) (rest : List Piece) :
    Piece.writeAll m ((.command, raw) :: rest) = command m raw ++ Piece.writeAll m rest := rfl

lemma writeAll_pieces (m : Markers) (t : Template) (lead : Text) :
    Piece.writeAll m (t.pieces m lead) = lead ++ t.source m := by
  induction t generalizing lead with
  | empty => simp [pieces, source, Piece.writeAll, Piece.write]
  | literal text rest ih => rw [pieces, ih, source, List.append_assoc]
  | substitution expression rest ih =>
    rw [pieces, writeAll_text, writeAll_command, ih, source]
    simp
  | conditional test holds rest ihh ihr =>
    simp only [pieces, source, writeAll_text, writeAll_command, writeAll_append, ihh, ihr,
      List.nil_append, List.append_assoc]
  | choice test holds otherwise rest ihh iho ihr =>
    simp only [pieces, source, writeAll_text, writeAll_command, writeAll_append, ihh, iho, ihr,
      List.nil_append, List.append_assoc]
  | loop target name? body rest ihb ihr =>
    simp only [pieces, source, writeAll_text, writeAll_command, writeAll_append, ihb, ihr,
      List.nil_append, List.append_assoc]

/-- The texts of the commands that a template writes, as they are read. -/
def commands (m : Markers) (t : Template) : List Text :=
  (t.pieces m []).filterMap fun piece => if piece.1 = .command then some piece.text else none

/-- A conditional with one branch is read as one: its end command has the text that is looked for, and no
command inside has it or the text of a separator. -/
@[mk_iff]
structure ReadsAsConditional (m : Markers) (test : Text) (holds : Template) : Prop where
  opens : (testOpener m test).trim.IsTest m
  closes : (m.ending.text ++ testOpener m test).trim = m.ending.text ++ (testOpener m test).trim
  no_end : m.ending.text ++ (testOpener m test).trim ∉ holds.commands m
  no_separator : m.otherwise.text ++ (testOpener m test).trim ∉ holds.commands m

/-- A conditional with two branches is read as one. -/
@[mk_iff]
structure ReadsAsChoice (m : Markers) (test : Text) (holds otherwise : Template) : Prop
    extends ReadsAsConditional m test holds where
  separates : (m.otherwise.text ++ testOpener m test).trim = m.otherwise.text ++ (testOpener m test).trim
  separator_ne : m.otherwise ≠ m.ending
  no_end_otherwise : m.ending.text ++ (testOpener m test).trim ∉ otherwise.commands m

/-- A loop is read as one, over the same target and with the same variable. -/
@[mk_iff]
structure ReadsAsLoop (m : Markers) (target : Text) (name? : Option Text) (body : Template) : Prop where
  opens : (loopOpener m target name?).trim.IsLoop m
  target_eq : ((loopOpener m target name?).trim.loopParts m).1.trim = target.trim
  name_eq : (loopOpener m target name?).trim.loopName? m = (name?.map Text.trim).filter (· ≠ [])
  closes : (m.ending.text ++ loopOpener m target none).trim = (loopOpener m target name?).trim.loopEnd m
  no_end : (loopOpener m target name?).trim.loopEnd m ∉ body.commands m

/-- Every command of a template is read as what it was written for. -/
def Distinct (m : Markers) : Template → Prop
  | empty => True
  | literal _ rest => rest.Distinct m
  | substitution expression rest => expression.trim.IsSubstitution m ∧ rest.Distinct m
  | conditional test holds rest =>
    ReadsAsConditional m test holds ∧ holds.Distinct m ∧ rest.Distinct m
  | choice test holds otherwise rest =>
    ReadsAsChoice m test holds otherwise ∧ holds.Distinct m ∧ otherwise.Distinct m ∧ rest.Distinct m
  | loop target name? body rest =>
    ReadsAsLoop m target name? body ∧ body.Distinct m ∧ rest.Distinct m

/-- A template can be told from its source. -/
def Printable (m : Markers) (t : Template) : Prop :=
  Piece.Legible m [] (t.pieces m []) ∧ t.Distinct m

lemma test_of_testOpener {m : Markers} {test : Text} (h : (testOpener m test).trim.IsTest m) :
    Text.trim ((testOpener m test).trim.drop m.test.text.length) = test.trim :=
  Text.trim_drop_of_isPrefix m.test.text_ne_nil h.test

/-! ## Deciding whether a template can be told from its source -/

instance (m : Markers) (t : Text) : Decidable (t.IsSubstitution m) :=
  decidable_of_iff' _ (Text.isSubstitution_iff m t)

instance (m : Markers) (t : Text) : Decidable (t.IsTest m) :=
  decidable_of_iff' _ (Text.isTest_iff m t)

instance (m : Markers) (t : Text) : Decidable (t.IsLoop m) :=
  decidable_of_iff' _ (Text.isLoop_iff m t)

instance (m : Markers) (test : Text) (holds : Template) : Decidable (ReadsAsConditional m test holds) :=
  decidable_of_iff' _ (readsAsConditional_iff m test holds)

instance (m : Markers) (test : Text) (holds otherwise : Template) :
    Decidable (ReadsAsChoice m test holds otherwise) :=
  decidable_of_iff' _ (readsAsChoice_iff m test holds otherwise)

instance (m : Markers) (target : Text) (name? : Option Text) (body : Template) :
    Decidable (ReadsAsLoop m target name? body) :=
  decidable_of_iff' _ (readsAsLoop_iff m target name? body)

instance decidableDistinct (m : Markers) : ∀ t : Template, Decidable (t.Distinct m)
  | empty => isTrue trivial
  | literal _ rest => decidableDistinct m rest
  | substitution _ rest =>
    have := decidableDistinct m rest
    inferInstanceAs (Decidable (_ ∧ rest.Distinct m))
  | conditional _ holds rest =>
    have := decidableDistinct m holds
    have := decidableDistinct m rest
    inferInstanceAs (Decidable (_ ∧ holds.Distinct m ∧ rest.Distinct m))
  | choice _ holds otherwise rest =>
    have := decidableDistinct m holds
    have := decidableDistinct m otherwise
    have := decidableDistinct m rest
    inferInstanceAs (Decidable (_ ∧ holds.Distinct m ∧ otherwise.Distinct m ∧ rest.Distinct m))
  | loop _ _ body rest =>
    have := decidableDistinct m body
    have := decidableDistinct m rest
    inferInstanceAs (Decidable (_ ∧ body.Distinct m ∧ rest.Distinct m))

instance (m : Markers) (t : Template) : Decidable (t.Printable m) :=
  inferInstanceAs (Decidable (_ ∧ _))

end TextTemplate.Template
