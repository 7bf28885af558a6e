import TextTemplate.Template.Basic
import TextTemplate.Text.Split

/-!
# Renaming in templates

What an expression asks for is decided by its first path segment. A renaming puts another text in the place
of a first segment throughout a template and leaves everything around it as it was, blanks included. A loop
variable is renamed by renaming in the body of its loop.
-/

namespace TextTemplate

namespace Text

/-- The first path segment of an expression. -/
def firstSegment (m : Markers) (expression : Text) : Text :=
  (splitOn m.scope (splitOn m.args expression.trim).1).1

/-- A text with another start, behind its blanks: `y` where `x` was. -/
def replaceStart (t x y : Text) : Text :=
  t.takeWhile isBlank ++ (y ++ (t.dropWhile isBlank).drop x.length)

/-- An expression with another first segment, where it has the one that is renamed. -/
def renameFirst (m : Markers) (expression x y : Text) : Text :=
  if expression.firstSegment m = x then expression.replaceStart x y else expression

end Text

/-! ## The commands of a template -/

/-- What a command is written for. -/
inductive CommandKind where
  | shown
  | test
  | separator
  | testEnd
  | loop (name? : Option Text)
  | loopEnd
  deriving DecidableEq

namespace CommandKind

/-- What stands before the expression of a command. -/
def lead (m : Markers) : CommandKind → Text
  | shown => []
  | test => m.test.text
  | separator => m.otherwise.text ++ m.test.text
  | testEnd => m.ending.text ++ m.test.text
  | loop _ => m.loop.text
  | loopEnd => m.ending.text ++ m.loop.text

/-- What stands behind the expression of a command. -/
def tail (m : Markers) : CommandKind → Text
  | loop (some name) => m.args.text ++ name
  | _ => []

end CommandKind

namespace Template

/-- The commands of a template, in the order in which they are written, each with its expression. -/
def listing : Template → List (CommandKind × Text)
  | empty => []
  | literal _ rest => rest.listing
  | substitution expression rest => (.shown, expression) :: rest.listing
  | conditional test holds rest => (.test, test) :: (holds.listing ++ (.testEnd, test) :: rest.listing)
  | choice test holds otherwise rest =>
    (.test, test) ::
      (holds.listing ++ (.separator, test) :: (otherwise.listing ++ (.testEnd, test) :: rest.listing))
  | loop target name? body rest =>
    (.loop name?, target) :: (body.listing ++ (.loopEnd, target) :: rest.listing)

/-- No substitution of a template starts like another command. -/
def IsPlain (m : Markers) (t : Template) : Prop :=
  ∀ command ∈ t.listing, command.1 = .shown →
    ∀ n ∈ [MarkerName.ending, .loop, .test, .otherwise], ¬ (m.get n).text <+: command.2.trim

/-- An expression of a template has this first segment. -/
def Mentions (m : Markers) (t : Template) (segment : Text) : Prop :=
  ∃ command ∈ t.listing, command.2.firstSegment m = segment

instance (m : Markers) (t : Template) : Decidable (t.IsPlain m) :=
  inferInstanceAs (Decidable (∀ command ∈ t.listing, _))

instance (m : Markers) (t : Template) (segment : Text) : Decidable (t.Mentions m segment) :=
  inferInstanceAs (Decidable (∃ command ∈ t.listing, _))

section Parts

attribute [local simp] listing

variable (m : Markers) (segment text e : Text) (name? : Option Text) (holds otherwise rest : Template)

@[simp] theorem isPlain_empty : empty.IsPlain m :=
  fun _ h => absurd h List.not_mem_nil

@[simp] theorem isPlain_literal : (literal text rest).IsPlain m ↔ rest.IsPlain m :=
  Iff.rfl

@[simp] theorem isPlain_substitution :
    (substitution e rest).IsPlain m ↔
      (∀ n ∈ [MarkerName.ending, .loop, .test, .otherwise], ¬ (m.get n).text <+: e.trim) ∧ rest.IsPlain m := by
  simp [IsPlain]

@[simp] theorem isPlain_conditional :
    (conditional e holds rest).IsPlain m ↔ holds.IsPlain m ∧ rest.IsPlain m := by
  simp only [IsPlain, listing, List.forall_mem_cons, List.forall_mem_append, reduceCtorEq, false_implies,
    true_and]

@[simp] theorem isPlain_choice :
    (choice e holds otherwise rest).IsPlain m ↔ holds.IsPlain m ∧ otherwise.IsPlain m ∧ rest.IsPlain m := by
  simp only [IsPlain, listing, List.forall_mem_cons, List.forall_mem_append, reduceCtorEq, false_implies,
    true_and]

@[simp] theorem isPlain_loop : (loop e name? holds rest).IsPlain m ↔ holds.IsPlain m ∧ rest.IsPlain m := by
  simp only [IsPlain, listing, List.forall_mem_cons, List.forall_mem_append, reduceCtorEq, false_implies,
    true_and]

@[simp] theorem not_mentions_empty : ¬ empty.Mentions m segment := by
  simp [Mentions]

@[simp] theorem mentions_literal : (literal text rest).Mentions m segment ↔ rest.Mentions m segment :=
  Iff.rfl

@[simp] theorem mentions_substitution :
    (substitution e rest).Mentions m segment ↔ e.firstSegment m = segment ∨ rest.Mentions m segment := by
  simp [Mentions]

@[simp] theorem mentions_conditional :
    (conditional e holds rest).Mentions m segment ↔
      e.firstSegment m = segment ∨ holds.Mentions m segment ∨ rest.Mentions m segment := by
  simp only [Mentions, listing, List.mem_cons, List.mem_append, or_and_right, exists_or, exists_eq_left]
  grind

@[simp] theorem mentions_choice :
    (choice e holds otherwise rest).Mentions m segment ↔
      e.firstSegment m = segment ∨ holds.Mentions m segment ∨ otherwise.Mentions m segment ∨
        rest.Mentions m segment := by
  simp only [Mentions, listing, List.mem_cons, List.mem_append, or_and_right, exists_or, exists_eq_left]
  grind

@[simp] theorem mentions_loop :
    (loop e name? holds rest).Mentions m segment ↔
      e.firstSegment m = segment ∨ holds.Mentions m segment ∨ rest.Mentions m segment := by
  simp only [Mentions, listing, List.mem_cons, List.mem_append, or_and_right, exists_or, exists_eq_left]
  grind

end Parts

/-- A template with another first segment in the expressions that have the one that is renamed. -/
def rename (m : Markers) (x y : Text) : Template → Template
  | empty => empty
  | literal text rest => literal text (rest.rename m x y)
  | substitution expression rest => substitution (expression.renameFirst m x y) (rest.rename m x y)
  | conditional test holds rest =>
    conditional (test.renameFirst m x y) (holds.rename m x y) (rest.rename m x y)
  | choice test holds otherwise rest =>
    choice (test.renameFirst m x y) (holds.rename m x y) (otherwise.rename m x y) (rest.rename m x y)
  | loop target name? body rest =>
    loop (target.renameFirst m x y) name? (body.rename m x y) (rest.rename m x y)

/-- A template is another with the variable `x` of one of its loops renamed to `y`. The new name is no first
segment in the body of the loop, nor that of the target or test of a block which the body stands in, and no
loop around has one of the two names for its variable. -/
inductive RenamesLoop (m : Markers) (x y : Text) : Template → Template → Prop
  | here {target name : Text} {body : Template} (rest : Template) (hname : name.trim = x)
      (htarget : target.firstSegment m ≠ y) (hbody : ¬ body.Mentions m y) :
      RenamesLoop m x y (loop target (some name) body rest)
        (loop target (some (name.replaceStart x y)) (body.rename m x y) rest)
  | literal {t t' : Template} (text : Text) (h : RenamesLoop m x y t t') :
      RenamesLoop m x y (literal text t) (literal text t')
  | substitution {t t' : Template} (expression : Text) (h : RenamesLoop m x y t t') :
      RenamesLoop m x y (substitution expression t) (substitution expression t')
  | inConditional {test : Text} {t t' : Template} (rest : Template) (htest : test.firstSegment m ≠ y)
      (h : RenamesLoop m x y t t') : RenamesLoop m x y (conditional test t rest) (conditional test t' rest)
  | behindConditional {t t' : Template} (test : Text) (holds : Template) (h : RenamesLoop m x y t t') :
      RenamesLoop m x y (conditional test holds t) (conditional test holds t')
  | inChoice {test : Text} {t t' : Template} (otherwise rest : Template) (htest : test.firstSegment m ≠ y)
      (h : RenamesLoop m x y t t') :
      RenamesLoop m x y (choice test t otherwise rest) (choice test t' otherwise rest)
  | inOtherwise {test : Text} {t t' : Template} (holds rest : Template) (htest : test.firstSegment m ≠ y)
      (h : RenamesLoop m x y t t') :
      RenamesLoop m x y (choice test holds t rest) (choice test holds t' rest)
  | behindChoice {t t' : Template} (test : Text) (holds otherwise : Template) (h : RenamesLoop m x y t t') :
      RenamesLoop m x y (choice test holds otherwise t) (choice test holds otherwise t')
  | inLoop {target : Text} {name? : Option Text} {t t' : Template} (rest : Template)
      (htarget : target.firstSegment m ≠ y) (hname : ∀ name ∈ name?, name.trim ≠ x ∧ name.trim ≠ y)
      (h : RenamesLoop m x y t t') : RenamesLoop m x y (loop target name? t rest) (loop target name? t' rest)
  | behindLoop {t t' : Template} (target : Text) (name? : Option Text) (body : Template)
      (h : RenamesLoop m x y t t') :
      RenamesLoop m x y (loop target name? body t) (loop target name? body t')

end Template

end TextTemplate
