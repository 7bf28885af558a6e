import TextTemplate.Markers.Basic

/-!
# Template trees

A template as a tree of literals, substitutions, conditionals and loops, and the source text that
writes it. A block is closed by a command that repeats its opener; the two branches of a choice are
separated by one that does so too.
-/

namespace TextTemplate

/-- A template: a sequence of literals, substitutions and blocks. -/
inductive Template where
  | empty
  | literal (text : Text) (rest : Template)
  | substitution (expression : Text) (rest : Template)
  /-- A conditional with one branch. -/
  | conditional (test : Text) (holds rest : Template)
  /-- A conditional with two branches. -/
  | choice (test : Text) (holds otherwise rest : Template)
  /-- A loop, whose variable may have a name of its own. -/
  | loop (target : Text) (name? : Option Text) (body rest : Template)
  deriving DecidableEq, Repr, Inhabited

namespace Template

/-- One template after another. -/
def append : Template → Template → Template
  | empty, t => t
  | literal text rest, t => literal text (rest.append t)
  | substitution expression rest, t => substitution expression (rest.append t)
  | conditional test holds rest, t => conditional test holds (rest.append t)
  | choice test holds otherwise rest, t => choice test holds otherwise (rest.append t)
  | loop target name? body rest, t => loop target name? body (rest.append t)

/-- A command as it stands in a source. -/
def command (m : Markers) (text : Text) : Text :=
  m.opening.text ++ text ++ m.closing.text

/-- The text of the command that opens a conditional. -/
def testOpener (m : Markers) (test : Text) : Text :=
  m.test.text ++ test

/-- The text of the command that opens a loop. -/
def loopOpener (m : Markers) (target : Text) : Option Text → Text
  | none => m.loop.text ++ target
  | some name => m.loop.text ++ target ++ m.args.text ++ name

/-- The source of a template. -/
def source (m : Markers) : Template → Text
  | empty => []
  | literal text rest => text ++ source m rest
  | substitution expression rest => command m expression ++ source m rest
  | conditional test holds rest =>
    let opener := testOpener m test
    command m opener ++ source m holds ++ command m (m.ending.text ++ opener) ++ source m rest
  | choice test holds otherwise rest =>
    let opener := testOpener m test
    command m opener ++ source m holds ++ command m (m.otherwise.text ++ opener) ++
      source m otherwise ++ command m (m.ending.text ++ opener) ++ source m rest
  | loop target name? body rest =>
    command m (loopOpener m target name?) ++ source m body ++
      command m (m.ending.text ++ loopOpener m target none) ++ source m rest

@[simp] theorem append_empty (t : Template) : t.append empty = t := by
  induction t <;> simp_all [append]

theorem source_append (m : Markers) (t u : Template) :
    source m (t.append u) = source m t ++ source m u := by
  induction t <;> simp_all [append, source]

end Template

end TextTemplate
