import Mathlib.Control.Monad.Basic
import Mathlib.Tactic.Lemma
import TextTemplate.CommandLine.Program
import TextTemplate.Proofs.Encoding

/-!
# What a rendering delivers

A call of the rendering command goes through six stages: two options are read as assignments, two files are
loaded, the markers are put together, and the template is rendered. A stage that fails stops the command, and
what stops early has nothing to be written. Where all stages succeed, the text goes to one place, the file
that is named or the standard output, less the control sequences of terminals that stand in it. One thing can
still go wrong there. Half of a surrogate pair has no encoding, and it is found when the file is open.
-/

namespace TextTemplate.CommandLine

lemma toOption_eq_some {ε α : Type} {x : Except ε α} {a : α} : x.toOption = some a ↔ x = .ok a := by
  cases x with
  | error e => simp [Except.toOption]
  | ok b => simp [Except.toOption]

lemma eq_ok_of_isSome {ε α : Type} {x : Except ε α} {a : α} (h : x.toOption.isSome = true) :
    x = .ok (x.toOption.getD a) := by
  cases x with
  | error e => cases h
  | ok b => rfl

/-! ## Pieces of work -/

namespace Work

variable {α β : Type} {notes : Array Note}

lemma bind_apply (x : Work α) (f : α → Work β) (notes : Array Note) :
    (x >>= f) notes =
      match x notes with
      | (.ok a, later) => f a later
      | (.error stop, later) => (.error stop, later) := by
  simp only [bind, ExceptT.bind, ExceptT.mk, StateT.bind]
  rcases x notes with ⟨_ | _, later⟩ <;> rfl

lemma bind_eq_ok {x : Work α} {f : α → Work β} {b : β} :
    ((x >>= f) notes).1 = .ok b ↔ ∃ a, (x notes).1 = .ok a ∧ (f a (x notes).2).1 = .ok b := by
  rw [bind_apply]
  rcases x notes with ⟨stop | a, later⟩
  · simp
  · simp

lemma pure_eq_ok {a b : α} : ((pure a : Work α) notes).1 = .ok b ↔ a = b :=
  ⟨fun h => Except.ok.inj h, fun h => congrArg Except.ok h⟩

lemma throw_ne_ok {stop : Stop} {a : α} : ((throw stop : Work α) notes).1 ≠ .ok a := by
  intro h
  cases h

lemma assigned_eq_ok {option : String} {items : List Text} {assignments : List (Text × Text)} :
    (assigned option items notes).1 = .ok assignments ↔ Assignment.ofItems items = .ok assignments := by
  unfold assigned
  cases Assignment.ofItems items with
  | error item => exact iff_of_false throw_ne_ok (by simp)
  | ok found => simpa using pure_eq_ok

lemma loaded_eq_ok {r : Except SourceError α} {a : α} : (loaded r notes).1 = .ok a ↔ r = .ok a := by
  unfold loaded
  cases r with
  | error e =>
    refine iff_of_false ?_ (by simp)
    dsimp only
    split
    · exact throw_ne_ok
    · exact throw_ne_ok
  | ok b => simpa using pure_eq_ok

end Work

/-! ## The stages of a rendering -/

/-- A request all of whose stages succeed, with what comes of each. -/
structure Stages (inv : Invocation) (request : RenderRequest) where
  overrides : List (Text × Text)
  base : Markers
  markers : Markers
  assignments : List (Text × Text)
  members : List (Value × Value)
  template : Text
  text : Text
  overrides_eq : Assignment.ofItems request.overrides = .ok overrides
  base_eq : (Source.markers (overridePath inv request.tokens?)
    (inv.find (overridePath inv request.tokens?))).1 = .ok base
  markers_eq : base.override (overrides.map fun (n, v) => (.text n, .text v)) = .ok markers
  assignments_eq : Assignment.ofItems request.assignments = .ok assignments
  members_eq : Source.data (request.data?.map fun path => (Path.normal path, inv.find (Path.normal path)))
    assignments = .ok members
  template_eq : templateText inv request.template = .ok template
  text_eq : (Engine.report ⟨markers, inv.settings.maxDepth⟩ (.map members)
    (request.strict?.getD inv.settings.strict) [] template).1 = .ok ⟨text, none⟩

/-- The output of a request can be written to. -/
def Writable (inv : Invocation) (output : Text) : Prop :=
  output = standardName ∨ unwritable? inv.find output = none

instance (inv : Invocation) (output : Text) : Decidable (Writable inv output) :=
  inferInstanceAs (Decidable (_ ∨ _))

/-- What comes of a text at an output that can be written to. All of it arrives or nothing does. -/
inductive ComesTo (output text : Text) : Response → Prop where
  | delivered (hencodable : text.IsEncodable) : ComesTo output text (.delivering output text)
  | brokenOff (hhalved : ¬ text.IsEncodable) : ComesTo output text (.breakingOff output text)

lemma comesTo_iff {output text : Text} {response : Response} :
    ComesTo output text response ↔
      (if text.encodingFault?.isNone then .delivering output text else .breakingOff output text) = response := by
  have hiff : text.encodingFault?.isNone = true ↔ text.IsEncodable :=
    Option.isNone_iff_eq_none.trans Text.encodingFault?_eq_none_iff
  constructor
  · intro h
    cases h with
    | delivered hencodable => exact if_pos (hiff.2 hencodable)
    | brokenOff hhalved => exact if_neg (mt hiff.1 hhalved)
  · rintro rfl
    split
    · next hnone => exact .delivered (hiff.1 hnone)
    · next hsome => exact .brokenOff (mt hiff.2 hsome)

lemma exists_comesTo (output text : Text) : ∃ response, ComesTo output text response :=
  ⟨_, comesTo_iff.2 rfl⟩

lemma Response.delivering_exit (output text : Text) : (Response.delivering output text).exit = 0 := by
  unfold delivering
  split
  · rfl
  · rfl

namespace ComesTo

variable {output text : Text} {response : Response}

lemma of_exit_eq (h : ComesTo output text response) (hexit : response.exit = 0) :
    text.IsEncodable ∧ response = .delivering output text := by
  cases h with
  | delivered hencodable => exact ⟨hencodable, rfl⟩
  | brokenOff hhalved => cases hexit

lemma of_exit_ne (h : ComesTo output text response) (hexit : response.exit ≠ 0) :
    ¬ text.IsEncodable ∧ response = .breakingOff output text := by
  cases h with
  | delivered hencodable => exact absurd (Response.delivering_exit output text) hexit
  | brokenOff hhalved => exact ⟨hhalved, rfl⟩

lemma of_isEncodable (h : ComesTo output text response) (hencodable : text.IsEncodable) :
    response = .delivering output text := by
  cases h with
  | delivered _ => rfl
  | brokenOff hhalved => exact absurd hencodable hhalved

end ComesTo

section Stages

variable {inv : Invocation} {request : RenderRequest} {notes : Array Note} {markers : Markers} {data : Value}
  {template output text : Text} {response : Response}

lemma loadMarkers_eq_ok {named? : Option Text} :
    (loadMarkers inv named? notes).1 = .ok markers ↔
      (Source.markers (overridePath inv named?) (inv.find (overridePath inv named?))).1 = .ok markers := by
  unfold loadMarkers
  dsimp only
  rw [Work.bind_eq_ok]
  constructor
  · rintro ⟨_, -, h⟩
    exact Work.loaded_eq_ok.1 h
  · intro h
    exact ⟨(), rfl, Work.loaded_eq_ok.2 h⟩

lemma requestMarkers_eq_ok :
    (requestMarkers inv request notes).1 = .ok markers ↔
      ∃ overrides base, Assignment.ofItems request.overrides = .ok overrides ∧
        (Source.markers (overridePath inv request.tokens?)
          (inv.find (overridePath inv request.tokens?))).1 = .ok base ∧
        base.override (overrides.map fun (n, v) => (.text n, .text v)) = .ok markers := by
  unfold requestMarkers
  rw [Work.bind_eq_ok]
  constructor
  · rintro ⟨overrides, hoverrides, h⟩
    obtain ⟨base, hbase, h⟩ := Work.bind_eq_ok.1 h
    refine ⟨overrides, base, Work.assigned_eq_ok.1 hoverrides, loadMarkers_eq_ok.1 hbase, ?_⟩
    dsimp only at h
    cases hfound : base.override (overrides.map fun (n, v) => (.text n, .text v)) with
    | error e =>
      rw [hfound] at h
      cases h
    | ok found =>
      rw [hfound] at h
      exact congrArg Except.ok (Work.pure_eq_ok.1 h)
  · rintro ⟨overrides, base, hoverrides, hbase, hmarkers⟩
    refine ⟨overrides, Work.assigned_eq_ok.2 hoverrides, Work.bind_eq_ok.2 ?_⟩
    refine ⟨base, loadMarkers_eq_ok.2 hbase, ?_⟩
    dsimp only
    rw [hmarkers]
    rfl

lemma requestData_eq_ok :
    (requestData inv request notes).1 = .ok data ↔
      ∃ assignments members, Assignment.ofItems request.assignments = .ok assignments ∧
        Source.data (request.data?.map fun path => (Path.normal path, inv.find (Path.normal path)))
          assignments = .ok members ∧
        Value.map members = data := by
  unfold requestData
  rw [Work.bind_eq_ok]
  constructor
  · rintro ⟨assignments, hassignments, h⟩
    obtain ⟨members, hmembers, h⟩ := Work.bind_eq_ok.1 h
    exact ⟨assignments, members, Work.assigned_eq_ok.1 hassignments, Work.loaded_eq_ok.1 hmembers,
      Work.pure_eq_ok.1 h⟩
  · rintro ⟨assignments, members, hassignments, hmembers, rfl⟩
    refine ⟨assignments, Work.assigned_eq_ok.2 hassignments, Work.bind_eq_ok.2 ?_⟩
    exact ⟨members, Work.loaded_eq_ok.2 hmembers, rfl⟩

lemma requestReport_eq_ok {report : Report} :
    (requestReport inv request markers data template notes).1 = .ok report ↔
      (Engine.report ⟨markers, inv.settings.maxDepth⟩ data (request.strict?.getD inv.settings.strict) []
        template).1 = .ok report := by
  unfold requestReport
  rcases Engine.report ⟨markers, inv.settings.maxDepth⟩ data (request.strict?.getD inv.settings.strict) []
    template with ⟨f | found, left⟩
  · exact iff_of_false (fun h => by cases h) (fun h => by cases h)
  · exact Work.pure_eq_ok.trans (Except.ok.injEq found report).symm.to_iff

lemma deliver_eq_ok :
    (deliver inv output text notes).1 = .ok response ↔
      Writable inv output ∧ ComesTo output (ControlSequence.strip text) response := by
  unfold deliver Writable
  by_cases houtput : output = standardName
  · rw [if_pos houtput, Work.pure_eq_ok, comesTo_iff]
    simp [houtput]
  · rw [if_neg houtput]
    cases hfound : unwritable? inv.find output with
    | none =>
      dsimp only
      rw [Work.pure_eq_ok, comesTo_iff]
      simp
    | some obstacle =>
      refine iff_of_false ?_ (by simp [houtput])
      cases obstacle <;> exact Work.throw_ne_ok

/-- A request comes to a response exactly if all its stages succeed and its output can be written to, and the
response is what comes of the text of the last stage there. -/
lemma run_eq_ok :
    (request.run inv notes).1 = .ok response ↔
      Writable inv request.output ∧ ∃ stages : Stages inv request,
        ComesTo request.output (ControlSequence.strip stages.text) response := by
  unfold RenderRequest.run
  rw [Work.bind_eq_ok]
  constructor
  · rintro ⟨markers, hmarkers, h⟩
    obtain ⟨data, hdata, h⟩ := Work.bind_eq_ok.1 h
    obtain ⟨overrides, base, hoverrides, hbase, hmarkers⟩ := requestMarkers_eq_ok.1 hmarkers
    obtain ⟨assignments, members, hassignments, hmembers, rfl⟩ := requestData_eq_ok.1 hdata
    cases htemplate : templateText inv request.template with
    | error fault =>
      rw [htemplate] at h
      cases h
    | ok template =>
      rw [htemplate] at h
      obtain ⟨⟨text, error?⟩, hreport, h⟩ := Work.bind_eq_ok.1 h
      cases error? with
      | some message => cases h
      | none =>
        obtain ⟨hwritable, hresponse⟩ := deliver_eq_ok.1 h
        exact ⟨hwritable, ⟨overrides, base, markers, assignments, members, template, text, hoverrides, hbase,
          hmarkers, hassignments, hmembers, htemplate, requestReport_eq_ok.1 hreport⟩, hresponse⟩
  · rintro ⟨hwritable, stages, hresponse⟩
    -- What a stage comes to does not depend on the notes taken before it.
    have hmarkers : ∀ notes, (requestMarkers inv request notes).1 = .ok stages.markers := fun _ =>
      requestMarkers_eq_ok.2 ⟨_, _, stages.overrides_eq, stages.base_eq, stages.markers_eq⟩
    have hdata : ∀ notes, (requestData inv request notes).1 = .ok (.map stages.members) := fun _ =>
      requestData_eq_ok.2 ⟨_, _, stages.assignments_eq, stages.members_eq, rfl⟩
    refine ⟨_, hmarkers _, Work.bind_eq_ok.2 ⟨_, hdata _, ?_⟩⟩
    rw [stages.template_eq]
    exact Work.bind_eq_ok.2
      ⟨_, requestReport_eq_ok.2 stages.text_eq, deliver_eq_ok.2 ⟨hwritable, hresponse⟩⟩

end Stages

/-! ## Calls of the command -/

/-- The words of the rendering command ask for help. -/
def AskForHelp (words : List Text) : Prop :=
  ∃ parsed, parse renderOptions true words = .ok parsed ∧ RenderOption.help ∈ parsed.keys

/-- The words of the rendering command make a request. -/
def MakeRequest (inv : Invocation) (words : List Text) (request : RenderRequest) : Prop :=
  ∃ parsed, parse renderOptions true words = .ok parsed ∧ RenderOption.help ∉ parsed.keys ∧
    RenderRequest.ofParsed inv parsed = .ok request

lemma makeRequest_iff {inv : Invocation} {words : List Text} {request : RenderRequest} :
    MakeRequest inv words request ↔
      ((parse renderOptions true words).toOption.bind fun parsed =>
        if .help ∈ parsed.keys then none else (RenderRequest.ofParsed inv parsed).toOption) = some request := by
  unfold MakeRequest
  cases parse renderOptions true words with
  | error fault => simp [Except.toOption]
  | ok parsed =>
    have hparsed : (Except.ok parsed : Except UsageFault (Parsed RenderOption)).toOption = some parsed := rfl
    by_cases hhelp : RenderOption.help ∈ parsed.keys
    · simp [hparsed, hhelp]
    · simp [hparsed, hhelp, toOption_eq_some]

instance (inv : Invocation) (words : List Text) (request : RenderRequest) :
    Decidable (MakeRequest inv words request) :=
  decidable_of_iff _ makeRequest_iff.symm

/-- A call of the rendering command. -/
def Invocation.rendering (inv : Invocation) (words : List Text) : Invocation :=
  { inv with args := "render".text :: words }

section Calls

variable {inv : Invocation} {words : List Text} {response : Response} {notes : Array Note}

lemma Response.printing_failed (printed : Except Failure Text) :
    (Response.printing 1 printed).exit ≠ 0 ∧ (Response.printing 1 printed).written = none := by
  unfold printing
  cases printed with
  | error f => exact ⟨Nat.succ_ne_zero _, rfl⟩
  | ok text =>
    dsimp only
    cases text.encodingFault? with
    | some fault => exact ⟨Nat.succ_ne_zero _, rfl⟩
    | none => exact ⟨Nat.succ_ne_zero _, rfl⟩

lemma Stop.response_failed (stop : Stop) : stop.response.exit ≠ 0 ∧ stop.response.written = none := by
  cases stop with
  | usage place fault => exact ⟨Nat.succ_ne_zero _, rfl⟩
  | failed message => exact Response.printing_failed _
  | unwritable path obstacle => exact ⟨Nat.succ_ne_zero _, rfl⟩
  | uncaught failure => exact ⟨Nat.succ_ne_zero _, rfl⟩

lemma render_eq_ok :
    (render inv words notes).1 = .ok response ↔
      (AskForHelp words ∧ response = { exit := 0, stdout := Help.ofRender.panel ++ [.char '\n'] }) ∨
      ∃ request, MakeRequest inv words request ∧ (request.run inv notes).1 = .ok response := by
  unfold render AskForHelp MakeRequest
  cases hparse : parse renderOptions true words with
  | error fault =>
    refine iff_of_false Work.throw_ne_ok ?_
    simp
  | ok parsed =>
    dsimp only
    by_cases hhelp : RenderOption.help ∈ parsed.keys
    · rw [if_pos (List.contains_iff_mem.2 hhelp), Work.pure_eq_ok]
      simp [hhelp, eq_comm]
    · rw [if_neg (fun h => hhelp (List.contains_iff_mem.1 h))]
      cases hrequest : RenderRequest.ofParsed inv parsed with
      | error stop =>
        refine iff_of_false (fun h => by cases h) ?_
        simp [hhelp, hrequest]
      | ok request => simp [hhelp, hrequest]

lemma program_rendering (inv : Invocation) (words : List Text) :
    program (inv.rendering words) = render (inv.rendering words) words := by
  rfl

lemma respond_rendering (inv : Invocation) (words : List Text) :
    (∃ stop : Stop, (respond (inv.rendering words)).1 = stop.response) ∨
      (render (inv.rendering words) words #[]).1 = .ok (respond (inv.rendering words)).1 := by
  unfold respond
  rw [program_rendering]
  rcases render (inv.rendering words) words #[] with ⟨stop | found, left⟩
  · exact .inl ⟨stop, rfl⟩
  · exact .inr rfl

lemma respond_of_ok (h : (render (inv.rendering words) words #[]).1 = .ok response) :
    (respond (inv.rendering words)).1 = response := by
  unfold respond
  rw [program_rendering]
  rcases hrun : render (inv.rendering words) words #[] with ⟨stop | found, left⟩ <;> rw [hrun] at h
  · cases h
  · exact Except.ok.inj h

lemma respond_cases (inv : Invocation) (words : List Text) :
    let call := inv.rendering words
    let response := (respond call).1
    (response.exit ≠ 0 ∧ response.written = none) ∨
      (AskForHelp words ∧ response.exit = 0 ∧ response.written = none) ∨
      ∃ request, MakeRequest call words request ∧ ∃ stages : Stages call request,
        ComesTo request.output (ControlSequence.strip stages.text) response := by
  intro call response
  rcases respond_rendering inv words with ⟨stop, hstop⟩ | hok
  · have hresponse : response = stop.response := hstop
    rw [hresponse]
    exact .inl stop.response_failed
  · rcases render_eq_ok.1 hok with ⟨hhelp, hresponse⟩ | ⟨request, hrequest, hrun⟩
    · have hresponse : response = _ := hresponse
      rw [hresponse]
      exact .inr (.inl ⟨hhelp, rfl, rfl⟩)
    · exact .inr (.inr ⟨request, hrequest, (run_eq_ok.1 hrun).2⟩)

end Calls

/-- The rendering command delivers all or nothing. If it fails, at whatever stage, no file is written, with one
exception: all its stages have succeeded, the rendered text holds half of a surrogate pair, and the file that is
named is left without content. If the command succeeds, and was not asked for help, then all its stages have, and
the response is that the rendered text and nothing else goes to the file that is named, or to the standard
output, less the control sequences in it. And one of the two comes about where all stages succeed and the output
can be written to. -/
theorem render_allOrNothing (inv : Invocation) (words : List Text) :
    let call := inv.rendering words
    let response := (respond call).1
    (response.exit ≠ 0 → response.written = none ∨
      ∃ request, MakeRequest call words request ∧ ∃ stages : Stages call request,
        ¬ (ControlSequence.strip stages.text).IsEncodable ∧
        response = .breakingOff request.output (ControlSequence.strip stages.text)) ∧
    (response.exit = 0 → (AskForHelp words ∧ response.written = none) ∨
      ∃ request, MakeRequest call words request ∧ ∃ stages : Stages call request,
        (ControlSequence.strip stages.text).IsEncodable ∧
        response = .delivering request.output (ControlSequence.strip stages.text)) ∧
    ∀ request, MakeRequest call words request → Writable call request.output →
      ∀ stages : Stages call request,
        ComesTo request.output (ControlSequence.strip stages.text) response := by
  intro call response
  have hcases := respond_cases inv words
  refine ⟨?_, ?_, ?_⟩
  · intro hexit
    rcases hcases with ⟨-, hnone⟩ | ⟨-, hzero, -⟩ | ⟨request, hrequest, stages, hcomes⟩
    · exact .inl hnone
    · exact absurd hzero hexit
    · obtain ⟨hhalved, hresponse⟩ := hcomes.of_exit_ne hexit
      exact .inr ⟨request, hrequest, stages, hhalved, hresponse⟩
  · intro hexit
    rcases hcases with ⟨hfailed, -⟩ | ⟨hhelp, -, hnone⟩ | ⟨request, hrequest, stages, hcomes⟩
    · exact absurd hexit hfailed
    · exact .inl ⟨hhelp, hnone⟩
    · obtain ⟨hencodable, hresponse⟩ := hcomes.of_exit_eq hexit
      exact .inr ⟨request, hrequest, stages, hencodable, hresponse⟩
  · intro request hrequest hwritable stages
    obtain ⟨found, hcomes⟩ := exists_comesTo request.output (ControlSequence.strip stages.text)
    have hresponse : response = found :=
      respond_of_ok (render_eq_ok.2 (.inr ⟨request, hrequest, run_eq_ok.2 ⟨hwritable, stages, hcomes⟩⟩))
    rwa [hresponse]

/-- The files of a directory: a template with square markers, its data, and overrides of two markers. -/
def squareFiles : FileTree where
  workingDirectory := []
  files :=
    [(["rows.txt".text], Text.utf8 "[@xs,x][x]-[/@xs][y]".toList),
      (["rows.json".text], Text.utf8 "\x7b\"xs\": [1, 2], \"y\": \"no\"\x7d".toList),
      (["square.json".text], Text.utf8 "\x7b\"open\": \"[\", \"close\": \"<\"\x7d".toList)]
  directories := []

def squareCall : Invocation where
  args := []
  stdin := []
  settings := {}
  userFile := "tokens.json".text
  find := squareFiles.find

/-- Words that give one marker another text than the overrides do, and one member of the data another value. -/
def squareWords : List Text :=
  ["rows.txt".text, "-d".text, "rows.json".text, "--tokens".text, "square.json".text, "--token".text,
    "close=]".text, "--set".text, "y=z".text, "-o".text, "out.txt".text]

def squareRequest : RenderRequest where
  template := "rows.txt".text
  data? := some "rows.json".text
  assignments := ["y=z".text]
  overrides := ["close=]".text]
  tokens? := some "square.json".text
  strict? := none
  output := "out.txt".text

def squareBase : Markers :=
  { Markers.default with opening := ⟨"[".text, by decide⟩, closing := ⟨"<".text, by decide⟩ }

def squareMarkers : Markers :=
  { squareBase with closing := ⟨"]".text, by decide⟩ }

/-- The data of the call, as it is loaded and assigned. -/
def squareMembers : List (Value × Value) :=
  let path := Path.normal "rows.json".text
  (Source.data (some (path, squareCall.find path)) [("y".text, "z".text)]).toOption.getD []

def squareStages : Stages (squareCall.rendering squareWords) squareRequest where
  overrides := [("close".text, "]".text)]
  base := squareBase
  markers := squareMarkers
  assignments := [("y".text, "z".text)]
  members := squareMembers
  template := "[@xs,x][x]-[/@xs][y]".text
  text := "1-2-z".text
  overrides_eq := by decide +kernel
  base_eq := toOption_eq_some.1 (by decide +kernel)
  markers_eq := toOption_eq_some.1 (by decide +kernel)
  assignments_eq := by decide +kernel
  members_eq := eq_ok_of_isSome (by decide +kernel)
  template_eq := by decide +kernel
  text_eq := by decide +kernel

theorem render_allOrNothing_overridden :
    let call := squareCall.rendering squareWords
    MakeRequest call squareWords squareRequest ∧ Writable call squareRequest.output ∧
      (respond call).1 = .delivering squareRequest.output squareStages.text := by
  intro call
  have hrequest : MakeRequest call squareWords squareRequest := by decide +kernel
  have hwritable : Writable call squareRequest.output := by decide +kernel
  have hstrip : ControlSequence.strip squareStages.text = squareStages.text := by decide +kernel
  have hcomes := (render_allOrNothing squareCall squareWords).2.2 squareRequest hrequest hwritable squareStages
  rw [hstrip] at hcomes
  exact ⟨hrequest, hwritable, hcomes.of_isEncodable ⟨"1-2-z".toList, rfl⟩⟩

/-- A call with a text on the standard input, in a directory without files. -/
def callWithInput (stdin : Text) : Invocation where
  args := []
  stdin := stdin
  settings := {}
  userFile := "tokens.json".text
  find := fun path => .error (if path = Path.here then .directory else .missing)

/-- A text that holds a control sequence is not what the output file receives. -/
theorem render_controlSequence :
    let text := "\x1b[31mred".text
    let response := (respond ((callWithInput text).rendering ["-".text, "-o".text, "out".text])).1
    (Engine.report ⟨.default, Engine.defaultMaxDepth⟩ (.map []) false [] text).1 = .ok ⟨text, none⟩ ∧
      response.exit = 0 ∧ response.written = some ("out".text, "red".text) := by
  decide +kernel

-- Half of a surrogate pair, which a word may hold, is found when the output file is open.
example :
    let words := ["-".text, "--set".text, "a=".text ++ [.half 0x4FF], "-o".text, "out.txt".text]
    let response := (respond ((callWithInput "\x7b\x7ba\x7d\x7d".text).rendering words)).1
    response.exit = 1 ∧ response.written = some ("out.txt".text, []) := by
  decide +kernel

end TextTemplate.CommandLine
