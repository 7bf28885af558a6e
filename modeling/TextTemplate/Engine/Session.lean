import TextTemplate.Engine.Basic
import TextTemplate.Value.Key

/-!
# Sessions

A session is a sequence of steps on one engine: updates of its markers, a new nesting limit, writes to
a copy of the configuration, and questions. A step answers from the engine as it stands; only accepted
updates and new limits change it.
-/

namespace TextTemplate

/-- A step of a session. -/
inductive SessionStep where
  /-- Replace markers by a batch, unless it could not be made. -/
  | override (batch : Except Failure Markers.Batch)
  /-- Set the nesting limit. -/
  | limit (maxDepth : Int)
  /-- Write into a copy of the configuration. -/
  | writeCopy (name literal : Value)
  /-- Ask for the marker of a name. -/
  | marker (name : Value)
  | tokenize (template : Text)
  /-- Render a template with what was given for a resolver. -/
  | format (resolver : Except Failure Resolver) (streams : Value.Streams) (template : Text)

/-- The answer to a step. -/
inductive StepAnswer where
  /-- An update was accepted. -/
  | accepted
  | refused (error : MarkerError)
  | done
  | marker (literal : Text)
  | noMarker (name : Value)
  | failed (failure : Failure)
  | tokens (tokens : Except Failure (List Token))
  | text (text : Except Failure Text) (calls : Array Text)

namespace Engine

/-- The engine after a step. -/
def after (e : Engine) : SessionStep → Engine
  | .override (.ok batch) =>
    match e.override batch with
    | .ok e' => e'
    | .error _ => e
  | .limit maxDepth => { e with maxDepth := maxDepth }
  | _ => e

/-- The answer to a step, and the notes that it leaves. -/
def answer (e : Engine) : SessionStep → StepAnswer × Array Note
  | .override (.error f) => (.failed f, #[])
  | .override (.ok batch) =>
    match e.override batch with
    | .ok _ =>
      let names := batch.filterMap fun (key, _) => (MarkerName.ofKey? key).map MarkerName.label
      (.accepted, #[.markersUpdated names])
    | .error error => (.refused error, #[])
  | .limit _ => (.done, #[])
  | .writeCopy name _ =>
    match name.asKey with
    | .ok _ => (.done, #[])
    | .error f => (.failed f, #[])
  | .marker name =>
    match name.asKey, MarkerName.ofKey? name with
    | .error f, _ => (.failed f, #[])
    | .ok _, some n => (.marker (e.markers.get n).text, #[])
    | .ok _, none => (.noMarker name, #[])
  | .tokenize template =>
    let outcome := TextTemplate.tokenize e.markers template
    (.tokens outcome, (tokenizeNotes outcome).toArray)
  | .format (.error f) _ _ => (.text (.error f) #[], #[])
  | .format (.ok resolver) streams template =>
    let (result, s) := e.format resolver streams template
    (.text result s.calls, s.notes)

/-- The engine after a sequence of steps. -/
def afterAll (e : Engine) (steps : List SessionStep) : Engine :=
  steps.foldl after e

/-- The answers to a sequence of steps, each with the engine that it leaves. -/
def run (e : Engine) : List SessionStep → List (StepAnswer × Array Note × Engine)
  | [] => []
  | step :: rest =>
    let (answer, notes) := e.answer step
    let e' := e.after step
    (answer, notes, e') :: e'.run rest

end Engine

end TextTemplate
