import TextTemplate.Markers.Override
import TextTemplate.Render.Template
import TextTemplate.Resolver.Data

/-!
# Engines

An engine keeps a marker configuration and a nesting limit. Every rendering starts from an empty loop
stack, so nothing of it is left in the engine.
-/

namespace TextTemplate

/-- A template engine. -/
structure Engine where
  markers : Markers
  /-- The nesting limit; zero stands for none. -/
  maxDepth : Int
  deriving DecidableEq

namespace Engine

/-- The nesting limit that holds where none is given. -/
def defaultMaxDepth : Int := 64

/-- Replace markers; a batch with a fault changes nothing. -/
def override (e : Engine) (batch : Markers.Batch) : Except MarkerError Engine :=
  (e.markers.override batch).map fun markers => { e with markers := markers }

/-- What a rendering by this engine works with. -/
def context (e : Engine) (resolver : Resolver) : Context where
  markers := e.markers
  resolver := resolver
  maxDepth := e.maxDepth

/-- Render a template from a fresh state. -/
def format (e : Engine) (resolver : Resolver) (streams : Value.Streams) (template : Text) :
    Except Failure Text × RunState :=
  Render.template (e.context resolver) template { streams := streams }

end Engine

/-- The outcome of a rendering that keeps the template's and the data's own failures. -/
structure Report where
  text : Text
  /-- The message of the failure, if there was one. -/
  error? : Option Text
  deriving DecidableEq

/-- Whether a rendering succeeded. -/
def Report.success (r : Report) : Bool :=
  r.error?.isNone

/-- Render a template over data. A failure that is neither the template's nor the data's own is passed
on. -/
def Engine.report (e : Engine) (data : Value) (strict : Bool) (streams : Value.Streams)
    (template : Text) : Except Failure Report × Array Note :=
  let source : DataSource :=
    { root := data, scope := e.markers.scope, args := e.markers.args, strict := strict }
  match e.format source.resolver streams template with
  | (.ok text, s) => (.ok { text := text, error? := none }, s.notes)
  | (.error f, s) =>
    if f.isOwn then
      (.ok { text := [], error? := some f.message }, s.notes.push (.renderFailed f.message))
    else (.error f, s.notes)

end TextTemplate
