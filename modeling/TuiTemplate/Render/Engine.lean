import TuiTemplate.Log
import TuiTemplate.Render.Target
import TuiTemplate.Widget.Node
set_option autoImplicit false

namespace TuiTemplate

/-- What a widget draws, in order, and the fault that stopped it, if any. -/
structure Trace where
  draws : List Draw := []
  fault : Option Fault := none

namespace Trace

/-- One after the other. After a fault nothing follows. -/
def andThen (first second : Trace) : Trace :=
  match first.fault with
  | some _ => first
  | none => ⟨first.draws ++ second.draws, second.fault⟩

end Trace

namespace Node

mutual

/-- What a widget draws into a region. A container splits the region among its children. -/
def trace (subs : Substitutions) : Node → Region → Trace
  | .container head axis children, region =>
    match axis head.attributes with
    | .error e => ⟨[], some (.breakdown e.message)⟩
    | .ok direction => traceAll subs children (region.split direction children.length)
  | .leaf head content, region =>
    match content head subs with
    | .error fault => ⟨[], some fault⟩
    | .ok text => ⟨[⟨region, text⟩], none⟩
  | .inert _, _ => {}

def traceAll (subs : Substitutions) : List Node → List Region → Trace
  | child :: children, region :: regions =>
    (trace subs child region).andThen (traceAll subs children regions)
  | _, _ => {}

end

/-- Draws a widget into a region of the target. -/
def drawOn {σ : Type} [DrawTarget σ] (n : Node) (region : Region) (subs : Substitutions)
    (target : σ) : σ × Option Fault :=
  let trace := n.trace subs region
  match replay target trace.draws with
  | (after, some fault) => (after, some fault)
  | (after, none) => (after, trace.fault)

end Node

/-- A failed render, with the message of the breakdown behind it, if there was one. -/
structure RenderFailure where
  failure : Failure
  cause : Option String

namespace RenderFailure

/-- A failure reported on purpose passes as it is, and any other breakdown is reported as a
failed render of the root. -/
def ofFault (root : Node) : Fault → RenderFailure
  | .failure failure => ⟨failure, none⟩
  | .breakdown message =>
    ⟨.render ("Render failed: " ++ message) (some root.kind), some message⟩

end RenderFailure

/-- Draws a tree over the whole area of the target. -/
def render {σ : Type} [DrawTarget σ] (root : Node) (subs : Substitutions) (target : σ) :
    σ × Option RenderFailure :=
  let (after, fault) := root.drawOn (DrawTarget.area target) subs target
  (after, fault.map (RenderFailure.ofFault root))

/-- The note that a render leaves in the log before it draws. -/
def renderLog (root : Node) (area : Region) : List LogRecord :=
  [⟨.engine, .debug, "Rendering " ++ root.kind ++ " into " ++ toString area.width ++ "x" ++
    toString area.height⟩]

end TuiTemplate
