import TuiTemplate.Render.Canvas
set_option autoImplicit false

namespace TuiTemplate

/-- Something that texts can be drawn on. A draw may stop with a fault, and even then it may
have left a mark. -/
class DrawTarget (σ : Type) where
  area : σ → Region
  draw : σ → Draw → σ × Option Fault

instance : DrawTarget Canvas where
  area := Canvas.area
  draw c d :=
    match c.draw d with
    | .ok drawn => (drawn, none)
    | .error failure => (c, some (.failure failure))

/-- A canvas that takes a number of draws and refuses all further ones. It keeps every attempt,
the refused one too. -/
structure LimitedCanvas where
  canvas : Canvas
  remaining : Nat
  refusal : Fault
  attempts : List Draw := []

instance : DrawTarget LimitedCanvas where
  area s := s.canvas.area
  draw s d :=
    let tried := { s with attempts := s.attempts ++ [d] }
    match s.remaining with
    | 0 => (tried, some s.refusal)
    | remaining + 1 =>
      let (canvas, fault) := DrawTarget.draw s.canvas d
      ({ tried with canvas := canvas, remaining := remaining }, fault)

/-- Makes draws one after another, up to the first that stops with a fault. -/
def replay {σ : Type} [DrawTarget σ] (target : σ) : List Draw → σ × Option Fault
  | [] => (target, none)
  | d :: rest =>
    match DrawTarget.draw target d with
    | (after, none) => replay after rest
    | (after, some fault) => (after, some fault)

end TuiTemplate
