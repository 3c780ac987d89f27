import Mathlib.Data.List.Forall2
import TuiTemplate.Proofs.Render.Placement
import TuiTemplate.Render.Engine

set_option autoImplicit false

namespace TuiTemplate

namespace Trace

theorem andThen_of_fault {first : Trace} {fault : Fault} (stopped : first.fault = some fault)
    (second : Trace) : first.andThen second = first := by
  simp only [andThen, stopped]

theorem andThen_of_none {first : Trace} (finished : first.fault = none) (second : Trace) :
    first.andThen second = ⟨first.draws ++ second.draws, second.fault⟩ := by
  simp only [andThen, finished]

theorem andThen_assoc (first second third : Trace) :
    (first.andThen second).andThen third = first.andThen (second.andThen third) := by
  cases stopped : first.fault with
  | some fault =>
      rw [andThen_of_fault stopped, andThen_of_fault stopped, andThen_of_fault stopped]
  | none =>
      rw [andThen_of_none stopped, andThen_of_none stopped]
      cases later : second.fault with
      | some fault => rw [andThen_of_fault rfl, andThen_of_fault later, later]
      | none => rw [andThen_of_none rfl, andThen_of_none later, List.append_assoc]

/-- Traces one after another, up to the first with a fault. -/
def all (traces : List Trace) : Trace := traces.foldr andThen {}

@[simp] theorem all_nil : all [] = {} := rfl

@[simp] theorem all_cons (first : Trace) (rest : List Trace) :
    all (first :: rest) = first.andThen (all rest) := rfl

theorem all_append (front back : List Trace) :
    all (front ++ back) = (all front).andThen (all back) := by
  induction front with
  | nil => rfl
  | cons first rest ih => rw [List.cons_append, all_cons, all_cons, ih, andThen_assoc]

end Trace

def PlacedLeaf.trace (subs : Substitutions) (p : PlacedLeaf) : Trace := p.leaf.trace subs p.region

def PlacedLeaf.Draws (subs : Substitutions) (p : PlacedLeaf) (d : Draw) : Prop :=
  d.region = p.region ∧ p.leaf.content? subs = some (.ok d.text)

namespace Node

variable {subs : Substitutions}

theorem trace_of_content?_eq_ok {leaf : Node} {text : String}
    (told : leaf.content? subs = some (.ok text)) (region : Region) :
    leaf.trace subs region = ⟨[⟨region, text⟩], none⟩ := by
  cases leaf with
  | container head axis children => cases told
  | leaf head content =>
      have answered : content head subs = .ok text := Option.some.inj told
      simp only [trace, answered]
  | inert head => cases told

theorem trace_of_content?_eq_error {leaf : Node} {fault : Fault}
    (failed : leaf.content? subs = some (.error fault)) (region : Region) :
    leaf.trace subs region = ⟨[], some fault⟩ := by
  cases leaf with
  | container head axis children => cases failed
  | leaf head content =>
      have answered : content head subs = .error fault := Option.some.inj failed
      simp only [trace, answered]
  | inert head => cases failed

theorem traceAll_eq_all {children : List Node} {regions : List Region}
    (each : ∀ child ∈ children, ∀ region,
      child.trace subs region = Trace.all ((child.placed region).map (PlacedLeaf.trace subs))) :
    traceAll subs children regions =
      Trace.all ((placedAll children regions).map (PlacedLeaf.trace subs)) := by
  induction children generalizing regions with
  | nil => simp [traceAll, placedAll]
  | cons child rest ih =>
      cases regions with
      | nil => simp [traceAll, placedAll]
      | cons region regions =>
          have here := each child List.mem_cons_self region
          have later : traceAll subs rest regions = _ := ih fun other inside =>
            each other (List.mem_cons_of_mem child inside)
          rw [traceAll, placedAll, List.map_append, Trace.all_append, here, later]

/-- A tree does what its leaves do one after another. -/
theorem Oriented.trace_eq_all {n : Node} (oriented : n.Oriented) (region : Region) :
    n.trace subs region = Trace.all ((n.placed region).map (PlacedLeaf.trace subs)) := by
  induction oriented generalizing region with
  | @container head axis children direction answers below ih =>
      simp only [trace, placed, answers]
      exact traceAll_eq_all ih
  | leaf head content =>
      rw [placed, List.map_singleton, Trace.all_cons, Trace.all_nil, PlacedLeaf.trace]
      cases stopped : (trace subs (.leaf head content) region).fault with
      | some fault => rw [Trace.andThen_of_fault stopped]
      | none => rw [Trace.andThen_of_none stopped, List.append_nil, ← stopped]

end Node

/-- Leaves that have texts draw them, one after another. -/
theorem PlacedLeaf.all_trace_eq {subs : Substitutions} {leaves : List PlacedLeaf}
    {draws : List Draw} (drawn : List.Forall₂ (Draws subs) leaves draws) :
    Trace.all (leaves.map (trace subs)) = ⟨draws, none⟩ := by
  induction drawn with
  | nil => rfl
  | @cons p d rest others here later ih =>
      obtain ⟨place, told⟩ := here
      have first : p.trace subs = ⟨[d], none⟩ := by
        rw [trace, Node.trace_of_content?_eq_ok told, ← place]
      rw [List.map_cons, Trace.all_cons, first, ih, Trace.andThen_of_none rfl,
        List.singleton_append]

end TuiTemplate
