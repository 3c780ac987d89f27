import TuiTemplate.Proofs.Render.Tiling
import TuiTemplate.Proofs.Widget.Grown

set_option autoImplicit false

namespace TuiTemplate

section replay

variable {σ : Type} [DrawTarget σ]

theorem replay_append (target : σ) (front back : List Draw) :
    replay target (front ++ back) =
      match replay target front with
      | (after, none) => replay after back
      | (after, some fault) => (after, some fault) := by
  induction front generalizing target with
  | nil => rfl
  | cons d rest ih =>
      rw [List.cons_append, replay, replay]
      cases DrawTarget.draw target d with
      | mk after fault =>
          cases fault with
          | some fault => rfl
          | none => exact ih after

theorem replay_cons_eq_none_iff {target after : σ} {d : Draw} {rest : List Draw} :
    replay target (d :: rest) = (after, none) ↔
      ∃ next, DrawTarget.draw target d = (next, none) ∧ replay next rest = (after, none) := by
  rw [replay]
  cases DrawTarget.draw target d with
  | mk next fault => cases fault <;> simp

end replay

/-- A canvas that takes so many draws and stops all further ones with a fault. -/
def Canvas.limited (canvas : Canvas) (limit : Nat) (refusal : Fault) : LimitedCanvas :=
  ⟨canvas, limit, refusal, []⟩

/-- As long as the target takes draws, it does what a canvas does, and it keeps the attempts. -/
theorem replay_limited {canvas after : Canvas} {draws : List Draw}
    (drawn : replay canvas draws = (after, none)) {limit : Nat} (enough : draws.length ≤ limit)
    (refusal : Fault) (tried : List Draw) :
    replay (⟨canvas, limit, refusal, tried⟩ : LimitedCanvas) draws =
      (⟨after, limit - draws.length, refusal, tried ++ draws⟩, none) := by
  induction draws generalizing canvas limit tried with
  | nil =>
      cases drawn
      simp [replay]
  | cons d rest ih =>
      obtain ⟨next, first, later⟩ := replay_cons_eq_none_iff.mp drawn
      rw [List.length_cons] at enough
      obtain ⟨left, rfl⟩ : ∃ left, limit = left + 1 := ⟨limit - 1, by omega⟩
      have step : DrawTarget.draw (⟨canvas, left + 1, refusal, tried⟩ : LimitedCanvas) d =
          (⟨next, left, refusal, tried ++ [d]⟩, none) := by
        simp only [DrawTarget.draw] at first ⊢
        rw [first]
      have room : rest.length ≤ left := by omega
      have below := ih later room (tried ++ [d])
      refine replay_cons_eq_none_iff.mpr ⟨_, step, ?_⟩
      rw [below, List.length_cons, Nat.add_sub_add_right, List.append_assoc,
        List.singleton_append]

/-- A target that has taken all that it takes keeps the next attempt and refuses it. -/
theorem replay_refused {canvas after : Canvas} {draws : List Draw}
    (drawn : replay canvas draws = (after, none)) (refusal : Fault) (tried : List Draw)
    (d : Draw) (rest : List Draw) :
    replay (⟨canvas, draws.length, refusal, tried⟩ : LimitedCanvas) (draws ++ d :: rest) =
      (⟨after, 0, refusal, tried ++ draws ++ [d]⟩, some refusal) := by
  rw [replay_append, replay_limited drawn (Nat.le_refl _), Nat.sub_self]
  rfl

theorem Node.replay_canvas_draws {root : Node} {subs : Substitutions} {canvas : Canvas}
    {leaves : List PlacedLeaf} {draws : List Draw} (placed : leaves ⊆ root.placed canvas.area)
    (drawn : List.Forall₂ (PlacedLeaf.Draws subs) leaves draws) :
    replay canvas draws = (canvas.drawn draws, none) := by
  apply replay_canvas
  intro d inside
  obtain ⟨p, member, region, told⟩ := exists_mem_of_forall₂ drawn inside
  rw [region]
  exact root.contains_of_mem_placed canvas.area p (placed member)

/-- How a render reports the fault that stopped it. A failure passes as it is. Another breakdown
becomes the cause of a failed render of the root, which names the kind of the root unless that is
the empty name. -/
def RenderFailure.Reports (root : Node) (failed : RenderFailure) : Fault → Prop
  | .failure failure => failed = ⟨failure, none⟩
  | .breakdown message =>
    failed.cause = some message ∧
      failed.failure.kind = .render ("Render failed: " ++ message) ∧
      failed.failure.context = if root.kind = "" then [] else [("kind", .text root.kind)]

theorem RenderFailure.reports_ofFault (root : Node) (fault : Fault) :
    (ofFault root fault).Reports root fault := by
  cases fault with
  | failure failure => rfl
  | breakdown message =>
      refine ⟨rfl, rfl, ?_⟩
      simp only [ofFault, Failure.render, Failure.named, String.isEmpty_iff]

theorem render_of_trace_eq {n : Node} {subs : Substitutions} {canvas after : Canvas}
    {draws : List Draw} {fault : Option Fault}
    (traced : n.trace subs canvas.area = ⟨draws, fault⟩)
    (done : replay canvas draws = (after, none)) {limit : Nat} (enough : draws.length ≤ limit)
    (refusal : Fault) :
    render n subs (canvas.limited limit refusal) =
      (⟨after, limit - draws.length, refusal, draws⟩, fault.map (RenderFailure.ofFault n)) := by
  simp only [render, Node.drawOn, DrawTarget.area, Canvas.limited, traced, replay_limited done enough,
    List.nil_append]

section stopped

variable {root : Node} (oriented : root.Oriented) {subs : Substitutions} {canvas after : Canvas}
  {before rest : List PlacedLeaf} {p : PlacedLeaf} {draws : List Draw}
  (whole : root.placed canvas.area = before ++ p :: rest)
  (drawn : List.Forall₂ (PlacedLeaf.Draws subs) before draws)

include oriented whole drawn

/-- After the leaves that draw comes what the next leaf does, and then the rest. -/
theorem trace_eq_of_placed :
    root.trace subs canvas.area =
      (⟨draws, none⟩ : Trace).andThen
        ((p.trace subs).andThen (Trace.all (rest.map (PlacedLeaf.trace subs)))) := by
  rw [oriented.trace_eq_all, whole, List.map_append, List.map_cons, Trace.all_append,
    PlacedLeaf.all_trace_eq drawn, Trace.all_cons]

variable (done : replay canvas draws = (after, none)) (refusal : Fault)

include done

/-- A leaf that has no text ends the render before anything is drawn for it. -/
theorem render_of_content?_eq_error {limit : Nat} (enough : draws.length ≤ limit) {fault : Fault}
    (failed : p.leaf.content? subs = some (.error fault)) :
    render root subs (canvas.limited limit refusal) =
      (⟨after, limit - draws.length, refusal, draws⟩, some (.ofFault root fault)) := by
  have here : p.trace subs = ⟨[], some fault⟩ := Node.trace_of_content?_eq_error failed p.region
  have traced : root.trace subs canvas.area = ⟨draws, some fault⟩ := by
    rw [trace_eq_of_placed oriented whole drawn, here, Trace.andThen_of_none rfl,
      Trace.andThen_of_fault rfl, List.append_nil]
  exact render_of_trace_eq traced done enough refusal

/-- A leaf that the target refuses ends the render after it was tried, whatever comes later. -/
theorem render_of_refused {text : String} (told : p.leaf.content? subs = some (.ok text)) :
    render root subs (canvas.limited draws.length refusal) =
      (⟨after, 0, refusal, draws ++ [⟨p.region, text⟩]⟩, some (.ofFault root refusal)) := by
  have here : p.trace subs = ⟨[⟨p.region, text⟩], none⟩ :=
    Node.trace_of_content?_eq_ok told p.region
  have traced : (root.trace subs canvas.area).draws =
      draws ++ ⟨p.region, text⟩ :: (Trace.all (rest.map (PlacedLeaf.trace subs))).draws := by
    rw [trace_eq_of_placed oriented whole drawn, here, Trace.andThen_of_none rfl,
      Trace.andThen_of_none rfl, List.singleton_append]
  simp only [render, Node.drawOn, DrawTarget.area, Canvas.limited, traced, replay_refused done,
    List.nil_append, Option.map_some]

end stopped

/-- Whether drawing leaf after leaf stops at the leaf in some place: its text fails, or so many
leaves come before it as the target takes. -/
def Node.StopsAt (root : Node) (subs : Substitutions) (area : Region) (limit place : Nat) : Prop :=
  ∃ p, (root.placed area)[place]? = some p ∧
    ((∃ fault, p.leaf.content? subs = some (.error fault)) ∨ limit ≤ place)

section stopsAt

variable {root : Node} {subs : Substitutions} {area : Region} {limit place : Nat}

theorem Node.Oriented.exists_content? (oriented : root.Oriented) (subs : Substitutions)
    {p : PlacedLeaf} (inside : p ∈ root.placed area) :
    ∃ answer, p.leaf.content? subs = some answer := by
  obtain ⟨-, isLeaf⟩ := List.mem_filter.mp (oriented.leaf_mem_leaves inside)
  cases found : p.leaf with
  | container head axis children =>
      rw [found] at isLeaf
      cases isLeaf
  | leaf head content => exact ⟨_, rfl⟩
  | inert head =>
      rw [found] at isLeaf
      cases isLeaf

/-- Leaves that are passed have texts. -/
theorem Node.Oriented.speaks_of_not_stopsAt (oriented : root.Oriented)
    (passes : ∀ earlier < place, ¬ root.StopsAt subs area limit earlier) :
    ∀ p ∈ (root.placed area).take place, ∃ text, p.leaf.content? subs = some (.ok text) := by
  intro p inside
  obtain ⟨earlier, found⟩ := List.mem_iff_getElem?.mp inside
  have reached : earlier < place := by
    by_contra beyond
    rw [List.getElem?_take, if_neg beyond] at found
    cases found
  rw [List.getElem?_take_of_lt reached] at found
  obtain ⟨answer, has⟩ := oriented.exists_content? subs (List.mem_of_getElem? found)
  cases answer with
  | ok text => exact ⟨text, has⟩
  | error fault => exact absurd ⟨p, found, .inl ⟨fault, has⟩⟩ (passes earlier reached)

/-- No more leaves are passed than the target takes. -/
theorem Node.le_of_not_stopsAt (room : place ≤ (root.placed area).length)
    (passes : ∀ earlier < place, ¬ root.StopsAt subs area limit earlier) : place ≤ limit := by
  by_contra late
  have inside : limit < (root.placed area).length := by omega
  exact passes limit (by omega)
    ⟨_, List.getElem?_eq_getElem inside, .inr (Nat.le_refl limit)⟩

/-- The leaves before the first at which drawing stops are drawn. -/
theorem Node.Oriented.exists_draws_of_not_stopsAt (oriented : root.Oriented) {canvas : Canvas}
    (room : place ≤ (root.placed canvas.area).length)
    (passes : ∀ earlier < place, ¬ root.StopsAt subs canvas.area limit earlier) :
    ∃ draws, List.Forall₂ (PlacedLeaf.Draws subs) ((root.placed canvas.area).take place) draws ∧
      replay canvas draws = (canvas.drawn draws, none) ∧ draws.length = place ∧ place ≤ limit := by
  have drawn := PlacedLeaf.forall₂_draw (oriented.speaks_of_not_stopsAt passes)
  refine ⟨_, drawn, Node.replay_canvas_draws (List.take_subset _ _) drawn, ?_,
    Node.le_of_not_stopsAt room passes⟩
  rw [← drawn.length_eq, List.length_take, Nat.min_eq_left room]

end stopsAt

/-- A render onto a canvas that takes a limited number of draws stops at the first leaf whose text
fails or that is refused. The leaves before it are drawn and shown, and none after it is tried. -/
theorem render_limited {root : Node} (oriented : root.Oriented) (subs : Substitutions)
    (canvas : Canvas) (limit : Nat) (refusal : Fault) :
    (root.placed canvas.area).map PlacedLeaf.leaf = root.leaves ∧
    ((∀ place, ¬ root.StopsAt subs canvas.area limit place) →
      ∃ after draws, render root subs (canvas.limited limit refusal) = (after, none) ∧
        List.Forall₂ (PlacedLeaf.Draws subs) (root.placed canvas.area) draws ∧
        after.attempts = draws ∧ replay canvas draws = (after.canvas, none)) ∧
    ∀ place, root.StopsAt subs canvas.area limit place →
      (∀ earlier < place, ¬ root.StopsAt subs canvas.area limit earlier) →
      ∃ after failed draws p,
        render root subs (canvas.limited limit refusal) = (after, some failed) ∧
        (root.placed canvas.area)[place]? = some p ∧
        List.Forall₂ (PlacedLeaf.Draws subs) ((root.placed canvas.area).take place) draws ∧
        replay canvas draws = (after.canvas, none) ∧
        ((∃ fault, p.leaf.content? subs = some (.error fault) ∧
            after.attempts = draws ∧ failed.Reports root fault) ∨
          ∃ text, p.leaf.content? subs = some (.ok text) ∧
            after.attempts = draws ++ [⟨p.region, text⟩] ∧ failed.Reports root refusal) := by
  refine ⟨oriented.map_leaf_placed canvas.area, ?_, ?_⟩
  · intro passes
    obtain ⟨draws, drawn, done, length, enough⟩ :=
      oriented.exists_draws_of_not_stopsAt (Nat.le_refl _) fun earlier _ => passes earlier
    rw [List.take_length] at drawn
    rw [← length] at enough
    have traced : root.trace subs canvas.area = ⟨draws, none⟩ := by
      rw [oriented.trace_eq_all, PlacedLeaf.all_trace_eq drawn]
    exact ⟨_, _, render_of_trace_eq traced done enough refusal, drawn, rfl, done⟩
  · rintro place ⟨p, found, stops⟩ before
    obtain ⟨inside, here⟩ := List.getElem?_eq_some_iff.mp found
    obtain ⟨draws, drawn, done, rfl, enough⟩ :=
      oriented.exists_draws_of_not_stopsAt (Nat.le_of_lt inside) before
    have whole : root.placed canvas.area =
        (root.placed canvas.area).take draws.length ++
          p :: (root.placed canvas.area).drop (draws.length + 1) := by
      rw [← here, ← List.drop_eq_getElem_cons inside, List.take_append_drop]
    obtain ⟨answer, has⟩ := oriented.exists_content? subs (List.mem_of_getElem? found)
    cases answer with
    | error fault =>
        exact ⟨_, _, _, p, render_of_content?_eq_error oriented whole drawn done refusal enough has,
          found, drawn, done, .inl ⟨fault, has, rfl, RenderFailure.reports_ofFault root fault⟩⟩
    | ok text =>
        have late : limit ≤ draws.length := by
          rcases stops with ⟨fault, fails⟩ | late
          · rw [has] at fails
            cases fails
          · exact late
        obtain rfl := Nat.le_antisymm late enough
        exact ⟨_, _, _, p, render_of_refused oriented whole drawn done refusal has, found,
          drawn, done, .inr ⟨text, has, rfl, RenderFailure.reports_ofFault root refusal⟩⟩

def shelf (name : String) : Node :=
  (layoutWidget.withKind name).withChildren
    [paragraphWidget.withExplicit ⟨[("text", "a")]⟩,
     .leaf { className := "Broken", kind := "Broken", specs := [] }
       fun _ _ => .error (.breakdown "boom"),
     paragraphWidget.withExplicit ⟨[("text", "b")]⟩]

theorem shelf_oriented (name : String) : (shelf name).Oriented := by
  refine .container (show _ = Except.ok Direction.vertical from rfl) ?_
  simp only [List.forall_mem_cons]
  exact ⟨.leaf _ _, .leaf _ _, .leaf _ _, List.forall_mem_nil _⟩

/-- The first leaf is drawn, the second has no text, and the third is not tried. -/
theorem render_limited_shelf :
    ∃ after failed,
      render (shelf "Shelf") .empty ((Canvas.blank 2 3).limited 5 (.breakdown "full")) =
          (after, some failed) ∧
        after.attempts = [⟨⟨0, 0, 2, 1⟩, "a"⟩] ∧ after.canvas.lines = ["a ", "  ", "  "] ∧
        failed.cause = some "boom" ∧ failed.failure.context = [("kind", .text "Shelf")] := by
  have stops : (shelf "Shelf").StopsAt .empty (Canvas.blank 2 3).area 5 1 :=
    ⟨_, rfl, .inl ⟨_, rfl⟩⟩
  have passes : ∀ earlier < 1,
      ¬ (shelf "Shelf").StopsAt .empty (Canvas.blank 2 3).area 5 earlier := by
    rintro earlier first ⟨p, found, ⟨fault, fails⟩ | late⟩
    · obtain rfl : earlier = 0 := by omega
      cases found
      cases fails
    · omega
  obtain ⟨after, failed, draws, p, rendered, found, drawn, shown, outcome⟩ :=
    (render_limited (shelf_oriented "Shelf") .empty (Canvas.blank 2 3) 5 (.breakdown "full")).2.2
      1 stops passes
  have drawn := PlacedLeaf.eq_map_draw drawn
  cases found
  rcases outcome with ⟨fault, fails, tried, reported⟩ | ⟨text, told, -⟩
  · cases fails
    obtain ⟨cause, -, context⟩ := reported
    have painted : after.canvas = (replay (Canvas.blank 2 3) draws).1 := by rw [shown]
    refine ⟨after, failed, rendered, ?_, ?_, cause, context⟩
    · rw [tried, drawn]
      decide +kernel
    · rw [painted, drawn]
      decide +kernel
  · cases told

/-- The empty name is not reported. -/
theorem render_limited_nameless :
    (shelf "").Oriented ∧
      ∃ after failed,
        render (shelf "") .empty ((Canvas.blank 2 3).limited 9 (.breakdown "full")) =
            (after, some failed) ∧
          failed.cause = some "boom" ∧
          ("kind", Detail.text (shelf "").kind) ∉ failed.failure.context := by
  refine ⟨shelf_oriented "", _, _, rfl, rfl, ?_⟩
  exact List.not_mem_nil

end TuiTemplate
