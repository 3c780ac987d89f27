import TuiTemplate.Proofs.Geometry
import TuiTemplate.Proofs.Widget.Built
import TuiTemplate.Proofs.Widget.Walk

set_option autoImplicit false

namespace TuiTemplate

structure PlacedLeaf where
  leaf : Node
  region : Region

/-- If at most one item of a list has a property, no two of them have it. -/
theorem pairwise_of_countP_le_one {α : Type} {p : α → Bool} {items : List α}
    (few : items.countP p ≤ 1) : items.Pairwise fun a b => ¬ (p a = true ∧ p b = true) := by
  induction items with
  | nil => exact .nil
  | cons first rest ih =>
      rw [List.countP_cons] at few
      refine .cons ?_ (ih (by omega))
      rintro other inside ⟨firstHas, otherHas⟩
      have another := List.countP_pos_iff.mpr ⟨other, inside, otherHas⟩
      rw [if_pos firstHas] at few
      omega

namespace Node

mutual

/-- The leaves of a tree in their order, with their regions. A container splits its region among
its children, whatever they are going to draw. -/
def placed : Node → Region → List PlacedLeaf
  | .container head axis children, region =>
    match axis head.attributes with
    | .error _ => []
    | .ok direction => placedAll children (region.split direction children.length)
  | .leaf head content, region => [⟨.leaf head content, region⟩]
  | .inert _, _ => []

def placedAll : List Node → List Region → List PlacedLeaf
  | child :: children, region :: regions => placed child region ++ placedAll children regions
  | _, _ => []

end

theorem map_leaf_placedAll {children : List Node} {regions : List Region}
    (same : regions.length = children.length)
    (each : ∀ child ∈ children, ∀ region,
      (child.placed region).map PlacedLeaf.leaf = child.leaves) :
    (placedAll children regions).map PlacedLeaf.leaf = children.flatMap leaves := by
  induction children generalizing regions with
  | nil =>
      rw [placedAll]
      · rfl
      · rintro _ _ _ _ impossible
        cases impossible
  | cons child rest ih =>
      cases regions with
      | nil => cases same
      | cons region regions =>
          have later := ih (Nat.succ.inj same) fun other inside =>
            each other (List.mem_cons_of_mem child inside)
          rw [placedAll, List.map_append, List.flatMap_cons, each child List.mem_cons_self region,
            later]

/-- Each leaf of a tree is placed once, and the order is that of the walk. -/
theorem Oriented.map_leaf_placed {n : Node} (oriented : n.Oriented) (region : Region) :
    (n.placed region).map PlacedLeaf.leaf = n.leaves := by
  induction oriented generalizing region with
  | @container head axis children direction answers below ih =>
      rw [placed, answers, leaves_container]
      exact map_leaf_placedAll (Region.length_split region direction children.length) ih
  | leaf head content => rfl

theorem Oriented.leaf_mem_leaves {n : Node} (oriented : n.Oriented) {region : Region}
    {p : PlacedLeaf} (inside : p ∈ n.placed region) : p.leaf ∈ n.leaves := by
  rw [← oriented.map_leaf_placed region]
  exact List.mem_map_of_mem inside

theorem contains_of_mem_placedAll {children : List Node} {regions : List Region}
    {outer : Region} (within : ∀ region ∈ regions, outer.contains region = true)
    (each : ∀ child ∈ children, ∀ region, ∀ p ∈ child.placed region,
      region.contains p.region = true) :
    ∀ p ∈ placedAll children regions, outer.contains p.region = true := by
  induction children generalizing regions with
  | nil => simp [placedAll]
  | cons child rest ih =>
      cases regions with
      | nil => simp [placedAll]
      | cons region regions =>
          intro p inside
          rw [placedAll] at inside
          rcases List.mem_append.mp inside with here | later
          · exact Region.contains_trans (within region List.mem_cons_self)
              (each child List.mem_cons_self region p here)
          · exact ih (fun other member => within other (List.mem_cons_of_mem region member))
              (fun other member => each other (List.mem_cons_of_mem child member)) p later

theorem contains_of_mem_placed (n : Node) (region : Region) :
    ∀ p ∈ n.placed region, region.contains p.region = true := by
  induction n using children_induction generalizing region with
  | step n ih =>
      cases n with
      | container head axis children =>
          rw [placed]
          cases axis head.attributes with
          | error reason => exact fun p impossible => nomatch impossible
          | ok direction =>
              exact contains_of_mem_placedAll
                (fun part inside => Region.contains_of_mem_split inside) ih
      | leaf head content =>
          intro p inside
          rw [placed, List.mem_singleton] at inside
          rw [inside]
          exact Region.contains_refl region
      | inert head => exact fun p impossible => nomatch impossible

section cover

variable (x y : Int)

/-- The number of leaves in whose regions a cell lies. -/
def cover (placed : List PlacedLeaf) : Nat := placed.countP fun p => p.region.HasCell x y

theorem cover_placedAll_le {children : List Node}
    (each : ∀ child ∈ children, ∀ region,
      cover x y (child.placed region) ≤ if region.HasCell x y then 1 else 0)
    (regions : List Region) :
    cover x y (placedAll children regions) ≤ regions.countP fun part => part.HasCell x y := by
  induction children generalizing regions with
  | nil => simp [placedAll, cover]
  | cons child rest ih =>
      cases regions with
      | nil => simp [placedAll, cover]
      | cons region regions =>
          have here := each child List.mem_cons_self region
          have later := ih (fun other inside =>
            each other (List.mem_cons_of_mem child inside)) regions
          rw [placedAll, cover, List.countP_append, List.countP_cons]
          simp only [decide_eq_true_eq]
          unfold cover at here later
          omega

/-- No cell is in the regions of two leaves. -/
theorem cover_placed_le (n : Node) (region : Region) :
    cover x y (n.placed region) ≤ if region.HasCell x y then 1 else 0 := by
  induction n using children_induction generalizing region with
  | step n ih =>
      cases n with
      | container head axis children =>
          rw [placed]
          cases axis head.attributes with
          | error reason => exact Nat.zero_le _
          | ok direction =>
              have parts := cover_placedAll_le x y ih (region.split direction children.length)
              -- Without children there are no parts, and nothing is placed.
              cases children with
              | nil => exact Nat.zero_le _
              | cons child rest =>
                  rwa [Region.countP_split region direction (List.length_pos_iff.mpr
                    (List.cons_ne_nil child rest))] at parts
      | leaf head content => simp [placed, cover, List.countP_cons]
      | inert head => exact Nat.zero_le _

theorem pairwise_placed (n : Node) (region : Region) :
    (n.placed region).Pairwise fun p q =>
      ∀ x y, ¬ (p.region.HasCell x y ∧ q.region.HasCell x y) := by
  rw [List.pairwise_iff_getElem]
  intro i j first second before x y
  have few : cover x y (n.placed region) ≤ 1 := by
    have bounded := cover_placed_le x y n region
    split at bounded <;> omega
  have apart := List.pairwise_iff_getElem.mp (pairwise_of_countP_le_one few) i j first second before
  simpa only [decide_eq_true_eq] using apart

theorem eq_of_mem_placed_of_hasCell {n : Node} {region : Region} {p q : PlacedLeaf}
    (first : p ∈ n.placed region) (second : q ∈ n.placed region)
    (inFirst : p.region.HasCell x y) (inSecond : q.region.HasCell x y) : p = q := by
  have apart := n.pairwise_placed region
  have before : (n.placed region).Pairwise fun p q =>
      p.region.HasCell x y → q.region.HasCell x y → p = q :=
    apart.imp fun disjoint inP inQ => absurd ⟨inP, inQ⟩ (disjoint x y)
  have after : (n.placed region).Pairwise (flip fun p q : PlacedLeaf =>
      p.region.HasCell x y → q.region.HasCell x y → p = q) :=
    apart.imp fun disjoint inQ inP => absurd ⟨inP, inQ⟩ (disjoint x y)
  exact before.forall_of_forall_of_flip (fun _ _ _ _ => rfl) after first second inFirst inSecond

theorem cover_placedAll_eq {children : List Node} {regions : List Region}
    (same : regions.length = children.length)
    (each : ∀ child ∈ children, ∀ region,
      cover x y (child.placed region) = if region.HasCell x y then 1 else 0) :
    cover x y (placedAll children regions) = regions.countP fun part => part.HasCell x y := by
  induction children generalizing regions with
  | nil =>
      rw [List.length_eq_zero_iff.mp same]
      rfl
  | cons child rest ih =>
      cases regions with
      | nil => cases same
      | cons region regions =>
          have here := each child List.mem_cons_self region
          have later := ih (Nat.succ.inj same)
            fun other inside => each other (List.mem_cons_of_mem child inside)
          rw [placedAll, cover, List.countP_append, List.countP_cons]
          simp only [decide_eq_true_eq]
          unfold cover at here later
          omega

/-- If every container has children, no cell is left without a leaf. -/
theorem Oriented.cover_placed_eq {n : Node} (oriented : n.Oriented)
    (full : ∀ inner ∈ n.subtrees, inner.isContainer = true → inner.children ≠ [])
    (region : Region) :
    cover x y (n.placed region) = if region.HasCell x y then 1 else 0 := by
  induction oriented generalizing region with
  | @container head axis children direction answers below ih =>
      have some : children ≠ [] := full _ (self_mem_subtrees _) rfl
      rw [placed, answers]
      have parts := cover_placedAll_eq x y (Region.length_split region direction children.length)
        fun child inside => ih child inside fun inner member =>
          full inner (subtrees_subset_of_mem_children inside member)
      rwa [Region.countP_split region direction (List.length_pos_iff.mpr some)] at parts
  | leaf head content => simp [placed, cover, List.countP_cons]

end cover

end Node

end TuiTemplate
