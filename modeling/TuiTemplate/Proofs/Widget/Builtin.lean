import TuiTemplate.Proofs.Widget.Node

set_option autoImplicit false

namespace TuiTemplate

/-- A layout takes a direction by its name and nothing else. -/
theorem allows_layoutWidget_iff {key value : String} :
    layoutWidget.head.Allows key value ↔
      key = "direction" ∧ value ∈ Direction.all.map Direction.name := by
  constructor
  · rintro ⟨spec, declared, allowed⟩
    have same := List.find?_some declared
    obtain rfl := List.mem_singleton.mp (List.mem_of_find?_eq_some declared)
    exact ⟨(beq_iff_eq.mp same).symm, List.contains_iff_mem.mp allowed⟩
  · rintro ⟨rfl, known⟩
    exact ⟨_, rfl, List.contains_iff_mem.mpr known⟩

/-- A paragraph takes any text and nothing else. -/
theorem allows_paragraphWidget_iff {key value : String} :
    paragraphWidget.head.Allows key value ↔ key = "text" := by
  constructor
  · rintro ⟨spec, declared, allowed⟩
    have same := List.find?_some declared
    obtain rfl := List.mem_singleton.mp (List.mem_of_find?_eq_some declared)
    exact (beq_iff_eq.mp same).symm
  · rintro rfl
    exact ⟨_, rfl, rfl⟩

end TuiTemplate
