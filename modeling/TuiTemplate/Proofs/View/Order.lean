import TuiTemplate.View

set_option autoImplicit false

namespace TuiTemplate

namespace View

/-- The views that stand in a view, without those that stand in them. -/
def children : View → List View
  | .panel _ _ children => children
  | .leaf _ _ _ => []
  | .label _ _ => []

mutual

/-- A view and all views in it, each after those in it. -/
def postorder : View → List View
  | .panel head direction children =>
    postorderAll children ++ [.panel head direction children]
  | .leaf head kind text => [.leaf head kind text]
  | .label head text => [.label head text]

def postorderAll : List View → List View
  | [] => []
  | child :: rest => postorder child ++ postorderAll rest

end

theorem postorderAll_eq_flatMap (views : List View) :
    postorderAll views = views.flatMap postorder := by
  induction views with
  | nil => rfl
  | cons child rest ih => rw [postorderAll, List.flatMap_cons, ih]

theorem postorder_eq_append (v : View) : v.postorder = v.children.flatMap postorder ++ [v] := by
  cases v with
  | panel head direction views => rw [postorder, postorderAll_eq_flatMap, children]
  | leaf head kind text => rfl
  | label head text => rfl

theorem self_mem_postorder (v : View) : v ∈ v.postorder := by
  rw [postorder_eq_append]
  exact List.mem_append_right _ List.mem_cons_self

theorem sizeOf_lt_of_mem_children {v child : View} (inside : child ∈ v.children) :
    sizeOf child < sizeOf v := by
  cases v with
  | panel head direction views =>
      have smaller : sizeOf child < sizeOf views := List.sizeOf_lt_of_mem inside
      simp only [panel.sizeOf_spec]
      omega
  | leaf head kind text => cases inside
  | label head text => cases inside

inductive ChildrenFirst : List View → Prop where
  | nil : ChildrenFirst []
  | snoc {views : List View} {view : View} (earlier : ChildrenFirst views)
      (known : ∀ child ∈ view.children, child ∈ views) : ChildrenFirst (views ++ [view])

theorem ChildrenFirst.append {front back : List View} (first : ChildrenFirst front)
    (second : ChildrenFirst back) : ChildrenFirst (front ++ back) := by
  induction second with
  | nil => rwa [List.append_nil]
  | snoc earlier known ih =>
      rw [← List.append_assoc]
      exact .snoc ih fun child inside => List.mem_append_right front (known child inside)

theorem childrenFirst_flatMap_postorder {views : List View}
    (each : ∀ view ∈ views, ChildrenFirst view.postorder) :
    ChildrenFirst (views.flatMap postorder) := by
  induction views with
  | nil => exact .nil
  | cons view rest ih =>
      have later := ih fun other inside => each other (List.mem_cons_of_mem view inside)
      rw [List.flatMap_cons]
      exact (each view List.mem_cons_self).append later

theorem childrenFirst_postorder (v : View) : ChildrenFirst v.postorder := by
  rw [postorder_eq_append]
  refine .snoc (childrenFirst_flatMap_postorder fun child inside => ?_) ?_
  · exact childrenFirst_postorder child
  · intro child inside
    exact List.mem_flatMap.mpr ⟨child, inside, child.self_mem_postorder⟩
termination_by sizeOf v
decreasing_by exact sizeOf_lt_of_mem_children inside

def leafTexts (views : List View) : List String := (views.filterMap leafText?).map Prod.snd

theorem leafTexts_append (front back : List View) :
    leafTexts (front ++ back) = leafTexts front ++ leafTexts back := by
  rw [leafTexts, List.filterMap_append, List.map_append]
  rfl

end View

end TuiTemplate
