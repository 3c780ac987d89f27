import TuiTemplate.Proofs.Widget.Assembly
import TuiTemplate.Proofs.Widget.Built

set_option autoImplicit false

namespace TuiTemplate

/-- A call that changes a registry. A decorated class is registered under the name it is decorated
with. -/
inductive RegistryCall where
  | register (kind : String) (factory : Factory) (container : Option Bool) (description : String)
  | decorate (kind : String) (factory : Factory) (description : String)
  | unregister (kind : String)

namespace Registry

/-- What a call leaves of a registry. A call that breaks down changes nothing. -/
def after (r : Registry) : RegistryCall → Registry
  | .register kind factory container description =>
    (r.register kind factory container description).toOption.getD r
  | .decorate kind factory description =>
    (r.register kind factory none description).toOption.getD r
  | .unregister kind => (r.unregister kind).2

def afterAll (r : Registry) (calls : List RegistryCall) : Registry := calls.foldl after r

end Registry

/-- A factory that makes this widget. It tells the role of the widget if it tells any. The widget
has no children yet, and what is set on it, each key once, its class allows. -/
structure Factory.Proper (factory : Factory) (made : Node) : Prop where
  builds : factory.build = .ok made
  role : ∀ flag, factory.isContainer = some flag → flag = made.isContainer
  childless : made.children = []
  distinct : made.explicit.keys.Nodup
  valid : made.head.Valid

/-- Whether a call leaves the role of what it registers to the factory, and the factory is
proper. -/
def RegistryCall.Plain : RegistryCall → Prop
  | .register _ factory container _ => container = none ∧ ∃ made, factory.Proper made
  | .decorate _ factory _ => ∃ made, factory.Proper made
  | .unregister _ => True

/-- A registration by a proper factory, with the role of what it makes. -/
structure Registration.Fit (registration : Registration) (made : Node) : Prop where
  proper : registration.factory.Proper made
  role : registration.container = made.isContainer

def Registry.Fit (r : Registry) : Prop :=
  ∀ entry ∈ r.registrations.entries, ∃ made, entry.2.Fit made

namespace Registry

theorem containerFlag_of_proper {factory : Factory} {made : Node} (proper : factory.Proper made) :
    containerFlag factory none = .ok made.isContainer := by
  unfold containerFlag
  cases told : factory.isContainer with
  | none => simp only [proper.builds, Except.map]
  | some flag => simp only [proper.role flag told]

theorem register_of_proper (r : Registry) (kind description : String) {factory : Factory}
    {made : Node} (proper : factory.Proper made) :
    r.register kind factory none description =
      .ok (r.put ⟨kind, factory, made.isContainer, description⟩) := by
  simp only [register, containerFlag_of_proper proper, Except.map]

namespace Fit

variable {r : Registry}

theorem put (fit : r.Fit) {registration : Registration} {made : Node}
    (new : registration.Fit made) : (r.put registration).Fit :=
  OrderedMap.forall_entries_insert
    (P := fun _ (registration : Registration) => ∃ made, registration.Fit made) fit ⟨made, new⟩

theorem register (fit : r.Fit) (kind description : String) {factory : Factory} {made : Node}
    (proper : factory.Proper made) :
    ((r.register kind factory none description).toOption.getD r).Fit := by
  rw [register_of_proper r kind description proper]
  exact fit.put ⟨proper, rfl⟩

theorem unregister (fit : r.Fit) (kind : String) : (r.unregister kind).2.Fit := by
  unfold Registry.unregister
  split
  · exact fun entry inside => fit entry (List.mem_of_mem_filter inside)
  · exact fit

theorem after (fit : r.Fit) {call : RegistryCall} (plain : call.Plain) : (r.after call).Fit := by
  cases call with
  | register kind factory container description =>
      obtain ⟨rfl, made, proper⟩ := plain
      exact fit.register kind description proper
  | decorate kind factory description =>
      obtain ⟨made, proper⟩ := plain
      exact fit.register kind description proper
  | unregister kind => exact fit.unregister kind

/-- The roles that a registry keeps are those of the widgets, whatever was registered and removed
before. -/
theorem afterAll (fit : r.Fit) {calls : List RegistryCall} (plain : ∀ call ∈ calls, call.Plain) :
    (r.afterAll calls).Fit := by
  induction calls generalizing r with
  | nil => exact fit
  | cons call rest ih =>
      exact ih (fit.after (plain call List.mem_cons_self)) fun other inside =>
        plain other (List.mem_cons_of_mem call inside)

theorem of_get? (fit : r.Fit) {kind : String} {registration : Registration}
    (found : r.get? kind = some registration) : ∃ made, registration.Fit made :=
  fit (kind, registration) (OrderedMap.mem_of_get?_eq_some found)

theorem of_makes (fit : r.Fit) {kind : String} {made : Node} (known : r.Makes kind made) :
    ∃ registration, r.get? kind = some registration ∧ registration.Fit made := by
  obtain ⟨registration, found, built⟩ := known
  obtain ⟨other, here⟩ := fit.of_get? found
  have same : other = made := Except.ok.inj (here.proper.builds.symm.trans built)
  exact ⟨registration, found, same ▸ here⟩

theorem makesAllowed (fit : r.Fit) : r.MakesAllowed where
  childless := by
    intro kind made known
    obtain ⟨registration, -, here⟩ := fit.of_makes known
    exact here.proper.childless
  distinct := by
    intro kind made known
    obtain ⟨registration, -, here⟩ := fit.of_makes known
    exact here.proper.distinct
  allowed := by
    intro kind made known
    obtain ⟨registration, -, here⟩ := fit.of_makes known
    exact here.proper.valid

theorem isContainer_eq (fit : r.Fit) {kind : String} {made : Node} (known : r.Makes kind made) :
    r.isContainer kind = made.isContainer := by
  obtain ⟨registration, found, here⟩ := fit.of_makes known
  simp only [isContainer, found, here.role]

end Fit

end Registry

end TuiTemplate
