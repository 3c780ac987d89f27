import TuiTemplate.OrderedMap

set_option autoImplicit false

namespace TuiTemplate.OrderedMap

variable {α : Type}

theorem mem_of_get?_eq_some {m : OrderedMap α} {key : String} {value : α}
    (found : m.get? key = some value) : (key, value) ∈ m.entries := by
  obtain ⟨entries⟩ := m
  unfold get? at found
  induction entries with
  | nil => cases found
  | cons entry rest ih =>
      by_cases same : entry.1 = key
      · simp only [lookupIn, same, ↓reduceIte, Option.some.injEq] at found
        rw [← same, ← found]
        exact List.mem_cons_self
      · simp only [lookupIn, same, ↓reduceIte] at found
        exact List.mem_cons_of_mem entry (ih found)

theorem get?_eq_some_iff_mem {m : OrderedMap α} (distinct : m.keys.Nodup) {key : String}
    {value : α} : m.get? key = some value ↔ (key, value) ∈ m.entries := by
  refine ⟨mem_of_get?_eq_some, fun inside => ?_⟩
  obtain ⟨entries⟩ := m
  unfold keys at distinct
  unfold get?
  induction entries with
  | nil => cases inside
  | cons entry rest ih =>
      obtain ⟨fresh, distinct⟩ := List.nodup_cons.mp distinct
      rcases List.mem_cons.mp inside with rfl | later
      · simp only [lookupIn, ↓reduceIte]
      · have different : entry.1 ≠ key := fun same =>
          fresh (List.mem_map.mpr ⟨(key, value), later, same.symm⟩)
        simp only [lookupIn, different, ↓reduceIte]
        exact ih distinct later

/-- Keys under other names, different ones for different keys, are found with their values. -/
theorem get?_map {β : Type} {f : String → String} (injective : Function.Injective f) (g : α → β)
    (m : OrderedMap α) (key : String) :
    (⟨m.entries.map fun entry => (f entry.1, g entry.2)⟩ : OrderedMap β).get? (f key) =
      (m.get? key).map g := by
  obtain ⟨entries⟩ := m
  unfold get?
  induction entries with
  | nil => rfl
  | cons entry rest ih =>
      simp only [List.map_cons, lookupIn, injective.eq_iff]
      split
      · rfl
      · exact ih

theorem get?_insert (m : OrderedMap α) (key other : String) (value : α) :
    (m.insert key value).get? other = if key = other then some value else m.get? other := by
  obtain ⟨entries⟩ := m
  unfold get? insert
  induction entries with
  | nil => rfl
  | cons entry rest ih =>
      by_cases same : entry.1 = key
      · simp only [insertIn, lookupIn, same, ↓reduceIte]
        split <;> rfl
      · simp only [insertIn, lookupIn, same, ↓reduceIte, ih]
        split
        · next found =>
          have different : key ≠ other := fun equal => same (found.trans equal.symm)
          rw [if_neg different]
        · rfl

/-- A value that was set stays set, and is one of those set under its key. -/
theorem exists_get?_update {P : α → Prop} {m other : OrderedMap α} {key : String}
    (start : ∃ value, m.get? key = some value ∧ P value)
    (set : ∀ entry ∈ other.entries, entry.1 = key → P entry.2) :
    ∃ value, (m.update other).get? key = some value ∧ P value := by
  apply List.foldlRecOn
    (motive := fun m : OrderedMap α => ∃ value, m.get? key = some value ∧ P value)
  · exact start
  · rintro before ⟨value, found, good⟩ entry inside
    rw [get?_insert]
    split
    · next same => exact ⟨entry.2, rfl, set entry inside same⟩
    · exact ⟨value, found, good⟩

theorem keys_insertIn_of_mem {key : String} (value : α) {entries : List (String × α)}
    (present : key ∈ entries.map Prod.fst) :
    (insertIn key value entries).map Prod.fst = entries.map Prod.fst := by
  induction entries with
  | nil => cases present
  | cons entry rest ih =>
      by_cases same : entry.1 = key
      · simp only [insertIn, same, ↓reduceIte, List.map_cons]
      · have later : key ∈ rest.map Prod.fst := by
          simpa only [List.map_cons, List.mem_cons, Ne.symm same, false_or] using present
        simp only [insertIn, same, ↓reduceIte, List.map_cons, ih later]

theorem insertIn_append {key : String} (value : α) {front : List (String × α)}
    (absent : key ∉ front.map Prod.fst) (rest : List (String × α)) :
    insertIn key value (front ++ rest) = front ++ insertIn key value rest := by
  induction front with
  | nil => rfl
  | cons entry front ih =>
      simp only [List.map_cons, List.mem_cons, not_or] at absent
      simp only [List.cons_append, insertIn, Ne.symm absent.1, ↓reduceIte, ih absent.2]

theorem insertIn_of_not_mem {key : String} (value : α) {entries : List (String × α)}
    (absent : key ∉ entries.map Prod.fst) :
    insertIn key value entries = entries ++ [(key, value)] := by
  have atEnd := insertIn_append value absent []
  rwa [List.append_nil] at atEnd

/-- A key that is set again takes the new value where it is. -/
theorem insertIn_of_mem {key : String} (value : α) {entries : List (String × α)}
    (distinct : (entries.map Prod.fst).Nodup) (present : key ∈ entries.map Prod.fst) :
    insertIn key value entries =
      entries.map fun entry => (entry.1, if key = entry.1 then value else entry.2) := by
  induction entries with
  | nil => cases present
  | cons entry rest ih =>
      obtain ⟨fresh, later⟩ := List.nodup_cons.mp distinct
      by_cases same : entry.1 = key
      · have kept : rest.map (fun entry => (entry.1, if key = entry.1 then value else entry.2)) =
            rest := by
          refine (List.map_congr_left fun other inside => ?_).trans (List.map_id rest)
          have different : key ≠ other.1 := fun equal =>
            fresh (same.trans equal ▸ List.mem_map_of_mem inside)
          rw [if_neg different, id]
        simp only [insertIn, same, ↓reduceIte, List.map_cons, kept]
      · have below : key ∈ rest.map Prod.fst := by
          simpa only [List.map_cons, List.mem_cons, Ne.symm same, false_or] using present
        simp only [insertIn, same, Ne.symm same, ↓reduceIte, List.map_cons, ih later below]

/-- Setting a key keeps the order of the keys, or adds the key at the end. -/
theorem keys_insert (m : OrderedMap α) (key : String) (value : α) :
    (m.insert key value).keys = if key ∈ m.keys then m.keys else m.keys ++ [key] := by
  unfold keys insert
  split
  · next present => exact keys_insertIn_of_mem value present
  · next absent => simp only [insertIn_of_not_mem value absent, List.map_append, List.map_cons,
      List.map_nil]

theorem keys_prefix_insert (m : OrderedMap α) (key : String) (value : α) :
    m.keys <+: (m.insert key value).keys := by
  rw [keys_insert]
  split
  · exact List.prefix_rfl
  · exact List.prefix_append _ _

theorem nodup_keys_insert {m : OrderedMap α} (distinct : m.keys.Nodup) (key : String)
    (value : α) : (m.insert key value).keys.Nodup := by
  rw [keys_insert]
  split
  · exact distinct
  · next absent =>
    refine List.nodup_append.mpr ⟨distinct, by simp, ?_⟩
    rintro other known new isNew rfl
    exact absent (List.mem_singleton.mp isNew ▸ known)

theorem mem_insertIn {key : String} {value : α} {entries : List (String × α)}
    {entry : String × α} (inside : entry ∈ insertIn key value entries) :
    entry = (key, value) ∨ entry ∈ entries := by
  induction entries with
  | nil => exact .inl (List.mem_singleton.mp inside)
  | cons first rest ih =>
      by_cases same : first.1 = key
      · simp only [insertIn, same, ↓reduceIte, List.mem_cons] at inside
        exact inside.imp_right (List.mem_cons_of_mem first)
      · simp only [insertIn, same, ↓reduceIte, List.mem_cons] at inside
        rcases inside with rfl | later
        · exact .inr List.mem_cons_self
        · exact (ih later).imp_right (List.mem_cons_of_mem first)

/-- What holds of every entry that is put in holds of all of them. -/
theorem forall_entries_insert {P : String → α → Prop} {m : OrderedMap α} {key : String}
    {value : α} (known : ∀ entry ∈ m.entries, P entry.1 entry.2) (new : P key value) :
    ∀ entry ∈ (m.insert key value).entries, P entry.1 entry.2 := by
  intro entry inside
  rcases mem_insertIn inside with rfl | old
  · exact new
  · exact known entry old

/-- Keys that are set again in their order keep their places. -/
theorem foldl_insert_entries (front old later : List (String × α))
    (distinct : ((front ++ later).map Prod.fst).Nodup)
    (begun : old.map Prod.fst <+: later.map Prod.fst) :
    (later.foldl (fun acc pair => acc.insert pair.1 pair.2) ⟨front ++ old⟩ : OrderedMap α) =
      ⟨front ++ later⟩ := by
  induction later generalizing front old with
  | nil =>
      have none : old = [] := List.map_eq_nil_iff.mp (List.prefix_nil.mp begun)
      rw [none, List.foldl_nil]
  | cons entry later ih =>
      have absent : entry.1 ∉ front.map Prod.fst := by
        intro known
        rw [List.map_append, List.nodup_append] at distinct
        exact distinct.2.2 _ known _ (by simp) rfl
      have step (old' : List (String × α)) (next : insertIn entry.1 entry.2 old = entry :: old')
          (begun' : old'.map Prod.fst <+: later.map Prod.fst) :
          ((entry :: later).foldl (fun acc pair => acc.insert pair.1 pair.2) ⟨front ++ old⟩ :
            OrderedMap α) = ⟨front ++ entry :: later⟩ := by
        have rest := ih (front ++ [entry]) old' (by simpa using distinct) begun'
        rw [List.foldl_cons, insert, insertIn_append entry.2 absent, next]
        simpa only [List.append_assoc, List.singleton_append] using rest
      cases old with
      | nil => exact step [] rfl List.nil_prefix
      | cons known old =>
          rw [List.map_cons, List.map_cons, List.cons_prefix_cons] at begun
          exact step old (by rw [insertIn, if_pos begun.1]) begun.2

theorem update_eq_of_keys_begun {m other : OrderedMap α} (distinct : other.keys.Nodup)
    (begun : m.keys <+: other.keys) : m.update other = other := by
  have all := foldl_insert_entries [] m.entries other.entries distinct begun
  simpa only [update, List.nil_append] using all

end TuiTemplate.OrderedMap
