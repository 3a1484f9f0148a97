import MetricAggregation.Table

/-!
What a table holds under a name after every value was changed, and what one name contributes to a list
that is made of all entries.
-/

namespace MetricAggregation.Table

variable {β γ : Type}

@[simp] theorem find?_empty (name : String) : (empty : Table β).find? name = none := rfl

theorem mem_keys_iff {table : Table β} {name : String} :
    name ∈ table.keys ↔ (table.find? name).isSome := by
  unfold keys find?
  rw [List.lookup_isSome_iff, List.mem_map]
  constructor
  · rintro ⟨entry, member, rfl⟩
    exact ⟨entry, member, BEq.rfl⟩
  · rintro ⟨entry, member, hit⟩
    exact ⟨entry, member, (beq_iff_eq.mp hit).symm⟩

theorem mem_entries_iff {table : Table β} {name : String} {value : β} :
    (name, value) ∈ table.entries ↔ table.find? name = some value := by
  obtain ⟨entries, nodup⟩ := table
  change (name, value) ∈ entries ↔ entries.lookup name = some value
  induction entries with
  | nil => simp
  | cons entry rest ih =>
      obtain ⟨other, found⟩ := entry
      rw [List.map_cons, List.nodup_cons] at nodup
      by_cases hit : name = other
      · subst other
        have absent : (name, value) ∉ rest := fun member =>
          nodup.1 (List.mem_map.mpr ⟨_, member, rfl⟩)
        simp [absent, eq_comm]
      · have miss : (name == other) = false := by simpa using hit
        simp [List.lookup_cons, hit, miss, ih nodup.2]

theorem isSome_find?_of_mem {table : Table β} {name : String} {value : β}
    (entry : (name, value) ∈ table.entries) : (table.find? name).isSome :=
  Option.isSome_of_eq_some (mem_entries_iff.mp entry)

theorem lookup_mapEntries (change : String → β → γ) (name : String) : ∀ entries : List (String × β),
    (entries.map fun entry => (entry.1, change entry.1 entry.2)).lookup name =
      (entries.lookup name).map (change name) := by
  intro entries
  induction entries with
  | nil => rfl
  | cons entry rest ih =>
      obtain ⟨other, value⟩ := entry
      by_cases hit : name = other
      · subst other
        simp
      · have miss : (name == other) = false := by simpa using hit
        simp [List.lookup_cons, miss, ih]

@[simp] theorem find?_mapKeyed (table : Table β) (change : String → β → γ) (name : String) :
    (table.mapKeyed change).find? name = (table.find? name).map (change name) :=
  lookup_mapEntries change name table.entries

@[simp] theorem find?_map (table : Table β) (change : β → γ) (name : String) :
    (table.map change).find? name = (table.find? name).map change :=
  find?_mapKeyed table (fun _ => change) name

theorem flatMap_eq_nil_of_absent (contribution : String × β → List γ) (name : String)
    (others : ∀ entry : String × β, entry.1 ≠ name → contribution entry = []) :
    ∀ entries : List (String × β), name ∉ entries.map Prod.fst → entries.flatMap contribution = [] := by
  intro entries absent
  rw [List.flatMap_eq_nil_iff]
  intro entry member
  apply others
  intro same
  exact absent (List.mem_map.mpr ⟨entry, member, same⟩)

/-- If only the entry of one name contributes to a list, the list is its contribution. -/
theorem flatMap_entries_eq (table : Table β) (name : String) (contribution : String × β → List γ)
    (others : ∀ entry : String × β, entry.1 ≠ name → contribution entry = []) :
    table.entries.flatMap contribution =
      ((table.find? name).map fun value => contribution (name, value)).getD [] := by
  obtain ⟨entries, nodup⟩ := table
  change entries.flatMap contribution =
    ((entries.lookup name).map fun value => contribution (name, value)).getD []
  induction entries with
  | nil => rfl
  | cons entry rest ih =>
      obtain ⟨other, value⟩ := entry
      rw [List.map_cons, List.nodup_cons] at nodup
      by_cases hit : name = other
      · subst other
        simp [flatMap_eq_nil_of_absent contribution name others rest nodup.1]
      · have miss : (name == other) = false := by simpa using hit
        rw [List.flatMap_cons, others (other, value) (Ne.symm hit), List.nil_append, ih nodup.2,
          List.lookup_cons, miss]

theorem flatMap_filter (keep : β → Bool) (contribution : β → List γ) : ∀ entries : List β,
    (entries.filter keep).flatMap contribution =
      entries.flatMap fun entry => if keep entry then contribution entry else [] := by
  intro entries
  induction entries with
  | nil => rfl
  | cons entry rest ih =>
      by_cases kept : keep entry
      · simp [kept, ih]
      · simp [kept, ih]

end MetricAggregation.Table
