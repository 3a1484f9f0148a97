/-!
Tables of values by name. Every name has one entry; the order of the entries says nothing.
-/

namespace MetricAggregation

/-- A table of values by name. -/
structure Table (β : Type) where
  entries : List (String × β)
  keysNodup : (entries.map Prod.fst).Nodup

namespace Table

variable {β γ : Type}

def empty : Table β := ⟨[], .nil⟩

instance : Inhabited (Table β) := ⟨empty⟩

def keys (table : Table β) : List String := table.entries.map Prod.fst

def size (table : Table β) : Nat := table.entries.length

/-- The value under a name, if there is one. -/
def find? (table : Table β) (key : String) : Option β := table.entries.lookup key

def contains (table : Table β) (key : String) : Bool := (table.find? key).isSome

/-- Replaces the value of a name in a list of entries, or adds an entry for it. -/
def upsertEntries (key : String) (change : Option β → β) : List (String × β) → List (String × β)
  | [] => [(key, change none)]
  | (name, value) :: rest =>
    if name = key then (name, change (some value)) :: rest
    else (name, value) :: upsertEntries key change rest

theorem mem_keys_upsertEntries (key : String) (change : Option β → β) (name : String) :
    ∀ entries : List (String × β),
      name ∈ (upsertEntries key change entries).map Prod.fst ↔
        name = key ∨ name ∈ entries.map Prod.fst := by
  intro entries
  induction entries with
  | nil => simp [upsertEntries]
  | cons entry rest ih =>
      obtain ⟨other, value⟩ := entry
      by_cases same : other = key
      · subst other
        simp [upsertEntries]
      · simp only [upsertEntries, if_neg same, List.map_cons, List.mem_cons, ih]
        exact or_left_comm

theorem nodup_keys_upsertEntries (key : String) (change : Option β → β) :
    ∀ entries : List (String × β), (entries.map Prod.fst).Nodup →
      ((upsertEntries key change entries).map Prod.fst).Nodup := by
  intro entries nodup
  induction entries with
  | nil => simp [upsertEntries]
  | cons entry rest ih =>
      obtain ⟨name, value⟩ := entry
      rw [List.map_cons, List.nodup_cons] at nodup
      by_cases same : name = key
      · simpa [upsertEntries, same] using nodup
      · simp only [upsertEntries, if_neg same, List.map_cons, List.nodup_cons,
          mem_keys_upsertEntries, not_or]
        exact ⟨⟨same, nodup.1⟩, ih nodup.2⟩

/-- Sets the value under a name to one that may depend on the value before. -/
def upsert (table : Table β) (key : String) (change : Option β → β) : Table β :=
  ⟨upsertEntries key change table.entries,
    nodup_keys_upsertEntries key change table.entries table.keysNodup⟩

def insert (table : Table β) (key : String) (value : β) : Table β := table.upsert key fun _ => value

/-- Changes every value, by its name. -/
def mapKeyed (table : Table β) (change : String → β → γ) : Table γ :=
  ⟨table.entries.map fun entry => (entry.1, change entry.1 entry.2), by
    simpa [Function.comp_def] using table.keysNodup⟩

def map (table : Table β) (change : β → γ) : Table γ := table.mapKeyed fun _ => change

def values (table : Table β) : List β := table.entries.map Prod.snd

theorem lookup_upsertEntries (key : String) (change : Option β → β) (name : String) :
    ∀ entries : List (String × β),
      (upsertEntries key change entries).lookup name =
        if name = key then some (change (entries.lookup key)) else entries.lookup name := by
  intro entries
  induction entries with
  | nil =>
      by_cases hit : name = key
      · simp [upsertEntries, hit]
      · have miss : (name == key) = false := by simpa using hit
        simp [upsertEntries, List.lookup_cons, hit, miss]
  | cons entry rest ih =>
      obtain ⟨other, value⟩ := entry
      by_cases same : other = key
      · subst other
        by_cases hit : name = key
        · simp [upsertEntries, hit]
        · have miss : (name == key) = false := by simpa using hit
          simp [upsertEntries, List.lookup_cons, hit, miss]
      · by_cases hit : name = other
        · subst name
          simp [upsertEntries, same]
        · have miss : (name == other) = false := by simpa using hit
          have missed : (key == other) = false := by simpa using Ne.symm same
          simp [upsertEntries, same, List.lookup_cons, ih, miss, missed]

/-- A name that was set has its new value, and every other name what it had. -/
theorem find?_upsert (table : Table β) (key : String) (change : Option β → β) (name : String) :
    (table.upsert key change).find? name =
      if name = key then some (change (table.find? key)) else table.find? name :=
  lookup_upsertEntries key change name table.entries

theorem find?_insert (table : Table β) (key : String) (value : β) (name : String) :
    (table.insert key value).find? name = if name = key then some value else table.find? name :=
  find?_upsert table key (fun _ => value) name

end Table

end MetricAggregation
