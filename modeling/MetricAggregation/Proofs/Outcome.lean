/-!
When a computation that may fail gives a result, and when one that goes through a list does.
-/

namespace Except

variable {ε β γ : Type}

@[simp] theorem map_eq_ok_iff {outcome : Except ε β} {change : β → γ} {result : γ} :
    outcome.map change = .ok result ↔ ∃ value, outcome = .ok value ∧ change value = result := by
  cases outcome with
  | error _ => simp [Except.map]
  | ok value => simp [Except.map]

@[simp] theorem bind_eq_ok_iff {outcome : Except ε β} {next : β → Except ε γ} {result : γ} :
    outcome >>= next = .ok result ↔ ∃ value, outcome = .ok value ∧ next value = .ok result := by
  cases outcome with
  | error _ => simp [bind, Except.bind]
  | ok value => simp [bind, Except.bind]

@[simp] theorem pure_eq_ok_iff {value result : β} :
    (pure value : Except ε β) = .ok result ↔ value = result := by
  simp [pure, Except.pure]

theorem isOk_iff {outcome : Except ε β} : outcome.isOk ↔ ∃ value, outcome = .ok value := by
  cases outcome with
  | error _ => simp [Except.isOk, Except.toBool]
  | ok value => simp [Except.isOk, Except.toBool]

theorem map_eq_error_iff {outcome : Except ε β} {change : β → γ} {reason : ε} :
    outcome.map change = .error reason ↔ outcome = .error reason := by
  cases outcome with
  | error _ => simp [Except.map]
  | ok value => simp [Except.map]

/-- Every entry gives its result, in order. -/
theorem mapM_eq_ok_iff {read : β → Except ε γ} {entries : List β} {results : List γ} :
    entries.mapM read = .ok results ↔ entries.map read = results.map .ok := by
  induction entries generalizing results with
  | nil =>
      rw [List.mapM_nil, pure_eq_ok_iff, List.map_nil]
      exact ⟨fun none => none ▸ rfl, fun none => (List.map_eq_nil_iff.mp none.symm).symm⟩
  | cons first rest ih =>
      simp only [List.mapM_cons, bind_eq_ok_iff, pure_eq_ok_iff]
      constructor
      · rintro ⟨result, read, others, followed, rfl⟩
        rw [List.map_cons, List.map_cons, read, ih.mp followed]
      · intro same
        cases results with
        | nil => cases same
        | cons result others =>
            obtain ⟨read, followed⟩ := List.cons.inj same
            exact ⟨result, read, others, ih.mpr followed, rfl⟩

/-- The first entry that gives no result decides the error. -/
theorem mapM_eq_error_iff {read : β → Except ε γ} {entries : List β} {reason : ε} :
    entries.mapM read = .error reason ↔
      ∃ before entry after, entries = before ++ entry :: after ∧
        (∀ earlier ∈ before, ∃ result, read earlier = .ok result) ∧ read entry = .error reason := by
  constructor
  · intro failed
    induction entries with
    | nil => cases failed
    | cons first rest ih =>
        rw [List.mapM_cons] at failed
        cases outcome : read first with
        | error other =>
            rw [outcome] at failed
            obtain rfl : other = reason := Except.error.inj failed
            exact ⟨[], first, rest, rfl, nofun, outcome⟩
        | ok result =>
            cases followed : rest.mapM read with
            | ok others =>
                rw [outcome, followed] at failed
                cases failed
            | error other =>
                rw [outcome, followed] at failed
                obtain rfl : other = reason := Except.error.inj failed
                obtain ⟨before, entry, after, rfl, fine, refused⟩ := ih followed
                exact ⟨first :: before, entry, after, rfl, List.forall_mem_cons.mpr ⟨⟨result, outcome⟩, fine⟩, refused⟩
  · rintro ⟨before, entry, after, rfl, fine, refused⟩
    induction before with
    | nil =>
        rw [List.nil_append, List.mapM_cons, refused]
        rfl
    | cons first rest ih =>
        obtain ⟨⟨result, read⟩, others⟩ := List.forall_mem_cons.mp fine
        rw [List.cons_append, List.mapM_cons, read, ih others]
        rfl

end Except

namespace Option

variable {β γ : Type} {read : β → Option γ} {entries : List β}

theorem mapM_eq_some_iff {results : List γ} :
    entries.mapM read = some results ↔ entries.map read = results.map some := by
  induction entries generalizing results with
  | nil =>
      rw [List.mapM_nil, List.map_nil, eq_comm (a := ([] : List (Option γ))), List.map_eq_nil_iff]
      exact ⟨fun none => (Option.some.inj none).symm, fun none => none ▸ rfl⟩
  | cons first rest ih =>
      simp only [List.mapM_cons, Option.bind_eq_bind, Option.bind_eq_some_iff, Option.pure_def, Option.some.injEq]
      constructor
      · rintro ⟨result, read, others, followed, rfl⟩
        rw [List.map_cons, List.map_cons, read, ih.mp followed]
      · intro same
        cases results with
        | nil => cases same
        | cons result others =>
            obtain ⟨read, followed⟩ := List.cons.inj same
            exact ⟨result, read, others, ih.mpr followed, rfl⟩

theorem mapM_eq_none_iff : entries.mapM read = none ↔ ∃ entry ∈ entries, read entry = none := by
  induction entries with
  | nil => simp
  | cons first rest ih =>
      simp only [List.mapM_cons, List.mem_cons, exists_eq_or_imp, ← ih]
      cases read first with
      | none => simp
      | some result => cases rest.mapM read <;> simp

end Option
