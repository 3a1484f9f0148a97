import MetricAggregation.Proofs.Datapoint
import MetricAggregation.Proofs.Engine.Isolation
import MetricAggregation.Proofs.Names

/-!
Which metrics an engine has. A metric is there from the first update that is accepted for it; a gauge is
there while values of it wait, in the order of their arrival.
-/

namespace MetricAggregation.Engine

variable {α φ μ : Type}

def Held.Present : (kind : MetricKind) → Held α μ kind → Prop
  | .counter, counter => Option.isSome (α := Counter α) counter
  | .timer, timer => Option.isSome (α := Timer α) timer
  | .gauge, values => values ≠ ([] : List α)
  | .meter, meter => Option.isSome (α := Meter α) meter
  | .extension _, metric => Option.isSome (α := μ) metric

def Has (engine : Engine α φ μ) (kind : MetricKind) (key : String) : Prop :=
  Held.Present kind (engine.held kind key)

theorem has_iff_of_agree {kind : MetricKind} {key : String} {left right : Engine α φ μ}
    (same : Agree kind key left right) : left.Has kind key ↔ right.Has kind key := by
  rw [Has, Has, same.held]

theorem mem_metricNames_iff {engine : Engine α φ μ} {name : String} :
    name ∈ engine.metricNames ↔ ∃ kind, engine.Has kind name := by
  have further : (∃ entry ∈ engine.extensions.entries, (entry.2.find? name).isSome) ↔
      ∃ tag, (engine.extension? tag name).isSome := by
    simp only [extension?, Prod.exists, Table.mem_entries_iff]
    apply exists_congr
    intro tag
    cases engine.extensions.find? tag with
    | none => simp
    | some metrics => simp
  have waiting : name ∈ engine.gauges.keys ↔ engine.gauges.valuesOf name ≠ [] := by
    simp [GaugeQueue.keys, GaugeQueue.valuesOf]
  simp only [metricNames, mem_eraseReps, List.mem_mergeSort, List.mem_append, List.mem_flatMap,
    Table.mem_keys_iff, further, waiting]
  constructor
  · rintro ((((counter | timer) | meter) | ⟨tag, metric⟩) | gauge)
    · exact ⟨.counter, counter⟩
    · exact ⟨.timer, timer⟩
    · exact ⟨.meter, meter⟩
    · exact ⟨.extension tag, metric⟩
    · exact ⟨.gauge, gauge⟩
  · rintro ⟨kind, held⟩
    cases kind with
    | counter => exact .inl (.inl (.inl (.inl held)))
    | timer => exact .inl (.inl (.inl (.inr held)))
    | gauge => exact .inr held
    | meter => exact .inl (.inl (.inr held))
    | extension tag => exact .inl (.inr ⟨tag, held⟩)

theorem metricNames_eq_of_has {left right : Engine α φ μ}
    (same : ∀ kind key, left.Has kind key ↔ right.Has kind key) : left.metricNames = right.metricNames := by
  apply List.Pairwise.eq_of_mem_iff (r := (· < ·))
  · exact pairwise_eraseReps_lt _ (pairwise_mergeSort_le id _)
  · exact pairwise_eraseReps_lt _ (pairwise_mergeSort_le id _)
  · intro name
    rw [mem_metricNames_iff, mem_metricNames_iff]
    exact exists_congr fun kind => same kind name

variable [Number α] [MetricFactory φ] [MetricPlugin φ μ α]
variable {kind : MetricKind} {key : String} {engine after : Engine α φ μ}

theorem has_of_takes_own {update : Update α} (takes : engine.Takes update after)
    (own : update.target = (kind, key)) : after.Has kind key := by
  cases takes with
  | count name value rate =>
      cases own
      change ((engine.counters.upsert key _).find? key).isSome
      rw [Table.find?_upsert, if_pos rfl]
      rfl
  | duration name value =>
      cases own
      change ((engine.timers.upsert key _).find? key).isSome
      rw [Table.find?_upsert, if_pos rfl]
      rfl
  | gauge name value =>
      cases own
      change (engine.gauges.push key value).valuesOf key ≠ []
      simp [valuesOf_push]
  | events name number =>
      cases own
      change ((engine.meters.upsert key _).find? key).isSome
      rw [Table.find?_upsert, if_pos rfl]
      rfl
  | @further tag name fields metric changed found processed =>
      cases own
      change ((engine.putExtension tag key changed).extension? tag key).isSome
      rw [extension?_putExtension, if_pos ⟨rfl, rfl⟩]
      rfl

theorem has_takes_iff {update : Update α} (takes : engine.Takes update after) :
    after.Has kind key ↔ engine.Has kind key ∨ update.target = (kind, key) := by
  by_cases own : update.target = (kind, key)
  · exact iff_of_true (has_of_takes_own takes own) (.inr own)
  · rw [has_iff_of_agree (agree_of_takes_other takes own), or_iff_left own]

theorem has_absorbs_iff {updates : List (Update α)} (absorbed : engine.Absorbs updates after) :
    after.Has kind key ↔ engine.Has kind key ∨ ∃ update ∈ updates, update.target = (kind, key) := by
  induction absorbed with
  | refl => simp
  | unseen same _ ih => rw [ih, has_iff_of_agree (.of_bare same)]
  | take takes _ ih => rw [ih, has_takes_iff takes, or_assoc, List.exists_mem_cons_iff]

omit [MetricFactory φ] [MetricPlugin φ μ α] in
theorem has_tickMeters_iff : engine.tickMeters.Has kind key ↔ engine.Has kind key := by
  cases kind with
  | meter =>
      change ((engine.meters.map Meter.tick).find? key).isSome ↔ (engine.meters.find? key).isSome
      rw [Table.find?_map, Option.isSome_map]
  | counter | timer | gauge | extension => exact Iff.rfl

/-- No flush brings a metric, and only gauges are gone after it. -/
theorem has_flush_iff (interval : Duration) (percent : Nat) :
    (engine.flush interval percent).2.Has kind key ↔ engine.Has kind key ∧ kind ≠ .gauge := by
  cases kind with
  | counter =>
      change ((engine.counters.map _).find? key).isSome ↔ (engine.counters.find? key).isSome ∧ _
      simp
  | timer =>
      change ((engine.timers.map _).find? key).isSome ↔ (engine.timers.find? key).isSome ∧ _
      simp
  | gauge =>
      change ([] : List α) ≠ [] ↔ _
      simp
  | meter => exact (and_iff_left nofun).symm
  | extension tag =>
      change ((engine.flush interval percent).2.extension? tag key).isSome ↔
        (engine.extension? tag key).isSome ∧ _
      simp [extension?_flush]

theorem has_step_iff_of_unflushed {step : Step α}
    (unflushed : ∀ interval percent, step ≠ .flush interval percent) :
    (engine.step step).2.Has kind key ↔
      engine.Has kind key ∨ ∃ update ∈ engine.accepted step, update.target = (kind, key) := by
  rcases engine.step_cases step with
    ⟨_, absorbed⟩ | rfl | ⟨interval, percent, rfl⟩ | ⟨seconds, rfl⟩
  · exact has_absorbs_iff absorbed
  · have kept : (engine.step .tick).2.Has kind key ↔ engine.Has kind key := has_tickMeters_iff
    simp [accepted, kept]
  · exact absurd rfl (unflushed interval percent)
  · have kept : (engine.step (.setWallClock seconds)).2.Has kind key ↔ engine.Has kind key := by
      cases kind <;> exact Iff.rfl
    simp [accepted, kept]

theorem has_step_iff (lasting : kind ≠ .gauge) (step : Step α) :
    (engine.step step).2.Has kind key ↔
      engine.Has kind key ∨ ∃ update ∈ engine.accepted step, update.target = (kind, key) := by
  by_cases flush : ∃ interval percent, step = .flush interval percent
  · obtain ⟨interval, percent, rfl⟩ := flush
    have kept : (engine.step (.flush interval percent)).2.Has kind key ↔ engine.Has kind key ∧ _ :=
      has_flush_iff interval percent
    simp [accepted, kept, lasting]
  · exact has_step_iff_of_unflushed fun interval percent same => flush ⟨interval, percent, same⟩

theorem has_or_accepted_of_step {step : Step α} (has : (engine.step step).2.Has kind key) :
    engine.Has kind key ∨ ∃ update ∈ engine.accepted step, update.target = (kind, key) := by
  by_cases flush : ∃ interval percent, step = .flush interval percent
  · obtain ⟨interval, percent, rfl⟩ := flush
    exact .inl ((has_flush_iff interval percent).mp has).1
  · exact (has_step_iff_of_unflushed fun interval percent same => flush ⟨interval, percent, same⟩).mp has

/-- After a run, the metrics of the lasting kinds are those from before and those that updates were
accepted for. -/
theorem has_run_iff (lasting : kind ≠ .gauge) (steps : List (Step α)) : ∀ engine : Engine α φ μ,
    (engine.run steps).2.Has kind key ↔
      engine.Has kind key ∨ ∃ update ∈ engine.acceptedIn steps, update.target = (kind, key) := by
  induction steps with
  | nil => exact fun _ => by simp [run, acceptedIn]
  | cons first rest ih =>
      intro engine
      change ((engine.step first).2.run rest).2.Has kind key ↔ _
      rw [ih, has_step_iff lasting, or_assoc, acceptedIn]
      simp only [List.mem_append, or_and_right, exists_or]

theorem pending_absorbs {updates : List (Update α)} (absorbed : engine.Absorbs updates after) :
    after.gauges.pending.toList = engine.gauges.pending.toList ++ updates.filterMap Update.waiting? := by
  induction absorbed with
  | refl => simp
  | @unseen before middle after updates same rest ih =>
      have gauges : middle.gauges = before.gauges := congrArg (fun engine => engine.gauges) same
      rw [ih, gauges]
  | @take before middle after update updates takes rest ih =>
      rw [ih]
      cases takes with
      | gauge key value =>
          simp [pushGauge, GaugeQueue.push, Update.waiting?]
      | count | duration | events | further => rfl

theorem pending_step (engine : Engine α φ μ) {step : Step α}
    (unflushed : ∀ interval percent, step ≠ .flush interval percent) :
    (engine.step step).2.gauges.pending.toList =
      engine.gauges.pending.toList ++ (engine.accepted step).filterMap Update.waiting? := by
  rcases engine.step_cases step with ⟨_, absorbed⟩ | rfl | ⟨interval, percent, flush⟩ | ⟨seconds, rfl⟩
  · exact pending_absorbs absorbed
  · exact (List.append_nil _).symm
  · exact absurd flush (unflushed interval percent)
  · exact (List.append_nil _).symm

/-- The gauge values that wait after a run are those accepted since the last flush, in the order of arrival. -/
theorem pending_run_since (steps : List (Step α)) : ∀ (engine : Engine α φ μ) (before : List (Update α)),
    engine.gauges.pending.toList = before.filterMap Update.waiting? →
      (engine.run steps).2.gauges.pending.toList =
        (engine.acceptedSince before steps).filterMap Update.waiting? := by
  refine since_run (fun _ _ _ => rfl) (fun engine before step unflushed waiting => ?_) steps
  rw [engine.pending_step unflushed, waiting, List.filterMap_append]

end MetricAggregation.Engine
