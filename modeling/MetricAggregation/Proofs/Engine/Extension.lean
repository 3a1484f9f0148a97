import MetricAggregation.Proofs.Engine.Update
import MetricAggregation.Proofs.Table

/-!
The metrics of further types in an engine: which of them a step touches, and what holds of all of them
because it holds of new ones and is kept by messages and flushes.
-/

namespace MetricAggregation.Engine

variable {α φ μ : Type}

theorem extension?_putExtension (engine : Engine α φ μ) (tag key : String) (metric : μ)
    (otherTag otherKey : String) :
    (engine.putExtension tag key metric).extension? otherTag otherKey =
      if otherTag = tag ∧ otherKey = key then some metric
      else engine.extension? otherTag otherKey := by
  simp only [extension?, putExtension, Table.find?_upsert]
  by_cases sameTag : otherTag = tag
  · subst otherTag
    simp only [if_true, Option.bind_some, Table.find?_insert, true_and]
    cases engine.extensions.find? tag with
    | none => simp
    | some metrics => simp
  · simp [sameTag]

variable [Number α] [MetricFactory φ] [MetricPlugin φ μ α]

theorem extension?_flush (engine : Engine α φ μ) (interval : Duration) (percent : Nat)
    (tag key : String) :
    (engine.flush interval percent).2.extension? tag key =
      (engine.extension? tag key).map fun metric =>
        (engine.flushExtension (interval.seconds α) (Number.floorNat engine.wallClock) tag key
          metric).value.2 := by
  change (((engine.extensions.mapKeyed fun tag metrics => metrics.mapKeyed
    (engine.flushExtension (interval.seconds α) (Number.floorNat engine.wallClock) tag)).map
      fun metrics => metrics.map fun report => report.value.2).find? tag).bind _ = _
  rw [Table.find?_map, Table.find?_mapKeyed, extension?]
  cases engine.extensions.find? tag with
  | none => rfl
  | some metrics =>
      simp only [Option.map_some, Option.bind_some, Table.find?_map, Table.find?_mapKeyed,
        Option.map_map]
      rfl

omit [Number α] in
theorem extensionFor_cases {engine : Engine α φ μ} {tag key : String} {metric : μ}
    (found : engine.extensionFor tag key = .ok metric) :
    engine.extension? tag key = some metric ∨
      engine.extension? tag key = none ∧ ∃ factory, engine.plugins.find? tag = some factory ∧
        metric = MetricPlugin.build factory (engine.settings.address (MetricFactory.name factory) key)
          engine.wallClock (engine.chance.boxes tag key) := by
  unfold extensionFor at found
  cases present : engine.extension? tag key with
  | some old =>
      simp only [present, Except.ok.injEq] at found
      exact .inl (congrArg some found)
  | none =>
      cases registered : engine.plugins.find? tag with
      | none => simp [present, registered] at found
      | some factory =>
          simp only [present, registered, Except.ok.injEq] at found
          exact .inr ⟨rfl, factory, rfl, found.symm⟩

/-- A property of metrics, by their tags, that new metrics of registered types have and that no metric
loses by a message or a flush. -/
structure Lasting (plugins : Registry φ) (property : String → μ → Prop) : Prop where
  build {tag : String} {factory : φ} (address : Address) (now : α) (boxes : Nat → SBox) :
    plugins.find? tag = some factory → property tag (MetricPlugin.build factory address now boxes)
  process {tag : String} {metric changed : μ} {now : α} {fields : Fields} :
    (MetricPlugin.process φ metric now fields).value = .ok changed →
      property tag metric → property tag changed
  flush {tag : String} {metric : μ} (address : Address) (now seconds : α) (timestamp : Nat) :
    property tag metric →
      property tag (MetricPlugin.flush φ metric address now seconds timestamp).value.2

/-- An engine has these factories, and all its metrics of further types have a property. -/
def AllExtensions (plugins : Registry φ) (property : String → μ → Prop) (engine : Engine α φ μ) : Prop :=
  engine.plugins = plugins ∧
    ∀ tag key metric, engine.extension? tag key = some metric → property tag metric

omit [Number α] in
theorem Lasting.extensionFor {plugins : Registry φ} {property : String → μ → Prop}
    (lasting : Lasting (α := α) plugins property) {engine : Engine α φ μ}
    (all : engine.AllExtensions plugins property) {tag key : String} {metric : μ}
    (found : engine.extensionFor tag key = .ok metric) : property tag metric := by
  rcases extensionFor_cases found with present | ⟨_, factory, registered, rfl⟩
  · exact all.2 tag key metric present
  · rw [all.1] at registered
    exact lasting.build _ _ _ registered

theorem Lasting.invariant {plugins : Registry φ} {property : String → μ → Prop}
    (lasting : Lasting (α := α) plugins property) :
    Invariant (AllExtensions (α := α) plugins property) where
  bare := by
    intro left right same all
    have extensions : right.extensions = left.extensions := congrArg (fun e => e.extensions) same
    have factories : right.plugins = left.plugins := congrArg (fun e => e.plugins) same
    refine ⟨factories.trans all.1, ?_⟩
    intro tag key metric found
    apply all.2 tag key metric
    rwa [extension?, extensions] at found
  takes := by
    intro engine after update takes all
    cases takes with
    | count | duration | gauge | events => exact all
    | further found processed =>
        refine ⟨all.1, ?_⟩
        intro tag key metric present
        rw [extension?_putExtension] at present
        split at present
        · rename_i own
          obtain ⟨rfl, rfl⟩ := own
          cases present
          exact lasting.process processed (lasting.extensionFor all found)
        · exact all.2 tag key metric present
  tick := id
  flush := by
    intro engine interval percent all
    refine ⟨all.1, ?_⟩
    intro tag key metric present
    rw [extension?_flush, Option.map_eq_some_iff] at present
    obtain ⟨old, found, rfl⟩ := present
    exact lasting.flush _ _ _ _ (all.2 tag key old found)
  setWallClock := by
    intro engine seconds all
    exact all

omit [Number α] [MetricFactory φ] [MetricPlugin φ μ α] in
theorem allExtensions_new (settings : Settings) (chance : Chance α) (plugins : Registry φ) (now : α)
    (property : String → μ → Prop) :
    (Engine.new settings chance plugins now : Engine α φ μ).AllExtensions plugins property := by
  refine ⟨rfl, ?_⟩
  intro tag key metric found
  cases found

end MetricAggregation.Engine
