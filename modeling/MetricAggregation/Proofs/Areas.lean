import MetricAggregation.Engine.State
import MetricAggregation.Proofs.Engine.Attribution
import MetricAggregation.Proofs.Paths

/-!
Where the kinds of metrics report with the default stems. Every kind has an area of its own in the tree of
paths, but that the rates of counters stand right under the stem of all of them.
-/

namespace MetricAggregation

/-- The default stems, with any policy. -/
def Settings.withPolicy (policy : ReservoirPolicy) : Settings := { Settings.default with policy := policy }

/-- What the paths in the areas begin with. The last one is for what an engine reports of its own work. -/
def areas : List String :=
  ["stats_counts.", "stats.timers.", "stats.gauge.", "stats.meter.", "stats.pdistinct.", "stats.SLI.", "statsd."]

theorem take_append_of_mem_areas {area : String} (known : area ∈ areas) (rest : String) :
    (area ++ rest).toList.take 7 = area.toList.take 7 := by
  have long : ∀ area ∈ areas, 7 ≤ area.toList.length := by decide
  rw [String.toList_append, List.take_append_of_le_length (long area known)]

/-- No area lies within another. -/
theorem area_eq_of_append_eq {left right leftRest rightRest : String} (leftKnown : left ∈ areas)
    (rightKnown : right ∈ areas) (same : left ++ leftRest = right ++ rightRest) : left = right := by
  have told : ∀ left ∈ areas, ∀ right ∈ areas,
      left.toList.take 7 = right.toList.take 7 → left = right := by decide
  apply told left leftKnown right rightKnown
  rw [← take_append_of_mem_areas leftKnown leftRest, same, take_append_of_mem_areas rightKnown]

theorem rate_ne_of_outside {area : String} (outside : area ∈ ["stats_counts.", "statsd."])
    (key rest : String) : "stats." ++ key ≠ area ++ rest := by
  have told : ∀ area ∈ ["stats_counts.", "statsd."],
      6 ≤ area.toList.length ∧ area.toList.take 6 ≠ "stats.".toList := by decide
  obtain ⟨long, apart⟩ := told area outside
  intro same
  have start := congrArg (fun text => text.toList.take 6) same
  simp only [String.toList_append, List.take_append_of_le_length long] at start
  exact apart start.symm

/-- The area of a kind of which every statistic has a name under the key. -/
def MetricKind.area? : MetricKind → Option String
  | .timer => some "stats.timers."
  | .meter => some "stats.meter."
  | .extension tag =>
    if tag = "pd" then some "stats.pdistinct." else if tag = "sli" then some "stats.SLI." else none
  | .counter => none
  | .gauge => none

theorem MetricKind.area?_cases {kind : MetricKind} {area : String} (known : kind.area? = some area) :
    (kind = .timer ∧ area = "stats.timers.") ∨ (kind = .meter ∧ area = "stats.meter.") ∨
      (kind = .extension "pd" ∧ area = "stats.pdistinct.") ∨ (kind = .extension "sli" ∧ area = "stats.SLI.") := by
  cases kind with
  | timer => exact .inl ⟨rfl, (Option.some.inj known).symm⟩
  | meter => exact .inr (.inl ⟨rfl, (Option.some.inj known).symm⟩)
  | extension tag =>
      simp only [area?] at known
      split at known
      · rename_i distinct
        exact .inr (.inr (.inl ⟨congrArg _ distinct, (Option.some.inj known).symm⟩))
      · split at known
        · rename_i service
          exact .inr (.inr (.inr ⟨congrArg _ service, (Option.some.inj known).symm⟩))
        · cases known
  | counter => cases known
  | gauge => cases known

theorem MetricKind.area?_ne {kind : MetricKind} {area : String}
    (outside : area ∈ ["stats_counts.", "stats.gauge.", "statsd."]) : kind.area? ≠ some area := by
  intro known
  rcases area?_cases known with ⟨_, rfl⟩ | ⟨_, rfl⟩ | ⟨_, rfl⟩ | ⟨_, rfl⟩
  all_goals exact absurd outside (by decide)

theorem path_address (policy : ReservoirPolicy) {factory stem : String} (joined : joinPath "stats" factory = stem)
    (key : String) : ((Settings.withPolicy policy).address factory key).path = joinPath stem key := by
  change joinPath (joinPath "stats" factory) key = _
  rw [joined]

namespace Origin

/-- The statistic of a name, of a metric in the area of its kind. -/
def named (kind : MetricKind) (area key name : String) : Origin :=
  ⟨kind, key, match kind with
    | .extension _ => area ++ (separated key ++ name)
    | .counter | .timer | .gauge | .meter => name⟩

/-- What an engine with the standard metric types reports of its metrics. -/
inductive Regular : Origin → Prop
  | rate (key : String) : Regular ⟨.counter, key, "rate"⟩
  | count (key : String) : Regular ⟨.counter, key, "count"⟩
  | value (key : String) : Regular ⟨.gauge, key, "value"⟩
  | named {kind : MetricKind} {area : String} (known : kind.area? = some area) (key : String)
      {name : String} (plain : IsUndotted name) : Regular (named kind area key name)

/-- The rate of a counter whose key is the path of another metric beneath the stem of all. -/
structure Spells (one other : Origin) : Prop where
  kind : one.kind = .counter
  statistic : one.statistic = "rate"
  apart : other.kind ≠ .counter
  spelled : "stats." ++ one.key = other.path .default

/-- How it comes that two datapoints of a flush share a path: they are values of one gauge, or the same
statistic of two metrics with twin keys, or the key of a counter spells out the path of the other one. -/
inductive Shares (one other : Origin) : Prop
  | values (gauge : one.kind = .gauge) (same : one = other)
  | twins {kind : MetricKind} {area key otherKey name : String} (known : kind.area? = some area)
      (twins : Key.Twins key otherKey) (first : one = named kind area key name)
      (second : other = named kind area otherKey name)
  | spelling (spells : one.Spells other)
  | spelled (spells : other.Spells one)

theorem Shares.symm {one other : Origin} (shares : Shares one other) : Shares other one := by
  cases shares with
  | values gauge same => exact .values (same ▸ gauge) same.symm
  | twins known twins first second => exact .twins known twins.symm second first
  | spelling spells => exact .spelled spells
  | spelled spells => exact .spelling spells

section Paths

theorem path_rate (key : String) : path .default ⟨.counter, key, "rate"⟩ = "stats." ++ key :=
  joinPath_eq "stats" key

theorem path_count (key : String) : path .default ⟨.counter, key, "count"⟩ = "stats_counts." ++ key :=
  joinPath_eq "stats_counts" key

theorem path_value (key : String) :
    path .default ⟨.gauge, key, "value"⟩ = "stats.gauge." ++ (key ++ ".value") := by
  change joinPath "stats.gauge" key ++ ".value" = _
  rw [joinPath_eq, String.append_assoc]
  rfl

theorem path_named {kind : MetricKind} {area : String} (known : kind.area? = some area) (key name : String) :
    path .default (named kind area key name) = area ++ (separated key ++ name) := by
  rcases MetricKind.area?_cases known with ⟨rfl, rfl⟩ | ⟨rfl, rfl⟩ | ⟨rfl, rfl⟩ | ⟨rfl, rfl⟩
  · exact joinPath_joinPath_eq "stats.timers" key name (by decide)
  · exact joinPath_joinPath_eq "stats.meter" key name (by decide)
  · rfl
  · rfl

theorem mem_areas_of_area? {kind : MetricKind} {area : String} (known : kind.area? = some area) :
    area ∈ areas := by
  rcases MetricKind.area?_cases known with ⟨rfl, rfl⟩ | ⟨rfl, rfl⟩ | ⟨rfl, rfl⟩ | ⟨rfl, rfl⟩
  all_goals decide

/-- Two kinds never have one area. -/
theorem kind_eq_of_area? {left right : MetricKind} {area : String} (leftKnown : left.area? = some area)
    (rightKnown : right.area? = some area) : left = right := by
  rcases MetricKind.area?_cases leftKnown with ⟨rfl, rfl⟩ | ⟨rfl, rfl⟩ | ⟨rfl, rfl⟩ | ⟨rfl, rfl⟩
  all_goals
    rcases MetricKind.area?_cases rightKnown with ⟨rfl, same⟩ | ⟨rfl, same⟩ | ⟨rfl, same⟩ | ⟨rfl, same⟩
    all_goals first | rfl | exact absurd same (by decide)

end Paths

section Sharing

variable {one other : Origin}

theorem path_eq_of_spells (spells : one.Spells other) : one.path .default = other.path .default := by
  obtain ⟨kind, key, statistic⟩ := one
  obtain ⟨rfl, rfl, _, spelled⟩ := spells
  exact (path_rate key).trans spelled

theorem path_eq_of_shares (shares : one.Shares other) : one.path .default = other.path .default := by
  cases shares with
  | values _ same => rw [same]
  | twins known twins first second =>
      rw [first, second, path_named known, path_named known, separated_eq_iff.mpr (.inr twins)]
  | spelling spells => exact path_eq_of_spells spells
  | spelled spells => exact (path_eq_of_spells spells).symm

theorem spells_of_path_eq {key : String} (regular : other.Regular) (apart : ⟨.counter, key, "rate"⟩ ≠ other)
    (same : path .default ⟨.counter, key, "rate"⟩ = other.path .default) :
    Spells ⟨.counter, key, "rate"⟩ other := by
  rw [path_rate] at same
  cases regular with
  | rate otherKey =>
      rw [path_rate, String.append_right_inj] at same
      subst same
      exact absurd rfl apart
  | count otherKey =>
      rw [path_count] at same
      exact absurd same (rate_ne_of_outside (by decide) _ _)
  | value otherKey => exact ⟨rfl, rfl, nofun, same⟩
  | named known otherKey plain =>
      refine ⟨rfl, rfl, ?_, same⟩
      rintro rfl
      cases known

theorem shares_of_path_eq_named {kind : MetricKind} {area key name : String} (known : kind.area? = some area)
    (plain : IsUndotted name) (regular : other.Regular) (apart : named kind area key name ≠ other)
    (same : path .default (named kind area key name) = other.path .default) :
    Shares (named kind area key name) other := by
  cases regular with
  | rate otherKey => exact .spelled (spells_of_path_eq (.named known key plain) apart.symm same.symm)
  | count otherKey =>
      rw [path_named known, path_count] at same
      obtain rfl := area_eq_of_append_eq (mem_areas_of_area? known) (by decide) same
      exact absurd known (MetricKind.area?_ne (by decide))
  | value otherKey =>
      rw [path_named known, path_value] at same
      obtain rfl := area_eq_of_append_eq (mem_areas_of_area? known) (by decide) same
      exact absurd known (MetricKind.area?_ne (by decide))
  | @named otherKind otherArea otherKnown otherKey otherName otherPlain =>
      rw [path_named known, path_named otherKnown] at same
      obtain rfl := area_eq_of_append_eq (mem_areas_of_area? known) (mem_areas_of_area? otherKnown) same
      obtain rfl := kind_eq_of_area? known otherKnown
      rw [String.append_right_inj, append_eq_append_iff_of_undotted (isSeparated_separated _)
        (isSeparated_separated _) plain otherPlain, separated_eq_iff] at same
      obtain ⟨rfl | twins, rfl⟩ := same
      · exact absurd rfl apart
      · exact .twins known twins rfl rfl

/-- Two datapoints of different origins share a path just if the origins say so. -/
theorem shares_of_path_eq (first : one.Regular) (second : other.Regular)
    (apart : one = other → one.kind = .gauge) (same : one.path .default = other.path .default) :
    one.Shares other := by
  by_cases equal : one = other
  · exact .values (apart equal) equal
  · cases first with
    | rate key => exact .spelling (spells_of_path_eq second equal same)
    | named known key plain => exact shares_of_path_eq_named known plain second equal same
    | count key =>
        cases second with
        | rate otherKey => exact .spelled (spells_of_path_eq (.count key) (Ne.symm equal) same.symm)
        | named known otherKey plain =>
            exact (shares_of_path_eq_named known plain (.count key) (Ne.symm equal) same.symm).symm
        | count otherKey =>
            rw [path_count, path_count, String.append_right_inj] at same
            exact absurd (congrArg (fun key => (⟨.counter, key, "count"⟩ : Origin)) same) equal
        | value otherKey =>
            rw [path_count, path_value] at same
            exact absurd (area_eq_of_append_eq (by decide) (by decide) same) (by decide)
    | value key =>
        cases second with
        | rate otherKey => exact .spelled (spells_of_path_eq (.value key) (Ne.symm equal) same.symm)
        | named known otherKey plain =>
            exact (shares_of_path_eq_named known plain (.value key) (Ne.symm equal) same.symm).symm
        | count otherKey =>
            rw [path_count, path_value] at same
            exact absurd (area_eq_of_append_eq (by decide) (by decide) same) (by decide)
        | value otherKey =>
            rw [path_value, path_value, String.append_right_inj, String.append_left_inj] at same
            exact absurd (congrArg (fun key => (⟨.gauge, key, "value"⟩ : Origin)) same) equal

theorem path_ne_of_internal (regular : one.Regular) (rest : String) : one.path .default ≠ "statsd." ++ rest := by
  intro same
  cases regular with
  | rate key =>
      rw [path_rate] at same
      exact rate_ne_of_outside (by decide) _ _ same
  | count key =>
      rw [path_count] at same
      exact absurd (area_eq_of_append_eq (by decide) (by decide) same) (by decide)
  | value key =>
      rw [path_value] at same
      exact absurd (area_eq_of_append_eq (by decide) (by decide) same) (by decide)
  | named known key plain =>
      rw [path_named known] at same
      obtain rfl := area_eq_of_append_eq (mem_areas_of_area? known) (by decide) same
      exact MetricKind.area?_ne (by decide) known

end Sharing

end Origin

end MetricAggregation
