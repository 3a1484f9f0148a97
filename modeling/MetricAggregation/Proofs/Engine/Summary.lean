import Mathlib.Data.List.Nodup
import Mathlib.Data.String.Basic
import MetricAggregation.Proofs.Engine.Reception
import MetricAggregation.Proofs.Paths
import MetricAggregation.Proofs.Table

/-!
What the report of an engine on its own work says, path by path. No path is reported twice, so the count of
received messages of a tag can be looked up.
-/

namespace MetricAggregation

theorem mem_sorted_iff {stats : ReceiveStats} {tag : String} {tally : Tally} :
    (tag, tally) ∈ stats.sorted ↔ stats.find? tag = some tally := by
  rw [ReceiveStats.sorted, List.mem_mergeSort, Table.mem_entries_iff, ReceiveStats.find?]

theorem nodup_tallyPaths {paths : List String} (nodup : paths.Nodup) :
    (paths.flatMap fun path => [path ++ ".count", path ++ ".duration"]).Nodup := by
  have parts (path : String) : [path ++ ".count", path ++ ".duration"] =
      ["count", "duration"].map fun name => path ++ "." ++ name := by
    simp [String.append_assoc]
  have plain : ∀ name ∈ ["count", "duration"], IsUndotted name := by decide
  simp only [parts, List.nodup_flatMap]
  refine ⟨?_, nodup.imp ?_⟩
  · intro path _
    refine List.Nodup.map_on ?_ (by decide)
    intro name member other otherMember same
    exact ((append_part_inj (plain name member) (plain other otherMember)).mp same).2
  · intro left right different text first second
    obtain ⟨name, member, rfl⟩ := List.mem_map.mp first
    obtain ⟨other, otherMember, same⟩ := List.mem_map.mp second
    exact different ((append_part_inj (plain other otherMember) (plain name member)).mp same).1.symm

/-- Where an engine reports how many messages of a tag it received. -/
def receivedPath (settings : Settings) (tag : String) : String :=
  joinPath settings.internalStem ("receive." ++ tag) ++ ".count"

namespace Engine

variable {α φ μ : Type} [Number α] {engine : Engine α φ μ}

/-- What an engine reports its own work under: the kinds, and the tags of the messages that it received. -/
def tallied (engine : Engine α φ μ) : List String :=
  FlushKind.all.map (fun kind => "flush." ++ kind.name) ++
    engine.received.sorted.map fun entry => "receive." ++ entry.1

theorem path_summary (stats : FlushStats) (timestamp : Nat) :
    (engine.summary stats timestamp).map Datapoint.path =
      joinPath engine.settings.internalStem "numStats" ::
        (engine.tallied.map (joinPath engine.settings.internalStem)).flatMap
          fun path => [path ++ ".count", path ++ ".duration"] := by
  simp [summary, tallied, tallyPoints, List.map_flatMap, List.flatMap_map]

theorem receive_ne_flush (tag : String) (kind : FlushKind) : "receive." ++ tag ≠ "flush." ++ kind.name := by
  intro same
  have letter := congrArg (fun text => text.toList.head?) same
  simp at letter

theorem numStats_ne {stem root : String} {suffix : String} (known : suffix ∈ [".count", ".duration"]) :
    joinPath stem "numStats" ≠ root ++ suffix := by
  have apart (name : String) (plain : IsUndotted name)
      (same : joinPath stem "numStats" = root ++ ("." ++ name)) : "numStats" = name := by
    rw [joinPath_eq, ← String.append_assoc] at same
    exact ((append_eq_append_iff_of_undotted (isSeparated_separated _) (.inr (by simp)) (by decide)
      plain).mp same).2
  simp only [List.mem_cons, List.not_mem_nil, or_false] at known
  intro same
  rcases known with rfl | rfl
  · exact absurd (apart "count" (by decide) same) (by decide)
  · exact absurd (apart "duration" (by decide) same) (by decide)

theorem nodup_path_summary (stats : FlushStats) (timestamp : Nat) :
    ((engine.summary stats timestamp).map Datapoint.path).Nodup := by
  have tags : (engine.received.sorted.map Prod.fst).Nodup :=
    ((List.mergeSort_perm _ _).map Prod.fst).nodup_iff.mpr engine.received.byTag.keysNodup
  have tallied : engine.tallied.Nodup := by
    rw [Engine.tallied, List.nodup_append]
    refine ⟨by decide, ?_, ?_⟩
    · have received := tags.map fun left right (same : "receive." ++ left = "receive." ++ right) =>
        (String.append_right_inj _).mp same
      rwa [List.map_map] at received
    · rintro flushed member received other rfl
      obtain ⟨entry, _, same⟩ := List.mem_map.mp other
      obtain ⟨kind, _, rfl⟩ := List.mem_map.mp member
      exact receive_ne_flush entry.1 kind same
  rw [path_summary, List.nodup_cons]
  refine ⟨?_, nodup_tallyPaths (tallied.map fun _ _ => joinPath_inj.mp)⟩
  intro member
  obtain ⟨root, _, last⟩ := List.mem_flatMap.mp member
  obtain ⟨suffix, known, same⟩ : ∃ suffix ∈ [".count", ".duration"],
      joinPath engine.settings.internalStem "numStats" = root ++ suffix := by simpa using last
  exact numStats_ne known same

/-- What a datapoint of the summary can be: the number of metrics, or a count or duration that belongs to a
kind of metrics or to a tag that messages were received with. -/
theorem mem_summary_cases (engine : Engine α φ μ) (timestamp : Nat) {stats : FlushStats}
    {point : Datapoint α} (member : point ∈ engine.summary stats timestamp) :
    point.timestamp = timestamp ∧
      (point.path = joinPath engine.settings.internalStem "numStats" ∨
        ∃ name suffix, ((∃ kind : FlushKind, name = "flush." ++ kind.name) ∨
            ∃ tag, (engine.receivedCount tag).isSome ∧ name = "receive." ++ tag) ∧
          suffix ∈ [".count", ".duration"] ∧
            point.path = joinPath engine.settings.internalStem name ++ suffix) := by
  have tallied {path : String} {tally : Tally} (given : point ∈ tallyPoints path tally timestamp) :
      point.timestamp = timestamp ∧ ∃ suffix ∈ [".count", ".duration"], point.path = path ++ suffix := by
    simp only [tallyPoints, List.mem_cons, List.not_mem_nil, or_false] at given
    rcases given with rfl | rfl
    · exact ⟨rfl, ".count", by simp, rfl⟩
    · exact ⟨rfl, ".duration", by simp, rfl⟩
  simp only [summary, List.mem_append, List.mem_cons, List.mem_flatMap] at member
  rcases member with (rfl | ⟨kind, _, given⟩) | ⟨⟨tag, tally⟩, entry, given⟩
  · exact ⟨rfl, .inl rfl⟩
  · obtain ⟨time, suffix, known, path⟩ := tallied given
    exact ⟨time, .inr ⟨_, suffix, .inl ⟨kind, rfl⟩, known, path⟩⟩
  · obtain ⟨time, suffix, known, path⟩ := tallied given
    have found : engine.received.find? tag = some tally := mem_sorted_iff.mp entry
    have counted : (engine.receivedCount tag).isSome := by rw [receivedCount, found]; rfl
    exact ⟨time, .inr ⟨_, suffix, .inr ⟨tag, counted, rfl⟩, known, path⟩⟩

/-- The summary has one count for every tag that messages were received with since the last flush, and none
for another tag. -/
theorem filter_received_summary (stats : FlushStats) (timestamp : Nat) (tag : String) :
    (engine.summary stats timestamp).filter (fun point => point.path = receivedPath engine.settings tag) =
      (engine.receivedCount tag).toList.map fun count =>
        ⟨receivedPath engine.settings tag, (count : α), timestamp⟩ := by
  cases found : engine.received.find? tag with
  | none =>
      have unseen : engine.receivedCount tag = none := by rw [receivedCount, found]; rfl
      rw [unseen, Option.toList_none, List.map_nil, List.filter_eq_nil_iff]
      -- A path of the summary has this form only for a tag that was received with.
      intro point member own
      have path : point.path = joinPath engine.settings.internalStem ("receive." ++ tag) ++ ".count" :=
        of_decide_eq_true own
      rcases (engine.mem_summary_cases timestamp member).2 with number | ⟨name, suffix, named, known, tally⟩
      · exact numStats_ne (by simp) (number.symm.trans path)
      · have same : name = "receive." ++ tag := by
          have parts := path.symm.trans tally
          simp only [List.mem_cons, List.not_mem_nil, or_false] at known
          rcases known with rfl | rfl
          · exact (joinPath_inj.mp ((String.append_left_inj _).mp parts)).symm
          · have cut : joinPath engine.settings.internalStem ("receive." ++ tag) ++ "." ++ "count" =
                joinPath engine.settings.internalStem name ++ "." ++ "duration" := by
              rw [String.append_assoc, String.append_assoc]
              exact parts
            exact absurd ((append_part_inj (by decide) (by decide)).mp cut).2 (by decide)
        rcases named with ⟨kind, flushed⟩ | ⟨other, seen, received⟩
        · exact receive_ne_flush tag kind (same.symm.trans flushed)
        · rw [(String.append_right_inj _).mp (received.symm.trans same), unseen] at seen
          exact Bool.false_ne_true seen
  | some tally =>
      have seen : engine.receivedCount tag = some tally.count := by rw [receivedCount, found]; rfl
      have member : (⟨receivedPath engine.settings tag, (tally.count : α), timestamp⟩ : Datapoint α) ∈
          engine.summary stats timestamp := by
        refine List.mem_append_right _ (List.mem_flatMap.mpr ⟨(tag, tally), mem_sorted_iff.mpr found, ?_⟩)
        exact List.mem_cons_self
      rw [seen]
      exact filter_eq_singleton_of_nodup (engine.nodup_path_summary stats timestamp) member

end Engine

end MetricAggregation
