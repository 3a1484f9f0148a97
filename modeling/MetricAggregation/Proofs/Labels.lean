import Mathlib.Data.List.Basic
import Mathlib.Data.List.Induction
import MetricAggregation.Proofs.RuleTexts

/-!
The labels of service level rules are words. The conditions that rules give to a metric have each of the labels once, in
the order in which the labels first come, and with the condition that comes last.
-/

namespace MetricAggregation

section Reading

theorem RuleShape.isWord_label {text : List Char} {shape : RuleShape} (parsed : parse? text = some shape) :
    ∀ char ∈ shape.label, Text.isWord char := (parse?_eq_some_iff.mp parsed).1.label.2

variable {α : Type} [Number α]

theorem Rule.isWord_label {line : Nat} {text : List Char} {rule : Rule α}
    (parsed : parse line text = .ok rule) : ∀ char ∈ rule.label.toList, Text.isWord char := by
  unfold parse at parsed
  split at parsed
  · cases parsed
  · rename_i shape found
    obtain ⟨condition, _, rfl⟩ := Except.map_eq_ok_iff.mp parsed
    rw [String.toList_ofList]
    exact RuleShape.isWord_label found

theorem Rule.isWord_label_parseAll {text : String} {rules : List (Rule α)}
    (parsed : parseAll text = .ok rules) :
    ∀ rule ∈ rules, ∀ char ∈ rule.label.toList, Text.isWord char := by
  intro rule member
  have among : .ok rule ∈ (ruleLines text).map (parse 0) := parseAll_eq_ok_iff.mp parsed 0 ▸ List.mem_map_of_mem member
  obtain ⟨line, _, read⟩ := List.mem_map.mp among
  exact isWord_label read

end Reading

namespace Conditions

variable {α : Type}

theorem set_eq_upsertEntries (conditions : Conditions α) (label : String) (condition : Condition α) :
    conditions.set label condition = Table.upsertEntries label (fun _ => condition) conditions := by
  induction conditions with
  | nil => rfl
  | cons first rest ih =>
      obtain ⟨other, old⟩ := first
      by_cases same : other = label
      · simp [set, Table.upsertEntries, same]
      · simp [set, Table.upsertEntries, same, ih]

/-- A label that is not set yet comes last. -/
theorem map_fst_set (conditions : Conditions α) (label : String) (condition : Condition α) :
    (conditions.set label condition).map Prod.fst =
      if label ∈ conditions.map Prod.fst then conditions.map Prod.fst else conditions.map Prod.fst ++ [label] := by
  induction conditions with
  | nil => rfl
  | cons first rest ih =>
      obtain ⟨other, old⟩ := first
      by_cases same : other = label
      · simp [set, same]
      · simp only [set, if_neg same, List.map_cons, ih, List.mem_cons, Ne.symm same, false_or]
        split
        · rfl
        · rfl

/-- What rules settle, taken one after the other: each of their labels once, in the order in which the labels first
came, with the condition that came last. -/
structure Settled (rules : List (Rule α)) (conditions : Conditions α) : Prop where
  nodup : (conditions.map Prod.fst).Nodup
  listed {label : String} : label ∈ conditions.map Prod.fst ↔ label ∈ rules.map Rule.label
  ordered : (conditions.map Prod.fst).Pairwise fun earlier later =>
    (rules.map Rule.label).idxOf earlier < (rules.map Rule.label).idxOf later
  last (label : String) :
    conditions.lookup label = ((rules.filter fun rule => rule.label = label).getLast?).map Rule.condition

theorem settled_nil : Settled ([] : List (Rule α)) [] := ⟨.nil, by simp, .nil, fun _ => rfl⟩

theorem Settled.set {rules : List (Rule α)} {conditions : Conditions α} (settled : Settled rules conditions)
    (rule : Rule α) : Settled (rules ++ [rule]) (conditions.set rule.label rule.condition) where
  nodup := by
    rw [set_eq_upsertEntries]
    exact Table.nodup_keys_upsertEntries _ _ _ settled.nodup
  listed := by
    intro label
    rw [set_eq_upsertEntries, Table.mem_keys_upsertEntries, settled.listed, List.map_append, List.mem_append,
      List.map_singleton, List.mem_singleton, or_comm]
  ordered := by
    have kept : (conditions.map Prod.fst).Pairwise fun earlier later =>
        ((rules ++ [rule]).map Rule.label).idxOf earlier < ((rules ++ [rule]).map Rule.label).idxOf later := by
      refine settled.ordered.imp_of_mem fun earlier later before => ?_
      rw [List.map_append, List.idxOf_append_of_mem (settled.listed.mp earlier),
        List.idxOf_append_of_mem (settled.listed.mp later)]
      exact before
    -- A label that is there keeps its place; a fresh one comes last, and its first rule is the new one.
    rw [map_fst_set]
    split
    · exact kept
    · rename_i fresh
      refine List.pairwise_append.mpr ⟨kept, List.pairwise_singleton _ _, fun earlier member later own => ?_⟩
      obtain rfl := List.mem_singleton.mp own
      have known := settled.listed.mp member
      rw [List.map_append, List.idxOf_append_of_mem known, List.idxOf_append_of_notMem (mt settled.listed.mpr fresh)]
      exact Nat.lt_add_right _ (List.idxOf_lt_length_of_mem known)
  last := by
    intro label
    rw [set_eq_upsertEntries, Table.lookup_upsertEntries, List.filter_append, settled.last]
    by_cases own : label = rule.label
    · rw [if_pos own, List.filter_cons_of_pos (by simp [own]), List.filter_nil, List.getLast?_concat]
      rfl
    · rw [if_neg own, List.filter_cons_of_neg (by simp [Ne.symm own]), List.filter_nil, List.append_nil]

variable (isMatch : String → String → Bool)

theorem settled_ofMatching (rules : List (Rule α)) (path : String) :
    Settled (rules.filter fun rule => isMatch rule.pattern path) (ofMatching isMatch rules path) := by
  unfold ofMatching
  generalize rules.filter (fun rule => isMatch rule.pattern path) = chosen
  induction chosen using List.reverseRecOn with
  | nil => exact settled_nil
  | append_singleton chosen rule ih =>
      rw [List.foldl_concat]
      exact ih.set rule

theorem ofMatching_filter (rules : List (Rule α)) (path : String) :
    ofMatching isMatch (rules.filter fun rule => isMatch rule.pattern path) path =
      ofMatching isMatch rules path := by
  simp only [ofMatching, List.filter_filter, Bool.and_self]

theorem label_of_mem_ofRules {rules : List (Rule α)} {path label : String}
    (member : label ∈ (ofRules rules path).map Prod.fst) : ∃ rule ∈ rules, rule.label = label := by
  obtain ⟨rule, chosen, same⟩ := List.mem_map.mp ((settled_ofMatching globMatches rules path).listed.mp member)
  exact ⟨rule, (List.mem_filter.mp chosen).1, same⟩

/-- Of rules with one label only the last one counts, so that no label comes twice. -/
theorem nodup_labels_ofRules (rules : List (Rule α)) (path : String) :
    ((ofRules rules path).map Prod.fst).Nodup := (settled_ofMatching globMatches rules path).nodup

end Conditions

/-- Whatever way patterns are matched with paths, the conditions of the metric at a path are those of the rules that
match the path: each of their labels once, in the order of the first of them with that label, with the condition of the
last of them with that label. All other rules can be left out. A factory takes patterns as globs. -/
theorem IndicatorFactory.conditionsFor_settled {α : Type} (factory : IndicatorFactory α)
    (isMatch : String → String → Bool) (path : String) :
    let matching := factory.rules.filter fun rule => isMatch rule.pattern path
    let conditions := Conditions.ofMatching isMatch factory.rules path
    let labels := conditions.map Prod.fst
    labels.Nodup ∧ (∀ label, label ∈ labels ↔ ∃ rule ∈ matching, rule.label = label) ∧
      (labels.Pairwise fun earlier later =>
        (matching.map Rule.label).idxOf earlier < (matching.map Rule.label).idxOf later) ∧
      (∀ label, conditions.lookup label =
        ((matching.filter fun rule => rule.label = label).getLast?).map Rule.condition) ∧
      Conditions.ofMatching isMatch matching path = conditions ∧
      factory.conditionsFor path = Conditions.ofMatching globMatches factory.rules path := by
  intro matching conditions labels
  have settled : Conditions.Settled matching conditions := Conditions.settled_ofMatching isMatch factory.rules path
  refine ⟨settled.nodup, fun label => ?_, settled.ordered, settled.last,
    Conditions.ofMatching_filter isMatch factory.rules path, rfl⟩
  rw [settled.listed, List.mem_map]

end MetricAggregation
