import MetricAggregation.Double.Number
import MetricAggregation.Proofs.Outcome
import MetricAggregation.Proofs.Trimming
import MetricAggregation.ServiceLevel.Rule

/-!
The grammar of service level rules. A line has the shape of a rule in at most one way; it is read by that shape, or
refused for the reason that the grammar has.
-/

namespace MetricAggregation

namespace RuleShape

/-- A text is written in the shape of a rule, with these parts. What follows the name of the condition does not go on
with the name. -/
structure Spells (shape : RuleShape) (text : List Char) : Prop where
  written : text = shape.pattern ++ (" => ".toList ++ (shape.label ++ (" IF ".toList ++
    (shape.condition ++ shape.parameters))))
  pattern : shape.pattern ≠ [] ∧ ∀ char ∈ shape.pattern, isPatternChar char = true
  label : shape.label ≠ [] ∧ ∀ char ∈ shape.label, Text.isWord char = true
  condition : shape.condition ≠ [] ∧ ∀ char ∈ shape.condition, Text.isWord char = true
  ended : ∀ char ∈ shape.parameters.head?, Text.isWord char = false

theorem behind?_eq_some_iff {mark text rest : List Char} : behind? mark text = some rest ↔ text = mark ++ rest := by
  unfold behind?
  constructor
  · intro found
    split at found
    · rename_i started
      obtain ⟨after, rfl⟩ := List.isPrefixOf_iff_prefix.mp started
      rw [List.drop_left] at found
      rw [Option.some.inj found]
    · cases found
  · rintro rfl
    rw [if_pos (List.isPrefixOf_iff_prefix.mpr (List.prefix_append mark rest)), List.drop_left]

theorem leading?_eq_some_iff {inClass : Char → Bool} {text start rest : List Char} :
    leading? inClass text = some (start, rest) ↔ text = start ++ rest ∧
      (start ≠ [] ∧ ∀ char ∈ start, inClass char = true) ∧ ∀ char ∈ rest.head?, inClass char = false := by
  unfold leading?
  dsimp only
  constructor
  · intro found
    split at found
    · cases found
    · rename_i filled
      cases found
      obtain ⟨stops, _⟩ := Text.dropWhile_eq_iff.mp (rfl : text.dropWhile inClass = _)
      have within : ∀ char ∈ text.takeWhile inClass, inClass char = true := fun _ => List.mem_takeWhile_imp
      exact ⟨List.takeWhile_append_dropWhile.symm, ⟨mt List.isEmpty_iff.mpr filled, within⟩, stops⟩
  · rintro ⟨rfl, ⟨filled, all⟩, stops⟩
    have behind : (start ++ rest).dropWhile inClass = rest := Text.dropWhile_eq_iff.mpr ⟨stops, start, rfl, all⟩
    have before : (start ++ rest).takeWhile inClass = start := by
      rw [← List.append_left_inj rest]
      have whole := List.takeWhile_append_dropWhile (p := inClass) (l := start ++ rest)
      rwa [behind] at whole
    rw [before, behind, if_neg (mt List.isEmpty_iff.mp filled)]

theorem not_isPatternChar_space : isPatternChar ' ' = false := by
  decide +kernel

theorem not_isWord_space : Text.isWord ' ' = false := by
  decide +kernel

theorem parse?_eq_some_iff {text : List Char} {shape : RuleShape} :
    parse? text = some shape ↔ shape.Spells text ∧ '\n' ∉ shape.parameters := by
  simp only [parse?, Option.bind_eq_bind, Option.bind_eq_some_iff, Prod.exists, leading?_eq_some_iff,
    behind?_eq_some_iff]
  constructor
  · rintro ⟨pattern, _, ⟨rfl, named, _⟩, _, rfl, label, _, ⟨rfl, labelled, _⟩, _, rfl, condition, parameters,
      ⟨rfl, known, ended⟩, oneLine⟩
    split at oneLine
    · cases oneLine
    · cases oneLine
      exact ⟨⟨rfl, named, labelled, known, ended⟩, ‹_›⟩
  · rintro ⟨⟨rfl, named, labelled, known, ended⟩, oneLine⟩
    refine ⟨_, _, ⟨rfl, named, ?_⟩, _, rfl, _, _, ⟨rfl, labelled, ?_⟩, _, rfl, _, _, ⟨rfl, known, ended⟩,
      if_neg oneLine⟩
    -- Each mark starts with a space, which no part before it can take in: the longest start is the only one.
    · rintro _ ⟨⟩
      exact not_isPatternChar_space
    · rintro _ ⟨⟩
      exact not_isWord_space

theorem Spells.parse?_eq {text : List Char} {shape : RuleShape} (spells : shape.Spells text) (oneLine : '\n' ∉ text) :
    parse? text = some shape := by
  refine parse?_eq_some_iff.mpr ⟨spells, fun inside => oneLine ?_⟩
  rw [spells.written]
  simp only [List.mem_append, inside, or_true]

theorem parse?_eq_none_iff {text : List Char} (oneLine : '\n' ∉ text) :
    parse? text = none ↔ ∀ shape : RuleShape, ¬shape.Spells text := by
  constructor
  · intro shapeless shape spells
    rw [spells.parse?_eq oneLine] at shapeless
    cases shapeless
  · intro shapeless
    cases found : parse? text with
    | none => rfl
    | some shape => exact absurd (parse?_eq_some_iff.mp found).1 (shapeless shape)

end RuleShape

section Conditions

variable {α : Type} [Number α]

namespace Condition

/-- What a name and some numbers stand for. A threshold without a slope does not grow. -/
inductive Takes : List Char → List α → Condition α → Prop
  | flatBelow (value : α) : Takes "below".toList [value] (.below value 0)
  | below (value slope : α) : Takes "below".toList [value, slope] (.below value slope)
  | flatAbove (value : α) : Takes "above".toList [value] (.above value 0)
  | above (value slope : α) : Takes "above".toList [value, slope] (.above value slope)
  | between (low high : α) : Takes "between".toList [low, high] (.between low high)

def names : List (List Char) := ["below".toList, "above".toList, "between".toList]

/-- The condition with a name takes another number of parameters. -/
def Misfits (name : List Char) (count : Nat) : Prop :=
  (name = "below".toList ∨ name = "above".toList) ∧ count ≠ 1 ∧ count ≠ 2 ∨ name = "between".toList ∧ count ≠ 2

/-- What the name of a condition is read as with the text behind it, or why the two are refused. -/
inductive Reads (line : Nat) (name parameters : List Char) : Except ConfigError (Condition α) → Prop
  | condition {numbers : List α} {condition : Condition α} :
      (Text.blankSeparated parameters).map Number.parse? = numbers.map some → Takes name numbers condition →
      Reads line name parameters (.ok condition)
  | notNumber {part : List Char} : part ∈ Text.blankSeparated parameters → (Number.parse? part : Option α) = none →
      Reads line name parameters
        (.error (.invalidParameters line (String.ofList name) (String.ofList (Text.trim parameters))))
  | misfit : Misfits name (Text.blankSeparated parameters).length →
      Reads line name parameters
        (.error (.invalidParameters line (String.ofList name) (String.ofList (Text.trim parameters))))
  | unknown : (∀ part ∈ Text.blankSeparated parameters, (Number.parse? part : Option α) ≠ none) → name ∉ names →
      Reads line name parameters (.error (.unknownCondition line (String.ofList name)))

variable {line : Nat} {name parameters : List Char} {numbers : List α}

theorem Takes.ofParameters_eq {condition : Condition α} (takes : Takes name numbers condition) :
    ofParameters line name parameters numbers = .ok condition := by
  cases takes <;> rfl

theorem Misfits.ofParameters_eq (misfits : Misfits name numbers.length) :
    ofParameters line name parameters numbers =
      .error (.invalidParameters line (String.ofList name) (String.ofList (Text.trim parameters))) := by
  unfold ofParameters
  rcases misfits with ⟨rfl | rfl, notOne, notTwo⟩ | ⟨rfl, notTwo⟩
  · rw [if_pos rfl]
    split
    · exact absurd rfl notOne
    · exact absurd rfl notTwo
    · rfl
  · rw [if_neg (by decide), if_pos rfl]
    split
    · exact absurd rfl notOne
    · exact absurd rfl notTwo
    · rfl
  · rw [if_neg (by decide), if_neg (by decide), if_pos rfl]
    split
    · exact absurd rfl notTwo
    · rfl

theorem ofParameters_of_unknown (unknown : name ∉ names) :
    ofParameters line name parameters numbers = .error (.unknownCondition line (String.ofList name)) := by
  simp only [names, List.mem_cons, List.not_mem_nil, or_false, not_or] at unknown
  obtain ⟨notBelow, notAbove, notBetween⟩ := unknown
  unfold ofParameters
  rw [if_neg notBelow, if_neg notAbove, if_neg notBetween]

theorem parse_of_numbers (read : (Text.blankSeparated parameters).map Number.parse? = numbers.map some) :
    parse line name parameters = ofParameters line name parameters numbers := by
  rw [parse, Option.mapM_eq_some_iff.mpr read]

theorem Reads.parse_eq {outcome : Except ConfigError (Condition α)} (reads : Reads line name parameters outcome) :
    parse line name parameters = outcome := by
  cases reads with
  | condition read takes => rw [parse_of_numbers read, takes.ofParameters_eq]
  | notNumber member unread => rw [parse, Option.mapM_eq_none_iff.mpr ⟨_, member, unread⟩]
  | misfit misfits =>
      cases read : (Text.blankSeparated parameters).mapM (Number.parse? (α := α)) with
      | none => rw [parse, read]
      | some numbers =>
          have parsed := Option.mapM_eq_some_iff.mp read
          have count := congrArg List.length parsed
          rw [List.length_map, List.length_map] at count
          rw [parse_of_numbers parsed, Misfits.ofParameters_eq (count ▸ misfits)]
  | unknown allNumbers unknown =>
      cases read : (Text.blankSeparated parameters).mapM (Number.parse? (α := α)) with
      | none =>
          obtain ⟨part, member, unread⟩ := Option.mapM_eq_none_iff.mp read
          exact absurd unread (allNumbers part member)
      | some numbers => rw [parse_of_numbers (Option.mapM_eq_some_iff.mp read), ofParameters_of_unknown unknown]

theorem takes_or_misfits (known : name ∈ names) (numbers : List α) :
    (∃ condition, Takes name numbers condition) ∨ Misfits name numbers.length := by
  simp only [names, List.mem_cons, List.not_mem_nil, or_false] at known
  rcases known with rfl | rfl | rfl
  · rcases numbers with _ | ⟨value, _ | ⟨slope, _ | _⟩⟩
    · exact .inr (by simp [Misfits])
    · exact .inl ⟨_, .flatBelow value⟩
    · exact .inl ⟨_, .below value slope⟩
    · exact .inr (by simp [Misfits])
  · rcases numbers with _ | ⟨value, _ | ⟨slope, _ | _⟩⟩
    · exact .inr (by simp [Misfits])
    · exact .inl ⟨_, .flatAbove value⟩
    · exact .inl ⟨_, .above value slope⟩
    · exact .inr (by simp [Misfits])
  · rcases numbers with _ | ⟨low, _ | ⟨high, _ | _⟩⟩
    · exact .inr (by simp [Misfits])
    · exact .inr (by simp [Misfits])
    · exact .inl ⟨_, .between low high⟩
    · exact .inr (by simp [Misfits])

theorem exists_reads (line : Nat) (name parameters : List Char) :
    ∃ outcome : Except ConfigError (Condition α), Reads line name parameters outcome := by
  cases read : (Text.blankSeparated parameters).mapM (Number.parse? (α := α)) with
  | none =>
      obtain ⟨part, member, unread⟩ := Option.mapM_eq_none_iff.mp read
      exact ⟨_, .notNumber member unread⟩
  | some numbers =>
      have parsed := Option.mapM_eq_some_iff.mp read
      by_cases known : name ∈ names
      · rcases takes_or_misfits known numbers with ⟨condition, takes⟩ | misfits
        · exact ⟨_, .condition parsed takes⟩
        · have count := congrArg List.length parsed
          rw [List.length_map, List.length_map] at count
          exact ⟨_, .misfit (count ▸ misfits)⟩
      · have allNumbers : ∀ part ∈ Text.blankSeparated parameters, (Number.parse? part : Option α) ≠ none := by
          intro part member unread
          rw [Option.mapM_eq_none_iff.mpr ⟨part, member, unread⟩] at read
          cases read
        exact ⟨_, .unknown allNumbers known⟩

theorem parse_eq_iff {outcome : Except ConfigError (Condition α)} :
    parse line name parameters = outcome ↔ Reads line name parameters outcome := by
  constructor
  · rintro rfl
    obtain ⟨outcome, reads⟩ := exists_reads (α := α) line name parameters
    rwa [reads.parse_eq]
  · exact Reads.parse_eq

theorem parse_eq_ok_iff {condition : Condition α} :
    parse line name parameters = .ok condition ↔ ∃ numbers : List α,
      (Text.blankSeparated parameters).map Number.parse? = numbers.map some ∧ Takes name numbers condition := by
  rw [parse_eq_iff]
  constructor
  · rintro ⟨read, takes⟩
    exact ⟨_, read, takes⟩
  · rintro ⟨numbers, read, takes⟩
    exact .condition read takes

theorem parse_eq_invalid_iff :
    (parse line name parameters : Except ConfigError (Condition α)) =
        .error (.invalidParameters line (String.ofList name) (String.ofList (Text.trim parameters))) ↔
      (∃ part ∈ Text.blankSeparated parameters, (Number.parse? part : Option α) = none) ∨
        Misfits name (Text.blankSeparated parameters).length := by
  rw [parse_eq_iff]
  constructor
  · intro reads
    cases reads with
    | notNumber member unread => exact .inl ⟨_, member, unread⟩
    | misfit misfits => exact .inr misfits
  · rintro (⟨part, member, unread⟩ | misfits)
    · exact .notNumber member unread
    · exact .misfit misfits

theorem parse_eq_unknown_iff :
    (parse line name parameters : Except ConfigError (Condition α)) =
        .error (.unknownCondition line (String.ofList name)) ↔
      (∀ part ∈ Text.blankSeparated parameters, (Number.parse? part : Option α) ≠ none) ∧ name ∉ names := by
  rw [parse_eq_iff]
  constructor
  · intro reads
    cases reads with
    | unknown allNumbers unknown => exact ⟨allNumbers, unknown⟩
  · rintro ⟨allNumbers, unknown⟩
    exact .unknown allNumbers unknown

theorem parse_ne_malformed (other : Nat) (rule : String) :
    (parse line name parameters : Except ConfigError (Condition α)) ≠ .error (.malformedRule other rule) := by
  intro malformed
  cases parse_eq_iff.mp malformed

end Condition

namespace Rule

variable {text : List Char} (oneLine : '\n' ∉ text) (line : Nat)

include oneLine

theorem parse_of_spells {shape : RuleShape} (spells : shape.Spells text) :
    (parse line text : Except ConfigError (Rule α)) =
      (Condition.parse line shape.condition shape.parameters).map fun condition =>
        ⟨String.ofList shape.pattern, String.ofList shape.label, condition⟩ := by
  rw [parse, spells.parse?_eq oneLine]

theorem parse_eq_malformed_iff :
    (parse line text : Except ConfigError (Rule α)) = .error (.malformedRule line (String.ofList text)) ↔
      ∀ shape : RuleShape, ¬shape.Spells text := by
  rw [← RuleShape.parse?_eq_none_iff oneLine]
  constructor
  · intro malformed
    cases found : RuleShape.parse? text with
    | none => rfl
    | some shape =>
        have spells := (RuleShape.parse?_eq_some_iff.mp found).1
        rw [parse_of_spells oneLine line spells, Except.map_eq_error_iff] at malformed
        exact absurd malformed (Condition.parse_ne_malformed line _)
  · intro shapeless
    rw [parse, shapeless]

/-- A line has the shape of a rule in at most one way. It is malformed exactly if it has it in none, and otherwise the
parts of what stands behind the name of the condition decide: they have to be numbers, as many as the condition takes,
and only then is the name looked at. -/
theorem parse_iff_spells :
    (∀ shape other : RuleShape, shape.Spells text → other.Spells text → shape = other) ∧
      ((parse line text : Except ConfigError (Rule α)) = .error (.malformedRule line (String.ofList text)) ↔
        ∀ shape : RuleShape, ¬shape.Spells text) ∧
      ∀ shape : RuleShape, shape.Spells text →
        let name := shape.condition
        let parts := Text.blankSeparated shape.parameters
        Text.Parts shape.parameters parts ∧
          ((parse line text : Except ConfigError (Rule α)) =
              .error (.invalidParameters line (String.ofList name) (String.ofList (Text.trim shape.parameters))) ↔
            (∃ part ∈ parts, (Number.parse? part : Option α) = none) ∨ Condition.Misfits name parts.length) ∧
          ((parse line text : Except ConfigError (Rule α)) = .error (.unknownCondition line (String.ofList name)) ↔
            (∀ part ∈ parts, (Number.parse? part : Option α) ≠ none) ∧ name ∉ Condition.names) ∧
          ∀ rule : Rule α, parse line text = .ok rule ↔
            rule.pattern = String.ofList shape.pattern ∧ rule.label = String.ofList shape.label ∧
              ∃ numbers : List α, parts.map Number.parse? = numbers.map some ∧
                Condition.Takes name numbers rule.condition := by
  refine ⟨fun shape other spells otherSpells => ?_, parse_eq_malformed_iff oneLine line, fun shape spells => ?_⟩
  · exact Option.some.inj ((spells.parse?_eq oneLine).symm.trans (otherSpells.parse?_eq oneLine))
  · refine ⟨Text.blankSeparated_eq_iff.mp rfl, ?_, ?_, fun rule => ?_⟩
    · rw [parse_of_spells oneLine line spells, Except.map_eq_error_iff, Condition.parse_eq_invalid_iff]
    · rw [parse_of_spells oneLine line spells, Except.map_eq_error_iff, Condition.parse_eq_unknown_iff]
    · simp only [parse_of_spells oneLine line spells, Except.map_eq_ok_iff, Condition.parse_eq_ok_iff]
      constructor
      · rintro ⟨condition, read, rfl⟩
        exact ⟨rfl, rfl, read⟩
      · rintro ⟨pattern, label, read⟩
        exact ⟨rule.condition, read, by rw [← pattern, ← label]⟩

omit oneLine in
/-- The second mark and the second condition are parameters, and so is the number that the name runs into. -/
theorem parse_iff_spells_of_repeatedMarks :
    let text := "web-*.? => fast IF above.5 => x IF 1".toList
    let shape : RuleShape := ⟨"web-*.?".toList, "fast".toList, "above".toList, ".5 => x IF 1".toList⟩
    '\n' ∉ text ∧ shape.Spells text ∧
      (parse 3 text : Except ConfigError (Rule Double)) = .error (.invalidParameters 3 "above" ".5 => x IF 1") := by
  intro text shape
  have oneLine : '\n' ∉ text := by decide
  have spells : shape.Spells text := (RuleShape.parse?_eq_some_iff.mp (by decide +kernel)).1
  have unread : ∃ part ∈ Text.blankSeparated shape.parameters, (Number.parse? part : Option Double) = none :=
    ⟨"=>".toList, by decide, rfl⟩
  exact ⟨oneLine, spells, ((parse_iff_spells oneLine 3).2.2 shape spells).2.1.mpr (.inl unread)⟩

end Rule

end Conditions

end MetricAggregation
