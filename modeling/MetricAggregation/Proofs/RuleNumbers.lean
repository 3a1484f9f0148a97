import MetricAggregation.Proofs.RuleTexts

/-!
The numbers that errors in rules give. Lines that hold nothing are left out before the others are numbered, so an error
gives the place of its line among all lines only if no blank line comes before it.
-/

namespace MetricAggregation

/-- The number that an error gives to a rule, if it is about one. -/
def ConfigError.line? : ConfigError → Option Nat
  | duplicateType _ => none
  | malformedRule line _ => some line
  | unknownCondition line _ => some line
  | invalidParameters line _ _ => some line

section Entries

variable {β : Type} {wanted : β → Bool} {before after : List β} {entry : β}

theorem exists_of_filter_eq_append_cons {entries : List β}
    (kept : entries.filter wanted = before ++ entry :: after) :
    ∃ earlier later, entries = earlier ++ entry :: later ∧ earlier.filter wanted = before ∧ wanted entry := by
  obtain ⟨first, rest, rfl, rfl, others⟩ := List.filter_eq_append_iff.mp kept
  obtain ⟨dropped, later, rfl, unwanted, found, -⟩ := List.filter_eq_cons_iff.mp others
  refine ⟨first ++ dropped, later, (List.append_assoc ..).symm, ?_, found⟩
  rw [List.filter_append, List.filter_eq_nil_iff.mpr unwanted, List.append_nil]

theorem findIdx_append_cons (others : ∀ other ∈ before, wanted other = false) (found : wanted entry) :
    (before ++ entry :: after).findIdx wanted = before.length := by
  rw [List.findIdx_append, List.findIdx_eq_length.mpr others, if_neg (lt_irrefl _), List.findIdx_cons, found,
    cond_true, Nat.zero_add]

end Entries

variable {α : Type} [Number α]

theorem Condition.line?_of_parse_eq_error {line : Nat} {name parameters : List Char} {reason : ConfigError}
    (refused : (parse line name parameters : Except ConfigError (Condition α)) = .error reason) :
    reason.line? = some line := by
  cases parse_eq_iff.mp refused with
  | notNumber _ _ | misfit _ | unknown _ _ => rfl

namespace Rule

theorem line?_of_parse_eq_error {line : Nat} {text : List Char} {reason : ConfigError}
    (refused : (parse line text : Except ConfigError (Rule α)) = .error reason) : reason.line? = some line := by
  unfold parse at refused
  cases shaped : RuleShape.parse? text with
  | none =>
      rw [shaped] at refused
      cases refused
      rfl
  | some shape =>
      rw [shaped] at refused
      exact Condition.line?_of_parse_eq_error (Except.map_eq_error_iff.mp refused)

def holdsSomething (line : List Char) : Bool := !(Text.trim line).isEmpty

variable (α) in
/-- Whether a line holds something that is not a rule. -/
def isRefused (line : List Char) : Bool :=
  holdsSomething line && !(parse 0 (Text.trim line) : Except ConfigError (Rule α)).isOk

variable (α) in
/-- The number of the first line of a text that holds something else than a rule, among all its lines. -/
def firstRefused (text : String) : Nat := (Text.lines text.toList).findIdx (isRefused α)

theorem isRefused_eq_false {line : List Char}
    (fine : holdsSomething line → ∃ rule : Rule α, ∀ number, parse number (Text.trim line) = .ok rule) :
    isRefused α line = false := by
  cases held : holdsSomething line with
  | false => rw [isRefused, held, Bool.false_and]
  | true =>
      obtain ⟨rule, parsed⟩ := fine held
      have read : (parse 0 (Text.trim line) : Except ConfigError (Rule α)).isOk :=
        Except.isOk_iff.mpr ⟨rule, parsed 0⟩
      rw [isRefused, read, Bool.not_true, Bool.and_false]

theorem isRefused_of_error {line : List Char} {number : Nat} {reason : ConfigError} (held : holdsSomething line)
    (refused : (parse number (Text.trim line) : Except ConfigError (Rule α)) = .error reason) :
    isRefused α line := by
  rw [isRefused, held, Bool.true_and, Bool.not_eq_true', Bool.eq_false_iff]
  intro read
  obtain ⟨rule, parsed⟩ := Except.isOk_iff.mp read
  cases (parse_ok_at parsed number).symm.trans refused

/-- Where the first line that is refused stands among the lines of its text, and what it is refused for. -/
theorem exists_refused_of_parseAll {text : String} {reason : ConfigError}
    (refused : (parseAll text : Except ConfigError (List (Rule α))) = .error reason) :
    ∃ before line after, Text.lines text.toList = before ++ line :: after ∧
      firstRefused α text = before.length ∧
      (parse (before.countP holdsSomething) (Text.trim line) : Except ConfigError (Rule α)) = .error reason := by
  obtain ⟨rules, rule, others, whole, fine, failed⟩ := parseAll_eq_error_iff.mp refused
  have counted : ((Text.lines text.toList).filter holdsSomething).map Text.trim = rules ++ rule :: others :=
    List.filter_map.symm.trans ((Text.filter_trim_lines text.toList).trans whole)
  obtain ⟨kept, rest, split, rfl, follow⟩ := List.map_eq_append_iff.mp counted
  obtain ⟨line, later, rfl, rfl, -⟩ := List.map_eq_cons_iff.mp follow
  obtain ⟨before, after, lines, rfl, held⟩ := exists_of_filter_eq_append_cons split
  rw [List.length_map, ← List.countP_eq_length_filter] at failed
  refine ⟨before, line, after, lines, ?_, failed⟩
  rw [firstRefused, lines]
  refine findIdx_append_cons (fun other member => isRefused_eq_false fun something => ?_)
    (isRefused_of_error held failed)
  exact fine _ (List.mem_map_of_mem (List.mem_filter.mpr ⟨member, something⟩))

end Rule

namespace IndicatorFactory

/-- An error in the rules of a text is about the first line that holds something else than a rule. The number that it
gives is how many lines before that one hold something. It is the number of the line among all lines of the text
exactly if none of the lines before is blank. -/
theorem line_of_refused_rules {factory : IndicatorFactory α} {text : String} {reason : ConfigError}
    (refused : factory.setRules text = .error reason) :
    let lines := Text.lines text.toList
    let number := Rule.firstRefused α text
    let before := lines.take number
    (∃ line, lines[number]? = some line ∧
        (Rule.parse (before.countP Rule.holdsSomething) (Text.trim line) : Except ConfigError (Rule α)) =
          .error reason) ∧
      reason.line? = some (before.countP Rule.holdsSomething) ∧
      (reason.line? = some number ↔ ∀ line ∈ before, Text.trim line ≠ []) := by
  obtain ⟨before, line, after, split, place, failed⟩ :=
    Rule.exists_refused_of_parseAll (setRules_eq_error_iff.mp refused)
  have given : reason.line? = some (before.countP Rule.holdsSomething) := Rule.line?_of_parse_eq_error failed
  dsimp only
  rw [place, split, List.take_left]
  refine ⟨⟨line, ?_, failed⟩, given, ?_⟩
  · rw [List.getElem?_append_right le_rfl, Nat.sub_self, List.getElem?_cons_zero]
  · rw [given, Option.some_inj, List.countP_eq_length]
    simp [Rule.holdsSomething]

/-- The second of the two lines before is blank, so the error gives the number 1 to line 2. -/
theorem line_of_refused_rules_of_blankLine :
    let text := "a => b IF below 5\r\n \t\nnonsense"
    let factory : IndicatorFactory Double := .empty
    let reason := ConfigError.malformedRule 1 "nonsense"
    factory.setRules text = .error reason ∧ Rule.firstRefused Double text = 2 ∧
      (reason.line? = some 2 ↔ ∀ line ∈ (Text.lines text.toList).take 2, Text.trim line ≠ []) := by
  intro text factory reason
  have readable : (Rule.parse 0 "a => b IF below 5".toList : Except ConfigError (Rule Double)).isOk := by
    decide +kernel
  obtain ⟨rule, read⟩ := Except.isOk_iff.mp readable
  have refused : factory.setRules text = .error reason := by
    refine setRules_eq_error_iff.mpr (Rule.parseAll_eq_error_iff.mpr
      ⟨["a => b IF below 5".toList], "nonsense".toList, [], by decide +kernel, ?_, rfl⟩)
    intro earlier member
    obtain rfl := List.mem_singleton.mp member
    exact ⟨rule, Rule.parse_ok_at read⟩
  have number : Rule.firstRefused Double text = 2 := by decide +kernel
  obtain ⟨-, -, same⟩ := line_of_refused_rules refused
  rw [number] at same
  exact ⟨refused, number, same⟩

/-- The only rule of the text stands on line 1, behind an empty line 0, and the error gives it the number 0. -/
theorem line_of_malformed_rule_ne :
    let text := "\nnonsense"
    ∃ reason, (empty : IndicatorFactory Double).setRules text = .error reason ∧ reason.line? = some 0 ∧
      Text.lines text.toList = ["".toList, "nonsense".toList] ∧ Rule.firstRefused Double text = 1 ∧
      reason.line? ≠ some (Rule.firstRefused Double text) :=
  ⟨.malformedRule 0 "nonsense", by rfl, by rfl, by rfl, by rfl, by decide +kernel⟩

end IndicatorFactory

end MetricAggregation
