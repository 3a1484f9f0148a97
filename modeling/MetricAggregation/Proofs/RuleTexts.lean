import MetricAggregation.Double.Number
import MetricAggregation.Proofs.RuleGrammar
import MetricAggregation.ServiceLevel.Indicator

/-!
Texts of service level rules. A text is taken up as a whole, or the rules stay what they were.
-/

namespace MetricAggregation

namespace Text

/-- A line without the carriage return that belongs to its end. -/
def chomp (line : List Char) : List Char := if line.getLast? = some '\r' then line.dropLast else line

/-- The lines of a text. A line feed ends each of them, with or without a carriage return before it, and the last line
needs no end. -/
def lines (text : List Char) : List (List Char) :=
  let pieces := text.splitOn '\n'
  pieces.dropLast.map chomp ++ (pieces.getLast?.filter fun piece => !piece.isEmpty).toList

theorem trim_chomp (line : List Char) : trim (chomp line) = trim line := by
  unfold chomp
  split
  · rename_i returned
    obtain ⟨rest, rfl⟩ := List.getLast?_eq_some_iff.mp returned
    rw [List.dropLast_concat, trim_concat rfl]
  · rfl

/-- Without the blanks around it, a line is the same with its end, and a last line that is empty does not count. -/
theorem filter_trim_lines (text : List Char) :
    ((lines text).map trim).filter (fun line => !line.isEmpty) =
      ((text.splitOn '\n').map trim).filter fun line => !line.isEmpty := by
  obtain ⟨pieces, last, split⟩ : ∃ pieces last, text.splitOn '\n' = pieces ++ [last] :=
    ⟨_, _, (List.dropLast_concat_getLast (List.splitOn_ne_nil '\n' text)).symm⟩
  unfold lines
  dsimp only
  rw [split, List.dropLast_concat, List.getLast?_concat]
  simp only [List.map_append, List.map_map, Function.comp_def, trim_chomp, List.filter_append]
  -- The last piece has no line feed behind it. It is no line if it is empty, and would not count as one.
  cases last with
  | nil => rfl
  | cons char rest => rfl

end Text

section Rules

variable {α : Type} [Number α]

theorem Condition.parse_ok_at {line : Nat} {name parameters : List Char} {condition : Condition α}
    (parsed : parse line name parameters = .ok condition) (number : Nat) :
    parse number name parameters = .ok condition :=
  parse_eq_ok_iff.mpr (parse_eq_ok_iff.mp parsed)

namespace Rule

/-- The number of a line matters only to errors. -/
theorem parse_ok_at {line : Nat} {text : List Char} {rule : Rule α} (parsed : parse line text = .ok rule)
    (number : Nat) : parse number text = .ok rule := by
  unfold parse at parsed ⊢
  cases found : RuleShape.parse? text with
  | none =>
      rw [found] at parsed
      cases parsed
  | some shape =>
      rw [found] at parsed
      obtain ⟨condition, read, named⟩ := Except.map_eq_ok_iff.mp parsed
      exact Except.map_eq_ok_iff.mpr ⟨condition, Condition.parse_ok_at read number, named⟩

theorem map_parse_zipIdx_eq_iff {lines : List (List Char)} {rules : List (Rule α)} (start : Nat) :
    (lines.zipIdx start).map (fun entry => parse entry.2 entry.1) = rules.map .ok ↔
      ∀ number, lines.map (parse number) = rules.map .ok := by
  induction lines generalizing start rules with
  | nil => exact ⟨fun none _ => none, fun none => none 0⟩
  | cons line rest ih =>
      rw [List.zipIdx_cons, List.map_cons]
      cases rules with
      | nil => exact ⟨nofun, fun none => nomatch none 0⟩
      | cons rule others =>
          simp only [List.map_cons, List.cons.injEq, ih, forall_and]
          exact and_congr_left' ⟨fun parsed => parse_ok_at parsed, fun parsed => parsed start⟩

theorem parseAll_eq_ok_iff {text : String} {rules : List (Rule α)} :
    parseAll text = .ok rules ↔ ∀ number, (ruleLines text).map (parse number) = rules.map .ok := by
  rw [parseAll, Except.mapM_eq_ok_iff, map_parse_zipIdx_eq_iff]

theorem parseAll_eq_error_iff {text : String} {reason : ConfigError} :
    (parseAll text : Except ConfigError (List (Rule α))) = .error reason ↔
      ∃ before line after, ruleLines text = before ++ line :: after ∧
        (∀ earlier ∈ before, ∃ rule : Rule α, ∀ number, parse number earlier = .ok rule) ∧
          (parse before.length line : Except ConfigError (Rule α)) = .error reason := by
  rw [parseAll, Except.mapM_eq_error_iff]
  constructor
  · rintro ⟨earlier, entry, later, split, fine, refused⟩
    obtain ⟨before, rest, whole, rfl, others⟩ := List.zipIdx_eq_append_iff.mp split
    obtain ⟨line, after, rfl, rfl, -⟩ := List.zipIdx_eq_cons_iff.mp others.symm
    refine ⟨before, line, after, whole, fun text member => ?_, by simpa using refused⟩
    obtain ⟨number, numbered⟩ := List.getElem?_of_mem member
    obtain ⟨rule, parsed⟩ := fine (text, number) (List.mk_mem_zipIdx_iff_getElem?.mpr numbered)
    exact ⟨rule, parse_ok_at parsed⟩
  · rintro ⟨before, line, after, whole, fine, refused⟩
    refine ⟨before.zipIdx, (line, before.length), after.zipIdx (before.length + 1), ?_, ?_, refused⟩
    · rw [whole, List.zipIdx_append, List.zipIdx_cons, Nat.zero_add]
    · intro entry numbered
      obtain ⟨rule, parsed⟩ := fine entry.1 (List.fst_mem_of_mem_zipIdx numbered)
      exact ⟨rule, parsed entry.2⟩

theorem exists_parseAll_eq_ok_iff {text : String} :
    (∃ rules : List (Rule α), parseAll text = .ok rules) ↔
      ∀ line ∈ ruleLines text, ∃ rule : Rule α, ∀ number, parse number line = .ok rule := by
  constructor
  · rintro ⟨rules, parsed⟩ line member
    have among : parse 0 line ∈ rules.map .ok := parseAll_eq_ok_iff.mp parsed 0 ▸ List.mem_map_of_mem member
    obtain ⟨rule, _, read⟩ := List.mem_map.mp among
    exact ⟨rule, parse_ok_at read.symm⟩
  · intro fine
    cases outcome : (parseAll text : Except ConfigError (List (Rule α))) with
    | ok rules => exact ⟨rules, rfl⟩
    | error reason =>
        obtain ⟨before, line, after, whole, -, refused⟩ := parseAll_eq_error_iff.mp outcome
        obtain ⟨rule, parsed⟩ := fine line (whole ▸ List.mem_append_right before List.mem_cons_self)
        rw [parsed] at refused
        cases refused

end Rule

namespace IndicatorFactory

theorem setRules_eq_ok_iff {factory changed : IndicatorFactory α} {text : String} :
    factory.setRules text = .ok changed ↔ Rule.parseAll text = .ok changed.rules := by
  rw [setRules, Except.map_eq_ok_iff]
  constructor
  · rintro ⟨rules, parsed, rfl⟩
    exact parsed
  · exact fun parsed => ⟨changed.rules, parsed, rfl⟩

theorem setRules_eq_error_iff {factory : IndicatorFactory α} {text : String} {reason : ConfigError} :
    factory.setRules text = .error reason ↔ (Rule.parseAll text : Except _ (List (Rule α))) = .error reason :=
  Except.map_eq_error_iff

/-- The rules of a text are those on its lines, of which the blank ones do not count. They are taken up exactly if all
of these lines are rules, in the place of the ones before. Otherwise the first line that is not a rule decides the
error, and no metric gets other conditions than before. -/
theorem setRules_all_or_none (factory : IndicatorFactory α) (text : String) :
    let lines := ((Text.lines text.toList).map Text.trim).filter fun line => !line.isEmpty
    let outcome := factory.setRules text
    (∀ options : Options, options.find? "plugin_sli" "rules" = some text → factory.configure options = outcome) ∧
      ((∃ changed, outcome = .ok changed) ↔
        ∀ line ∈ lines, ∃ rule : Rule α, ∀ number, Rule.parse number line = .ok rule) ∧
      (∀ changed, outcome = .ok changed ↔ ∀ number, lines.map (Rule.parse number) = changed.rules.map .ok) ∧
      (∀ reason, outcome = .error reason ↔
        ∃ before line after, lines = before ++ line :: after ∧
          (∀ earlier ∈ before, ∃ rule : Rule α, ∀ number, Rule.parse number earlier = .ok rule) ∧
            (Rule.parse before.length line : Except ConfigError (Rule α)) = .error reason) ∧
      ∀ reason, outcome = .error reason →
        ∀ path, (outcome.toOption.getD factory).conditionsFor path = factory.conditionsFor path := by
  intro lines outcome
  have counted : lines = Rule.ruleLines text := Text.filter_trim_lines text.toList
  refine ⟨fun options given => ?_, ?_, fun changed => ?_, fun reason => ?_, fun reason refused path => ?_⟩
  · rw [configure, rulesOption, given]
  · rw [counted, ← Rule.exists_parseAll_eq_ok_iff]
    constructor
    · rintro ⟨changed, taken⟩
      exact ⟨changed.rules, setRules_eq_ok_iff.mp taken⟩
    · rintro ⟨rules, parsed⟩
      exact ⟨⟨rules⟩, setRules_eq_ok_iff.mpr parsed⟩
  · rw [counted, ← Rule.parseAll_eq_ok_iff]
    exact setRules_eq_ok_iff
  · rw [counted, ← Rule.parseAll_eq_error_iff]
    exact setRules_eq_error_iff
  · rw [refused]
    rfl

/-- The second line is blank and does not count. -/
theorem setRules_all_or_none_of_badLine :
    let text := "a => b IF below 5\r\n \t\nnonsense"
    let options := Options.empty.set "plugin_sli" "rules" text
    let factory : IndicatorFactory Double := ⟨[⟨"*", "fast", .between 0 1⟩]⟩
    options.find? "plugin_sli" "rules" = some text ∧
      factory.configure options = .error (.malformedRule 1 "nonsense") ∧
      ((factory.setRules text).toOption.getD factory).conditionsFor "stats.SLI.web" =
        factory.conditionsFor "stats.SLI.web" := by
  intro text options factory
  have given : options.find? "plugin_sli" "rules" = some text := by decide +kernel
  obtain ⟨configured, -, -, refused, kept⟩ := setRules_all_or_none factory text
  have error : factory.setRules text = .error (.malformedRule 1 "nonsense") := by
    refine (refused _).mpr ⟨["a => b IF below 5".toList], "nonsense".toList, [], by decide +kernel, ?_, rfl⟩
    intro earlier member
    obtain rfl := List.mem_singleton.mp member
    have readable : (Rule.parse 0 "a => b IF below 5".toList : Except ConfigError (Rule Double)).isOk := by
      decide +kernel
    obtain ⟨rule, read⟩ := Except.isOk_iff.mp readable
    exact ⟨rule, Rule.parse_ok_at read⟩
  exact ⟨given, (configured options given).trans error, kept _ error "stats.SLI.web"⟩

end IndicatorFactory

end Rules

end MetricAggregation
