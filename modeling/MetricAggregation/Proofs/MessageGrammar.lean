import MetricAggregation.Message
import MetricAggregation.Proofs.KeyNormalization
import MetricAggregation.Proofs.Outcome
import MetricAggregation.Proofs.Trimming

/-!
The grammar of messages: what a line is read as, or why it is not read, and how a message is written so that it is read
back.
-/

namespace MetricAggregation

theorem not_mem_of_mem_splitOn {β : Type} [BEq β] [LawfulBEq β] {mark : β} {text part : List β}
    (member : part ∈ text.splitOn mark) : mark ∉ part := by
  induction text generalizing part with
  | nil =>
      rw [List.splitOn_nil, List.mem_singleton] at member
      exact member ▸ List.not_mem_nil
  | cons char rest ih =>
      rw [List.splitOn_cons_eq_if_modifyHead] at member
      cases split : rest.splitOn mark with
      | nil => exact absurd split (List.splitOn_ne_nil mark rest)
      | cons first others =>
          rw [split] at member ih
          split_ifs at member with marked
          · rcases List.mem_cons.mp member with rfl | later
            · exact List.not_mem_nil
            · exact ih later
          · rcases List.mem_cons.mp member with rfl | later
            · have apart : mark ≠ char := fun same => marked (by simp [same])
              simp [apart, ih List.mem_cons_self]
            · exact ih (List.mem_cons_of_mem first later)

namespace Message

/-- What a text without blanks around it is read as, or why it is not read. The first colon ends the key, and bars part
the fields. -/
inductive Reads : String → Except MessageError Message → Prop
  | missingValue {text : String} : ':' ∉ text.toList → Reads text (.error .missingValue)
  | missingType {raw data : String} : ':' ∉ raw.toList → '|' ∉ data.toList →
      Reads (raw ++ ":" ++ data) (.error .missingType)
  | fieldCount {raw : String} {fields : List String} : ':' ∉ raw.toList →
      (∀ field ∈ fields, '|' ∉ field.toList) → 3 < fields.length →
      Reads (raw ++ ":" ++ "|".intercalate fields) (.error (.fieldCount fields.length))
  | emptyKey {raw : String} {fields : Fields} : ':' ∉ raw.toList →
      (∀ field ∈ fields.toList, '|' ∉ field.toList) → Key.normalize raw = "" →
      Reads (raw ++ ":" ++ "|".intercalate fields.toList) (.error .emptyKey)
  | message {raw : String} {fields : Fields} : ':' ∉ raw.toList →
      (∀ field ∈ fields.toList, '|' ∉ field.toList) → Key.normalize raw ≠ "" →
      Reads (raw ++ ":" ++ "|".intercalate fields.toList) (.ok ⟨Key.normalize raw, fields⟩)

section Fields

theorem splitOn_intercalate_toList {parts : List String} (parted : ∀ part ∈ parts, '|' ∉ part.toList)
    (nonempty : parts ≠ []) : ("|".intercalate parts).toList.splitOn '|' = parts.map String.toList := by
  rw [String.toList_intercalate]
  exact List.splitOn_intercalate '|' (by simpa using parted) (by simpa using nonempty)

theorem splitFields_of_barless {data : String} (barless : '|' ∉ data.toList) :
    splitFields data.toList = .error .missingType := by
  rw [splitFields, List.splitOn_eq_singleton barless]

theorem splitFields_fields {fields : Fields} (parted : ∀ field ∈ fields.toList, '|' ∉ field.toList) :
    splitFields ("|".intercalate fields.toList).toList = .ok fields := by
  rw [splitFields, splitOn_intercalate_toList parted (List.cons_ne_nil _ _)]
  rcases fields with ⟨value, tag, _ | extra⟩ <;> simp [Fields.toList]

theorem splitFields_of_many {parts : List String} (parted : ∀ part ∈ parts, '|' ∉ part.toList)
    (many : 3 < parts.length) : splitFields ("|".intercalate parts).toList = .error (.fieldCount parts.length) := by
  obtain ⟨first, second, third, fourth, rest, rfl⟩ :
      ∃ first second third fourth rest, parts = first :: second :: third :: fourth :: rest := by
    match parts, many with
    | first :: second :: third :: fourth :: rest, _ => exact ⟨first, second, third, fourth, rest, rfl⟩
  rw [splitFields, splitOn_intercalate_toList parted (List.cons_ne_nil _ _)]
  simp

end Fields

theorem parse_of_colonless {line text : String} (core : Text.IsCore line.toList text.toList)
    (colonless : ':' ∉ text.toList) : parse line = .error .missingValue := by
  have nothing : text.toList.dropWhile (· ≠ ':') = [] := by
    rw [List.dropWhile_eq_nil_iff]
    intro char member
    exact decide_eq_true fun colon => colonless (colon ▸ member)
  rw [parse, Text.trim_eq_iff.mpr core]
  simp only [nothing]

/-- The first colon parts what is written before it from the rest. -/
theorem split_at_colon {raw : String} (first : ':' ∉ raw.toList) (data : String) :
    (raw ++ ":" ++ data).toList.takeWhile (· ≠ ':') = raw.toList ∧
      (raw ++ ":" ++ data).toList.dropWhile (· ≠ ':') = ':' :: data.toList := by
  have apart : ∀ char ∈ raw.toList, decide (char ≠ ':') = true := fun char member =>
    decide_eq_true fun colon => first (colon ▸ member)
  have parts : (raw ++ ":" ++ data).toList = raw.toList ++ ':' :: data.toList := by simp
  rw [parts, List.takeWhile_append_of_pos apart, List.dropWhile_append_of_pos apart]
  simp

theorem parse_of_colon {line raw data : String} (core : Text.IsCore line.toList (raw ++ ":" ++ data).toList)
    (first : ':' ∉ raw.toList) :
    parse line = (splitFields data.toList).bind fun fields =>
      if Key.normalize raw = "" then .error .emptyKey else .ok ⟨Key.normalize raw, fields⟩ := by
  obtain ⟨before, behind⟩ := split_at_colon first data
  rw [parse, Text.trim_eq_iff.mpr core, before, behind]
  simp [Key.normalize, bind]

theorem Reads.parse_eq {line text : String} {outcome : Except MessageError Message} (reads : Reads text outcome)
    (core : Text.IsCore line.toList text.toList) : parse line = outcome := by
  cases reads with
  | missingValue colonless => exact parse_of_colonless core colonless
  | missingType first barless =>
      rw [parse_of_colon core first, splitFields_of_barless barless]
      rfl
  | fieldCount first parted many =>
      rw [parse_of_colon core first, splitFields_of_many parted many]
      rfl
  | emptyKey first parted unnamed =>
      rw [parse_of_colon core first, splitFields_fields parted]
      exact if_pos unnamed
  | message first parted named =>
      rw [parse_of_colon core first, splitFields_fields parted]
      exact if_neg named

theorem exists_parts (data : String) :
    ∃ parts : List String, parts ≠ [] ∧ (∀ part ∈ parts, '|' ∉ part.toList) ∧ "|".intercalate parts = data := by
  refine ⟨(data.toList.splitOn '|').map String.ofList, by simp [List.splitOn_ne_nil], ?_, ?_⟩
  · intro part member
    obtain ⟨chars, split, rfl⟩ := List.mem_map.mp member
    rw [String.toList_ofList]
    exact not_mem_of_mem_splitOn split
  · rw [← String.toList_inj, String.toList_intercalate, List.map_map]
    simp [Function.comp_def, List.intercalate_splitOn]

/-- No text is left out. -/
theorem exists_reads (text : String) : ∃ outcome, Reads text outcome := by
  by_cases colon : ':' ∈ text.toList
  · obtain ⟨before, behind, whole, first⟩ := List.eq_append_cons_of_mem colon
    obtain ⟨raw, rfl⟩ : ∃ raw : String, raw.toList = before := ⟨.ofList before, String.toList_ofList⟩
    obtain ⟨data, rfl⟩ : ∃ data : String, data.toList = behind := ⟨.ofList behind, String.toList_ofList⟩
    obtain rfl : text = raw ++ ":" ++ data := by simp [← String.toList_inj, whole]
    obtain ⟨parts, nonempty, parted, rfl⟩ := exists_parts data
    have named (fields : Fields) (parted : ∀ field ∈ fields.toList, '|' ∉ field.toList) :
        ∃ outcome, Reads (raw ++ ":" ++ "|".intercalate fields.toList) outcome := by
      by_cases unnamed : Key.normalize raw = ""
      · exact ⟨_, .emptyKey first parted unnamed⟩
      · exact ⟨_, .message first parted unnamed⟩
    match parts with
    | [] => exact absurd rfl nonempty
    | [data] => exact ⟨_, .missingType first (by simpa using parted)⟩
    | [value, tag] => exact named ⟨value, tag, none⟩ parted
    | [value, tag, extra] => exact named ⟨value, tag, some extra⟩ parted
    | first :: second :: third :: fourth :: rest => exact ⟨_, .fieldCount ‹_› parted (by simp)⟩
  · exact ⟨_, .missingValue colon⟩

theorem reads_parse (line : String) :
    ∃ text : String, Text.IsCore line.toList text.toList ∧ Reads text (parse line) := by
  obtain ⟨text, trimmed⟩ : ∃ text : String, text.toList = Text.trim line.toList := ⟨.ofList _, String.toList_ofList⟩
  have core : Text.IsCore line.toList text.toList := Text.trim_eq_iff.mp trimmed.symm
  obtain ⟨outcome, reads⟩ := exists_reads text
  exact ⟨text, core, reads.parse_eq core ▸ reads⟩

/-- A line is read as the grammar has it, and for the reason that the grammar has it is not read. -/
theorem parse_eq_iff_reads (line : String) (outcome : Except MessageError Message) :
    parse line = outcome ↔ ∃ text : String, Text.IsCore line.toList text.toList ∧ Reads text outcome := by
  constructor
  · rintro rfl
    exact reads_parse line
  · rintro ⟨text, core, reads⟩
    exact reads.parse_eq core

/-- That there is no type comes before that there is no key. -/
example : parse "@@@:1" = .error .missingType := by decide

/-- A key and fields in the form in which a message is written. -/
structure WellWritten (key : String) (fields : List String) : Prop where
  named : key ≠ ""
  normalized : Key.normalize key = key
  count : fields.length = 2 ∨ fields.length = 3
  parted : ∀ field ∈ fields, '|' ∉ field.toList
  ended : ∀ field ∈ fields.getLast?, ∀ char ∈ field.toList.getLast?, Text.isBlank char = false

theorem exists_fields_iff {parts : List String} :
    (∃ fields : Fields, fields.toList = parts) ↔ parts.length = 2 ∨ parts.length = 3 := by
  constructor
  · rintro ⟨⟨value, tag, _ | extra⟩, rfl⟩
    · exact .inl rfl
    · exact .inr rfl
  · intro count
    match parts, count with
    | [value, tag], _ => exact ⟨⟨value, tag, none⟩, rfl⟩
    | [value, tag, extra], _ => exact ⟨⟨value, tag, some extra⟩, rfl⟩

/-- The end of a line is the end of the last field, or the bar before it. -/
theorem getLast?_rebuild (raw : String) (fields : Fields) :
    ∃ last, fields.toList.getLast? = some last ∧
      (rebuild raw fields.toList).toList.getLast? = some (last.toList.getLast?.getD '|') := by
  rcases fields with ⟨value, tag, _ | extra⟩
  · refine ⟨tag, rfl, ?_⟩
    simp [rebuild, Fields.toList, List.getLast?_append, List.getLast?_cons]
  · refine ⟨extra, rfl, ?_⟩
    simp [rebuild, Fields.toList, List.getLast?_append, List.getLast?_cons]

theorem ended_iff (raw : String) (fields : Fields) :
    (∀ field ∈ fields.toList.getLast?, ∀ char ∈ field.toList.getLast?, Text.isBlank char = false) ↔
      ∀ char ∈ (rebuild raw fields.toList).toList.getLast?, Text.isBlank char = false := by
  obtain ⟨last, ends, whole⟩ := getLast?_rebuild raw fields
  have bar : Text.isBlank '|' = false := rfl
  rw [ends, whole]
  cases found : last.toList.getLast? <;> simp [found, bar]

theorem WellWritten.isTight {key : String} {fields : Fields} (written : WellWritten key fields.toList) :
    Text.IsTight (rebuild key fields.toList).toList := by
  refine ⟨fun char head => ?_, (ended_iff key fields).mp written.ended⟩
  have nonempty : key.toList ≠ [] := fun empty => written.named (String.toList_eq_nil_iff.mp empty)
  obtain ⟨first, rest, spelled⟩ := List.exists_cons_of_ne_nil nonempty
  obtain rfl : first = char := by simpa [rebuild, spelled] using head
  exact Key.isBlank_of_inPath (Key.normalize_eq_self_iff.mp written.normalized first (by simp [spelled]))

theorem WellWritten.parse_rebuild {key : String} {fields : Fields} (written : WellWritten key fields.toList) :
    parse (rebuild key fields.toList) = .ok ⟨key, fields⟩ := by
  have colonless : ':' ∉ key.toList := fun colon =>
    absurd (Key.normalize_eq_self_iff.mp written.normalized ':' colon) (by decide)
  have reads : Reads (rebuild key fields.toList) (.ok ⟨Key.normalize key, fields⟩) :=
    .message colonless written.parted (written.normalized.symm ▸ written.named)
  rw [written.normalized] at reads
  exact reads.parse_eq (Text.isCore_self written.isTight)

theorem wellWritten_of_parse {line : String} {message : Message} (parsed : parse line = .ok message) :
    WellWritten message.key message.fields.toList := by
  obtain ⟨text, ⟨tight, _⟩, reads⟩ := reads_parse line
  rw [parsed] at reads
  cases reads with
  | @message raw fields first parted named =>
      exact ⟨named, Key.normalize_normalize raw, exists_fields_iff.mp ⟨fields, rfl⟩, parted,
        (ended_iff raw fields).mpr tight.2⟩

/-- A line as it is written once it was read. -/
def rewritten (line : String) : Except MessageError String :=
  (parse line).map fun message => rebuild message.key message.fields.toList

/-- A key and fields are read back from the line they are written as exactly if they are well written, as those of every
message that was read are. So writing gives lines a normal form, which reading and writing it again leaves as it is. -/
theorem parse_rebuild_iff :
    (∀ key fields, (∃ message, parse (rebuild key fields) = .ok message ∧ message.key = key ∧
      message.fields.toList = fields) ↔ WellWritten key fields) ∧
    (∀ line message, parse line = .ok message →
      parse (rebuild message.key message.fields.toList) = .ok message) ∧
    ∀ line, (rewritten line).bind rewritten = rewritten line := by
  have again {line : String} {message : Message} (parsed : parse line = .ok message) :
      parse (rebuild message.key message.fields.toList) = .ok message := (wellWritten_of_parse parsed).parse_rebuild
  refine ⟨fun key fields => ⟨?_, fun written => ?_⟩, fun _ _ => again, fun line => ?_⟩
  · rintro ⟨message, parsed, rfl, rfl⟩
    exact wellWritten_of_parse parsed
  · obtain ⟨fields, rfl⟩ := exists_fields_iff.mpr written.count
    exact ⟨_, written.parse_rebuild, rfl, rfl⟩
  · cases parsed : parse line with
    | error reason => simp only [rewritten, parsed, Except.map, Except.bind]
    | ok message => simp only [rewritten, parsed, Except.map, Except.bind, again parsed]

/-- The line is written without the blanks and the other characters that its key could not keep; all else in it, the
second colon and the empty field too, is kept. -/
theorem parse_rebuild_iff_of_spacedLine :
    let message : Message := ⟨"some_key-x", ⟨"1: 2", "", some "@0.5"⟩⟩
    parse "\tsome key//x:1: 2||@0.5 \n" = .ok message ∧ WellWritten "some_key-x" ["1: 2", "", "@0.5"] ∧
      parse "some_key-x:1: 2||@0.5" = .ok message := by
  intro message
  have read : parse "\tsome key//x:1: 2||@0.5 \n" = .ok message := by decide +kernel
  have written : rebuild message.key message.fields.toList = "some_key-x:1: 2||@0.5" := by decide
  obtain ⟨readBack, again, _⟩ := parse_rebuild_iff
  have second := again _ _ read
  exact ⟨read, (readBack _ _).mp ⟨message, second, rfl, rfl⟩, written ▸ second⟩

end Message

end MetricAggregation
