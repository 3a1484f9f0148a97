import MetricAggregation.Proofs.ExactNumber
import MetricAggregation.Engine.Process
import MetricAggregation.Proofs.MessageGrammar
import MetricAggregation.Proofs.Spelling
import MetricAggregation.Proofs.Utf8

/-!
Direct updates. A counter or a timer that is updated directly fares as if the update had come in a message, and an
update without a key is discarded either way. Only what an engine notes of the messages that it receives tells the two
apart.
-/

namespace MetricAggregation

theorem Text.fromUTF8?_bytes (text : String) : String.fromUTF8? ⟨(bytes text).toArray⟩ = some text := by
  have same : (⟨(bytes text).toArray⟩ : ByteArray) = text.toByteArray := rfl
  rw [same, String.fromUTF8?, dif_pos text.isValidUTF8]
  rfl

/-- A line is read as it is written if no blanks stand around it. Its key need not be normalized. -/
theorem Message.parse_rebuild_of_unindented (raw : String) (fields : Fields) (colonless : ':' ∉ raw.toList)
    (unindented : ∀ char ∈ raw.toList.head?, Text.isBlank char = false)
    (parted : ∀ field ∈ fields.toList, '|' ∉ field.toList)
    (ended : ∀ field ∈ fields.toList.getLast?, ∀ char ∈ field.toList.getLast?, Text.isBlank char = false) :
    parse (rebuild raw fields.toList) =
      if Key.normalize raw = "" then .error .emptyKey else .ok ⟨Key.normalize raw, fields⟩ := by
  have tight : Text.IsTight (rebuild raw fields.toList).toList := by
    refine ⟨fun char head => ?_, (ended_iff raw fields).mp ended⟩
    cases spelled : raw.toList with
    | nil =>
        obtain rfl : ':' = char := by simpa [rebuild, spelled] using head
        rfl
    | cons first rest =>
        obtain rfl : first = char := by simpa [rebuild, spelled] using head
        exact unindented first (by simp [spelled])
  rw [rebuild] at tight ⊢
  rw [parse_of_colon (Text.isCore_self tight) colonless, splitFields_fields parted]
  rfl

namespace Engine

variable {α φ μ : Type} [Number α] {engine : Engine α φ μ} {key value : String} {number : α}

theorem readMessage_bytes (line : String) : readMessage (Text.bytes line) = Message.parse line := by
  rw [readMessage, Text.fromUTF8?_bytes]

theorem directKey_of_finite (key : String) (finite : Number.isFinite number) :
    directKey key number = if Key.normalize key = "" then .error .emptyKey else .ok (Key.normalize key) := by
  simp only [directKey, finite, if_true, String.isEmpty_iff]

theorem increment_of_finite (engine : Engine α φ μ) (key : String) (finite : Number.isFinite number) :
    engine.increment key number =
      if Key.normalize key = "" then engine.discard else engine.updateCounter (Key.normalize key) number 1 := by
  rw [increment, directKey_of_finite key finite]
  by_cases unnamed : Key.normalize key = "" <;> simp [unnamed]

theorem recordTiming_of_finite (engine : Engine α φ μ) (key : String) (finite : Number.isFinite number) :
    engine.recordTiming key number =
      if Key.normalize key = "" then engine.discard else engine.updateTimer (Key.normalize key) number := by
  rw [recordTiming, directKey_of_finite key finite]
  by_cases unnamed : Key.normalize key = "" <;> simp [unnamed]

variable [MetricFactory φ] [MetricPlugin φ μ α]

theorem process_of_apply {bytes : List UInt8} {message : Message} {updated : Engine α φ μ}
    (read : readMessage bytes = .ok message) (applied : engine.apply message = ⟨.ok updated, 0⟩)
    (still : updated.stopwatch = engine.stopwatch) :
    { engine.process bytes with received := updated.received } = updated := by
  have stopped : engine.stopwatch.advance 0 = updated.stopwatch := by simp [Stopwatch.advance, still]
  simp only [process, read, applied, stopped]

/-- What comes of a line of two fields, if the metrics of its type take in the value. -/
theorem process_rebuild (engine : Engine α φ μ) (colonless : ':' ∉ key.toList)
    (unindented : ∀ char ∈ key.toList.head?, Text.isBlank char = false) (read : parseValue value = .ok number)
    {tag : String} (plain : ∀ char ∈ tag.toList, Key.InPath char) {update : String → Engine α φ μ}
    (applied : ∀ name, engine.apply ⟨name, value, tag, none⟩ = ⟨.ok (update name), 0⟩)
    (still : ∀ name, (update name).stopwatch = engine.stopwatch) :
    let after := engine.process (Text.bytes (Message.rebuild key [value, tag]))
    (Key.normalize key = "" → after = engine.discard) ∧
      (Key.normalize key ≠ "" → { after with received := (update (Key.normalize key)).received } =
        update (Key.normalize key)) := by
  intro after
  have parted : ∀ field ∈ (⟨value, tag, none⟩ : Fields).toList, '|' ∉ field.toList := by
    intro field member bar
    rcases List.mem_pair.mp member with rfl | rfl
    · exact bar_not_mem_of_parseValue read bar
    · exact absurd (plain '|' bar) (by decide)
  have ended : ∀ field ∈ (⟨value, tag, none⟩ : Fields).toList.getLast?, ∀ char ∈ field.toList.getLast?,
      Text.isBlank char = false := by
    rintro field ⟨rfl⟩ char last
    exact Key.isBlank_of_inPath (plain char (List.mem_of_getLast? last))
  have parsed : readMessage (Text.bytes (Message.rebuild key [value, tag])) =
      if Key.normalize key = "" then .error .emptyKey else .ok ⟨Key.normalize key, value, tag, none⟩ :=
    (readMessage_bytes _).trans
      (Message.parse_rebuild_of_unindented key ⟨value, tag, none⟩ colonless unindented parted ended)
  refine ⟨fun unnamed => ?_, fun named => ?_⟩
  · rw [if_pos unnamed] at parsed
    simp only [after, process, parsed]
  · rw [if_neg named] at parsed
    exact process_of_apply parsed (applied _) (still _)

/-- A message without a sample rate for a counter, or one for a timer, leads to the state that the direct update with
the same key and value leads to, in all but what is noted of the messages received. The key may hold anything but a
colon, and may not start with a blank, which a message does not keep. If nothing is left of it once it is normalized,
message and direct update are only counted as discarded. -/
theorem process_eq_direct (engine : Engine α φ μ) (colonless : ':' ∉ key.toList)
    (unindented : ∀ char ∈ key.toList.head?, Text.isBlank char = false) (read : parseValue value = .ok number) :
    let counted := engine.process (Text.bytes (key ++ ":" ++ value ++ "|c"))
    let timed := engine.process (Text.bytes (key ++ ":" ++ value ++ "|ms"))
    { counted with received := engine.received } = engine.increment key number ∧
      { timed with received := engine.received } = engine.recordTiming key number ∧
      (Key.normalize key = "" →
        ∀ after ∈ [counted, timed, engine.increment key number, engine.recordTiming key number],
          after = { engine with badLines := engine.badLines + 1 }) := by
  intro counted timed
  have finite := isFinite_of_parseValue read
  have line (tag : String) : Message.rebuild key [value, tag] = key ++ ":" ++ value ++ ("|" ++ tag) := by
    simp [Message.rebuild, ← String.toList_inj]
  have plainCount : ∀ char ∈ "c".toList, Key.InPath char := by simp [Key.InPath]
  have plainTime : ∀ char ∈ "ms".toList, Key.InPath char := by simp [Key.InPath]
  have counts (name : String) :
      engine.apply ⟨name, value, "c", none⟩ = ⟨.ok (engine.updateCounter name number 1), 0⟩ := by
    simp [apply, Message.kind, MetricKind.ofTag, read, sampleRate, bind, Except.bind, pure, Except.pure]
  have times (name : String) :
      engine.apply ⟨name, value, "ms", none⟩ = ⟨.ok (engine.updateTimer name number), 0⟩ := by
    simp [apply, Message.kind, MetricKind.ofTag, read, Except.map]
  obtain ⟨countedUnnamed, countedNamed⟩ :=
    process_rebuild engine colonless unindented read plainCount counts fun _ => rfl
  obtain ⟨timedUnnamed, timedNamed⟩ :=
    process_rebuild engine colonless unindented read plainTime times fun _ => rfl
  rw [line] at countedUnnamed countedNamed timedUnnamed timedNamed
  rw [increment_of_finite engine key finite, recordTiming_of_finite engine key finite]
  by_cases unnamed : Key.normalize key = ""
  · have countedDiscarded : counted = engine.discard := countedUnnamed unnamed
    have timedDiscarded : timed = engine.discard := timedUnnamed unnamed
    rw [if_pos unnamed, if_pos unnamed, countedDiscarded, timedDiscarded]
    refine ⟨rfl, rfl, fun _ after member => ?_⟩
    obtain rfl : after = engine.discard := by simpa using member
    rfl
  · rw [if_neg unnamed, if_neg unnamed]
    exact ⟨countedNamed unnamed, timedNamed unnamed, fun absent => absurd absent unnamed⟩

/-- A key with a bar, slashes and blanks, and a value between blanks. -/
theorem process_eq_direct_of_barredKey :
    let engine : Engine ℝ Empty Empty := .new .default (.ofSeed 0) .empty 0
    let key := "go//rets |é "
    ':' ∉ key.toList ∧ (∀ char ∈ key.toList.head?, Text.isBlank char = false) ∧
      parseValue " 3.5 " = .ok (7 / 2 : ℝ) ∧ Key.normalize key = "go-rets__" ∧
      { engine.process (Text.bytes (key ++ ":" ++ " 3.5 " ++ "|c")) with received := engine.received } =
        engine.increment key (7 / 2) ∧
      { engine.process (Text.bytes (key ++ ":" ++ " 3.5 " ++ "|ms")) with received := engine.received } =
        engine.recordTiming key (7 / 2) := by
  intro engine key
  have colonless : ':' ∉ key.toList := by decide
  have unindented : ∀ char ∈ key.toList.head?, Text.isBlank char = false := by simp [key, Text.isBlank]
  have number : Numeral.parse? (Text.trim " 3.5 ".toList) = some ⟨false, 35, -1⟩ := by rfl
  have value : (Numeral.value ⟨false, 35, -1⟩ : ℝ) = 7 / 2 := by
    norm_num [Numeral.value, ExactNumber.ofDecimal_eq]
  have read : parseValue " 3.5 " = .ok (7 / 2 : ℝ) :=
    parseValue_eq_ok_iff.mpr (Number.parse?_eq_some_iff.mpr ⟨_, number, value, ExactNumber.isFinite_eq _⟩)
  obtain ⟨counted, timed, _⟩ := process_eq_direct engine colonless unindented read
  exact ⟨colonless, unindented, read, by decide, counted, timed⟩

end Engine

end MetricAggregation
