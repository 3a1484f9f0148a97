import MetricAggregation.Proofs.Packing
import MetricAggregation.Proofs.Unbroken
import MetricAggregation.Proofs.Utf8

/-!
Reading back what a writer has written: split at the ends of lines and at spaces, the payloads give the
fields of the datapoints in them, if there are no blanks in these.
-/

namespace MetricAggregation

theorem data_joined (pieces : List ByteArray) :
    (joined pieces).data.toList = pieces.flatMap fun piece => piece.data.toList := by
  induction pieces with
  | nil => rfl
  | cons piece rest ih =>
      rw [joined, ByteArray.data_append, Array.toList_append, ih, List.flatMap_cons]

theorem splitOn_flatMap_concat {β : Type} [BEq β] [LawfulBEq β] (mark : β) (pieces : List (List β))
    (absent : ∀ piece ∈ pieces, mark ∉ piece) :
    (pieces.flatMap fun piece => piece ++ [mark]).splitOn mark = pieces ++ [[]] := by
  induction pieces with
  | nil => exact List.splitOn_nil mark
  | cons piece rest ih =>
      have others := ih fun piece member => absent piece (List.mem_cons_of_mem _ member)
      rw [List.flatMap_cons, List.append_assoc, List.singleton_append,
        List.splitOn_append_cons_self_of_not_mem (absent piece List.mem_cons_self), others,
        List.cons_append]

theorem tail_eq_of_append_cons {β : Type} {mark : β} {left right tail other : List β} (absent : mark ∉ tail)
    (otherAbsent : mark ∉ other) (same : left ++ mark :: tail = right ++ mark :: other) : tail = other := by
  have within {first second : List β} (rest : List β) (notSecond : mark ∉ second)
      (cut : mark :: second = rest ++ mark :: first) : second = first := by
    cases rest with
    | nil => exact List.tail_eq_of_cons_eq cut
    | cons _ rest =>
        obtain ⟨_, inside⟩ := List.cons.inj cut
        exact absurd (inside ▸ List.mem_append_right rest List.mem_cons_self) notSecond
  rcases List.append_eq_append_iff.mp same with ⟨rest, _, cut⟩ | ⟨rest, _, cut⟩
  · exact within rest absent cut
  · exact (within rest otherAbsent cut).symm

namespace Text

def space : UInt8 := 0x20

def lineEnd : UInt8 := 0x0A

def Separates (byte : UInt8) : Prop := byte = space ∨ byte = lineEnd

theorem not_mem_bytes_of_separates {text : String} (unbroken : Unbroken text) {byte : UInt8}
    (separates : Separates byte) : byte ∉ bytes text := by
  have ascii : byte.toNat < 128 := by
    rcases separates with rfl | rfl
    · decide
    · decide
  apply not_mem_bytes ascii
  intro char member same
  have blank : isBlank char = true := by
    rcases separates with rfl | rfl
    · simp [isBlank, same, space]
    · simp [isBlank, same, lineEnd]
  rw [unbroken char member] at blank
  cases blank

end Text

namespace Datapoint

variable {α : Type} [Number α]

def fields (point : Datapoint α) : List (List UInt8) :=
  [Text.bytes point.path, Text.bytes (Number.text point.value), Text.bytes (toString point.timestamp)]

def spacedFields (point : Datapoint α) : List UInt8 := [Text.space].intercalate point.fields

theorem spacedFields_eq (point : Datapoint α) :
    point.spacedFields = Text.bytes point.path ++ Text.space :: (Text.bytes (Number.text point.value) ++
      Text.space :: Text.bytes (toString point.timestamp)) := by
  simp [spacedFields, fields, List.intercalate]

theorem data_of_fitting {maxLength : Nat} {point : Datapoint α} {line : ByteArray}
    (fitting : point.fitting? maxLength = some line) :
    line.data.toList = point.spacedFields ++ [Text.lineEnd] := by
  obtain ⟨found, _⟩ := Option.filter_eq_some_iff.mp fitting
  obtain ⟨text, written, rfl⟩ := Option.map_eq_some_iff.mp found
  unfold line? at written
  split at written
  · cases written
    have blank : Text.bytes " " = [Text.space] := by decide
    have ended : Text.bytes "\n" = [Text.lineEnd] := by decide
    change Text.bytes _ = _
    simp only [Text.bytes_append, blank, ended, spacedFields_eq, List.append_assoc, List.nil_append,
      List.cons_append]
  · cases written

theorem flatMap_fitting (maxLength : Nat) (points : List (Datapoint α)) :
    ((points.filterMap (fitting? maxLength)).flatMap fun line => line.data.toList) =
      ((points.filter (fits maxLength)).map spacedFields).flatMap fun line => line ++ [Text.lineEnd] := by
  induction points with
  | nil => rfl
  | cons point rest ih =>
      cases fitting : point.fitting? maxLength with
      | none =>
          have dropped : ¬point.fits maxLength = true := by simp [fits, fitting]
          rw [List.filterMap_cons_none fitting, List.filter_cons_of_neg dropped, ih]
      | some line =>
          have kept : point.fits maxLength = true := by simp [fits, fitting]
          rw [List.filterMap_cons_some fitting, List.filter_cons_of_pos kept, List.flatMap_cons, ih,
            data_of_fitting fitting, List.map_cons, List.flatMap_cons]

theorem length_filterMap_fitting (maxLength : Nat) (points : List (Datapoint α)) :
    (points.filterMap (fitting? maxLength)).length = points.countP (fits maxLength) := by
  rw [List.length_filterMap_eq_countP]
  rfl

/-- A line ends with the timestamp of its datapoint. -/
theorem timestamp_eq_of_fitting {maxLength : Nat} {point other : Datapoint α} {line : ByteArray}
    (fitting : point.fitting? maxLength = some line)
    (otherFitting : other.fitting? maxLength = some line) : point.timestamp = other.timestamp := by
  have ended (point : Datapoint α) : point.spacedFields =
      (Text.bytes point.path ++ Text.space :: Text.bytes (Number.text point.value)) ++
        Text.space :: Text.bytes (toString point.timestamp) := by
    rw [spacedFields_eq, List.append_assoc, List.cons_append]
  have plain (number : Nat) : Text.space ∉ Text.bytes (toString number) :=
    Text.not_mem_bytes_of_separates (Text.unbroken_toString number) (.inl rfl)
  have same := (data_of_fitting fitting).symm.trans (data_of_fitting otherFitting)
  rw [List.append_cancel_right_eq, ended, ended] at same
  exact Nat.repr_inj.mp (Text.bytes_inj.mp (tail_eq_of_append_cons (plain _) (plain _) same))

end Datapoint

namespace PayloadWriter

variable {α : Type} [Number α]

def payloadsOf (maxLength : Nat) (points : List (Datapoint α)) : List ByteArray :=
  ((empty maxLength).writeAll points).2.takePayloads.1.toList

theorem joined_payloadsOf (maxLength : Nat) (points : List (Datapoint α)) :
    joined (payloadsOf maxLength points) = joined (points.filterMap (Datapoint.fitting? maxLength)) := by
  obtain ⟨_, closed, opened, whole, holds⟩ := Gathers.writeAll points (gathers_empty maxLength)
  obtain ⟨groups, packing⟩ := holds.takePayloads
  rw [payloadsOf, packing.made, ← joined_flatten, ← packing.whole, whole, List.nil_append]

/-- The datapoints that fit are read back from the payloads, field by field. -/
theorem splitOn_payloadsOf (maxLength : Nat) (points : List (Datapoint α))
    (unbroken : ∀ point ∈ points, Text.Unbroken point.path ∧ Text.Unbroken (Number.text point.value)) :
    ∃ lines : List (List UInt8),
      (joined (payloadsOf maxLength points)).data.toList.splitOn Text.lineEnd = lines ++ [[]] ∧
        lines.map (List.splitOn Text.space) =
          (points.filter (Datapoint.fits maxLength)).map Datapoint.fields := by
  have plain : ∀ point ∈ points.filter (Datapoint.fits maxLength), ∀ field ∈ point.fields,
      ∀ byte, Text.Separates byte → byte ∉ field := by
    intro point member field inFields byte separates
    obtain ⟨path, value⟩ := unbroken point (List.mem_filter.mp member).1
    simp only [Datapoint.fields, List.mem_cons, List.not_mem_nil, or_false] at inFields
    rcases inFields with rfl | rfl | rfl
    · exact Text.not_mem_bytes_of_separates path separates
    · exact Text.not_mem_bytes_of_separates value separates
    · exact Text.not_mem_bytes_of_separates (Text.unbroken_toString point.timestamp) separates
  refine ⟨(points.filter (Datapoint.fits maxLength)).map Datapoint.spacedFields, ?_, ?_⟩
  · rw [joined_payloadsOf, data_joined, Datapoint.flatMap_fitting]
    apply splitOn_flatMap_concat
    intro line member
    obtain ⟨point, kept, rfl⟩ := List.mem_map.mp member
    have fields := fun field inFields => plain point kept field inFields Text.lineEnd (.inr rfl)
    simp only [Datapoint.fields, List.forall_mem_cons] at fields
    have apart : Text.lineEnd ≠ Text.space := by decide
    simp only [Datapoint.spacedFields_eq, List.mem_append, List.mem_cons, apart, fields, or_self,
      not_false_eq_true]
  · rw [List.map_map]
    apply List.map_congr_left
    intro point kept
    have fields := fun field inFields => plain point kept field inFields Text.space (.inl rfl)
    exact List.splitOn_intercalate Text.space fields nofun

end PayloadWriter

end MetricAggregation
