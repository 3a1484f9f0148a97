import MetricAggregation.Message
import MetricAggregation.Proofs.Trimming

/-!
The characters that numerals are spelled with. A text that is read as a value holds no others, but for blanks around the
numeral.
-/

namespace MetricAggregation

namespace Numeral

/-- A character of a numeral: a digit, a sign, a point, or the mark of a power of ten. -/
def Spells (char : Char) : Prop := char.isDigit ∨ char ∈ ['+', '-', '.', 'e', 'E']

instance : DecidablePred Spells := fun _ => inferInstanceAs (Decidable (_ ∨ _))

variable {text : List Char} {char : Char}

theorem mem_of_splitSign (member : char ∈ text) : Spells char ∨ char ∈ (splitSign text).2 := by
  unfold splitSign
  split
  · rcases List.mem_cons.mp member with rfl | later
    · exact .inl (by decide)
    · exact .inr later
  · rcases List.mem_cons.mp member with rfl | later
    · exact .inl (by decide)
    · exact .inr later
  · exact .inr member

theorem mem_of_splitDigits (member : char ∈ text) : Spells char ∨ char ∈ (splitDigits text).2.2 := by
  have digits {part : List Char} (inside : char ∈ part.takeWhile Char.isDigit) : Spells char :=
    .inl (List.mem_takeWhile_imp inside)
  rw [← List.takeWhile_append_dropWhile (p := Char.isDigit) (l := text), List.mem_append] at member
  unfold splitDigits
  dsimp only
  split
  · rename_i rest behind
    rw [behind] at member
    rcases member with whole | later
    · exact .inl (digits whole)
    · rcases List.mem_cons.mp later with rfl | fraction
      · exact .inl (by decide)
      · rw [← List.takeWhile_append_dropWhile (p := Char.isDigit) (l := rest), List.mem_append] at fraction
        exact fraction.imp digits id
  · exact member.imp digits id

theorem spells_of_mem_power {power : Int} (read : power? text = some power) (member : char ∈ text) : Spells char := by
  cases text with
  | nil => exact absurd member List.not_mem_nil
  | cons mark rest =>
      rw [power?] at read
      split at read
      · rename_i marked
        dsimp only at read
        split at read
        · cases read
        · rename_i digits
          simp only [Bool.or_eq_true, Bool.not_eq_true', not_or, Bool.not_eq_false, List.all_eq_true] at digits
          rcases List.mem_cons.mp member with rfl | later
          · rcases (by simpa using marked : char = 'e' ∨ char = 'E') with rfl | rfl
            · exact .inr (by decide)
            · exact .inr (by decide)
          · rcases mem_of_splitSign later with sign | digit
            · exact sign
            · exact .inl (digits.2 char digit)
      · cases read

theorem spells_of_mem {numeral : Numeral} (read : parse? text = some numeral) (member : char ∈ text) : Spells char := by
  unfold parse? at read
  dsimp only at read
  split at read
  · cases read
  · obtain ⟨power, ended, _⟩ := Option.map_eq_some_iff.mp read
    rcases mem_of_splitSign member with sign | unsigned
    · exact sign
    · rcases mem_of_splitDigits unsigned with digit | last
      · exact digit
      · exact spells_of_mem_power ended last

end Numeral

variable {α : Type} [Number α]

theorem Number.parse?_eq_some_iff {text : List Char} {number : α} :
    Number.parse? text = some number ↔
      ∃ numeral, Numeral.parse? text = some numeral ∧ numeral.value = number ∧ Number.isFinite number := by
  simp only [Number.parse?, Option.bind_eq_some_iff, Option.ite_none_right_eq_some, Option.some.injEq]
  refine exists_congr fun numeral => and_congr_right fun _ => ⟨?_, ?_⟩
  · rintro ⟨finite, rfl⟩
    exact ⟨rfl, finite⟩
  · rintro ⟨rfl, finite⟩
    exact ⟨finite, rfl⟩

theorem parseValue_eq_ok_iff {raw : String} {number : α} :
    parseValue raw = .ok number ↔ Number.parse? (Text.trim raw.toList) = some number := by
  unfold parseValue
  cases (Number.parse? (Text.trim raw.toList) : Option α) <;> simp

variable {raw : String} {number : α}

theorem isFinite_of_parseValue (read : parseValue raw = .ok number) : Number.isFinite number := by
  obtain ⟨_, _, _, finite⟩ := Number.parse?_eq_some_iff.mp (parseValue_eq_ok_iff.mp read)
  exact finite

theorem spells_of_parseValue (read : parseValue raw = .ok number) {char : Char} (member : char ∈ raw.toList) :
    Numeral.Spells char ∨ Text.isBlank char := by
  obtain ⟨numeral, spelled, _⟩ := Number.parse?_eq_some_iff.mp (parseValue_eq_ok_iff.mp read)
  obtain ⟨_, before, after, whole, leading, trailing⟩ := Text.trim_eq_iff.mp (rfl : Text.trim raw.toList = _)
  rw [whole, List.mem_append, List.mem_append] at member
  rcases member with (first | inside) | last
  · exact .inr (leading char first)
  · exact .inl (Numeral.spells_of_mem spelled inside)
  · exact .inr (trailing char last)

/-- A value holds no bar, so that it is one field of a message. -/
theorem bar_not_mem_of_parseValue (read : parseValue raw = .ok number) : '|' ∉ raw.toList := by
  intro bar
  rcases spells_of_parseValue read bar with spells | blank
  · exact absurd spells (by decide)
  · exact absurd blank (by decide)

end MetricAggregation
