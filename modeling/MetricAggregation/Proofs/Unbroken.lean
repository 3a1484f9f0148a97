import Mathlib
import MetricAggregation.Datapoint
import MetricAggregation.Double.Number
import MetricAggregation.Key
import MetricAggregation.Text.Word

/-!
Texts without blank characters: keys, the words of service level rules, and numbers as they are written
in reports. What is made of such texts by joining has no blanks either.
-/

namespace MetricAggregation.Text

def Unbroken (text : String) : Prop := ∀ char ∈ text.toList, isBlank char = false

theorem all_iff_unbroken {text : String} :
    (text.toList.all fun char => !isBlank char) = true ↔ Unbroken text := by
  simp only [List.all_eq_true, Bool.not_eq_true', Unbroken]

instance : DecidablePred Unbroken := fun _ => decidable_of_iff _ all_iff_unbroken

section Characters

theorem isBlank_of_graphic {char : Char} (low : 0x20 < char.toNat) (high : char.toNat < 0x85) :
    isBlank char = false := by
  simp only [isBlank, Bool.or_eq_false_iff, Bool.and_eq_false_iff, decide_eq_false_iff_not]
  omega

theorem isBlank_of_isAllowed {char : Char} (allowed : Key.isAllowed char) : isBlank char = false := by
  simp only [Key.isAllowed, Char.isAlphanum, Char.isAlpha, Char.isUpper, Char.isLower, Char.isDigit,
    Bool.or_eq_true, Bool.and_eq_true, decide_eq_true_eq, UInt32.le_iff_toNat_le, ge_iff_le] at allowed
  rcases allowed with (((((⟨low, high⟩ | ⟨low, high⟩) | ⟨low, high⟩) | rfl) | rfl) | rfl)
  · exact isBlank_of_graphic (Nat.lt_of_lt_of_le (by decide) low) (Nat.lt_of_le_of_lt high (by decide))
  · exact isBlank_of_graphic (Nat.lt_of_lt_of_le (by decide) low) (Nat.lt_of_le_of_lt high (by decide))
  · exact isBlank_of_graphic (Nat.lt_of_lt_of_le (by decide) low) (Nat.lt_of_le_of_lt high (by decide))
  · rfl
  · rfl
  · rfl

theorem isBlank_of_isDigit {char : Char} (digit : char.isDigit) : isBlank char = false := by
  apply isBlank_of_isAllowed
  simp [Key.isAllowed, Char.isAlphanum, digit]

def blankCodes : List Nat :=
  List.range' 9 5 ++ [0x20, 0x85, 0xA0, 0x1680] ++ List.range' 0x2000 11 ++
    [0x2028, 0x2029, 0x202F, 0x205F, 0x3000]

theorem mem_blankCodes {char : Char} (blank : isBlank char) : char.toNat ∈ blankCodes := by
  simp only [isBlank, Bool.or_eq_true, Bool.and_eq_true, decide_eq_true_eq] at blank
  simp only [blankCodes, List.mem_append, List.mem_range'_1, List.mem_cons, List.not_mem_nil, or_false]
  omega

theorem isBlank_of_isWord {char : Char} (word : isWord char) : isBlank char = false := by
  have apart : ∀ code ∈ blankCodes,
      (wordRanges.any fun range => range.1 ≤ code && code ≤ range.2) = false := by
    decide +kernel
  rw [← Bool.not_eq_true]
  intro blank
  have missed := apart char.toNat (mem_blankCodes blank)
  rw [isWord, inRanges, missed] at word
  cases word

end Characters

theorem Unbroken.append {left right : String} (first : Unbroken left) (second : Unbroken right) :
    Unbroken (left ++ right) := by
  intro char member
  rw [String.toList_append, List.mem_append] at member
  exact member.elim (first char) (second char)

theorem unbroken_ofList {chars : List Char} :
    Unbroken (String.ofList chars) ↔ ∀ char ∈ chars, isBlank char = false := by
  rw [Unbroken, String.toList_ofList]

theorem unbroken_joinPath {stem name : String} (stemUnbroken : Unbroken stem) (nameUnbroken : Unbroken name) :
    Unbroken (joinPath stem name) := by
  unfold joinPath
  split
  · exact nameUnbroken
  · split
    · exact stemUnbroken.append nameUnbroken
    · exact (stemUnbroken.append (by decide)).append nameUnbroken

theorem unbroken_of_isAllowed {text : String} (allowed : ∀ char ∈ text.toList, Key.isAllowed char) :
    Unbroken text := by
  intro char member
  exact isBlank_of_isAllowed (allowed char member)

theorem unbroken_normalizeChars (raw : List Char) : Unbroken (String.ofList (Key.normalizeChars raw)) := by
  rw [unbroken_ofList]
  intro char member
  exact isBlank_of_isAllowed (List.mem_filter.mp member).2

theorem isBlank_of_mem_toDigits {number : Nat} {char : Char} (member : char ∈ Nat.toDigits 10 number) :
    isBlank char = false :=
  isBlank_of_isDigit (Nat.isDigit_of_mem_toDigits (by decide) (by decide) member)

theorem unbroken_toString (number : Nat) : Unbroken (toString number) := by
  rw [Nat.toString_eq_ofList_toDigits, unbroken_ofList]
  exact fun char => isBlank_of_mem_toDigits

theorem unbroken_toString_int (number : Int) : Unbroken (toString number) := by
  rw [Int.toString_eq_repr]
  cases number with
  | ofNat whole => exact unbroken_toString whole
  | negSucc whole => exact .append (by decide) (unbroken_toString (whole + 1))

section Doubles

open Decimal

theorem unbroken_arrange (digits : List Char) (place : Int) (layout : Layout)
    (plain : ∀ char ∈ digits, isBlank char = false) (ended : Unbroken layout.wholeEnd) :
    Unbroken (layout.arrange digits place) := by
  have zeros (count : Nat) : ∀ char ∈ List.replicate count '0', isBlank char = false := by
    intro char member
    rw [List.eq_of_mem_replicate member]
    rfl
  have taken (count : Nat) : ∀ char ∈ digits.take count, isBlank char = false :=
    fun char member => plain char (List.mem_of_mem_take member)
  have dropped (count : Nat) : ∀ char ∈ digits.drop count, isBlank char = false :=
    fun char member => plain char (List.mem_of_mem_drop member)
  have both {left right : List Char} (first : ∀ char ∈ left, isBlank char = false)
      (second : ∀ char ∈ right, isBlank char = false) : ∀ char ∈ left ++ right, isBlank char = false :=
    fun char member => (List.mem_append.mp member).elim (first char) (second char)
  unfold Layout.arrange
  split
  · split
    · exact .append (by decide) (unbroken_ofList.mpr (both (zeros _) plain))
    · refine .append (unbroken_ofList.mpr (both (taken _) (zeros _))) ?_
      split
      · exact ended
      · exact .append (by decide) (unbroken_ofList.mpr (dropped _))
  · refine .append (.append ?_ (by decide)) (unbroken_toString_int _)
    refine .append (unbroken_ofList.mpr (taken _)) ?_
    split
    · exact .append (by decide) (unbroken_ofList.mpr (dropped _))
    · decide

theorem unbroken_writeScaled (layout : Layout) (scaled : Scaled) (ended : Unbroken layout.wholeEnd) :
    Unbroken (layout.writeScaled scaled) := by
  apply unbroken_arrange _ _ _ _ ended
  intro char member
  rw [List.mem_reverse] at member
  have inReverse := (List.dropWhile_sublist _).subset member
  exact isBlank_of_mem_toDigits (List.mem_reverse.mp inReverse)

theorem unbroken_write (layout : Layout) (value : Double) (ended : Unbroken layout.wholeEnd) :
    Unbroken (layout.write value) := by
  have sign : Unbroken (if value.isNegative then "-" else "") := by
    split
    · decide
    · decide
  simp only [Layout.write]
  generalize (if value.isNegative then "-" else "") = signText at sign
  split
  · decide
  · split
    · exact sign.append (by decide)
    · split
      · exact (sign.append (by decide)).append ended
      · exact sign.append (unbroken_writeScaled layout _ ended)

end Doubles

end MetricAggregation.Text

namespace MetricAggregation

/-- Numbers that are reported without blanks. -/
class UnbrokenNumber (α : Type) [Number α] : Prop where
  unbroken_text (value : α) : Text.Unbroken (Number.text value)

instance : UnbrokenNumber Double where
  unbroken_text value := by
    change Text.Unbroken (Double.text value)
    simp only [Double.text]
    split
    · exact Text.unbroken_toString_int _
    · exact Text.unbroken_write .report value (by decide)

end MetricAggregation
