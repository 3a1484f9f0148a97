import Mathlib.Data.UInt
import Mathlib.Order.Basic
import Mathlib.Tactic.SplitIfs

/-!
Texts as the bytes that encode them. Bytes compare as the texts do, and a byte of ASCII stands for its
own character only.
-/

namespace MetricAggregation.Text

def bytes (text : String) : List UInt8 := text.toUTF8.data.toList

theorem bytes_eq (text : String) : bytes text = text.toList.flatMap String.utf8EncodeChar := by
  rw [bytes, String.toUTF8_eq_toByteArray, ← String.utf8Encode_toList, List.utf8Encode,
    List.data_toByteArray]

theorem bytes_inj {left right : String} : bytes left = bytes right ↔ left = right := by
  refine ⟨fun same => ?_, congrArg bytes⟩
  exact String.toByteArray_inj.mp (ByteArray.ext (Array.toList_inj.mp same))

theorem bytes_append (left right : String) : bytes (left ++ right) = bytes left ++ bytes right := by
  rw [bytes_eq, String.toList_append, List.flatMap_append, ← bytes_eq, ← bytes_eq]

theorem toNat_lt (char : Char) : char.toNat < 0x110000 := by
  rcases char.valid with low | high
  · exact Nat.lt_trans low (by decide)
  · exact high.2

theorem ofNat_cons_lt {left right : Nat} {first second : List UInt8} (bound : right < 256)
    (atMost : left ≤ right) (tied : left = right → first < second) :
    UInt8.ofNat left :: first < UInt8.ofNat right :: second := by
  rw [List.cons_lt_cons_iff]
  rcases Nat.lt_or_eq_of_le atMost with below | same
  · exact .inl ((UInt8.ofNat_lt_iff_lt (Nat.lt_trans below bound) bound).mpr below)
  · exact .inr ⟨congrArg UInt8.ofNat same, tied same⟩

/-- The encoding of a lower character is lower, and neither is a start of the other. -/
theorem utf8EncodeChar_append_lt {left right : Char} (below : left < right) (first second : List UInt8) :
    String.utf8EncodeChar left ++ first < String.utf8EncodeChar right ++ second := by
  have order : left.val.toNat < right.val.toNat := below
  have last : right.val.toNat < 0x110000 := toNat_lt right
  simp only [String.utf8EncodeChar]
  generalize left.val.toNat = lower at order
  generalize right.val.toNat = upper at order last
  -- One case for every pair of lengths. The bytes are compared from the first one on, and cannot all agree.
  split_ifs
  all_goals try omega
  all_goals simp only [List.cons_append, List.nil_append]
  all_goals repeat
    refine ofNat_cons_lt (by omega) (by omega) fun tied => ?_
    try omega

theorem flatMap_utf8EncodeChar_lt {left right : List Char} (below : left < right) :
    left.flatMap String.utf8EncodeChar < right.flatMap String.utf8EncodeChar := by
  induction below with
  | @nil char rest =>
      rw [List.flatMap_nil, List.flatMap_cons]
      cases encoded : String.utf8EncodeChar char with
      | nil => exact absurd encoded String.utf8EncodeChar_ne_nil
      | cons => exact List.nil_lt_cons _ _
  | cons _ ih => exact List.append_left_lt ih
  | rel lower => exact utf8EncodeChar_append_lt lower _ _

theorem bytes_lt {left right : String} (below : left < right) : bytes left < bytes right := by
  rw [bytes_eq, bytes_eq]
  exact flatMap_utf8EncodeChar_lt below

theorem bytes_le {left right : String} (atMost : left ≤ right) : bytes left ≤ bytes right := by
  rcases Std.lt_trichotomy left right with below | rfl | above
  · exact List.lt_asymm (bytes_lt below)
  · exact List.lt_irrefl _
  · exact absurd above atMost

theorem toNat_eq_of_mem_utf8EncodeChar {char : Char} {byte : UInt8} (ascii : byte.toNat < 128)
    (member : byte ∈ String.utf8EncodeChar char) : char.toNat = byte.toNat := by
  have last : char.val.toNat < 0x110000 := toNat_lt char
  change char.val.toNat = byte.toNat
  simp only [String.utf8EncodeChar] at member
  generalize char.val.toNat = code at member last
  split_ifs at member
  all_goals
    simp only [List.mem_cons, List.not_mem_nil, or_false] at member
    rcases member with rfl | rfl | rfl | rfl
  all_goals
    simp only [UInt8.toNat_ofNat'] at ascii ⊢
    omega

theorem not_mem_bytes {text : String} {byte : UInt8} (ascii : byte.toNat < 128)
    (absent : ∀ char ∈ text.toList, char.toNat ≠ byte.toNat) : byte ∉ bytes text := by
  intro member
  rw [bytes_eq, List.mem_flatMap] at member
  obtain ⟨char, inText, encoded⟩ := member
  exact absent char inText (toNat_eq_of_mem_utf8EncodeChar ascii encoded)

end MetricAggregation.Text
