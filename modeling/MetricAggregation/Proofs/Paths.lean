import Mathlib.Data.List.Basic
import Mathlib.Data.String.Basic
import MetricAggregation.Proofs.Datapoint

/-!
How a stem, a key and a name make up a path. A point at the end of a key serves as the separator behind
it, so that two keys which differ by just that point make up the same paths.
-/

namespace MetricAggregation

/-- A text that a name can follow in a path: it is empty, or it ends with a separator. -/
def IsSeparated (text : String) : Prop := text = "" ∨ text.toList.getLast? = some '.'

instance : DecidablePred IsSeparated := fun _ => inferInstanceAs (Decidable (_ ∨ _))

/-- A stem, with a separator behind it unless it needs none. -/
def separated (stem : String) : String := if IsSeparated stem then stem else stem ++ "."

/-- A name is one part of a path. -/
def IsUndotted (name : String) : Prop := '.' ∉ name.toList

instance : DecidablePred IsUndotted := fun _ => inferInstanceAs (Decidable (¬_))

namespace Key

/-- A key goes on from another one by just a point, which serves as the separator behind it. -/
def Extends (longer shorter : String) : Prop :=
  longer = shorter ++ "." ∧ ¬IsSeparated shorter

/-- Two keys differ by just a separating point at the end of one. -/
def Twins (left right : String) : Prop := Extends left right ∨ Extends right left

theorem Twins.symm {left right : String} (twins : Twins left right) : Twins right left := Or.symm twins

theorem Twins.ne {left right : String} (twins : Twins left right) : left ≠ right := by
  have longer (text : String) : text ++ "." ≠ text := by
    intro same
    have length := congrArg String.length same
    simp at length
  rintro rfl
  rcases twins with ⟨same, _⟩ | ⟨same, _⟩
  · exact longer left same.symm
  · exact longer left same.symm

end Key

theorem joinPath_eq (stem name : String) : joinPath stem name = separated stem ++ name := by
  unfold joinPath separated IsSeparated
  by_cases empty : stem = ""
  · subst empty
    simp
  · by_cases ended : stem.toList.getLast? = some '.'
    · simp [empty, ended]
    · simp [empty, ended]

theorem isSeparated_separated (stem : String) : IsSeparated (separated stem) := by
  unfold separated
  split
  · assumption
  · right
    simp

theorem separated_append {left : String} (ended : left.toList.getLast? = some '.') (right : String) :
    separated (left ++ right) = left ++ separated right := by
  have whole : IsSeparated (left ++ right) ↔ IsSeparated right := by
    by_cases empty : right = ""
    · subst empty
      simp [IsSeparated, ended]
    · simp [IsSeparated, empty]
  unfold separated
  by_cases closed : IsSeparated right
  · rw [if_pos closed, if_pos (whole.mpr closed)]
  · rw [if_neg closed, if_neg (mt whole.mp closed), String.append_assoc]

theorem separated_eq_iff {left right : String} :
    separated left = separated right ↔ left = right ∨ Key.Twins left right := by
  unfold separated Key.Twins Key.Extends
  by_cases leftClosed : IsSeparated left
  · by_cases rightClosed : IsSeparated right
    · simp [leftClosed, rightClosed]
    · have apart : left ≠ right := fun same => rightClosed (same ▸ leftClosed)
      simp [leftClosed, rightClosed, apart]
  · by_cases rightClosed : IsSeparated right
    · have apart : left ≠ right := fun same => leftClosed (same ▸ rightClosed)
      simp [leftClosed, rightClosed, apart, eq_comm]
    · have longer (text : String) : IsSeparated (text ++ ".") := .inr (by simp)
      have leftApart : left ≠ right ++ "." := fun same => leftClosed (same ▸ longer right)
      have rightApart : right ≠ left ++ "." := fun same => rightClosed (same ▸ longer left)
      simp [leftClosed, rightClosed, leftApart, rightApart, String.append_left_inj]

theorem takeWhile_reverse {text name : String} (closed : IsSeparated text) (plain : IsUndotted name) :
    (text ++ name).toList.reverse.takeWhile (· ≠ '.') = name.toList.reverse := by
  have kept : ∀ char ∈ name.toList.reverse, decide (char ≠ '.') = true := by
    intro char member
    simp only [decide_eq_true_eq]
    rintro rfl
    exact plain (List.mem_reverse.mp member)
  rw [String.toList_append, List.reverse_append, List.takeWhile_append_of_pos kept]
  rcases closed with rfl | ended
  · simp
  · rw [← List.head?_reverse] at ended
    cases reversed : text.toList.reverse with
    | nil => simp
    | cons last rest =>
        rw [reversed] at ended
        obtain rfl := Option.some.inj ended
        simp

/-- The last part of a path is what follows its last separator. -/
theorem append_eq_append_iff_of_undotted {left right name other : String} (leftClosed : IsSeparated left)
    (rightClosed : IsSeparated right) (plain : IsUndotted name) (otherPlain : IsUndotted other) :
    left ++ name = right ++ other ↔ left = right ∧ name = other := by
  constructor
  · intro same
    have reversed := takeWhile_reverse leftClosed plain
    rw [same, takeWhile_reverse rightClosed otherPlain, List.reverse_inj, String.toList_inj] at reversed
    subst reversed
    exact ⟨(String.append_left_inj _).mp same, rfl⟩
  · rintro ⟨rfl, rfl⟩
    rfl

theorem append_part_inj {left right name other : String} (plain : IsUndotted name)
    (otherPlain : IsUndotted other) :
    left ++ "." ++ name = right ++ "." ++ other ↔ left = right ∧ name = other := by
  rw [append_eq_append_iff_of_undotted (.inr (by simp)) (.inr (by simp)) plain otherPlain,
    String.append_left_inj]

theorem joinPath_joinPath_eq (stem key name : String) (open_ : stem ≠ "") :
    joinPath (joinPath stem key) name = separated stem ++ (separated key ++ name) := by
  have ended : (separated stem).toList.getLast? = some '.' := by
    refine (isSeparated_separated stem).resolve_left ?_
    unfold separated
    split
    · exact open_
    · simp
  rw [joinPath_eq, joinPath_eq, separated_append ended, String.append_assoc]

end MetricAggregation
