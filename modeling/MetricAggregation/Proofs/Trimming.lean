import Mathlib.Data.List.TakeWhile
import MetricAggregation.Text.Blank

/-!
What is left of a text without the blanks around it, and the parts of a text between its blanks.
-/

namespace MetricAggregation.Text

/-- A text that neither starts nor ends with a blank. -/
def IsTight (text : List Char) : Prop :=
  (∀ char ∈ text.head?, isBlank char = false) ∧ ∀ char ∈ text.getLast?, isBlank char = false

/-- A text is what is left of another one without the blanks around it. -/
def IsCore (text core : List Char) : Prop :=
  IsTight core ∧ ∃ before after, text = before ++ core ++ after ∧
    (∀ char ∈ before, isBlank char = true) ∧ ∀ char ∈ after, isBlank char = true

theorem dropWhile_eq_iff {β : Type} {drops : β → Bool} {text rest : List β} :
    text.dropWhile drops = rest ↔ (∀ char ∈ rest.head?, drops char = false) ∧
      ∃ before, text = before ++ rest ∧ ∀ char ∈ before, drops char = true := by
  constructor
  · rintro rfl
    refine ⟨?_, text.takeWhile drops, List.takeWhile_append_dropWhile.symm, fun _ => List.mem_takeWhile_imp⟩
    intro char head
    have stops := List.head?_dropWhile_not drops text
    rwa [head] at stops
  · rintro ⟨stops, before, rfl, dropped⟩
    rw [List.dropWhile_append_of_pos dropped]
    cases rest with
    | nil => rfl
    | cons char rest => rw [List.dropWhile_cons_of_neg (by simp [stops char rfl])]

theorem trimEnd_eq_iff {text rest : List Char} :
    trimEnd text = rest ↔ (∀ char ∈ rest.getLast?, isBlank char = false) ∧
      ∃ after, text = rest ++ after ∧ ∀ char ∈ after, isBlank char = true := by
  rw [trimEnd, List.reverse_eq_iff, dropWhile_eq_iff, List.head?_reverse]
  refine and_congr_right fun _ => ⟨?_, ?_⟩
  · rintro ⟨before, reversed, blank⟩
    refine ⟨before.reverse, ?_, fun char member => blank char (List.mem_reverse.mp member)⟩
    rw [← List.reverse_inj, reversed, List.reverse_append, List.reverse_reverse]
  · rintro ⟨after, rfl, blank⟩
    exact ⟨after.reverse, List.reverse_append, fun char member => blank char (List.mem_reverse.mp member)⟩

theorem trim_eq_iff {text core : List Char} : trim text = core ↔ IsCore text core := by
  constructor
  · intro trimmed
    obtain ⟨last, after, rest, trailing⟩ := trimEnd_eq_iff.mp trimmed
    obtain ⟨first, before, whole, leading⟩ := dropWhile_eq_iff.mp rest
    refine ⟨⟨fun char head => first char ?_, last⟩, before, after, by rw [List.append_assoc, whole], leading, trailing⟩
    rw [List.head?_append, head]
    rfl
  · rintro ⟨⟨first, last⟩, before, after, rfl, leading, trailing⟩
    cases core with
    | nil =>
        have blank : ∀ char ∈ before ++ [] ++ after, isBlank char = true := by
          simpa [or_imp, forall_and] using ⟨leading, trailing⟩
        rw [trim, List.dropWhile_eq_nil_iff.mpr blank]
        rfl
    | cons char rest =>
        have started : (before ++ char :: rest ++ after).dropWhile isBlank = char :: rest ++ after :=
          dropWhile_eq_iff.mpr ⟨first, before, List.append_assoc before _ after, leading⟩
        rw [trim, started, trimEnd_eq_iff]
        exact ⟨last, after, rfl, trailing⟩

theorem isCore_self {text : List Char} (tight : IsTight text) : IsCore text text :=
  ⟨tight, [], [], by simp, by simp, by simp⟩

theorem trim_concat {char : Char} (blank : isBlank char = true) (text : List Char) :
    trim (text ++ [char]) = trim text := by
  obtain ⟨tight, before, after, whole, leading, trailing⟩ := trim_eq_iff.mp (rfl : trim text = _)
  refine trim_eq_iff.mpr ⟨tight, before, after ++ [char], ?_, leading, ?_⟩
  · rw [← List.append_assoc, ← whole]
  · simpa [or_imp, forall_and] using ⟨trailing, blank⟩

section Parts

/-- The parts of a text, in order: blanks stand before them, between any two of them and behind them, and nowhere in
them. -/
inductive Parts : List Char → List (List Char) → Prop
  | blank {gap : List Char} : (∀ char ∈ gap, isBlank char = true) → Parts gap []
  | part {gap part rest : List Char} {parts : List (List Char)} : (∀ char ∈ gap, isBlank char = true) → part ≠ [] →
      (∀ char ∈ part, isBlank char = false) → (∀ char ∈ rest.head?, isBlank char = true) → Parts rest parts →
      Parts (gap ++ part ++ rest) (part :: parts)

theorem blankSeparated_append_cons {char : Char} (blank : isBlank char = true) (left right : List Char) :
    blankSeparated (left ++ char :: right) = blankSeparated left ++ blankSeparated right := by
  rw [blankSeparated, List.splitOnP_append_cons left right blank, List.filter_append]
  rfl

theorem blankSeparated_gap_append {gap : List Char} (blank : ∀ char ∈ gap, isBlank char = true) (rest : List Char) :
    blankSeparated (gap ++ rest) = blankSeparated rest := by
  induction gap with
  | nil => rfl
  | cons char gap ih =>
      obtain ⟨first, others⟩ := List.forall_mem_cons.mp blank
      rw [List.cons_append, ← List.nil_append (char :: _), blankSeparated_append_cons first, ih others]
      rfl

theorem blankSeparated_part {part : List Char} (filled : part ≠ []) (whole : ∀ char ∈ part, isBlank char = false) :
    blankSeparated part = [part] := by
  rw [blankSeparated, List.splitOnP_eq_singleton whole]
  simp [filled]

theorem Parts.blankSeparated_eq {text : List Char} {parts : List (List Char)} (parted : Parts text parts) :
    blankSeparated text = parts := by
  induction parted with
  | @blank gap blank =>
      rw [← List.append_nil gap, blankSeparated_gap_append blank]
      rfl
  | @part gap part rest parts blank filled whole apart _ ih =>
      rw [List.append_assoc, blankSeparated_gap_append blank]
      cases rest with
      | nil =>
          rw [List.append_nil, blankSeparated_part filled whole, ← ih]
          rfl
      | cons char rest =>
          have first : isBlank char = true := apart char rfl
          rw [blankSeparated_append_cons first, blankSeparated_part filled whole, ← ih,
            ← List.nil_append (char :: rest), blankSeparated_append_cons first]
          rfl

theorem Parts.cons_blank {char : Char} {text : List Char} {parts : List (List Char)} (blank : isBlank char = true)
    (parted : Parts text parts) : Parts (char :: text) parts := by
  cases parted with
  | blank gap => exact .blank (List.forall_mem_cons.mpr ⟨blank, gap⟩)
  | @part before part rest parts gap filled whole apart parted =>
      have longer : Parts ((char :: before) ++ part ++ rest) (part :: parts) :=
        .part (List.forall_mem_cons.mpr ⟨blank, gap⟩) filled whole apart parted
      exact longer

theorem Parts.exists_cons {char : Char} {text : List Char} {parts : List (List Char)} (filled : isBlank char = false)
    (parted : Parts text parts) : ∃ others, Parts (char :: text) others := by
  -- The character goes on with the part that follows it at once, and is a part alone if there is none.
  have alone (apart : ∀ other ∈ text.head?, isBlank other = true) : ∃ others, Parts (char :: text) others := by
    have first : Parts ([] ++ [char] ++ text) ([char] :: parts) :=
      .part nofun nofun (by simpa using filled) apart parted
    exact ⟨_, first⟩
  cases parted with
  | blank gap => exact alone fun other head => gap other (List.mem_of_mem_head? head)
  | @part before part rest parts gap _ whole apart parted =>
      cases before with
      | nil =>
          have longer : Parts ([] ++ (char :: part) ++ rest) ((char :: part) :: parts) :=
            .part nofun nofun (List.forall_mem_cons.mpr ⟨filled, whole⟩) apart parted
          exact ⟨_, longer⟩
      | cons first before =>
          refine alone fun other head => ?_
          obtain rfl : first = other := Option.some.inj head
          exact gap first List.mem_cons_self

theorem exists_parts (text : List Char) : ∃ parts, Parts text parts := by
  induction text with
  | nil => exact ⟨[], .blank nofun⟩
  | cons char rest ih =>
      obtain ⟨parts, parted⟩ := ih
      cases blank : isBlank char with
      | true => exact ⟨parts, parted.cons_blank blank⟩
      | false => exact parted.exists_cons blank

theorem blankSeparated_eq_iff {text : List Char} {parts : List (List Char)} :
    blankSeparated text = parts ↔ Parts text parts := by
  constructor
  · rintro rfl
    obtain ⟨parts, parted⟩ := exists_parts text
    rwa [parted.blankSeparated_eq]
  · exact Parts.blankSeparated_eq

end Parts

end MetricAggregation.Text
