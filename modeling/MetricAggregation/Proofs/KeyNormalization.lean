import MetricAggregation.Proofs.Unbroken

/-!
How keys are normalized. A normalized key is spelled with the characters of a path, and a key spelled with these is
normalized already. Two texts can be normalized apart from each other unless a run of blanks or of slashes goes on from
one to the other.
-/

namespace MetricAggregation.Key

/-- A run of a class goes on from the end of one text to the start of another. -/
def Joins (inClass : Char → Bool) (left right : List Char) : Prop :=
  left.getLast?.any inClass ∧ right.head?.any inClass

instance (inClass : Char → Bool) (left right : List Char) : Decidable (Joins inClass left right) :=
  inferInstanceAs (Decidable (_ ∧ _))

section Runs

variable (inClass : Char → Bool) (mark : Char)

theorem collapse_ne_nil {text : List Char} (some : text ≠ []) : collapse inClass mark text ≠ [] := by
  induction text with
  | nil => exact absurd rfl some
  | cons char rest ih =>
      rw [collapse]
      split_ifs with _ goesOn
      · refine ih ?_
        rintro rfl
        simp at goesOn
      · exact List.cons_ne_nil _ _
      · exact List.cons_ne_nil _ _

theorem collapse_cons_cons (char next : Char) :
    ∃ first, ∀ rest, collapse inClass mark (char :: next :: rest) = first ++ collapse inClass mark (next :: rest) := by
  by_cases inside : inClass char
  · by_cases goesOn : inClass next
    · exact ⟨[], fun rest => by rw [collapse]; simp [inside, goesOn]⟩
    · exact ⟨[mark], fun rest => by rw [collapse]; simp [inside, goesOn]⟩
  · exact ⟨[char], fun rest => by rw [collapse]; simp [inside]⟩

/-- The mark of a run that goes on stands where the run ends. -/
theorem collapse_append (left right : List Char) :
    collapse inClass mark (left ++ right) =
      (if Joins inClass left right then (collapse inClass mark left).dropLast else collapse inClass mark left) ++
        collapse inClass mark right := by
  induction left with
  | nil => simp [Joins, collapse]
  | cons char rest ih =>
      cases rest with
      | nil =>
          simp only [List.cons_append, List.nil_append, collapse, Joins]
          by_cases inside : inClass char <;> by_cases goesOn : right.head?.any inClass <;> simp [inside, goesOn]
      | cons next rest =>
          obtain ⟨first, split⟩ := collapse_cons_cons inClass mark char next
          have joins : Joins inClass (char :: next :: rest) right ↔ Joins inClass (next :: rest) right := by
            rw [Joins, List.getLast?_cons_cons, Joins]
          rw [List.cons_append, List.cons_append, split, split, ← List.cons_append, ih, ← List.append_assoc,
            List.dropLast_append_of_ne_nil (collapse_ne_nil inClass mark (List.cons_ne_nil next rest))]
          simp only [joins]
          split_ifs <;> rfl

theorem head?_collapse (text : List Char) :
    (collapse inClass mark text).head? = text.head?.map fun char => if inClass char then mark else char := by
  induction text with
  | nil => rfl
  | cons char rest ih =>
      rw [collapse]
      split_ifs with inside goesOn
      · cases rest with
        | nil => simp at goesOn
        | cons next rest =>
            have also : inClass next = true := goesOn
            rw [ih]
            simp [inside, also]
      · simp [inside]
      · simp [inside]

theorem getLast?_collapse (text : List Char) :
    (collapse inClass mark text).getLast? = text.getLast?.map fun char => if inClass char then mark else char := by
  induction text with
  | nil => rfl
  | cons char rest ih =>
      cases rest with
      | nil =>
          rw [collapse]
          by_cases inside : inClass char <;> simp [inside, collapse]
      | cons next rest =>
          obtain ⟨first, split⟩ := collapse_cons_cons inClass mark char next
          rw [split, List.getLast?_append_of_ne_nil _ (collapse_ne_nil inClass mark (List.cons_ne_nil next rest)), ih,
            List.getLast?_cons_cons]

theorem eq_concat_of_joins {left right : List Char} (joins : Joins inClass left right) :
    ∃ stem, collapse inClass mark left = stem ++ [mark] := by
  obtain ⟨char, last, inside⟩ := (Option.any_eq_true _ _).mp joins.1
  have ended := getLast?_collapse inClass mark left
  rw [last, Option.map_some, if_pos inside] at ended
  exact List.getLast?_eq_some_iff.mp ended

theorem collapse_eq_self {text : List Char} (none : ∀ char ∈ text, inClass char = false) :
    collapse inClass mark text = text := by
  induction text with
  | nil => rfl
  | cons char rest ih =>
      have first : inClass char = false := none char List.mem_cons_self
      have others := ih fun other member => none other (List.mem_cons_of_mem char member)
      rw [collapse, others]
      simp [first]

end Runs

/-- A run of blanks or of slashes goes on from one text to another. -/
def Straddles (left right : List Char) : Prop := Joins Text.isBlank left right ∨ Joins (· = '/') left right

instance (left right : List Char) : Decidable (Straddles left right) := inferInstanceAs (Decidable (_ ∨ _))

theorem joins_slash_collapse_blank (left right : List Char) :
    Joins (· = '/') (collapse Text.isBlank '_' left) (collapse Text.isBlank '_' right) ↔ Joins (· = '/') left right := by
  have marked (char : Char) : (if Text.isBlank char then '_' else char) = '/' ↔ char = '/' := by
    by_cases blank : Text.isBlank char
    · have apart : char ≠ '/' := by
        rintro rfl
        exact absurd blank (by decide)
      simp [blank, apart]
    · simp [blank]
  simp [Joins, head?_collapse, getLast?_collapse, Option.any_map, marked]

theorem normalizeChars_append_of_straddles {left right : List Char} (straddles : Straddles left right) :
    ∃ stem mark, normalizeChars left = stem ++ [mark] ∧
      normalizeChars (left ++ right) = stem ++ normalizeChars right := by
  unfold normalizeChars
  by_cases blank : Joins Text.isBlank left right
  · -- The mark of the blanks is no slash, so that it parts the slashes on either side of it.
    obtain ⟨stem, ended⟩ := eq_concat_of_joins Text.isBlank '_' blank
    have parts : ¬Joins (· = '/') stem (collapse Text.isBlank '_' right) := by
      obtain ⟨char, head, inside⟩ := (Option.any_eq_true _ _).mp blank.2
      simp [Joins, head?_collapse, head, inside]
    have partsMark : ¬Joins (· = '/') stem ['_'] := by simp [Joins]
    refine ⟨(collapse (· = '/') '-' stem).filter isAllowed, '_', ?_, ?_⟩
    · rw [ended, collapse_append, if_neg partsMark]
      simp [collapse, isAllowed]
    · rw [collapse_append, if_pos blank, ended, List.dropLast_concat, collapse_append, if_neg parts, List.filter_append]
  · have joins := (joins_slash_collapse_blank left right).mpr (straddles.resolve_left blank)
    obtain ⟨stem, ended⟩ := eq_concat_of_joins _ '-' joins
    refine ⟨stem.filter isAllowed, '-', ?_, ?_⟩
    · rw [ended]
      simp [isAllowed]
    · rw [collapse_append, if_neg blank, collapse_append, if_pos joins, ended, List.dropLast_concat, List.filter_append]

theorem normalizeChars_append {left right : List Char} (apart : ¬Straddles left right) :
    normalizeChars (left ++ right) = normalizeChars left ++ normalizeChars right := by
  obtain ⟨blank, slash⟩ := not_or.mp apart
  have parts := (joins_slash_collapse_blank left right).not.mpr slash
  rw [normalizeChars, collapse_append, if_neg blank, collapse_append, if_neg parts, List.filter_append,
    ← normalizeChars, ← normalizeChars]

theorem normalizeChars_append_iff (left right : List Char) :
    normalizeChars (left ++ right) = normalizeChars left ++ normalizeChars right ↔ ¬Straddles left right := by
  refine ⟨fun same straddles => ?_, normalizeChars_append⟩
  obtain ⟨stem, mark, ended, joined⟩ := normalizeChars_append_of_straddles straddles
  rw [joined, ended, List.append_cancel_right_eq] at same
  simp at same

theorem isAllowed_of_mem_normalizeChars {raw : List Char} {char : Char} (member : char ∈ normalizeChars raw) :
    isAllowed char := (List.mem_filter.mp member).2

theorem normalizeChars_eq_self_iff (raw : List Char) : normalizeChars raw = raw ↔ ∀ char ∈ raw, isAllowed char := by
  constructor
  · intro same char member
    exact isAllowed_of_mem_normalizeChars (same ▸ member)
  · intro allowed
    have unbroken (char : Char) (member : char ∈ raw) : Text.isBlank char = false :=
      Text.isBlank_of_isAllowed (allowed char member)
    have unslashed (char : Char) (member : char ∈ raw) : decide (char = '/') = false := by
      rw [decide_eq_false_iff_not]
      rintro rfl
      exact absurd (allowed '/' member) (by decide)
    rw [normalizeChars, collapse_eq_self _ _ unbroken, collapse_eq_self _ _ unslashed, List.filter_eq_self.mpr allowed]

/-- A character of a path: a letter or digit of ASCII, an underscore, a dot or a hyphen. -/
def InPath (char : Char) : Prop :=
  'A' ≤ char ∧ char ≤ 'Z' ∨ 'a' ≤ char ∧ char ≤ 'z' ∨ '0' ≤ char ∧ char ≤ '9' ∨ char = '_' ∨ char = '.' ∨ char = '-'

instance : DecidablePred InPath := fun _ => inferInstanceAs (Decidable (_ ∨ _))

theorem isAllowed_iff {char : Char} : isAllowed char ↔ InPath char := by
  simp only [isAllowed, Char.isAlphanum, Char.isAlpha, Char.isUpper, Char.isLower, Char.isDigit, Bool.or_eq_true,
    Bool.and_eq_true, decide_eq_true_eq, ge_iff_le, or_assoc, InPath]
  rfl

theorem inPath_of_mem_normalize {text : String} {char : Char} (member : char ∈ (normalize text).toList) :
    InPath char := by
  rw [normalize, String.toList_ofList] at member
  exact isAllowed_iff.mp (isAllowed_of_mem_normalizeChars member)

theorem normalize_eq_self_iff {text : String} : normalize text = text ↔ ∀ char ∈ text.toList, InPath char := by
  simp only [← String.toList_inj, normalize, String.toList_ofList, normalizeChars_eq_self_iff, isAllowed_iff]

theorem normalize_normalize (text : String) : normalize (normalize text) = normalize text :=
  normalize_eq_self_iff.mpr fun _ => inPath_of_mem_normalize

theorem normalize_append_iff {left right : String} :
    normalize (left ++ right) = normalize left ++ normalize right ↔ ¬Straddles left.toList right.toList := by
  simp only [← String.toList_inj, normalize, String.toList_append, String.toList_ofList, normalizeChars_append_iff]

theorem isBlank_of_inPath {char : Char} (inPath : InPath char) : Text.isBlank char = false :=
  Text.isBlank_of_isAllowed (isAllowed_iff.mpr inPath)

theorem not_straddles_of_inPath (left : List Char) {right : List Char} (inPath : ∀ char ∈ right, InPath char) :
    ¬Straddles left right := by
  cases right with
  | nil => simp [Straddles, Joins]
  | cons char rest =>
      have head := inPath char List.mem_cons_self
      have unslashed : char ≠ '/' := by
        rintro rfl
        exact absurd (isAllowed_iff.mpr head) (by decide)
      simp [Straddles, Joins, isBlank_of_inPath head, unslashed]

/-- Normalization keeps a suffix of characters that may stand in a key. -/
theorem normalize_append (raw : String) {suffix : String} (allowed : suffix.toList.all isAllowed) :
    normalize (raw ++ suffix) = normalize raw ++ suffix := by
  have inPath : ∀ char ∈ suffix.toList, InPath char := fun char member =>
    isAllowed_iff.mp (List.all_eq_true.mp allowed char member)
  rw [normalize_append_iff.mpr (not_straddles_of_inPath _ inPath), normalize_eq_self_iff.mpr inPath]

/-- Normalized keys are spelled with the characters of a path, and the texts spelled with these are those that
normalization leaves as they are. It goes by parts unless a run of blanks or of slashes goes on from one part to the
other: the two parts would have a mark each where the whole has one. -/
theorem normalize_laws :
    (∀ text, ∀ char ∈ (normalize text).toList, InPath char) ∧
      (∀ text, normalize text = text ↔ ∀ char ∈ text.toList, InPath char) ∧
      (∀ text, normalize (normalize text) = normalize text) ∧
      ∀ left right, normalize (left ++ right) = normalize left ++ normalize right ↔
        ¬Straddles left.toList right.toList :=
  ⟨fun _ _ => inPath_of_mem_normalize, fun _ => normalize_eq_self_iff, normalize_normalize,
    fun _ _ => normalize_append_iff⟩

end MetricAggregation.Key
