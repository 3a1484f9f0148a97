import Mathlib.Data.List.Chain
import MetricAggregation.PayloadWriter

/-!
How a writer packs lines into payloads. Its buffer always is its lines in groups, of which all but the last
are closed: a payload holds the lines of one group, and a group is only begun by a line that did not fit
into the one before.
-/

namespace MetricAggregation

theorem countP_add_countP_not {β : Type} (keep : β → Bool) (entries : List β) :
    entries.countP keep + entries.countP (fun entry => !keep entry) = entries.length := by
  rw [List.length_eq_countP_add_countP keep]
  simp

def joined : List ByteArray → ByteArray
  | [] => .empty
  | piece :: rest => piece ++ joined rest

theorem joined_append (left right : List ByteArray) :
    joined (left ++ right) = joined left ++ joined right := by
  induction left with
  | nil => exact ByteArray.empty_append.symm
  | cons piece rest ih => rw [List.cons_append, joined, joined, ih, ByteArray.append_assoc]

theorem joined_singleton (piece : ByteArray) : joined [piece] = piece := ByteArray.append_empty

theorem joined_flatten (groups : List (List ByteArray)) :
    joined groups.flatten = joined (groups.map joined) := by
  induction groups with
  | nil => rfl
  | cons group rest ih => rw [List.flatten_cons, joined_append, ih, List.map_cons, joined]

theorem size_joined_pos {lines : List ByteArray} (present : lines ≠ []) (full : ∀ line ∈ lines, 0 < line.size) :
    0 < (joined lines).size := by
  cases lines with
  | nil => exact absurd rfl present
  | cons line rest =>
      have first := full line List.mem_cons_self
      rw [joined, ByteArray.size_append]
      omega

/-- A line that begins a group did not fit behind another group. -/
def Overflows (maxLength : Nat) (group next : List ByteArray) : Prop :=
  ∀ line ∈ next.head?, maxLength < (joined group).size + line.size

/-- Payloads made of groups of whole lines, in their order: none is empty or too long, and none was begun
before it had to be. -/
structure IsPacking (maxLength : Nat) (lines payloads : List ByteArray) (groups : List (List ByteArray)) :
    Prop where
  made : payloads = groups.map joined
  whole : lines = groups.flatten
  full : ∀ payload ∈ payloads, 0 < payload.size
  bounded : ∀ payload ∈ payloads, payload.size ≤ maxLength
  greedy : groups.IsChain (Overflows maxLength)

namespace Payloads

def pull : Nat → Payloads → List ByteArray × Payloads
  | 0, payloads => ([], payloads)
  | count + 1, payloads =>
    match payloads.next? with
    | none => ([], payloads)
    | some (payload, rest) =>
      let (others, left) := pull count rest
      (payload :: others, left)

theorem pull_eq (count : Nat) : ∀ payloads : Payloads,
    (pull count payloads).1 = payloads.toList.take count ∧
      (pull count payloads).2.toList = payloads.toList.drop count := by
  induction count with
  | zero => exact fun _ => ⟨rfl, rfl⟩
  | succ count ih =>
      rintro ⟨buffer, start, ends⟩
      cases ends with
      | nil => exact ⟨rfl, rfl⟩
      | cons stop rest =>
          obtain ⟨others, left⟩ := ih ⟨buffer, stop, rest⟩
          exact ⟨congrArg (buffer.extract start stop :: ·) others, left⟩

/-- Where payloads end that follow one another from a position on. -/
def endsFrom (start : Nat) : List ByteArray → List Nat
  | [] => []
  | payload :: rest => (start + payload.size) :: endsFrom (start + payload.size) rest

theorem endsFrom_concat (payload : ByteArray) : ∀ (payloads : List ByteArray) (start : Nat),
    endsFrom start (payloads ++ [payload]) =
      endsFrom start payloads ++ [start + (joined payloads).size + payload.size] := by
  intro payloads
  induction payloads with
  | nil => exact fun start => rfl
  | cons first rest ih =>
      intro start
      simp only [List.cons_append, endsFrom, ih, joined, ByteArray.size_append, Nat.add_assoc]

theorem slices_endsFrom (payloads : List ByteArray) : ∀ before : ByteArray,
    slices (before ++ joined payloads) before.size (endsFrom before.size payloads) = payloads := by
  induction payloads with
  | nil => exact fun _ => rfl
  | cons payload rest ih =>
      intro before
      have slice := ByteArray.extract_append_size_add (a := before) (b := payload ++ joined rest)
        (i := 0) (j := payload.size)
      rw [Nat.add_zero, ByteArray.extract_append_eq_left rfl] at slice
      have others := ih (before ++ payload)
      rw [ByteArray.append_assoc, ByteArray.size_append] at others
      rw [joined, endsFrom, slices, slice, others]

theorem getLast?_endsFrom (payloads : List ByteArray) (start : Nat) :
    (endsFrom start payloads).getLast?.getD start = start + (joined payloads).size := by
  induction payloads using List.reverseRecOn with
  | nil => rfl
  | append_singleton rest payload _ =>
      rw [endsFrom_concat, List.getLast?_concat, Option.getD_some, joined_append, joined_singleton,
        ByteArray.size_append, Nat.add_assoc]

end Payloads

namespace PayloadWriter

/-- What a writer has been given: lines in closed groups, and a group that is still open. -/
structure Holds (maxLength : Nat) (closed : List (List ByteArray)) (opened : List ByteArray)
    (writer : PayloadWriter) : Prop where
  limit : writer.maxLength = maxLength
  buffer : writer.buffer = joined (closed.flatten ++ opened)
  cuts : writer.cuts.toList = Payloads.endsFrom 0 (closed.map joined)
  full : ∀ line ∈ closed.flatten ++ opened, 0 < line.size
  inhabited : ∀ group ∈ closed, group ≠ []
  bounded : ∀ group ∈ closed ++ [opened], (joined group).size ≤ maxLength
  greedy : (closed ++ [opened]).IsChain (Overflows maxLength)
  -- A group is only closed by a line that begins the next one.
  begun : opened = [] → closed = []

variable {maxLength : Nat} {closed : List (List ByteArray)} {opened : List ByteArray}
variable {writer : PayloadWriter}

theorem holds_empty (maxLength : Nat) : Holds maxLength [] [] (empty maxLength) where
  limit := rfl
  buffer := rfl
  cuts := rfl
  full := by simp
  inhabited := by simp
  bounded := by simp [joined]
  greedy := List.isChain_singleton _
  begun _ := rfl

theorem Holds.lastCut (holds : Holds maxLength closed opened writer) :
    writer.lastCut = (joined closed.flatten).size := by
  have last := Payloads.getLast?_endsFrom (closed.map joined) 0
  rw [← holds.cuts, Array.getLast?_toList, Nat.zero_add, ← joined_flatten] at last
  exact last

theorem Holds.size_buffer (holds : Holds maxLength closed opened writer) :
    writer.buffer.size = writer.lastCut + (joined opened).size := by
  rw [holds.lastCut, holds.buffer, joined_append, ByteArray.size_append]

theorem Holds.openLength (holds : Holds maxLength closed opened writer) :
    writer.openLength = (joined opened).size := by
  rw [PayloadWriter.openLength, holds.size_buffer, Nat.add_sub_cancel_left]

theorem Holds.openLength_eq_zero_iff (holds : Holds maxLength closed opened writer) :
    writer.openLength = 0 ↔ opened = [] := by
  rw [holds.openLength]
  constructor
  · intro nothing
    by_contra present
    have full := size_joined_pos present fun line member => holds.full line (List.mem_append_right _ member)
    omega
  · rintro rfl
    rfl

theorem Holds.append (holds : Holds maxLength closed opened writer) {line : ByteArray}
    (full : 0 < line.size) (fits : (joined opened).size + line.size ≤ maxLength)
    (present : opened ≠ [] ∨ closed = []) :
    Holds maxLength closed (opened ++ [line]) { writer with buffer := writer.buffer ++ line } where
  limit := holds.limit
  buffer := by
    rw [← List.append_assoc, joined_append _ [line], joined_singleton, ← holds.buffer]
  cuts := holds.cuts
  full := by
    intro other member
    rw [← List.append_assoc, List.mem_append, List.mem_singleton] at member
    rcases member with before | rfl
    · exact holds.full other before
    · exact full
  inhabited := holds.inhabited
  bounded := by
    intro group member
    rcases List.mem_append.mp member with before | last
    · exact holds.bounded group (List.mem_append_left _ before)
    · rw [List.mem_singleton.mp last, joined_append, joined_singleton, ByteArray.size_append]
      exact fits
  greedy := by
    rcases present with present | rfl
    · -- The same line begins the open group as before, and it overflows the last closed one.
      obtain ⟨first, rest, rfl⟩ := List.exists_cons_of_ne_nil present
      have before := List.isChain_append.mp holds.greedy
      refine List.isChain_append.mpr ⟨before.1, List.isChain_singleton _, ?_⟩
      intro group last next head
      rw [List.head?_singleton, Option.mem_some_iff] at head
      subst next
      exact before.2.2 group last (first :: rest) rfl
    · exact List.isChain_singleton _
  begun := by simp

theorem Holds.cut (holds : Holds maxLength closed opened writer) (present : opened ≠ []) :
    writer.cut.maxLength = maxLength ∧ writer.cut.buffer = writer.buffer ∧
      writer.cut.cuts.toList = Payloads.endsFrom 0 ((closed ++ [opened]).map joined) := by
  have some_ : writer.openLength ≠ 0 := fun nothing => present (holds.openLength_eq_zero_iff.mp nothing)
  rw [PayloadWriter.cut, if_neg some_]
  refine ⟨holds.limit, rfl, ?_⟩
  rw [Array.toList_push, holds.cuts, List.map_append, List.map_singleton, Payloads.endsFrom_concat,
    holds.size_buffer, holds.lastCut, joined_flatten, Nat.zero_add]

theorem Holds.begin (holds : Holds maxLength closed opened writer) {line : ByteArray}
    (full : 0 < line.size) (short : line.size ≤ maxLength)
    (overflows : maxLength < (joined opened).size + line.size) :
    Holds maxLength (closed ++ [opened]) [line]
      { writer.cut with buffer := writer.cut.buffer ++ line } := by
  have present : opened ≠ [] := by
    rintro rfl
    simp only [joined, ByteArray.size_empty] at overflows
    omega
  obtain ⟨limit, buffer, cuts⟩ := holds.cut present
  refine ⟨limit, ?_, cuts, ?_, ?_, ?_, ?_, by simp⟩
  · rw [buffer, holds.buffer, List.flatten_concat, joined_append _ [line], joined_singleton]
  · intro other member
    rw [List.flatten_concat, List.mem_append, List.mem_singleton] at member
    rcases member with before | rfl
    · exact holds.full other before
    · exact full
  · intro group member
    rcases List.mem_append.mp member with before | last
    · exact holds.inhabited group before
    · rwa [List.mem_singleton.mp last]
  · intro group member
    rcases List.mem_append.mp member with before | last
    · exact holds.bounded group before
    · rw [List.mem_singleton.mp last, joined_singleton]
      exact short
  · refine List.isChain_append.mpr ⟨holds.greedy, List.isChain_singleton _, ?_⟩
    intro group last next head
    rw [List.getLast?_concat, Option.mem_some_iff] at last
    rw [List.head?_singleton, Option.mem_some_iff] at head
    subst group next
    intro other first
    rw [List.head?_singleton, Option.mem_some_iff] at first
    subst other
    exact overflows

theorem Holds.addLine (holds : Holds maxLength closed opened writer) {line : ByteArray}
    (full : 0 < line.size) (short : line.size ≤ maxLength) :
    (writer.addLine line).1 = ⟨1, 0⟩ ∧ ∃ closed' opened',
      closed'.flatten ++ opened' = closed.flatten ++ opened ++ [line] ∧
        Holds maxLength closed' opened' (writer.addLine line).2 := by
  have limit : ¬writer.maxLength < line.size := by
    rw [holds.limit]
    omega
  rw [PayloadWriter.addLine, if_neg limit, holds.limit, holds.openLength]
  refine ⟨rfl, ?_⟩
  by_cases overflows : maxLength < (joined opened).size + line.size
  · rw [if_pos overflows]
    exact ⟨_, _, by simp, holds.begin full short overflows⟩
  · rw [if_neg overflows]
    have present : opened ≠ [] ∨ closed = [] := by
      by_cases absent : opened = []
      · exact .inr (holds.begun absent)
      · exact .inl absent
    exact ⟨_, _, (List.append_assoc _ _ _).symm, holds.append full (by omega) present⟩

/-- The payloads that are taken from a writer are its groups, the open one included. -/
theorem Holds.takePayloads (holds : Holds maxLength closed opened writer) :
    ∃ groups, IsPacking maxLength (closed.flatten ++ opened) writer.takePayloads.1.toList groups := by
  by_cases absent : opened = []
  · have none_ : closed = [] := holds.begun absent
    subst absent none_
    have nothing : writer.openLength = 0 := holds.openLength_eq_zero_iff.mpr rfl
    refine ⟨[], ?_, rfl, ?_, ?_, List.isChain_nil⟩
    all_goals rw [PayloadWriter.takePayloads, Payloads.toList, PayloadWriter.cut, if_pos nothing, holds.cuts]
    · rfl
    · simp [Payloads.endsFrom, Payloads.slices]
    · simp [Payloads.endsFrom, Payloads.slices]
  · have payloads : writer.takePayloads.1.toList = (closed ++ [opened]).map joined := by
      have slices := Payloads.slices_endsFrom ((closed ++ [opened]).map joined) .empty
      rw [ByteArray.empty_append, ByteArray.size_empty, ← joined_flatten, List.flatten_concat,
        ← holds.buffer] at slices
      rw [PayloadWriter.takePayloads, Payloads.toList, (holds.cut absent).2.2, slices]
    refine ⟨closed ++ [opened], payloads, by simp, ?_, ?_, holds.greedy⟩
    · rw [payloads]
      intro payload member
      obtain ⟨group, own, rfl⟩ := List.mem_map.mp member
      apply size_joined_pos
      · rcases List.mem_append.mp own with before | last
        · exact holds.inhabited group before
        · rwa [List.mem_singleton.mp last]
      · intro line inside
        apply holds.full line
        rw [← List.flatten_concat]
        exact List.mem_flatten_of_mem own inside
    · rw [payloads]
      intro payload member
      obtain ⟨group, own, rfl⟩ := List.mem_map.mp member
      exact holds.bounded group own

end PayloadWriter

section Steps

variable {α : Type}

/-- A use of a writer. Of the payloads that are taken from it a number is pulled before the rest is let go. -/
inductive WriterStep (α : Type) where
  | write (point : Datapoint α)
  | writeAll (points : List (Datapoint α))
  | payloads (pulled : Nat)

namespace WriterStep

def points : WriterStep α → List (Datapoint α)
  | write point => [point]
  | writeAll points => points
  | payloads _ => []

/-- The datapoints given since payloads were last taken, after one more step. -/
def pendingAfter (pending : List (Datapoint α)) : WriterStep α → List (Datapoint α)
  | payloads _ => []
  | step => pending ++ step.points

def keep (kept : Datapoint α → Bool) : WriterStep α → WriterStep α
  | write point => writeAll ([point].filter kept)
  | writeAll points => writeAll (points.filter kept)
  | payloads pulled => payloads pulled

end WriterStep

variable [Number α]

/-- The line of a datapoint, if it has one that is not longer than a payload. -/
def Datapoint.fitting? (maxLength : Nat) (point : Datapoint α) : Option ByteArray :=
  (point.line?.map String.toUTF8).filter fun line => line.size ≤ maxLength

def Datapoint.fits (maxLength : Nat) (point : Datapoint α) : Bool := (point.fitting? maxLength).isSome

theorem Datapoint.fits_eq_false_iff {maxLength : Nat} {point : Datapoint α} :
    point.fits maxLength = false ↔
      Number.isFinite point.value = false ∨ ∃ line ∈ point.line?, maxLength < line.toUTF8.size := by
  unfold fits fitting? line?
  by_cases finite : Number.isFinite point.value
  · simp [finite, Option.filter]
  · simp [finite]

theorem Datapoint.size_fitting {maxLength : Nat} {point : Datapoint α} {line : ByteArray}
    (fitting : point.fitting? maxLength = some line) : 0 < line.size ∧ line.size ≤ maxLength := by
  obtain ⟨found, short⟩ := Option.filter_eq_some_iff.mp fitting
  refine ⟨?_, of_decide_eq_true short⟩
  obtain ⟨text, written, rfl⟩ := Option.map_eq_some_iff.mp found
  rw [line?] at written
  split at written
  · cases written
    simp only [String.toUTF8, String.toByteArray_append, ByteArray.size_append]
    have ended : 0 < "\n".toByteArray.size := by decide
    omega
  · cases written

namespace PayloadWriter

variable {maxLength : Nat} {lines : List ByteArray} {writer : PayloadWriter}

/-- Takes the payloads from a writer, pulls a number of them and lets go of the rest. -/
def pull (writer : PayloadWriter) (count : Nat) : List ByteArray × PayloadWriter :=
  let (payloads, writer) := writer.takePayloads
  ((payloads.pull count).1, writer)

/-- However many payloads are pulled, the writer is left empty. -/
theorem pull_eq (writer : PayloadWriter) (count : Nat) :
    writer.pull count = (writer.takePayloads.1.toList.take count, empty writer.maxLength) := by
  have first := (Payloads.pull_eq count writer.takePayloads.1).1
  rw [← first]
  rfl

def step (writer : PayloadWriter) : WriterStep α → WriteResult × PayloadWriter
  | .write point => writer.write point
  | .writeAll points => writer.writeAll points
  | .payloads pulled => (⟨0, 0⟩, (writer.pull pulled).2)

def run (writer : PayloadWriter) : List (WriterStep α) → WriteResult × PayloadWriter
  | [] => (⟨0, 0⟩, writer)
  | first :: rest =>
    let (result, next) := writer.step first
    let (others, final) := next.run rest
    (result.merge others, final)

theorem run_cons (writer : PayloadWriter) (first : WriterStep α) (rest : List (WriterStep α)) :
    writer.run (first :: rest) =
      ((writer.step first).1.merge ((writer.step first).2.run rest).1,
        ((writer.step first).2.run rest).2) := rfl

/-- A writer has been given some lines since payloads were last taken. -/
def Gathers (maxLength : Nat) (lines : List ByteArray) (writer : PayloadWriter) : Prop :=
  ∃ closed opened, closed.flatten ++ opened = lines ∧ Holds maxLength closed opened writer

theorem gathers_empty (maxLength : Nat) : Gathers maxLength [] (empty maxLength) :=
  ⟨[], [], rfl, holds_empty maxLength⟩

theorem Gathers.limit (gathers : Gathers maxLength lines writer) : writer.maxLength = maxLength := by
  obtain ⟨_, _, _, holds⟩ := gathers
  exact holds.limit

theorem write_of_not_fits (writer : PayloadWriter) {point : Datapoint α}
    (dropped : point.fits writer.maxLength = false) :
    writer.write point = (⟨0, 1⟩, writer) := by
  rcases Datapoint.fits_eq_false_iff.mp dropped with infinite | ⟨line, written, long⟩
  · simp [PayloadWriter.write, Datapoint.line?, infinite]
  · rw [Option.mem_def] at written
    simp only [PayloadWriter.write, written, PayloadWriter.addLine, if_pos long]

theorem Gathers.write (gathers : Gathers maxLength lines writer) (point : Datapoint α) :
    (writer.write point).1 = (if point.fits maxLength then ⟨1, 0⟩ else ⟨0, 1⟩) ∧
      Gathers maxLength (lines ++ (point.fitting? maxLength).toList) (writer.write point).2 := by
  cases fitting : point.fitting? maxLength with
  | none =>
      have dropped : point.fits maxLength = false := by rw [Datapoint.fits, fitting, Option.isSome_none]
      have same := write_of_not_fits writer (gathers.limit ▸ dropped)
      rw [same, dropped, Option.toList_none, List.append_nil]
      exact ⟨rfl, gathers⟩
  | some line =>
      have fits : point.fits maxLength = true := by rw [Datapoint.fits, fitting, Option.isSome_some]
      obtain ⟨full, short⟩ := Datapoint.size_fitting fitting
      obtain ⟨found, _⟩ := Option.filter_eq_some_iff.mp fitting
      obtain ⟨text, written, rfl⟩ := Option.map_eq_some_iff.mp found
      obtain ⟨closed, opened, rfl, holds⟩ := gathers
      obtain ⟨result, after⟩ := holds.addLine full short
      rw [fits, PayloadWriter.write, written]
      exact ⟨result, after⟩

def writeMore (state : WriteResult × PayloadWriter) (point : Datapoint α) : WriteResult × PayloadWriter :=
  (state.1.merge (state.2.write point).1, (state.2.write point).2)

theorem foldl_writeMore (points : List (Datapoint α)) : ∀ state : WriteResult × PayloadWriter,
    points.foldl writeMore state =
      (state.1.merge (state.2.writeAll points).1, (state.2.writeAll points).2) := by
  induction points with
  | nil => exact fun _ => rfl
  | cons point rest ih =>
      intro state
      have all : state.2.writeAll (point :: rest) = rest.foldl writeMore (writeMore (⟨0, 0⟩, state.2) point) :=
        rfl
      rw [all, List.foldl_cons, ih, ih]
      simp only [writeMore, WriteResult.merge, Nat.add_assoc, Nat.zero_add]

theorem writeAll_cons (writer : PayloadWriter) (point : Datapoint α) (points : List (Datapoint α)) :
    writer.writeAll (point :: points) =
      ((writer.write point).1.merge ((writer.write point).2.writeAll points).1,
        ((writer.write point).2.writeAll points).2) := by
  have all : writer.writeAll (point :: points) = points.foldl writeMore (writeMore (⟨0, 0⟩, writer) point) :=
    rfl
  rw [all, foldl_writeMore]
  simp only [writeMore, WriteResult.merge, Nat.zero_add]

theorem Gathers.writeAll (points : List (Datapoint α)) : ∀ {lines : List ByteArray} {writer : PayloadWriter},
    Gathers maxLength lines writer →
      (writer.writeAll points).1 =
          ⟨points.countP (Datapoint.fits maxLength), points.countP fun point => !point.fits maxLength⟩ ∧
        Gathers maxLength (lines ++ points.filterMap (Datapoint.fitting? maxLength))
          (writer.writeAll points).2 := by
  induction points with
  | nil =>
      intro lines writer gathers
      rw [List.filterMap_nil, List.append_nil]
      exact ⟨rfl, gathers⟩
  | cons point rest ih =>
      intro lines writer gathers
      obtain ⟨first, next⟩ := gathers.write point
      obtain ⟨others, final⟩ := ih next
      rw [writeAll_cons, first, others]
      refine ⟨?_, ?_⟩
      · cases fits : point.fits maxLength <;>
          simp [fits, WriteResult.merge, Nat.add_comm]
      · cases fitting : point.fitting? maxLength with
        | none => simpa [fitting] using final
        | some line => simpa [fitting] using final

/-- Datapoints that are dropped leave nothing behind. -/
theorem Gathers.writeAll_filter (points : List (Datapoint α)) :
    ∀ {lines : List ByteArray} {writer : PayloadWriter}, Gathers maxLength lines writer →
      (writer.writeAll (points.filter (Datapoint.fits maxLength))).2 = (writer.writeAll points).2 := by
  induction points with
  | nil => exact fun _ => rfl
  | cons point rest ih =>
      intro lines writer gathers
      obtain ⟨_, next⟩ := gathers.write point
      cases fits : point.fits maxLength with
      | true => rw [List.filter_cons_of_pos fits, writeAll_cons, writeAll_cons, ih next]
      | false =>
          have same := write_of_not_fits writer (gathers.limit ▸ fits)
          rw [List.filter_cons_of_neg (by simp [fits]), writeAll_cons, same, ih gathers]

variable {pending : List (Datapoint α)}

theorem Gathers.step (gathers : Gathers maxLength (pending.filterMap (Datapoint.fitting? maxLength)) writer)
    (step : WriterStep α) :
    (writer.step step).1 =
        ⟨step.points.countP (Datapoint.fits maxLength),
          step.points.countP fun point => !point.fits maxLength⟩ ∧
      Gathers maxLength ((step.pendingAfter pending).filterMap (Datapoint.fitting? maxLength))
        (writer.step step).2 ∧
      (writer.step (step.keep (Datapoint.fits maxLength))).2 = (writer.step step).2 := by
  have single (point : Datapoint α) : writer.writeAll [point] = writer.write point := by
    rw [writeAll_cons]
    simp [PayloadWriter.writeAll, WriteResult.merge]
  cases step with
  | write point =>
      have written := gathers.writeAll [point]
      have filtered := gathers.writeAll_filter [point]
      rw [single] at written filtered
      rw [← List.filterMap_append] at written
      exact ⟨written.1, written.2, filtered⟩
  | writeAll points =>
      have written := gathers.writeAll points
      rw [← List.filterMap_append] at written
      exact ⟨written.1, written.2, gathers.writeAll_filter points⟩
  | payloads pulled =>
      have after : (writer.step (.payloads pulled : WriterStep α)).2 = empty maxLength := by
        rw [PayloadWriter.step, pull_eq, gathers.limit]
      exact ⟨rfl, after ▸ gathers_empty maxLength, rfl⟩

theorem Gathers.run (steps : List (WriterStep α)) :
    ∀ {pending : List (Datapoint α)} {writer : PayloadWriter},
      Gathers maxLength (pending.filterMap (Datapoint.fitting? maxLength)) writer →
        (writer.run steps).1.written + (writer.run steps).1.dropped =
            (steps.flatMap WriterStep.points).length ∧
          Gathers maxLength
            ((steps.foldl WriterStep.pendingAfter pending).filterMap (Datapoint.fitting? maxLength))
            (writer.run steps).2 ∧
          (writer.run (steps.map (WriterStep.keep (Datapoint.fits maxLength)))).2 =
            (writer.run steps).2 := by
  induction steps with
  | nil => exact fun gathers => ⟨rfl, gathers, rfl⟩
  | cons first rest ih =>
      intro pending writer gathers
      obtain ⟨result, next, same⟩ := gathers.step first
      obtain ⟨others, final, equal⟩ := ih next
      refine ⟨?_, final, ?_⟩
      · have all := countP_add_countP_not (Datapoint.fits maxLength) first.points
        rw [run_cons, result, List.flatMap_cons, List.length_append, ← others, ← all]
        simp only [WriteResult.merge]
        omega
      · rw [List.map_cons, run_cons, run_cons, same, equal]

end PayloadWriter

end Steps

end MetricAggregation
