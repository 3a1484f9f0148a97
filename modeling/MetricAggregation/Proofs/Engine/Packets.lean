import MetricAggregation.Engine.Process
import MetricAggregation.Proofs.Lines

/-!
Packets of a stream. An engine cannot tell at which of its line ends a stream was cut into packets, nor whether it was
given the packets or the lines in them one by one.
-/

namespace MetricAggregation

open Text (lineEnd)

/-- A stream comes as packets, cut at some of its line ends. A line end at which it was cut may be left out, or stay
with the packet before it or with the packet behind it. -/
inductive CutInto : List UInt8 → List (List UInt8) → Prop
  | whole (stream : List UInt8) : CutInto stream [stream]
  | leftOut {first rest : List UInt8} {packets : List (List UInt8)} : CutInto rest packets →
      CutInto (first ++ lineEnd :: rest) (first :: packets)
  | before {first rest : List UInt8} {packets : List (List UInt8)} : CutInto rest packets →
      CutInto (first ++ lineEnd :: rest) ((first ++ [lineEnd]) :: packets)
  | behind {first rest : List UInt8} {packets : List (List UInt8)} : CutInto (lineEnd :: rest) packets →
      CutInto (first ++ lineEnd :: rest) (first :: packets)

namespace Engine

theorem packetLines_append (first second : List UInt8) :
    packetLines (first ++ lineEnd :: second) = packetLines first ++ packetLines second := by
  unfold packetLines
  rw [← List.filter_append, ← List.splitOn_append_cons_self]
  rfl

@[simp] theorem packetLines_nil : packetLines [] = [] := rfl

/-- However a stream is cut, its packets have the same lines. -/
theorem packetLines_of_cutInto {stream : List UInt8} {packets : List (List UInt8)} (cut : CutInto stream packets) :
    packets.flatMap packetLines = packetLines stream := by
  induction cut with
  | whole stream => simp
  | leftOut _ ih => rw [List.flatMap_cons, ih, packetLines_append]
  | before _ ih => rw [List.flatMap_cons, ih, packetLines_append, packetLines_append, packetLines_nil, List.append_nil]
  | @behind first rest packets _ ih =>
      have started : packetLines (lineEnd :: rest) = packetLines rest := packetLines_append [] rest
      rw [List.flatMap_cons, ih, started, packetLines_append]

/-- Lines that are empty or of white space only are left out, also where a packet starts or ends with a line end. -/
example : packetLines (Text.bytes "gorets:1|c\n \n\nglork:320|ms\n") =
    [Text.bytes "gorets:1|c", Text.bytes "glork:320|ms"] := by decide +kernel

variable {α φ μ : Type} [Number α] [MetricFactory φ] [MetricPlugin φ μ α]

theorem foldl_processPacket (packets : List (List UInt8)) (engine : Engine α φ μ) :
    packets.foldl processPacket engine = (packets.flatMap packetLines).foldl process engine :=
  List.foldl_flatMap.symm

/-- In every state, a packet is taken in as the parts of it before and behind any of its line ends, one after the other.
So all ways to cut a stream into packets lead to one state, which is the one after all its lines, except those of
nothing but white space, were taken in as messages. -/
theorem processPacket_of_cutInto (engine : Engine α φ μ) :
    (∀ first second, engine.processPacket (first ++ lineEnd :: second) =
      (engine.processPacket first).processPacket second) ∧
    (∀ stream packets others, CutInto stream packets → CutInto stream others →
      packets.foldl processPacket engine = others.foldl processPacket engine) ∧
    ∀ stream packets, CutInto stream packets → packets.foldl processPacket engine =
      ((stream.splitOn lineEnd).filter fun line => !line.all isBlankByte).foldl process engine := by
  have lines {stream : List UInt8} {packets : List (List UInt8)} (cut : CutInto stream packets) :
      packets.foldl processPacket engine = (packetLines stream).foldl process engine := by
    rw [foldl_processPacket, packetLines_of_cutInto cut]
  refine ⟨fun first second => ?_, fun stream packets others cut otherwise => ?_, fun stream packets => lines⟩
  · rw [processPacket, packetLines_append, List.foldl_append]
    rfl
  · rw [lines cut, lines otherwise]

end Engine

end MetricAggregation
