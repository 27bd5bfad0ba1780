import Mathlib.Data.List.Range
import Mathlib.Tactic.Ring

/-!
# The read loop of `clock_inspector`

`while (gRunning)` reads up to `blen = 188 * 1024` bytes with `avio_read` into the
same buffer, passes `rlen / 188` packets to `ltntstools_pid_stats_update`, and
then hands the packets at `i = 0, 188, ...` while `i < rlen` to the statistics,
each with `filepos = streamPosition - rlen + i` (lines 1568–1624).  A read of
`-EAGAIN` is retried; any other negative result ends the loop.

* `readLoop_aligned` — when every read returns whole packets, the loop hands on
  exactly the packets of the stream, in order, each at its offset, and its count
  agrees with the library's;
* `readLoop_reads_partial_packet` — a read that ends inside a packet makes the
  loop hand on that packet too, completed with stale bytes of the buffer.
-/

namespace TsTools

/-- `blen`. -/
def readBufferSize : Nat := 188 * 1024

/-- What `avio_read` returns. -/
inductive ReadResult where
  /-- `-EAGAIN`: sleep and read again. -/
  | again
  /-- Any other negative value (end of input included): leave the loop. -/
  | failed
  /-- `rlen = bytes.length` bytes, written to the front of `buf`. -/
  | data (bytes : List UInt8)
  deriving Repr, DecidableEq

/-- The state of the read loop. -/
structure ReadState where
  buf : List UInt8
  streamPosition : Nat
  /-- The packets handed to `processPacketStats` and the rest, with their `filepos`; their
  number is `ts_total_packets`. -/
  handed : List (Nat × List UInt8)
  /-- The packets passed to `ltntstools_pid_stats_update`. -/
  libstatsPackets : Nat

/-- `buf` after `avio_read` wrote `bytes` to its front. -/
def fill (buf bytes : List UInt8) : List UInt8 := bytes ++ buf.drop bytes.length

/-- The offsets `for (int i = 0; i < rlen; i += 188)` visits. -/
def packetOffsets (rlen : Nat) : List Nat := (List.range ((rlen + 187) / 188)).map (188 * ·)

/-- One pass of `while (gRunning)`; `none` when the loop breaks. -/
def readStep (s : ReadState) : ReadResult → Option ReadState
  | .again => some s
  | .failed => none
  | .data bytes =>
    let buf := fill s.buf bytes
    let pos := s.streamPosition + bytes.length
    some { buf := buf
           streamPosition := pos
           handed := s.handed ++ (packetOffsets bytes.length).map fun i =>
             (pos - bytes.length + i, (buf.drop i).take 188)
           libstatsPackets := s.libstatsPackets + bytes.length / 188 }

/-- The loop over a sequence of read results, up to the one that breaks it. -/
def readLoop (s : ReadState) : List ReadResult → ReadState
  | [] => s
  | r :: rs =>
    match readStep s r with
    | some s' => readLoop s' rs
    | none => s

/-- The bytes the reads deliver, up to the one that breaks the loop. -/
def streamOf : List ReadResult → List UInt8
  | [] => []
  | .again :: rs => streamOf rs
  | .failed :: _ => []
  | .data bytes :: rs => bytes ++ streamOf rs

/-- The packets of a stream: the `k`-th at offset `188 k`, for every whole packet. -/
def streamPackets (S : List UInt8) : List (Nat × List UInt8) :=
  (List.range (S.length / 188)).map fun k => (188 * k, (S.drop (188 * k)).take 188)

/-- `filepos` moved by `d`. -/
def shiftPacket (d : Nat) (e : Nat × List UInt8) : Nat × List UInt8 := (d + e.1, e.2)

@[simp] theorem shiftPacket_zero : shiftPacket 0 = id := by
  funext e; simp [shiftPacket]

/-! ## Whole packets -/

/-- A packet that lies whole in `T` does not see what follows `T`. -/
theorem packet_append {T U : List UInt8} {i : Nat} (h : i + 188 ≤ T.length) :
    ((T ++ U).drop i).take 188 = (T.drop i).take 188 := by
  rw [List.drop_append_of_le_length (by omega), List.take_append_of_le_length (by simp; omega)]

@[simp] theorem streamPackets_length (S : List UInt8) :
    (streamPackets S).length = S.length / 188 := by
  simp [streamPackets]

theorem streamPackets_append {T U : List UInt8} (hT : T.length % 188 = 0) :
    streamPackets (T ++ U) = streamPackets T ++ (streamPackets U).map (shiftPacket T.length) := by
  have hlen : (T ++ U).length / 188 = T.length / 188 + U.length / 188 := by simp; omega
  simp only [streamPackets, hlen, List.range_add, List.map_append, List.map_map]
  congr 1
  · refine List.map_congr_left fun k hk => ?_
    have : 188 * k + 188 ≤ T.length := by simp at hk; omega
    simp [packet_append this]
  · refine List.map_congr_left fun j _ => ?_
    have e : 188 * (T.length / 188 + j) = T.length + 188 * j := by omega
    simp [shiftPacket, e, List.drop_append]

/-! ## The loop -/

/-- A read of whole packets hands on exactly its packets, at their stream offsets. -/
theorem readStep_aligned (s : ReadState) (bytes : List UInt8) (hb : bytes.length % 188 = 0) :
    readStep s (.data bytes) = some
      { buf := fill s.buf bytes
        streamPosition := s.streamPosition + bytes.length
        handed := s.handed ++ (streamPackets bytes).map (shiftPacket s.streamPosition)
        libstatsPackets := s.libstatsPackets + bytes.length / 188 } := by
  have ho : (bytes.length + 187) / 188 = bytes.length / 188 := by omega
  simp only [readStep, packetOffsets, streamPackets, ho, List.map_map, Option.some.injEq,
    ReadState.mk.injEq, true_and, and_true, List.append_cancel_left_eq]
  refine List.map_congr_left fun k hk => ?_
  have : 188 * k + 188 ≤ bytes.length := by simp at hk; omega
  simp [shiftPacket, fill, packet_append this]

theorem readLoop_aligned_from (rs : List ReadResult)
    (hrs : ∀ bytes, .data bytes ∈ rs → bytes.length % 188 = 0) :
    ∀ s : ReadState,
      (readLoop s rs).handed = s.handed ++ (streamPackets (streamOf rs)).map (shiftPacket s.streamPosition) ∧
      (readLoop s rs).libstatsPackets = s.libstatsPackets + (streamOf rs).length / 188 := by
  induction rs with
  | nil => intro s; simp [readLoop, streamOf, streamPackets]
  | cons r rs ih =>
    intro s
    have ih := ih fun bytes h => hrs bytes (.tail _ h)
    cases r with
    | again => exact ih s
    | failed => simp [readLoop, readStep, streamOf, streamPackets]
    | data bytes =>
      have hb := hrs bytes (.head _)
      simp only [readLoop, readStep_aligned s bytes hb, streamOf]
      obtain ⟨h₁, h₂⟩ := ih _
      constructor
      · rw [h₁, streamPackets_append hb, List.map_append, List.map_map, List.append_assoc]
        congr 3
        funext e
        simp [shiftPacket, Nat.add_assoc]
      · rw [h₂]; simp only [List.length_append]; omega

/-- **Aligned reads.**  When every read returns whole packets, with `-EAGAIN` anywhere among
them, the loop hands on exactly the packets of the stream, in order, the `k`-th at
`filepos = 188 k`, and `ts_total_packets` is the number passed to the library. -/
theorem readLoop_aligned (buf : List UInt8) (rs : List ReadResult)
    (hrs : ∀ bytes, .data bytes ∈ rs → bytes.length % 188 = 0) :
    (readLoop ⟨buf, 0, [], 0⟩ rs).handed = streamPackets (streamOf rs) ∧
      (readLoop ⟨buf, 0, [], 0⟩ rs).handed.length = (readLoop ⟨buf, 0, [], 0⟩ rs).libstatsPackets := by
  obtain ⟨h₁, h₂⟩ := readLoop_aligned_from rs hrs ⟨buf, 0, [], 0⟩
  simp [shiftPacket] at h₁ h₂
  exact ⟨h₁, by simp [h₁, h₂]⟩

/-- Two reads of one packet each, with an `-EAGAIN` between them. -/
theorem readLoop_aligned_two_reads :
    (readLoop ⟨[], 0, [], 0⟩ [.data (List.replicate 188 0x47), .again,
        .data (List.replicate 188 0x47), .failed]).handed =
        streamPackets (streamOf [.data (List.replicate 188 0x47), .again,
          .data (List.replicate 188 0x47), .failed]) ∧
      (readLoop ⟨[], 0, [], 0⟩ [.data (List.replicate 188 0x47), .again,
        .data (List.replicate 188 0x47), .failed]).handed.length =
        (readLoop ⟨[], 0, [], 0⟩ [.data (List.replicate 188 0x47), .again,
          .data (List.replicate 188 0x47), .failed]).libstatsPackets :=
  readLoop_aligned [] _ fun b hb => by
    simp only [List.mem_cons, ReadResult.data.injEq, reduceCtorEq, List.not_mem_nil, or_false,
      false_or, or_self] at hb
    rw [hb, List.length_replicate]

/-- A read that ends inside a packet: 200 bytes in one read make the loop hand on two
packets, the second made of the 12 bytes read and 176 stale bytes of the buffer, while the
library is given one. -/
theorem readLoop_reads_partial_packet (buf : List UInt8) (b : UInt8) :
    (readLoop ⟨buf, 0, [], 0⟩ [.data (List.replicate 200 b), .failed]).handed =
        [(0, List.replicate 188 b), (188, List.replicate 12 b ++ (buf.drop 200).take 176)] ∧
      (readLoop ⟨buf, 0, [], 0⟩ [.data (List.replicate 200 b), .failed]).libstatsPackets = 1 := by
  have ho : packetOffsets 200 = [0, 188] := rfl
  have hl : (List.replicate 200 b).length = 200 := List.length_replicate 200 b
  have h₁ : (fill buf (List.replicate 200 b)).take 188 = List.replicate 188 b := by
    rw [fill, List.take_append_of_le_length (by omega), List.take_replicate]; rfl
  have h₂ : ((fill buf (List.replicate 200 b)).drop 188).take 188 =
      List.replicate 12 b ++ (buf.drop 200).take 176 := by
    rw [fill, List.drop_append_of_le_length (by omega), List.drop_replicate,
      List.take_append_eq_append_take, List.take_replicate, List.length_replicate, hl]
    rfl
  simp only [readLoop, readStep, hl, ho, List.map_cons, List.map_nil, List.drop_zero, h₁, h₂]
  exact ⟨rfl, trivial⟩

end TsTools
