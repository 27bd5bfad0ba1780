import TsTools.Slicer.IndexFile

/-!
# The fast duration query: `indexFastQueryDuration`

`indexFastQueryDuration` (lines 187–274), behind `slicer -q`, reads a file below
32 MiB whole, and otherwise its first and its last 16 MiB.  It hands each segment
to `ltntstools_queryPCRs` with the segment's file address, kept in the `int`
field `addr`; copies the first record of the head segment and the last record of
the last segment; and derives the duration and the stream time from their PCRs.
It returns -1 only when the file cannot be opened.

* `indexFastQueryDuration_eq` — on any file and any answer of
  `ltntstools_queryPCRs`, the query ends with the head's first record and the last
  segment's last record when both exist, and otherwise reads a record of an empty
  array;
* `fastQuery_without_pcr` — on any file in which no PCR is found, the query reads a
  record that does not exist instead of returning -1;
* `fastQuery_tail_addr_iff` — the tail's address is its place in the file exactly
  while that place fits an `int`, and `fastQuery_tail_addr_wraps` the first file
  where it does not;
* `duration_across_wrap` — both durations of a recording across the PCR wrap are
  raw differences, negative, with a negative stream time;
* `fastQuery_agrees_with_index` — on a file below 32 MiB, and for a
  `ltntstools_queryPCRs` that reads packet by packet, the query fails exactly when
  the index of the file fails to load, and otherwise reports the index's first and
  last records and the duration and stream time `indexLoad` prints.
-/

namespace TsTools

/-- `ltntstools_queryPCRs` as the fast query calls it: a segment and the `int` address of its
first byte; `none` when it fails. -/
abbrev SegmentQuery := List UInt8 → Int → Option (List PcrPosition)

/-- One of `segs[2]`: the bytes read and the address kept in the `int` field `addr`. -/
structure Segment where
  buf : List UInt8
  addr : Int

/-- The segment length, `16 * 1048576`. -/
def segmentLength : Nat := 16 * 1048576

/-- The segments read: the whole file below `32 * 1048576` bytes, otherwise the first and the
last `segmentLength` bytes, the last at `lengthBytes - segmentLength` converted to `int`. -/
def querySegments (F : List UInt8) : List Segment :=
  if F.length < 2 * segmentLength then [⟨F, 0⟩]
  else [⟨F.take segmentLength, 0⟩,
    ⟨F.drop (F.length - segmentLength), toInt32 (F.length - segmentLength : Nat)⟩]

/-- How `indexFastQueryDuration` ends. -/
inductive FastQueryOutcome where
  /-- `fopen` fails: -1. -/
  | failed
  /-- 0, with `begin`, `end`, `durationTicks`, `streamTime` and `fileSize`. -/
  | ok (first last : PcrPosition) (durationTicks : Int) (streamTime : VideoTime) (fileSize : Nat)
  /-- `memcpy` from `segs[i].arr` or `segs[i].arr + (arrlen - 1)` of a segment without a
  record: a read of a record that does not exist. -/
  | outOfBounds
  deriving Repr, DecidableEq

/-- `indexFastQueryDuration` on a file, `none` when it cannot be opened.  A failed query leaves
`arr` and `arrlen` as `memset` left them, with no record; `end->pcr - begin->pcr` is an
`int64_t`. -/
def indexFastQueryDuration (query : SegmentQuery) : Option (List UInt8) → FastQueryOutcome
  | none => .failed
  | some F =>
    let arrs := (querySegments F).map fun s => (query s.buf s.addr).getD []
    match (arrs.head?.getD []).head?, (arrs.getLast?.getD []).getLast? with
    | some first, some last =>
      .ok first last (toInt64 (last.pcr - first.pcr)) (pcrToVideotime (toInt64 (last.pcr - first.pcr)))
        F.length
    | _, _ => .outOfBounds

/-! ## Every file -/

/-- The records of the head segment and of the last one. -/
def headRecords (query : SegmentQuery) (F : List UInt8) : List PcrPosition :=
  (((querySegments F).map fun s => (query s.buf s.addr).getD []).head?.getD [])

/-- The records of the last segment: the tail, or the head when the file is read whole. -/
def lastRecords (query : SegmentQuery) (F : List UInt8) : List PcrPosition :=
  (((querySegments F).map fun s => (query s.buf s.addr).getD []).getLast?.getD [])

/-- **The query on any file.**  It ends with the first record of the head and the last record
of the last segment when both segments have one, and otherwise reads a record of an empty
array; it never returns -1 on a file it opened. -/
theorem indexFastQueryDuration_eq (query : SegmentQuery) (F : List UInt8) :
    indexFastQueryDuration query (some F) =
      match (headRecords query F).head?, (lastRecords query F).getLast? with
      | some first, some last =>
        .ok first last (toInt64 (last.pcr - first.pcr))
          (pcrToVideotime (toInt64 (last.pcr - first.pcr))) F.length
      | _, _ => .outOfBounds := rfl

/-- A head segment without a record: `memcpy(begin, segs[0].arr, ...)` reads a record that
does not exist. -/
theorem fastQuery_of_headRecords_nil {query : SegmentQuery} {F : List UInt8}
    (h : headRecords query F = []) : indexFastQueryDuration query (some F) = .outOfBounds := by
  rw [indexFastQueryDuration_eq, h]; rfl

/-- When `ltntstools_queryPCRs` yields no record for any segment, the head has none. -/
theorem headRecords_eq_nil {query : SegmentQuery} (hq : ∀ b a, (query b a).getD [] = [])
    (F : List UInt8) : headRecords query F = [] := by
  unfold headRecords querySegments
  split <;> simp [hq]

/-- **No PCR found.**  Whether `ltntstools_queryPCRs` finds no PCR or fails, on every file, the
empty one included, the query copies a record of an empty array instead of returning -1. -/
theorem fastQuery_without_pcr (F : List UInt8) :
    indexFastQueryDuration (fun _ _ => some []) (some F) = .outOfBounds ∧
      indexFastQueryDuration (fun _ _ => none) (some F) = .outOfBounds := by
  refine ⟨fastQuery_of_headRecords_nil (headRecords_eq_nil ?_ F),
    fastQuery_of_headRecords_nil (headRecords_eq_nil ?_ F)⟩ <;> exact fun _ _ => rfl

/-! ## The tail's address -/

/-- The tail's address is its place in the file exactly while that place fits an `int`. -/
theorem fastQuery_tail_addr_iff {F : List UInt8} (h : 2 * segmentLength ≤ F.length) :
    (querySegments F).map (·.addr) = [0, toInt32 (F.length - segmentLength : Nat)] ∧
      (toInt32 (F.length - segmentLength : Nat) = (F.length - segmentLength : Nat) ↔
        F.length - segmentLength < 2 ^ 31) := by
  have hs : ¬F.length < 2 * segmentLength := by omega
  refine ⟨by simp only [querySegments, hs, if_false, List.map_cons, List.map_nil], ?_⟩
  rw [toInt32_eq_self_iff]
  omega

/-- A file of `2^31 + 16 MiB` bytes: its tail starts at byte `2^31`, one past the largest `int`,
and `ltntstools_queryPCRs` is handed the address `-2^31` for it. -/
theorem fastQuery_tail_addr_wraps :
    (List.replicate (2 ^ 31 + segmentLength) (0x47 : UInt8)).length - segmentLength = 2 ^ 31 ∧
      (querySegments (List.replicate (2 ^ 31 + segmentLength) 0x47)).map (·.addr) =
        [0, -2 ^ 31] := by
  have hl : (List.replicate (2 ^ 31 + segmentLength) (0x47 : UInt8)).length - segmentLength =
      2 ^ 31 := by
    rw [List.length_replicate, Nat.add_sub_cancel]
  refine ⟨hl, ?_⟩
  rw [(fastQuery_tail_addr_iff (by rw [List.length_replicate]; decide)).1, hl]
  decide

/-! ## Durations -/

/-- A recording whose PCRs run from one second before the wrap to one second after.  The
forward distance is two seconds; `indexLoad` and `indexFastQueryDuration` both take the raw
difference of the PCRs, some 26.5 hours negative, and derive a stream time with negative
fields. -/
theorem duration_across_wrap (L : RecordLayout) :
    scrDiff (maxScrValue - 27000000) 27000000 = 54000000 ∧
      indexLoad L (some (indexSave L [⟨maxScrValue - 27000000, 0⟩, ⟨27000000, 188⟩])) =
        .loaded ⟨[⟨maxScrValue - 27000000, 0⟩, ⟨27000000, 188⟩], 2, maxScrValue - 27000000,
          27000000, 54000000 - maxScrValue, ⟨-1, -2, -30, -41, 0⟩⟩ ∧
      indexFastQueryDuration (fun _ _ => some [⟨maxScrValue - 27000000, 0⟩, ⟨27000000, 188⟩])
          (some (List.replicate 376 0x47)) =
        .ok ⟨maxScrValue - 27000000, 0⟩ ⟨27000000, 188⟩ (54000000 - maxScrValue)
          ⟨-1, -2, -30, -41, 0⟩ 376 := by
  have hs : querySegments (List.replicate 376 0x47) = [⟨List.replicate 376 0x47, 0⟩] := by
    rw [querySegments, if_pos (by rw [List.length_replicate]; decide)]
  refine ⟨by decide, ?_, ?_⟩
  · rw [indexLoad_indexSave L (List.cons_ne_nil _ _) (by decide)]
    decide
  · rw [indexFastQueryDuration_eq, headRecords, lastRecords, hs, List.length_replicate]
    decide

/-! ## The query against the index -/

/-- The scan's call of `ltntstools_queryPCRs`: the file position is the address. -/
def scanQuery (q : SegmentQuery) : QueryPCRs := fun b p => q b p

/-- What the agreement assumes of `ltntstools_queryPCRs`: it reads packet by packet, so bytes cut
after a whole number of packets give the records of the first part, then those of the second
at its own address. -/
def QueryComposes (q : SegmentQuery) : Prop :=
  ∀ (a b : List UInt8) (p : Nat), a.length % 188 = 0 →
    (q (a ++ b) p).getD [] = (q a p).getD [] ++ (q b (p + a.length : Nat)).getD []

section
variable {q : SegmentQuery} (hq : QueryComposes q)
include hq

theorem QueryComposes.getD_nil (p : Nat) : (q [] p).getD [] = [] := by
  simpa using hq [] [] p rfl

/-- From any position, the chunked scan finds what one query of the rest of the file finds. -/
theorem indexScan_scanQuery (F : List UInt8) (pos : Nat) (index : List PcrPosition) :
    indexScan (scanQuery q) F pos index = index ++ (q (F.drop pos) pos).getD [] := by
  induction pos, index using indexScan.induct (scanQuery q) F with
  | case1 pos index h =>
    have hd : F.drop pos = [] := by
      simpa [readChunk, indexChunkSize_pos.ne'] using h
    rw [indexScan, dif_pos h, hd, hq.getD_nil, List.append_nil]
  | case2 pos index h ih =>
    rw [indexScan, dif_neg h, ih, List.append_assoc, ← List.drop_drop]
    congr 1
    by_cases hK : indexChunkSize ≤ (F.drop pos).length
    · have hc : (readChunk F pos).length = indexChunkSize := by
        rw [readChunk, List.length_take, Nat.min_eq_left hK]
      have := hq (readChunk F pos) ((F.drop pos).drop indexChunkSize) pos (by rw [hc]; rfl)
      rw [hc, readChunk, List.take_append_drop] at this
      rw [hc, this]
      rfl
    · have hc : readChunk F pos = F.drop pos := List.take_of_length_le (by omega)
      rw [hc, List.drop_length, hq.getD_nil, List.append_nil]
      rfl

end

/-- **The fast query against the index.**  For a `ltntstools_queryPCRs` that reads packet by
packet and a file below 32 MiB, read whole, whose index records fit their C types: `-q` fails
exactly when the saved index fails to load, and otherwise reports the first and last records of
the index, and the duration and stream time `indexLoad` computes from them. -/
theorem fastQuery_agrees_with_index (L : RecordLayout) {q : SegmentQuery} (hq : QueryComposes q)
    {F : List UInt8} (hF : F.length < 2 * segmentLength)
    (hfit : ∀ r ∈ indexScan (scanQuery q) F 0 [], r.Fits) :
    (indexFastQueryDuration q (some F) = .outOfBounds ↔
      indexLoad L (some (indexSave L (indexScan (scanQuery q) F 0 []))) = .outOfBounds) ∧
    ∀ idx, indexLoad L (some (indexSave L (indexScan (scanQuery q) F 0 []))) = .loaded idx →
      ∃ first last, idx.allPCRs.head? = some first ∧ idx.allPCRs.getLast? = some last ∧
        indexFastQueryDuration q (some F) = .ok first last idx.pcrDuration idx.streamTime F.length := by
  have hscan : indexScan (scanQuery q) F 0 [] = (q F 0).getD [] := by
    rw [indexScan_scanQuery hq, List.nil_append, List.drop_zero]
    rfl
  have hfq : indexFastQueryDuration q (some F) =
      match ((q F 0).getD []).head?, ((q F 0).getD []).getLast? with
      | some first, some last =>
        .ok first last (toInt64 (last.pcr - first.pcr))
          (pcrToVideotime (toInt64 (last.pcr - first.pcr))) F.length
      | _, _ => .outOfBounds := by
    rw [indexFastQueryDuration_eq, headRecords, lastRecords, querySegments, if_pos hF]
    rfl
  rw [hscan] at hfit ⊢
  rw [hfq]
  generalize (q F 0).getD [] = v at hfit ⊢
  rcases eq_or_ne v [] with rfl | hv
  · have hl : indexLoad L (some (indexSave L [])) = .outOfBounds :=
      indexLoad_short L _ (by simpa [indexSave] using L.size_pos)
    simp [hl]
  · rw [indexLoad_indexSave L hv hfit, List.head?_eq_head hv, List.getLast?_eq_getLast v hv]
    refine ⟨by simp, ?_⟩
    rintro idx ⟨⟩
    exact ⟨_, _, List.head?_eq_head hv, List.getLast?_eq_getLast v hv, rfl⟩

/-- A query that reports every whole packet of a segment, with PCR 0. -/
def everyPacketQuery : SegmentQuery := fun b p =>
  some ((List.range (b.length / 188)).map fun k => ⟨0, p.toNat + 188 * k⟩)

theorem everyPacketQuery_composes : QueryComposes everyPacketQuery := by
  intro a b p ha
  obtain ⟨m, hm⟩ : ∃ m, a.length = 188 * m := ⟨_, (Nat.mul_div_cancel' (Nat.dvd_of_mod_eq_zero ha)).symm⟩
  have e : (fun k => (⟨0, (p : Int).toNat + 188 * k⟩ : PcrPosition)) ∘ (m + ·) =
      fun k => ⟨0, ((p + a.length : Nat) : Int).toNat + 188 * k⟩ := by
    funext k; simp only [Function.comp, Int.toNat_natCast, hm]; congr 1; omega
  simp only [everyPacketQuery, Option.getD_some, List.length_append, hm,
    Nat.mul_add_div (by decide : 0 < 188), Nat.mul_div_cancel_left _ (by decide : 0 < 188),
    List.range_add, List.map_append, List.map_map, e]

/-- Its records fit their C types on a file of fewer than `2^64` bytes. -/
theorem everyPacketQuery_fits {F : List UInt8} (hF : F.length < 2 ^ 64) :
    ∀ r ∈ indexScan (scanQuery everyPacketQuery) F 0 [], r.Fits := by
  intro r hr
  rw [indexScan_scanQuery everyPacketQuery_composes, List.nil_append, List.drop_zero] at hr
  simp only [everyPacketQuery, Option.getD_some, List.mem_map, List.mem_range] at hr
  obtain ⟨k, hk, rfl⟩ := hr
  simp only [PcrPosition.Fits, Int.toNat_natCast]
  omega

/-- `everyPacketQuery` on a file of two packets: both sides find the two packets. -/
theorem fastQuery_agrees_with_index_two_packets :
    (indexFastQueryDuration everyPacketQuery (some (List.replicate 376 0x47)) = .outOfBounds ↔
      indexLoad specLayout (some (indexSave specLayout
        (indexScan (scanQuery everyPacketQuery) (List.replicate 376 0x47) 0 []))) = .outOfBounds) ∧
    ∀ idx, indexLoad specLayout (some (indexSave specLayout
        (indexScan (scanQuery everyPacketQuery) (List.replicate 376 0x47) 0 []))) = .loaded idx →
      ∃ first last, idx.allPCRs.head? = some first ∧ idx.allPCRs.getLast? = some last ∧
        indexFastQueryDuration everyPacketQuery (some (List.replicate 376 0x47)) =
          .ok first last idx.pcrDuration idx.streamTime (List.replicate 376 (0x47 : UInt8)).length :=
  fastQuery_agrees_with_index specLayout everyPacketQuery_composes
    (by rw [List.length_replicate]; decide) (everyPacketQuery_fits (by rw [List.length_replicate]; decide))

end TsTools
