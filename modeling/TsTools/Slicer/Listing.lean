import TsTools.Slicer.Main

/-!
# The index listing, and its times given back to `-s`

`slicer -l` loads the index and prints every record with `indexDumpEntry`
(lines 155–176): its number, file offset and PCR, and the stream time of the PCR as
`videotime_to_str` prints it, the text `-s` and `-e` read.

* `mem_indexDump` — the listing has one line per record, numbered from 0;
* `slicer_start_at_listed_time` — the time listed for any record of a saved index,
  given back to `-s`, is accepted, and the slice starts at the first record at or
  past the second of that time: the listed record, or one before it.
-/

namespace TsTools

/-- What `indexDumpEntry` prints of a record: its number, file offset, PCR, and the stream
time of the PCR.  The PID column is left out with the field (`PcrPosition`). -/
structure IndexDumpLine where
  id : Int
  offset : Nat
  pcr : Int
  streamtime : List Char
  deriving Repr, DecidableEq

/-- `indexDumpEntry`. -/
def indexDumpEntry (id : Int) (p : PcrPosition) : IndexDumpLine :=
  ⟨id, p.offset, p.pcr, videotimeToStr (pcrToVideotime p.pcr)⟩

/-- `indexDump`: `indexDumpEntry(ctx, i, ctx->allPCRs + i)` for `i` below `allPCRLength`. -/
def indexDump (idx : LoadedIndex) : List IndexDumpLine :=
  (List.range idx.allPCRLength.toNat).filterMap fun (i : Nat) =>
    idx.allPCRs[i]?.map (indexDumpEntry i)

theorem mem_indexDump {idx : LoadedIndex} {l : IndexDumpLine} :
    l ∈ indexDump idx ↔
      ∃ i r, i < idx.allPCRLength.toNat ∧ idx.allPCRs[i]? = some r ∧ l = indexDumpEntry i r := by
  simp only [indexDump, List.mem_filterMap, List.mem_range, Option.map_eq_some']
  exact ⟨fun ⟨i, hi, r, hr, h⟩ => ⟨i, r, hi, hr, h.symm⟩,
    fun ⟨i, r, hi, hr, h⟩ => ⟨i, hi, r, hr, h.symm⟩⟩

/-- With the time `t` as its first option and `-o` after it, the options set `-s` to what
`str_to_videotime` read. -/
theorem slicerOptions_start {t : List Char} {vt : VideoTime}
    (ht : strToVideotime t SlicerCtx.init.timeStartStream = (0, vt)) {opts : List SlicerOpt}
    (h : ∀ o ∈ opts, o = .output) :
    ∃ b, slicerOptions (.start t :: opts) =
      some { SlicerCtx.init with timeStartStream := vt, optS := true, ofn := b } := by
  obtain ⟨b, hb⟩ := foldlM_applyOpt_output h { SlicerCtx.init with timeStartStream := vt, optS := true }
  exact ⟨b, by simpa [slicerOptions, SlicerCtx.applyOpt, ht] using hb⟩

/-- **A listed time given back to `-s`.**  For a saved index of records that fit their C types
and carry PCRs in `[0, MAX_SCR_VALUE)`, and any line of its listing, `slicer -s` with the line's
time (and `-o` or nothing after it) never rejects the time and never dereferences `NULL`.  The
slice starts at the first record whose PCR is at least the listed PCR rounded down to a second:
the record listed, or one before it in the index. -/
theorem slicer_start_at_listed_time (L : RecordLayout) (query : QueryPCRs) (F : List UInt8)
    {v : List PcrPosition} (hv : v ≠ []) (hfit : ∀ r ∈ v, r.Fits)
    (hpcr : ∀ r ∈ v, 0 ≤ r.pcr ∧ r.pcr < maxScrValue) {idx : LoadedIndex}
    (hl : indexLoad L (some (indexSave L v)) = .loaded idx) {l : IndexDumpLine} (hd : l ∈ indexDump idx)
    {opts : List SlicerOpt} (ho : ∀ o ∈ opts, o = .output) :
    ∃ pre s post e out, v = pre ++ s :: post ∧ ⟨l.pcr, l.offset⟩ ∈ s :: post ∧
      (∀ x ∈ pre, x.pcr < l.pcr - l.pcr % 27000000) ∧ l.pcr - l.pcr % 27000000 ≤ s.pcr ∧
      slicer L query F (some (indexSave L v)) (.start l.streamtime :: opts) = .sliced s e out := by
  rw [indexLoad_indexSave L hv hfit] at hl
  cases hl
  obtain ⟨i, r, -, hr, rfl⟩ := mem_indexDump.1 hd
  dsimp only [indexDumpEntry]
  have hrv : r ∈ v := List.getElem?_mem hr
  obtain ⟨h₀, h₁⟩ := hpcr r hrv
  have hr₁ : r.pcr < 2 ^ 31 * 27000000 := lt_trans h₁ (by decide)
  have hround : r.pcr - r.pcr % 27000000 ≤ r.pcr := by
    have := Int.emod_nonneg r.pcr (by decide : (27000000 : Int) ≠ 0)
    omega
  obtain ⟨s, hs⟩ := indexLookupPCR_of_mem hrv _ hround
  obtain ⟨hst, pre, post, hsplit, hpre⟩ := List.find?_eq_some.1 hs
  have hpre' : ∀ x ∈ pre, x.pcr < r.pcr - r.pcr % 27000000 := fun x hx =>
    not_le.1 (of_decide_eq_false (by simpa using hpre x hx))
  obtain ⟨b, hc⟩ := slicerOptions_start (strToVideotime_pcrToVideotime h₀ hr₁ _) ho
  have hstart : indexLookupPCR v (videotimeToPcr (pcrToVideotime r.pcr)) = some s := by
    rw [videotimeToPcr_pcrToVideotime h₀ hr₁, hs]
  obtain ⟨e, he⟩ := indexLookupPCR_of_mem (List.getLast_mem hv) _ le_rfl
  have hmem : r ∈ s :: post := by
    rw [hsplit, List.mem_append] at hrv
    exact hrv.resolve_left fun hx => absurd (hpre' r hx) (not_lt.2 hround)
  exact ⟨pre, s, post, e, if b then some (sliceCopy F s.offset s.offset e.offset) else none, hsplit,
    hmem, hpre', of_decide_eq_true hst, by
    rw [slicer_loaded hc (indexLoad_indexSave L hv hfit)]
    simp only [SlicerCtx.pcrStart, SlicerCtx.pcrEnd, SlicerCtx.init, if_true, Bool.false_eq_true,
      if_false, hstart, he]⟩

/-- Three records, the last 5 ticks past the second of the one before it: the time listed for
the last is given back to `-s`. -/
theorem slicer_start_at_listed_time_earlier :
    ∃ pre s post e out, [⟨0, 0⟩, ⟨27000000, 188⟩, ⟨27000005, 376⟩] = pre ++ s :: post ∧
      (⟨27000005, 376⟩ : PcrPosition) ∈ s :: post ∧ (∀ x ∈ pre, x.pcr < 27000000) ∧
      27000000 ≤ s.pcr ∧
      slicer specLayout (fun _ _ => none) []
          (some (indexSave specLayout [⟨0, 0⟩, ⟨27000000, 188⟩, ⟨27000005, 376⟩]))
          [.start (indexDumpEntry 2 ⟨27000005, 376⟩).streamtime] = .sliced s e out :=
  @slicer_start_at_listed_time specLayout (fun _ _ => none) []
    [⟨0, 0⟩, ⟨27000000, 188⟩, ⟨27000005, 376⟩] (List.cons_ne_nil _ _) (by decide) (by decide) _
    (indexLoad_indexSave specLayout (List.cons_ne_nil _ _) (by decide)) _
    (mem_indexDump.2 ⟨2, ⟨27000005, 376⟩, by decide, rfl, rfl⟩) [] (by simp)

/-- The listed time is `0.00:00:01.0`, and the slice starts at the second record. -/
example : (indexDumpEntry 2 ⟨27000005, 376⟩).streamtime = "0.00:00:01.0".toList ∧
    slicer specLayout (fun _ _ => none) []
        (some (indexSave specLayout [⟨0, 0⟩, ⟨27000000, 188⟩, ⟨27000005, 376⟩]))
        [.start "0.00:00:01.0".toList] = .sliced ⟨27000000, 188⟩ ⟨27000005, 376⟩ none := by
  decide

end TsTools
