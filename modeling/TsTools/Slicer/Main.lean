import TsTools.Slicer.TimeString

/-!
# The `slicer` command

`slicer` (lines 290–486) sets `-s`, `-e` and `-o` from its options in order, a
time that `str_to_videotime` rejects ending the program.  It then loads the index
of its input; without one it scans the input, saves the index and exits.  With one
it turns `-s` and `-e` into PCRs (`pcrMin` and `pcrMax` when absent), looks both
up with `indexLookupPCR`, prints both records with `indexDumpEntry`, and with `-o`
copies the slice between them.  Two options are left out of the fold: `-l`, which
loads and lists the index and goes on (`indexDump`, in `Listing.lean`), and `-q`,
which prints a file's duration and exits (`indexFastQueryDuration`).

* `slicer_eq_nullRecord_iff` — `indexDumpEntry` is handed `NULL` exactly when one of
  the two PCRs is past every record of the index;
* `slicer_without_times` — without `-s` and `-e` it never is;
* `slicer_sliced_eq` — when both records are found, `-o` writes the slice of
  `slicerOutput`;
* `slicer_times_order` — on an index whose offsets increase, the start record is not after
  the end record unless `-s` is later than `-e`, and then `-o` writes an empty file;
* `slicer_end_past_index` — an accepted `-e` time past every PCR of a saved index
  makes `indexDumpEntry` dereference `NULL`.
-/

namespace TsTools

/-- A `slicer` option the run reads. -/
inductive SlicerOpt where
  /-- `-s <time>`. -/
  | start (t : List Char)
  /-- `-e <time>`. -/
  | stop (t : List Char)
  /-- `-o <file>`. -/
  | output
  deriving Repr, DecidableEq

/-- The fields of `tool_context_s` the options set: `opt_s`, `opt_e` and `ofn` as whether they
are set, and the two times. -/
structure SlicerCtx where
  optS : Bool
  optE : Bool
  timeStartStream : VideoTime
  timeEndStream : VideoTime
  ofn : Bool
  deriving Repr, DecidableEq

/-- The context after `memset(ctx, 0, sizeof(*ctx))`. -/
def SlicerCtx.init : SlicerCtx := ⟨false, false, ⟨0, 0, 0, 0, 0⟩, ⟨0, 0, 0, 0, 0⟩, false⟩

/-- One `getopt` case; `none` when `str_to_videotime` fails (`-s syntax error`, `exit(1)`). -/
def SlicerCtx.applyOpt (ctx : SlicerCtx) : SlicerOpt → Option SlicerCtx
  | .start t =>
    let (ret, vt) := strToVideotime t ctx.timeStartStream
    if ret < 0 then none else some { ctx with timeStartStream := vt, optS := true }
  | .stop t =>
    let (ret, vt) := strToVideotime t ctx.timeEndStream
    if ret < 0 then none else some { ctx with timeEndStream := vt, optE := true }
  | .output => some { ctx with ofn := true }

/-- The options, in order. -/
def slicerOptions (opts : List SlicerOpt) : Option SlicerCtx :=
  opts.foldlM SlicerCtx.applyOpt SlicerCtx.init

/-- `pcrStart`: the `-s` time, or `pcrMin`. -/
def SlicerCtx.pcrStart (ctx : SlicerCtx) (idx : LoadedIndex) : Int :=
  if ctx.optS then videotimeToPcr ctx.timeStartStream else idx.pcrMin

/-- `pcrEnd`: the `-e` time, or `pcrMax`. -/
def SlicerCtx.pcrEnd (ctx : SlicerCtx) (idx : LoadedIndex) : Int :=
  if ctx.optE then videotimeToPcr ctx.timeEndStream else idx.pcrMax

/-- How `slicer` ends. -/
inductive SlicerOutcome where
  /-- `-s syntax error` or `-e syntax error`: exit 1. -/
  | syntaxError
  /-- No index: the index saved to `<input>.idx`, then exit 0. -/
  | indexed (idx : List UInt8)
  /-- `indexLoad` reads a record outside its buffer. -/
  | outOfBounds
  /-- `indexDumpEntry` is handed the `NULL` of a failed lookup and dereferences it. -/
  | nullRecord
  /-- Both records printed, and with `-o` the slice written. -/
  | sliced (s e : PcrPosition) (out : Option (List UInt8))
  deriving Repr, DecidableEq

/-- `slicer` on its input `F`, the content of `<input>.idx` (`none` when there is none), and
its options. -/
def slicer (L : RecordLayout) (query : QueryPCRs) (F : List UInt8)
    (idxFile : Option (List UInt8)) (opts : List SlicerOpt) : SlicerOutcome :=
  match slicerOptions opts with
  | none => .syntaxError
  | some ctx =>
    match indexLoad L idxFile with
    | .missing => .indexed (indexSave L (indexScan query F 0 []))
    | .outOfBounds => .outOfBounds
    | .loaded idx =>
      match indexLookupPCR idx.allPCRs (ctx.pcrStart idx),
        indexLookupPCR idx.allPCRs (ctx.pcrEnd idx) with
      | some s, some e =>
        .sliced s e (if ctx.ofn then some (sliceCopy F s.offset s.offset e.offset) else none)
      | _, _ => .nullRecord

/-! ## The lookups -/

section
variable {L : RecordLayout} {query : QueryPCRs} {F : List UInt8} {idxFile : Option (List UInt8)}
  {opts : List SlicerOpt} {ctx : SlicerCtx} {idx : LoadedIndex}

/-- With an index, `slicer` ends as the two lookups do. -/
theorem slicer_loaded (hc : slicerOptions opts = some ctx) (hl : indexLoad L idxFile = .loaded idx) :
    slicer L query F idxFile opts =
      match indexLookupPCR idx.allPCRs (ctx.pcrStart idx),
        indexLookupPCR idx.allPCRs (ctx.pcrEnd idx) with
      | some s, some e =>
        .sliced s e (if ctx.ofn then some (sliceCopy F s.offset s.offset e.offset) else none)
      | _, _ => .nullRecord := by
  simp only [slicer, hc, hl]

/-- **When `indexDumpEntry` is handed `NULL`.**  With an index, exactly when the start or the
end PCR is past every record. -/
theorem slicer_eq_nullRecord_iff (hc : slicerOptions opts = some ctx)
    (hl : indexLoad L idxFile = .loaded idx) :
    slicer L query F idxFile opts = .nullRecord ↔
      (∀ r ∈ idx.allPCRs, r.pcr < ctx.pcrStart idx) ∨ ∀ r ∈ idx.allPCRs, r.pcr < ctx.pcrEnd idx := by
  rw [slicer_loaded hc hl, ← indexLookupPCR_eq_none_iff, ← indexLookupPCR_eq_none_iff]
  cases indexLookupPCR idx.allPCRs (ctx.pcrStart idx) <;>
    cases indexLookupPCR idx.allPCRs (ctx.pcrEnd idx) <;> simp

/-- When both records are found, `-o` writes the slice `slicerOutput` gives for the index and
the two times. -/
theorem slicer_sliced_eq (hc : slicerOptions opts = some ctx) (hl : indexLoad L idxFile = .loaded idx)
    (ho : ctx.ofn = true) {s e : PcrPosition} {out : Option (List UInt8)}
    (h : slicer L query F idxFile opts = .sliced s e out) :
    out = slicerOutput F idx.allPCRs (if ctx.optS then some ctx.timeStartStream else none)
      (if ctx.optE then some ctx.timeEndStream else none) := by
  obtain ⟨hmin, hmax⟩ := indexLoad_loaded_ends L hl
  have hs : pcrStart idx.allPCRs (if ctx.optS then some ctx.timeStartStream else none) =
      ctx.pcrStart idx := by
    unfold SlicerCtx.pcrStart
    cases ctx.optS <;> simp [pcrStart, hmin]
  have he : pcrEnd idx.allPCRs (if ctx.optE then some ctx.timeEndStream else none) =
      ctx.pcrEnd idx := by
    unfold SlicerCtx.pcrEnd
    cases ctx.optE <;> simp [pcrEnd, hmax]
  rw [slicer_loaded hc hl] at h
  rw [slicerOutput, hs, he]
  split at h
  · rename_i h₁ h₂
    simp only [SlicerOutcome.sliced.injEq, ho, if_true] at h
    obtain ⟨rfl, rfl, rfl⟩ := h
    simp only [h₁, h₂]
  · cases h

end

/-! ## The order of the two times -/

/-- **Times given in reverse.**  For a saved index whose offsets increase, as the scan writes
them, and any command line that sets both `-s` and `-e`: when both records are found, the start
record is at or before the end record if `-s` is not later than `-e`; if `-s` is later, the end
record is at or before the start one, and `-o` writes an empty file with no error. -/
theorem slicer_times_order (L : RecordLayout) (query : QueryPCRs) (F : List UInt8)
    {v : List PcrPosition} (hv : v ≠ []) (hfit : ∀ r ∈ v, r.Fits)
    (hoff : v.Pairwise (·.offset < ·.offset)) {opts : List SlicerOpt} {ctx : SlicerCtx}
    (hc : slicerOptions opts = some ctx) (hS : ctx.optS = true) (hE : ctx.optE = true)
    {s e : PcrPosition} {out : Option (List UInt8)}
    (h : slicer L query F (some (indexSave L v)) opts = .sliced s e out) :
    (videotimeToPcr ctx.timeStartStream ≤ videotimeToPcr ctx.timeEndStream → s.offset ≤ e.offset) ∧
      (videotimeToPcr ctx.timeEndStream < videotimeToPcr ctx.timeStartStream →
        e.offset ≤ s.offset ∧ out = if ctx.ofn then some [] else none) := by
  rw [slicer_loaded hc (indexLoad_indexSave L hv hfit)] at h
  simp only [SlicerCtx.pcrStart, SlicerCtx.pcrEnd, hS, hE, if_true] at h
  split at h
  · rename_i s' e' hs he
    simp only [SlicerOutcome.sliced.injEq] at h
    obtain ⟨rfl, rfl, rfl⟩ := h
    refine ⟨fun hp => indexLookupPCR_offset_le hoff hp hs he, fun hp => ?_⟩
    have hle := indexLookupPCR_offset_le hoff hp.le he hs
    have hcopy : sliceCopy F s'.offset s'.offset e'.offset = [] := by
      rw [sliceCopy, if_neg (by omega)]
    exact ⟨hle, by rw [hcopy]⟩
  · cases h

/-- `-s 0.00:00:01.0 -e 0.00:00:00.0 -o` on an index of two records a second apart: the start
record is the second, the end record the first, and the slice is empty. -/
theorem slicer_times_order_reversed :
    (videotimeToPcr ⟨0, 0, 0, 1, 0⟩ ≤ videotimeToPcr ⟨0, 0, 0, 0, 0⟩ →
        (⟨27000000, 188⟩ : PcrPosition).offset ≤ (⟨0, 0⟩ : PcrPosition).offset) ∧
      (videotimeToPcr ⟨0, 0, 0, 0, 0⟩ < videotimeToPcr ⟨0, 0, 0, 1, 0⟩ →
        (⟨0, 0⟩ : PcrPosition).offset ≤ (⟨27000000, 188⟩ : PcrPosition).offset ∧
          (some [] : Option (List UInt8)) = if true then some [] else none) :=
  @slicer_times_order specLayout (fun _ _ => none) [] [⟨0, 0⟩, ⟨27000000, 188⟩]
    (List.cons_ne_nil _ _) (by decide) (by decide)
    [.start "0.00:00:01.0".toList, .stop "0.00:00:00.0".toList, .output]
    ⟨true, true, ⟨0, 0, 0, 1, 0⟩, ⟨0, 0, 0, 0, 0⟩, true⟩ (by decide) rfl rfl ⟨27000000, 188⟩ ⟨0, 0⟩
    (some []) (by simp only [slicer, sliceCopy_eq]; decide)

/-! ## Without `-s` and `-e` -/

/-- Options that are all `-o` set `ofn` and nothing else. -/
theorem foldlM_applyOpt_output {opts : List SlicerOpt} (h : ∀ o ∈ opts, o = .output)
    (c : SlicerCtx) : ∃ b, opts.foldlM SlicerCtx.applyOpt c = some { c with ofn := b } := by
  induction opts generalizing c with
  | nil => exact ⟨c.ofn, rfl⟩
  | cons o opts ih =>
    obtain rfl := h o (List.mem_cons_self _ _)
    obtain ⟨b, hb⟩ := ih (fun o ho => h o (List.mem_cons_of_mem _ ho)) { c with ofn := true }
    exact ⟨b, by simpa [SlicerCtx.applyOpt] using hb⟩

/-- **Without `-s` and `-e`**, a loaded index never hands `indexDumpEntry` a `NULL`: the lookup
of `pcrMin` finds the first record, and that of `pcrMax` the last one or one before it. -/
theorem slicer_without_times (L : RecordLayout) (query : QueryPCRs) (F : List UInt8)
    {idxFile : Option (List UInt8)} {idx : LoadedIndex} (hl : indexLoad L idxFile = .loaded idx)
    {opts : List SlicerOpt} (h : ∀ o ∈ opts, o = .output) :
    ∃ s e out, slicer L query F idxFile opts = .sliced s e out := by
  obtain ⟨b, hc⟩ := foldlM_applyOpt_output h SlicerCtx.init
  obtain ⟨hmin, hmax⟩ := indexLoad_loaded_ends L hl
  obtain ⟨first, hfirst, hmin'⟩ := Option.map_eq_some'.1 hmin
  obtain ⟨last, hlast, hmax'⟩ := Option.map_eq_some'.1 hmax
  obtain ⟨s, hs⟩ := indexLookupPCR_of_mem (List.mem_of_mem_head? hfirst)
    ({ SlicerCtx.init with ofn := b }.pcrStart idx) (by simp [SlicerCtx.pcrStart, SlicerCtx.init, hmin'])
  obtain ⟨e, he⟩ := indexLookupPCR_of_mem (List.mem_of_mem_getLast? hlast)
    ({ SlicerCtx.init with ofn := b }.pcrEnd idx) (by simp [SlicerCtx.pcrEnd, SlicerCtx.init, hmax'])
  exact ⟨s, e, _, by rw [slicer_loaded hc hl, hs, he]⟩

/-- A saved index of one record and `-o` alone. -/
theorem slicer_without_times_one_record :
    ∃ s e out, slicer specLayout (fun _ _ => none) [] (some (indexSave specLayout [⟨0, 0⟩]))
      [.output] = .sliced s e out :=
  slicer_without_times specLayout _ [] (indexLoad_indexSave specLayout (List.cons_ne_nil _ _)
    (by decide)) (by simp)

/-! ## An end time past the index -/

/-- **An end time past the index.**  For any saved index of records that fit their C types,
and any `-e` text `str_to_videotime` accepts whose time is past every PCR of the index, the
lookup of the end fails and `indexDumpEntry(ctx, 1, NULL)` dereferences its `NULL`. -/
theorem slicer_end_past_index (L : RecordLayout) (query : QueryPCRs) (F : List UInt8)
    {v : List PcrPosition} (hv : v ≠ []) (hfit : ∀ r ∈ v, r.Fits) {t : List Char}
    {vt : VideoTime} (ht : strToVideotime t ⟨0, 0, 0, 0, 0⟩ = (0, vt))
    (hpast : ∀ r ∈ v, r.pcr < videotimeToPcr vt) :
    slicer L query F (some (indexSave L v)) [.stop t] = .nullRecord := by
  have hc : slicerOptions [.stop t] = some { SlicerCtx.init with timeEndStream := vt, optE := true } := by
    simp [slicerOptions, SlicerCtx.applyOpt, SlicerCtx.init, ht]
  exact (slicer_eq_nullRecord_iff hc (indexLoad_indexSave L hv hfit)).2 (.inr hpast)

/-- An index of one record at PCR 0 and `-e 0.00:00:01.0`. -/
theorem slicer_end_past_index_one_second :
    strToVideotime "0.00:00:01.0".toList ⟨0, 0, 0, 0, 0⟩ = (0, ⟨0, 0, 0, 1, 0⟩) ∧
      slicer specLayout (fun _ _ => none) [] (some (indexSave specLayout [⟨0, 0⟩]))
        [.stop "0.00:00:01.0".toList] = .nullRecord :=
  ⟨by decide, @slicer_end_past_index specLayout _ [] [⟨0, 0⟩] (List.cons_ne_nil _ _) (by decide) _
    ⟨0, 0, 0, 1, 0⟩ (by decide) (by decide)⟩

end TsTools
