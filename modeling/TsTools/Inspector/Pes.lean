import TsTools.Inspector.Basic

/-!
# PES statistics: `processPESStats` and `processPESHeader`

`processPESStats` runs on every packet.  A unit start measures how long the
previous PES unit took to arrive and, when the payload holds a PES header on a
PID other than 0, hands the header to `processPESHeader`; a continuation packet
only notes the SCR it arrived at.

`processPESHeader` is cut along the source's own blocks:

* `latchPts`, `latchDts` (lines 821–857) — work on the header parsed by the
  *previous* call, still in `p->pes`: it becomes `pts_last` / `dts_last`, and
  the PID's trend is allocated on first use;
* the parse (line 863) — the new header replaces `p->pes`;
* `ptsStep`, `dtsStep` (lines 869–884) — the differences against `pts_last`,
  the counts and the SCR distances since the previous header;
* `reportPts`, `reportDts` (lines 894–1102) — the trend updates, the warnings,
  the report lines and, in reorder mode, the ordered list.

Each block comes with the lemma saying what it does to the slot, and each report
with the list of what it can emit (`mem_reportPts`, `mem_reportDts`), so that later
files never unfold `processPESHeader` or its reports.
-/

namespace TsTools

/-! ## The blocks of `processPESHeader` -/

/-- Lines 821–838: a previous header with a PTS becomes `pts_last`, and the PID's PTS
trend exists afterwards: `kllineartrend_alloc` and `pthread_mutex_init` run when it did
not. -/
def latchPts (cfg : Config) (pid : Pid) (p : PidSt) : PidSt × List Event :=
  if p.pes.hasPts then
    ({ p with ptsLast := p.pes, trendPts := { p.trendPts with allocated := true } },
      if p.trendPts.allocated then [] else [.trendAlloc pid .pts cfg.trendSize])
  else (p, [])

/-- Lines 840–857: the same for a previous header with a DTS, into `dts_last` and the
DTS trend. -/
def latchDts (cfg : Config) (pid : Pid) (p : PidSt) : PidSt × List Event :=
  if p.pes.hasDts then
    ({ p with dtsLast := p.pes, trendDts := { p.trendDts with allocated := true } },
      if p.trendDts.allocated then [] else [.trendAlloc pid .dts cfg.trendSize])
  else (p, [])

/-- The wrap correction of line 871: a forward distance of more than 10 s is taken as a
step backwards. -/
def wrapPtsDiff (d : Int) : Int := if 10 * 90000 < d then d - maxPtsValue else d

/-- A forward distance of at most 10 s is kept, and read in ms by its quotient. -/
theorem ptsTicksToMs_wrapPtsDiff_of_le {d : Int} (h₀ : 0 ≤ d) (h : d ≤ 10 * 90000) :
    ptsTicksToMs (wrapPtsDiff d) = d / 90 := by
  rw [wrapPtsDiff, if_neg (by omega), ptsTicksToMs, Int.tdiv_eq_ediv h₀ (by decide)]

/-- A longer one is taken back by the modulus, and reads as no positive number of ms. -/
theorem ptsTicksToMs_wrapPtsDiff_nonpos {d : Int} (h : 10 * 90000 < d) (h₁ : d < maxPtsValue) :
    ptsTicksToMs (wrapPtsDiff d) ≤ 0 := by
  rw [wrapPtsDiff, if_pos h, ptsTicksToMs, show d - maxPtsValue = -(maxPtsValue - d) by omega,
    Int.neg_tdiv, Int.tdiv_eq_ediv (by omega) (by decide)]
  exact Int.neg_nonpos_of_nonneg (Int.ediv_nonneg (by omega) (by decide))

/-- So a forward distance reaches a positive threshold in ms after the correction exactly when
it lies between the threshold and 10 s. -/
theorem le_ptsTicksToMs_wrapPtsDiff_iff {limit d : Int} (hl : 0 < limit) (h₀ : 0 ≤ d)
    (h₁ : d < maxPtsValue) :
    limit ≤ ptsTicksToMs (wrapPtsDiff d) ↔ 90 * limit ≤ d ∧ d ≤ 10 * 90000 := by
  by_cases h : d ≤ 10 * 90000
  · rw [ptsTicksToMs_wrapPtsDiff_of_le h₀ h]
    omega
  · have := ptsTicksToMs_wrapPtsDiff_nonpos (by omega) h₁
    omega

/-- Lines 869–878, for a new header with a PTS: the corrected difference against
`pts_last`, the PTS count, and `pts_scr_diff_ms`, the distance in ms between the SCR of the
PID's previous PTS header and the PID's own SCR `p->scr`. -/
def ptsStep (p : PidSt) : PidSt × Int :=
  ({ p with
      ptsDiffTicks := wrapPtsDiff (ptsDiff p.ptsLast.pts p.pes.pts)
      ptsCount := p.ptsCount + 1
      ptsLastScr := p.scr },
    (scrDiff p.ptsLastScr p.scr).tdiv 27000)

/-- Lines 879–884, for a new header with a DTS: the difference, taken against
`pts_last.DTS`, the DTS count and `dts_scr_diff_ms`. -/
def dtsStep (p : PidSt) : PidSt × Int :=
  ({ p with
      dtsDiffTicks := ptsDiff p.ptsLast.dts p.pes.dts
      dtsCount := p.dtsCount + 1
      dtsLastScr := p.scr },
    (scrDiff p.dtsLastScr p.scr).tdiv 27000)

/-- Lines 894–1013, for a new header with a PTS.  `scrNow` is the PCR last seen on the
configured SCR PID and `prior` the delivery span `processPESStats` passes in.  The test
`(double)x / 27000.0 < 0` is `x < 0`, and the `uint64_t` `pts_scr_diff_ms` is compared with
the threshold converted to `uint64_t`. -/
def reportPts (cfg : Config) (scrNow : Int) (pid : Pid) (filepos : Nat) (prior ptsScrMs : Int)
    (p : PidSt) : PidSt × List Event :=
  let minusScr := p.pes.pts * 300 - scrNow
  let trend := { p.trendPts with
    counter := p.trendPts.counter + 1
    insertedCounter := p.trendPts.insertedCounter + 1 }
  let ms := ptsTicksToMs p.ptsDiffTicks
  let limit := cfg.maxAllowablePTSDTSDrift
  let item : OrderedClockItem := ⟨p.ptsCount, p.pes.pts, filepos⟩
  let list := if p.ptsCount = 1 then some [] else p.orderedPtsList
  ({ p with
      trendPts := trend
      orderedPtsList :=
        if cfg.orderAscPtsOutput then list.map (orderedClockInsert · item) else p.orderedPtsList },
    (if 16 < trend.counter then [.trendAdd pid .pts] else []) ++
    (if minusScr < 0 ∧ cfg.enableNonTimingConformantMessages then [.ptsBehindPcr p.ptsCount]
      else []) ++
    (if limit ≤ ms then [.ptsClockWarning p.ptsCount limit ms] else []) ++
    (if toUInt64 limit ≤ ptsScrMs then [.ptsScrWarning p.ptsCount limit ptsScrMs] else []) ++
    (if !cfg.orderAscPtsOutput then
      .ptsLine p.ptsCount filepos pid p.pes.pts p.ptsDiffTicks ptsScrMs minusScr ::
        if cfg.enablePESDeliveryReport then [.pesDelivery (p.ptsCount - 1) pid prior] else []
    else []) ++
    (if cfg.orderAscPtsOutput then
      (if p.ptsCount = 1 then [.orderedClockInit pid] else []) ++ [.orderedClockInsert pid item]
    else []))

/-- Lines 1016–1102, for a new header with a DTS.  The 90 kHz warning tests the DTS
difference but prints `PTS_TICKS_TO_MS(p->pts_diff_ticks)`, and the line carries
`p->pts_count`, as the source has them. -/
def reportDts (cfg : Config) (scrNow : Int) (pid : Pid) (filepos : Nat) (dtsScrMs : Int)
    (p : PidSt) : PidSt × List Event :=
  let minusScr := p.pes.dts * 300 - scrNow
  let trend := { p.trendDts with counter := p.trendDts.counter + 1 }
  let limit := cfg.maxAllowablePTSDTSDrift
  ({ p with trendDts := trend },
    (if 16 < trend.counter then [.trendAdd pid .dts] else []) ++
    (if limit ≤ ptsTicksToMs p.dtsDiffTicks then
      [.dtsClockWarning p.dtsCount limit (ptsTicksToMs p.ptsDiffTicks)] else []) ++
    (if toUInt64 limit ≤ dtsScrMs then [.dtsScrWarning p.dtsCount limit dtsScrMs] else []) ++
    [.dtsLine p.ptsCount filepos pid p.pes.dts p.dtsDiffTicks dtsScrMs minusScr])

/-- `processPESHeader` on the slot of `pid`, with the header `h` that `ltn_pes_packet_parse`
decodes from this packet. -/
def processPESHeader (cfg : Config) (scrNow : Int) (pid : Pid) (filepos : Nat) (prior : Int)
    (p : PidSt) (h : PesHeader) : PidSt × List Event :=
  let r₁ := latchPts cfg pid p
  let r₂ := latchDts cfg pid r₁.1
  let p₃ := { r₂.1 with pes := h }
  let r₄ := if h.hasPts then ptsStep p₃ else (p₃, 0)
  let r₅ := if h.hasDts then dtsStep r₄.1 else (r₄.1, 0)
  let r₆ := if h.hasPts then reportPts cfg scrNow pid filepos prior r₄.2 r₅.1 else (r₅.1, [])
  let r₇ := if h.hasDts then reportDts cfg scrNow pid filepos r₅.2 r₆.1 else (r₆.1, [])
  (r₇.1, r₁.2 ++ r₂.2 ++ r₆.2 ++ r₇.2)

/-! ## `processPESStats` -/

/-- `processPESStats` on the slot of the packet's PID; `scrNow` is `pids[scr_pid].scr`. -/
def pidPESStats (cfg : Config) (scrNow : Int) (pkt : TsPacket) (p : PidSt) : PidSt × List Event :=
  if pkt.pusi then
    let prior := toInt64 (p.scrLastSeen - p.scrAtPesUnitHeader)
    let p := { p with scrAtPesUnitHeader := scrNow }
    match pkt.pes with
    | some h =>
      if 0 < pkt.pid.val then processPESHeader cfg scrNow pkt.pid pkt.filepos prior p h
      else (p, [])
    | none => (p, [])
  else ({ p with scrLastSeen := scrNow }, [])

/-- `processPESStats`. -/
def processPESStats (cfg : Config) (ctx : Ctx) (pkt : TsPacket) : Ctx × List Event :=
  let r := pidPESStats cfg (ctx.pids cfg.scrPid).scr pkt (ctx.pids pkt.pid)
  (ctx.setPid pkt.pid r.1, r.2)

/-! ## What each block does to the slot -/

@[simp] theorem latchPts_pes (cfg : Config) (pid : Pid) (p : PidSt) :
    (latchPts cfg pid p).1.pes = p.pes := by
  unfold latchPts; split <;> rfl

@[simp] theorem latchPts_trendDts (cfg : Config) (pid : Pid) (p : PidSt) :
    (latchPts cfg pid p).1.trendDts = p.trendDts := by
  unfold latchPts; split <;> rfl

theorem latchPts_snd (cfg : Config) (pid : Pid) (p : PidSt) :
    (latchPts cfg pid p).2 =
      if p.pes.hasPts ∧ p.trendPts.allocated = false then [.trendAlloc pid .pts cfg.trendSize]
      else [] := by
  unfold latchPts; cases p.pes.hasPts <;> cases p.trendPts.allocated <;> rfl

theorem latchDts_snd (cfg : Config) (pid : Pid) (p : PidSt) :
    (latchDts cfg pid p).2 =
      if p.pes.hasDts ∧ p.trendDts.allocated = false then [.trendAlloc pid .dts cfg.trendSize]
      else [] := by
  unfold latchDts; cases p.pes.hasDts <;> cases p.trendDts.allocated <;> rfl

/-- The slot after the two latches and the parse of `h`. -/
def latched (p : PidSt) (h : PesHeader) : PidSt :=
  { p with
    ptsLast := if p.pes.hasPts then p.pes else p.ptsLast
    dtsLast := if p.pes.hasDts then p.pes else p.dtsLast
    trendPts := { p.trendPts with allocated := p.trendPts.allocated || p.pes.hasPts }
    trendDts := { p.trendDts with allocated := p.trendDts.allocated || p.pes.hasDts }
    pes := h }

section
variable (cfg : Config) (scrNow : Int) (pid : Pid) (filepos : Nat) (prior : Int) (p : PidSt)
  (h : PesHeader)

@[simp] theorem latched_counters : (latched p h).counters = p.counters := rfl

@[simp] theorem ptsStep_counters : (ptsStep p).1.counters = p.counters := rfl

@[simp] theorem dtsStep_counters : (dtsStep p).1.counters = p.counters := rfl

@[simp] theorem reportPts_counters (ms : Int) :
    (reportPts cfg scrNow pid filepos prior ms p).1.counters = p.counters := rfl

@[simp] theorem reportPts_trendDts (ms : Int) :
    (reportPts cfg scrNow pid filepos prior ms p).1.trendDts = p.trendDts := rfl

@[simp] theorem reportDts_counters (ms : Int) :
    (reportDts cfg scrNow pid filepos ms p).1.counters = p.counters := rfl

/-- The two latches, then the parse of `h`. -/
theorem latches_parse :
    { (latchDts cfg pid (latchPts cfg pid p).1).1 with pes := h } = latched p h := by
  simp only [latchPts, latchDts, latched]
  cases p.pes.hasPts <;> cases hD : p.pes.hasDts <;> simp [hD]

theorem processPESHeader_fst :
    (processPESHeader cfg scrNow pid filepos prior p h).1 =
      if h.hasDts then
        (reportDts cfg scrNow pid filepos (dtsStep (ptsStep (latched p h)).1).2
          (reportPts cfg scrNow pid filepos prior (ptsStep (latched p h)).2
            (dtsStep (ptsStep (latched p h)).1).1).1).1
      else if h.hasPts then
        (reportPts cfg scrNow pid filepos prior (ptsStep (latched p h)).2
          (ptsStep (latched p h)).1).1
      else latched p h := by
  cases hD : h.hasDts
  · cases hP : h.hasPts <;> simp [processPESHeader, hP, hD, latches_parse]
  · simp [processPESHeader, PesHeader.hasPts_of_hasDts hD, hD, latches_parse]

/-- The calls the two latches make. -/
def latchEvents (cfg : Config) (pid : Pid) (p : PidSt) : List Event :=
  (if p.pes.hasPts ∧ p.trendPts.allocated = false then [.trendAlloc pid .pts cfg.trendSize]
    else []) ++
  (if p.pes.hasDts ∧ p.trendDts.allocated = false then [.trendAlloc pid .dts cfg.trendSize]
    else [])

theorem processPESHeader_snd :
    (processPESHeader cfg scrNow pid filepos prior p h).2 =
      latchEvents cfg pid p ++
      (if h.hasPts then
        (reportPts cfg scrNow pid filepos prior (ptsStep (latched p h)).2
          (if h.hasDts then (dtsStep (ptsStep (latched p h)).1).1
            else (ptsStep (latched p h)).1)).2 else []) ++
      (if h.hasDts then
        (reportDts cfg scrNow pid filepos (dtsStep (ptsStep (latched p h)).1).2
          (reportPts cfg scrNow pid filepos prior (ptsStep (latched p h)).2
            (dtsStep (ptsStep (latched p h)).1).1).1).2 else []) := by
  have he : (latchPts cfg pid p).2 ++ (latchDts cfg pid (latchPts cfg pid p).1).2 =
      latchEvents cfg pid p := by
    rw [latchPts_snd, latchDts_snd, latchPts_pes, latchPts_trendDts]; rfl
  cases hD : h.hasDts
  · cases hP : h.hasPts <;> simp [processPESHeader, hP, hD, latches_parse, ← he]
  · simp [processPESHeader, PesHeader.hasPts_of_hasDts hD, hD, latches_parse, ← he]

/-- The PTS report does not read what the DTS step writes. -/
@[simp] theorem reportPts_dtsStep_snd (ms : Int) :
    (reportPts cfg scrNow pid filepos prior ms (dtsStep p).1).2 =
      (reportPts cfg scrNow pid filepos prior ms p).2 := rfl

/-- The DTS report does not read what the PTS report writes. -/
@[simp] theorem reportDts_reportPts_snd (ms ms' : Int) :
    (reportDts cfg scrNow pid filepos ms' (reportPts cfg scrNow pid filepos prior ms p).1).2 =
      (reportDts cfg scrNow pid filepos ms' p).2 := rfl

/-- Every line and call the PTS report can emit, each with its guard. -/
theorem mem_reportPts {e : Event} (ms : Int) :
    e ∈ (reportPts cfg scrNow pid filepos prior ms p).2 ↔
      (16 < p.trendPts.counter + 1 ∧ e = .trendAdd pid .pts) ∨
      ((p.pes.pts * 300 - scrNow < 0 ∧ cfg.enableNonTimingConformantMessages) ∧
        e = .ptsBehindPcr p.ptsCount) ∨
      (cfg.maxAllowablePTSDTSDrift ≤ ptsTicksToMs p.ptsDiffTicks ∧
        e = .ptsClockWarning p.ptsCount cfg.maxAllowablePTSDTSDrift (ptsTicksToMs p.ptsDiffTicks)) ∨
      (toUInt64 cfg.maxAllowablePTSDTSDrift ≤ ms ∧
        e = .ptsScrWarning p.ptsCount cfg.maxAllowablePTSDTSDrift ms) ∨
      (cfg.orderAscPtsOutput = false ∧
        (e = .ptsLine p.ptsCount filepos pid p.pes.pts p.ptsDiffTicks ms (p.pes.pts * 300 - scrNow) ∨
          cfg.enablePESDeliveryReport ∧ e = .pesDelivery (p.ptsCount - 1) pid prior)) ∨
      (cfg.orderAscPtsOutput ∧ (p.ptsCount = 1 ∧ e = .orderedClockInit pid ∨
        e = .orderedClockInsert pid ⟨p.ptsCount, p.pes.pts, filepos⟩)) := by
  simp only [reportPts, List.mem_append, List.mem_ite_nil_right, List.mem_singleton,
    List.mem_cons, List.not_mem_nil, Bool.not_eq_true', or_false, or_assoc]

/-- Every line and call the DTS report can emit, each with its guard. -/
theorem mem_reportDts {e : Event} (ms : Int) :
    e ∈ (reportDts cfg scrNow pid filepos ms p).2 ↔
      (16 < p.trendDts.counter + 1 ∧ e = .trendAdd pid .dts) ∨
      (cfg.maxAllowablePTSDTSDrift ≤ ptsTicksToMs p.dtsDiffTicks ∧
        e = .dtsClockWarning p.dtsCount cfg.maxAllowablePTSDTSDrift (ptsTicksToMs p.ptsDiffTicks)) ∨
      (toUInt64 cfg.maxAllowablePTSDTSDrift ≤ ms ∧
        e = .dtsScrWarning p.dtsCount cfg.maxAllowablePTSDTSDrift ms) ∨
      e = .dtsLine p.ptsCount filepos pid p.pes.dts p.dtsDiffTicks ms (p.pes.dts * 300 - scrNow) := by
  simp only [reportDts, List.mem_append, List.mem_ite_nil_right, List.mem_singleton, or_assoc]

/-- **What `processPESHeader` does to the slot.** -/
theorem processPESHeader_slot :
    (processPESHeader cfg scrNow pid filepos prior p h).1 =
      { p with
        ptsLast := if p.pes.hasPts then p.pes else p.ptsLast
        dtsLast := if p.pes.hasDts then p.pes else p.dtsLast
        pes := h
        ptsCount := p.ptsCount + if h.hasPts then 1 else 0
        ptsDiffTicks := if h.hasPts then
          wrapPtsDiff (ptsDiff (if p.pes.hasPts then p.pes else p.ptsLast).pts h.pts)
          else p.ptsDiffTicks
        ptsLastScr := if h.hasPts then p.scr else p.ptsLastScr
        trendPts :=
          { allocated := p.trendPts.allocated || p.pes.hasPts
            counter := p.trendPts.counter + if h.hasPts then 1 else 0
            insertedCounter := p.trendPts.insertedCounter + if h.hasPts then 1 else 0 }
        dtsCount := p.dtsCount + if h.hasDts then 1 else 0
        dtsDiffTicks := if h.hasDts then
          ptsDiff (if p.pes.hasPts then p.pes else p.ptsLast).dts h.dts else p.dtsDiffTicks
        dtsLastScr := if h.hasDts then p.scr else p.dtsLastScr
        trendDts :=
          { allocated := p.trendDts.allocated || p.pes.hasDts
            counter := p.trendDts.counter + if h.hasDts then 1 else 0
            insertedCounter := p.trendDts.insertedCounter }
        orderedPtsList := if h.hasPts ∧ cfg.orderAscPtsOutput then
          (if p.ptsCount = 0 then some [] else p.orderedPtsList).map
            (orderedClockInsert · ⟨p.ptsCount + 1, h.pts, filepos⟩)
          else p.orderedPtsList } := by
  rw [processPESHeader_fst]
  cases hD : h.hasDts
  · cases hP : h.hasPts <;> simp [hP, hD, reportPts, ptsStep, latched]
  · simp [PesHeader.hasPts_of_hasDts hD, hD, reportPts, reportDts, ptsStep, dtsStep, latched]

/-- `processPESHeader` leaves the packet and PCR statistics of the slot alone. -/
@[simp] theorem processPESHeader_counters :
    (processPESHeader cfg scrNow pid filepos prior p h).1.counters = p.counters := by
  rw [processPESHeader_fst]; split_ifs <;> simp

end

@[simp] theorem pidPESStats_counters (cfg : Config) (scrNow : Int) (pkt : TsPacket) (p : PidSt) :
    (pidPESStats cfg scrNow pkt p).1.counters = p.counters := by
  unfold pidPESStats
  split
  · split
    · split
      · exact processPESHeader_counters ..
      · rfl
    · rfl
  · rfl

end TsTools
