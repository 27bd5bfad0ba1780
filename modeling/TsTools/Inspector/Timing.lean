import TsTools.Inspector.PerPid
import TsTools.Inspector.Options

/-!
# The PTS/DTS timing checks of `processPESHeader`

At a header with a PTS (resp. DTS) `processPESHeader` compares it with the
previous one of its PID in two ways: the 90 kHz difference against `pts_last`
(lines 869–873, 944–953), and the SCR distance `pts_scr_diff_ms` between this
header and the previous one, measured on the PID's own PCR `p->scr` (lines
875–877, 955–964; the line that would read the configured SCR PID instead is
commented out).  Both are printed as warnings past `maxAllowablePTSDTSDrift`.

* `slotStep_of_headerOf_none` — a packet that hands `processPESHeader` no header
  changes only the statistics and the delivery fields of its slot;
* `foldl_inspectStep_lastScr` — packets with no header of a kind leave that kind's
  SCR mark alone;
* `inspect_scrDiffMs` — at a header whose PID had a header of the same kind
  before, the SCR-ticks warning is emitted exactly when the distance between the
  PID's own PCRs at the two headers, in ms, reaches the threshold;
* `inspect_quiet` — `-Z` silences the BEHIND warnings and nothing else.
-/

namespace TsTools

/-! ## Which packets reach `processPESHeader` -/

/-- The header a packet hands `processPESHeader`: PES statistics on, a unit start, a PID
other than 0 and a header in the payload. -/
def headerOf (cfg : Config) (q : TsPacket) : Option PesHeader :=
  if 0 < cfg.doPESStatistics ∧ q.pusi ∧ 0 < q.pid.val then q.pes else none

/-- Whether a header carries the clock of kind `k`. -/
def PesHeader.has (h : PesHeader) : TrendKind → Bool
  | .pts => h.hasPts
  | .dts => h.hasDts

/-- `pts_last_scr` or `dts_last_scr`: the PID's PCR at its previous header of kind `k`. -/
def PidSt.lastScr (p : PidSt) : TrendKind → Int
  | .pts => p.ptsLastScr
  | .dts => p.dtsLastScr

/-- `pts_count` or `dts_count`. -/
def PidSt.count (p : PidSt) : TrendKind → Nat
  | .pts => p.ptsCount
  | .dts => p.dtsCount

/-- The warning `Difference between previous and current PTS (DTS) frame measured in SCR
ticks`. -/
def scrWarning : TrendKind → Nat → Int → Int → Event
  | .pts => .ptsScrWarning
  | .dts => .dtsScrWarning

/-- The delivery span `processPESStats` computes at a unit start. -/
def priorTicks (p : PidSt) : Int := toInt64 (p.scrLastSeen - p.scrAtPesUnitHeader)

theorem slotStep_of_headerOf_some {cfg : Config} {q : TsPacket} {h : PesHeader}
    (hq : headerOf cfg q = some h) (ctx : Ctx) :
    slotStep cfg ctx q = (processPESHeader cfg (scrAt cfg ctx q) q.pid q.filepos
      (priorTicks (slotStats cfg q (ctx.pids q.pid)))
      { slotStats cfg q (ctx.pids q.pid) with scrAtPesUnitHeader := scrAt cfg ctx q } h).1 := by
  unfold headerOf at hq
  split_ifs at hq with hc
  simp [slotStep, pidPESStats, hc, hq, priorTicks]

theorem slotEvents_of_headerOf_some {cfg : Config} {q : TsPacket} {h : PesHeader}
    (hq : headerOf cfg q = some h) (ctx : Ctx) :
    slotEvents cfg ctx q = statsEvents cfg ctx q ++ (processPESHeader cfg (scrAt cfg ctx q) q.pid
      q.filepos (priorTicks (slotStats cfg q (ctx.pids q.pid)))
      { slotStats cfg q (ctx.pids q.pid) with scrAtPesUnitHeader := scrAt cfg ctx q } h).2 := by
  unfold headerOf at hq
  split_ifs at hq with hc
  simp [slotEvents, pidPESStats, hc, hq, priorTicks]

theorem slotEvents_of_headerOf_none {cfg : Config} {q : TsPacket} (hq : headerOf cfg q = none)
    (ctx : Ctx) : slotEvents cfg ctx q = statsEvents cfg ctx q := by
  unfold headerOf at hq
  unfold slotEvents pidPESStats
  split_ifs at hq ⊢ <;> simp_all
  split <;> simp_all

theorem slotStep_of_headerOf_none {cfg : Config} {q : TsPacket} (hq : headerOf cfg q = none)
    (ctx : Ctx) : ∃ c a b, slotStep cfg ctx q =
      { (ctx.pids q.pid).withCounters c with scrAtPesUnitHeader := a, scrLastSeen := b } := by
  unfold headerOf at hq
  unfold slotStep pidPESStats
  rw [slotStats_eq]
  by_cases hd : 0 < cfg.doPESStatistics
  · cases hu : q.pusi
    · simp only [hd, hu, if_true]; exact ⟨_, _, _, rfl⟩
    · by_cases hp : 0 < q.pid.val
      · simp only [hd, hu, hp, true_and, if_true] at hq ⊢
        simp only [hq]; exact ⟨_, _, _, rfl⟩
      · simp only [hd, hu, if_true]
        split
        · rw [if_neg hp]; exact ⟨_, _, _, rfl⟩
        · exact ⟨_, _, _, rfl⟩
  · simp only [hd, if_false]; exact ⟨_, (ctx.pids q.pid).scrAtPesUnitHeader, (ctx.pids q.pid).scrLastSeen, rfl⟩

/-! ## The SCR mark of each kind -/

/-- No packet of `mid` on `x` hands `processPESHeader` a header of kind `k`. -/
def NoHeader (cfg : Config) (k : TrendKind) (x : Pid) (mid : List TsPacket) : Prop :=
  ∀ r ∈ mid, r.pid = x → ∀ h ∈ headerOf cfg r, h.has k = false

instance (cfg : Config) (k : TrendKind) (x : Pid) (mid : List TsPacket) :
    Decidable (NoHeader cfg k x mid) :=
  inferInstanceAs (Decidable (∀ r ∈ mid, r.pid = x → ∀ h ∈ headerOf cfg r, h.has k = false))

section
variable {cfg : Config} {k : TrendKind}

theorem processPESHeader_lastScr (scrNow : Int) (x : Pid) (filepos : Nat) (prior : Int)
    (p : PidSt) (h : PesHeader) :
    (processPESHeader cfg scrNow x filepos prior p h).1.lastScr k =
      if h.has k then p.scr else p.lastScr k := by
  rw [processPESHeader_slot]; cases k <;> rfl

theorem slotStep_lastScr_of_has {q : TsPacket} {h : PesHeader} (hq : headerOf cfg q = some h)
    (hk : h.has k) (ctx : Ctx) : (slotStep cfg ctx q).lastScr k = (slotStep cfg ctx q).scr := by
  rw [slotStep_of_headerOf_some hq, processPESHeader_lastScr, if_pos hk, processPESHeader_slot]

theorem slotStep_lastScr_of_not_has {q : TsPacket}
    (hq : ∀ h ∈ headerOf cfg q, h.has k = false) (ctx : Ctx) :
    (slotStep cfg ctx q).lastScr k = (ctx.pids q.pid).lastScr k := by
  cases e : headerOf cfg q with
  | none =>
    obtain ⟨c, a, b, hs⟩ := slotStep_of_headerOf_none e ctx
    rw [hs]; cases k <;> rfl
  | some h =>
    rw [slotStep_of_headerOf_some e, processPESHeader_lastScr, if_neg (by simp [hq h e]),
      slotStats_eq]
    cases k <;> rfl

/-- Packets with no header of kind `k` on `x` leave the SCR mark of kind `k` of `x` alone. -/
theorem foldl_inspectStep_lastScr {x : Pid} (mid : List TsPacket) (hmid : NoHeader cfg k x mid) :
    ∀ s : Ctx × List Event,
      ((mid.foldl (inspectStep cfg) s).1.pids x).lastScr k = (s.1.pids x).lastScr k := by
  induction mid with
  | nil => intro s; rfl
  | cons r rs ih =>
    intro s
    rw [List.foldl_cons, ih (fun r' hr' => hmid r' (.tail _ hr'))]
    simp only [inspectStep, inspectPacket_pids]
    split_ifs with hx
    · subst hx; exact slotStep_lastScr_of_not_has (hmid r (.head _) rfl) _
    · rfl

/-- The SCR-ticks warnings of one header: one for each kind the header carries, with the
distance between the PID's PCR now and at its previous header of that kind. -/
theorem processPESHeader_scrWarning (scrNow : Int) (x : Pid) (filepos : Nat) (prior : Int)
    (p : PidSt) (h : PesHeader) (n : Nat) (l v : Int) :
    scrWarning k n l v ∈ (processPESHeader cfg scrNow x filepos prior p h).2 ↔
      h.has k ∧ toUInt64 cfg.maxAllowablePTSDTSDrift ≤ (scrDiff (p.lastScr k) p.scr).tdiv 27000 ∧
        n = p.count k + 1 ∧ l = cfg.maxAllowablePTSDTSDrift ∧
        v = (scrDiff (p.lastScr k) p.scr).tdiv 27000 := by
  rw [processPESHeader_snd]
  cases hD : h.hasDts <;> cases hP : h.hasPts <;> cases k <;>
    simp [hD, hP, PesHeader.has, scrWarning, latchEvents, mem_reportPts, mem_reportDts, ptsStep,
      dtsStep, latched, PidSt.count, PidSt.lastScr]

/-- The PTS the 90 kHz differences are taken against: `pts_last` after the latch. -/
def PidSt.ptsRef (p : PidSt) : PesHeader := if p.pes.hasPts then p.pes else p.ptsLast

/-- The 90 kHz PTS warning of one header: the corrected difference against `pts_last`, tested
without taking its absolute value. -/
theorem processPESHeader_ptsClockWarning (scrNow : Int) (x : Pid) (filepos : Nat) (prior : Int)
    (p : PidSt) (h : PesHeader) (n : Nat) (l ms : Int) :
    .ptsClockWarning n l ms ∈ (processPESHeader cfg scrNow x filepos prior p h).2 ↔
      h.hasPts ∧ cfg.maxAllowablePTSDTSDrift ≤ ptsTicksToMs (wrapPtsDiff (ptsDiff p.ptsRef.pts h.pts)) ∧
        n = p.ptsCount + 1 ∧ l = cfg.maxAllowablePTSDTSDrift ∧
        ms = ptsTicksToMs (wrapPtsDiff (ptsDiff p.ptsRef.pts h.pts)) := by
  rw [processPESHeader_snd]
  cases hD : h.hasDts <;> cases hP : h.hasPts <;>
    simp [hD, hP, latchEvents, mem_reportPts, mem_reportDts, ptsStep, dtsStep, latched, PidSt.ptsRef]

/-- With `-p` and the default threshold of 700 ms, the first PTS of a PID is measured against
the zeroed `pts_last`: a lone header with PTS 90000 (1 s) is reported as a 1000 ms jump. -/
theorem inspect_first_pts_warns :
    .ptsClockWarning 1 700 1000 ∈
      (inspect (Config.ofOptions 0 [.pes]) [⟨0, 0x100, true, 1, 0, none, some ⟨2, 90000, 0⟩⟩]).2 := by
  decide

/-- The 90 kHz DTS warning of one header: the DTS difference is taken against `pts_last.DTS`,
and the warning prints the PTS difference. -/
theorem processPESHeader_dtsClockWarning (scrNow : Int) (x : Pid) (filepos : Nat) (prior : Int)
    (p : PidSt) (h : PesHeader) (n : Nat) (l ms : Int) :
    .dtsClockWarning n l ms ∈ (processPESHeader cfg scrNow x filepos prior p h).2 ↔
      h.hasDts ∧ cfg.maxAllowablePTSDTSDrift ≤ ptsTicksToMs (ptsDiff p.ptsRef.dts h.dts) ∧
        n = p.dtsCount + 1 ∧ l = cfg.maxAllowablePTSDTSDrift ∧
        ms = ptsTicksToMs (wrapPtsDiff (ptsDiff p.ptsRef.pts h.pts)) := by
  rw [processPESHeader_snd]
  cases hD : h.hasDts
  · simp [hD, latchEvents, mem_reportPts]
  · simp [hD, PesHeader.hasPts_of_hasDts hD, latchEvents, mem_reportPts, mem_reportDts, ptsStep,
      dtsStep, latched, PidSt.ptsRef]

/-- The BEHIND warning of one header: the PTS in 27 MHz ticks minus the SCR passed in, tested
for a negative value without regard to the wrap. -/
theorem processPESHeader_ptsBehindPcr (scrNow : Int) (x : Pid) (filepos : Nat) (prior : Int)
    (p : PidSt) (h : PesHeader) (n : Nat) :
    .ptsBehindPcr n ∈ (processPESHeader cfg scrNow x filepos prior p h).2 ↔
      h.hasPts ∧ (h.pts * 300 - scrNow < 0 ∧ cfg.enableNonTimingConformantMessages) ∧
        n = p.ptsCount + 1 := by
  rw [processPESHeader_snd]
  cases hD : h.hasDts <;> cases hP : h.hasPts <;>
    simp [hD, hP, latchEvents, mem_reportPts, mem_reportDts, ptsStep, dtsStep, latched]

end

/-! ## Whole runs -/

/-- The last PCR the packets of `pkts` on `x` carry (0 before the first): the PID's own
`p->scr`. -/
def lastPcr (cfg : Config) (x : Pid) (pkts : List TsPacket) : Int :=
  (pcrsOf cfg (pkts.filter (·.pid = x))).getLast?.getD 0

theorem inspect_scr (cfg : Config) (pkts : List TsPacket) (x : Pid) :
    ((inspect cfg pkts).1.pids x).scr = lastPcr cfg x pkts := by
  have h := (foldl_inspectStep_counters cfg x pkts (Ctx.init, [])).trans
    (foldl_countersStep cfg x _ fun q hq => by simpa using (List.mem_filter.1 hq).2)
  exact congrArg PidCounters.scr h

/-- The PCR `processPESStats` reads at a packet is the last one the configured SCR PID
carried, that packet included. -/
theorem scrAt_inspect (cfg : Config) (pre : List TsPacket) (q : TsPacket) :
    scrAt cfg (inspect cfg pre).1 q = lastPcr cfg cfg.scrPid (pre ++ [q]) := by
  rw [← inspect_scr, inspect_append, inspectPacket_pids]
  unfold scrAt
  split_ifs
  · rw [slotStats_eq]
    exact congrArg PidCounters.scr (slotStep_counters cfg _ q).symm
  · rfl

theorem ptsBehindPcr_not_mem_statsEvents (cfg : Config) (ctx : Ctx) (q : TsPacket) (n : Nat) :
    .ptsBehindPcr n ∉ statsEvents cfg ctx q := fun h => by
  rcases mem_statsEvents h with ⟨_, _, _, e⟩ | ⟨_, _, _, _, e⟩ <;> cases e

/-- **The BEHIND check over a run.**  At a packet that hands `processPESHeader` a header, after
any run, the warning is printed exactly when the header's PTS in 27 MHz ticks, minus the PCR
last carried by the configured SCR PID, is negative: a raw difference, blind to the wrap of
either clock. -/
theorem inspect_ptsBehindPcr (cfg : Config) (pre : List TsPacket) {q : TsPacket} {h : PesHeader}
    (hq : headerOf cfg q = some h) (n : Nat) :
    .ptsBehindPcr n ∈ (inspectPacket cfg (inspect cfg pre).1 q).2 ↔
      h.hasPts ∧ (h.pts * 300 - lastPcr cfg cfg.scrPid (pre ++ [q]) < 0 ∧
        cfg.enableNonTimingConformantMessages) ∧ n = ((inspect cfg pre).1.pids q.pid).ptsCount + 1 := by
  rw [inspectPacket_snd, slotEvents_of_headerOf_some hq, List.mem_append,
    processPESHeader_ptsBehindPcr, scrAt_inspect]
  simp only [ptsBehindPcr_not_mem_statsEvents, false_or, slotStats_eq]
  rfl

/-- A PTS of 1 s after a PCR of 2 s on the SCR PID `0x31`: the PTS is BEHIND. -/
theorem inspect_ptsBehindPcr_late :
    .ptsBehindPcr 1 ∈ (inspectPacket (Config.ofOptions 0 [.pes])
      (inspect (Config.ofOptions 0 [.pes]) [⟨0, 0x31, false, 2, 0, some 54000000, none⟩]).1
      ⟨188, 0x100, true, 1, 0, none, some ⟨2, 90000, 0⟩⟩).2 :=
  (@inspect_ptsBehindPcr (Config.ofOptions 0 [.pes]) [⟨0, 0x31, false, 2, 0, some 54000000, none⟩]
    ⟨188, 0x100, true, 1, 0, none, some ⟨2, 90000, 0⟩⟩ ⟨2, 90000, 0⟩ rfl 1).2
    ⟨rfl, ⟨by decide, rfl⟩, rfl⟩

theorem scrWarning_not_mem_statsEvents (cfg : Config) (ctx : Ctx) (q : TsPacket) (k : TrendKind)
    (n : Nat) (l v : Int) : scrWarning k n l v ∉ statsEvents cfg ctx q := fun h => by
  rcases mem_statsEvents h with ⟨_, _, _, e⟩ | ⟨_, _, _, _, e⟩ <;> cases k <;> cases e

/-- **The SCR-ticks check.**  Take a header `q` with a clock of kind `k` on a PID whose
previous header of that kind is `q₀`, with `mid` in between.  The warning at `q` is emitted
exactly when the distance between the PID's own PCRs at `q₀` and at `q`, in ms, reaches the
threshold (compared as `uint64_t`), and it carries that distance. -/
theorem inspect_scrDiffMs (cfg : Config) (k : TrendKind) (pre mid : List TsPacket)
    (q₀ q : TsPacket) (h₀ h : PesHeader) (hq₀ : headerOf cfg q₀ = some h₀) (hk₀ : h₀.has k)
    (hq : headerOf cfg q = some h) (hk : h.has k) (hx : q₀.pid = q.pid)
    (hmid : NoHeader cfg k q.pid mid) (l v : Int) :
    (∃ n, scrWarning k n l v ∈ (inspectPacket cfg (inspect cfg (pre ++ q₀ :: mid)).1 q).2) ↔
      toUInt64 cfg.maxAllowablePTSDTSDrift ≤ (scrDiff (lastPcr cfg q.pid (pre ++ [q₀]))
          (lastPcr cfg q.pid (pre ++ q₀ :: mid ++ [q]))).tdiv 27000 ∧
        l = cfg.maxAllowablePTSDTSDrift ∧ v = (scrDiff (lastPcr cfg q.pid (pre ++ [q₀]))
          (lastPcr cfg q.pid (pre ++ q₀ :: mid ++ [q]))).tdiv 27000 := by
  have e : inspect cfg (pre ++ q₀ :: mid) =
      mid.foldl (inspectStep cfg) (inspect cfg (pre ++ [q₀])) := by
    simp [inspect, List.foldl_append]
  have hprev : (((inspect cfg (pre ++ q₀ :: mid)).1).pids q.pid).lastScr k =
      lastPcr cfg q.pid (pre ++ [q₀]) := by
    rw [e, foldl_inspectStep_lastScr mid hmid, ← inspect_scr, inspect_append, inspectPacket_pids,
      ← hx, if_pos rfl, slotStep_lastScr_of_has hq₀ hk₀]
  have hnow : (slotStats cfg q ((inspect cfg (pre ++ q₀ :: mid)).1.pids q.pid)).scr =
      lastPcr cfg q.pid (pre ++ q₀ :: mid ++ [q]) := by
    rw [← inspect_scr, inspect_append, inspectPacket_pids, if_pos rfl, slotStep_of_headerOf_some hq,
      processPESHeader_slot]
  have hmark : (slotStats cfg q ((inspect cfg (pre ++ q₀ :: mid)).1.pids q.pid)).lastScr k =
      ((inspect cfg (pre ++ q₀ :: mid)).1.pids q.pid).lastScr k := by
    rw [slotStats_eq]; cases k <;> rfl
  rw [inspectPacket_snd, slotEvents_of_headerOf_some hq]
  simp only [List.mem_append, scrWarning_not_mem_statsEvents, false_or, processPESHeader_scrWarning]
  have hupd : ∀ (p : PidSt) a, ({ p with scrAtPesUnitHeader := a }).lastScr k = p.lastScr k := by
    cases k <;> intros <;> rfl
  simp only [hupd]
  simp only [hmark, hprev, hnow, hk, true_and]
  exact ⟨fun ⟨_, h₁, _, h₃, h₄⟩ => ⟨h₁, h₃, h₄⟩, fun ⟨h₁, h₃, h₄⟩ => ⟨_, h₁, rfl, h₃, h₄⟩⟩

/-- A PID carrying its own PCR: the PCR advances 1 s between its two PTS headers, and the
warning is printed with 1000 ms. -/
theorem inspect_scrDiffMs_own_pcr :
    ∃ n, scrWarning .pts n 700 1000 ∈
      (inspectPacket (Config.ofOptions 0 [.pes])
        (inspect (Config.ofOptions 0 [.pes]) ([] ++ ⟨0, 0x100, true, 3, 0, some 0, some ⟨2, 0, 0⟩⟩ ::
          [⟨188, 0x100, false, 3, 1, some 27000000, none⟩])).1
        ⟨376, 0x100, true, 1, 2, none, some ⟨2, 90000, 0⟩⟩).2 :=
  (inspect_scrDiffMs (Config.ofOptions 0 [.pes]) .pts []
    [⟨188, 0x100, false, 3, 1, some 27000000, none⟩] ⟨0, 0x100, true, 3, 0, some 0, some ⟨2, 0, 0⟩⟩
    ⟨376, 0x100, true, 1, 2, none, some ⟨2, 90000, 0⟩⟩ ⟨2, 0, 0⟩ ⟨2, 90000, 0⟩
    (by decide) rfl (by decide) rfl rfl (by decide) 700 1000).2 ⟨by decide, rfl, by decide⟩

/-- The distance is not taken on the configured SCR PID.  With `-p`, PCRs on the default SCR
PID `0x31` 1 s apart and two PTS headers on `0x100` between them, the SCR PID's clock moves
by 1000 ms (past the threshold), yet no SCR-ticks warning is printed and the `PTS #` line
shows a distance of 0: `0x100` carries no PCR of its own. -/
theorem inspect_scrDiffMs_ignores_scrPid :
    let cfg := Config.ofOptions 0 [.pes]
    let pkts : List TsPacket := [⟨0, 0x31, false, 2, 0, some 0, none⟩,
      ⟨188, 0x100, true, 1, 0, none, some ⟨2, 0, 0⟩⟩, ⟨376, 0x31, false, 2, 1, some 27000000, none⟩,
      ⟨564, 0x100, true, 1, 1, none, some ⟨2, 90000, 0⟩⟩]
    cfg.maxAllowablePTSDTSDrift ≤ (scrDiff ((inspect cfg (pkts.take 2)).1.pids cfg.scrPid).scr
        ((inspect cfg pkts).1.pids cfg.scrPid).scr).tdiv 27000 ∧
      (inspect cfg pkts).2 = [.scrLine 1 0x31 0 0, .ptsLine 1 188 0x100 0 0 0 0,
        .scrLine 2 0x31 27000000 27000000, .trendAlloc 0x100 .pts 216000,
        .ptsClockWarning 2 700 1000, .ptsLine 2 564 0x100 90000 90000 0 0] := by
  decide

/-- **A PTS at the wrap.**  With `-p`, a PCR one second before the 27 MHz wrap on the default
SCR PID `0x31`, then a header on `0x100` whose PTS and DTS are 0, the instant both clocks
wrap.  The wrap-aware distance from the SCR to the PTS is +1 s, yet both lines print the raw
difference, some 26.5 hours negative, and the PTS is reported BEHIND the PCR. -/
theorem inspect_pts_behind_across_wrap :
    scrSignedDiff (maxScrValue - 27000000) (0 * 300) = 27000000 ∧
      (inspect (Config.ofOptions 0 [.pes])
        [⟨0, 0x31, false, 2, 0, some (maxScrValue - 27000000), none⟩,
          ⟨188, 0x100, true, 1, 0, none, some ⟨3, 0, 0⟩⟩]).2 = [.scrLine 1 0x31 (maxScrValue - 27000000) 0, .ptsBehindPcr 1,
        .ptsLine 1 188 0x100 0 0 0 (27000000 - maxScrValue),
        .dtsLine 1 188 0x100 0 0 0 (27000000 - maxScrValue)] := by
  decide

/-! ## What `-Z` silences -/

/-- The BEHIND warning. -/
def Event.isPtsBehindPcr : Event → Bool
  | .ptsBehindPcr _ => true
  | _ => false

section
variable (cfg : Config) (scrNow : Int) (pid : Pid) (filepos : Nat) (prior : Int) (p : PidSt)

theorem reportPts_quiet (ms : Int) :
    reportPts (cfg.applyOpt .quiet) scrNow pid filepos prior ms p =
      ((reportPts cfg scrNow pid filepos prior ms p).1,
        (reportPts cfg scrNow pid filepos prior ms p).2.filter fun e => !e.isPtsBehindPcr) := by
  cases hA : cfg.orderAscPtsOutput <;>
    simp [reportPts, Config.applyOpt, hA, List.filter_append, apply_ite (List.filter _),
      Event.isPtsBehindPcr, List.filter_cons]

theorem processPESHeader_quiet (h : PesHeader) :
    processPESHeader (cfg.applyOpt .quiet) scrNow pid filepos prior p h =
      ((processPESHeader cfg scrNow pid filepos prior p h).1,
        (processPESHeader cfg scrNow pid filepos prior p h).2.filter fun e => !e.isPtsBehindPcr) := by
  have hl : (latchEvents cfg pid p).filter (fun e => !e.isPtsBehindPcr) = latchEvents cfg pid p :=
    List.filter_eq_self.2 fun e he => by
      simp only [latchEvents, List.mem_append, List.mem_ite_nil_right, List.mem_singleton] at he
      rcases he with ⟨-, rfl⟩ | ⟨-, rfl⟩ <;> rfl
  have hd : ∀ ms q, (reportDts cfg scrNow pid filepos ms q).2.filter (fun e => !e.isPtsBehindPcr) =
      (reportDts cfg scrNow pid filepos ms q).2 := fun ms q =>
    List.filter_eq_self.2 fun e he => by
      rcases (mem_reportDts ..).1 he with ⟨-, rfl⟩ | ⟨-, rfl⟩ | ⟨-, rfl⟩ | rfl <;> rfl
  refine Prod.ext ?_ ?_
  · rw [processPESHeader_fst, processPESHeader_fst]; rfl
  · rw [processPESHeader_snd, processPESHeader_snd, List.filter_append, List.filter_append, hl,
      apply_ite (List.filter _), apply_ite (List.filter _), hd, reportPts_quiet]
    rfl

theorem pidPESStats_quiet (pkt : TsPacket) :
    pidPESStats (cfg.applyOpt .quiet) scrNow pkt p =
      ((pidPESStats cfg scrNow pkt p).1,
        (pidPESStats cfg scrNow pkt p).2.filter fun e => !e.isPtsBehindPcr) := by
  unfold pidPESStats
  by_cases hu : pkt.pusi
  · simp only [hu, if_true]
    cases pkt.pes with
    | none => rfl
    | some h =>
      by_cases hp : 0 < pkt.pid.val
      · simp only [hp, if_true, processPESHeader_quiet]
      · simp only [hp, if_false]; rfl
  · simp only [hu]; rfl

end

theorem processSCRStats_quiet (cfg : Config) (ctx : Ctx) (q : TsPacket) :
    processSCRStats (cfg.applyOpt .quiet) ctx q = processSCRStats cfg ctx q := rfl

/-- `-Z` changes nothing but the BEHIND warnings of one packet. -/
theorem inspectPacket_quiet (cfg : Config) (ctx : Ctx) (q : TsPacket) :
    inspectPacket (cfg.applyOpt .quiet) ctx q =
      ((inspectPacket cfg ctx q).1, (inspectPacket cfg ctx q).2.filter fun e => !e.isPtsBehindPcr) := by
  have hc : (processPacketStats ctx q).2.filter (fun e => !e.isPtsBehindPcr) =
      (processPacketStats ctx q).2 := by
    simp only [processPacketStats, pidPacketStats, ccCheck]; split <;> rfl
  have hs : ∀ c, (processSCRStats cfg c q).2.filter (fun e => !e.isPtsBehindPcr) =
      (processSCRStats cfg c q).2 := by
    intro c; unfold processSCRStats; split <;> rfl
  unfold inspectPacket processPESStats
  simp only [pidPESStats_quiet, processSCRStats_quiet]
  cases hS : cfg.doSCRStatistics <;> by_cases hd : 0 < cfg.doPESStatistics <;>
    simp [Config.applyOpt, hS, hd, List.filter_append, hc, hs]

/-- **What `-Z` silences.**  `-Z` is documented to suppress any warning about non-conformant
stream timing.  For every configuration and packet sequence, the run with `-Z` added leaves
the same context and prints the same lines, except the BEHIND warnings alone: the 90 kHz
PTS and DTS warnings and the SCR-ticks warnings are printed as before. -/
theorem inspect_quiet (cfg : Config) (pkts : List TsPacket) :
    inspect (cfg.applyOpt .quiet) pkts =
      ((inspect cfg pkts).1, (inspect cfg pkts).2.filter fun e => !e.isPtsBehindPcr) := by
  induction pkts using List.reverseRecOn with
  | nil => rfl
  | append_singleton pre q ih => simp only [inspect_append, ih, inspectPacket_quiet, List.filter_append]

/-- With `-p -Z`, the first PTS of a PID still draws the 90 kHz warning. -/
example : .ptsClockWarning 1 700 1000 ∈
    (inspect (Config.ofOptions 0 [.pes, .quiet]) [⟨0, 0x100, true, 1, 0, none, some ⟨2, 90000, 0⟩⟩]).2 := by
  decide

end TsTools
