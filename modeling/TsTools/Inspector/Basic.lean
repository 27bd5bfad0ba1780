import TsTools.Clock
import TsTools.Inspector.Ordered

/-!
# The clock inspector: packets, options, per-PID slots and output

The data model of `clock_inspector` in `slicer.c`.

* `TsPacket` — a 188-byte packet as the per-packet loop hands it to
  `processPacketStats`, `processSCRStats` and `processPESStats`: its stream
  position and the fields libltntstools' accessors decode from it.  The
  accessors (`ltntstools_pid`, `ltntstools_scr`, `ltn_pes_packet_parse`, ...) are
  not part of the repository, so a packet is represented by what they return.
* `Config` — the fields of `struct tool_context_s` set by the option parser.
* `PidSt` — one slot of `pids[8192]`, zero-initialised by `calloc`.
* `Event` — the lines the pipeline prints and the calls it makes on the
  lazily created trend and ordered-list resources, in program order.

Wallclock readings (`gettimeofday`, `time`, `ctime`), the clock trackers'
drift, the trends' floating-point samples and the column-header counters only
feed printed text and are not modelled.
-/

namespace TsTools

/-- A PID: `ltntstools_pid` masks the field with `0x1fff`, and `pids` has a slot for each. -/
abbrev Pid := Fin 8192

/-- The fields of `struct ltn_pes_packet_s` the inspector reads. -/
structure PesHeader where
  ptsDtsFlags : Nat
  pts : Int
  dts : Int
  deriving Repr, DecidableEq

namespace PesHeader

/-- The header of a zero-initialised slot. -/
def zero : PesHeader := ⟨0, 0, 0⟩

/-- `PTS_DTS_flags == 2 || PTS_DTS_flags == 3`. -/
def hasPts (h : PesHeader) : Bool := h.ptsDtsFlags == 2 || h.ptsDtsFlags == 3

/-- `PTS_DTS_flags == 3`. -/
def hasDts (h : PesHeader) : Bool := h.ptsDtsFlags == 3

theorem hasPts_of_hasDts {h : PesHeader} (hd : h.hasDts = true) : h.hasPts = true := by
  simp_all [hasPts, hasDts]

@[simp] theorem zero_hasPts : zero.hasPts = false := rfl

@[simp] theorem zero_hasDts : zero.hasDts = false := rfl

end PesHeader

/-- A transport packet as the per-packet loop hands it on: `filepos`, and what
`ltntstools_pid`, `ltntstools_payload_unit_start_indicator`,
`ltntstools_adaption_field_control`, `ltntstools_continuity_counter` and
`ltntstools_scr` (`none` when it fails) return, with the header `ltn_pes_packet_parse`
decodes where `ltntstools_contains_pes_header` finds one (`none` when it returns `-1`). -/
structure TsPacket where
  filepos : Nat
  pid : Pid
  pusi : Bool
  afc : Fin 4
  cc : Fin 16
  scr : Option Int
  pes : Option PesHeader
  deriving Repr, DecidableEq

/-- The options of `clock_inspector` that the per-packet pipeline reads.  `-p` always
switches SCR statistics on as well, which `scr_of_pes` records. -/
structure Config where
  enableNonTimingConformantMessages : Bool
  enablePESDeliveryReport : Bool
  trendSize : Nat
  initialTime : Int
  maxAllowablePTSDTSDrift : Int
  doSCRStatistics : Bool
  doPESStatistics : Nat
  orderAscPtsOutput : Bool
  scrPid : Pid
  scr_of_pes : 0 < doPESStatistics → doSCRStatistics = true

/-- The trend bookkeeping of a PID (`trend_pts`, `trend_dts`): whether
`clkToScrTicksDeltaTrend` and its `trendLock` exist, and the observation counters. -/
structure TrendSt where
  allocated : Bool := false
  counter : Nat := 0
  insertedCounter : Nat := 0
  deriving Repr, DecidableEq

/-- `struct pid_s`, one slot of `pids[8192]`; the defaults are the `calloc` zeros, and an
ordered list that `ordered_clock_init` has not set up is `none`. -/
structure PidSt where
  pktCount : Nat := 0
  cc : Nat := 0
  ccErrors : Nat := 0
  scrFirst : Int := 0
  scrFirstTime : Int := 0
  scr : Int := 0
  scrUpdateCount : Nat := 0
  scrAtPesUnitHeader : Int := 0
  scrLastSeen : Int := 0
  ptsCount : Nat := 0
  ptsLast : PesHeader := PesHeader.zero
  ptsDiffTicks : Int := 0
  ptsLastScr : Int := 0
  trendPts : TrendSt := {}
  dtsCount : Nat := 0
  dtsLast : PesHeader := PesHeader.zero
  dtsDiffTicks : Int := 0
  dtsLastScr : Int := 0
  trendDts : TrendSt := {}
  pes : PesHeader := PesHeader.zero
  orderedPtsList : Option (List OrderedClockItem) := none

/-- The packet and PCR statistics of a slot (the `TS packets` and `PCR / SCR` groups of
`struct pid_s`). -/
structure PidCounters where
  pktCount : Nat
  cc : Nat
  ccErrors : Nat
  scrFirst : Int
  scrFirstTime : Int
  scr : Int
  scrUpdateCount : Nat
  deriving Repr, DecidableEq

/-- The statistics of a slot. -/
def PidSt.counters (p : PidSt) : PidCounters :=
  ⟨p.pktCount, p.cc, p.ccErrors, p.scrFirst, p.scrFirstTime, p.scr, p.scrUpdateCount⟩

/-- A slot with its statistics replaced. -/
def PidSt.withCounters (p : PidSt) (c : PidCounters) : PidSt :=
  { p with
    pktCount := c.pktCount
    cc := c.cc
    ccErrors := c.ccErrors
    scrFirst := c.scrFirst
    scrFirstTime := c.scrFirstTime
    scr := c.scr
    scrUpdateCount := c.scrUpdateCount }

@[simp] theorem PidSt.counters_withCounters (p : PidSt) (c : PidCounters) :
    (p.withCounters c).counters = c := rfl

@[simp] theorem PidSt.withCounters_withCounters (p : PidSt) (c d : PidCounters) :
    (p.withCounters c).withCounters d = p.withCounters d := rfl

/-- The mutable part of `struct tool_context_s` the pipeline touches. -/
structure Ctx where
  pids : Pid → PidSt
  currentStreamTime : Int
  tsTotalPackets : Nat

/-- The context right after `calloc`. -/
def Ctx.init : Ctx := ⟨fun _ => {}, 0, 0⟩

/-- Replace the slot of `pid`. -/
def Ctx.setPid (ctx : Ctx) (pid : Pid) (p : PidSt) : Ctx :=
  { ctx with pids := Function.update ctx.pids pid p }

@[simp] theorem Ctx.setPid_self (ctx : Ctx) (pid : Pid) (p : PidSt) :
    (ctx.setPid pid p).pids pid = p := by
  simp [Ctx.setPid]

@[simp] theorem Ctx.setPid_ne (ctx : Ctx) {pid x : Pid} (p : PidSt) (h : x ≠ pid) :
    (ctx.setPid pid p).pids x = ctx.pids x := by
  simp [Ctx.setPid, h]

@[simp] theorem Ctx.setPid_tsTotalPackets (ctx : Ctx) (pid : Pid) (p : PidSt) :
    (ctx.setPid pid p).tsTotalPackets = ctx.tsTotalPackets := rfl

@[simp] theorem Ctx.setPid_currentStreamTime (ctx : Ctx) (pid : Pid) (p : PidSt) :
    (ctx.setPid pid p).currentStreamTime = ctx.currentStreamTime := rfl

theorem Ctx.setPid_pids (ctx : Ctx) (pid x : Pid) (p : PidSt) :
    (ctx.setPid pid p).pids x = if x = pid then p else ctx.pids x := by
  split <;> simp_all

/-- Which of a PID's two trends. -/
inductive TrendKind where
  | pts
  | dts
  deriving Repr, DecidableEq

/-- What the pipeline prints and the resource calls it makes, in program order. -/
inductive Event where
  /-- `!CC Error. PID %04x expected %02x got %02x` -/
  | ccError (pid : Pid) (expected got : Nat)
  /-- An `SCR #` line: update count, PID, PCR and the distance from the PID's previous PCR. -/
  | scrLine (count : Nat) (pid : Pid) (scr scrDiff : Int)
  /-- `!PTS #... Error. The PTS is arriving BEHIND the PCR, the PTS is late.` -/
  | ptsBehindPcr (count : Nat)
  /-- `!PTS #... Error. Difference between previous and current 90KHz clock >= +-N ms (is M)` -/
  | ptsClockWarning (count : Nat) (limit ms : Int)
  /-- `!PTS #... Error. Difference between previous and current PTS frame measured in SCR
  ticks >= +-N ms (is M)` -/
  | ptsScrWarning (count : Nat) (limit ms : Int)
  /-- A `PTS #` line: count, filepos, PID, PTS, tick difference, SCR ms, PTS*300 minus SCR. -/
  | ptsLine (count filepos : Nat) (pid : Pid) (pts diffTicks scrDiffMs minusScr : Int)
  /-- `!PTS #... took N SCR ticks to arrive` (`-Y`). -/
  | pesDelivery (count : Nat) (pid : Pid) (ticks : Int)
  /-- `!DTS #... Error. Difference between previous and current 90KHz clock >= ...` -/
  | dtsClockWarning (count : Nat) (limit ms : Int)
  /-- `!DTS #... Error. Difference between previous and current DTS frame measured in SCR
  ticks >= ...` -/
  | dtsScrWarning (count : Nat) (limit ms : Int)
  /-- A `DTS #` line. -/
  | dtsLine (count filepos : Nat) (pid : Pid) (dts diffTicks scrDiffMs minusScr : Int)
  /-- `pthread_mutex_init` and `kllineartrend_alloc` of a PID's trend. -/
  | trendAlloc (pid : Pid) (k : TrendKind) (capacity : Nat)
  /-- `pthread_mutex_lock`, `kllineartrend_add`, `pthread_mutex_unlock` on a PID's trend. -/
  | trendAdd (pid : Pid) (k : TrendKind)
  /-- `ordered_clock_init` on a PID's list. -/
  | orderedClockInit (pid : Pid)
  /-- `ordered_clock_insert` on a PID's list. -/
  | orderedClockInsert (pid : Pid) (item : OrderedClockItem)
  /-- `ordered_clock_dump` of a PID's list at shutdown. -/
  | orderedClockDump (pid : Pid)
  deriving Repr, DecidableEq

end TsTools
