import TsTools.Inspector.Stats
import TsTools.Inspector.Pes

/-!
# The per-packet loop of `clock_inspector`

`inspectPacket` is the body of the loop over the packets of a read (lines
1592–1618); `inspect` runs it over a packet sequence from the zeroed context,
collecting everything printed.

The main lemma here is the frame law `inspectPacket_pids`: a packet changes the
slot of its own PID only, and that slot's new value is `slotStep`, which reads
no other slot than the configured SCR PID's PCR (`scrAt`).
-/

namespace TsTools

/-- The loop body: packet statistics always (`doPacketStatistics` is set to 1 and never
cleared), SCR and PES statistics when enabled, then the packet count. -/
def inspectPacket (cfg : Config) (ctx : Ctx) (pkt : TsPacket) : Ctx × List Event :=
  let r₁ := processPacketStats ctx pkt
  let r₂ := if cfg.doSCRStatistics then processSCRStats cfg r₁.1 pkt else (r₁.1, [])
  let r₃ := if 0 < cfg.doPESStatistics then processPESStats cfg r₂.1 pkt else (r₂.1, [])
  ({ r₃.1 with tsTotalPackets := r₃.1.tsTotalPackets + 1 }, r₁.2 ++ r₂.2 ++ r₃.2)

/-- One packet of a run: the context, and everything printed so far. -/
def inspectStep (cfg : Config) (s : Ctx × List Event) (pkt : TsPacket) : Ctx × List Event :=
  let r := inspectPacket cfg s.1 pkt
  (r.1, s.2 ++ r.2)

/-- The inspector over a packet sequence, from the zeroed context. -/
def inspect (cfg : Config) (pkts : List TsPacket) : Ctx × List Event :=
  pkts.foldl (inspectStep cfg) (Ctx.init, [])

theorem inspect_append (cfg : Config) (pre : List TsPacket) (q : TsPacket) :
    inspect cfg (pre ++ [q]) =
      ((inspectPacket cfg (inspect cfg pre).1 q).1,
        (inspect cfg pre).2 ++ (inspectPacket cfg (inspect cfg pre).1 q).2) := by
  simp [inspect, List.foldl_append, inspectStep]

/-! ## The slot of the packet's PID -/

/-- The slot of the packet's PID after packet and SCR statistics. -/
def slotStats (cfg : Config) (pkt : TsPacket) (p : PidSt) : PidSt :=
  match pkt.scr, cfg.doSCRStatistics with
  | some scr, true => (pidSCRStats cfg pkt.pid scr (pidPacketStats pkt p).1).1
  | _, _ => (pidPacketStats pkt p).1

/-- The statistics of a slot after packet and SCR statistics of one packet on its PID. -/
def countersStep (cfg : Config) (c : PidCounters) (q : TsPacket) : PidCounters :=
  match q.scr, cfg.doSCRStatistics with
  | some scr, true => scrCounters cfg scr (packetCounters q c)
  | _, _ => packetCounters q c

/-- Packet and SCR statistics change the statistics of the slot and nothing else. -/
theorem slotStats_eq (cfg : Config) (q : TsPacket) (p : PidSt) :
    slotStats cfg q p = p.withCounters (countersStep cfg p.counters q) := by
  unfold slotStats countersStep
  cases q.scr <;> cases cfg.doSCRStatistics <;> simp [pidPacketStats_fst, pidSCRStats_fst]

/-- The PCR of the configured SCR PID when `processPESStats` reads it. -/
def scrAt (cfg : Config) (ctx : Ctx) (pkt : TsPacket) : Int :=
  if cfg.scrPid = pkt.pid then (slotStats cfg pkt (ctx.pids pkt.pid)).scr
  else (ctx.pids cfg.scrPid).scr

/-- The slot of the packet's PID after the loop body. -/
def slotStep (cfg : Config) (ctx : Ctx) (pkt : TsPacket) : PidSt :=
  if 0 < cfg.doPESStatistics then
    (pidPESStats cfg (scrAt cfg ctx pkt) pkt (slotStats cfg pkt (ctx.pids pkt.pid))).1
  else slotStats cfg pkt (ctx.pids pkt.pid)

/-- The lines of packet and SCR statistics: a continuity error, an `SCR #` line. -/
def statsEvents (cfg : Config) (ctx : Ctx) (pkt : TsPacket) : List Event :=
  (pidPacketStats pkt (ctx.pids pkt.pid)).2 ++
  match pkt.scr, cfg.doSCRStatistics with
  | some scr, true => (pidSCRStats cfg pkt.pid scr (pidPacketStats pkt (ctx.pids pkt.pid)).1).2.2
  | _, _ => []

/-- The lines and calls of the loop body: packet, SCR and PES statistics in turn. -/
def slotEvents (cfg : Config) (ctx : Ctx) (pkt : TsPacket) : List Event :=
  statsEvents cfg ctx pkt ++
  (if 0 < cfg.doPESStatistics then
    (pidPESStats cfg (scrAt cfg ctx pkt) pkt (slotStats cfg pkt (ctx.pids pkt.pid))).2 else [])

/-- The packet's PID is the only slot a packet changes. -/
theorem inspectPacket_pids (cfg : Config) (ctx : Ctx) (pkt : TsPacket) (x : Pid) :
    (inspectPacket cfg ctx pkt).1.pids x = if x = pkt.pid then slotStep cfg ctx pkt else ctx.pids x := by
  unfold inspectPacket processPacketStats processSCRStats processPESStats slotStep scrAt slotStats
  cases hs : pkt.scr <;> cases hc : cfg.doSCRStatistics <;> by_cases hx : x = pkt.pid <;>
    by_cases hp : cfg.scrPid = pkt.pid <;> by_cases hd : 0 < cfg.doPESStatistics <;>
    simp [hs, hc, hx, hp, hd, Ctx.setPid_pids]

theorem inspectPacket_snd (cfg : Config) (ctx : Ctx) (pkt : TsPacket) :
    (inspectPacket cfg ctx pkt).2 = slotEvents cfg ctx pkt := by
  unfold inspectPacket processPacketStats processSCRStats processPESStats slotEvents statsEvents
    scrAt slotStats
  cases hs : pkt.scr <;> cases hc : cfg.doSCRStatistics <;>
    by_cases hp : cfg.scrPid = pkt.pid <;> by_cases hd : 0 < cfg.doPESStatistics <;>
    simp [hs, hc, hp, hd, Ctx.setPid_pids]

theorem mem_statsEvents {cfg : Config} {ctx : Ctx} {pkt : TsPacket} {e : Event}
    (h : e ∈ statsEvents cfg ctx pkt) :
    (∃ x a b, e = .ccError x a b) ∨ ∃ n x a b, e = .scrLine n x a b := by
  unfold statsEvents at h
  rcases List.mem_append.1 h with h | h
  · left
    simp only [pidPacketStats, ccCheck] at h
    split_ifs at h <;> simp_all
  · right
    revert h
    cases pkt.scr <;> cases cfg.doSCRStatistics <;> simp only [pidSCRStats, List.mem_singleton] <;>
      first | exact fun h => ⟨_, _, _, _, h⟩ | simp

@[simp] theorem inspectPacket_tsTotalPackets (cfg : Config) (ctx : Ctx) (pkt : TsPacket) :
    (inspectPacket cfg ctx pkt).1.tsTotalPackets = ctx.tsTotalPackets + 1 := by
  unfold inspectPacket processPacketStats processSCRStats processPESStats
  cases pkt.scr <;> cases cfg.doSCRStatistics <;> split_ifs <;> rfl

end TsTools
