import TsTools.Inspector.Basic

/-!
# Packet and SCR statistics

`processPacketStats` counts every packet on its PID and runs the
continuity-counter check; `processSCRStats` tracks the PCR of every
PCR-bearing packet on its PID and moves the stream time.  Both only touch the
slot of the packet's own PID (and, for the SCR, the global stream time), which
is why each is written as a function on one slot (`pidPacketStats`,
`pidSCRStats`) and the context update around it.
-/

namespace TsTools

/-! ## `processPacketStats` -/

/-- The continuity check of `processPacketStats`, on the slot whose count was just
raised: a payload-bearing packet (`afc` 1 or 3) after the PID's first must carry
`(cc + 1) & 0x0f`; the null PID `0x1fff` is never checked. -/
def ccCheck (pid : Pid) (afc : Fin 4) (cc : Fin 16) (p : PidSt) : PidSt × List Event :=
  if (afc = 1 ∨ afc = 3) ∧ 1 < p.pktCount ∧ (p.cc + 1) &&& 0x0f ≠ cc.val ∧ pid ≠ 0x1fff then
    ({ p with ccErrors := p.ccErrors + 1 }, [.ccError pid ((p.cc + 1) &&& 0x0f) cc.val])
  else (p, [])

/-- `processPacketStats` on the slot of the packet's PID. -/
def pidPacketStats (pkt : TsPacket) (p : PidSt) : PidSt × List Event :=
  let r := ccCheck pkt.pid pkt.afc pkt.cc { p with pktCount := p.pktCount + 1 }
  ({ r.1 with cc := pkt.cc.val }, r.2)

/-- `processPacketStats`. -/
def processPacketStats (ctx : Ctx) (pkt : TsPacket) : Ctx × List Event :=
  let r := pidPacketStats pkt (ctx.pids pkt.pid)
  (ctx.setPid pkt.pid r.1, r.2)

theorem and_0x0f (n : Nat) : n &&& 0x0f = n % 16 :=
  Nat.and_pow_two_sub_one_eq_mod n 4

/-- The error condition of the continuity check, as the spec states it. -/
def ccMismatch (prev : Nat) (pkt : TsPacket) : Prop :=
  (pkt.afc = 1 ∨ pkt.afc = 3) ∧ pkt.cc.val ≠ (prev + 1) % 16

instance (prev : Nat) (pkt : TsPacket) : Decidable (ccMismatch prev pkt) :=
  inferInstanceAs (Decidable ((pkt.afc = 1 ∨ pkt.afc = 3) ∧ pkt.cc.val ≠ (prev + 1) % 16))

@[simp] theorem pidPacketStats_pktCount (pkt : TsPacket) (p : PidSt) :
    (pidPacketStats pkt p).1.pktCount = p.pktCount + 1 := by
  simp only [pidPacketStats, ccCheck]; split <;> rfl

@[simp] theorem pidPacketStats_cc (pkt : TsPacket) (p : PidSt) :
    (pidPacketStats pkt p).1.cc = pkt.cc.val := rfl

theorem pidPacketStats_ccErrors (pkt : TsPacket) (p : PidSt) :
    (pidPacketStats pkt p).1.ccErrors =
      p.ccErrors + if 0 < p.pktCount ∧ pkt.pid ≠ 0x1fff ∧ ccMismatch p.cc pkt then 1 else 0 := by
  have e : ((pkt.afc = 1 ∨ pkt.afc = 3) ∧ 1 < p.pktCount + 1 ∧ (p.cc + 1) &&& 0x0f ≠ pkt.cc.val ∧
      pkt.pid ≠ 0x1fff) ↔ (0 < p.pktCount ∧ pkt.pid ≠ 0x1fff ∧ ccMismatch p.cc pkt) := by
    rw [and_0x0f, ccMismatch]
    constructor
    · rintro ⟨ha, hc, hm, hp⟩; exact ⟨by omega, hp, ha, Ne.symm hm⟩
    · rintro ⟨hc, hp, ha, hm⟩; exact ⟨ha, by omega, Ne.symm hm, hp⟩
  simp only [pidPacketStats, ccCheck]
  by_cases h : 0 < p.pktCount ∧ pkt.pid ≠ 0x1fff ∧ ccMismatch p.cc pkt
  · rw [if_pos (e.2 h), if_pos h]
  · rw [if_neg (mt e.1 h), if_neg h]; rfl

/-- The statistics after `processPacketStats`. -/
def packetCounters (pkt : TsPacket) (c : PidCounters) : PidCounters :=
  { c with
    pktCount := c.pktCount + 1
    cc := pkt.cc.val
    ccErrors := c.ccErrors + if 0 < c.pktCount ∧ pkt.pid ≠ 0x1fff ∧ ccMismatch c.cc pkt then 1 else 0 }

/-- `processPacketStats` changes the statistics of the slot and nothing else. -/
theorem pidPacketStats_fst (pkt : TsPacket) (p : PidSt) :
    (pidPacketStats pkt p).1 = p.withCounters (packetCounters pkt p.counters) := by
  have h : (pidPacketStats pkt p).1 =
      { p with
        pktCount := p.pktCount + 1
        cc := pkt.cc.val
        ccErrors := (pidPacketStats pkt p).1.ccErrors } := by
    simp only [pidPacketStats, ccCheck]; split <;> rfl
  rw [h, pidPacketStats_ccErrors]; rfl

/-! ## `processSCRStats` -/

/-- `processSCRStats` on the slot of a packet carrying PCR `scr`: the new slot, the stream
time `scr_first_time + scr_diff(scr_first, scr) / 27000000`, and the `SCR #` line. -/
def pidSCRStats (cfg : Config) (pid : Pid) (scr : Int) (p : PidSt) : PidSt × Int × List Event :=
  let diff := if 0 < p.scrUpdateCount then scrDiff p.scr scr else 0
  let p := if 0 < p.scrUpdateCount then p
    else { p with scrFirst := scr, scrFirstTime := cfg.initialTime }
  let p := { p with scr := scr, scrUpdateCount := p.scrUpdateCount + 1 }
  (p, p.scrFirstTime + (scrDiff p.scrFirst scr).tdiv 27000000,
    [.scrLine p.scrUpdateCount pid scr diff])

/-- `processSCRStats`: nothing happens unless `ltntstools_scr` finds a PCR. -/
def processSCRStats (cfg : Config) (ctx : Ctx) (pkt : TsPacket) : Ctx × List Event :=
  match pkt.scr with
  | none => (ctx, [])
  | some scr =>
    let r := pidSCRStats cfg pkt.pid scr (ctx.pids pkt.pid)
    ({ ctx.setPid pkt.pid r.1 with currentStreamTime := r.2.1 }, r.2.2)

/-- The statistics after `processSCRStats` of a packet with PCR `scr`. -/
def scrCounters (cfg : Config) (scr : Int) (c : PidCounters) : PidCounters :=
  { c with
    scrFirst := if 0 < c.scrUpdateCount then c.scrFirst else scr
    scrFirstTime := if 0 < c.scrUpdateCount then c.scrFirstTime else cfg.initialTime
    scr := scr
    scrUpdateCount := c.scrUpdateCount + 1 }

/-- `processSCRStats` changes the statistics of the slot and nothing else. -/
theorem pidSCRStats_fst (cfg : Config) (pid : Pid) (scr : Int) (p : PidSt) :
    (pidSCRStats cfg pid scr p).1 = p.withCounters (scrCounters cfg scr p.counters) := by
  simp only [pidSCRStats, scrCounters, PidSt.counters, PidSt.withCounters]
  split_ifs <;> rfl

end TsTools
