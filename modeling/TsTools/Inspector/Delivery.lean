import TsTools.Inspector.Report

/-!
# The PES delivery span of `processPESStats`

At every packet of a PID `processPESStats` notes the PCR last seen on the
configured SCR PID: a unit start writes it to `scr_at_pes_unit_header`, any
other packet to `scr_last_seen` (lines 1230–1258).  At a unit start, before the
note, `prior_pes_delivery_ticks = scr_last_seen - scr_at_pes_unit_header` is the
span `-Y` reports for the previous unit.

* `slotStep_deliveryMark` — what one packet does to the two marks;
* `inspect_deliveryMark` — after any run, each mark is the SCR PID's PCR at the
  PID's last packet of its kind (unit start or not), 0 before the first;
* `inspect_pesDelivery` — the span reported at a header is the difference of
  those two PCRs, so a unit with no continuation packet is measured against the
  last continuation packet of an earlier unit.
-/

namespace TsTools

/-- `scr_at_pes_unit_header` (for unit starts) or `scr_last_seen` (for the other packets). -/
def PidSt.deliveryMark (p : PidSt) : Bool → Int
  | true => p.scrAtPesUnitHeader
  | false => p.scrLastSeen

theorem processPESHeader_deliveryMark (cfg : Config) (scrNow : Int) (x : Pid) (filepos : Nat)
    (prior : Int) (p : PidSt) (h : PesHeader) (b : Bool) :
    (processPESHeader cfg scrNow x filepos prior p h).1.deliveryMark b = p.deliveryMark b := by
  rw [processPESHeader_slot]; cases b <;> rfl

/-- With PES statistics on, a packet writes the PCR it sees on the SCR PID to the mark of
its kind, and leaves the other mark alone. -/
theorem slotStep_deliveryMark {cfg : Config} (hd : 0 < cfg.doPESStatistics) (ctx : Ctx)
    (q : TsPacket) (b : Bool) :
    (slotStep cfg ctx q).deliveryMark b =
      if q.pusi = b then scrAt cfg ctx q else (ctx.pids q.pid).deliveryMark b := by
  simp only [slotStep, hd, if_true, pidPESStats]
  rw [slotStats_eq]
  cases hu : q.pusi <;> cases b <;> simp only [if_true, if_false, Bool.false_eq_true]
  all_goals first
    | rfl
    | (split
       · split
         · exact processPESHeader_deliveryMark ..
         · rfl
       · rfl)

/-- The stream up to and including its last packet of `x` of kind `b` (unit start or not),
empty when there is none. -/
def uptoLast (x : Pid) (b : Bool) (pkts : List TsPacket) : List TsPacket :=
  (pkts.reverse.dropWhile fun r => !(r.pid = x ∧ r.pusi = b)).reverse

theorem uptoLast_append_singleton (x : Pid) (b : Bool) (pkts : List TsPacket) (q : TsPacket) :
    uptoLast x b (pkts ++ [q]) = if q.pid = x ∧ q.pusi = b then pkts ++ [q] else uptoLast x b pkts := by
  unfold uptoLast
  rw [List.reverse_append, List.reverse_singleton, List.singleton_append, List.dropWhile_cons]
  by_cases hq : q.pid = x ∧ q.pusi = b <;> simp [hq]

/-- **The marks over a run.**  With PES statistics on, after any run each mark of `x` is the
SCR PID's `p->scr` as it stood at the last packet of `x` of its kind, 0 before the first. -/
theorem inspect_deliveryMark {cfg : Config} (hd : 0 < cfg.doPESStatistics) (pkts : List TsPacket)
    (x : Pid) (b : Bool) :
    ((inspect cfg pkts).1.pids x).deliveryMark b = lastPcr cfg cfg.scrPid (uptoLast x b pkts) := by
  induction pkts using List.reverseRecOn with
  | nil => cases b <;> simp [inspect, Ctx.init, uptoLast, lastPcr, PidSt.deliveryMark]
  | append_singleton pre q ih =>
    rw [inspect_append, inspectPacket_pids, uptoLast_append_singleton]
    by_cases hx : x = q.pid
    · subst hx
      rw [if_pos rfl, slotStep_deliveryMark hd, ih, scrAt_inspect]
      by_cases hb : q.pusi = b <;> simp [hb]
    · simp only [if_neg hx, ih, Ne.symm hx, false_and, if_false]

theorem processPESHeader_pesDelivery (cfg : Config) (scrNow : Int) (x : Pid) (filepos : Nat)
    (prior : Int) (p : PidSt) (h : PesHeader) (n : Nat) (y : Pid) (t : Int) :
    .pesDelivery n y t ∈ (processPESHeader cfg scrNow x filepos prior p h).2 ↔
      h.hasPts ∧ cfg.orderAscPtsOutput = false ∧ cfg.enablePESDeliveryReport ∧ n = p.ptsCount ∧
        y = x ∧ t = prior := by
  rw [processPESHeader_snd]
  cases hD : h.hasDts <;> cases hP : h.hasPts <;>
    simp [hD, hP, latchEvents, mem_reportPts, mem_reportDts, ptsStep, dtsStep, latched]

/-- **The reported span.**  A `took N SCR ticks to arrive` line is printed at a header with a
PTS under `-Y` outside reorder mode, numbered by the PID's earlier PTS headers, and `N` is the
difference, as an `int64_t`, of the SCR PID's PCR at the PID's last continuation packet and at
its last unit start. -/
theorem inspect_pesDelivery (cfg : Config) (pkts : List TsPacket) (q : TsPacket) (n : Nat)
    (t : Int) :
    .pesDelivery n q.pid t ∈ (inspectPacket cfg (inspect cfg pkts).1 q).2 ↔
      (∃ h ∈ headerOf cfg q, h.hasPts) ∧ cfg.orderAscPtsOutput = false ∧
        cfg.enablePESDeliveryReport ∧ n = (ptsItems cfg q.pid pkts).length ∧
        t = toInt64 (lastPcr cfg cfg.scrPid (uptoLast q.pid false pkts) -
          lastPcr cfg cfg.scrPid (uptoLast q.pid true pkts)) := by
  have hs : .pesDelivery n q.pid t ∉ statsEvents cfg (inspect cfg pkts).1 q := fun hm => by
    rcases mem_statsEvents hm with ⟨_, _, _, e⟩ | ⟨_, _, _, _, e⟩ <;> cases e
  rw [inspectPacket_snd]
  cases e : headerOf cfg q with
  | none => simp [slotEvents_of_headerOf_none e, hs]
  | some h =>
    have hd : 0 < cfg.doPESStatistics := by
      unfold headerOf at e; split_ifs at e with hc; exact hc.1
    rw [slotEvents_of_headerOf_some e, List.mem_append, processPESHeader_pesDelivery, slotStats_eq]
    simp [hs, priorTicks, ← inspect_deliveryMark hd, PidSt.deliveryMark, PidSt.withCounters,
      (inspect_ptsTrack cfg pkts q.pid).1]

/-- With `-p -Y -S 0x100` and two single-packet PES units on `0x100`, the first carrying PCR
2000: the second unit start reports the first unit as taking -2000 ticks, the stale
`scr_last_seen` (never written) minus the first unit's start. -/
theorem inspect_pesDelivery_negative :
    .pesDelivery 1 0x100 (-2000) ∈
      (inspect (Config.ofOptions 0 [.pes, .deliveryReport, .scrPid 0x100])
        [⟨0, 0x100, true, 3, 0, some 2000, some ⟨2, 0, 0⟩⟩,
          ⟨188, 0x100, true, 1, 1, none, some ⟨2, 3000, 0⟩⟩]).2 := by
  decide

end TsTools
