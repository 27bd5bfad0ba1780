import TsTools.Inspector.Run
import Mathlib.Algebra.BigOperators.Group.Finset
import Mathlib.Data.Fintype.Basic
import Mathlib.Algebra.Ring.Int.Defs

/-!
# The statistics of a PID depend on that PID's packets only

The continuity counter machine of `processPacketStats` and the PCR tracking of
`processSCRStats` run per PID, with no resynchronisation across PIDs.  This file
proves it for every packet sequence and every configuration:

* `foldl_inspectStep_counters` — a slot's statistics after a run are the fold of
  `countersStep` over the subsequence of packets on its PID, whatever the
  interleaving with other PIDs;
* `foldl_countersStep` — that fold has the closed form `expectedCounters`: the
  packet count, the last counter, the continuity errors of the spec (none on the
  null PID `0x1fff`), and the first and last PCR with their number;
* `inspect_counters_per_pid` — both together, with `ts_total_packets` as the sum
  of the per-PID packet counts;
* `inspect_scrLines` — the `SCR #` lines printed for a PID are those of its own
  PCRs, numbered in order, each with its wrap-aware distance from the previous
  one (`scrLines`), so that the distances add up, modulo `MAX_SCR_VALUE`, to the
  distance from the first PCR to the last;
* `inspect_ccErrorLines` — the `!CC Error` lines printed for a PID are one per
  continuity error of its own packets, with the counter expected after the previous
  packet and the one received (`ccErrorLines`), as many as its `cc_errors`;
* `inspect_currentStreamTime` — the one context-wide value SCR statistics write, the
  stream time, is read off the slot of the PID of the last PCR: its first PCR's time plus
  the whole seconds its clock has run since, on the wrapping 27 MHz clock.
-/

namespace TsTools

theorem slotStep_counters (cfg : Config) (ctx : Ctx) (q : TsPacket) :
    (slotStep cfg ctx q).counters = countersStep cfg (ctx.pids q.pid).counters q := by
  unfold slotStep
  split_ifs <;> simp [slotStats_eq]

/-- **Per-PID independence.**  After any run, the statistics of slot `x` are those of the
packets on `x` alone. -/
theorem foldl_inspectStep_counters (cfg : Config) (x : Pid) (pkts : List TsPacket) :
    ∀ s : Ctx × List Event, ((pkts.foldl (inspectStep cfg) s).1.pids x).counters =
      (pkts.filter (·.pid = x)).foldl (countersStep cfg) (s.1.pids x).counters := by
  induction pkts with
  | nil => intro s; rfl
  | cons q qs ih =>
    intro s
    rw [List.foldl_cons, ih, List.filter_cons]
    simp only [inspectStep, inspectPacket_pids]
    by_cases hx : x = q.pid
    · subst hx; simp [slotStep_counters]
    · simp [hx, Ne.symm hx]

/-! ## The closed form -/

/-- The spec's continuity errors over a PID's packets: the packets after the first that
carry a payload and whose counter is not the previous packet's plus one, modulo 16. -/
def ccErrorCount : List TsPacket → Nat
  | a :: b :: rest => (if ccMismatch a.cc.val b then 1 else 0) + ccErrorCount (b :: rest)
  | _ => 0

/-- The PCRs of a PID's packets that `processSCRStats` sees. -/
def pcrsOf (cfg : Config) (px : List TsPacket) : List Int :=
  if cfg.doSCRStatistics then px.filterMap (·.scr) else []

/-- The statistics the spec gives a PID `x` whose packets are `px`. -/
def expectedCounters (cfg : Config) (x : Pid) (px : List TsPacket) : PidCounters where
  pktCount := px.length
  cc := (px.getLast?.map (·.cc.val)).getD 0
  ccErrors := if x = 0x1fff then 0 else ccErrorCount px
  scrFirst := (pcrsOf cfg px).head?.getD 0
  scrFirstTime := if pcrsOf cfg px = [] then 0 else cfg.initialTime
  scr := (pcrsOf cfg px).getLast?.getD 0
  scrUpdateCount := (pcrsOf cfg px).length

theorem ccErrorCount_append_singleton (px : List TsPacket) (q : TsPacket) :
    ccErrorCount (px ++ [q]) =
      ccErrorCount px + match px.getLast? with
        | some a => if ccMismatch a.cc.val q then 1 else 0
        | none => 0 := by
  induction px with
  | nil => rfl
  | cons a t ih =>
    cases t with
    | nil => simp [ccErrorCount]
    | cons b rest =>
      simp only [List.cons_append, ccErrorCount, List.append_eq] at ih ⊢
      rw [ih, List.getLast?_cons_cons]
      omega

/-- The `!CC Error` lines of a PID's packets, with the counter expected and the one received:
one for each packet after the first that carries a payload and whose counter is not the
previous packet's plus one, modulo 16. -/
def ccErrorLines : List TsPacket → List (Nat × Nat)
  | a :: b :: rest =>
    (if ccMismatch a.cc.val b then [((a.cc.val + 1) % 16, b.cc.val)] else []) ++
      ccErrorLines (b :: rest)
  | _ => []

theorem length_ccErrorLines : ∀ px : List TsPacket, (ccErrorLines px).length = ccErrorCount px
  | a :: b :: rest => by
    rw [ccErrorLines, ccErrorCount, List.length_append, length_ccErrorLines (b :: rest)]
    split <;> rfl
  | [] | [_] => rfl

theorem ccErrorLines_append_singleton (px : List TsPacket) (q : TsPacket) :
    ccErrorLines (px ++ [q]) =
      ccErrorLines px ++ match px.getLast? with
        | some a => if ccMismatch a.cc.val q then [((a.cc.val + 1) % 16, q.cc.val)] else []
        | none => [] := by
  induction px with
  | nil => rfl
  | cons a t ih =>
    cases t with
    | nil => simp [ccErrorLines]
    | cons b rest =>
      simp only [List.cons_append, ccErrorLines, List.append_eq] at ih ⊢
      rw [ih, List.getLast?_cons_cons, List.append_assoc]

theorem pcrsOf_append_singleton (cfg : Config) (px : List TsPacket) (q : TsPacket) :
    pcrsOf cfg (px ++ [q]) = pcrsOf cfg px ++ if cfg.doSCRStatistics then q.scr.toList else [] := by
  unfold pcrsOf
  cases h : q.scr <;> cases cfg.doSCRStatistics <;> simp [h]

@[simp] theorem pcrsOf_nil (cfg : Config) : pcrsOf cfg [] = [] := by
  simp [pcrsOf]

theorem foldl_countersStep (cfg : Config) (x : Pid) (px : List TsPacket)
    (hx : ∀ q ∈ px, q.pid = x) :
    px.foldl (countersStep cfg) ({} : PidSt).counters = expectedCounters cfg x px := by
  induction px using List.reverseRecOn with
  | nil => simp [expectedCounters, PidSt.counters, ccErrorCount]
  | append_singleton px q ih =>
    have hq : q.pid = x := hx q (by simp)
    rw [List.foldl_append, ih fun r hr => hx r (by simp [hr])]
    have hcc : (if 0 < px.length ∧ q.pid ≠ 0x1fff ∧
        ccMismatch ((px.getLast?.map (·.cc.val)).getD 0) q then 1 else 0) =
        if x = 0x1fff then 0 else match px.getLast? with
          | some a => if ccMismatch a.cc.val q then 1 else 0
          | none => 0 := by
      cases h : px.getLast? with
      | none => simp_all [List.getLast?_eq_none_iff]
      | some a =>
        have : 0 < px.length := List.length_pos.2 (by rintro rfl; simp at h)
        by_cases hx' : x = 0x1fff <;> simp_all
    simp only [List.foldl_cons, List.foldl_nil, countersStep, expectedCounters,
      pcrsOf_append_singleton, ccErrorCount_append_singleton]
    by_cases hx' : x = 0x1fff <;> cases hs : q.scr <;> cases hc : cfg.doSCRStatistics <;>
      simp [packetCounters, scrCounters, hcc, hs, hc, hx'] <;> cases pcrsOf cfg px <;> simp

/-! ## Whole runs -/

theorem foldl_inspectStep_tsTotalPackets (cfg : Config) (pkts : List TsPacket) :
    ∀ s : Ctx × List Event,
      (pkts.foldl (inspectStep cfg) s).1.tsTotalPackets = s.1.tsTotalPackets + pkts.length := by
  induction pkts with
  | nil => intro s; rfl
  | cons q qs ih => intro s; simp [ih, inspectStep]; omega

theorem sum_length_filter_pid (pkts : List TsPacket) :
    ∑ y : Pid, (pkts.filter (·.pid = y)).length = pkts.length := by
  induction pkts with
  | nil => simp
  | cons q qs ih =>
    have h : ∀ y : Pid, ((q :: qs).filter (·.pid = y)).length =
        (qs.filter (·.pid = y)).length + if q.pid = y then 1 else 0 := by
      intro y; by_cases hy : q.pid = y <;> simp [List.filter_cons, hy]
    rw [Finset.sum_congr rfl fun y _ => h y, Finset.sum_add_distrib, ih, Finset.sum_ite_eq]
    simp

/-- **Per-PID statistics.**  For every configuration and packet sequence, the statistics of
slot `x` are `expectedCounters` of the packets on `x`, so any two sequences with the same
packets on `x` leave them equal, and `ts_total_packets` is the sum of the per-PID counts. -/
theorem inspect_counters_per_pid (cfg : Config) (pkts : List TsPacket) (x : Pid) :
    ((inspect cfg pkts).1.pids x).counters = expectedCounters cfg x (pkts.filter (·.pid = x)) ∧
      (inspect cfg pkts).1.tsTotalPackets = ∑ y : Pid, ((inspect cfg pkts).1.pids y).pktCount := by
  have hc : ∀ y, ((inspect cfg pkts).1.pids y).counters =
      expectedCounters cfg y (pkts.filter (·.pid = y)) := fun y =>
    (foldl_inspectStep_counters cfg y pkts (Ctx.init, [])).trans
      (foldl_countersStep cfg y _ fun q hq => by simpa using (List.mem_filter.1 hq).2)
  refine ⟨hc x, ?_⟩
  have hp : ∀ y, ((inspect cfg pkts).1.pids y).pktCount = (pkts.filter (·.pid = y)).length :=
    fun y => congrArg PidCounters.pktCount (hc y)
  have ht : (inspect cfg pkts).1.tsTotalPackets = pkts.length := by
    simp [inspect, foldl_inspectStep_tsTotalPackets, Ctx.init]
  rw [ht, Finset.sum_congr rfl fun y _ => hp y, sum_length_filter_pid]

/-- The statistics of slot `x` after a run, in closed form. -/
theorem inspect_pids_counters (cfg : Config) (pkts : List TsPacket) (x : Pid) :
    ((inspect cfg pkts).1.pids x).counters = expectedCounters cfg x (pkts.filter (·.pid = x)) :=
  (foldl_inspectStep_counters cfg x pkts (Ctx.init, [])).trans
    (foldl_countersStep cfg x _ fun q hq => by simpa using (List.mem_filter.1 hq).2)

/-! ## The SCR report of a PID -/

/-- An `SCR #` line of PID `x`. -/
def Event.isScrLineOf (x : Pid) : Event → Bool
  | .scrLine _ y _ _ => y = x
  | _ => false

/-- The distance an `SCR #` line prints (0 for any other line). -/
def Event.scrLineDiff : Event → Int
  | .scrLine _ _ _ d => d
  | _ => 0

/-- The `SCR #` lines of PID `x` for its PCRs `pcrs` after the `n`-th, whose predecessor is
`prev`: numbered in order, each with its distance from the previous PCR. -/
def scrLinesFrom (x : Pid) (n : Nat) (prev : Int) : List Int → List Event
  | [] => []
  | s :: ss => .scrLine (n + 1) x s (scrDiff prev s) :: scrLinesFrom x (n + 1) s ss

/-- The `SCR #` lines of PID `x` for its PCRs `pcrs`: numbered from 1, the first at distance
0 and every other at its wrap-aware distance from the PID's previous PCR. -/
def scrLines (x : Pid) : List Int → List Event
  | [] => []
  | s :: ss => .scrLine 1 x s 0 :: scrLinesFrom x 1 s ss

theorem getD_getLast?_cons {α : Type} (t : α) (ts : List α) (d : α) :
    (t :: ts).getLast?.getD d = ts.getLast?.getD t := by
  cases ts with
  | nil => rfl
  | cons h tl =>
    simp only [List.getLast?_cons_cons, List.getLast?_eq_getLast _ (List.cons_ne_nil h tl),
      Option.getD_some]

theorem scrLinesFrom_append_singleton (x : Pid) (s : Int) (ss : List Int) :
    ∀ n prev, scrLinesFrom x n prev (ss ++ [s]) = scrLinesFrom x n prev ss ++
      [.scrLine (n + ss.length + 1) x s (scrDiff (ss.getLast?.getD prev) s)] := by
  induction ss with
  | nil => intro n prev; rfl
  | cons t ts ih =>
    intro n prev
    rw [List.cons_append, scrLinesFrom, ih, scrLinesFrom, List.cons_append, List.length_cons,
      getD_getLast?_cons, show n + 1 + ts.length = n + (ts.length + 1) by omega]

theorem scrLines_append_singleton (x : Pid) (pcrs : List Int) (s : Int) :
    scrLines x (pcrs ++ [s]) = scrLines x pcrs ++ [.scrLine (pcrs.length + 1) x s
      (if 0 < pcrs.length then scrDiff (pcrs.getLast?.getD 0) s else 0)] := by
  cases pcrs with
  | nil => rfl
  | cons t ts =>
    rw [List.cons_append, scrLines, scrLinesFrom_append_singleton, scrLines, List.cons_append,
      getD_getLast?_cons, if_pos (by simp), List.length_cons, Nat.add_comm 1]

/-- Modulo `MAX_SCR_VALUE`, the distances of consecutive PCRs add up to the distance from the
first to the last. -/
theorem sum_scrLinesFrom_emod (x : Pid) (ss : List Int) :
    ∀ n prev, ((scrLinesFrom x n prev ss).map Event.scrLineDiff).sum % maxScrValue =
      (ss.getLast?.getD prev - prev) % maxScrValue := by
  induction ss with
  | nil => intro n prev; simp [scrLinesFrom]
  | cons t ts ih =>
    intro n prev
    rw [scrLinesFrom, List.map_cons, List.sum_cons, getD_getLast?_cons, Int.add_emod, ih]
    simp only [Event.scrLineDiff, scrDiff, maxScrValue]
    omega

/-- The lines of packet and SCR statistics. -/
def Event.isStats : Event → Bool
  | .ccError .. | .scrLine .. => true
  | _ => false

/-- `processPESHeader` prints no line of packet or SCR statistics. -/
theorem isStats_of_mem_processPESHeader {cfg : Config} {scrNow : Int} {y : Pid} {filepos : Nat}
    {prior : Int} {p : PidSt} {h : PesHeader} {e : Event}
    (he : e ∈ (processPESHeader cfg scrNow y filepos prior p h).2) : e.isStats = false := by
  rw [processPESHeader_snd] at he
  simp only [List.mem_append, latchEvents, List.mem_ite_nil_right, List.mem_singleton] at he
  rcases he with ((⟨-, rfl⟩ | ⟨-, rfl⟩) | ⟨-, he⟩) | ⟨-, he⟩
  · rfl
  · rfl
  · rcases (mem_reportPts ..).1 he with ⟨-, rfl⟩ | ⟨-, rfl⟩ | ⟨-, rfl⟩ | ⟨-, rfl⟩ |
      ⟨-, rfl | ⟨-, rfl⟩⟩ | ⟨-, ⟨-, rfl⟩ | rfl⟩ <;> rfl
  · rcases (mem_reportDts ..).1 he with ⟨-, rfl⟩ | ⟨-, rfl⟩ | ⟨-, rfl⟩ | rfl <;> rfl

/-- Nor does `processPESStats`. -/
theorem isStats_of_mem_pidPESStats {cfg : Config} {scrNow : Int} {q : TsPacket} {p : PidSt}
    {e : Event} (he : e ∈ (pidPESStats cfg scrNow q p).2) : e.isStats = false := by
  unfold pidPESStats at he
  split at he
  · split at he
    · split at he
      · exact isStats_of_mem_processPESHeader he
      · cases he
    · cases he
  · cases he

theorem isStats_of_isScrLineOf {x : Pid} {e : Event} (h : e.isScrLineOf x = true) :
    e.isStats = true := by
  cases e <;> simp_all [Event.isScrLineOf, Event.isStats]

/-- The `SCR #` line a packet prints for `x`: one when it is on `x` and carries a PCR that SCR
statistics read, numbered after the slot's earlier PCRs and at its distance from the last. -/
theorem filter_isScrLineOf_inspectPacket (cfg : Config) (ctx : Ctx) (q : TsPacket) (x : Pid) :
    (inspectPacket cfg ctx q).2.filter (Event.isScrLineOf x) =
      if q.pid = x then
        (if cfg.doSCRStatistics then q.scr.toList else []).map fun s =>
          .scrLine ((ctx.pids x).scrUpdateCount + 1) x s
            (if 0 < (ctx.pids x).scrUpdateCount then scrDiff (ctx.pids x).scr s else 0)
      else [] := by
  have hpes : ∀ s p, (pidPESStats cfg s q p).2.filter (Event.isScrLineOf x) = [] :=
    fun _ _ => List.filter_eq_nil_iff.2 fun _ he h =>
      absurd (isStats_of_isScrLineOf h) (by simp [isStats_of_mem_pidPESStats he])
  have hcc : (pidPacketStats q (ctx.pids q.pid)).2.filter (Event.isScrLineOf x) = [] := by
    simp only [pidPacketStats, ccCheck]
    split_ifs <;> simp [Event.isScrLineOf]
  have hp : (if 0 < cfg.doPESStatistics then (pidPESStats cfg (scrAt cfg ctx q) q
      (slotStats cfg q (ctx.pids q.pid))).2 else []).filter (Event.isScrLineOf x) = [] := by
    split
    · exact hpes ..
    · rfl
  rw [inspectPacket_snd, slotEvents, statsEvents, List.filter_append, List.filter_append, hcc, hp,
    List.nil_append, List.append_nil]
  by_cases hx : q.pid = x
  · subst hx
    rw [if_pos rfl]
    cases hs : q.scr <;> cases hc : cfg.doSCRStatistics <;>
      simp [pidSCRStats, Event.isScrLineOf, pidPacketStats_fst, packetCounters,
        PidSt.withCounters, PidSt.counters]
    split <;> rfl
  · rw [if_neg hx]
    cases hs : q.scr <;> cases hc : cfg.doSCRStatistics <;>
      simp [pidSCRStats, Event.isScrLineOf, hx]

/-- **The SCR report of a PID.**  For every configuration and packet sequence, the `SCR #`
lines printed for PID `x` are those of its own PCRs alone, in order: numbered from 1, the
first at distance 0 and each other at its wrap-aware distance from the PID's previous PCR.
So, modulo `MAX_SCR_VALUE`, the printed distances add up to the distance from the PID's first
PCR to its last. -/
theorem inspect_scrLines (cfg : Config) (pkts : List TsPacket) (x : Pid) :
    (inspect cfg pkts).2.filter (Event.isScrLineOf x) =
        scrLines x (pcrsOf cfg (pkts.filter (·.pid = x))) ∧
      (((inspect cfg pkts).2.filter (Event.isScrLineOf x)).map Event.scrLineDiff).sum %
          maxScrValue =
        scrDiff ((pcrsOf cfg (pkts.filter (·.pid = x))).head?.getD 0)
          ((pcrsOf cfg (pkts.filter (·.pid = x))).getLast?.getD 0) := by
  have hl : (inspect cfg pkts).2.filter (Event.isScrLineOf x) =
      scrLines x (pcrsOf cfg (pkts.filter (·.pid = x))) := by
    induction pkts using List.reverseRecOn with
    | nil => simp [inspect, scrLines]
    | append_singleton pre q ih =>
      have hc := inspect_pids_counters cfg pre x
      rw [inspect_append, List.filter_append, ih, filter_isScrLineOf_inspectPacket,
        List.filter_append]
      by_cases hx : q.pid = x
      · have hu := congrArg PidCounters.scrUpdateCount hc
        have hs := congrArg PidCounters.scr hc
        simp only [PidSt.counters, expectedCounters] at hu hs
        rw [if_pos hx, hu, hs, List.filter_singleton, decide_eq_true hx, cond_true,
          pcrsOf_append_singleton]
        cases q.scr <;> cases cfg.doSCRStatistics <;> simp [scrLines_append_singleton]
      · simp [hx, List.filter_singleton]
  refine ⟨hl, ?_⟩
  rw [hl]
  cases pcrsOf cfg (pkts.filter (·.pid = x)) with
  | nil => rfl
  | cons t ts =>
    rw [scrLines, List.map_cons, List.sum_cons, Event.scrLineDiff, Int.zero_add,
      sum_scrLinesFrom_emod, getD_getLast?_cons]
    rfl

/-! ## The continuity errors of a PID -/

/-- The counters a `!CC Error` line of PID `x` prints: the one expected and the one received. -/
def Event.ccErrorOf (x : Pid) : Event → Option (Nat × Nat)
  | .ccError y e g => if y = x then some (e, g) else none
  | _ => none

theorem isStats_of_ccErrorOf {x : Pid} {e : Event} {v : Nat × Nat} (h : e.ccErrorOf x = some v) :
    e.isStats = true := by
  cases e <;> simp_all [Event.ccErrorOf, Event.isStats]

/-- The `!CC Error` line a packet prints for `x`: one when it is on `x`, not the null PID, not
the PID's first packet, and fails the continuity check against the slot's last counter. -/
theorem filterMap_ccErrorOf_inspectPacket (cfg : Config) (ctx : Ctx) (q : TsPacket) (x : Pid) :
    (inspectPacket cfg ctx q).2.filterMap (Event.ccErrorOf x) =
      if q.pid = x ∧ x ≠ 0x1fff ∧ 0 < (ctx.pids x).pktCount ∧ ccMismatch (ctx.pids x).cc q then
        [(((ctx.pids x).cc + 1) % 16, q.cc.val)]
      else [] := by
  have hpes : (if 0 < cfg.doPESStatistics then (pidPESStats cfg (scrAt cfg ctx q) q
      (slotStats cfg q (ctx.pids q.pid))).2 else []).filterMap (Event.ccErrorOf x) = [] := by
    refine List.filterMap_eq_nil_iff.2 fun e he => Option.eq_none_iff_forall_not_mem.2 fun v h => ?_
    split at he
    · exact absurd (isStats_of_ccErrorOf h) (by simp [isStats_of_mem_pidPESStats he])
    · cases he
  have hstats : (statsEvents cfg ctx q).filterMap (Event.ccErrorOf x) =
      (pidPacketStats q (ctx.pids q.pid)).2.filterMap (Event.ccErrorOf x) := by
    unfold statsEvents
    cases q.scr <;> cases cfg.doSCRStatistics <;> simp [pidSCRStats, Event.ccErrorOf]
  rw [inspectPacket_snd, slotEvents, List.filterMap_append, hpes, List.append_nil, hstats]
  simp only [pidPacketStats, ccCheck, and_0x0f, ccMismatch]
  by_cases hx : q.pid = x
  · subst hx
    split_ifs <;> simp_all [Event.ccErrorOf]
  · simp only [hx, false_and, if_false]
    split_ifs <;> simp [Event.ccErrorOf, hx]

/-- **The continuity errors a PID prints.**  For every configuration and packet sequence, the
`!CC Error` lines printed for PID `x` are, in order, one for each of its packets after the first
that carries a payload with a counter other than the previous packet's plus one, modulo 16,
showing that expected counter and the one received; the null PID prints none.  Their number is
the PID's `cc_errors`, the discontinuities `pidReport` prints. -/
theorem inspect_ccErrorLines (cfg : Config) (pkts : List TsPacket) (x : Pid) :
    (inspect cfg pkts).2.filterMap (Event.ccErrorOf x) =
        (if x = 0x1fff then [] else ccErrorLines (pkts.filter (·.pid = x))) ∧
      ((inspect cfg pkts).2.filterMap (Event.ccErrorOf x)).length =
        ((inspect cfg pkts).1.pids x).ccErrors := by
  have hl : (inspect cfg pkts).2.filterMap (Event.ccErrorOf x) =
      if x = 0x1fff then [] else ccErrorLines (pkts.filter (·.pid = x)) := by
    induction pkts using List.reverseRecOn with
    | nil => split <;> rfl
    | append_singleton pre q ih =>
      have hc := inspect_pids_counters cfg pre x
      have hn := congrArg PidCounters.pktCount hc
      have hcc := congrArg PidCounters.cc hc
      simp only [PidSt.counters, expectedCounters] at hn hcc
      rw [inspect_append, List.filterMap_append, ih, filterMap_ccErrorOf_inspectPacket, hn, hcc,
        List.filter_append, List.filter_singleton]
      by_cases hx : q.pid = x
      · subst hx
        rw [decide_eq_true rfl, cond_true, ccErrorLines_append_singleton]
        by_cases h0 : q.pid = 0x1fff
        · simp [h0]
        · cases h : (pre.filter (·.pid = q.pid)).getLast? with
          | none => simp [h0, List.getLast?_eq_none_iff.1 h]
          | some a =>
            have : 0 < (pre.filter (·.pid = q.pid)).length :=
              List.length_pos.2 fun e => by simp [e] at h
            simp [h0, this]
      · simp [hx]
  refine ⟨hl, ?_⟩
  have he := congrArg PidCounters.ccErrors (inspect_pids_counters cfg pkts x)
  simp only [PidSt.counters, expectedCounters] at he
  rw [hl, he]
  split <;> simp [length_ccErrorLines]

/-- Counters 0 and 2 with payload on `0x100`, then 5 without: one line, expecting 1 and
receiving 2; the packet without payload is not checked. -/
example :
    let cfg : Config := ⟨true, false, 60, 1000, 700, true, 0, false, 0x31, fun h => absurd h (by decide)⟩
    (inspect cfg [⟨0, 0x100, false, 1, 0, none, none⟩, ⟨188, 0x100, false, 1, 2, none, none⟩,
      ⟨376, 0x100, false, 2, 5, none, none⟩]).2.filterMap (Event.ccErrorOf 0x100) = [(1, 2)] := by
  decide

/-! ## The stream time -/

/-- Whether `processSCRStats` runs on a packet and finds a PCR in it. -/
def pcrSeen (cfg : Config) (q : TsPacket) : Bool := cfg.doSCRStatistics && q.scr.isSome

/-- A packet moves the stream time when SCR statistics read a PCR in it: to the time of the
PID's first PCR (the initial time, for the first) plus the whole seconds the PID's clock has
run since. -/
theorem inspectPacket_currentStreamTime (cfg : Config) (ctx : Ctx) (q : TsPacket) :
    (inspectPacket cfg ctx q).1.currentStreamTime =
      match q.scr, cfg.doSCRStatistics with
      | some s, true =>
        (if 0 < (ctx.pids q.pid).scrUpdateCount then (ctx.pids q.pid).scrFirstTime
          else cfg.initialTime) +
        scrDiff (if 0 < (ctx.pids q.pid).scrUpdateCount then (ctx.pids q.pid).scrFirst else s) s /
          27000000
      | _, _ => ctx.currentStreamTime := by
  have hpes (c : Ctx) : (if 0 < cfg.doPESStatistics then processPESStats cfg c q
      else (c, [])).1.currentStreamTime = c.currentStreamTime := by
    split <;> rfl
  simp only [inspectPacket, hpes]
  cases hs : q.scr <;> cases hc : cfg.doSCRStatistics <;>
    simp [processSCRStats, processPacketStats, hs, pidSCRStats, pidPacketStats_fst,
      PidSt.withCounters, packetCounters, PidSt.counters]
  split <;> simp [scrDiff_tdiv]

theorem inspectPacket_currentStreamTime_of_not_pcrSeen (cfg : Config) (ctx : Ctx) {q : TsPacket}
    (hq : pcrSeen cfg q = false) :
    (inspectPacket cfg ctx q).1.currentStreamTime = ctx.currentStreamTime := by
  rw [inspectPacket_currentStreamTime]
  unfold pcrSeen at hq
  cases hs : q.scr <;> cases hc : cfg.doSCRStatistics <;> simp_all

theorem pcrsOf_filter_append_of_not_pcrSeen (cfg : Config) (pre : List TsPacket) {q : TsPacket}
    (hq : pcrSeen cfg q = false) (p : TsPacket → Bool) :
    pcrsOf cfg ((pre ++ [q]).filter p) = pcrsOf cfg (pre.filter p) := by
  rw [List.filter_append, List.filter_singleton]
  cases hp : p q
  · simp
  · rw [cond_true, pcrsOf_append_singleton]
    unfold pcrSeen at hq
    cases hs : q.scr <;> cases hc : cfg.doSCRStatistics <;> simp_all

/-- The whole seconds of a distance on the 27 MHz clock: at most 95443. -/
theorem streamTime_bounds (t a s : Int) :
    t ≤ t + scrDiff a s / 27000000 ∧ t + scrDiff a s / 27000000 ≤ t + 95443 := by
  have h₀ := scrDiff_nonneg a s
  have h₁ := scrDiff_lt a s
  rw [show maxScrValue = 2576980377600 from rfl] at h₁
  omega

/-- The step of a packet with a PCR that SCR statistics read: the stream time is taken from
the first PCR of its PID, this one if it is the first. -/
theorem inspect_append_currentStreamTime_of_scr {cfg : Config} {pre : List TsPacket}
    {q : TsPacket} {s : Int} (hs : q.scr = some s) (hc : cfg.doSCRStatistics = true) :
    (inspect cfg (pre ++ [q])).1.currentStreamTime = cfg.initialTime +
      scrDiff ((pcrsOf cfg ((pre ++ [q]).filter (·.pid = q.pid))).head?.getD 0) s / 27000000 := by
  have hk := inspect_pids_counters cfg pre q.pid
  simp only [PidSt.counters, expectedCounters, PidCounters.mk.injEq] at hk
  obtain ⟨-, -, -, hf, ht, -, hu⟩ := hk
  have hx : pcrsOf cfg ((pre ++ [q]).filter (·.pid = q.pid)) =
      pcrsOf cfg (pre.filter (·.pid = q.pid)) ++ [s] := by
    simp [List.filter_append, pcrsOf_append_singleton, hs, hc]
  rw [inspect_append, inspectPacket_currentStreamTime, hx]
  simp only [hs, hc, hu, hf, ht]
  cases pcrsOf cfg (pre.filter (·.pid = q.pid)) <;> simp

/-- **The stream time.**  After any run, the stream time printed beside the warnings is 0 if
no PCR has been read, and otherwise that of the PID of the last PCR read: the initial time
plus the whole seconds from that PID's first PCR to its last, measured on the wrapping
27 MHz clock.  So it never runs more than 95443 seconds (26.5 hours) past the initial time,
and a PCR on another PID with a different first PCR moves it back. -/
theorem inspect_currentStreamTime (cfg : Config) (pkts : List TsPacket) :
    match (pkts.filter (pcrSeen cfg)).getLast? with
    | none => (inspect cfg pkts).1.currentStreamTime = 0
    | some q =>
      (inspect cfg pkts).1.currentStreamTime = cfg.initialTime +
          scrDiff ((pcrsOf cfg (pkts.filter (·.pid = q.pid))).head?.getD 0) (q.scr.getD 0) /
            27000000 ∧
        cfg.initialTime ≤ (inspect cfg pkts).1.currentStreamTime ∧
        (inspect cfg pkts).1.currentStreamTime ≤ cfg.initialTime + 95443 := by
  induction pkts using List.reverseRecOn with
  | nil => rfl
  | append_singleton pre q ih =>
    cases hq : pcrSeen cfg q with
    | false =>
      have hl : (pre ++ [q]).filter (pcrSeen cfg) = pre.filter (pcrSeen cfg) := by
        rw [List.filter_append, List.filter_singleton, hq, cond_false, List.append_nil]
      have he : (inspect cfg (pre ++ [q])).1.currentStreamTime =
          (inspect cfg pre).1.currentStreamTime := by
        rw [inspect_append, inspectPacket_currentStreamTime_of_not_pcrSeen cfg _ hq]
      rw [hl, he]
      revert ih
      cases (pre.filter (pcrSeen cfg)).getLast? with
      | none => exact id
      | some r => simp only [pcrsOf_filter_append_of_not_pcrSeen cfg pre hq]; exact id
    | true =>
      obtain ⟨s, hs, hc⟩ : ∃ s, q.scr = some s ∧ cfg.doSCRStatistics = true := by
        unfold pcrSeen at hq; cases h : q.scr <;> simp_all
      have hl : ((pre ++ [q]).filter (pcrSeen cfg)).getLast? = some q := by
        rw [List.filter_append, List.filter_singleton, hq, cond_true, List.getLast?_concat]
      rw [hl]
      simp only [hs, Option.getD_some]
      rw [inspect_append_currentStreamTime_of_scr hs hc]
      exact ⟨rfl, streamTime_bounds ..⟩

/-- Ten seconds of PCR on `0x31`, then the first PCR of `0x32`: the stream time goes back to
the initial time. -/
example :
    let cfg : Config := ⟨true, false, 60, 1000, 700, true, 0, false, 0x31, fun h => absurd h (by decide)⟩
    (inspect cfg [⟨0, 0x31, false, 3, 0, some 0, none⟩,
      ⟨188, 0x31, false, 3, 1, some 270000000, none⟩]).1.currentStreamTime = 1010 ∧
    (inspect cfg [⟨0, 0x31, false, 3, 0, some 0, none⟩,
      ⟨188, 0x31, false, 3, 1, some 270000000, none⟩,
      ⟨376, 0x32, false, 3, 0, some 2700000000, none⟩]).1.currentStreamTime = 1000 := by
  decide

end TsTools