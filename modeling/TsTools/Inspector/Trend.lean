import TsTools.Inspector.Timing

/-!
# The samples of a PID's trends

Each header with a PTS (resp. a DTS) raises `trend_pts.counter` (`trend_dts.counter`)
and, once the counter has passed 16, adds a sample to the PID's trend under its
`trendLock` (lines 906–934 and 1029–1054): the first readings "flow through the
model and are ignored".  The trend report prints the number of samples a trend
holds.  The counter is a `double`: it counts exactly up to `2^53` headers, which the
`Nat` of the model takes for granted.

* `count_trendAdd_processPESHeader` — one header adds at most one sample of each
  kind: when it carries that clock and the counter already stood at 16 or more;
* `inspect_trendAdd_count` — over any run, the trend of kind `k` of PID `x`
  receives `n - 16` samples, `n` the number of headers on `x` carrying that clock.
-/

namespace TsTools

/-- `trend_pts` or `trend_dts`. -/
def PidSt.trend (p : PidSt) : TrendKind → TrendSt
  | .pts => p.trendPts
  | .dts => p.trendDts

/-- Whether a packet on `x` hands `processPESHeader` a header carrying the clock of kind
`k`. -/
def headerHas (cfg : Config) (k : TrendKind) (x : Pid) (q : TsPacket) : Bool :=
  match headerOf cfg q with
  | some h => q.pid = x && h.has k
  | none => false

/-! ## One header -/

section
variable (cfg : Config) (scrNow : Int) (x : Pid) (filepos : Nat) (prior : Int) (p : PidSt)
  (y : Pid) (k : TrendKind)

theorem count_trendAdd_latchEvents : (latchEvents cfg x p).count (.trendAdd y k) = 0 :=
  List.count_eq_zero.2 fun h => by simp [latchEvents] at h

theorem count_trendAdd_reportPts (ms : Int) :
    (reportPts cfg scrNow x filepos prior ms p).2.count (.trendAdd y k) =
      if y = x ∧ k = .pts ∧ 16 ≤ p.trendPts.counter then 1 else 0 := by
  simp only [reportPts, List.count_append, apply_ite (List.count (Event.trendAdd y k)),
    List.count_cons, List.count_nil, beq_iff_eq, Event.trendAdd.injEq, reduceCtorEq]
  rcases eq_or_ne y x with rfl | hy
  · cases k <;> simp [Nat.lt_succ_iff]
  · simp [hy, Ne.symm hy]

theorem count_trendAdd_reportDts (ms : Int) :
    (reportDts cfg scrNow x filepos ms p).2.count (.trendAdd y k) =
      if y = x ∧ k = .dts ∧ 16 ≤ p.trendDts.counter then 1 else 0 := by
  simp only [reportDts, List.count_append, apply_ite (List.count (Event.trendAdd y k)),
    List.count_cons, List.count_nil, beq_iff_eq, Event.trendAdd.injEq, reduceCtorEq]
  rcases eq_or_ne y x with rfl | hy
  · cases k <;> simp [Nat.lt_succ_iff]
  · simp [hy, Ne.symm hy]

/-- **The samples of one header.**  A header adds a sample to the trend of kind `k` of its
PID exactly when it carries that clock and the trend's counter stood at 16 or more. -/
theorem count_trendAdd_processPESHeader (h : PesHeader) :
    (processPESHeader cfg scrNow x filepos prior p h).2.count (.trendAdd y k) =
      if y = x ∧ h.has k ∧ 16 ≤ (p.trend k).counter then 1 else 0 := by
  rw [processPESHeader_snd, List.count_append, List.count_append, count_trendAdd_latchEvents]
  cases hD : h.hasDts <;> cases hP : h.hasPts <;> cases k <;>
    simp [hD, hP, count_trendAdd_reportPts, count_trendAdd_reportDts, PesHeader.has, PidSt.trend,
      ptsStep, dtsStep, latched]

/-- A header raises the counter of each kind it carries. -/
theorem processPESHeader_trend_counter (h : PesHeader) :
    ((processPESHeader cfg scrNow x filepos prior p h).1.trend k).counter =
      (p.trend k).counter + if h.has k then 1 else 0 := by
  rw [processPESHeader_slot]; cases k <;> rfl

end

/-! ## One packet -/

section
variable {cfg : Config} {k : TrendKind}

theorem count_trendAdd_statsEvents (ctx : Ctx) (q : TsPacket) (y : Pid) :
    (statsEvents cfg ctx q).count (.trendAdd y k) = 0 :=
  List.count_eq_zero.2 fun h => by
    rcases mem_statsEvents h with ⟨_, _, _, h⟩ | ⟨_, _, _, _, h⟩ <;> cases h

theorem count_trendAdd_inspectPacket (ctx : Ctx) (q : TsPacket) (x : Pid) :
    (inspectPacket cfg ctx q).2.count (.trendAdd x k) =
      if headerHas cfg k x q ∧ 16 ≤ ((ctx.pids q.pid).trend k).counter then 1 else 0 := by
  rw [inspectPacket_snd, headerHas]
  cases e : headerOf cfg q with
  | none => simp [slotEvents_of_headerOf_none e, count_trendAdd_statsEvents]
  | some h =>
    have ht : ({ slotStats cfg q (ctx.pids q.pid) with
        scrAtPesUnitHeader := scrAt cfg ctx q } : PidSt).trend k = (ctx.pids q.pid).trend k := by
      rw [slotStats_eq]; cases k <;> rfl
    rw [slotEvents_of_headerOf_some e, List.count_append, count_trendAdd_statsEvents,
      count_trendAdd_processPESHeader, ht]
    rcases eq_or_ne x q.pid with rfl | hx
    · simp
    · simp [hx, Ne.symm hx]

theorem slotStep_trend_counter (ctx : Ctx) (q : TsPacket) :
    ((slotStep cfg ctx q).trend k).counter =
      ((ctx.pids q.pid).trend k).counter + if headerHas cfg k q.pid q then 1 else 0 := by
  rw [headerHas]
  cases e : headerOf cfg q with
  | none =>
    obtain ⟨c, a, b, hs⟩ := slotStep_of_headerOf_none e ctx
    rw [hs]; cases k <;> rfl
  | some h =>
    rw [slotStep_of_headerOf_some e, processPESHeader_trend_counter, slotStats_eq]
    cases k <;> simp [PidSt.trend, PidSt.withCounters]

end

/-- **The trends' samples over a run.**  For every configuration, packet sequence, PID `x`
and kind `k`, the trend of kind `k` of `x` has counted the `n` headers on `x` carrying that
clock and received `n - 16` samples: none for the first 16 readings, one for each after. -/
theorem inspect_trendAdd_count (cfg : Config) (pkts : List TsPacket) (x : Pid) (k : TrendKind) :
    (((inspect cfg pkts).1.pids x).trend k).counter = (pkts.filter (headerHas cfg k x)).length ∧
      (inspect cfg pkts).2.count (.trendAdd x k) = (pkts.filter (headerHas cfg k x)).length - 16 := by
  induction pkts using List.reverseRecOn with
  | nil => cases k <;> exact ⟨rfl, rfl⟩
  | append_singleton pre q ih =>
    rw [inspect_append, inspectPacket_pids, List.count_append, count_trendAdd_inspectPacket,
      List.filter_append, List.length_append]
    by_cases hx : x = q.pid
    · subst hx
      rw [if_pos rfl, slotStep_trend_counter, ih.1, ih.2, List.filter_singleton]
      cases headerHas cfg k q.pid q
      · simp
      · simp only [if_true, true_and, cond_true, List.length_singleton]; split <;> omega
    · have hq : headerHas cfg k x q = false := by
        unfold headerHas; split <;> simp [Ne.symm hx]
      simpa [hx, hq] using ih

end TsTools
