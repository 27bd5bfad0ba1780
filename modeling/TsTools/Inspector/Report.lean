import TsTools.Inspector.Timing

/-!
# The PTS and DTS reports, and the reorder-mode dump `ordered_clock_dump`

Outside reorder mode `processPESHeader` prints a `PTS #` line at every header with a PTS
(lines 966–991), and in every mode a `DTS #` line at every header with a DTS (lines
1079–1101).  In reorder mode (`-R`) the PTS lines are not printed as the headers arrive.
`processPESHeader` inserts every PTS of a PID into its ordered list instead
(lines 1003–1012), and at shutdown `clock_inspector` runs `ordered_clock_dump`
on the list of every PID with a PTS (lines 1647–1654).  The dump (lines 658–692)
walks the list with two carried values: `last`, the previous entry's clock (`-1`
before the first), from which it prints `diffTicks = ltntstools_pts_diff(last,
clock)`; and `linenr`, which puts the two column headers before every 25th line
from the 25th on.

* `orderedClockDump_header` — the headers come before line `k` exactly when
  `k % 25 = 24`;
* `orderedClockDump_diffTicks` — on a list sorted by clock within the 33-bit range,
  the printed differences are the display-order intervals `clockGaps`: 0, then the
  distance from each entry's PTS to the previous one's;
* `inspect_ptsTrack` — after any run, a PID's slot has counted its PTS headers, holds
  the last one's PTS as the reference of the next difference, and in reorder mode its
  list is `orderedClockRun` of the entries they handed on;
* `inspect_ptsLines` — outside reorder mode, the `PTS #` lines of a PID are one per
  entry, in order, each with its difference from the PID's previous PTS (of the line's
  columns, those of `Event.ptsLineOf`);
* `inspect_dtsLines` — the `DTS #` lines of a PID are one per header with a DTS, numbered
  by the PTS count and measured from the DTS field of the previous header with a PTS;
* `inspect_dtsClockWarning` — the 90 kHz DTS warning tests that distance and prints the
  PTS difference;
* `inspect_ptsClockWarning` — the 90 kHz PTS warning fires on forward distances from the
  PID's last PTS between the threshold and 10 s only: the correction of line 871 turns a
  longer jump into a step back, which is never reported;
* `inspect_orderedClockDump` — so the dump at shutdown prints, in ascending PTS
  order, the PID's first PTS and every later one at least as large, each with its
  interval from the previous line, and the intervals add up to the largest PTS
  kept minus the first.
-/

namespace TsTools

/-! ## The dump of one list -/

/-- One entry's line of `ordered_clock_dump`: `header` when the two `+PTS/DTS (ordered)`
column headers are printed before it; the entry's number, filepos and clock with the PID;
and `diffTicks`.  The last column, `diffTicks / 90` in `double`, is left out. -/
structure DumpLine where
  header : Bool
  nr : Nat
  filepos : Nat
  pid : Pid
  clock : Int
  diffTicks : Int
  deriving Repr, DecidableEq

/-- The loop of `ordered_clock_dump` from the carried `last` and `linenr`.  The `uint64_t`
`diffTicks` keeps the distance, which lies in `[0, 2^33)`. -/
def orderedClockDumpFrom (pid : Pid) : Int → Nat → List OrderedClockItem → List DumpLine
  | _, _, [] => []
  | last, linenr, i :: is =>
    ⟨linenr = 24, i.nr, i.filepos, pid, i.clock, if last = -1 then 0 else ptsDiff last i.clock⟩ ::
      orderedClockDumpFrom pid i.clock (if linenr = 24 then 0 else linenr + 1) is

/-- `ordered_clock_dump(list, pid)`: `last = -1`, `linenr = 0`. -/
def orderedClockDump (list : List OrderedClockItem) (pid : Pid) : List DumpLine :=
  orderedClockDumpFrom pid (-1) 0 list

/-- The distance of each entry's clock from the previous one's, `c` before the first. -/
def gapsFrom (c : Int) : List OrderedClockItem → List Int
  | [] => []
  | i :: is => (i.clock - c) :: gapsFrom i.clock is

/-- The display-order intervals of a list: 0 for the first entry, then the distance of each
entry's clock from the previous entry's. -/
def clockGaps : List OrderedClockItem → List Int
  | [] => []
  | i :: is => 0 :: gapsFrom i.clock is

theorem orderedClockDumpFrom_header (pid : Pid) (l : List OrderedClockItem) :
    ∀ last n, n ≤ 24 → (orderedClockDumpFrom pid last n l).map (·.header) =
      (List.range l.length).map fun k => decide ((n + k) % 25 = 24) := by
  induction l with
  | nil => intros; rfl
  | cons i is ih =>
    intro last n hn
    rw [orderedClockDumpFrom, List.map_cons, ih _ _ (by split <;> omega), List.length_cons,
      List.range_succ_eq_map, List.map_cons, List.map_map]
    congr 1
    · simp only [Nat.add_zero, Nat.mod_eq_of_lt (show n < 25 by omega)]
    · refine List.map_congr_left fun k _ => ?_
      simp only [Function.comp]
      congr 1
      apply propext
      split <;> omega

/-- **The column headers.**  They are printed before line `k` exactly when `k % 25 = 24`:
after the first 24 lines, then every 25. -/
theorem orderedClockDump_header (l : List OrderedClockItem) (pid : Pid) :
    (orderedClockDump l pid).map (·.header) =
      (List.range l.length).map fun k => decide (k % 25 = 24) := by
  simpa using orderedClockDumpFrom_header pid l (-1) 0 (by decide)

/-- Every entry is printed once, in list order, with the PID. -/
theorem orderedClockDump_entries (l : List OrderedClockItem) (pid : Pid) :
    (orderedClockDump l pid).map (fun d => (⟨d.nr, d.clock, d.filepos⟩ : OrderedClockItem)) = l ∧
      ∀ d ∈ orderedClockDump l pid, d.pid = pid := by
  suffices ∀ last n, (orderedClockDumpFrom pid last n l).map
      (fun d => (⟨d.nr, d.clock, d.filepos⟩ : OrderedClockItem)) = l ∧
      ∀ d ∈ orderedClockDumpFrom pid last n l, d.pid = pid from this _ _
  induction l with
  | nil => simp [orderedClockDumpFrom]
  | cons i is ih =>
    intro last n
    obtain ⟨h₁, h₂⟩ := ih i.clock (if n = 24 then 0 else n + 1)
    refine ⟨by simp [orderedClockDumpFrom, h₁], ?_⟩
    simp only [orderedClockDumpFrom, List.mem_cons]
    rintro d (rfl | hd)
    · rfl
    · exact h₂ d hd

/-- A clock of the 33-bit PTS range. -/
def PtsInRange (i : OrderedClockItem) : Prop := 0 ≤ i.clock ∧ i.clock < maxPtsValue

theorem orderedClockDumpFrom_diffTicks (pid : Pid) (l : List OrderedClockItem) :
    ∀ c n, 0 ≤ c → ClockSorted l → (∀ i ∈ l, c ≤ i.clock ∧ PtsInRange i) →
      (orderedClockDumpFrom pid c n l).map (·.diffTicks) = gapsFrom c l := by
  induction l with
  | nil => intros; rfl
  | cons i is ih =>
    intro c n hc hs hr
    rw [ClockSorted, List.sorted_cons] at hs
    obtain ⟨hci, hi₀, hi₁⟩ := hr i (.head _)
    have hd : ptsDiff c i.clock = i.clock - c := Int.emod_eq_of_lt (by omega) (by omega)
    rw [orderedClockDumpFrom, List.map_cons, gapsFrom, if_neg (by omega), hd,
      ih _ _ hi₀ hs.2 fun j hj => ⟨hs.1 j hj, (hr j (.tail _ hj)).2⟩]

/-- **The printed intervals.**  On a list sorted by clock within the 33-bit range, the dump
prints 0 for the first entry and then the distance from each entry's PTS to the previous
one's: the `last = -1` mark and the wrap-aware difference both agree with the plain
intervals. -/
theorem orderedClockDump_diffTicks (l : List OrderedClockItem) (pid : Pid) (hs : ClockSorted l)
    (hr : ∀ i ∈ l, PtsInRange i) : (orderedClockDump l pid).map (·.diffTicks) = clockGaps l := by
  cases l with
  | nil => rfl
  | cons i is =>
    rw [ClockSorted, List.sorted_cons] at hs
    rw [orderedClockDump, orderedClockDumpFrom, List.map_cons, if_pos rfl, clockGaps,
      orderedClockDumpFrom_diffTicks pid is i.clock _ (hr i (.head _)).1 hs.2
        fun j hj => ⟨hs.1 j hj, hr j (.tail _ hj)⟩]

theorem sum_gapsFrom (c : Int) (l : List OrderedClockItem) :
    (gapsFrom c l).sum = ((l.getLast?.map (·.clock)).getD c) - c := by
  induction l generalizing c with
  | nil => simp [gapsFrom]
  | cons i is ih =>
    rw [gapsFrom, List.sum_cons, ih]
    cases is with
    | nil => simp
    | cons j js =>
      simp only [List.getLast?_cons_cons, List.getLast?_eq_getLast _ (List.cons_ne_nil j js),
        Option.map_some', Option.getD_some]
      omega

/-- The intervals of a list add up to its last clock minus its first. -/
theorem sum_clockGaps (i : OrderedClockItem) (is : List OrderedClockItem) :
    (clockGaps (i :: is)).sum = (((i :: is).getLast?.map (·.clock)).getD 0) - i.clock := by
  rw [clockGaps, List.sum_cons, sum_gapsFrom]
  cases is with
  | nil => simp
  | cons j js =>
    simp only [List.getLast?_cons_cons, List.getLast?_eq_getLast _ (List.cons_ne_nil j js),
      Option.map_some', Option.getD_some]
    omega

/-! ## A PID's entries over a run -/

/-- The PTS and filepos a packet hands `ordered_clock_insert` for `x`: a packet on `x` whose
header reaches `processPESHeader` with a PTS. -/
def ptsEntry (cfg : Config) (x : Pid) (q : TsPacket) : Option (Int × Nat) :=
  match headerOf cfg q with
  | some h => if q.pid = x ∧ h.hasPts then some (h.pts, q.filepos) else none
  | none => none

/-- The entries of `x` over a run, numbered from 1 as `pts_count` numbers them. -/
def ptsItems (cfg : Config) (x : Pid) (pkts : List TsPacket) : List OrderedClockItem :=
  (pkts.filterMap (ptsEntry cfg x)).mapIdx fun k e => ⟨k + 1, e.1, e.2⟩

theorem ptsItems_append_singleton (cfg : Config) (x : Pid) (pkts : List TsPacket) (q : TsPacket) :
    ptsItems cfg x (pkts ++ [q]) = ptsItems cfg x pkts ++
      ((ptsEntry cfg x q).map fun e => ⟨(ptsItems cfg x pkts).length + 1, e.1, e.2⟩).toList := by
  unfold ptsItems
  rw [List.filterMap_append, List.mapIdx_append, List.length_mapIdx]
  cases h : ptsEntry cfg x q <;> simp [h, Nat.add_comm]

/-- What a slot records of the entries `items` it has been handed: their number in
`pts_count`, the last one's PTS (0 before the first) as the PTS the next difference is taken
against, and in reorder mode, once there is one, the list `orderedClockRun` of them. -/
def PtsTrack (cfg : Config) (items : List OrderedClockItem) (p : PidSt) : Prop :=
  p.ptsCount = items.length ∧ p.ptsRef.pts = (items.getLast?.map (·.clock)).getD 0 ∧
    p.orderedPtsList = if cfg.orderAscPtsOutput ∧ items ≠ [] then some (orderedClockRun items)
      else none

section
variable {cfg : Config} {items : List OrderedClockItem}

/-- The step lemma: one header adds its entry when it carries a PTS. -/
theorem ptsTrack_processPESHeader {p : PidSt} (hp : PtsTrack cfg items p) (scrNow : Int) (x : Pid)
    (filepos : Nat) (prior : Int) (h : PesHeader) :
    PtsTrack cfg (items ++ if h.hasPts then [⟨items.length + 1, h.pts, filepos⟩] else [])
      (processPESHeader cfg scrNow x filepos prior p h).1 := by
  obtain ⟨hc, hr, hl⟩ := hp
  rw [processPESHeader_slot]
  cases hP : h.hasPts
  · simpa [PtsTrack, PidSt.ptsRef, hP] using ⟨hc, hr, hl⟩
  · refine ⟨by simp [hc], by simp [PidSt.ptsRef, hP], ?_⟩
    cases hA : cfg.orderAscPtsOutput
    · simpa [hA] using hl
    · rcases items.eq_nil_or_concat' with rfl | ⟨is, i, rfl⟩
      · simp [hc, orderedClockRun, orderedClockInsert]
      · simp [hc, hl, hA, orderedClockRun, List.foldl_append]

theorem ptsTrack_slotStep {ctx : Ctx} {q : TsPacket} (hp : PtsTrack cfg items (ctx.pids q.pid)) :
    PtsTrack cfg (items ++ ((ptsEntry cfg q.pid q).map fun e =>
      ⟨items.length + 1, e.1, e.2⟩).toList) (slotStep cfg ctx q) := by
  cases e : headerOf cfg q with
  | none =>
    obtain ⟨c, a, b, hs⟩ := slotStep_of_headerOf_none e ctx
    rw [hs, ptsEntry, e]
    simpa using hp
  | some h =>
    rw [slotStep_of_headerOf_some e, ptsEntry, e]
    have hp' : PtsTrack cfg items { slotStats cfg q (ctx.pids q.pid) with
        scrAtPesUnitHeader := scrAt cfg ctx q } := by
      rw [slotStats_eq]; exact hp
    have := ptsTrack_processPESHeader hp' (scrAt cfg ctx q) q.pid q.filepos
      (priorTicks (slotStats cfg q (ctx.pids q.pid))) h
    cases hP : h.hasPts <;> simpa [hP] using this

end

theorem ptsEntry_of_ne {cfg : Config} {x : Pid} {q : TsPacket} (hx : x ≠ q.pid) :
    ptsEntry cfg x q = none := by
  unfold ptsEntry; split <;> simp [Ne.symm hx]

/-- The run lemma: after any run, the slot of `x` tracks the entries of `x`. -/
theorem inspect_ptsTrack (cfg : Config) (pkts : List TsPacket) (x : Pid) :
    PtsTrack cfg (ptsItems cfg x pkts) ((inspect cfg pkts).1.pids x) := by
  induction pkts using List.reverseRecOn with
  | nil => exact ⟨rfl, rfl, by simp [inspect, Ctx.init, ptsItems]⟩
  | append_singleton pre q ih =>
    rw [inspect_append, inspectPacket_pids, ptsItems_append_singleton]
    by_cases hx : x = q.pid
    · subst hx; rw [if_pos rfl]; exact ptsTrack_slotStep ih
    · rw [if_neg hx]; simpa [ptsEntry_of_ne hx] using ih

/-! ## The PTS report -/

/-- The columns `PTS #`, filepos, PTS and TICKS of a `PTS #` line of PID `x`. -/
def Event.ptsLineOf (x : Pid) : Event → Option (Nat × Nat × Int × Int)
  | .ptsLine n filepos y pts diffTicks _ _ => if y = x then some (n, filepos, pts, diffTicks) else none
  | _ => none

/-- Those columns for the entries `items` after an entry with PTS `prev`: each entry's
number, filepos and PTS, and its difference from the previous PTS, corrected for the wrap. -/
def ptsReportFrom (prev : Int) : List OrderedClockItem → List (Nat × Nat × Int × Int)
  | [] => []
  | i :: is => (i.nr, i.filepos, i.clock, wrapPtsDiff (ptsDiff prev i.clock)) ::
    ptsReportFrom i.clock is

theorem ptsReportFrom_append_singleton (i : OrderedClockItem) (items : List OrderedClockItem) :
    ∀ prev, ptsReportFrom prev (items ++ [i]) = ptsReportFrom prev items ++
      [(i.nr, i.filepos, i.clock,
        wrapPtsDiff (ptsDiff ((items.getLast?.map (·.clock)).getD prev) i.clock))] := by
  induction items with
  | nil => intro prev; rfl
  | cons j js ih =>
    intro prev
    rw [List.cons_append, ptsReportFrom, ih, ptsReportFrom, List.cons_append, List.getLast?_cons]
    cases js.getLast? <;> rfl

section
variable (cfg : Config) (scrNow : Int) (y : Pid) (filepos : Nat) (p : PidSt) (x : Pid)

theorem filterMap_ptsLineOf_latchEvents : (latchEvents cfg y p).filterMap (Event.ptsLineOf x) = [] := by
  simp [latchEvents, apply_ite (List.filterMap (Event.ptsLineOf x)), Event.ptsLineOf]

theorem filterMap_ptsLineOf_reportDts (ms : Int) :
    (reportDts cfg scrNow y filepos ms p).2.filterMap (Event.ptsLineOf x) = [] := by
  simp [reportDts, apply_ite (List.filterMap (Event.ptsLineOf x)), Event.ptsLineOf]

theorem filterMap_ptsLineOf_reportPts (prior ms : Int) :
    (reportPts cfg scrNow y filepos prior ms p).2.filterMap (Event.ptsLineOf x) =
      if y = x ∧ cfg.orderAscPtsOutput = false then
        [(p.ptsCount, filepos, p.pes.pts, p.ptsDiffTicks)] else [] := by
  by_cases hy : y = x <;> cases hA : cfg.orderAscPtsOutput <;>
    simp [reportPts, hy, hA, apply_ite (List.filterMap (Event.ptsLineOf x)), Event.ptsLineOf,
      List.filterMap_cons]

/-- The `PTS #` line of one header: for a header with a PTS outside reorder mode, numbered
after the slot's count and with its difference from the slot's reference PTS. -/
theorem filterMap_ptsLineOf_processPESHeader (prior : Int) (h : PesHeader) :
    (processPESHeader cfg scrNow y filepos prior p h).2.filterMap (Event.ptsLineOf x) =
      if y = x ∧ h.hasPts ∧ cfg.orderAscPtsOutput = false then
        [(p.ptsCount + 1, filepos, h.pts, wrapPtsDiff (ptsDiff p.ptsRef.pts h.pts))] else [] := by
  rw [processPESHeader_snd, List.filterMap_append, List.filterMap_append,
    filterMap_ptsLineOf_latchEvents]
  cases hP : h.hasPts
  · have hD : h.hasDts = false := by
      cases hD : h.hasDts
      · rfl
      · simp [PesHeader.hasPts_of_hasDts hD] at hP
    simp [hD]
  · simp only [if_true, filterMap_ptsLineOf_reportPts, apply_ite (List.filterMap (Event.ptsLineOf x)),
      filterMap_ptsLineOf_reportDts, List.filterMap_nil, ite_self, List.nil_append, List.append_nil,
      true_and]
    cases h.hasDts <;> rfl

end

theorem filterMap_ptsLineOf_statsEvents (cfg : Config) (ctx : Ctx) (q : TsPacket) (x : Pid) :
    (statsEvents cfg ctx q).filterMap (Event.ptsLineOf x) = [] :=
  List.filterMap_eq_nil_iff.2 fun e he => by
    rcases mem_statsEvents he with ⟨_, _, _, rfl⟩ | ⟨_, _, _, _, rfl⟩ <;> rfl

/-- The `PTS #` line a packet prints for `x`: one for an entry of `x`, numbered after the
slot's count and with its difference from the slot's reference PTS, unless in reorder mode. -/
theorem filterMap_ptsLineOf_inspectPacket (cfg : Config) (ctx : Ctx) (q : TsPacket) (x : Pid) :
    (inspectPacket cfg ctx q).2.filterMap (Event.ptsLineOf x) =
      if cfg.orderAscPtsOutput then [] else ((ptsEntry cfg x q).map fun e =>
        ((ctx.pids x).ptsCount + 1, e.2, e.1, wrapPtsDiff (ptsDiff (ctx.pids x).ptsRef.pts e.1))).toList := by
  rw [inspectPacket_snd]
  cases e : headerOf cfg q with
  | none => simp [slotEvents_of_headerOf_none e, filterMap_ptsLineOf_statsEvents, ptsEntry, e]
  | some h =>
    rw [slotEvents_of_headerOf_some e, List.filterMap_append, filterMap_ptsLineOf_statsEvents,
      filterMap_ptsLineOf_processPESHeader, slotStats_eq, ptsEntry, e]
    by_cases hx : q.pid = x
    · subst hx
      cases hP : h.hasPts <;> cases cfg.orderAscPtsOutput <;> simp [hP, PidSt.withCounters, PidSt.ptsRef]
    · simp [hx]

/-- **The PTS report of a PID.**  For every configuration and packet sequence, the `PTS #` lines
printed for PID `x` are, outside reorder mode, one per header with a PTS that a packet on `x`
handed `processPESHeader`, in order: numbered from 1, each with its packet's filepos, its PTS
and its difference from the previous PTS of `x` corrected for the wrap, the first taken from
0.  In reorder mode none is printed.  The line's two other columns, the SCR ms since the
previous header and the PTS minus the PCR of the SCR PID, which that PID's packets change, are
not among these four. -/
theorem inspect_ptsLines (cfg : Config) (pkts : List TsPacket) (x : Pid) :
    (inspect cfg pkts).2.filterMap (Event.ptsLineOf x) =
      if cfg.orderAscPtsOutput then [] else ptsReportFrom 0 (ptsItems cfg x pkts) := by
  induction pkts using List.reverseRecOn with
  | nil => cases cfg.orderAscPtsOutput <;> rfl
  | append_singleton pre q ih =>
    obtain ⟨hc, hr, -⟩ := inspect_ptsTrack cfg pre x
    rw [inspect_append, List.filterMap_append, ih, filterMap_ptsLineOf_inspectPacket,
      ptsItems_append_singleton]
    cases cfg.orderAscPtsOutput
    · cases ptsEntry cfg x q with
      | none => simp
      | some e => simp [ptsReportFrom_append_singleton, hc, hr]
    · rfl

/-! ## The DTS report -/

/-- The header with a PTS that a packet on `x` hands `processPESHeader`, with the packet's
filepos. -/
def ptsHeader (cfg : Config) (x : Pid) (q : TsPacket) : Option (PesHeader × Nat) :=
  match headerOf cfg q with
  | some h => if q.pid = x ∧ h.hasPts then some (h, q.filepos) else none
  | none => none

theorem ptsEntry_eq_map (cfg : Config) (x : Pid) (q : TsPacket) :
    ptsEntry cfg x q = (ptsHeader cfg x q).map fun e => (e.1.pts, e.2) := by
  unfold ptsEntry ptsHeader
  split
  · split <;> rfl
  · rfl

/-- The columns `DTS #`, filepos, DTS and TICKS of a `DTS #` line of PID `x`. -/
def Event.dtsLineOf (x : Pid) : Event → Option (Nat × Nat × Int × Int)
  | .dtsLine n filepos y dts diffTicks _ _ => if y = x then some (n, filepos, dts, diffTicks) else none
  | _ => none

/-- Those columns for the headers with a PTS `hs` after `n` of them, the last being `prev`:
a line for each header with a DTS, numbered by the headers with a PTS, with the distance to
its DTS from the DTS field of the header with a PTS before it. -/
def dtsReportFrom (prev : PesHeader) (n : Nat) : List (PesHeader × Nat) → List (Nat × Nat × Int × Int)
  | [] => []
  | (h, filepos) :: hs =>
    (if h.hasDts then [(n + 1, filepos, h.dts, ptsDiff prev.dts h.dts)] else []) ++
      dtsReportFrom h (n + 1) hs

theorem dtsReportFrom_append_singleton (h : PesHeader) (filepos : Nat) (hs : List (PesHeader × Nat)) :
    ∀ prev n, dtsReportFrom prev n (hs ++ [(h, filepos)]) = dtsReportFrom prev n hs ++
      if h.hasDts then
        [(n + hs.length + 1, filepos, h.dts, ptsDiff ((hs.getLast?.map (·.1)).getD prev).dts h.dts)]
      else [] := by
  induction hs with
  | nil => intro prev n; simp [dtsReportFrom]
  | cons e es ih =>
    intro prev n
    obtain ⟨h', fp⟩ := e
    rw [List.cons_append, dtsReportFrom, ih, dtsReportFrom, List.append_assoc, List.getLast?_cons,
      List.length_cons, show n + 1 + es.length = n + (es.length + 1) by omega]
    cases es.getLast? <;> rfl

theorem processPESHeader_ptsRef (cfg : Config) (scrNow : Int) (y : Pid) (filepos : Nat)
    (prior : Int) (p : PidSt) (h : PesHeader) :
    (processPESHeader cfg scrNow y filepos prior p h).1.ptsRef = if h.hasPts then h else p.ptsRef := by
  rw [processPESHeader_slot]; simp only [PidSt.ptsRef]

theorem slotStep_ptsRef (cfg : Config) (ctx : Ctx) (q : TsPacket) :
    (slotStep cfg ctx q).ptsRef = ((ptsHeader cfg q.pid q).map (·.1)).getD (ctx.pids q.pid).ptsRef := by
  cases e : headerOf cfg q with
  | none =>
    obtain ⟨c, a, b, hs⟩ := slotStep_of_headerOf_none e ctx
    rw [hs, ptsHeader, e]; rfl
  | some h =>
    rw [slotStep_of_headerOf_some e, processPESHeader_ptsRef, ptsHeader, e]
    cases hP : h.hasPts <;> simp [hP, slotStats_eq, PidSt.withCounters, PidSt.ptsRef]

/-- After any run, the PTS the slot of `x` takes differences against is that of the last
header with a PTS on `x` (the zeroed one before the first). -/
theorem inspect_ptsRef (cfg : Config) (pkts : List TsPacket) (x : Pid) :
    ((inspect cfg pkts).1.pids x).ptsRef =
      ((pkts.filterMap (ptsHeader cfg x)).getLast?.map (·.1)).getD PesHeader.zero := by
  induction pkts using List.reverseRecOn with
  | nil => rfl
  | append_singleton pre q ih =>
    rw [inspect_append, inspectPacket_pids, List.filterMap_append]
    by_cases hx : x = q.pid
    · subst hx
      rw [if_pos rfl, slotStep_ptsRef, ih, List.filterMap_cons, List.filterMap_nil]
      cases ptsHeader cfg q.pid q with
      | none => rw [List.append_nil]; rfl
      | some e => rw [List.getLast?_concat]; rfl
    · have : ptsHeader cfg x q = none := by
        unfold ptsHeader; split <;> simp [Ne.symm hx]
      simpa [hx, this] using ih

section
variable (cfg : Config) (scrNow : Int) (y : Pid) (filepos : Nat) (p : PidSt) (x : Pid)

theorem filterMap_dtsLineOf_latchEvents : (latchEvents cfg y p).filterMap (Event.dtsLineOf x) = [] := by
  simp [latchEvents, apply_ite (List.filterMap (Event.dtsLineOf x)), Event.dtsLineOf]

theorem filterMap_dtsLineOf_reportPts (prior ms : Int) :
    (reportPts cfg scrNow y filepos prior ms p).2.filterMap (Event.dtsLineOf x) = [] := by
  simp [reportPts, apply_ite (List.filterMap (Event.dtsLineOf x)), Event.dtsLineOf,
    List.filterMap_cons]

theorem filterMap_dtsLineOf_reportDts (ms : Int) :
    (reportDts cfg scrNow y filepos ms p).2.filterMap (Event.dtsLineOf x) =
      if y = x then [(p.ptsCount, filepos, p.pes.dts, p.dtsDiffTicks)] else [] := by
  by_cases hy : y = x <;>
    simp [reportDts, hy, apply_ite (List.filterMap (Event.dtsLineOf x)), Event.dtsLineOf]

/-- The `DTS #` line of one header: for a header with a DTS, numbered after the slot's PTS
count and with its distance from the DTS field of the slot's reference header. -/
theorem filterMap_dtsLineOf_processPESHeader (prior : Int) (h : PesHeader) :
    (processPESHeader cfg scrNow y filepos prior p h).2.filterMap (Event.dtsLineOf x) =
      if y = x ∧ h.hasDts then
        [(p.ptsCount + 1, filepos, h.dts, ptsDiff p.ptsRef.dts h.dts)] else [] := by
  rw [processPESHeader_snd, List.filterMap_append, List.filterMap_append,
    filterMap_dtsLineOf_latchEvents, apply_ite (List.filterMap (Event.dtsLineOf x)),
    filterMap_dtsLineOf_reportPts]
  cases hD : h.hasDts
  · simp
  · simp only [if_true, filterMap_dtsLineOf_reportDts, PesHeader.hasPts_of_hasDts hD, and_true,
      List.filterMap_nil, ite_self, List.nil_append]
    rfl

end

theorem filterMap_dtsLineOf_statsEvents (cfg : Config) (ctx : Ctx) (q : TsPacket) (x : Pid) :
    (statsEvents cfg ctx q).filterMap (Event.dtsLineOf x) = [] :=
  List.filterMap_eq_nil_iff.2 fun e he => by
    rcases mem_statsEvents he with ⟨_, _, _, rfl⟩ | ⟨_, _, _, _, rfl⟩ <;> rfl

theorem filterMap_dtsLineOf_inspectPacket (cfg : Config) (ctx : Ctx) (q : TsPacket) (x : Pid) :
    (inspectPacket cfg ctx q).2.filterMap (Event.dtsLineOf x) =
      match ptsHeader cfg x q with
      | some (h, filepos) => if h.hasDts then
          [((ctx.pids x).ptsCount + 1, filepos, h.dts, ptsDiff (ctx.pids x).ptsRef.dts h.dts)]
        else []
      | none => [] := by
  rw [inspectPacket_snd]
  cases e : headerOf cfg q with
  | none => simp [slotEvents_of_headerOf_none e, filterMap_dtsLineOf_statsEvents, ptsHeader, e]
  | some h =>
    rw [slotEvents_of_headerOf_some e, List.filterMap_append, filterMap_dtsLineOf_statsEvents,
      filterMap_dtsLineOf_processPESHeader, slotStats_eq, ptsHeader, e]
    by_cases hx : q.pid = x
    · subst hx
      cases hD : h.hasDts
      · cases hP : h.hasPts <;> simp [hD, hP]
      · simp [hD, PesHeader.hasPts_of_hasDts hD, PidSt.withCounters, PidSt.ptsRef]
    · simp [hx]

/-- **The DTS report of a PID.**  For every configuration and packet sequence, the `DTS #` lines
printed for PID `x` are one per header with a DTS that a packet on `x` hands
`processPESHeader`, in order, in reorder mode too.  Each is numbered by the PID's PTS count,
and its TICKS are the distance to its DTS from the DTS field of the PID's previous header
with a PTS, whether or not that header carried a DTS (the zeroed header before the first). -/
theorem inspect_dtsLines (cfg : Config) (pkts : List TsPacket) (x : Pid) :
    (inspect cfg pkts).2.filterMap (Event.dtsLineOf x) =
      dtsReportFrom PesHeader.zero 0 (pkts.filterMap (ptsHeader cfg x)) := by
  induction pkts using List.reverseRecOn with
  | nil => rfl
  | append_singleton pre q ih =>
    have hc : ((inspect cfg pre).1.pids x).ptsCount = (pre.filterMap (ptsHeader cfg x)).length := by
      rw [(inspect_ptsTrack cfg pre x).1, ptsItems, List.length_mapIdx]
      simp only [funext (ptsEntry_eq_map cfg x), ← List.map_filterMap, List.length_map]
    rw [inspect_append, List.filterMap_append, ih, filterMap_dtsLineOf_inspectPacket,
      List.filterMap_append, inspect_ptsRef, hc, List.filterMap_cons, List.filterMap_nil]
    cases ptsHeader cfg x q with
    | none => rw [List.append_nil, List.append_nil]
    | some e =>
      obtain ⟨h, fp⟩ := e
      rw [dtsReportFrom_append_singleton, Nat.zero_add]

/-- A PTS-only header between two with a DTS: the second `DTS #` line is numbered 3 and its
distance, 7200, is taken from the DTS field 0 of the PTS-only header, not from the DTS 3600
before it. -/
example : (inspect (Config.ofOptions 0 [.pes]) [⟨0, 0x100, true, 1, 0, none, some ⟨3, 7200, 3600⟩⟩,
      ⟨188, 0x100, true, 1, 1, none, some ⟨2, 3600, 0⟩⟩,
      ⟨376, 0x100, true, 1, 2, none, some ⟨3, 14400, 7200⟩⟩]).2.filterMap (Event.dtsLineOf 0x100) =
    [(1, 0, 3600, 3600), (3, 376, 7200, 7200)] := by
  decide

theorem dtsClockWarning_not_mem_statsEvents (cfg : Config) (ctx : Ctx) (q : TsPacket) (n : Nat)
    (l ms : Int) : .dtsClockWarning n l ms ∉ statsEvents cfg ctx q := fun h => by
  rcases mem_statsEvents h with ⟨_, _, _, e⟩ | ⟨_, _, _, _, e⟩ <;> cases e

/-- **The 90 kHz DTS check over a run.**  At a packet that hands `processPESHeader` a header,
after any run, the DTS warning is printed exactly when the header has a DTS whose distance
from the DTS field of the PID's previous header with a PTS reaches the threshold in ms; the
value it prints is not that distance but the PTS difference of the header. -/
theorem inspect_dtsClockWarning (cfg : Config) (pre : List TsPacket) {q : TsPacket}
    {h : PesHeader} (hq : headerOf cfg q = some h) (n : Nat) (l ms : Int) :
    .dtsClockWarning n l ms ∈ (inspectPacket cfg (inspect cfg pre).1 q).2 ↔
      h.hasDts ∧ cfg.maxAllowablePTSDTSDrift ≤ ptsTicksToMs (ptsDiff
          (((pre.filterMap (ptsHeader cfg q.pid)).getLast?.map (·.1)).getD PesHeader.zero).dts h.dts) ∧
        n = ((inspect cfg pre).1.pids q.pid).dtsCount + 1 ∧ l = cfg.maxAllowablePTSDTSDrift ∧
        ms = ptsTicksToMs (wrapPtsDiff (ptsDiff
          (((pre.filterMap (ptsHeader cfg q.pid)).getLast?.map (·.1)).getD PesHeader.zero).pts h.pts)) := by
  rw [inspectPacket_snd, slotEvents_of_headerOf_some hq, List.mem_append,
    processPESHeader_dtsClockWarning, ← inspect_ptsRef]
  simp only [dtsClockWarning_not_mem_statsEvents, false_or, slotStats_eq]
  rfl

/-- A first header on `0x100` with PTS 2 s and DTS 1 s: the DTS distance from the zeroed
header, 1000 ms, passes 700 ms, and the warning prints 2000 ms, the PTS distance. -/
theorem inspect_dtsClockWarning_first :
    .dtsClockWarning 1 700 2000 ∈ (inspectPacket (Config.ofOptions 0 [.pes])
      (inspect (Config.ofOptions 0 [.pes]) []).1 ⟨0, 0x100, true, 1, 0, none, some ⟨3, 180000, 90000⟩⟩).2 :=
  (@inspect_dtsClockWarning (Config.ofOptions 0 [.pes]) [] ⟨0, 0x100, true, 1, 0, none, some ⟨3, 180000, 90000⟩⟩
    ⟨3, 180000, 90000⟩ rfl 1 700 2000).2 ⟨rfl, by decide, rfl, rfl, by decide⟩

/-- The header the 90 kHz differences of `x` are taken against after a run: the PID's last
header with a PTS, the zeroed one before the first. -/
def lastPtsHeader (cfg : Config) (x : Pid) (pkts : List TsPacket) : PesHeader :=
  ((pkts.filterMap (ptsHeader cfg x)).getLast?.map (·.1)).getD PesHeader.zero

@[simp] theorem slot_ptsRef (cfg : Config) (ctx : Ctx) (q : TsPacket) :
    ({ slotStats cfg q (ctx.pids q.pid) with scrAtPesUnitHeader := scrAt cfg ctx q } : PidSt).ptsRef =
      (ctx.pids q.pid).ptsRef := by
  rw [slotStats_eq]; rfl

@[simp] theorem slotStats_ptsCount (cfg : Config) (q : TsPacket) (p : PidSt) :
    (slotStats cfg q p).ptsCount = p.ptsCount := by
  rw [slotStats_eq]; rfl

theorem ptsClockWarning_not_mem_statsEvents (cfg : Config) (ctx : Ctx) (q : TsPacket) (n : Nat)
    (l ms : Int) : .ptsClockWarning n l ms ∉ statsEvents cfg ctx q := fun h => by
  rcases mem_statsEvents h with ⟨_, _, _, e⟩ | ⟨_, _, _, _, e⟩ <;> cases e

/-- **The 90 kHz PTS check over a run.**  With a positive threshold, at a packet that hands
`processPESHeader` a header, after any run, the PTS warning is printed exactly when the header
has a PTS whose forward distance from the PID's last PTS lies between the threshold and 10 s.
A PTS that steps back, or jumps forward by more than 10 s, is never reported. -/
theorem inspect_ptsClockWarning (cfg : Config) (hl : 0 < cfg.maxAllowablePTSDTSDrift)
    (pre : List TsPacket) {q : TsPacket} {h : PesHeader} (hq : headerOf cfg q = some h) (n : Nat)
    (l ms : Int) :
    .ptsClockWarning n l ms ∈ (inspectPacket cfg (inspect cfg pre).1 q).2 ↔
      h.hasPts ∧ 90 * cfg.maxAllowablePTSDTSDrift ≤ ptsDiff (lastPtsHeader cfg q.pid pre).pts h.pts ∧
        ptsDiff (lastPtsHeader cfg q.pid pre).pts h.pts ≤ 10 * 90000 ∧
        n = ((inspect cfg pre).1.pids q.pid).ptsCount + 1 ∧ l = cfg.maxAllowablePTSDTSDrift ∧
        ms = ptsDiff (lastPtsHeader cfg q.pid pre).pts h.pts / 90 := by
  rw [inspectPacket_snd, slotEvents_of_headerOf_some hq, List.mem_append,
    processPESHeader_ptsClockWarning, slot_ptsRef, lastPtsHeader, ← inspect_ptsRef]
  simp only [ptsClockWarning_not_mem_statsEvents, false_or, slotStats_ptsCount]
  have h₀ := ptsDiff_nonneg ((inspect cfg pre).1.pids q.pid).ptsRef.pts h.pts
  rw [le_ptsTicksToMs_wrapPtsDiff_iff hl h₀ (ptsDiff_lt _ _)]
  constructor
  · rintro ⟨hP, ⟨h₁, h₂⟩, hn, hl', rfl⟩
    exact ⟨hP, h₁, h₂, hn, hl', ptsTicksToMs_wrapPtsDiff_of_le h₀ h₂⟩
  · rintro ⟨hP, h₁, h₂, hn, hl', rfl⟩
    exact ⟨hP, ⟨h₁, h₂⟩, hn, hl', (ptsTicksToMs_wrapPtsDiff_of_le h₀ h₂).symm⟩

/-- A second header on `0x100` one second after the first: 90000 ticks, between 700 ms and
10 s, warn with 1000 ms. -/
theorem inspect_ptsClockWarning_second :
    .ptsClockWarning 2 700 1000 ∈ (inspectPacket (Config.ofOptions 0 [.pes])
      (inspect (Config.ofOptions 0 [.pes]) [⟨0, 0x100, true, 1, 0, none, some ⟨2, 0, 0⟩⟩]).1
        ⟨188, 0x100, true, 1, 1, none, some ⟨2, 90000, 0⟩⟩).2 :=
  (@inspect_ptsClockWarning (Config.ofOptions 0 [.pes]) (by decide)
    [⟨0, 0x100, true, 1, 0, none, some ⟨2, 0, 0⟩⟩] ⟨188, 0x100, true, 1, 1, none, some ⟨2, 90000, 0⟩⟩
    ⟨2, 90000, 0⟩ rfl 2 700 1000).2 ⟨rfl, by decide, by decide, rfl, rfl, by decide⟩

/-- A jump of 11 s forward is taken as a step back: no PTS warning. -/
example : (inspect (Config.ofOptions 0 [.pes]) [⟨0, 0x100, true, 1, 0, none, some ⟨2, 0, 0⟩⟩,
    ⟨188, 0x100, true, 1, 1, none, some ⟨2, 990000, 0⟩⟩]).2.all
      (fun e => match e with | .ptsClockWarning .. => false | _ => true) := by
  decide

/-! ## The dump at shutdown -/

theorem mem_foldl_sortedInsert {z : OrderedClockItem} (xs : List OrderedClockItem) :
    ∀ l, z ∈ xs.foldl (fun l x => sortedInsert x l) l ↔ z ∈ l ∨ z ∈ xs := by
  induction xs with
  | nil => simp
  | cons y ys ih => intro l; simp only [List.foldl_cons, ih, mem_sortedInsert, List.mem_cons]; tauto

theorem firstIsMin_foldl_sortedInsert {c : Int} (xs : List OrderedClockItem)
    (hxs : ∀ y ∈ xs, c ≤ y.clock) :
    ∀ l, FirstIsMin c l → FirstIsMin c (xs.foldl (fun l x => sortedInsert x l) l) := by
  induction xs with
  | nil => intro l h; exact h
  | cons y ys ih =>
    intro l h
    exact ih (fun w hw => hxs w (.tail _ hw)) _ (firstIsMin_sortedInsert h (hxs y (.head _)))

/-- The list reorder mode builds from a PID's entries `i₀ :: is`: sorted, every clock at least
`i₀.clock`, which its head carries, and every entry one of the PID's. -/
theorem orderedClockRun_spec (i₀ : OrderedClockItem) (is : List OrderedClockItem) :
    FirstIsMin i₀.clock (orderedClockRun (i₀ :: is)) ∧
      ∀ z ∈ orderedClockRun (i₀ :: is), z ∈ i₀ :: is := by
  rw [orderedClockRun_cons, stableSortByClock, List.foldl_cons]
  have h₀ : FirstIsMin i₀.clock (sortedInsert i₀ []) :=
    ⟨List.sorted_singleton i₀, by simp [sortedInsert], i₀, by simp [sortedInsert], rfl⟩
  refine ⟨firstIsMin_foldl_sortedInsert _ (fun y hy => by simpa using (List.mem_filter.1 hy).2) _ h₀,
    fun z hz => ?_⟩
  rcases (mem_foldl_sortedInsert _ _).1 hz with hz | hz
  · simp_all [sortedInsert]
  · exact .tail _ (List.mem_filter.1 hz).1

theorem FirstIsMin.head_clock {c : Int} {j : OrderedClockItem} {js : List OrderedClockItem}
    (h : FirstIsMin c (j :: js)) : j.clock = c := by
  obtain ⟨hs, hmin, z, hz, rfl⟩ := h
  rw [ClockSorted, List.sorted_cons] at hs
  rcases List.mem_cons.1 hz with rfl | hz
  · rfl
  · exact le_antisymm (hs.1 z hz) (hmin j (.head _))

instance (i : OrderedClockItem) : Decidable (PtsInRange i) :=
  inferInstanceAs (Decidable (0 ≤ i.clock ∧ i.clock < maxPtsValue))

/-- **The reorder-mode dump.**  For every packet sequence in reorder mode and every PID `x`
whose entries `i₀ :: is` carry PTS values of the 33-bit range, the list `ordered_clock_dump`
prints for `x` at shutdown is the stable sort by PTS of the first entry and of the later
entries at least as large; the printed `diffTicks` are its display-order intervals, which
add up to its largest PTS minus the first. -/
theorem inspect_orderedClockDump (cfg : Config) (pkts : List TsPacket) (x : Pid)
    (hA : cfg.orderAscPtsOutput = true) (i₀ : OrderedClockItem) (is : List OrderedClockItem)
    (hx : ptsItems cfg x pkts = i₀ :: is) (hr : ∀ i ∈ i₀ :: is, PtsInRange i) :
    ∃ l, ((inspect cfg pkts).1.pids x).orderedPtsList = some l ∧
      l = stableSortByClock (i₀ :: is.filter fun y => i₀.clock ≤ y.clock) ∧
      (orderedClockDump l x).map (·.diffTicks) = clockGaps l ∧
      ((orderedClockDump l x).map (·.diffTicks)).sum =
        (l.getLast?.map (·.clock)).getD 0 - i₀.clock := by
  have hl := (inspect_ptsTrack cfg pkts x).2.2
  rw [hx, if_pos ⟨hA, List.cons_ne_nil _ _⟩] at hl
  obtain ⟨hm, hmem⟩ := orderedClockRun_spec i₀ is
  have hd := orderedClockDump_diffTicks _ x hm.1 fun i hi => hr i (hmem i hi)
  refine ⟨_, hl, orderedClockRun_cons i₀ is, hd, ?_⟩
  obtain ⟨z, hz, -⟩ := hm.2.2
  obtain ⟨j, js, hj⟩ := List.exists_cons_of_ne_nil (List.ne_nil_of_mem hz)
  rw [hj] at hm
  rw [hd, hj, sum_clockGaps, hm.head_clock]

/-- Three PTS headers on PID `0x100` with `-p -R`: the PTS 3600, 10800 and 7200 are dumped as
3600, 7200, 10800 with intervals 0, 3600 and 3600. -/
theorem inspect_orderedClockDump_three :
    ∃ l, ((inspect (Config.ofOptions 0 [.pes, .reorder])
        [⟨0, 0x100, true, 1, 0, none, some ⟨2, 3600, 0⟩⟩,
          ⟨188, 0x100, true, 1, 1, none, some ⟨2, 10800, 0⟩⟩,
          ⟨376, 0x100, true, 1, 2, none, some ⟨2, 7200, 0⟩⟩]).1.pids 0x100).orderedPtsList =
        some l ∧
      l = stableSortByClock (⟨1, 3600, 0⟩ :: [⟨2, 10800, 188⟩, ⟨3, 7200, 376⟩].filter
        fun y => (3600 : Int) ≤ y.clock) ∧
      (orderedClockDump l 0x100).map (·.diffTicks) = clockGaps l ∧
      ((orderedClockDump l 0x100).map (·.diffTicks)).sum =
        (l.getLast?.map (·.clock)).getD 0 - 3600 :=
  inspect_orderedClockDump _ _ _ rfl ⟨1, 3600, 0⟩ [⟨2, 10800, 188⟩, ⟨3, 7200, 376⟩]
    (by decide) (by decide)

end TsTools
