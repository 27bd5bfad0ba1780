import TsTools.Inspector.Run

/-!
# The PES pipeline's resources are created before use, and once

`processPESHeader` creates a PID's trends (`kllineartrend_alloc` with the
`trendLock`'s `pthread_mutex_init`) lazily in its latches, from the flags of the
*previous* header in `p->pes`, while it uses them (`pthread_mutex_lock`,
`kllineartrend_add`) from the flags of the *current* header once the trend's
counter passes 16.  In reorder mode it runs `ordered_clock_init` at a PID's first
PTS and `ordered_clock_insert` at each; the shutdown runs `ordered_clock_dump` on
the list of every PID with a PTS (lines 1647–1654).

The calls are read off the trace as `Act`s and checked by the monitor
`monitorStep`, which rejects a use of a resource that does not exist and a second
creation of one that does.

* `usedAfterCreated_createdOnce` — a trace the monitor accepts uses every resource
  after creating it and creates none twice;
* `SlotInv` — what a slot keeps true between packets: a trend that has counted a
  sample exists or will be created by the next latch, and the ordered list exists
  exactly when reorder mode has seen a PTS;
* `accepts_processPESHeader` — the step lemma: one header's calls are accepted and
  the monitor's set follows the slot;
* `inspect_resources` — for every configuration and packet sequence, the calls of
  the whole run and of the shutdown are accepted.
-/

namespace TsTools

/-! ## Resource calls and the monitor -/

/-- A per-PID resource: a trend with its `trendLock`, or `ordered_pts_list`. -/
inductive Resource where
  | trend (k : TrendKind)
  | orderedList
  deriving Repr, DecidableEq

/-- A call on a resource of a PID. -/
inductive Act where
  | create (x : Pid) (r : Resource)
  | use (x : Pid) (r : Resource)
  deriving Repr, DecidableEq

/-- The resource call an event is, if any. -/
def Event.act : Event → Option Act
  | .trendAlloc x k _ => some (.create x (.trend k))
  | .trendAdd x k => some (.use x (.trend k))
  | .orderedClockInit x => some (.create x .orderedList)
  | .orderedClockInsert x _ => some (.use x .orderedList)
  | .orderedClockDump x => some (.use x .orderedList)
  | _ => none

/-- Every use of a resource comes after a creation of it. -/
def UsedAfterCreated (calls : List Act) : Prop :=
  ∀ pre post x r, calls = pre ++ .use x r :: post → .create x r ∈ pre

/-- No resource is created twice. -/
def CreatedOnce (calls : List Act) : Prop :=
  ∀ x r, calls.count (.create x r) ≤ 1

/-- The monitor: the resources created so far; `none` on a use of a missing resource or a
second creation. -/
def monitorStep (created : List (Pid × Resource)) : Act → Option (List (Pid × Resource))
  | .create x r => if (x, r) ∈ created then none else some ((x, r) :: created)
  | .use x r => if (x, r) ∈ created then some created else none

theorem monitorStep_use {S S' : List (Pid × Resource)} {x : Pid} {r : Resource}
    (h : monitorStep S (.use x r) = some S') : (x, r) ∈ S ∧ S' = S := by
  simp only [monitorStep] at h; split at h <;> simp_all

theorem monitorStep_create {S S' : List (Pid × Resource)} {x : Pid} {r : Resource}
    (h : monitorStep S (.create x r) = some S') : (x, r) ∉ S ∧ S' = (x, r) :: S := by
  simp only [monitorStep] at h; split at h <;> simp_all

theorem foldlM_monitorStep_cons {S S' : List (Pid × Resource)} {a : Act} {as : List Act}
    (h : (a :: as).foldlM monitorStep S = some S') :
    ∃ S₁, monitorStep S a = some S₁ ∧ as.foldlM monitorStep S₁ = some S' := by
  rw [List.foldlM_cons] at h
  exact Option.bind_eq_some.1 h

/-- What the monitor holds after a trace it accepts was there before or created by it. -/
theorem mem_of_foldlM_monitorStep (pre : List Act) {S S₁ : List (Pid × Resource)}
    (h : pre.foldlM monitorStep S = some S₁) {x : Pid} {r : Resource} (hm : (x, r) ∈ S₁) :
    (x, r) ∈ S ∨ .create x r ∈ pre := by
  induction pre generalizing S with
  | nil => cases h; exact .inl hm
  | cons a as ih =>
    obtain ⟨S₂, h₁, h₂⟩ := foldlM_monitorStep_cons h
    rcases ih h₂ with hm | hm
    · cases a with
      | create y k =>
        obtain ⟨-, rfl⟩ := monitorStep_create h₁
        rcases List.mem_cons.1 hm with he | hm
        · cases he; exact .inr (.head _)
        · exact .inl hm
      | use y k =>
        obtain ⟨-, rfl⟩ := monitorStep_use h₁
        exact .inl hm
    · exact .inr (.tail _ hm)

/-- A trace the monitor accepts from `S` uses only what `S` holds or the trace created
before. -/
theorem monitor_uses {calls : List Act} {S S' : List (Pid × Resource)}
    (h : calls.foldlM monitorStep S = some S') {pre post : List Act} {x : Pid} {r : Resource}
    (he : calls = pre ++ .use x r :: post) : (x, r) ∈ S ∨ .create x r ∈ pre := by
  subst he
  rw [List.foldlM_append] at h
  obtain ⟨S₁, h₁, h₂⟩ := Option.bind_eq_some.1 h
  obtain ⟨_, h₃, -⟩ := foldlM_monitorStep_cons h₂
  exact mem_of_foldlM_monitorStep pre h₁ (monitorStep_use h₃).1

/-- A trace the monitor accepts from `S` creates each resource at most once, counting `S`. -/
theorem monitor_creates (calls : List Act) :
    ∀ {S S' : List (Pid × Resource)}, calls.foldlM monitorStep S = some S' →
      ∀ x r, calls.count (.create x r) + (if (x, r) ∈ S then 1 else 0) ≤ 1 := by
  induction calls with
  | nil => intro S S' _ x r; split <;> simp
  | cons a as ih =>
    intro S S' h x r
    obtain ⟨S₁, h₁, h₂⟩ := foldlM_monitorStep_cons h
    have hc := ih h₂ x r
    cases a with
    | create y k =>
      obtain ⟨hn, rfl⟩ := monitorStep_create h₁
      by_cases he : (x, r) = (y, k)
      · cases he; simp_all
      · have hne : Act.create y k ≠ .create x r := fun e => he (by cases e; rfl)
        simp_all [List.count_cons]
    | use y k =>
      obtain ⟨-, rfl⟩ := monitorStep_use h₁
      rwa [List.count_cons_of_ne (by simp)]

/-- **Monitor soundness.**  A trace the monitor accepts from nothing uses every resource after
creating it and creates none twice. -/
theorem usedAfterCreated_createdOnce {calls : List Act} {S' : List (Pid × Resource)}
    (h : calls.foldlM monitorStep [] = some S') : UsedAfterCreated calls ∧ CreatedOnce calls :=
  ⟨fun _ _ _ _ e => (monitor_uses h e).resolve_left (List.not_mem_nil _),
    fun x r => by simpa using monitor_creates calls h x r⟩

/-! ## What a slot has created -/

/-- Whether the slot's resource exists: a trend once allocated, the list once
`ordered_clock_init` has run. -/
def PidSt.created (p : PidSt) : Resource → Bool
  | .trend .pts => p.trendPts.allocated
  | .trend .dts => p.trendDts.allocated
  | .orderedList => p.orderedPtsList.isSome

/-- What a slot keeps true between packets. -/
structure SlotInv (cfg : Config) (p : PidSt) : Prop where
  trendPts : 0 < p.trendPts.counter → p.trendPts.allocated ∨ p.pes.hasPts
  trendDts : 0 < p.trendDts.counter → p.trendDts.allocated ∨ p.pes.hasDts
  orderedList : p.orderedPtsList.isSome ↔ cfg.orderAscPtsOutput ∧ 0 < p.ptsCount

/-- The monitor's set `S` holds exactly the resources the slot of `x` has created. -/
def Tracks (S : List (Pid × Resource)) (x : Pid) (p : PidSt) : Prop :=
  ∀ r, (x, r) ∈ S ↔ p.created r

/-- The monitor accepts the calls `acts` of a step on the slot of `x` from `S`, ending in a
set that tracks the new slot `p'` and is unchanged on every other PID. -/
def Accepts (S : List (Pid × Resource)) (acts : List Act) (x : Pid) (p' : PidSt) : Prop :=
  ∃ S', acts.foldlM monitorStep S = some S' ∧ Tracks S' x p' ∧
    ∀ y r, y ≠ x → ((y, r) ∈ S' ↔ (y, r) ∈ S)

/-! ## The step lemma -/

theorem filterMap_act_ite {c : Prop} [Decidable c] (l₁ l₂ : List Event) :
    (if c then l₁ else l₂).filterMap Event.act =
      if c then l₁.filterMap Event.act else l₂.filterMap Event.act :=
  apply_ite _ _ _ _

section
variable (cfg : Config) (scrNow : Int) (x : Pid) (filepos : Nat) (prior : Int) (p : PidSt)
  (h : PesHeader)

theorem latchEvents_acts :
    (latchEvents cfg x p).filterMap Event.act =
      (if p.pes.hasPts ∧ p.trendPts.allocated = false then [.create x (.trend .pts)] else []) ++
      (if p.pes.hasDts ∧ p.trendDts.allocated = false then [.create x (.trend .dts)] else []) := by
  simp only [latchEvents, List.filterMap_append, filterMap_act_ite, List.filterMap_cons,
    List.filterMap_nil, Event.act]

theorem reportPts_acts (ms : Int) :
    (reportPts cfg scrNow x filepos prior ms p).2.filterMap Event.act =
      (if 16 < p.trendPts.counter + 1 then [.use x (.trend .pts)] else []) ++
      (if cfg.orderAscPtsOutput then
        (if p.ptsCount = 1 then [.create x .orderedList] else []) ++ [.use x .orderedList]
      else []) := by
  simp only [reportPts, List.filterMap_append, filterMap_act_ite, List.filterMap_cons,
    List.filterMap_nil, Event.act, ite_self, List.append_nil]

theorem reportDts_acts (ms : Int) :
    (reportDts cfg scrNow x filepos ms p).2.filterMap Event.act =
      if 16 < p.trendDts.counter + 1 then [.use x (.trend .dts)] else [] := by
  simp only [reportDts, List.filterMap_append, filterMap_act_ite, List.filterMap_cons,
    List.filterMap_nil, Event.act, ite_self, List.append_nil]

/-- The calls of one `processPESHeader`, in order: the latches' creations, the PTS trend's
use, the list's creation and use, the DTS trend's use. -/
theorem processPESHeader_acts :
    (processPESHeader cfg scrNow x filepos prior p h).2.filterMap Event.act =
      (if p.pes.hasPts ∧ p.trendPts.allocated = false then [.create x (.trend .pts)] else []) ++
      (if p.pes.hasDts ∧ p.trendDts.allocated = false then [.create x (.trend .dts)] else []) ++
      (if h.hasPts ∧ 16 ≤ p.trendPts.counter then [.use x (.trend .pts)] else []) ++
      (if h.hasPts ∧ cfg.orderAscPtsOutput ∧ p.ptsCount = 0 then [.create x .orderedList]
        else []) ++
      (if h.hasPts ∧ cfg.orderAscPtsOutput then [.use x .orderedList] else []) ++
      (if h.hasDts ∧ 16 ≤ p.trendDts.counter then [.use x (.trend .dts)] else []) := by
  rw [processPESHeader_snd]
  simp only [List.filterMap_append, filterMap_act_ite, latchEvents_acts, reportPts_acts,
    reportDts_acts, List.filterMap_nil]
  have e₁ : (16 < p.trendPts.counter + 1) ↔ (16 ≤ p.trendPts.counter) := by omega
  have e₂ : (16 < p.trendDts.counter + 1) ↔ (16 ≤ p.trendDts.counter) := by omega
  cases hD : h.hasDts <;> cases hP : h.hasPts <;> cases hA : cfg.orderAscPtsOutput <;>
    simp [hD, hP, hA, PesHeader.hasPts_of_hasDts, ptsStep, dtsStep, latched, e₁, e₂]

theorem slotInv_processPESHeader (hinv : SlotInv cfg p) :
    SlotInv cfg (processPESHeader cfg scrNow x filepos prior p h).1 := by
  rw [processPESHeader_slot]
  refine ⟨fun hc => ?_, fun hc => ?_, ?_⟩
  · cases hP : h.hasPts
    · simp only [hP] at hc ⊢; simpa using hinv.trendPts (by simpa using hc)
    · simp
  · cases hD : h.hasDts
    · simp only [hD] at hc ⊢; simpa using hinv.trendDts (by simpa using hc)
    · simp
  · have hl := hinv.orderedList
    cases hP : h.hasPts <;> cases hA : cfg.orderAscPtsOutput <;> simp_all
    split_ifs <;> simp_all
    omega

section monitor
variable {S : List (Pid × Resource)}

theorem mem_ite_cons {c : Prop} [Decidable c] (a b : Pid × Resource) (l : List (Pid × Resource)) :
    (a ∈ if c then b :: l else l) ↔ (c ∧ a = b) ∨ a ∈ l := by
  split_ifs <;> simp_all

theorem foldlM_monitorStep_ite {S₁ : List (Pid × Resource)} {c : Prop} [Decidable c] {a : Act}
    (rest : List Act) (h : c → monitorStep S a = some S₁) :
    ((if c then [a] else []) ++ rest).foldlM monitorStep S =
      rest.foldlM monitorStep (if c then S₁ else S) := by
  split_ifs with hc <;> simp [h, hc]

theorem foldlM_monitorStep_use_ite {c : Prop} [Decidable c] {y : Pid} {r : Resource}
    (rest : List Act) (h : c → (y, r) ∈ S) :
    ((if c then [Act.use y r] else []) ++ rest).foldlM monitorStep S =
      rest.foldlM monitorStep S := by
  split_ifs with hc <;> simp [monitorStep, h, hc]

theorem monitorStep_create_of_not_mem {y : Pid} {r : Resource} (h : (y, r) ∉ S) :
    monitorStep S (.create y r) = some ((y, r) :: S) := by
  simp [monitorStep, h]

theorem monitorStep_use_of_mem {y : Pid} {r : Resource} (h : (y, r) ∈ S) :
    monitorStep S (.use y r) = some S := by
  simp [monitorStep, h]

/-- **Step lemma.**  The calls of one header are accepted, and the monitor's set follows the
slot. -/
theorem accepts_processPESHeader (hinv : SlotInv cfg p) (hS : Tracks S x p) :
    Accepts S ((processPESHeader cfg scrNow x filepos prior p h).2.filterMap Event.act) x
      (processPESHeader cfg scrNow x filepos prior p h).1 := by
  have hP := hS (.trend .pts)
  have hD := hS (.trend .dts)
  have hL := hS .orderedList
  simp only [PidSt.created] at hP hD hL
  rw [processPESHeader_acts, processPESHeader_slot]
  simp only [List.append_assoc, Accepts]
  rw [← List.append_nil (ite _ [Act.use x (.trend .dts)] []),
    foldlM_monitorStep_ite _ fun hc => monitorStep_create_of_not_mem (by simpa [hP] using hc.2),
    foldlM_monitorStep_ite _ fun hc => monitorStep_create_of_not_mem (by simpa [mem_ite_cons, hD] using hc.2),
    foldlM_monitorStep_use_ite _ ?pts,
    foldlM_monitorStep_ite _ fun hc => monitorStep_create_of_not_mem ?lnew,
    foldlM_monitorStep_use_ite _ ?luse,
    foldlM_monitorStep_use_ite _ ?dts]
  refine ⟨_, rfl, ?_, ?_⟩
  case pts =>
    intro hc
    have := hinv.trendPts (by omega)
    cases hA : p.trendPts.allocated <;> simp_all [mem_ite_cons]
  case lnew =>
    intro hc
    have := hinv.orderedList
    simp_all [mem_ite_cons]
  case luse =>
    intro hc
    have := hinv.orderedList
    simp_all [mem_ite_cons]
    omega
  case dts =>
    intro hc
    have := hinv.trendDts (by omega)
    cases hA : p.trendDts.allocated <;> simp_all [mem_ite_cons]
  · intro r
    have := hinv.orderedList
    cases r with
    | trend k =>
      cases k
      · cases hA : p.trendPts.allocated <;> simp [mem_ite_cons, PidSt.created, hP, hA]
      · cases hA : p.trendDts.allocated <;> simp [mem_ite_cons, PidSt.created, hD, hA]
    | orderedList =>
      simp only [mem_ite_cons, hL, PidSt.created, this]
      split_ifs <;> simp_all
  · intro y r hy
    simp [mem_ite_cons, hy]

end monitor

end

/-! ## Whole runs -/

section run
variable {cfg : Config} {S : List (Pid × Resource)}

theorem accepts_nil {x : Pid} {p : PidSt} (hS : Tracks S x p) : Accepts S [] x p :=
  ⟨S, rfl, hS, fun _ _ _ => Iff.rfl⟩

theorem accepts_pidPESStats (scrNow : Int) (pkt : TsPacket) {p : PidSt} (hinv : SlotInv cfg p)
    (hS : Tracks S pkt.pid p) :
    Accepts S ((pidPESStats cfg scrNow pkt p).2.filterMap Event.act) pkt.pid
      (pidPESStats cfg scrNow pkt p).1 ∧ SlotInv cfg (pidPESStats cfg scrNow pkt p).1 := by
  have hinv' : ∀ v, SlotInv cfg { p with scrAtPesUnitHeader := v } := fun _ =>
    ⟨hinv.1, hinv.2, hinv.3⟩
  unfold pidPESStats
  split
  · split
    · split
      · exact ⟨accepts_processPESHeader cfg _ _ _ _ _ _ (hinv' _) hS,
          slotInv_processPESHeader cfg _ _ _ _ _ _ (hinv' _)⟩
      · exact ⟨accepts_nil hS, hinv' _⟩
    · exact ⟨accepts_nil hS, hinv' _⟩
  · exact ⟨accepts_nil hS, hinv.1, hinv.2, hinv.3⟩

theorem pidPacketStats_acts (pkt : TsPacket) (p : PidSt) :
    (pidPacketStats pkt p).2.filterMap Event.act = [] := by
  simp only [pidPacketStats, ccCheck]; split <;> rfl

/-- Only the PES statistics make resource calls. -/
theorem slotEvents_acts (ctx : Ctx) (q : TsPacket) :
    (slotEvents cfg ctx q).filterMap Event.act =
      if 0 < cfg.doPESStatistics then
        (pidPESStats cfg (scrAt cfg ctx q) q (slotStats cfg q (ctx.pids q.pid))).2.filterMap Event.act
      else [] := by
  unfold slotEvents statsEvents
  cases q.scr <;> cases cfg.doSCRStatistics <;> split_ifs <;>
    simp [pidPacketStats_acts, pidSCRStats, Event.act]

/-- The invariant of a run: the monitor has accepted every call so far, its set is what the
slots have created, and every slot keeps `SlotInv`. -/
def RunOk (cfg : Config) (s : Ctx × List Event) : Prop :=
  ∃ S, (s.2.filterMap Event.act).foldlM monitorStep [] = some S ∧
    (∀ x, Tracks S x (s.1.pids x)) ∧ ∀ x, SlotInv cfg (s.1.pids x)

theorem runOk_inspectStep {s : Ctx × List Event} (q : TsPacket) (h : RunOk cfg s) :
    RunOk cfg (inspectStep cfg s q) := by
  obtain ⟨S, hrun, htr, hinv⟩ := h
  have hslot : Tracks S q.pid (slotStats cfg q (s.1.pids q.pid)) ∧
      SlotInv cfg (slotStats cfg q (s.1.pids q.pid)) := by
    rw [slotStats_eq]; exact ⟨htr q.pid, (hinv q.pid).1, (hinv q.pid).2, (hinv q.pid).3⟩
  obtain ⟨⟨S', hrun', htr', hother⟩, hinv'⟩ : Accepts S ((slotEvents cfg s.1 q).filterMap Event.act) q.pid
      (slotStep cfg s.1 q) ∧ SlotInv cfg (slotStep cfg s.1 q) := by
    rw [slotEvents_acts, slotStep]
    split_ifs
    · exact accepts_pidPESStats _ q hslot.2 hslot.1
    · exact ⟨accepts_nil hslot.1, hslot.2⟩
  refine ⟨S', ?_, fun x => ?_, fun x => ?_⟩
  · simp [inspectStep, inspectPacket_snd, List.foldlM_append, hrun, hrun']
  all_goals
    simp only [inspectStep, inspectPacket_pids]
    split_ifs with hx
    · subst hx; assumption
  · exact fun r => (hother x r hx).trans (htr x r)
  · exact hinv x

theorem runOk_foldl_inspectStep (pkts : List TsPacket) :
    ∀ s : Ctx × List Event, RunOk cfg s → RunOk cfg (pkts.foldl (inspectStep cfg) s) := by
  induction pkts with
  | nil => exact fun _ h => h
  | cons q qs ih => exact fun s h => ih _ (runOk_inspectStep q h)

theorem runOk_init (cfg : Config) : RunOk cfg (Ctx.init, []) := by
  refine ⟨[], rfl, fun x r => ?_, fun x => ⟨by simp [Ctx.init], by simp [Ctx.init], by simp [Ctx.init]⟩⟩
  rcases r with ⟨_ | _⟩ | _ <;> simp [PidSt.created, Ctx.init]

theorem runOk_inspect (cfg : Config) (pkts : List TsPacket) : RunOk cfg (inspect cfg pkts) :=
  runOk_foldl_inspectStep pkts _ (runOk_init cfg)

/-! ## Shutdown -/

/-- Lines 1647–1654: in reorder mode, `ordered_clock_dump` on the list of every PID with a
PTS, in PID order. -/
def shutdownEvents (cfg : Config) (ctx : Ctx) : List Event :=
  if cfg.orderAscPtsOutput then
    ((List.finRange 8192).filter fun i => 0 < (ctx.pids i).ptsCount).map .orderedClockDump
  else []

/-- Everything the inspector prints and calls, the shutdown included. -/
def inspectTrace (cfg : Config) (pkts : List TsPacket) : List Event :=
  (inspect cfg pkts).2 ++ shutdownEvents cfg (inspect cfg pkts).1

theorem foldlM_monitorStep_uses (acts : List Act) (h : ∀ a ∈ acts, ∃ y r, a = .use y r ∧ (y, r) ∈ S) :
    acts.foldlM monitorStep S = some S := by
  induction acts with
  | nil => rfl
  | cons a as ih =>
    obtain ⟨y, r, rfl, hm⟩ := h a (.head _)
    simp [monitorStep_use_of_mem hm, ih fun b hb => h b (.tail _ hb)]

theorem shutdownEvents_acts (ctx : Ctx) {S : List (Pid × Resource)}
    (htr : ∀ x, Tracks S x (ctx.pids x)) (hinv : ∀ x, SlotInv cfg (ctx.pids x)) :
    ((shutdownEvents cfg ctx).filterMap Event.act).foldlM monitorStep S = some S := by
  apply foldlM_monitorStep_uses
  unfold shutdownEvents
  split_ifs with hA
  · simp only [List.filterMap_map, List.mem_filterMap, List.mem_filter, Function.comp, Event.act]
    rintro a ⟨x, ⟨-, hx⟩, ⟨⟩⟩
    exact ⟨x, .orderedList, rfl, (htr x _).2 ((hinv x).orderedList.2 ⟨hA, by simpa using hx⟩)⟩
  · simp

/-- **Resource safety.**  For every configuration and packet sequence, every use of a PID's
trend or ordered list, during the run or at shutdown, comes after its creation, and no
resource is created twice. -/
theorem inspect_resources (cfg : Config) (pkts : List TsPacket) :
    UsedAfterCreated ((inspectTrace cfg pkts).filterMap Event.act) ∧
      CreatedOnce ((inspectTrace cfg pkts).filterMap Event.act) := by
  obtain ⟨S, hrun, htr, hinv⟩ := runOk_inspect cfg pkts
  exact usedAfterCreated_createdOnce (show _ = some S by
    simp [inspectTrace, List.foldlM_append, hrun, shutdownEvents_acts _ htr hinv])

end run

end TsTools
