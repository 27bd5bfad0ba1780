import Mathlib.Data.List.Basic

/-!
# The shutdown handshake of `clock_inspector`

Two tasks share `gRunning`, `enableTrendReport` and `trendThreadComplete`.  The
ingest task runs `while (gRunning)` over the reads (lines 1570–1624), leaving on
a failed read (end of input) or when `gRunning` is cleared, and then waits in
`while (ctx->trendThreadComplete != 1)` (lines 1626–1628).  `trend_report_thread`
loops while `ctx->enableTrendReport && gRunning` and sets
`trendThreadComplete` when it leaves (lines 789–807).  `gRunning` is cleared by
`signal_handler`: on `SIGINT`, or from the ingest loop when the `-t` stop time
has passed (lines 625–629, 1572–1577).

`enableTrendReport` (the number of `-L`) is fixed before both tasks start, so it
is a parameter of the step function.

* `reachable_reporter` — in every reachable state the reporter has finished
  exactly when `trendThreadComplete` is set;
* `stuck_of_guard` — once the ingest task waits while the reporter's guard
  holds, no schedule of the two tasks brings the ingest task to its end;
* `ingest_finishes_iff` — from any reachable state where the ingest task waits,
  some schedule of the two tasks finishes it exactly when the reporter has
  completed or its guard is false;
* `shutdown_eof_with_trend_report_hangs` — with `-L`, end of input leaves the
  ingest task waiting for a reporter that never stops.
-/

namespace TsTools

/-- Where the ingest task is. -/
inductive IngestPc where
  /-- In `while (gRunning)`. -/
  | reading
  /-- In `while (ctx->trendThreadComplete != 1)`. -/
  | waiting
  /-- Past the wait: the final reports and teardown. -/
  | done
  deriving Repr, DecidableEq

/-- Where `trend_report_thread` is. -/
inductive ReporterPc where
  | looping
  | finished
  deriving Repr, DecidableEq

/-- The shared flags and the two tasks' positions. -/
structure Shutdown where
  gRunning : Bool
  trendThreadComplete : Bool
  ingest : IngestPc
  reporter : ReporterPc
  deriving Repr, DecidableEq

/-- Both tasks started, nothing cleared yet. -/
def Shutdown.init : Shutdown := ⟨true, false, .reading, .looping⟩

/-- A step of one of the two tasks. -/
inductive TaskStep where
  /-- A read that returns data or `-EAGAIN`: the loop goes on. -/
  | read
  /-- A read that fails (end of input): `break`. -/
  | readFails
  /-- The loop guard `gRunning` found cleared. -/
  | loopExit
  /-- The `-t` stop time has passed: `signal_handler(1)`. -/
  | stopTime
  /-- `trendThreadComplete` found set: the wait ends. -/
  | waitDone
  /-- One round of the reporter's loop. -/
  | reportLoop
  /-- The reporter's guard found false: `trendThreadComplete = 1`. -/
  | reportExit
  deriving Repr, DecidableEq

/-- A step of the system: one of a task, or `SIGINT`. -/
inductive SysStep where
  | task (t : TaskStep)
  | sigint
  deriving Repr, DecidableEq

/-- The reporter's loop guard `ctx->enableTrendReport && gRunning`. -/
def reporterGuard (trendReport : Nat) (s : Shutdown) : Bool := 0 < trendReport && s.gRunning

/-- One step, when it is enabled. -/
def shutdownStep (trendReport : Nat) (s : Shutdown) : SysStep → Option Shutdown
  | .task .read => if s.ingest = .reading ∧ s.gRunning then some s else none
  | .task .readFails => if s.ingest = .reading ∧ s.gRunning then some { s with ingest := .waiting } else none
  | .task .loopExit => if s.ingest = .reading ∧ !s.gRunning then some { s with ingest := .waiting } else none
  | .task .stopTime => if s.ingest = .reading ∧ s.gRunning then some { s with gRunning := false } else none
  | .task .waitDone =>
    if s.ingest = .waiting ∧ s.trendThreadComplete then some { s with ingest := .done } else none
  | .task .reportLoop =>
    if s.reporter = .looping ∧ reporterGuard trendReport s then some s else none
  | .task .reportExit =>
    if s.reporter = .looping ∧ !reporterGuard trendReport s then
      some { s with trendThreadComplete := true, reporter := .finished }
    else none
  | .sigint => some { s with gRunning := false }

/-- A schedule of steps, as long as each is enabled. -/
def shutdownRun (trendReport : Nat) (s : Shutdown) (steps : List SysStep) : Option Shutdown :=
  steps.foldlM (shutdownStep trendReport) s

/-- The states some schedule reaches from the start. -/
inductive Reachable (trendReport : Nat) : Shutdown → Prop
  | init : Reachable trendReport Shutdown.init
  | step {s s' : Shutdown} (a : SysStep) :
    Reachable trendReport s → shutdownStep trendReport s a = some s' → Reachable trendReport s'

section
variable {e : Nat}

/-! ## The reporter's flag -/

/-- Every step keeps `trendThreadComplete` set exactly when the reporter has finished. -/
theorem shutdownStep_reporter {s s' : Shutdown} {a : SysStep} (h : shutdownStep e s a = some s')
    (hi : s.reporter = .finished ↔ s.trendThreadComplete = true) :
    s'.reporter = .finished ↔ s'.trendThreadComplete = true := by
  cases a with
  | task t => cases t <;> simp only [shutdownStep] at h <;> split at h <;> cases h <;> simp [hi]
  | sigint => cases h; exact hi

theorem reachable_reporter {s : Shutdown} (h : Reachable e s) :
    s.reporter = .finished ↔ s.trendThreadComplete = true := by
  induction h with
  | init => decide
  | step a _ hs ih => exact shutdownStep_reporter hs ih

/-! ## Waiting for a reporter that loops -/

/-- The ingest task waits while the reporter loops with its guard true. -/
def Stuck (e : Nat) (s : Shutdown) : Prop :=
  s.ingest = .waiting ∧ s.reporter = .looping ∧ s.trendThreadComplete = false ∧
    reporterGuard e s = true

/-- In a stuck state only another round of the reporter is enabled, and it changes nothing. -/
theorem shutdownStep_stuck {s : Shutdown} (h : Stuck e s) (t : TaskStep) :
    shutdownStep e s (.task t) = if t = .reportLoop then some s else none := by
  obtain ⟨h₁, h₂, h₃, h₄⟩ := h
  cases t <;> simp [shutdownStep, h₁, h₂, h₃, h₄]

theorem shutdownRun_stuck {s : Shutdown} (h : Stuck e s) (ts : List TaskStep) :
    shutdownRun e s (ts.map .task) = if ts.all (· = .reportLoop) then some s else none := by
  induction ts with
  | nil => rfl
  | cons t ts ih =>
    simp only [shutdownRun, List.map_cons, List.foldlM_cons, shutdownStep_stuck h] at ih ⊢
    by_cases ht : t = .reportLoop <;> simp [ht, ih]

/-- Once stuck, no schedule of the two tasks brings the ingest task to its end. -/
theorem stuck_of_guard {s : Shutdown} (h : Stuck e s) (ts : List TaskStep) :
    (shutdownRun e s (ts.map .task)).map (·.ingest) ≠ some .done := by
  rw [shutdownRun_stuck h]
  split <;> simp [h.1]

/-- **When the ingest task can finish.**  From a reachable state where it waits, some
schedule of the two tasks alone ends the wait exactly when the reporter has completed or
its guard is false. -/
theorem ingest_finishes_iff {s : Shutdown} (hr : Reachable e s) (hw : s.ingest = .waiting) :
    (∃ ts : List TaskStep, (shutdownRun e s (ts.map .task)).map (·.ingest) = some .done) ↔
      (s.trendThreadComplete = true ∨ reporterGuard e s = false) := by
  have hl : s.trendThreadComplete = false → s.reporter = .looping := fun hc => by
    have := reachable_reporter hr
    cases hp : s.reporter <;> simp_all
  constructor
  · rintro ⟨ts, hts⟩
    by_contra hc
    simp only [not_or, Bool.not_eq_true, Bool.not_eq_false] at hc
    exact stuck_of_guard ⟨hw, hl hc.1, hc.1, hc.2⟩ ts hts
  · intro h
    cases hc : s.trendThreadComplete
    · have hg : reporterGuard e s = false := by simpa [hc] using h
      exact ⟨[.reportExit, .waitDone], by simp [shutdownRun, shutdownStep, hw, hl hc, hg]⟩
    · exact ⟨[.waitDone], by simp [shutdownRun, shutdownStep, hw, hc]⟩

/-- Without `-L`, end of input: the reporter's guard is false, and the wait can end. -/
theorem ingest_finishes_without_trend_report :
    ∃ ts : List TaskStep,
      (shutdownRun 0 ⟨true, false, .waiting, .looping⟩ (ts.map .task)).map (·.ingest) = some .done :=
  (@ingest_finishes_iff 0 ⟨true, false, .waiting, .looping⟩ (.step (.task .readFails) .init rfl)
    rfl).2 (.inr rfl)

end

/-- With `-L`, end of input: the ingest task leaves its loop with `gRunning` still set and
waits, the reporter's guard `enableTrendReport && gRunning` holds, and no schedule of the two
tasks ends the wait; only `SIGINT` does. -/
theorem shutdown_eof_with_trend_report_hangs :
    shutdownRun 1 Shutdown.init [.task .readFails] = some ⟨true, false, .waiting, .looping⟩ ∧
      reporterGuard 1 ⟨true, false, .waiting, .looping⟩ = true ∧
      ∀ ts : List TaskStep,
        (shutdownRun 1 ⟨true, false, .waiting, .looping⟩ (ts.map .task)).map (·.ingest) ≠ some .done :=
  ⟨rfl, rfl, stuck_of_guard ⟨rfl, rfl, rfl, rfl⟩⟩

end TsTools
