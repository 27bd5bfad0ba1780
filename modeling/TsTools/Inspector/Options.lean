import TsTools.Inspector.Basic
import TsTools.Format

/-!
# The options of `clock_inspector`

The defaults `clock_inspector` sets after `calloc` (lines 1417–1425), the
`getopt` cases that change what the per-packet pipeline does (lines 1433–1515),
and the fallback of the initial stream time to the wallclock (lines 1520–1522).
The whole switch, with the options that only steer output or the trend reporter
(`-B`, `-d`, `-i`, `-L`, `-P`, `-t`, `-X`), is `cliStep` of `Cli.lean`.

* `Config.ofOptions` — the configuration a command line yields;
* `ofOptions_scrStatistics` — with `-p` or `-s` on the command line, SCR statistics
  are on (the field `scr_of_pes` of every configuration, made concrete);
* `optScrPid` — the `-S` argument as `sscanf(optarg, "0x%x", &ctx->scr_pid)` stores
  it in the `int` field and the check `scr_pid > 0x1fff` judges it, and
  `optScrPid_out_of_table`: the values it accepts are every `int` up to `0x1fff`,
  the negative ones included, which have no slot in the table of 8192 PIDs.
-/

namespace TsTools

/-- An option that changes what the per-packet pipeline does, with its argument as
`atoi` or `sscanf` converts it. -/
inductive InspectorOpt where
  /-- `-A <n>`: the trend size, at least 60. -/
  | trendSize (n : Int)
  /-- `-p`: one more level of PES statistics, and SCR statistics with them. -/
  | pes
  /-- `-s`: SCR statistics. -/
  | scr
  /-- `-S 0x<pid>`: the SCR PID (anything above `0x1fff` ends the program). -/
  | scrPid (pid : Pid)
  /-- `-D <ms>`: `maxAllowablePTSDTSDrift`. -/
  | drift (ms : Int)
  /-- `-R`: reorder mode, `order_asc_pts_output`. -/
  | reorder
  /-- `-T <YYYYMMDDHHMMSS>`: the initial stream time, as `mktime` returns it. -/
  | initialTime (t : Int)
  /-- `-Y`: the PES delivery report. -/
  | deliveryReport
  /-- `-Z`: no non-timing-conformant messages. -/
  | quiet
  deriving Repr, DecidableEq

/-- The fields as `clock_inspector` sets them before parsing its options. -/
def Config.defaults : Config where
  enableNonTimingConformantMessages := true
  enablePESDeliveryReport := false
  trendSize := 60 * 60 * 60
  initialTime := 0
  maxAllowablePTSDTSDrift := 700
  doSCRStatistics := false
  doPESStatistics := 0
  orderAscPtsOutput := false
  scrPid := 0x31
  scr_of_pes := by decide

/-- One `getopt` case. -/
def Config.applyOpt (c : Config) : InspectorOpt → Config
  | .trendSize n => { c with trendSize := if n < 60 then 60 else n.toNat }
  | .pes => { c with
      doSCRStatistics := true
      doPESStatistics := c.doPESStatistics + 1
      scr_of_pes := fun _ => rfl }
  | .scr => { c with doSCRStatistics := true, scr_of_pes := fun _ => rfl }
  | .scrPid pid => { c with scrPid := pid }
  | .drift ms => { c with maxAllowablePTSDTSDrift := ms }
  | .reorder => { c with orderAscPtsOutput := true }
  | .initialTime t => { c with initialTime := t }
  | .deliveryReport => { c with enablePESDeliveryReport := true }
  | .quiet => { c with enableNonTimingConformantMessages := false }

/-- The configuration of a command line; `now` is what `time` returns when no `-T` gave an
initial time. -/
def Config.ofOptions (now : Int) (opts : List InspectorOpt) : Config :=
  let c := opts.foldl Config.applyOpt Config.defaults
  if c.initialTime = 0 then { c with initialTime := now } else c

@[simp] theorem Config.applyOpt_doSCRStatistics (c : Config) (o : InspectorOpt) :
    (c.applyOpt o).doSCRStatistics = (c.doSCRStatistics || (o == .pes || o == .scr)) := by
  cases o <;> simp [Config.applyOpt]

theorem Config.foldl_applyOpt_doSCRStatistics (os : List InspectorOpt) (c : Config) :
    (os.foldl Config.applyOpt c).doSCRStatistics =
      (c.doSCRStatistics || os.any (fun o => o == .pes || o == .scr)) := by
  induction os generalizing c with
  | nil => simp
  | cons o os ih => simp [ih, Bool.or_assoc]

/-- With `-p` or `-s` anywhere on the command line, SCR statistics are on. -/
theorem Config.ofOptions_scrStatistics (now : Int) (opts : List InspectorOpt)
    (h : .pes ∈ opts ∨ .scr ∈ opts) : (Config.ofOptions now opts).doSCRStatistics = true := by
  have key : (opts.foldl Config.applyOpt Config.defaults).doSCRStatistics = true := by
    rw [Config.foldl_applyOpt_doSCRStatistics, List.any_eq_true.2]
    · rfl
    · rcases h with h | h <;> exact ⟨_, h, by simp⟩
  dsimp only [Config.ofOptions]
  split <;> exact key

example : (Config.ofOptions 0 [.pes, .deliveryReport]).doPESStatistics = 1 := by decide

/-! ## The `-S` argument -/

/-- `"0x%x"`. -/
def scrPidFormat : List FmtPiece := [.lit '0', .lit 'x', .hex]

/-- `-S`: `sscanf(optarg, "0x%x", &ctx->scr_pid)` stores an `unsigned int` in the `int` field
`scr_pid`, then `scr_pid > 0x1fff` is tested; `none` when either test rejects the argument
(`usage`, `exit(1)`). -/
def optScrPid (arg : List Char) : Option Int :=
  match sscanf scrPidFormat arg with
  | [v] => if 0x1fff < toInt32 v then none else some (toInt32 v)
  | _ => none

/-- The slot `ctx->pids[scr_pid]` of an `int` PID: `none` outside the table of 8192. -/
def pidSlot (pid : Int) : Option Pid :=
  if h : 0 ≤ pid ∧ pid < 8192 then some ⟨pid.toNat, by omega⟩ else none

theorem pidSlot_isSome_iff {pid : Int} : (pidSlot pid).isSome ↔ 0 ≤ pid ∧ pid < 8192 := by
  unfold pidSlot
  split <;> simp_all

/-- Every value `-S` accepts is an `int` no greater than `0x1fff`. -/
theorem optScrPid_bounds {arg : List Char} {v : Int} (h : optScrPid arg = some v) :
    -2 ^ 31 ≤ v ∧ v ≤ 0x1fff := by
  unfold optScrPid at h
  split at h
  · rename_i w _
    split at h
    · cases h
    · obtain rfl := Option.some.inj h
      have : -(((2 ^ 32 : Nat) : Int) / 2) ≤ toInt32 w := Int.le_bmod (by decide)
      push_cast at this
      omega
  · cases h

/-- The text `-S` reads back as `v`: `0x` and the hexadecimal digits of `v` as an
`unsigned int`. -/
theorem optScrPid_sprintf {v : Int} (h₁ : -2 ^ 31 ≤ v) (h₂ : v ≤ 0x1fff) :
    optScrPid (sprintf scrPidFormat [v % 2 ^ 32]) = some v := by
  have hfit : ArgsFit scrPidFormat [v % 2 ^ 32] :=
    ⟨Int.emod_nonneg _ (by decide), Int.emod_lt_of_pos _ (by decide), trivial⟩
  have hs : sscanf scrPidFormat (sprintf scrPidFormat [v % 2 ^ 32] ++ []) = [v % 2 ^ 32] :=
    sscanf_sprintf (by decide) hfit (by simp)
  have h32 : ((2 ^ 32 : Nat) : Int) = 2 ^ 32 := by push_cast
  have hv : toInt32 (v % 2 ^ 32) = v := by
    rw [toInt32, ← h32, Int.emod_bmod, ← toInt32, toInt32_of_mem h₁ (by omega)]
  rw [List.append_nil] at hs
  simp only [optScrPid, hs, hv, if_neg (show ¬(0x1fff : Int) < v by omega)]

/-- **`-S` accepts PIDs outside the table.**  The values `-S` accepts are exactly the `int`s up
to `0x1fff`, the negative ones included: `0xffffffff` is stored as `-1`, passes the check,
and `ctx->pids[-1]` lies outside the table of 8192 PIDs. -/
theorem optScrPid_out_of_table :
    (∀ v : Int, (∃ arg, optScrPid arg = some v) ↔ -2 ^ 31 ≤ v ∧ v ≤ 0x1fff) ∧
      optScrPid "0xffffffff".toList = some (-1) ∧ pidSlot (-1) = none :=
  ⟨fun _ => ⟨fun ⟨_, h⟩ => optScrPid_bounds h, fun h => ⟨_, optScrPid_sprintf h.1 h.2⟩⟩,
    by decide, by decide⟩

/-- A value `-S` accepts has a slot exactly when it is not negative. -/
theorem pidSlot_of_optScrPid {arg : List Char} {v : Int} (h : optScrPid arg = some v) :
    (pidSlot v).isSome ↔ 0 ≤ v := by
  have := optScrPid_bounds h
  rw [pidSlot_isSome_iff]
  omega

end TsTools
