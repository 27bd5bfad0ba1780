import TsTools.Inspector.Options

/-!
# The command line of `clock_inspector`

`clock_inspector` (lines 1412–1527) reads its options with `getopt` over
`"?dhi:spt:A:B:T:D:LPRS:X:YZ"`, each case of the switch setting a field of its
context; after the loop it falls back to the wallclock for the initial time and
insists on `-i`.  `Config.applyOpt` holds the cases that set what the per-packet
pipeline reads.  This file adds the rest of the switch: the texts of the arguments
(`atoi`, the `0x%x` of `-S`, the `%04d%02d%02d%02d%02d%02d` of `-T`), the options
that steer the trend reporter, the progress output and the stop time, the exits
through `usage`, and `-X`.

The case `-X` has no `break`.  With an argument other than 1 or 2 it frees the
statistics context, sets `libstats` to `NULL` and runs on into the case `-Z`.

* `cliRun_validate_other` — so after such a `-X` the non-conformance warnings are
  off and `libstats` is `NULL`, whatever follows on the command line;
* `cliStep_datetime_sprintf` — every date and time of a four-digit year and two-digit
  fields, written as `-T` asks, is read back as its six fields and handed to `mktime`;
* `cliRun_bounds` — whatever `-A` and `-B` say, the trend size is at least 60 and the
  report period at least 5 s.
-/

namespace TsTools

/-- `atoi`: `strtol` of the text after leading white space, stored in an `int`; 0 when no
digits follow. -/
def atoi (s : List Char) : Int := ((scanDec none (s.dropWhile isspace)).map (·.1)).getD 0

/-- `"%04d%02d%02d%02d%02d%02d"`. -/
def datetimeFormat : List FmtPiece :=
  [.dec (some 4), .dec (some 2), .dec (some 2), .dec (some 2), .dec (some 2), .dec (some 2)]

/-- The `-T` argument: the six fields `sscanf` converts, `none` when it converts fewer
(`usage`, `-T invalid datetime`, `exit(1)`). -/
def optDatetime (arg : List Char) : Option (List Int) :=
  if (sscanf datetimeFormat arg).length = 6 then some (sscanf datetimeFormat arg) else none

/-- The `struct tm` that `-T` hands `mktime`: `tm_year` and `tm_mon` moved to their origins,
in the order of the format. -/
def datetimeTm (fields : List Int) : List Int :=
  [fields.getD 0 0 - 1900, fields.getD 1 0 - 1] ++ fields.drop 2

theorem datetimeFormat_separated : Separated datetimeFormat = true := by decide

/-- A value not negative and below `10 ^ k` fits `%0<k>d`. -/
theorem fits_width {x : Int} {k : Nat} (h₀ : 0 ≤ x) (h : x < 10 ^ k) (hk : 0 < k) :
    ∀ n ∈ some k, (printDec none x).length ≤ n := by
  rintro n ⟨⟩
  have hc : ((10 ^ k : Nat) : Int) = 10 ^ k := by push_cast; rfl
  exact printDec_none_length_le h₀ (by omega) hk

/-- Every `YYYYMMDDHHMMSS` printed by the format of `-T` from a year of at most four digits and
five fields of at most two, none negative, is accepted and read back field by field. -/
theorem optDatetime_sprintf {y : Int} {fs : List Int} (hl : fs.length = 5) (hy₀ : 0 ≤ y)
    (hy : y ≤ 9999) (hf : ∀ f ∈ fs, 0 ≤ f ∧ f ≤ 99) :
    optDatetime (sprintf datetimeFormat (y :: fs)) = some (y :: fs) := by
  have fit {P : Prop} (f : Int) (hf : 0 ≤ f ∧ f ≤ 99) (r : P) : -2 ^ 31 ≤ f ∧ f < 2 ^ 31 ∧
      (∀ n ∈ some 2, (printDec none f).length ≤ n) ∧ P :=
    ⟨by omega, by omega, fits_width hf.1 (by omega) (by decide), r⟩
  match fs, hl with
  | [a, b, c, d, e], _ =>
    simp only [List.mem_cons, List.not_mem_nil, or_false, forall_eq_or_imp, forall_eq] at hf
    have hfit : ArgsFit datetimeFormat [y, a, b, c, d, e] :=
      ⟨by omega, by omega, fits_width hy₀ (by omega) (by decide), fit a hf.1 <| fit b hf.2.1 <|
        fit c hf.2.2.1 <| fit d hf.2.2.2.1 <| fit e hf.2.2.2.2 trivial⟩
    have hs : sscanf datetimeFormat (sprintf datetimeFormat [y, a, b, c, d, e] ++ []) = _ :=
      sscanf_sprintf datetimeFormat_separated hfit (by simp)
    rw [List.append_nil] at hs
    simp [optDatetime, hs]

/-- An option as `getopt` hands it to the switch, with its argument. -/
inductive InspectorArg where
  /-- `-A <n>`. -/
  | trendSize (arg : List Char)
  /-- `-B <seconds>`. -/
  | reportPeriod (arg : List Char)
  /-- `-d`. -/
  | dumpHex
  /-- `-i <url>`. -/
  | input (name : List Char)
  /-- `-p`. -/
  | pes
  /-- `-L`. -/
  | trendReport
  /-- `-P`. -/
  | progress
  /-- `-s`. -/
  | scr
  /-- `-S <0xpid>`. -/
  | scrPid (arg : List Char)
  /-- `-D <ms>`. -/
  | drift (arg : List Char)
  /-- `-R`. -/
  | reorder
  /-- `-T <YYYYMMDDHHMMSS>`. -/
  | datetime (arg : List Char)
  /-- `-Y`. -/
  | deliveryReport
  /-- `-t <seconds>`. -/
  | stopAfter (arg : List Char)
  /-- `-X <n>`. -/
  | validate (arg : List Char)
  /-- `-Z`. -/
  | quiet
  /-- `-?`, `-h`, an option `getopt` does not know, or one missing its argument. -/
  | other
  deriving Repr, DecidableEq

/-- The context as the switch leaves it: the pipeline's `Config`, and the fields only the
reporter, the read loop and the shutdown read.  `outOfTable` is the `scr_pid` of a `-S` that
stored a value below 0, which `Config`'s table index cannot hold; `libstats` records whether
the statistics context `ltntstools_pid_stats_alloc` made is still there. -/
structure CliState where
  cfg : Config
  outOfTable : Option Int
  dumpHex : Nat
  iname : Option (List Char)
  enableTrendReport : Nat
  reportPeriod : Int
  progressReport : Bool
  stopSeconds : Int
  libstats : Bool

/-- The context before the loop: the defaults of lines 1417–1429. -/
def CliState.init : CliState :=
  ⟨Config.defaults, none, 0, none, 0, 15, false, 0, true⟩

/-- How the switch leaves `clock_inspector` before the read loop. -/
inductive CliExit where
  /-- `usage()` and `exit(1)`: an unknown option or a rejected `-S` or `-T`. -/
  | usage
  /-- `-X 1`: `validateClockMath`, which never returns. -/
  | validateClockMath
  /-- `-X 2`: `validateLinearTrend`, whose -1 `clock_inspector` returns. -/
  | validateLinearTrend
  deriving Repr, DecidableEq

/-- How the command line ends: an exit of the switch, the `usage` of a missing `-i`, or the
context the read loop runs with. -/
inductive CliOutcome where
  /-- The switch left the program. -/
  | exit (e : CliExit)
  /-- `usage()` and `exit(1)` after the loop: no `-i`. -/
  | noInput
  /-- The read loop would run with a `scr_pid` below 0, which indexes outside `pids[8192]`. -/
  | scrPidOutOfTable (pid : Int)
  /-- The read loop runs with this context. -/
  | run (s : CliState)

/-- One case of the switch, `mktime` being the C library's. -/
def cliStep (mktime : List Int → Int) (s : CliState) : InspectorArg → Except CliExit CliState
  | .trendSize arg => .ok { s with cfg := s.cfg.applyOpt (.trendSize (atoi arg)) }
  | .reportPeriod arg => .ok { s with reportPeriod := if atoi arg < 5 then 5 else atoi arg }
  | .dumpHex => .ok { s with dumpHex := s.dumpHex + 1 }
  | .input name => .ok { s with iname := some name }
  | .pes => .ok { s with cfg := s.cfg.applyOpt .pes }
  | .trendReport => .ok { s with enableTrendReport := s.enableTrendReport + 1 }
  | .progress => .ok { s with progressReport := true }
  | .scr => .ok { s with cfg := s.cfg.applyOpt .scr }
  | .scrPid arg =>
    match optScrPid arg with
    | none => .error .usage
    | some v =>
      match pidSlot v with
      | some pid => .ok { s with cfg := s.cfg.applyOpt (.scrPid pid), outOfTable := none }
      | none => .ok { s with outOfTable := some v }
  | .drift arg => .ok { s with cfg := s.cfg.applyOpt (.drift (atoi arg)) }
  | .reorder => .ok { s with cfg := s.cfg.applyOpt .reorder }
  | .datetime arg =>
    match optDatetime arg with
    | none => .error .usage
    | some fields => .ok { s with cfg := s.cfg.applyOpt (.initialTime (mktime (datetimeTm fields))) }
  | .deliveryReport => .ok { s with cfg := s.cfg.applyOpt .deliveryReport }
  | .stopAfter arg => .ok { s with stopSeconds := atoi arg }
  | .validate arg =>
    if atoi arg = 1 then .error .validateClockMath
    else if atoi arg = 2 then .error .validateLinearTrend
    else .ok { s with libstats := false, cfg := s.cfg.applyOpt .quiet }
  | .quiet => .ok { s with cfg := s.cfg.applyOpt .quiet }
  | .other => .error .usage

/-- The option loop, the fallback of the initial time to `now`, and the test of `-i`. -/
def cliRun (mktime : List Int → Int) (now : Int) (args : List InspectorArg) : CliOutcome :=
  match args.foldlM (cliStep mktime) CliState.init with
  | .error e => .exit e
  | .ok s =>
    let s := if s.cfg.initialTime = 0 then { s with cfg := { s.cfg with initialTime := now } }
      else s
    if s.iname = none then .noInput
    else match s.outOfTable with
      | some v => .scrPidOutOfTable v
      | none => .run s

/-- **`-T` reads back the dates it documents.**  Given `YYYYMMDDHHMMSS` printed from a year of
at most four digits and fields of at most two, none negative, the case `-T` sets the initial
time to what `mktime` makes of the `struct tm` of those fields, the year counted from 1900
and the month from 0. -/
theorem cliStep_datetime_sprintf (mktime : List Int → Int) (s : CliState) {y mo : Int}
    {fs : List Int} (hl : fs.length = 4) (hy₀ : 0 ≤ y) (hy : y ≤ 9999)
    (hf : ∀ f ∈ mo :: fs, 0 ≤ f ∧ f ≤ 99) :
    cliStep mktime s (.datetime (sprintf datetimeFormat (y :: mo :: fs))) =
      .ok { s with cfg := s.cfg.applyOpt (.initialTime (mktime ((y - 1900) :: (mo - 1) :: fs))) } := by
  simp [cliStep, optDatetime_sprintf (by simp [hl]) hy₀ hy hf, datetimeTm]

/-- `-T 20240229091352`, with a `mktime` that returns `tm_year`. -/
theorem cliStep_datetime_leap_day :
    sprintf datetimeFormat [2024, 2, 29, 9, 13, 52] = "20240229091352".toList ∧
      cliStep (fun tm => tm.getD 0 0) CliState.init
          (.datetime (sprintf datetimeFormat [2024, 2, 29, 9, 13, 52])) =
        .ok { CliState.init with cfg := CliState.init.cfg.applyOpt (.initialTime 124) } :=
  ⟨by decide, cliStep_datetime_sprintf _ _ (by decide) (by decide) (by decide) (by decide)⟩

/-! ## The cases of the switch -/

section
variable {mktime : List Int → Int}

/-- One accepted case leaves the pipeline's configuration alone or runs one case of
`Config.applyOpt` on it, leaves `libstats` alone or clears it, and leaves the report period
alone or sets one of at least 5 s. -/
theorem cliStep_ok {s s' : CliState} {a : InspectorArg} (h : cliStep mktime s a = .ok s') :
    (s'.cfg = s.cfg ∨ ∃ o, s'.cfg = s.cfg.applyOpt o) ∧
      (s'.libstats = s.libstats ∨ s'.libstats = false) ∧
      (s'.reportPeriod = s.reportPeriod ∨ 5 ≤ s'.reportPeriod) := by
  cases a <;> simp only [cliStep] at h
  case scrPid arg =>
    cases ho : optScrPid arg with
    | none => simp only [ho] at h; cases h
    | some v => cases hp : pidSlot v <;> simp only [ho, hp] at h <;> cases h <;> simp
  case datetime arg => cases ho : optDatetime arg <;> simp only [ho] at h <;> cases h; simp
  case validate arg => split_ifs at h; cases h; simp
  case reportPeriod arg =>
    cases h; exact ⟨.inl rfl, .inl rfl, .inr (by dsimp only; split <;> omega)⟩
  case other => cases h
  all_goals cases h; simp

/-- The option loop keeps every invariant that each accepted case keeps. -/
theorem foldlM_cliStep_inv (P : CliState → Prop)
    (hstep : ∀ {s s' a}, P s → cliStep mktime s a = .ok s' → P s') (args : List InspectorArg) :
    ∀ {s s' : CliState}, P s → args.foldlM (cliStep mktime) s = .ok s' → P s' := by
  induction args with
  | nil => intro s s' hs h; cases h; exact hs
  | cons a as ih =>
    intro s s' hs h
    rw [List.foldlM_cons] at h
    cases e : cliStep mktime s a with
    | error o => rw [e] at h; cases h
    | ok s₁ => rw [e] at h; exact ih (hstep hs e) h

/-- The command lines that reach the read loop: the option loop accepts every option, `-i`
named the input and no `-S` left a `scr_pid` below 0; the loop's context has then had its
initial time fallen back to `now`. -/
theorem cliRun_eq_run {now : Int} {args : List InspectorArg} {s : CliState}
    (h : cliRun mktime now args = .run s) :
    ∃ s₁, args.foldlM (cliStep mktime) CliState.init = .ok s₁ ∧ s₁.iname ≠ none ∧
      s₁.outOfTable = none ∧
      s = if s₁.cfg.initialTime = 0 then { s₁ with cfg := { s₁.cfg with initialTime := now } }
        else s₁ := by
  unfold cliRun at h
  cases hf : args.foldlM (cliStep mktime) CliState.init with
  | error e => rw [hf] at h; cases h
  | ok s₁ =>
    rw [hf] at h
    refine ⟨s₁, rfl, ?_⟩
    by_cases h₀ : s₁.cfg.initialTime = 0 <;> simp only [h₀, if_true, if_false] at h ⊢ <;>
      split at h <;> (try split at h) <;> cases h <;> simp_all

/-! ## The reporter's parameters -/

theorem cliStep_bounds {s s' : CliState} {a : InspectorArg} (h : cliStep mktime s a = .ok s')
    (hs : 60 ≤ s.cfg.trendSize ∧ 5 ≤ s.reportPeriod) :
    60 ≤ s'.cfg.trendSize ∧ 5 ≤ s'.reportPeriod := by
  obtain ⟨hc, -, hr⟩ := cliStep_ok h
  refine ⟨?_, by rcases hr with hr | hr <;> omega⟩
  rcases hc with hc | ⟨o, hc⟩ <;> rw [hc]
  · exact hs.1
  · cases o <;> simp only [Config.applyOpt, hs.1]
    split <;> omega

/-- **The bounds of the reporter's parameters.**  On every command line that reaches the read
loop, the trend size every `kllineartrend_alloc` is given is at least 60 and the period of
the trend reporter at least 5 s, whatever `-A` and `-B` say. -/
theorem cliRun_bounds {now : Int} {args : List InspectorArg} {s : CliState}
    (h : cliRun mktime now args = .run s) : 60 ≤ s.cfg.trendSize ∧ 5 ≤ s.reportPeriod := by
  obtain ⟨s₁, hf, -, -, rfl⟩ := cliRun_eq_run h
  have key := foldlM_cliStep_inv (fun s => 60 ≤ s.cfg.trendSize ∧ 5 ≤ s.reportPeriod)
    (fun hs h => cliStep_bounds h hs) args (by decide) hf
  split <;> exact key

/-- `-i f -A 1 -B 1`: a trend of 60 entries, reported every 5 s. -/
theorem cliRun_bounds_one :
    ∃ s, cliRun (fun _ => 0) 5 [.input ['f'], .trendSize ['1'], .reportPeriod ['1']] = .run s ∧
      60 ≤ s.cfg.trendSize ∧ 5 ≤ s.reportPeriod :=
  ⟨_, rfl, @cliRun_bounds (fun _ => 0) 5 [.input ['f'], .trendSize ['1'], .reportPeriod ['1']] _ rfl⟩

/-! ## `-X` without `break` -/

/-- Nothing on the command line turns the warnings back on or restores `libstats`. -/
theorem cliStep_off {s s' : CliState} {a : InspectorArg} (h : cliStep mktime s a = .ok s')
    (hs : s.cfg.enableNonTimingConformantMessages = false ∧ s.libstats = false) :
    s'.cfg.enableNonTimingConformantMessages = false ∧ s'.libstats = false := by
  obtain ⟨hc, hl, -⟩ := cliStep_ok h
  refine ⟨?_, by rcases hl with hl | hl <;> simp [hl, hs.2]⟩
  rcases hc with hc | ⟨o, hc⟩ <;> rw [hc]
  · exact hs.1
  · cases o <;> simp [Config.applyOpt, hs.1]

/-- **`-X` falls through to `-Z`.**  On every command line that reaches the read loop, a `-X`
whose argument `atoi` reads as neither 1 nor 2 leaves the non-conformance warnings off and
`libstats` `NULL` for the whole run, whatever options follow it. -/
theorem cliRun_validate_other {now : Int} (pre post : List InspectorArg) {arg : List Char}
    (h₁ : atoi arg ≠ 1) (h₂ : atoi arg ≠ 2) {s : CliState}
    (h : cliRun mktime now (pre ++ .validate arg :: post) = .run s) :
    s.cfg.enableNonTimingConformantMessages = false ∧ s.libstats = false := by
  obtain ⟨s₁, hf, -, -, rfl⟩ := cliRun_eq_run h
  rw [List.foldlM_append] at hf
  cases hp : pre.foldlM (cliStep mktime) CliState.init with
  | error e => rw [hp] at hf; cases hf
  | ok s₀ =>
    rw [hp] at hf
    simp only [bind, Except.bind, List.foldlM_cons, cliStep, if_neg h₁, if_neg h₂] at hf
    have hoff := foldlM_cliStep_inv _ (fun hs h => cliStep_off h hs) post
      ⟨by simp [Config.applyOpt], rfl⟩ hf
    split <;> exact hoff

/-- `-i f -X 3 -p`: the warnings stay off past the `-p`. -/
theorem cliRun_validate_three_pes :
    ∃ s, cliRun (fun _ => 0) 5 ([.input ['f']] ++ .validate ['3'] :: [.pes]) = .run s ∧
      s.cfg.enableNonTimingConformantMessages = false ∧ s.libstats = false :=
  ⟨_, rfl, @cliRun_validate_other (fun _ => 0) 5 [.input ['f']] [.pes] ['3'] (by decide) (by decide) _ rfl⟩

end

end TsTools
