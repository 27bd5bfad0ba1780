import TsTools.Slicer.Slice

/-!
# `pcr_to_videotime` and its round trip with `videotime_to_pcr`

`pcr_to_videotime` (lines 23–40) splits a 27 MHz count into days, hours, minutes
and seconds: the whole seconds are taken as an `int` and split by C division, and
the milliseconds are zeroed (the line that computes them is overwritten).
`videotime_to_pcr` (lines 42–54) takes a time back to a count.

* `pcrToVideotime_spec` — for a count of fewer than `2^31` seconds the result is the
  normalized decomposition of its whole seconds;
* `videotimeToPcr_of_normal` — a normalized time of fewer than `2^31` seconds converts
  without wrap in any of the `int` products;
* `videotime_round_trip` — a count comes back rounded down to a whole second, and a
  normalized time comes back with its milliseconds zeroed.
-/

namespace TsTools

/-- `pcr_to_videotime`.  The seconds are an `int`; the products `days * 3600 * 24` and so on
never exceed them in size, so they are taken without wrap. -/
def pcrToVideotime (pcr : Int) : VideoTime :=
  let seconds := toInt32 (pcr.tdiv 27000000)
  let days := seconds.tdiv (3600 * 24)
  let seconds := seconds - days * 3600 * 24
  let hours := seconds.tdiv 3600
  let seconds := seconds - hours * 3600
  let mins := seconds.tdiv 60
  let seconds := seconds - mins * 60
  ⟨days, hours, mins, seconds, 0⟩

/-- The whole seconds a time denotes. -/
def VideoTime.seconds (vt : VideoTime) : Int :=
  vt.days * 86400 + vt.hours * 3600 + vt.mins * 60 + vt.secs

/-- A time in normal form: no field negative, hours, minutes and seconds below their
bounds. -/
def VideoTime.Normal (vt : VideoTime) : Prop :=
  0 ≤ vt.days ∧ 0 ≤ vt.hours ∧ vt.hours < 24 ∧ 0 ≤ vt.mins ∧ vt.mins < 60 ∧ 0 ≤ vt.secs ∧
    vt.secs < 60

instance (vt : VideoTime) : Decidable vt.Normal :=
  inferInstanceAs (Decidable (0 ≤ vt.days ∧ 0 ≤ vt.hours ∧ vt.hours < 24 ∧ 0 ≤ vt.mins ∧
    vt.mins < 60 ∧ 0 ≤ vt.secs ∧ vt.secs < 60))

/-- Two normal times of the same seconds agree in every field but the milliseconds. -/
theorem VideoTime.eq_of_normal {a b : VideoTime} (ha : a.Normal) (hb : b.Normal)
    (h : a.seconds = b.seconds) (hm : a.msecs = b.msecs) : a = b := by
  obtain ⟨d, hh, m, s, ms⟩ := a
  obtain ⟨d', hh', m', s', ms'⟩ := b
  simp only [Normal, seconds] at ha hb h hm
  simp only [VideoTime.mk.injEq]
  omega

/-! ## From a count to a time -/

/-- **The decomposition.**  A count of fewer than `2^31` seconds becomes the normal time of
its whole seconds. -/
theorem pcrToVideotime_spec {pcr : Int} (h₀ : 0 ≤ pcr) (h₁ : pcr < 2 ^ 31 * 27000000) :
    (pcrToVideotime pcr).Normal ∧ (pcrToVideotime pcr).seconds = pcr / 27000000 ∧
      (pcrToVideotime pcr).msecs = 0 := by
  have hs : toInt32 (pcr.tdiv 27000000) = pcr / 27000000 := by
    rw [Int.tdiv_eq_ediv h₀ (by decide), toInt32_of_mem (by omega) (by omega)]
  have hs₀ : 0 ≤ pcr / 27000000 := Int.ediv_nonneg h₀ (by decide)
  simp only [pcrToVideotime, hs, VideoTime.Normal, VideoTime.seconds]
  rw [Int.tdiv_eq_ediv hs₀ (by decide), Int.tdiv_eq_ediv (by omega) (by decide),
    Int.tdiv_eq_ediv (by omega) (by decide)]
  refine ⟨⟨?_, ?_, ?_, ?_, ?_, ?_, ?_⟩, ?_, trivial⟩ <;> omega

/-! ## From a time to a count -/

/-- A normal time of fewer than `2^31` seconds, with milliseconds in `[0, 1000)`, converts
without wrap: its seconds in 27 MHz ticks plus its milliseconds. -/
theorem videotimeToPcr_of_normal {vt : VideoTime} (hn : vt.Normal) (hs : vt.seconds < 2 ^ 31)
    (hm₀ : 0 ≤ vt.msecs) (hm : vt.msecs < 1000) :
    videotimeToPcr vt = vt.seconds * 27000000 + vt.msecs * 27000 := by
  simp only [VideoTime.Normal, VideoTime.seconds] at hn hs
  rw [videotimeToPcr, toInt32_of_mem (x := vt.days * 3600 * 24) (by omega) (by omega),
    toInt32_of_mem (x := vt.hours * 3600) (by omega) (by omega),
    toInt32_of_mem (x := vt.mins * 60) (by omega) (by omega),
    toInt32_of_mem (x := vt.msecs * 27000) (by omega) (by omega), VideoTime.seconds]
  omega

/-- A count of fewer than `2^31` seconds comes back from its time rounded down to a second. -/
theorem videotimeToPcr_pcrToVideotime {pcr : Int} (h₀ : 0 ≤ pcr) (h₁ : pcr < 2 ^ 31 * 27000000) :
    videotimeToPcr (pcrToVideotime pcr) = pcr - pcr % 27000000 := by
  obtain ⟨hn, hs, hm⟩ := pcrToVideotime_spec h₀ h₁
  rw [videotimeToPcr_of_normal hn (by omega) (by omega) (by omega), hs, hm]
  have := Int.emod_add_ediv pcr 27000000
  omega

/-- **The round trip.**  A count of fewer than `2^31` seconds is decomposed into the normal
time of its whole seconds, which converts back to the count rounded down to a second; and a
normal time of fewer than `2^31` seconds with milliseconds below 1000 comes back with its
milliseconds zeroed. -/
theorem videotime_round_trip :
    (∀ pcr : Int, 0 ≤ pcr → pcr < 2 ^ 31 * 27000000 →
      (pcrToVideotime pcr).Normal ∧ (pcrToVideotime pcr).seconds = pcr / 27000000 ∧
        (pcrToVideotime pcr).msecs = 0 ∧
        videotimeToPcr (pcrToVideotime pcr) = pcr - pcr % 27000000) ∧
    ∀ vt : VideoTime, vt.Normal → 0 ≤ vt.msecs → vt.msecs < 1000 → vt.seconds < 2 ^ 31 →
      pcrToVideotime (videotimeToPcr vt) = { vt with msecs := 0 } := by
  refine ⟨fun pcr h₀ h₁ => ?_, fun vt hn hm₀ hm hs => ?_⟩
  · obtain ⟨hn, hs, hm⟩ := pcrToVideotime_spec h₀ h₁
    refine ⟨hn, hs, hm, ?_⟩
    rw [videotimeToPcr_of_normal hn (by omega) (by omega) (by omega), hs, hm]
    have := Int.emod_add_ediv pcr 27000000
    omega
  · have hS : 0 ≤ vt.seconds := by
      simp only [VideoTime.Normal, VideoTime.seconds] at hn ⊢; omega
    have hp := videotimeToPcr_of_normal hn hs hm₀ hm
    obtain ⟨hn', hs', hm'⟩ := pcrToVideotime_spec (show 0 ≤ videotimeToPcr vt by omega) (by omega)
    exact VideoTime.eq_of_normal hn' hn (by rw [hs', hp]; show _ = vt.seconds; omega) hm'

/-- One day, two hours, three minutes and four seconds in both directions: 13 500 ticks past the
second are dropped on the way to a time, and 500 ms on the way back. -/
theorem videotime_round_trip_one_day :
    videotimeToPcr (pcrToVideotime 2532168013500) = 2532168013500 - 2532168013500 % 27000000 ∧
      pcrToVideotime (videotimeToPcr ⟨1, 2, 3, 4, 500⟩) = ⟨1, 2, 3, 4, 0⟩ :=
  ⟨(videotime_round_trip.1 2532168013500 (by decide) (by decide)).2.2.2,
    videotime_round_trip.2 ⟨1, 2, 3, 4, 500⟩ (by decide) (by decide) (by decide) (by decide)⟩

end TsTools
