import TsTools.Format
import TsTools.Slicer.IndexFile

/-!
# Stream times as text: `videotime_to_str` and `str_to_videotime`

`videotime_to_str` (lines 70–80) prints a stream time into `malloc(32)` with
`"%d.%02d:%02d:%02d.%d"`, and `str_to_videotime` (lines 56–68) reads one with
`sscanf` of the same format, returning 0 when all five fields were converted and
-1 otherwise.  Both are the format model of `TsTools.Format` on `videotimeFormat`.

* `strToVideotime_videotimeToStr` — a time of `int` fields, none negative, with
  hours, minutes and seconds of at most two digits, is read back exactly;
* `videotimeToStr_length_le` — its text and NUL fit the 32-byte buffer;
* `videotime_str_round_trip` — so, and the time printed for every PCR value reads
  back;
* `wrapped_duration_rejected` — the duration `indexLoad` prints is taken from the raw
  difference of the last and first PCR; for a recording from one second before the
  PCR wrap to one second after, its fields are negative and `str_to_videotime`
  rejects its text.
-/

namespace TsTools

/-- `"%d.%02d:%02d:%02d.%d"`. -/
def videotimeFormat : List FmtPiece :=
  [.dec none, .lit '.', .dec (some 2), .lit ':', .dec (some 2), .lit ':', .dec (some 2),
    .lit '.', .dec none]

/-- The fields in the order the format takes them. -/
def VideoTime.fields (vt : VideoTime) : List Int :=
  [vt.days, vt.hours, vt.mins, vt.secs, vt.msecs]

/-- `videotime_to_str`: the text `sprintf` writes into `malloc(32)`, without its NUL. -/
def videotimeToStr (vt : VideoTime) : List Char := sprintf videotimeFormat vt.fields

/-- `str_to_videotime`: the return value, and the fields after `sscanf`, which stores the
values it converted, in order, and leaves the others as they were. -/
def strToVideotime (t : List Char) (vt : VideoTime) : Int × VideoTime :=
  let vs := sscanf videotimeFormat t
  (if vs.length = 5 then 0 else -1,
    ⟨vs.getD 0 vt.days, vs.getD 1 vt.hours, vs.getD 2 vt.mins, vs.getD 3 vt.secs,
      vs.getD 4 vt.msecs⟩)

theorem videotimeFormat_separated : Separated videotimeFormat = true := by decide

/-- A field of at most two digits fits `%02d`. -/
theorem fits_two {x : Int} (h₀ : 0 ≤ x) (h : x ≤ 99) :
    ∀ n ∈ some 2, (printDec none x).length ≤ n := by
  rintro n ⟨⟩
  exact printDec_none_length_le h₀ (by omega) (by decide)

section RoundTrip

variable {vt : VideoTime} (hd₀ : 0 ≤ vt.days) (hd : vt.days < 2 ^ 31) (hh₀ : 0 ≤ vt.hours)
  (hh : vt.hours ≤ 99) (hm₀ : 0 ≤ vt.mins) (hm : vt.mins ≤ 99) (hs₀ : 0 ≤ vt.secs)
  (hs : vt.secs ≤ 99) (hms₀ : 0 ≤ vt.msecs) (hms : vt.msecs < 2 ^ 31)
include hd₀ hd hh₀ hh hm₀ hm hs₀ hs hms₀ hms

theorem argsFit_fields : ArgsFit videotimeFormat vt.fields := by
  simp only [videotimeFormat, VideoTime.fields, ArgsFit]
  refine ⟨by omega, hd, by simp, by omega, by omega, fits_two hh₀ hh, by omega, by omega,
    fits_two hm₀ hm, by omega, by omega, fits_two hs₀ hs, by omega, hms, by simp, trivial⟩

/-- **`str_to_videotime` reads what `videotime_to_str` printed**: it returns 0 and stores
every field, whatever the fields held before. -/
theorem strToVideotime_videotimeToStr (old : VideoTime) :
    strToVideotime (videotimeToStr vt) old = (0, vt) := by
  have h : sscanf videotimeFormat (sprintf videotimeFormat vt.fields ++ []) = vt.fields :=
    sscanf_sprintf videotimeFormat_separated (argsFit_fields hd₀ hd hh₀ hh hm₀ hm hs₀ hs hms₀ hms)
      (by simp)
  rw [List.append_nil] at h
  simp only [strToVideotime, videotimeToStr, h]
  simp [VideoTime.fields]

/-- The text and its NUL fit `malloc(32)`: at most ten digits for the days and for the
milliseconds, two for each other field, and four separators. -/
theorem videotimeToStr_length_le : (videotimeToStr vt).length + 1 ≤ 32 := by
  have h₁ := printDec_none_length_le hd₀ (show vt.days.natAbs < 10 ^ 10 by omega) (by decide)
  have h₂ := printDec_none_length_le hms₀ (show vt.msecs.natAbs < 10 ^ 10 by omega) (by decide)
  have h₃ := printDec_length (fits_two hh₀ hh 2 rfl)
  have h₄ := printDec_length (fits_two hm₀ hm 2 rfl)
  have h₅ := printDec_length (fits_two hs₀ hs 2 rfl)
  simp only [videotimeToStr, videotimeFormat, VideoTime.fields, sprintf, List.length_append,
    List.length_cons, List.length_nil, h₃, h₄, h₅]
  omega

end RoundTrip

/-- The time printed for a count of fewer than `2^31` seconds reads back. -/
theorem strToVideotime_pcrToVideotime {pcr : Int} (h₀ : 0 ≤ pcr) (h₁ : pcr < 2 ^ 31 * 27000000)
    (old : VideoTime) :
    strToVideotime (videotimeToStr (pcrToVideotime pcr)) old = (0, pcrToVideotime pcr) := by
  obtain ⟨⟨hd₀, hh₀, hh, hm₀, hm, hs₀, hs⟩, hsec, hms⟩ := pcrToVideotime_spec h₀ h₁
  simp only [VideoTime.seconds] at hsec
  exact strToVideotime_videotimeToStr hd₀ (by omega) hh₀ (by omega) hm₀ (by omega) hs₀
    (by omega) (by omega) (by omega) old

/-- **Round trip of a stream time through its text.**  A time of `int` fields, none negative,
with hours, minutes and seconds of at most two digits, is printed within its 32-byte buffer
and read back exactly by `str_to_videotime`, which returns 0; so is the time printed for every
PCR value. -/
theorem videotime_str_round_trip :
    (∀ vt old : VideoTime, 0 ≤ vt.days → vt.days < 2 ^ 31 → 0 ≤ vt.hours → vt.hours ≤ 99 →
      0 ≤ vt.mins → vt.mins ≤ 99 → 0 ≤ vt.secs → vt.secs ≤ 99 → 0 ≤ vt.msecs →
      vt.msecs < 2 ^ 31 →
        strToVideotime (videotimeToStr vt) old = (0, vt) ∧ (videotimeToStr vt).length + 1 ≤ 32) ∧
    ∀ pcr : Int, 0 ≤ pcr → pcr < maxScrValue → ∀ old : VideoTime,
      strToVideotime (videotimeToStr (pcrToVideotime pcr)) old = (0, pcrToVideotime pcr) :=
  ⟨fun vt old hd₀ hd hh₀ hh hm₀ hm hs₀ hs hms₀ hms =>
    ⟨strToVideotime_videotimeToStr hd₀ hd hh₀ hh hm₀ hm hs₀ hs hms₀ hms old,
      videotimeToStr_length_le hd₀ hd hh₀ hh hm₀ hm hs₀ hs hms₀ hms⟩,
    fun _ h₀ h₁ => strToVideotime_pcrToVideotime h₀ (lt_trans h₁ (by decide))⟩

/-- A time of 5 h 17 min 44 s and 500 ms, and the time printed for the PCR of 5 h 17 min 44 s. -/
theorem videotime_str_round_trip_examples :
    strToVideotime (videotimeToStr ⟨0, 5, 17, 44, 500⟩) ⟨0, 0, 0, 0, 0⟩ =
        (0, ⟨0, 5, 17, 44, 500⟩) ∧
      strToVideotime (videotimeToStr (pcrToVideotime 514728000000)) ⟨0, 0, 0, 0, 0⟩ =
        (0, pcrToVideotime 514728000000) :=
  ⟨(videotime_str_round_trip.1 ⟨0, 5, 17, 44, 500⟩ ⟨0, 0, 0, 0, 0⟩ (by decide) (by decide)
      (by decide) (by decide) (by decide) (by decide) (by decide) (by decide) (by decide)
      (by decide)).1,
    videotime_str_round_trip.2 514728000000 (by decide) (by decide) ⟨0, 0, 0, 0, 0⟩⟩

/-- **A printed duration that does not read back.**  For the recording whose PCRs run from one
second before the wrap to one second after, saved in the spec's layout, `indexLoad` prints the
stream time `-1.-2:-30:-41.0`; `%02d` reads `-3` of `-30`, the `:` then fails to match, and
`str_to_videotime` returns -1. -/
theorem wrapped_duration_rejected :
    ∃ idx, indexLoad specLayout
        (some (indexSave specLayout [⟨maxScrValue - 27000000, 0⟩, ⟨27000000, 188⟩])) =
        .loaded idx ∧ videotimeToStr idx.streamTime = "-1.-2:-30:-41.0".toList ∧
      sscanf videotimeFormat (videotimeToStr idx.streamTime) = [-1, -2, -3] ∧
      (strToVideotime (videotimeToStr idx.streamTime) ⟨0, 0, 0, 0, 0⟩).1 = -1 :=
  ⟨_, indexLoad_indexSave specLayout (List.cons_ne_nil _ _) (by decide), by decide⟩

end TsTools
