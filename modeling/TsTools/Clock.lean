import Mathlib.Algebra.Group.Int

/-!
# Clock arithmetic of the 27 MHz and 90 kHz domains

`slicer.c` (the PCR slicer and the clock inspector) works on the 27 MHz system
clock carried in PCRs and on the 33-bit 90 kHz clock of PTS and DTS.  The
wrap-aware helpers it calls, `ltntstools_pts_diff` and `ltntstools_scr_diff`,
and the constants `MAX_PTS_VALUE` and `MAX_SCR_VALUE` live in libltntstools,
which is not part of the repository; they are modelled here from the spec
(§4.A, §3): the forward distance from `a` to `b` modulo the clock's range.

The C conversions the inspector relies on are made explicit:

* `toInt64` — a `uint64_t` difference read back as `int64_t`;
* `toInt32` — a product or a conversion stored in an `int`;
* `toUInt64` — a signed threshold converted to `uint64_t` in a mixed comparison;
* `ptsTicksToMs` — C division, which truncates towards zero.
-/

namespace TsTools

/-- Modelled from the spec: `MAX_PTS_VALUE`, the range of the 33-bit 90 kHz clock. -/
def maxPtsValue : Int := 2 ^ 33

/-- Modelled from the spec: `MAX_SCR_VALUE`, the range of the 27 MHz clock. -/
def maxScrValue : Int := 2 ^ 33 * 300

/-- Modelled from the spec: `ltntstools_pts_diff(a, b)`, the forward distance from `a` to `b`
on the 90 kHz clock (`b - a`, plus the modulus when negative). -/
def ptsDiff (a b : Int) : Int := (b - a) % maxPtsValue

/-- Modelled from the spec: `ltntstools_scr_diff(a, b)`, the forward distance from `a` to `b`
on the 27 MHz clock. -/
def scrDiff (a b : Int) : Int := (b - a) % maxScrValue

/-- Modelled from the spec (§4.A, wrap arithmetic): the wrap-aware signed distance from `a`
to `b` on the 27 MHz clock, the representative of `b - a` modulo `MAX_SCR_VALUE` in
`[-MAX_SCR_VALUE / 2, MAX_SCR_VALUE / 2)`. -/
def scrSignedDiff (a b : Int) : Int :=
  if scrDiff a b < maxScrValue / 2 then scrDiff a b else scrDiff a b - maxScrValue

/-- Modelled from the spec: `PTS_TICKS_TO_MS(t)`, the C quotient of 90 kHz ticks by 90. -/
def ptsTicksToMs (t : Int) : Int := t.tdiv 90

/-- A 64-bit two's complement value read as `int64_t`. -/
def toInt64 (x : Int) : Int := x.bmod (2 ^ 64)

/-- A value that fits an `int64_t` is kept. -/
theorem toInt64_of_mem {x : Int} (h₁ : -2 ^ 63 ≤ x) (h₂ : x < 2 ^ 63) : toInt64 x = x := by
  unfold toInt64 Int.bmod
  push_cast
  split <;> omega

/-- Modelled from the C rules for `int`: a product that leaves 32 bits wraps. -/
def toInt32 (x : Int) : Int := x.bmod (2 ^ 32)

/-- A value that fits an `int` is kept. -/
theorem toInt32_of_mem {x : Int} (h₁ : -2 ^ 31 ≤ x) (h₂ : x < 2 ^ 31) : toInt32 x = x := by
  unfold toInt32 Int.bmod
  push_cast
  split <;> omega

/-- An `int` keeps a value exactly when the value fits it. -/
theorem toInt32_eq_self_iff {x : Int} : toInt32 x = x ↔ -2 ^ 31 ≤ x ∧ x < 2 ^ 31 := by
  refine ⟨fun h => ?_, fun h => toInt32_of_mem h.1 h.2⟩
  have h₁ : -(((2 ^ 32 : Nat) : Int) / 2) ≤ toInt32 x := Int.le_bmod (by decide)
  have h₂ : toInt32 x < (((2 ^ 32 : Nat) : Int) + 1) / 2 := Int.bmod_lt (by decide)
  rw [h] at h₁ h₂
  push_cast at h₁ h₂
  omega

/-- A signed value converted to `uint64_t`. -/
def toUInt64 (x : Int) : Int := x % 2 ^ 64

theorem ptsDiff_nonneg (a b : Int) : 0 ≤ ptsDiff a b :=
  Int.emod_nonneg _ (by decide)

theorem ptsDiff_lt (a b : Int) : ptsDiff a b < maxPtsValue :=
  Int.emod_lt_of_pos _ (by decide)

theorem scrDiff_nonneg (a b : Int) : 0 ≤ scrDiff a b :=
  Int.emod_nonneg _ (by decide)

theorem scrDiff_lt (a b : Int) : scrDiff a b < maxScrValue :=
  Int.emod_lt_of_pos _ (by decide)

@[simp] theorem scrDiff_self (a : Int) : scrDiff a a = 0 := by
  simp [scrDiff]

/-- The raw difference is the wrap-aware one exactly when it lies within half the clock's
range. -/
theorem scrSignedDiff_eq_sub_iff (a b : Int) :
    scrSignedDiff a b = b - a ↔ -(maxScrValue / 2) ≤ b - a ∧ b - a < maxScrValue / 2 := by
  unfold scrSignedDiff scrDiff maxScrValue
  split <;> omega

/-- On the values it is used for, C division of the non-negative SCR distance is the
library's `/`. -/
theorem scrDiff_tdiv (a b : Int) (d : Int) (hd : 0 ≤ d) : (scrDiff a b).tdiv d = scrDiff a b / d :=
  Int.tdiv_eq_ediv (scrDiff_nonneg a b) hd

end TsTools
