import TsTools.Slicer.Index
import TsTools.Clock

/-!
# Slicing a file between two PCRs

`slicer` turns its `-s` and `-e` stream times into PCRs with `videotime_to_pcr`
(the first and last PCR of the index when absent), finds the first index records
at or past them with `indexLookupPCR`, and copies the file from the first
record's offset in blocks of `188 * 64` bytes while the block start is below the
second record's offset (lines 441–477).

* `sliceCopy_eq` — the copy writes the bytes from the start offset up to the
  first multiple of the block size at or past the distance to the end offset,
  cut short only by the end of the file;
* `slicerOutput_eq` — so the slice of any file and index, once both lookups find
  a record;
* `slicerOutput_exact_iff` — the slice is the bytes between the two records
  exactly when their distance is a whole number of blocks;
* `slicer_copies_whole_blocks` — a slice of one packet comes out a whole block
  long.
-/

namespace TsTools

/-- `struct videotime_s`: the `int` fields `sscanf` fills from `-s` or `-e`. -/
structure VideoTime where
  days : Int
  hours : Int
  mins : Int
  secs : Int
  msecs : Int
  deriving Repr, DecidableEq

/-- `videotime_to_pcr`: the products are taken in `int` before they reach the `int64_t`
accumulator. -/
def videotimeToPcr (vt : VideoTime) : Int :=
  (toInt32 (vt.days * 3600 * 24) + toInt32 (vt.hours * 3600) + toInt32 (vt.mins * 60) + vt.secs) *
    27000000 + toInt32 (vt.msecs * 27000)

/-- `indexLookupPCR`: the first record whose PCR is at least `pcr`, `NULL` when none. -/
def indexLookupPCR (index : List PcrPosition) (pcr : Int) : Option PcrPosition :=
  index.find? fun r => decide (pcr ≤ r.pcr)

/-- The lookup is `NULL` exactly when every record's PCR is below the query. -/
theorem indexLookupPCR_eq_none_iff {index : List PcrPosition} {pcr : Int} :
    indexLookupPCR index pcr = none ↔ ∀ r ∈ index, r.pcr < pcr := by
  simp [indexLookupPCR, List.find?_eq_none]

/-- A record at or past the query makes the lookup succeed. -/
theorem indexLookupPCR_of_mem {index : List PcrPosition} {r : PcrPosition} (hr : r ∈ index)
    (pcr : Int) (h : pcr ≤ r.pcr) : ∃ s, indexLookupPCR index pcr = some s :=
  Option.ne_none_iff_exists'.1 fun hn => absurd (indexLookupPCR_eq_none_iff.1 hn r hr) (not_lt.2 h)

/-- Of two lookups in an index whose offsets increase, the one of the smaller PCR finds a record
at an offset no greater than the other's: the first record at or past the larger PCR is at or
past the smaller one too. -/
theorem indexLookupPCR_offset_le {index : List PcrPosition}
    (hoff : index.Pairwise (·.offset < ·.offset)) {p₁ p₂ : Int} (hp : p₁ ≤ p₂) {s e : PcrPosition}
    (hs : indexLookupPCR index p₁ = some s) (he : indexLookupPCR index p₂ = some e) :
    s.offset ≤ e.offset := by
  obtain ⟨-, pre, post, rfl, hpre⟩ := List.find?_eq_some.1 hs
  have hep := List.find?_some he
  rcases List.mem_append.1 (List.mem_of_find?_eq_some he) with h | h
  · have := hpre e h
    simp only [decide_eq_true_eq, Bool.not_eq_true', decide_eq_false_iff_not] at hep this
    omega
  · rcases List.mem_cons.1 h with rfl | h
    · exact le_rfl
    · exact ((List.pairwise_cons.1 (List.pairwise_append.1 hoff).2.1).1 e h).le

/-- The block size of the copy, `188 * 64`. -/
def sliceBlockSize : Nat := 188 * 64

theorem sliceBlockSize_pos : 0 < sliceBlockSize := by decide

/-- The copy loop: while the block start `begin` is below `endOffset`, `fread` up to a block
at the file position and `fwrite` what was read. -/
def sliceCopy (F : List UInt8) (filePos begin endOffset : Nat) : List UInt8 :=
  if begin < endOffset then
    (F.drop filePos).take sliceBlockSize ++
      sliceCopy F (filePos + ((F.drop filePos).take sliceBlockSize).length)
        (begin + sliceBlockSize) endOffset
  else []
termination_by endOffset - begin
decreasing_by
  have := sliceBlockSize_pos
  omega

/-- `pcrStart`: the first PCR of the index, or the `-s` time. -/
def pcrStart (index : List PcrPosition) (optS : Option VideoTime) : Int :=
  (optS.map videotimeToPcr).getD ((index.head?.map (·.pcr)).getD 0)

/-- `pcrEnd`: the last PCR of the index, or the `-e` time. -/
def pcrEnd (index : List PcrPosition) (optE : Option VideoTime) : Int :=
  (optE.map videotimeToPcr).getD ((index.getLast?.map (·.pcr)).getD 0)

/-- The slice `slicer -o` writes, given the file, its index and the `-s` and `-e` times;
`none` where `slicer` dereferences a `NULL` record. -/
def slicerOutput (F : List UInt8) (index : List PcrPosition) (optS optE : Option VideoTime) :
    Option (List UInt8) :=
  match indexLookupPCR index (pcrStart index optS), indexLookupPCR index (pcrEnd index optE) with
  | some s, some e => some (sliceCopy F s.offset s.offset e.offset)
  | _, _ => none

/-- The blocks the copy writes for a distance `d`: `d / blockSize`, rounded up. -/
def copyBlocks (d : Nat) : Nat := (d + sliceBlockSize - 1) / sliceBlockSize

theorem le_copyBlocks_mul (d : Nat) : d ≤ copyBlocks d * sliceBlockSize := by
  have := Nat.lt_div_mul_add (a := d + sliceBlockSize - 1) sliceBlockSize_pos
  unfold copyBlocks
  omega

/-- The blocks cover the distance exactly when it is a whole number of blocks. -/
theorem copyBlocks_mul_eq_iff (d : Nat) :
    copyBlocks d * sliceBlockSize = d ↔ d % sliceBlockSize = 0 := by
  have hB := sliceBlockSize_pos
  constructor
  · intro h
    rw [← h]
    exact Nat.mul_mod_left _ _
  · intro h
    obtain ⟨q, rfl⟩ := Nat.dvd_of_mod_eq_zero h
    have : sliceBlockSize * q + sliceBlockSize - 1 = sliceBlockSize - 1 + sliceBlockSize * q := by
      omega
    rw [copyBlocks, this, Nat.add_mul_div_left _ _ hB, Nat.div_eq_of_lt (by omega), Nat.zero_add,
      Nat.mul_comm]

theorem copyBlocks_succ {d : Nat} (hd : 0 < d) :
    copyBlocks d = copyBlocks (d - sliceBlockSize) + 1 := by
  have hB := sliceBlockSize_pos
  unfold copyBlocks
  by_cases h : sliceBlockSize ≤ d
  · rw [← Nat.add_div_right _ hB]; congr 1; omega
  · have h₁ : (d + sliceBlockSize - 1) / sliceBlockSize = 1 :=
      Nat.div_eq_of_lt_le (by omega) (by omega)
    rw [h₁, Nat.div_eq_of_lt (by omega)]

/-- What a block read leaves behind: the file from a block further on, or nothing once the
file is exhausted. -/
theorem drop_after_block (F : List UInt8) (p : Nat) :
    F.drop (p + ((F.drop p).take sliceBlockSize).length) = (F.drop p).drop sliceBlockSize := by
  rw [List.drop_drop, List.length_take]
  by_cases h : sliceBlockSize ≤ (F.drop p).length
  · rw [min_eq_left h]
  · simp only [List.length_drop, not_le] at h
    rw [min_eq_right (by simp; omega), List.drop_eq_nil_of_le (by simp; omega),
      List.drop_eq_nil_of_le (by omega)]

/-- **The copy.**  It writes the file from `filePos` for as many whole blocks as it takes to
pass `endOffset - begin`, cut short only by the end of the file. -/
theorem sliceCopy_eq (F : List UInt8) (filePos begin endOffset : Nat) :
    sliceCopy F filePos begin endOffset =
      (F.drop filePos).take (copyBlocks (endOffset - begin) * sliceBlockSize) := by
  induction filePos, begin, endOffset using sliceCopy.induct F with
  | case1 p b e h ih =>
    have hc : copyBlocks (e - b) * sliceBlockSize =
        sliceBlockSize + copyBlocks (e - (b + sliceBlockSize)) * sliceBlockSize := by
      rw [copyBlocks_succ (show 0 < e - b by omega), Nat.sub_sub, Nat.succ_mul, Nat.add_comm]
    rw [sliceCopy, if_pos h, ih, drop_after_block, hc, List.take_add]
  | case2 p b e h =>
    rw [sliceCopy, if_neg h, show e - b = 0 by omega]
    rfl

/-! ## The slice -/

section
variable {F : List UInt8} {index : List PcrPosition} {optS optE : Option VideoTime}
  {s e : PcrPosition}

/-- **The slice.**  When both lookups find a record, the slice is the file from the first
record's offset, for as many whole blocks as it takes to pass the second's. -/
theorem slicerOutput_eq (hs : indexLookupPCR index (pcrStart index optS) = some s)
    (he : indexLookupPCR index (pcrEnd index optE) = some e) :
    slicerOutput F index optS optE =
      some ((F.drop s.offset).take (copyBlocks (e.offset - s.offset) * sliceBlockSize)) := by
  simp only [slicerOutput, hs, he, sliceCopy_eq]

/-- With the end record inside the file, the slice is the bytes between the two records
exactly when their distance is a whole number of blocks. -/
theorem slicerOutput_exact_iff (hs : indexLookupPCR index (pcrStart index optS) = some s)
    (he : indexLookupPCR index (pcrEnd index optE) = some e) (hF : e.offset < F.length) :
    slicerOutput F index optS optE = some ((F.drop s.offset).take (e.offset - s.offset)) ↔
      (e.offset - s.offset) % sliceBlockSize = 0 := by
  rw [slicerOutput_eq hs he, Option.some_inj, ← copyBlocks_mul_eq_iff]
  constructor
  · intro h
    rcases Nat.eq_zero_or_pos (e.offset - s.offset) with hd | hd
    · rw [hd]; rfl
    have hl := congrArg List.length h
    have hc := le_copyBlocks_mul (e.offset - s.offset)
    simp only [List.length_take, List.length_drop] at hl
    omega
  · intro h
    rw [h]

/-- One packet between the two records: not a whole block, so the slice is not that packet. -/
theorem slicerOutput_exact_iff_one_packet :
    slicerOutput (List.replicate 12220 (0x47 : UInt8)) [⟨0, 0⟩, ⟨27000000, 188⟩] none none =
        some (((List.replicate 12220 (0x47 : UInt8)).drop 0).take (188 - 0)) ↔
      (188 - 0) % sliceBlockSize = 0 :=
  @slicerOutput_exact_iff (List.replicate 12220 0x47) [⟨0, 0⟩, ⟨27000000, 188⟩] none none ⟨0, 0⟩
    ⟨27000000, 188⟩ rfl rfl (by rw [List.length_replicate]; decide)

end

/-- With an index of PCR 0 at offset 0 and PCR 27000000 at offset 188, over a file of 65
packets, the default bounds select the first packet, and the slice is a whole block. -/
theorem slicer_copies_whole_blocks :
    slicerOutput (List.replicate 12220 (0x47 : UInt8)) [⟨0, 0⟩, ⟨27000000, 188⟩] none none =
      some ((List.replicate 12220 (0x47 : UInt8)).take 12032) := by
  have hs : indexLookupPCR [⟨0, 0⟩, ⟨27000000, 188⟩] (pcrStart [⟨0, 0⟩, ⟨27000000, 188⟩] none) =
      some ⟨0, 0⟩ := rfl
  have he : indexLookupPCR [⟨0, 0⟩, ⟨27000000, 188⟩] (pcrEnd [⟨0, 0⟩, ⟨27000000, 188⟩] none) =
      some ⟨27000000, 188⟩ := rfl
  rw [slicerOutput_eq hs he]
  rfl

end TsTools
