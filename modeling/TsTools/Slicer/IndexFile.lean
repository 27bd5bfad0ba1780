import TsTools.Clock
import TsTools.Slicer.VideoTime

/-!
# The index file: `indexSave` and `indexLoad`

`indexSave` (lines 100–111) writes the index array to `<input>.idx` with one
`fwrite` of `allPCRLength` records.  `indexLoad` (lines 113–153) reads the whole
file into a buffer of its length, takes `allPCRLength` as that length over
`sizeof(struct ltntstools_pcr_position_s)`, and reads the PCR of the first and
of the last record, from which it derives the duration and the stream time.  It
returns -1 only when the file cannot be opened.

* `RecordLayout` — the library's record in memory, a parameter, with `specLayout`
  the spec's packing of it;
* `indexLoad_indexSave` — a non-empty index of records whose fields fit their C
  types comes back unchanged, with its first and last PCR;
* `indexLoad_short` — on a file shorter than one record, the empty index
  included, `indexLoad` reads records outside its buffer;
* `indexLoad_long` — a file of at least one record is loaded whatever its length,
  a partial record at its end ignored;
* `indexLoad_scan_without_pcr` — a scan that finds no PCR writes the empty index,
  and `indexLoad` then reads outside its buffer.
-/

namespace TsTools

/-! ## Records in memory -/

/-- The C types of the fields: `pcr` an `int64_t`, `offset` a `uint64_t`. -/
def PcrPosition.Fits (r : PcrPosition) : Prop :=
  -2 ^ 63 ≤ r.pcr ∧ r.pcr < 2 ^ 63 ∧ r.offset < 2 ^ 64

instance (r : PcrPosition) : Decidable r.Fits :=
  inferInstanceAs (Decidable (-2 ^ 63 ≤ r.pcr ∧ r.pcr < 2 ^ 63 ∧ r.offset < 2 ^ 64))

/-- `struct ltntstools_pcr_position_s` in memory.  The struct belongs to the library, so its
layout is a parameter: a positive `sizeof`, an image of that size for each record, and a
reading of an image that gives back every record whose fields fit their C types. -/
structure RecordLayout where
  size : Nat
  encode : PcrPosition → List UInt8
  decode : List UInt8 → PcrPosition
  size_pos : 0 < size
  encode_length : ∀ r, (encode r).length = size
  decode_encode : ∀ r, r.Fits → decode (encode r) = r

/-! ## A layout -/

/-- The `n` bytes of `x` in little-endian order. -/
def leBytes : Nat → Nat → List UInt8
  | 0, _ => []
  | n + 1, x => UInt8.ofNat x :: leBytes n (x / 256)

/-- The number a little-endian byte string denotes. -/
def leValue : List UInt8 → Nat
  | [] => 0
  | b :: bs => b.toNat + 256 * leValue bs

theorem leBytes_length (n x : Nat) : (leBytes n x).length = n := by
  induction n generalizing x with
  | zero => rfl
  | succ n ih => rw [leBytes, List.length_cons, ih]

theorem leValue_leBytes (n x : Nat) : leValue (leBytes n x) = x % 256 ^ n := by
  induction n generalizing x with
  | zero => rw [Nat.pow_zero, Nat.mod_one]; rfl
  | succ n ih =>
    rw [leBytes, leValue, ih, Nat.pow_succ', Nat.mod_mul]
    rfl

/-- Modelled from the spec (`PcrPosition`): `byte_offset` as a `u64`, `pid` as a `u16` (not
modelled, written as zero) padded to eight bytes, and `pcr` as an `i64`, little-endian:
24 bytes. -/
def specLayout : RecordLayout where
  size := 24
  encode r := leBytes 8 r.offset ++ leBytes 8 0 ++ leBytes 8 (r.pcr % 2 ^ 64).toNat
  decode b := ⟨toInt64 (leValue ((b.drop 16).take 8)), leValue (b.take 8)⟩
  size_pos := by decide
  encode_length r := by simp only [List.length_append, leBytes_length]
  decode_encode r h := by
    obtain ⟨h₁, h₂, h₃⟩ := h
    have e₁ : (leBytes 8 r.offset ++ leBytes 8 0 ++ leBytes 8 (r.pcr % 2 ^ 64).toNat).take 8 =
        leBytes 8 r.offset := by
      rw [List.append_assoc, List.take_left' (leBytes_length 8 _)]
    have e₂ : ((leBytes 8 r.offset ++ leBytes 8 0 ++ leBytes 8 (r.pcr % 2 ^ 64).toNat).drop 16).take
        8 = leBytes 8 (r.pcr % 2 ^ 64).toNat := by
      rw [List.drop_left' (by simp only [List.length_append, leBytes_length]),
        List.take_of_length_le (by rw [leBytes_length])]
    have hm : (0 : Int) ≤ r.pcr % 2 ^ 64 := Int.emod_nonneg _ (by decide)
    have h64 : ((2 ^ 64 : Nat) : Int) = 2 ^ 64 := by push_cast
    dsimp only
    rw [e₁, e₂, leValue_leBytes, Nat.mod_eq_of_lt (by omega), Int.toNat_of_nonneg hm,
      leValue_leBytes, Nat.mod_eq_of_lt (by omega), toInt64, ← h64, Int.emod_bmod,
      ← toInt64, toInt64_of_mem h₁ h₂]

/-! ## `indexSave` and `indexLoad` -/

/-- `indexSave`: the images of the `allPCRLength` records, in order. -/
def indexSave (L : RecordLayout) (allPCRs : List PcrPosition) : List UInt8 :=
  allPCRs.flatMap L.encode

/-- `allPCRs + i` on a buffer holding the file. -/
def recordAt (L : RecordLayout) (buf : List UInt8) (i : Nat) : PcrPosition :=
  L.decode ((buf.drop (i * L.size)).take L.size)

/-- `(allPCRs + i)->pcr` on the buffer `malloc(fileLength)`: defined when the record lies inside
the buffer. -/
def readRecord (L : RecordLayout) (buf : List UInt8) (i : Int) : Option PcrPosition :=
  if 0 ≤ i ∧ (i + 1) * L.size ≤ buf.length then some (recordAt L buf i.toNat) else none

/-- The fields `indexLoad` sets. -/
structure LoadedIndex where
  allPCRs : List PcrPosition
  allPCRLength : Int
  pcrMin : Int
  pcrMax : Int
  pcrDuration : Int
  streamTime : VideoTime
  deriving Repr, DecidableEq

/-- How `indexLoad` ends. -/
inductive LoadOutcome where
  /-- `fopen` fails: `index not found`, and -1. -/
  | missing
  /-- 0, with the fields set. -/
  | loaded (idx : LoadedIndex)
  /-- `allPCRs->pcr` or `(allPCRs + allPCRLength - 1)->pcr` reads outside the buffer. -/
  | outOfBounds
  deriving Repr, DecidableEq

/-- The fields `indexLoad` sets from a buffer of `n` whole records, and the first and last. -/
def LoadedIndex.ofRecords (L : RecordLayout) (buf : List UInt8) (first last : PcrPosition) :
    LoadedIndex :=
  let pcrDuration := toInt64 (last.pcr - first.pcr)
  ⟨(List.range (buf.length / L.size)).map (recordAt L buf), (buf.length / L.size : Nat),
    first.pcr, last.pcr, pcrDuration, pcrToVideotime pcrDuration⟩

/-- `indexLoad` on the content of `<input>.idx`, `none` when the file cannot be opened.  The
difference `pcrMax - pcrMin` is an `int64_t`. -/
def indexLoad (L : RecordLayout) : Option (List UInt8) → LoadOutcome
  | none => .missing
  | some buf =>
    let allPCRLength : Int := (buf.length / L.size : Nat)
    match readRecord L buf 0, readRecord L buf (allPCRLength - 1) with
    | some first, some last => .loaded (LoadedIndex.ofRecords L buf first last)
    | _, _ => .outOfBounds

/-! ## What `indexLoad` does with any file -/

section
variable (L : RecordLayout) (buf : List UInt8)

/-- **A file shorter than one record**, the empty one included: the last record is
`allPCRs[-1]`, before the buffer. -/
theorem indexLoad_short (h : buf.length < L.size) : indexLoad L (some buf) = .outOfBounds := by
  have hn : buf.length / L.size = 0 := Nat.div_eq_of_lt h
  have hr : readRecord L buf (((buf.length / L.size : Nat) : Int) - 1) = none := by
    rw [hn, readRecord, if_neg (by omega)]
  simp only [indexLoad, hr]
  split <;> simp_all

/-- **A file of at least one record**: loaded, with as many records as it holds whole, from the
first to the last whole one; a partial record at the end is ignored. -/
theorem indexLoad_long (h : L.size ≤ buf.length) :
    indexLoad L (some buf) = .loaded (LoadedIndex.ofRecords L buf (recordAt L buf 0)
      (recordAt L buf (buf.length / L.size - 1))) := by
  have hn : 1 ≤ buf.length / L.size := (Nat.one_le_div_iff L.size_pos).2 h
  have hl : (buf.length / L.size) * L.size ≤ buf.length := Nat.div_mul_le_self _ _
  have h₀ : readRecord L buf 0 = some (recordAt L buf 0) := by
    rw [readRecord, if_pos ⟨le_refl _, by push_cast; omega⟩]; rfl
  have h₁ : readRecord L buf (((buf.length / L.size : Nat) : Int) - 1) =
      some (recordAt L buf (buf.length / L.size - 1)) := by
    have hc : 0 ≤ ((buf.length / L.size : Nat) : Int) - 1 ∧
        (((buf.length / L.size : Nat) : Int) - 1 + 1) * L.size ≤ buf.length :=
      ⟨by omega, by rw [sub_add_cancel]; exact_mod_cast hl⟩
    rw [readRecord, if_pos hc]
    congr 2
    omega
  simp only [indexLoad, h₀, h₁]

/-- A loaded index starts with a record of PCR `pcrMin` and ends with one of PCR `pcrMax`. -/
theorem indexLoad_loaded_ends {f : Option (List UInt8)} {idx : LoadedIndex}
    (h : indexLoad L f = .loaded idx) :
    idx.allPCRs.head?.map (·.pcr) = some idx.pcrMin ∧
      idx.allPCRs.getLast?.map (·.pcr) = some idx.pcrMax := by
  obtain _ | buf := f
  · cases h
  by_cases hs : buf.length < L.size
  · rw [indexLoad_short L buf hs] at h; cases h
  rw [indexLoad_long L buf (by omega)] at h
  cases h
  obtain ⟨n, hn⟩ : ∃ n, buf.length / L.size = n + 1 :=
    ⟨_, (Nat.sub_add_cancel ((Nat.one_le_div_iff L.size_pos).2 (by omega))).symm⟩
  exact ⟨by simp [LoadedIndex.ofRecords, hn, List.range_succ_eq_map],
    by simp [LoadedIndex.ofRecords, hn, List.range_succ]⟩

end

/-! ## The round trip -/

theorem indexSave_length (L : RecordLayout) (v : List PcrPosition) :
    (indexSave L v).length = v.length * L.size := by
  induction v with
  | nil => simp [indexSave]
  | cons r v ih =>
    rw [indexSave, List.flatMap_cons, List.length_append, ← indexSave, ih, L.encode_length,
      List.length_cons, Nat.succ_mul, Nat.add_comm]

theorem drop_indexSave (L : RecordLayout) (v : List PcrPosition) (i : Nat) :
    (indexSave L v).drop (i * L.size) = indexSave L (v.drop i) := by
  induction v generalizing i with
  | nil => simp [indexSave]
  | cons r v ih =>
    cases i with
    | zero => simp
    | succ i =>
      have e : (i + 1) * L.size = (L.encode r).length + i * L.size := by
        rw [L.encode_length, Nat.succ_mul, Nat.add_comm]
      rw [e, indexSave, List.flatMap_cons, List.drop_append, ← indexSave, ih, List.drop_succ_cons]

/-- Record `i` of a saved index is the image of the `i`-th record, read back. -/
theorem recordAt_indexSave (L : RecordLayout) {v : List PcrPosition} {i : Nat}
    (hi : i < v.length) : recordAt L (indexSave L v) i = L.decode (L.encode v[i]) := by
  rw [recordAt, drop_indexSave, List.drop_eq_getElem_cons hi, indexSave, List.flatMap_cons,
    List.take_left' (L.encode_length _)]

/-- **The round trip.**  A non-empty index whose records fit their C types is loaded back as
it was saved: the same records, their number, and the PCRs of the first and the last. -/
theorem indexLoad_indexSave (L : RecordLayout) {v : List PcrPosition} (hv : v ≠ [])
    (hfit : ∀ r ∈ v, r.Fits) :
    indexLoad L (some (indexSave L v)) = .loaded
      { allPCRs := v
        allPCRLength := v.length
        pcrMin := (v.head hv).pcr
        pcrMax := (v.getLast hv).pcr
        pcrDuration := toInt64 ((v.getLast hv).pcr - (v.head hv).pcr)
        streamTime := pcrToVideotime (toInt64 ((v.getLast hv).pcr - (v.head hv).pcr)) } := by
  have hlen : (indexSave L v).length / L.size = v.length := by
    rw [indexSave_length, Nat.mul_div_cancel _ L.size_pos]
  have hpos : 0 < v.length := List.length_pos.2 hv
  have hrec : ∀ i (hi : i < v.length), recordAt L (indexSave L v) i = v[i] := fun i hi => by
    rw [recordAt_indexSave L hi, L.decode_encode _ (hfit _ (List.getElem_mem _))]
  rw [indexLoad_long L _ (by rw [indexSave_length]; exact Nat.le_mul_of_pos_left _ hpos),
    LoadedIndex.ofRecords, hlen, hrec 0 hpos, hrec _ (by omega), List.getElem_zero,
    List.getLast_eq_getElem]
  congr
  exact List.ext_getElem (by simp) fun i h₁ _ => by simp [hrec i (by simpa using h₁)]

example : indexLoad specLayout (some (indexSave specLayout [⟨-5, 188⟩, ⟨27000000, 376⟩])) =
    .loaded ⟨[⟨-5, 188⟩, ⟨27000000, 376⟩], 2, -5, 27000000, 27000005, ⟨0, 0, 0, 1, 0⟩⟩ := by
  decide

/-! ## The scan that finds no PCR -/

/-- A file in which `ltntstools_queryPCRs` finds no PCR: the scan writes the empty index, and
`indexLoad` then reads `allPCRs[0]` and `allPCRs[-1]` of an empty buffer instead of returning
-1. -/
theorem indexLoad_scan_without_pcr (L : RecordLayout) (F : List UInt8) :
    indexSave L (indexScan (fun _ _ => some []) F 0 []) = [] ∧
      indexLoad L (some (indexSave L (indexScan (fun _ _ => some []) F 0 []))) = .outOfBounds := by
  have h : indexSave L (indexScan (fun _ _ => some []) F 0 []) = [] := by
    simp [indexScan_zero, chunkRecords, indexSave]
  exact ⟨h, by rw [h]; exact indexLoad_short L [] L.size_pos⟩


end TsTools
