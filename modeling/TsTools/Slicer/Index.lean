import Mathlib.Data.List.Sort
import Mathlib.Data.List.Range

/-!
# The index scan of `slicer`

Without an index file, `slicer` reads its input in chunks of
`((16 * 1048576) / 188) * 188` bytes, hands each to `ltntstools_queryPCRs` with
the file position it was read at, and appends the PCR positions found to
`allPCRs` (lines 384–427).  `ltntstools_queryPCRs` is not part of the repository:
the scan takes it as a parameter, and `QueryOk` is what is assumed of it.

* `indexScan_eq` — from any position the scan reads the chunks at
  `pos, pos + chunk, pos + 2 chunk, ...` while they hold a byte, and the index is
  the concatenation of their records;
* `indexScan_spec` — from the start of any file the index is the records of the
  successive chunks, in order, with offsets strictly increasing, each a multiple
  of 188 and each the start of a whole packet of the file.
-/

namespace TsTools

/-- `struct ltntstools_pcr_position_s`: a PCR and the file offset of its packet. -/
structure PcrPosition where
  pcr : Int
  offset : Nat
  deriving Repr, DecidableEq

/-- The chunk size of the scan. -/
def indexChunkSize : Nat := 16 * 1048576 / 188 * 188

theorem indexChunkSize_pos : 0 < indexChunkSize := by decide

/-- `ltntstools_queryPCRs` on the `rlen` bytes read at a file position: the PCR positions
it finds, or `none` when it fails. -/
abbrev QueryPCRs := List UInt8 → Nat → Option (List PcrPosition)

/-- What is assumed of `ltntstools_queryPCRs` given `rlen` bytes read at `pos`: the records
are at `pos + 188 k` for strictly increasing `k`, each with its packet inside the bytes. -/
def QueryOk (rlen pos : Nat) (arr : List PcrPosition) : Prop :=
  arr.Pairwise (fun a b => a.offset < b.offset) ∧
    ∀ r ∈ arr, ∃ k, r.offset = pos + 188 * k ∧ 188 * (k + 1) ≤ rlen

/-- The chunk `fread` returns at `pos`. -/
def readChunk (F : List UInt8) (pos : Nat) : List UInt8 := (F.drop pos).take indexChunkSize

theorem readChunk_length (F : List UInt8) (pos : Nat) :
    (readChunk F pos).length = min indexChunkSize (F.length - pos) := by
  simp [readChunk, Nat.min_comm]

/-- The scan loop from file position `pos`: read a chunk, append what `ltntstools_queryPCRs`
returns for it, until a read returns nothing. -/
def indexScan (query : QueryPCRs) (F : List UInt8) (pos : Nat) (index : List PcrPosition) :
    List PcrPosition :=
  if _h : readChunk F pos = [] then index
  else indexScan query F (pos + (readChunk F pos).length)
    (index ++ (query (readChunk F pos) pos).getD [])
termination_by F.length - pos
decreasing_by
  have := List.length_pos.2 _h
  have := indexChunkSize_pos
  rw [readChunk_length] at *
  omega

/-- The records of the chunk at `pos`. -/
def chunkRecords (query : QueryPCRs) (F : List UInt8) (pos : Nat) : List PcrPosition :=
  (query (readChunk F pos) pos).getD []

/-- The chunk starts of a file of length `L`: `k * indexChunkSize` for every chunk that holds
a byte. -/
def chunkStarts (L : Nat) : List Nat :=
  (List.range ((L + indexChunkSize - 1) / indexChunkSize)).map (· * indexChunkSize)

/-! ## The chunks the scan reads -/

/-- **The scan, unrolled.**  From position `pos` the scan reads the chunks at
`pos + j * indexChunkSize` while they hold a byte, and appends their records in order. -/
theorem indexScan_eq (query : QueryPCRs) (F : List UInt8) (pos : Nat) (index : List PcrPosition) :
    indexScan query F pos index = index ++
      ((List.range ((F.length - pos + indexChunkSize - 1) / indexChunkSize)).map
        (fun j => pos + j * indexChunkSize)).flatMap (chunkRecords query F) := by
  have hB := indexChunkSize_pos
  induction pos, index using indexScan.induct query F with
  | case1 pos index h =>
    have hl := congrArg List.length h
    rw [readChunk_length, List.length_nil] at hl
    rw [indexScan, dif_pos h, Nat.div_eq_of_lt (by omega)]
    simp only [List.range_zero, List.map_nil, List.flatMap_nil, List.append_nil]
  | case2 pos index h ih =>
    have hl := List.length_pos.2 h
    rw [readChunk_length] at hl
    rw [indexScan, dif_neg h, ih, List.append_assoc, readChunk_length]
    congr 1
    by_cases hlast : F.length - pos ≤ indexChunkSize
    · have h₁ : (F.length - pos + indexChunkSize - 1) / indexChunkSize = 1 :=
        Nat.div_eq_of_lt_le (by omega) (by omega)
      have h₂ : List.range 1 = [0] := rfl
      rw [h₁, h₂, Nat.div_eq_of_lt (by omega), List.range_zero, List.map_nil, List.flatMap_nil,
        List.append_nil, List.map_cons, List.map_nil, List.flatMap_cons, List.flatMap_nil,
        List.append_nil, Nat.zero_mul, Nat.add_zero]
      rfl
    · have hc : F.length - pos + indexChunkSize - 1 =
          (F.length - (pos + indexChunkSize) + indexChunkSize - 1) + indexChunkSize := by omega
      rw [hc, Nat.add_div_right _ hB, List.range_succ_eq_map, min_eq_left (by omega)]
      have e : (fun j => pos + j * indexChunkSize) ∘ Nat.succ =
          fun j => pos + indexChunkSize + j * indexChunkSize := by
        funext j; simp only [Function.comp, Nat.succ_mul]; omega
      rw [List.map_cons, List.flatMap_cons, List.map_map, e, Nat.zero_mul, Nat.add_zero]
      rfl

/-- The chunk starts the scan reads from the start of a file. -/
theorem indexScan_zero (query : QueryPCRs) (F : List UInt8) :
    indexScan query F 0 [] = (chunkStarts F.length).flatMap (chunkRecords query F) := by
  rw [indexScan_eq, List.nil_append, Nat.sub_zero]
  simp only [Nat.zero_add, chunkStarts]

/-! ## The index -/

section
variable {query : QueryPCRs}
  (hq : ∀ chunk pos arr, query chunk pos = some arr → QueryOk chunk.length pos arr)
include hq

theorem mem_chunkRecords {F : List UInt8} {pos : Nat} {r : PcrPosition}
    (hr : r ∈ chunkRecords query F pos) :
    ∃ k, r.offset = pos + 188 * k ∧ 188 * (k + 1) ≤ min indexChunkSize (F.length - pos) := by
  unfold chunkRecords at hr
  cases e : query (readChunk F pos) pos with
  | none => simp [e] at hr
  | some arr =>
    rw [e, Option.getD_some] at hr
    rw [← readChunk_length]
    exact (hq _ _ _ e).2 r hr

theorem chunkRecords_pairwise (F : List UInt8) (pos : Nat) :
    (chunkRecords query F pos).Pairwise (fun a b => a.offset < b.offset) := by
  unfold chunkRecords
  cases e : query (readChunk F pos) pos with
  | none => exact List.Pairwise.nil
  | some arr => exact (hq _ _ _ e).1

/-- **The index.**  From the start of any file, the scan's index is the records of the
successive chunks, in order; its offsets strictly increase, and each is a multiple of 188
and the start of a whole packet of the file. -/
theorem indexScan_spec (F : List UInt8) :
    indexScan query F 0 [] = (chunkStarts F.length).flatMap (chunkRecords query F) ∧
      (indexScan query F 0 []).Pairwise (fun a b => a.offset < b.offset) ∧
      ∀ r ∈ indexScan query F 0 [], r.offset % 188 = 0 ∧ r.offset + 188 ≤ F.length := by
  have hB : indexChunkSize = 188 * 89240 := rfl
  rw [indexScan_zero]
  refine ⟨rfl, ?_, fun r hr => ?_⟩
  · rw [List.pairwise_flatMap]
    refine ⟨fun pos _ => chunkRecords_pairwise hq F pos, ?_⟩
    rw [chunkStarts, List.pairwise_map]
    refine (List.pairwise_lt_range _).imp fun {j₁ j₂} hj x hx y hy => ?_
    obtain ⟨k₁, hk₁, hb₁⟩ := mem_chunkRecords hq hx
    obtain ⟨k₂, hk₂, -⟩ := mem_chunkRecords hq hy
    have : (j₁ + 1) * indexChunkSize ≤ j₂ * indexChunkSize := Nat.mul_le_mul_right _ hj
    rw [Nat.succ_mul] at this
    omega
  · obtain ⟨pos, hpos, hr⟩ := List.mem_flatMap.1 hr
    obtain ⟨k, hk, hb⟩ := mem_chunkRecords hq hr
    obtain ⟨j, -, rfl⟩ := List.mem_map.1 hpos
    refine ⟨?_, by omega⟩
    rw [hk, hB, Nat.mul_left_comm, ← Nat.mul_add]
    exact Nat.mul_mod_right _ _

end

/-- A query that reports the first packet of every chunk holding one meets the assumption,
here on a file of two packets. -/
theorem indexScan_spec_first_packets :
    let query : QueryPCRs := fun chunk pos => if 188 ≤ chunk.length then some [⟨0, pos⟩] else none
    let F := List.replicate 376 (0x47 : UInt8)
    indexScan query F 0 [] = (chunkStarts F.length).flatMap (chunkRecords query F) ∧
      (indexScan query F 0 []).Pairwise (fun a b => a.offset < b.offset) ∧
      ∀ r ∈ indexScan query F 0 [], r.offset % 188 = 0 ∧ r.offset + 188 ≤ F.length := by
  intro query F
  refine indexScan_spec (fun chunk pos arr h => ?_) F
  simp only [query] at h
  split_ifs at h with hl
  cases h
  exact ⟨List.pairwise_singleton _ _, fun r hr => ⟨0, by simp_all, by simpa using hl⟩⟩

end TsTools
