import Mathlib.Data.List.Sort

/-!
# The ordered PTS list of reorder mode (`-R`)

In reorder mode `processPESHeader` hands every PTS of a PID to
`ordered_clock_insert`, which keeps the PID's list in ascending PTS order so
that `ordered_clock_dump` can print display-order intervals at shutdown.  The
insertion walks the list from its tail (`xorg_list_for_each_entry_reverse`) and
links the new entry behind the first one whose clock is at most its own.

The walk has no case for an entry smaller than everything in the list: the loop
ends and the copy is never linked in.  This file models the insertion as the
source has it and proves what the list of a PID really holds:

* `orderedClockInsert_of_le` — when some entry is at most the new clock, the
  insertion is the stable sorted insertion `sortedInsert` the spec describes;
* `orderedClockInsert_of_lt` — when every entry is larger, the list is unchanged;
* `orderedClockRun_cons` — after any insertion sequence the list is the stable
  sort of the first item and of those later items whose clock is at least the
  first one's: every PTS below the PID's first PTS is lost;
* `orderedClockRun_drops_b_frame` — a concrete leading B-frame that is lost.
-/

namespace TsTools

/-- `struct ordered_clock_item_s`, without its list links. -/
structure OrderedClockItem where
  nr : Nat
  clock : Int
  filepos : Nat
  deriving Repr, DecidableEq

/-- The backward walk of `ordered_clock_insert` over the list read from its tail: `src` is
linked in behind the first entry whose clock is at most its own.  The result is again read
from the tail; `none` when the walk ends without finding such an entry. -/
def insertFromTail (src : OrderedClockItem) : List OrderedClockItem → Option (List OrderedClockItem)
  | [] => none
  | item :: rest =>
    if item.clock ≤ src.clock then some (src :: item :: rest)
    else (insertFromTail src rest).map (item :: ·)

/-- `ordered_clock_insert`: an empty list takes `src` as its only entry
(`xorg_list_append`); otherwise the backward walk places it, and a walk that finds no
entry at most `src.clock` leaves the list as it was. -/
def orderedClockInsert (list : List OrderedClockItem) (src : OrderedClockItem) :
    List OrderedClockItem :=
  if list = [] then [src]
  else match insertFromTail src list.reverse with
    | some r => r.reverse
    | none => list

/-- The list of a PID after `ordered_clock_init` and the insertion of `items` in order. -/
def orderedClockRun (items : List OrderedClockItem) : List OrderedClockItem :=
  items.foldl orderedClockInsert []

/-! ## The insertion the spec describes -/

/-- Stable sorted insertion (spec §4.K): behind every entry whose clock is at most the new
one, so at the head when there is none. -/
def sortedInsert (src : OrderedClockItem) : List OrderedClockItem → List OrderedClockItem
  | [] => [src]
  | y :: ys => if src.clock < y.clock then src :: y :: ys else y :: sortedInsert src ys

/-- The stable sort by clock of an insertion sequence. -/
def stableSortByClock (items : List OrderedClockItem) : List OrderedClockItem :=
  items.foldl (fun l x => sortedInsert x l) []

/-- Ascending by clock. -/
def ClockSorted (l : List OrderedClockItem) : Prop :=
  l.Sorted (fun a b => a.clock ≤ b.clock)

theorem mem_sortedInsert {src z : OrderedClockItem} {l : List OrderedClockItem} :
    z ∈ sortedInsert src l ↔ z = src ∨ z ∈ l := by
  induction l with
  | nil => simp [sortedInsert]
  | cons y ys ih =>
    unfold sortedInsert
    split <;> simp [ih, or_left_comm]

theorem sortedInsert_sorted {src : OrderedClockItem} {l : List OrderedClockItem}
    (hl : ClockSorted l) : ClockSorted (sortedInsert src l) := by
  induction l with
  | nil => simp [sortedInsert, ClockSorted]
  | cons y ys ih =>
    rw [ClockSorted, List.sorted_cons] at hl
    unfold sortedInsert
    split
    · rename_i hlt
      refine List.sorted_cons.2 ⟨?_, List.sorted_cons.2 hl⟩
      intro b hb
      rcases List.mem_cons.1 hb with rfl | hb
      · exact hlt.le
      · exact le_trans hlt.le (hl.1 b hb)
    · refine List.sorted_cons.2 ⟨?_, ih hl.2⟩
      intro b hb
      rcases mem_sortedInsert.1 hb with rfl | hb
      · omega
      · exact hl.1 b hb

/-- A list sorted by clock splits into the entries at most `c` followed by those above it. -/
theorem ClockSorted.split {l : List OrderedClockItem} (hl : ClockSorted l) (c : Int) :
    ∃ a b, l = a ++ b ∧ (∀ z ∈ a, z.clock ≤ c) ∧ ∀ z ∈ b, c < z.clock := by
  induction l with
  | nil => exact ⟨[], [], rfl, by simp, by simp⟩
  | cons y ys ih =>
    rw [ClockSorted, List.sorted_cons] at hl
    by_cases hy : y.clock ≤ c
    · obtain ⟨a, b, rfl, ha, hb⟩ := ih hl.2
      exact ⟨y :: a, b, rfl, by simpa [hy] using ha, hb⟩
    · refine ⟨[], y :: ys, rfl, by simp, ?_⟩
      intro z hz
      rcases List.mem_cons.1 hz with rfl | hz
      · omega
      · have := hl.1 z hz; omega

theorem sortedInsert_split {src : OrderedClockItem} {a b : List OrderedClockItem}
    (ha : ∀ z ∈ a, z.clock ≤ src.clock) (hb : ∀ z ∈ b, src.clock < z.clock) :
    sortedInsert src (a ++ b) = a ++ src :: b := by
  induction a with
  | nil =>
    cases b with
    | nil => rfl
    | cons y ys => simp [sortedInsert, hb y (List.mem_cons_self _ _)]
  | cons y ys ih =>
    have hy := ha y (List.mem_cons_self _ _)
    rw [List.cons_append, sortedInsert, if_neg (not_lt.2 hy),
      ih fun z hz => ha z (List.mem_cons_of_mem _ hz), List.cons_append]

/-! ## The backward walk -/

theorem insertFromTail_of_lt {src : OrderedClockItem} {bs : List OrderedClockItem}
    (hb : ∀ z ∈ bs, src.clock < z.clock) (rest : List OrderedClockItem) :
    insertFromTail src (bs ++ rest) = (insertFromTail src rest).map (bs ++ ·) := by
  induction bs with
  | nil => simp
  | cons y ys ih =>
    have hy := hb y (List.mem_cons_self _ _)
    rw [List.cons_append, insertFromTail, if_neg (not_le.2 hy),
      ih fun z hz => hb z (List.mem_cons_of_mem _ hz), Option.map_map]
    rfl

/-- When some entry is at most the new clock, `ordered_clock_insert` is the stable sorted
insertion. -/
theorem orderedClockInsert_of_le {l : List OrderedClockItem} {src : OrderedClockItem}
    (hl : ClockSorted l) (hz : ∃ z ∈ l, z.clock ≤ src.clock) :
    orderedClockInsert l src = sortedInsert src l := by
  obtain ⟨a, b, rfl, ha, hb⟩ := hl.split src.clock
  obtain ⟨y, as, hya⟩ : ∃ y as, a.reverse = y :: as := by
    cases h : a.reverse with
    | nil =>
      obtain ⟨z, hzm, hzc⟩ := hz
      have : z ∈ b := by simpa [List.reverse_eq_nil_iff.1 h] using hzm
      exact absurd hzc (not_le.2 (hb z this))
    | cons y as => exact ⟨y, as, rfl⟩
  have hy : y.clock ≤ src.clock := ha y (List.mem_reverse.1 (hya ▸ List.mem_cons_self _ _))
  have hne : a ++ b ≠ [] := by
    intro h
    simp_all
  have hrev : b.reverse ++ src :: y :: as = (a ++ src :: b).reverse := by
    simp [List.reverse_append, hya]
  rw [orderedClockInsert, if_neg hne, List.reverse_append, hya,
    insertFromTail_of_lt (by simpa using hb), insertFromTail, if_pos hy]
  simp only [Option.map_some']
  rw [hrev, List.reverse_reverse, sortedInsert_split ha hb]

/-- When every entry is above the new clock, `ordered_clock_insert` leaves the list
unchanged: the new entry is lost. -/
theorem orderedClockInsert_of_lt {l : List OrderedClockItem} {src : OrderedClockItem}
    (hne : l ≠ []) (hl : ∀ z ∈ l, src.clock < z.clock) : orderedClockInsert l src = l := by
  have h := @insertFromTail_of_lt src l.reverse (by simpa using hl) []
  rw [List.append_nil] at h
  rw [orderedClockInsert, if_neg hne, h]
  rfl

/-! ## Whole runs -/

/-- The invariant of a PID's list in reorder mode: sorted, and every clock at least the
first inserted clock `c`, which some entry still carries. -/
def FirstIsMin (c : Int) (l : List OrderedClockItem) : Prop :=
  ClockSorted l ∧ (∀ z ∈ l, c ≤ z.clock) ∧ ∃ z ∈ l, z.clock = c

theorem firstIsMin_sortedInsert {c : Int} {l : List OrderedClockItem} {y : OrderedClockItem}
    (h : FirstIsMin c l) (hy : c ≤ y.clock) : FirstIsMin c (sortedInsert y l) := by
  obtain ⟨hs, hmin, z, hz, hzc⟩ := h
  refine ⟨sortedInsert_sorted hs, ?_, z, mem_sortedInsert.2 (.inr hz), hzc⟩
  intro w hw
  rcases mem_sortedInsert.1 hw with rfl | hw
  · exact hy
  · exact hmin w hw

theorem foldl_orderedClockInsert {c : Int} (xs : List OrderedClockItem) :
    ∀ l, FirstIsMin c l →
      xs.foldl orderedClockInsert l =
        (xs.filter fun y => c ≤ y.clock).foldl (fun l x => sortedInsert x l) l := by
  induction xs with
  | nil => intro l _; rfl
  | cons y ys ih =>
    intro l hl
    obtain ⟨hs, hmin, z, hz, hzc⟩ := hl
    by_cases hy : c ≤ y.clock
    · rw [List.filter_cons, if_pos (by simpa using hy), List.foldl_cons, List.foldl_cons,
        orderedClockInsert_of_le hs ⟨z, hz, hzc ▸ hy⟩]
      exact ih _ (firstIsMin_sortedInsert ⟨hs, hmin, z, hz, hzc⟩ hy)
    · have hne : l ≠ [] := List.ne_nil_of_mem hz
      rw [List.filter_cons, if_neg (by simpa using hy), List.foldl_cons,
        orderedClockInsert_of_lt hne fun w hw => by have := hmin w hw; omega]
      exact ih l ⟨hs, hmin, z, hz, hzc⟩

/-- **What reorder mode keeps.**  After any insertion sequence starting with `x`, a PID's
ordered list is the stable sort by clock of `x` and of the later items whose clock is at
least `x.clock`; every item below the first clock is dropped. -/
theorem orderedClockRun_cons (x : OrderedClockItem) (xs : List OrderedClockItem) :
    orderedClockRun (x :: xs) = stableSortByClock (x :: xs.filter fun y => x.clock ≤ y.clock) := by
  have h0 : FirstIsMin x.clock [x] :=
    ⟨List.sorted_singleton x, by simp, x, List.mem_singleton_self x, rfl⟩
  simpa [orderedClockRun, stableSortByClock, orderedClockInsert, sortedInsert] using
    foldl_orderedClockInsert xs [x] h0

/-- A B-frame whose PTS precedes the PID's first PTS is never linked into the list, while the
stable sort puts it at the head. -/
theorem orderedClockRun_drops_b_frame :
    orderedClockRun [⟨1, 7200, 0⟩, ⟨2, 3600, 188⟩] = [⟨1, 7200, 0⟩] ∧
      stableSortByClock [⟨1, 7200, 0⟩, ⟨2, 3600, 188⟩] = [⟨2, 3600, 188⟩, ⟨1, 7200, 0⟩] := by
  decide

end TsTools
