import Mathlib.Data.List.Destutter
import Mathlib.Data.List.Sort
import ChatCommands.Command.Level

/-! # The positions that a look-up finds

A token may find a position under its own form and under its lower-case form, in any order. Sorting
and leaving out repetitions make an ascending list of them, so that the commands come in
registration order and none of them twice.
-/

namespace ChatCommands

open Text
open scoped List

variable {H : Type}

namespace Level

theorem place_eq_orderedInsert (position : Nat) (positions : List Nat) :
    place position positions = positions.orderedInsert (· ≤ ·) position := by
  induction positions with
  | nil => rfl
  | cons p rest ih => rw [place, ih, List.orderedInsert_cons]

theorem ascending_eq_insertionSort (positions : List Nat) :
    ascending positions = positions.insertionSort (· ≤ ·) := by
  induction positions with
  | nil => rfl
  | cons p rest ih =>
    rw [List.insertionSort_cons, ← ih, ← place_eq_orderedInsert, ascending, List.foldr_cons,
      ascending]

theorem eraseReps_loop_eq (last : Nat) (positions kept : List Nat) :
    List.eraseRepsBy.loop (· == ·) last positions kept =
      kept.reverse ++ positions.destutter' (· ≠ ·) last := by
  induction positions generalizing last kept with
  | nil => simp [List.eraseRepsBy.loop]
  | cons p rest ih =>
    rw [List.eraseRepsBy.loop]
    by_cases h : last = p
    · subst h
      rw [BEq.rfl, ih, List.destutter'_cons_neg _ (by simp)]
    · simp only [beq_eq_false_iff_ne.mpr h]
      rw [ih, List.destutter'_cons_pos _ h, List.reverse_cons, List.append_assoc,
        List.singleton_append]

theorem eraseReps_eq_destutter (positions : List Nat) :
    positions.eraseReps = positions.destutter (· ≠ ·) := by
  cases positions with
  | nil => rfl
  | cons p rest => exact eraseReps_loop_eq p rest []

/-- Among ascending positions the repetitions of one stand next to each other. -/
theorem eraseReps_ascending (positions : List Nat) :
    (ascending positions).eraseReps = (positions.insertionSort (· ≤ ·)).dedup := by
  rw [ascending_eq_insertionSort, eraseReps_eq_destutter]
  exact (List.pairwise_insertionSort (· ≤ ·) positions).destutter_eq_dedup

variable {level : Level (Command H)} {token : String} {position : Nat}

theorem mem_positions : position ∈ level.positions token ↔
    position ∈ level.listed token ∨ (lowercase token ≠ token ∧
      position ∈ level.listed (lowercase token) ∧
        ∃ c, level.commands[position]? = some c ∧ c.caseSensitive = false) := by
  rw [positions, eraseReps_ascending, List.mem_dedup, List.mem_insertionSort, List.mem_append]
  refine or_congr_right ?_
  split
  · rename_i hlower
    simp [eq_of_beq hlower]
  · rename_i hlower
    simp only [beq_iff_eq] at hlower
    simp [hlower, Option.any_eq_true]

theorem pairwise_positions (level : Level (Command H)) (token : String) :
    (level.positions token).Pairwise (· < ·) := by
  rw [positions, eraseReps_ascending]
  generalize level.listed token ++ _ = found
  have hsorted := (List.pairwise_insertionSort (· ≤ ·) found).sublist (List.dedup_sublist _)
  exact hsorted.imp₂ (fun _ _ => Nat.lt_of_le_of_ne) (List.nodup_dedup _)

section Entries

variable {α : Type} {entries : List α} {found : List Nat}

theorem filterMap_getElem?_range (entries : List α) :
    (List.range entries.length).filterMap (entries[·]?) = entries := by
  induction entries with
  | nil => rfl
  | cons entry entries ih =>
    rw [List.length_cons, List.range_succ_eq_map, List.filterMap_cons, List.filterMap_map]
    simpa using ih

/-- Ascending positions are some of all positions in their order. -/
theorem filterMap_getElem?_eq (h : found.Pairwise (· < ·)) : found.filterMap (entries[·]?) =
    ((List.range entries.length).filter (· ∈ found)).filterMap (entries[·]?) := by
  have hwithin : found.filter (· < entries.length) =
      (List.range entries.length).filter (· ∈ found) := by
    refine (h.filter _).eq_of_mem_iff (List.pairwise_lt_range.filter _) fun position => ?_
    simp [and_comm]
  rw [← hwithin, List.filterMap_filter]
  refine List.filterMap_congr fun position _ => ?_
  split
  · rfl
  · rename_i hge
    exact List.getElem?_eq_none (by simpa using hge)

theorem filterMap_getElem?_sublist (h : found.Pairwise (· < ·)) :
    found.filterMap (entries[·]?) <+ entries := by
  rw [filterMap_getElem?_eq h]
  have hsub : ((List.range entries.length).filter (· ∈ found)).filterMap (entries[·]?) <+
      (List.range entries.length).filterMap (entries[·]?) :=
    List.filter_sublist.filterMap _
  rwa [filterMap_getElem?_range] at hsub

theorem filterMap_getElem?_eq_filter {p : α → Bool} (h : found.Pairwise (· < ·))
    (hp : ∀ position entry, entries[position]? = some entry →
      (position ∈ found ↔ p entry = true)) :
    found.filterMap (entries[·]?) = entries.filter p := by
  calc found.filterMap (entries[·]?)
    _ = ((List.range entries.length).filter (· ∈ found)).filterMap (entries[·]?) :=
      filterMap_getElem?_eq h
    _ = (List.range entries.length).filterMap fun position => (entries[position]?).filter p := by
      rw [List.filterMap_filter]
      refine List.filterMap_congr fun position _ => ?_
      cases hentry : entries[position]? with
      | none => simp
      | some entry => simp [hp position entry hentry, Option.filter]
    _ = ((List.range entries.length).filterMap (entries[·]?)).filter p :=
      List.filter_filterMap.symm
    _ = entries.filter p := by rw [filterMap_getElem?_range]

end Entries

theorem candidates_sublist (level : Level (Command H)) (token : String) :
    level.candidates token <+ level.commands :=
  filterMap_getElem?_sublist (level.pairwise_positions token)

end Level

end ChatCommands
