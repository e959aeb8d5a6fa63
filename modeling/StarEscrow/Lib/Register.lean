/-
  StarEscrow.Lib.Register

  Registers: lists whose entries are numbered by their positions.

  Entries are only ever added at the end and replaced in place, so a number,
  once given, stays with its entry.  `Indexes l p ids` says that `ids` is the
  index of the entries with the property `p`: their numbers, each once, in
  increasing order.  An index is kept by appending the new number when the new
  entry has the property, and by doing nothing otherwise.
-/

import Mathlib.Algebra.Order.BigOperators.Group.List
import Mathlib.Algebra.Order.Ring.Int
import Mathlib.Data.List.Induction
import Mathlib.Data.List.Sort

namespace Register

variable {α : Type} {l : List α} {p : α → Prop} {ids : List Nat} {x y : α} {i : Nat}

/-! ## Entries -/

/-- The entries after one more. -/
theorem getElem?_snoc (j : Nat) :
    (l ++ [x])[j]? = if j = l.length then some x else l[j]? := by
  by_cases h_j : j = l.length
  · subst h_j
    simp
  · rw [if_neg h_j]
    rcases Nat.lt_or_gt_of_ne h_j with h_lt | h_gt
    · rw [List.getElem?_append_left h_lt]
    · have h_len : (l ++ [x]).length = l.length + 1 := List.length_append
      rw [List.getElem?_eq_none (by omega), List.getElem?_eq_none (by omega)]

/-- The entries after one replacement. -/
theorem getElem?_replace (h_get : l[i]? = some x) (j : Nat) :
    (l.set i y)[j]? = if j = i then some y else l[j]? := by
  obtain ⟨h_lt, -⟩ := List.getElem?_eq_some_iff.mp h_get
  by_cases h_j : j = i
  · subst h_j
    rw [if_pos rfl, List.getElem?_set_self h_lt]
  · rw [if_neg h_j, List.getElem?_set_ne (Ne.symm h_j)]

/-- What holds of all entries and of the replacement, holds of all entries after it. -/
theorem forall_replace (h : ∀ z ∈ l, p z) (h_y : p y) : ∀ z ∈ l.set i y, p z := by
  intro z h_z
  rcases List.mem_or_eq_of_mem_set h_z with h_old | rfl
  · exact h z h_old
  · exact h_y

/-- A replacement that agrees with the entry on `f` does not show through `f`. -/
theorem map_replace {β : Type} {f : α → β} (h_get : l[i]? = some x) (h_eq : f y = f x) :
    (l.set i y).map f = l.map f := by
  apply List.ext_getElem?
  intro j
  rw [List.getElem?_map, List.getElem?_map, getElem?_replace h_get]
  by_cases h_j : j = i
  · subst h_j
    rw [if_pos rfl, h_get, Option.map_some, Option.map_some, h_eq]
  · rw [if_neg h_j]

/-- Reading all numbers in order gives the register back. -/
theorem filterMap_range (l : List α) : (List.range l.length).filterMap (fun i => l[i]?) = l := by
  induction l using List.reverseRecOn with
  | nil => rfl
  | append_singleton l x ih =>
      have h_old : ∀ i ∈ List.range l.length, (l ++ [x])[i]? = l[i]? := by
        intro i h_i
        rw [List.getElem?_append_left (List.mem_range.mp h_i)]
      rw [List.length_append, List.length_singleton, List.range_succ, List.filterMap_append,
        List.filterMap_congr h_old, ih]
      simp

/-! ## Sums -/

/-- Replacing one entry moves a sum by the difference of the two. -/
theorem sum_replace (f : α → Int) (h_get : l[i]? = some x) (y : α) :
    ((l.set i y).map f).sum = (l.map f).sum - f x + f y := by
  obtain ⟨h_lt, h_x⟩ := List.getElem?_eq_some_iff.mp h_get
  have h_lt' : i < (l.map f).length := by rwa [List.length_map]
  rw [List.map_set, List.sum_set', dif_pos h_lt', List.getElem_map, h_x]
  omega

theorem sum_snoc (f : α → Int) (l : List α) (x : α) :
    ((l ++ [x]).map f).sum = (l.map f).sum + f x := by
  simp

/-- A nonnegative entry is at most the sum of nonnegative entries. -/
theorem le_sum {f : α → Int} (h_nonneg : ∀ z ∈ l, 0 ≤ f z) (h_get : l[i]? = some x) :
    f x ≤ (l.map f).sum := by
  have h_items : ∀ z ∈ l.map f, 0 ≤ z := by
    intro z h_z
    obtain ⟨w, h_w, rfl⟩ := List.mem_map.mp h_z
    exact h_nonneg w h_w
  exact List.single_le_sum h_items (f x) (List.mem_map_of_mem (List.mem_of_getElem? h_get))

/-! ## Index lists -/

/-- `ids` lists the positions of the entries with property `p`, in increasing order. -/
structure Indexes (l : List α) (p : α → Prop) (ids : List Nat) : Prop where
  sorted : ids.Pairwise (· < ·)
  mem_iff : ∀ i, i ∈ ids ↔ ∃ x, l[i]? = some x ∧ p x

theorem Indexes.nil : Indexes [] p [] where
  sorted := .nil
  mem_iff := by simp

theorem Indexes.lt_length (h : Indexes l p ids) (h_mem : i ∈ ids) : i < l.length := by
  obtain ⟨x, h_get, -⟩ := (h.mem_iff i).mp h_mem
  exact (List.getElem?_eq_some_iff.mp h_get).1

/-- A new entry with the property: its number goes to the end of the index. -/
theorem Indexes.snoc (h : Indexes l p ids) (h_x : p x) :
    Indexes (l ++ [x]) p (ids ++ [l.length]) where
  sorted := by
    refine List.pairwise_append.mpr ⟨h.sorted, List.pairwise_singleton _ _, ?_⟩
    intro i h_i j h_j
    rw [List.mem_singleton.mp h_j]
    exact h.lt_length h_i
  mem_iff := by
    intro j
    rw [List.mem_append, List.mem_singleton, h.mem_iff, getElem?_snoc]
    by_cases h_j : j = l.length
    · simp [h_j, h_x]
    · simp [h_j]

/-- A new entry without the property: the index stays. -/
theorem Indexes.snoc_of_not (h : Indexes l p ids) (h_x : ¬p x) : Indexes (l ++ [x]) p ids where
  sorted := h.sorted
  mem_iff := by
    intro j
    rw [h.mem_iff, getElem?_snoc]
    by_cases h_j : j = l.length
    · subst h_j
      simp [h_x]
    · simp [h_j]

/-- A replacement that keeps the property of the entry: the index stays. -/
theorem Indexes.replace (h : Indexes l p ids) (h_get : l[i]? = some x) (h_iff : p y ↔ p x) :
    Indexes (l.set i y) p ids where
  sorted := h.sorted
  mem_iff := by
    intro j
    rw [h.mem_iff, getElem?_replace h_get]
    by_cases h_j : j = i
    · subst h_j
      simp [h_get, h_iff]
    · simp [h_j]

/-- Where every entry carries its own number, the numbers of the entries with the property. -/
theorem Indexes.of_numbers [DecidablePred p] {f : α → Nat} (h : ∀ i x, l[i]? = some x → f x = i) :
    Indexes l p ((l.filter (p ·)).map f) where
  sorted := by
    have h_all : l.map f = List.range l.length := by
      refine List.ext_getElem (by simp) fun i h_i _ => ?_
      rw [List.length_map] at h_i
      rw [List.getElem_map, List.getElem_range]
      exact h i l[i] (List.getElem?_eq_getElem h_i)
    have h_sub : ((l.filter (p ·)).map f).Sublist (List.range l.length) :=
      h_all ▸ List.filter_sublist.map f
    exact List.pairwise_lt_range.sublist h_sub
  mem_iff := by
    intro i
    rw [List.mem_map]
    constructor
    · rintro ⟨x, h_x, rfl⟩
      obtain ⟨h_mem, h_p⟩ := List.mem_filter.mp h_x
      obtain ⟨j, h_j⟩ := List.getElem?_of_mem h_mem
      rw [h j x h_j]
      exact ⟨x, h_j, of_decide_eq_true h_p⟩
    · rintro ⟨x, h_get, h_p⟩
      exact ⟨x, List.mem_filter.mpr ⟨List.mem_of_getElem? h_get, decide_eq_true h_p⟩, h i x h_get⟩

/-- There is only one such index. -/
theorem Indexes.eq_filter [DecidablePred p] (h : Indexes l p ids) :
    ids = (List.range l.length).filter fun i => l[i]?.any (p ·) := by
  refine h.sorted.eq_of_mem_iff (List.pairwise_lt_range.filter _) fun i => ?_
  rw [h.mem_iff, List.mem_filter, List.mem_range, Option.any_eq_true]
  constructor
  · rintro ⟨x, h_get, h_x⟩
    exact ⟨(List.getElem?_eq_some_iff.mp h_get).1, x, h_get, decide_eq_true h_x⟩
  · rintro ⟨-, x, h_get, h_x⟩
    exact ⟨x, h_get, of_decide_eq_true h_x⟩

end Register
