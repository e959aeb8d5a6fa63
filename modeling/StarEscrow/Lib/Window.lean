/-
  StarEscrow.Lib.Window

  A fixed-window limiter, over natural-number times.

  The limiter keeps the start of the current window and the number of events
  admitted in it.  An event at or after the end of the window opens a new one
  at its own time; a window of length `d` admits at most `m` events.

  Because a window opens at the first event after the last one, windows are at
  least `d` apart but not aligned, so an interval of length `d` can meet two of
  them, and no more: it holds at most `2 * m` admitted events
  (`results_countIn`).  A refused event has `m` admitted ones less than `d`
  before it (`results_refused`).
-/

import Mathlib.Data.List.Basic
import Mathlib.Tactic.Linarith

namespace FixedWindow

/-- How many of the times lie in `[s, s + d)`. -/
def countIn (s d : Nat) (ts : List Nat) : Nat := ts.countP fun t => s ≤ t ∧ t < s + d

theorem countIn_append (s d : Nat) (ts us : List Nat) :
    countIn s d (ts ++ us) = countIn s d ts + countIn s d us :=
  List.countP_append

theorem countIn_le_length (s d : Nat) (ts : List Nat) : countIn s d ts ≤ ts.length :=
  List.countP_le_length

/-- Times from `s` on are at least those of the interval. -/
theorem countIn_le_from (s d : Nat) (ts : List Nat) :
    countIn s d ts ≤ ts.countP fun t => s ≤ t := by
  apply List.countP_mono_left
  intro t _ h_t
  simp only [decide_eq_true_eq] at h_t ⊢
  exact h_t.1

theorem countIn_eq_zero {s d : Nat} {ts : List Nat} (h : ∀ t ∈ ts, s + d ≤ t) :
    countIn s d ts = 0 := by
  rw [countIn, List.countP_eq_zero]
  intro t h_t
  have h_late := h t h_t
  simp only [decide_eq_true_eq]
  omega

/-! ## The limiter -/

/-- The current window: when it opened, and what it has admitted. -/
structure Window where
  start : Nat
  count : Nat

/-- The window an event at time `t` falls into. -/
def current (d t : Nat) (o : Option Window) : Window :=
  let w := o.getD ⟨t, 0⟩
  if w.start + d ≤ t then ⟨t, 0⟩ else w

/-- The window after an event at time `t` is admitted; `none` when it is refused. -/
def enter (m d t : Nat) (o : Option Window) : Option Window :=
  let w := current d t o
  if m ≤ w.count then none else some ⟨w.start, w.count + 1⟩

/-- Which events are admitted, from a given window on. -/
def results (m d : Nat) : Option Window → List Nat → List (Nat × Bool)
  | _, [] => []
  | o, t :: ts =>
      match enter m d t o with
      | some w => (t, true) :: results m d (some w) ts
      | none => (t, false) :: results m d o ts

/-- The times of the admitted events. -/
def admitted (rs : List (Nat × Bool)) : List Nat := (rs.filter (·.2)).map (·.1)

/-! ## The invariant -/

/-- The admitted times `before` the window `w`, and those in it. -/
structure Split (m d : Nat) (w : Window) (before inside : List Nat) : Prop where
  length : inside.length = w.count
  le : w.count ≤ m
  mem : ∀ x ∈ inside, w.start ≤ x ∧ x < w.start + d
  lt : ∀ x ∈ before, x < w.start
  /-- An interval that reaches into the window meets at most one earlier window. -/
  recent : ∀ s, w.start < s + d → (before.countP fun x => s ≤ x) ≤ m
  bounded : ∀ s, countIn s d before ≤ 2 * m

/-- What the limiter knows of the times it has admitted so far. -/
def Kept (m d : Nat) (acc : List Nat) : Option Window → Prop
  | none => acc = []
  | some w => w.start ∈ acc ∧ ∃ before inside, acc = before ++ inside ∧ Split m d w before inside

variable {m d t : Nat} {acc : List Nat}

theorem Split.countIn_le {w : Window} {before inside : List Nat} (h : Split m d w before inside)
    (s : Nat) : countIn s d (before ++ inside) ≤ 2 * m := by
  rw [countIn_append]
  by_cases h_reach : w.start < s + d
  · -- at most one window before this one, and this one
    have h_before := countIn_le_from s d before
    have h_recent := h.recent s h_reach
    have h_inside := countIn_le_length s d inside
    have h_length := h.length
    have h_le := h.le
    omega
  · have h_none : countIn s d inside = 0 := by
      apply countIn_eq_zero
      intro x h_x
      have h_start := (h.mem x h_x).1
      omega
    have h_bounded := h.bounded s
    omega

theorem Kept.countIn_le {o : Option Window} (h : Kept m d acc o) (s : Nat) :
    countIn s d acc ≤ 2 * m := by
  cases o with
  | none =>
      obtain rfl : acc = [] := h
      exact Nat.zero_le _
  | some w =>
      obtain ⟨-, before, inside, rfl, h_split⟩ := h
      exact h_split.countIn_le s

/-- After the end of a window a new one starts empty. -/
theorem Split.renew {w : Window} {before inside : List Nat} (h : Split m d w before inside)
    (h_over : w.start + d ≤ t) : Split m d ⟨t, 0⟩ (before ++ inside) [] where
  length := rfl
  le := Nat.zero_le m
  mem := by simp
  lt := by
    intro x h_x
    show x < t
    rcases List.mem_append.mp h_x with h_x | h_x
    · have h_lt := h.lt x h_x
      omega
    · have h_lt := (h.mem x h_x).2
      omega
  recent := by
    intro s h_s
    have h_s : t < s + d := h_s
    -- what was admitted before the last window is older than `s`
    have h_old : (before.countP fun x => s ≤ x) = 0 := by
      rw [List.countP_eq_zero]
      intro x h_x
      have h_lt := h.lt x h_x
      simp only [decide_eq_true_eq]
      omega
    have h_inside : (inside.countP fun x => s ≤ x) ≤ inside.length := List.countP_le_length
    have h_length := h.length
    have h_le := h.le
    rw [List.countP_append, h_old]
    omega
  bounded := h.countIn_le

/-- An event that falls into the window can be admitted as long as there is room. -/
theorem Split.snoc {w : Window} {before inside : List Nat} (h : Split m d w before inside)
    (h_start : w.start ≤ t) (h_end : t < w.start + d) (h_room : w.count < m) :
    Split m d ⟨w.start, w.count + 1⟩ before (inside ++ [t]) where
  length := by
    rw [List.length_append, List.length_singleton, h.length]
  le := h_room
  mem := by
    intro x h_x
    rcases List.mem_append.mp h_x with h_x | h_x
    · exact h.mem x h_x
    · obtain rfl := List.mem_singleton.mp h_x
      exact ⟨h_start, h_end⟩
  lt := h.lt
  recent := h.recent
  bounded := h.bounded

/-- The window an event falls into, against the times admitted so far. -/
theorem Kept.current {o : Option Window} (h_d : 0 < d) (h : Kept m d acc o)
    (h_past : ∀ x ∈ acc, x ≤ t) :
    ∃ before inside, acc = before ++ inside ∧ Split m d (current d t o) before inside ∧
      (FixedWindow.current d t o).start ≤ t ∧ t < (FixedWindow.current d t o).start + d ∧
      ((FixedWindow.current d t o).start ∈ acc ∨ (FixedWindow.current d t o).start = t) := by
  have h_new : FixedWindow.current d t none = ⟨t, 0⟩ := ite_self _
  cases o with
  | none =>
      obtain rfl : acc = [] := h
      rw [h_new]
      have h_empty : Split m d ⟨t, 0⟩ [] [] :=
        ⟨rfl, Nat.zero_le m, by simp, by simp, by simp, fun s => Nat.zero_le _⟩
      exact ⟨[], [], rfl, h_empty, Nat.le_refl t, Nat.lt_add_of_pos_right h_d, .inr rfl⟩
  | some w =>
      obtain ⟨h_mem, before, inside, rfl, h_split⟩ := h
      by_cases h_over : w.start + d ≤ t
      · have h_cur : FixedWindow.current d t (some w) = ⟨t, 0⟩ := if_pos h_over
        rw [h_cur]
        exact ⟨before ++ inside, [], by simp, h_split.renew h_over, Nat.le_refl t,
          Nat.lt_add_of_pos_right h_d, .inr rfl⟩
      · have h_cur : FixedWindow.current d t (some w) = w := if_neg h_over
        rw [h_cur]
        exact ⟨before, inside, rfl, h_split, h_past _ h_mem, by omega, .inl h_mem⟩

/-- An admitted event is kept. -/
theorem Kept.enter {o : Option Window} {w : Window} (h_d : 0 < d) (h : Kept m d acc o)
    (h_past : ∀ x ∈ acc, x ≤ t) (h_enter : FixedWindow.enter m d t o = some w) :
    Kept m d (acc ++ [t]) (some w) := by
  obtain ⟨before, inside, rfl, h_split, h_start, h_end, h_mem⟩ := h.current h_d h_past
  by_cases h_full : m ≤ (FixedWindow.current d t o).count
  · have h_none : FixedWindow.enter m d t o = none := if_pos h_full
    rw [h_none] at h_enter
    cases h_enter
  · have h_some : FixedWindow.enter m d t o = some ⟨_, _⟩ := if_neg h_full
    rw [h_some, Option.some.injEq] at h_enter
    obtain rfl := h_enter
    refine ⟨?_, before, inside ++ [t], List.append_assoc _ _ _,
      h_split.snoc h_start h_end (Nat.lt_of_not_le h_full)⟩
    rcases h_mem with h_mem | h_mem
    · exact List.mem_append_left _ h_mem
    · rw [h_mem]
      simp

/-- A refused event comes less than `d` after `m` admitted ones. -/
theorem Kept.refuse {o : Option Window} (h_d : 0 < d) (h : Kept m d acc o)
    (h_past : ∀ x ∈ acc, x ≤ t) (h_enter : FixedWindow.enter m d t o = none) :
    m ≤ acc.countP fun x => t < x + d ∧ x ≤ t := by
  obtain ⟨before, inside, rfl, h_split, h_start, h_end, -⟩ := h.current h_d h_past
  have h_full : m ≤ (FixedWindow.current d t o).count := by
    by_contra h_room
    have h_some : FixedWindow.enter m d t o = some ⟨_, _⟩ := if_neg h_room
    rw [h_some] at h_enter
    cases h_enter
  -- the window is full, and all of it is recent
  have h_inside : (inside.countP fun x => t < x + d ∧ x ≤ t) = inside.length := by
    rw [List.countP_eq_length]
    intro x h_x
    have h_first := (h_split.mem x h_x).1
    have h_last := h_past x (List.mem_append_right _ h_x)
    simp only [decide_eq_true_eq]
    omega
  have h_length := h_split.length
  rw [List.countP_append, h_inside]
  omega

/-! ## Sequences of events -/

theorem admitted_cons (t : Nat) (b : Bool) (rs : List (Nat × Bool)) :
    admitted ((t, b) :: rs) = (if b then [t] else []) ++ admitted rs := by
  cases b <;> rfl

/-- The results after an event, in terms of the times admitted by then. -/
theorem Kept.results_cons {o : Option Window} (ts : List Nat) (h_d : 0 < d) (h : Kept m d acc o)
    (h_past : ∀ x ∈ acc, x ≤ t) :
    ∃ b o', results m d o (t :: ts) = (t, b) :: results m d o' ts ∧
      Kept m d (acc ++ if b then [t] else []) o' ∧
      (b = false → m ≤ acc.countP fun x => t < x + d ∧ x ≤ t) := by
  cases h_enter : FixedWindow.enter m d t o with
  | some w =>
      refine ⟨true, some w, ?_, h.enter h_d h_past h_enter, fun h_b => ?_⟩
      · rw [results, h_enter]
      · cases h_b
  | none =>
      refine ⟨false, o, ?_, ?_, fun _ => h.refuse h_d h_past h_enter⟩
      · rw [results, h_enter]
      · rw [if_neg Bool.false_ne_true, List.append_nil]
        exact h

/-- Times admitted so far, and perhaps `t`, are not after any time from `t` on. -/
theorem past_cons {ts : List Nat} {b : Bool} (h_past : ∀ x ∈ acc, ∀ u ∈ t :: ts, x ≤ u)
    (h_sorted : (t :: ts).Pairwise (· ≤ ·)) :
    ∀ x ∈ acc ++ (if b then [t] else []), ∀ u ∈ ts, x ≤ u := by
  intro x h_x u h_u
  rcases List.mem_append.mp h_x with h_x | h_x
  · exact h_past x h_x u (List.mem_cons_of_mem t h_u)
  · cases b with
    | false => cases h_x
    | true =>
        obtain rfl := List.mem_singleton.mp h_x
        exact List.rel_of_pairwise_cons h_sorted h_u

/-- **At most `2 * m` events are admitted in any interval of length `d`.** -/
theorem Kept.results_countIn {o : Option Window} {ts : List Nat} (h_d : 0 < d) (h : Kept m d acc o)
    (h_past : ∀ x ∈ acc, ∀ u ∈ ts, x ≤ u) (h_sorted : ts.Pairwise (· ≤ ·)) (s : Nat) :
    countIn s d (acc ++ admitted (results m d o ts)) ≤ 2 * m := by
  induction ts generalizing acc o with
  | nil =>
      have h_none : admitted (results m d o []) = [] := rfl
      rw [h_none, List.append_nil]
      exact h.countIn_le s
  | cons t ts ih =>
      obtain ⟨b, o', h_results, h_kept, -⟩ := h.results_cons ts h_d
        fun x h_x => h_past x h_x t List.mem_cons_self
      rw [h_results, admitted_cons, ← List.append_assoc]
      exact ih h_kept (past_cons h_past h_sorted) h_sorted.of_cons

/-- **A refused event has `m` admitted events less than `d` before it.** -/
theorem Kept.results_refused {o : Option Window} {ts : List Nat} (h_d : 0 < d) (h : Kept m d acc o)
    (h_past : ∀ x ∈ acc, ∀ u ∈ ts, x ≤ u) (h_sorted : ts.Pairwise (· ≤ ·))
    {pre post : List (Nat × Bool)} (h_at : results m d o ts = pre ++ (t, false) :: post) :
    m ≤ (acc ++ admitted pre).countP fun x => t < x + d ∧ x ≤ t := by
  induction ts generalizing acc o pre with
  | nil =>
      have h_length := congrArg List.length h_at
      simp [results] at h_length
  | cons u ts ih =>
      obtain ⟨b, o', h_results, h_kept, h_refused⟩ := h.results_cons ts h_d
        fun x h_x => h_past x h_x u List.mem_cons_self
      rw [h_results] at h_at
      cases pre with
      | nil =>
          obtain ⟨h_first, -⟩ := List.cons.inj h_at
          obtain ⟨rfl, rfl⟩ := Prod.mk.inj h_first
          rw [admitted, List.filter_nil, List.map_nil, List.append_nil]
          exact h_refused rfl
      | cons p pre =>
          obtain ⟨rfl, h_rest⟩ := List.cons.inj h_at
          rw [admitted_cons, ← List.append_assoc]
          exact ih h_kept (past_cons h_past h_sorted) h_sorted.of_cons h_rest

end FixedWindow
