/-
  StarEscrow.Lib.Mealy

  Machines that answer requests, and when two of them answer alike.

  Two machines agree on all requests if a relation between their states makes
  them answer alike and is kept (`outputs_eq`).  If that fails only at certain
  requests, and the answers tell, they agree on exactly the sequences that
  avoid these (`outputs_eq_iff`).

  A machine whose answers are the labels of a transition system, and whose
  steps are steps of it, plays a sequence of requests as a run (`run_trace`).
-/

import StarEscrow.Lib.Lts

namespace Mealy

/-- A deterministic machine: where a request takes it, and the answer. -/
structure Machine (ι σ ο : Type) where
  perform : ι → σ → σ
  output : ι → σ → ο

variable {ι σ τ ο : Type}

/-- The answers to a sequence of requests. -/
def Machine.outputs (M : Machine ι σ ο) : σ → List ι → List ο
  | _, [] => []
  | s, x :: xs => M.output x s :: M.outputs (M.perform x s) xs

/-- Where a sequence of requests takes it. -/
def Machine.final (M : Machine ι σ ο) : σ → List ι → σ
  | s, [] => s
  | s, x :: xs => M.final (M.perform x s) xs

/-- The machine never meets a bad request on the way. -/
def Machine.Avoids (M : Machine ι σ ο) (bad : ι → σ → Prop) : σ → List ι → Prop
  | _, [] => True
  | s, x :: xs => ¬ bad x s ∧ M.Avoids bad (M.perform x s) xs

/-- Every request on the way passes a test. -/
def Machine.All (M : Machine ι σ ο) (p : ι → σ → Bool) : σ → List ι → Bool
  | _, [] => true
  | s, x :: xs => p x s && M.All p (M.perform x s) xs

/-- The steps a sequence of requests makes, each labelled with its answer. -/
def Machine.trace (M : Machine ι σ ο) : σ → List ι → List (Lts.Entry σ ο)
  | _, [] => []
  | s, x :: xs => ⟨s, M.output x s, M.perform x s⟩ :: M.trace (M.perform x s) xs

variable {M : Machine ι σ ο} {N : Machine ι τ ο} {R : σ → τ → Prop}

/-! ## One sequence after another -/

@[simp] theorem final_append (s : σ) (xs ys : List ι) :
    M.final s (xs ++ ys) = M.final (M.final s xs) ys := by
  induction xs generalizing s with
  | nil => rfl
  | cons x xs ih => exact ih (M.perform x s)

@[simp] theorem all_append (p : ι → σ → Bool) (s : σ) (xs ys : List ι) :
    M.All p s (xs ++ ys) = (M.All p s xs && M.All p (M.final s xs) ys) := by
  induction xs generalizing s with
  | nil => rfl
  | cons x xs ih =>
      rw [List.cons_append, Machine.All, ih, Machine.All, Bool.and_assoc]
      rfl

@[simp] theorem all_true (s : σ) (xs : List ι) : M.All (fun _ _ => true) s xs = true := by
  induction xs generalizing s with
  | nil => rfl
  | cons x xs ih => exact ih (M.perform x s)

@[simp] theorem all_singleton (p : ι → σ → Bool) (s : σ) (x : ι) : M.All p s [x] = p x s :=
  Bool.and_true _

/-! ## Runs -/

/-- Every entry of a trace is the step of one of the requests. -/
theorem mem_trace {s : σ} {xs : List ι} {e : Lts.Entry σ ο} (h : e ∈ M.trace s xs) :
    ∃ x ∈ xs, ∃ s', e = ⟨s', M.output x s', M.perform x s'⟩ := by
  induction xs generalizing s with
  | nil => cases h
  | cons x xs ih =>
      rcases List.mem_cons.mp h with rfl | h
      · exact ⟨x, List.mem_cons_self, s, rfl⟩
      · obtain ⟨y, h_y, h_e⟩ := ih h
        exact ⟨y, List.mem_cons_of_mem x h_y, h_e⟩

/-- **Run rule.**  If every request that passes the test makes a step of the system, a sequence
    that passes it makes a run. -/
theorem run_trace {step : σ → ο → σ → Prop} {p : ι → σ → Bool}
    (h_step : ∀ x s, p x s = true → step s (M.output x s) (M.perform x s)) {s : σ} {xs : List ι}
    (h : M.All p s xs = true) : Lts.Run step s (M.trace s xs) (M.final s xs) := by
  induction xs generalizing s with
  | nil => exact .refl
  | cons x xs ih =>
      rw [Machine.All, Bool.and_eq_true] at h
      exact .head (h_step x s h.1) (ih h.2)

/-! ## Two machines -/

/-- **Agreement rule.**  Related machines that answer every request alike and stay related give the
    same answers. -/
theorem outputs_eq (h_step : ∀ x s t, R s t →
      M.output x s = N.output x t ∧ R (M.perform x s) (N.perform x t))
    {s : σ} {t : τ} (h : R s t) (xs : List ι) : M.outputs s xs = N.outputs t xs := by
  induction xs generalizing s t with
  | nil => rfl
  | cons x xs ih =>
      obtain ⟨h_output, h_rel⟩ := h_step x s t h
      rw [Machine.outputs, Machine.outputs, h_output, ih h_rel]

/-- They end up related, too. -/
theorem final_related (h_step : ∀ x s t, R s t →
      M.output x s = N.output x t ∧ R (M.perform x s) (N.perform x t))
    {s : σ} {t : τ} (h : R s t) (xs : List ι) : R (M.final s xs) (N.final t xs) := by
  induction xs generalizing s t with
  | nil => exact h
  | cons x xs ih => exact ih (h_step x s t h).2

/-- **Divergence rule.**  If they do so at every request that is not bad, and answer differently at
    the bad ones, they give the same answers exactly to the sequences that avoid the bad ones. -/
theorem outputs_eq_iff {bad : ι → τ → Prop}
    (h_step : ∀ x s t, R s t → ¬ bad x t →
      M.output x s = N.output x t ∧ R (M.perform x s) (N.perform x t))
    (h_bad : ∀ x s t, R s t → bad x t → M.output x s ≠ N.output x t)
    {s : σ} {t : τ} (h : R s t) (xs : List ι) :
    M.outputs s xs = N.outputs t xs ↔ N.Avoids bad t xs := by
  induction xs generalizing s t with
  | nil => exact iff_of_true rfl trivial
  | cons x xs ih =>
      rw [Machine.outputs, Machine.outputs, List.cons_eq_cons, Machine.Avoids]
      by_cases h_x : bad x t
      · exact iff_of_false (fun h_eq => h_bad x s t h h_x h_eq.1) fun h_ok => h_ok.1 h_x
      · obtain ⟨h_output, h_rel⟩ := h_step x s t h h_x
        rw [ih h_rel]
        exact ⟨fun h_eq => ⟨h_x, h_eq.2⟩, fun h_ok => ⟨h_output, h_ok.2⟩⟩

end Mealy
