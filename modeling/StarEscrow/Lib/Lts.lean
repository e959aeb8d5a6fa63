/-
  StarEscrow.Lib.Lts

  Labelled transition systems with recorded histories.

  A system is a relation `step : σ → ℓ → σ → Prop`.  A run keeps the list of
  the steps it took, each with the states before and after it, so that a
  property of a run can speak about what happened earlier and about the state
  in which it happened.  The rules below are the only inductions over runs the
  rest of the development needs:

    * `Run.invariant` — what every admitted step preserves, every run preserves;
    * `Run.history`   — the same for a property of the state *and* its history;
    * `Run.sum_eq`    — a quantity that every step moves by the step's cost
                        moves, over a run, by the sum of the costs;
    * `Run.potential` — a quantity that every step lowers by at least its cost
                        bounds the sum of the costs;
    * `Run.simulate`  — when every step is matched by a run of another system,
                        so is every run.

  `Run.split` and `Run.through` cut a run at a point of its history.
-/

import Mathlib.Algebra.BigOperators.Group.List.Basic
import Mathlib.Tactic.Linarith

namespace Lts

variable {σ ℓ : Type}

/-- One recorded step. -/
structure Entry (σ ℓ : Type) where
  pre : σ
  label : ℓ
  post : σ

/-- `Run step s tr t`: the steps recorded in `tr`, oldest first, lead from `s` to `t`. -/
inductive Run (step : σ → ℓ → σ → Prop) (s : σ) : List (Entry σ ℓ) → σ → Prop
  | refl : Run step s [] s
  | tail {t u : σ} {tr : List (Entry σ ℓ)} {l : ℓ} (h_run : Run step s tr t)
      (h_step : step t l u) : Run step s (tr ++ [⟨t, l, u⟩]) u

namespace Run

variable {step : σ → ℓ → σ → Prop} {s t u : σ} {tr tr' : List (Entry σ ℓ)} {l : ℓ}

theorem single (h : step s l t) : Run step s [⟨s, l, t⟩] t :=
  .tail .refl h

theorem trans (h : Run step s tr t) (h' : Run step t tr' u) : Run step s (tr ++ tr') u := by
  induction h' with
  | refl => simpa using h
  | tail _ h_step ih =>
      rw [← List.append_assoc]
      exact .tail ih h_step

theorem head (h : step s l t) (h' : Run step t tr u) : Run step s (⟨s, l, t⟩ :: tr) u :=
  (single h).trans h'

/-- Every recorded entry is a step of the system. -/
theorem step_of_mem (h : Run step s tr t) : ∀ e ∈ tr, step e.pre e.label e.post := by
  induction h with
  | refl => simp
  | tail _ h_step ih =>
      intro e he
      rcases List.mem_append.mp he with he | he
      · exact ih e he
      · rw [List.mem_singleton.mp he]
        exact h_step

/-! ## Parts of a run -/

/-- A run can be cut where its history is cut. -/
theorem split (h : Run step s (tr ++ tr') u) : ∃ t, Run step s tr t ∧ Run step t tr' u := by
  generalize h_all : tr ++ tr' = all at h
  induction h generalizing tr' with
  | refl =>
      obtain ⟨rfl, rfl⟩ := List.append_eq_nil_iff.mp h_all
      exact ⟨s, .refl, .refl⟩
  | tail h_run h_step ih =>
      rcases List.eq_nil_or_concat tr' with rfl | ⟨tr'', e, rfl⟩
      · rw [List.append_nil] at h_all
        rw [h_all]
        exact ⟨_, .tail h_run h_step, .refl⟩
      · -- the last step belongs to the second part
        rw [List.concat_eq_append, ← List.append_assoc] at h_all
        obtain ⟨h_front, h_last⟩ := List.append_inj' h_all rfl
        obtain ⟨t, h_first, h_second⟩ := ih h_front
        rw [List.concat_eq_append, h_last]
        exact ⟨t, h_first, .tail h_second h_step⟩

theorem eq_of_nil (h : Run step s [] t) : s = t := by
  generalize h_none : ([] : List (Entry σ ℓ)) = none at h
  cases h with
  | refl => rfl
  | tail =>
      have h_length := congrArg List.length h_none
      simp at h_length

/-- The first step of a run, and the rest. -/
theorem uncons {e : Entry σ ℓ} (h : Run step s (e :: tr) u) :
    s = e.pre ∧ step e.pre e.label e.post ∧ Run step e.post tr u := by
  have h_cons : Run step s ([e] ++ tr) u := h
  obtain ⟨t, h_one, h_rest⟩ := h_cons.split
  generalize h_all : [e] = all at h_one
  cases h_one with
  | refl => cases h_all
  | tail h_run h_step =>
      have h_snoc : [] ++ [e] = _ ++ [_] := h_all
      obtain ⟨rfl, h_e⟩ := List.append_inj' h_snoc rfl
      obtain rfl := List.singleton_inj.mp h_e
      obtain rfl := h_run.eq_of_nil
      exact ⟨rfl, h_step, h_rest⟩

/-- The states a run has been in. -/
def visited (s : σ) (tr : List (Entry σ ℓ)) : List σ := s :: tr.map (·.post)

/-- A run passes through every state it visits. -/
theorem through (h : Run step s tr t) (h_mem : u ∈ visited s tr) :
    ∃ tr₁ tr₂, tr = tr₁ ++ tr₂ ∧ Run step s tr₁ u ∧ Run step u tr₂ t := by
  rcases List.mem_cons.mp h_mem with rfl | h_post
  · exact ⟨[], tr, rfl, .refl, h⟩
  · obtain ⟨e, h_e, rfl⟩ := List.mem_map.mp h_post
    obtain ⟨tr₁, tr₂, rfl⟩ := List.append_of_mem h_e
    obtain ⟨t', h_first, h_second⟩ := h.split
    obtain ⟨rfl, h_step, h_rest⟩ := h_second.uncons
    exact ⟨tr₁ ++ [e], tr₂, by simp, .tail h_first h_step, h_rest⟩

/-! ## Invariants -/

/-- **Invariant rule.**  If every step that meets `O` preserves `I`, then a run whose steps
    all meet `O` preserves it. -/
theorem invariant {O : Entry σ ℓ → Prop} {I : σ → Prop} (h : Run step s tr t)
    (h_ok : ∀ e ∈ tr, O e)
    (h_step : ∀ e, O e → step e.pre e.label e.post → I e.pre → I e.post)
    (h_init : I s) : I t := by
  induction h with
  | refl => exact h_init
  | tail _ hs ih =>
      have h_prev := ih fun e he => h_ok e (List.mem_append_left _ he)
      have h_last := h_ok _ (List.mem_append_right _ (List.mem_singleton_self _))
      exact h_step _ h_last hs h_prev

/-- The invariant also holds where each recorded step started. -/
theorem invariant_pre {O : Entry σ ℓ → Prop} {I : σ → Prop} (h : Run step s tr t)
    (h_ok : ∀ e ∈ tr, O e)
    (h_step : ∀ e, O e → step e.pre e.label e.post → I e.pre → I e.post)
    (h_init : I s) : ∀ e ∈ tr, I e.pre := by
  induction h with
  | refl => simp
  | tail h_run hs ih =>
      have h_ok' : ∀ e ∈ _, O e := fun e he => h_ok e (List.mem_append_left _ he)
      intro e he
      rcases List.mem_append.mp he with he | he
      · exact ih h_ok' e he
      · rw [List.mem_singleton.mp he]
        exact h_run.invariant h_ok' h_step h_init

/-- **History rule.**  A property of the history and the state that the empty history has and
    every step extends holds of every run. -/
theorem history {P : List (Entry σ ℓ) → σ → Prop} (h : Run step s tr t)
    (h_step : ∀ tr e, step e.pre e.label e.post → P tr e.pre → P (tr ++ [e]) e.post)
    (h_init : P [] s) : P tr t := by
  induction h with
  | refl => exact h_init
  | tail _ hs ih => exact h_step _ ⟨_, _, _⟩ hs ih

/-! ## Costs -/

/-- **Cost rule.**  A quantity that every step moves by its cost moves by the sum of the costs. -/
theorem sum_eq {f : σ → Int} {cost : Entry σ ℓ → Int} (h : Run step s tr t)
    (h_cost : ∀ e ∈ tr, f e.post = f e.pre + cost e) : f t = f s + (tr.map cost).sum := by
  induction h with
  | refl => simp
  | tail _ _ ih =>
      have h_prev := ih fun e he => h_cost e (List.mem_append_left _ he)
      have h_last := h_cost ⟨_, _, _⟩ (List.mem_append_right _ (List.mem_singleton_self _))
      simp only [List.map_append, List.map_cons, List.map_nil, List.sum_append, List.sum_cons,
        List.sum_nil] at *
      linarith

/-- **Potential rule.**  If every step uses up at least its cost of a potential, the costs of a run
    and what is left of the potential are at most what the run started with. -/
theorem potential {f : σ → Int} {c : Entry σ ℓ → Int} (h : Run step s tr t)
    (h_cost : ∀ e ∈ tr, c e + f e.post ≤ f e.pre) : (tr.map c).sum + f t ≤ f s := by
  induction h with
  | refl => simp
  | tail _ _ ih =>
      have h_prev := ih fun e he => h_cost e (List.mem_append_left _ he)
      have h_last := h_cost ⟨_, _, _⟩ (List.mem_append_right _ (List.mem_singleton_self _))
      simp only [List.map_append, List.map_cons, List.map_nil, List.sum_append, List.sum_cons,
        List.sum_nil] at *
      linarith

/-! ## Simulation -/

/-- **Simulation rule.**  If every admitted step between related states is matched by a run of the
    other system, so is every run of admitted steps. -/
theorem simulate {τ m : Type} {step' : τ → m → τ → Prop} {O : Entry σ ℓ → Prop}
    {R : σ → τ → Prop} {a : τ} (h : Run step s tr t) (h_ok : ∀ e ∈ tr, O e)
    (h_step : ∀ e b, O e → step e.pre e.label e.post → R e.pre b →
      ∃ tr' b', Run step' b tr' b' ∧ R e.post b')
    (h_init : R s a) : ∃ tr' b, Run step' a tr' b ∧ R t b := by
  induction h with
  | refl => exact ⟨[], a, .refl, h_init⟩
  | tail _ hs ih =>
      have h_last := h_ok _ (List.mem_append_right _ (List.mem_singleton_self _))
      obtain ⟨tr', b, h_run', h_rel⟩ := ih fun e he => h_ok e (List.mem_append_left _ he)
      obtain ⟨tr'', b', h_more, h_rel'⟩ := h_step _ b h_last hs h_rel
      exact ⟨tr' ++ tr'', b', h_run'.trans h_more, h_rel'⟩

end Run

end Lts
