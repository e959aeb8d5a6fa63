/-
  StarEscrow.Lib.Journal

  Journals: what a reader of a log knows about the writer's state.

  A reader keeps a view and updates it entry by entry; an entry that
  contradicts the view is refused (`none`).  A writer keeps a reader informed
  when every step that starts where the view is right appends entries the
  reader accepts, and leaves the view right.  Then the reader accepts the log
  of every run, and its view is right at the end (`Tracks.run`); and two
  writers with the same log are seen with the same view (`Tracks.agree`).
-/

import StarEscrow.Lib.Lts

namespace Journal

variable {σ τ ℓ m ε ν : Type}

/-- Read the entries in order, starting from a view. -/
def replay (read : ν → ε → Option ν) : ν → List ε → Option ν
  | v, [] => some v
  | v, e :: es => (read v e).bind fun v => replay read v es

section Replay

variable {read : ν → ε → Option ν} {v v' v'' : ν} {e : ε} {es es' : List ε}

theorem replay_append (read : ν → ε → Option ν) (v : ν) (es es' : List ε) :
    replay read v (es ++ es') = (replay read v es).bind fun v => replay read v es' := by
  induction es generalizing v with
  | nil => rfl
  | cons e es ih =>
      rw [List.cons_append, replay, replay, Option.bind_assoc]
      simp only [ih]

@[simp] theorem replay_nil : replay read v [] = some v := rfl

@[simp] theorem replay_cons : replay read v (e :: es) = some v'' ↔
    ∃ v', read v e = some v' ∧ replay read v' es = some v'' := Option.bind_eq_some_iff

theorem replay_one : replay read v [e] = read v e := by
  rw [replay]
  cases read v e <;> rfl

theorem replay_trans (h : replay read v es = some v') (h' : replay read v' es' = some v'') :
    replay read v (es ++ es') = some v'' := by
  rw [replay_append, h]
  exact h'

end Replay

/-- A writer's log, a reader, and when the reader's view is right. -/
structure Tracks (step : σ → ℓ → σ → Prop) (log : σ → List ε) (read : ν → ε → Option ν)
    (R : σ → ν → Prop) : Prop where
  step : ∀ {s s' : σ} {l : ℓ} {v : ν}, step s l s' → R s v →
    ∃ es v', log s' = log s ++ es ∧ replay read v es = some v' ∧ R s' v'

namespace Tracks

variable {step : σ → ℓ → σ → Prop} {log : σ → List ε} {read : ν → ε → Option ν} {R : σ → ν → Prop}

/-- **Replay rule.**  From a state where the view is right, the reader accepts what a run appends
    to the log, and its view is right in the end. -/
theorem run_from (h : Tracks step log read R) {s t : σ} {tr : List (Lts.Entry σ ℓ)} {v : ν}
    (h_run : Lts.Run step s tr t) (h_init : R s v) :
    ∃ es v', log t = log s ++ es ∧ replay read v es = some v' ∧ R t v' := by
  refine h_run.history (P := fun _ t =>
    ∃ es v', log t = log s ++ es ∧ replay read v es = some v' ∧ R t v') ?_
    ⟨[], v, (List.append_nil _).symm, rfl, h_init⟩
  rintro _ e h_step ⟨es, v', h_log, h_replay, h_right⟩
  obtain ⟨es', v'', h_log', h_replay', h_right'⟩ := h.step h_step h_right
  refine ⟨es ++ es', v'', ?_, replay_trans h_replay h_replay', h_right'⟩
  rw [h_log', h_log, List.append_assoc]

/-- The same for a writer that starts with an empty log. -/
theorem run (h : Tracks step log read R) {s t : σ} {tr : List (Lts.Entry σ ℓ)} {v : ν}
    (h_run : Lts.Run step s tr t) (h_empty : log s = []) (h_init : R s v) :
    ∃ v', replay read v (log t) = some v' ∧ R t v' := by
  obtain ⟨es, v', h_log, h_replay, h_right⟩ := h.run_from h_run h_init
  rw [h_empty, List.nil_append] at h_log
  exact ⟨v', h_log ▸ h_replay, h_right⟩

/-- Two writers with the same log are seen with the same view. -/
theorem agree {step' : τ → m → τ → Prop} {log' : τ → List ε} {R' : τ → ν → Prop}
    (h : Tracks step log read R) (h' : Tracks step' log' read R') {s t : σ} {s' t' : τ}
    {tr : List (Lts.Entry σ ℓ)} {tr' : List (Lts.Entry τ m)} {v : ν}
    (h_run : Lts.Run step s tr t) (h_empty : log s = []) (h_init : R s v)
    (h_run' : Lts.Run step' s' tr' t') (h_empty' : log' s' = []) (h_init' : R' s' v)
    (h_log : log t = log' t') : ∃ v', R t v' ∧ R' t' v' := by
  obtain ⟨w, h_replay, h_right⟩ := h.run h_run h_empty h_init
  obtain ⟨w', h_replay', h_right'⟩ := h'.run h_run' h_empty' h_init'
  rw [h_log, h_replay', Option.some.injEq] at h_replay
  exact ⟨w', h_replay ▸ h_right, h_right'⟩

end Tracks

end Journal
