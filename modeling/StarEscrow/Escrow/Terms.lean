/-
  StarEscrow.Escrow.Terms

  What `create` fixes for good, and what can happen at most once.

  Every later operation loads the record, edits it and stores the whole of it
  back.  None of them writes a term of the deal, the status of a milestone only
  moves forward, and `approve` asks for the middle one of the three statuses,
  which a milestone leaves for ever when it is approved.
-/

import Mathlib.Logic.Relation
import StarEscrow.Escrow.History

namespace StarEscrow.Escrow

/-! ## Terms -/

/-- `d'` has the terms of `d`. -/
structure SameTerms {Address : Type} (d d' : EscrowData Address) : Prop
    extends Descends d d' where
  descriptions : d'.milestones.map (·.description) = d.milestones.map (·.description)

theorem SameTerms.refl {Address : Type} (d : EscrowData Address) : SameTerms d d :=
  ⟨.refl d, rfl⟩

theorem SameTerms.trans {Address : Type} {d d' d'' : EscrowData Address} (h : SameTerms d d')
    (h' : SameTerms d' d'') : SameTerms d d'' :=
  ⟨h.toDescends.trans h'.toDescends, h'.descriptions.trans h.descriptions⟩

/-- The next status of a milestone. -/
inductive MilestoneStatus.Next : MilestoneStatus → MilestoneStatus → Prop
  | submitted : Next .pending .submitted
  | approved : Next .submitted .approved

variable {Address : Type} [DecidableEq Address] {H : Host Address}

theorem Move.sameTerms {s s' : State H} {l : Label Address} {d d' : EscrowData Address}
    (h : Move s l s' d d') : SameTerms d d' := by
  refine ⟨h.descends, ?_⟩
  cases h with
  | quiet => rfl
  | submit _ _ _ h_get => exact Register.map_replace h_get rfl
  | approve _ _ h_get => exact Register.map_replace h_get rfl
  | release => rfl
  | refund => rfl

theorem MilestoneMove.status {s s' : State H} {l : Label Address} {d : EscrowData Address} {i : Nat}
    {m m' : Milestone} (h : MilestoneMove s l s' d i m m') :
    m'.status = m.status ∨ m.status.Next m'.status := by
  cases h with
  | same => exact .inl rfl
  | submitted _ _ h_pending =>
      right
      rw [h_pending]
      exact .submitted
  | approved _ _ h_submitted =>
      right
      rw [h_submitted]
      exact .approved

/-- The step keeps every milestone's status or moves it one step forward. -/
def Forward (e : Entry H) : Prop :=
  ∀ d ∈ e.pre.storage.escrow, ∃ d', e.post.storage.escrow = some d' ∧
    ∀ (i : Nat) (m : Milestone), d.milestones[i]? = some m → ∃ m', d'.milestones[i]? = some m' ∧
      (m'.status = m.status ∨ m.status.Next m'.status)

theorem Step.forward {e : Entry H} (h : Step e.pre e.label e.post) : Forward e := by
  intro d h_d
  obtain ⟨d', h_d', h_move⟩ := h.move h_d
  refine ⟨d', h_d', fun i m h_get => ?_⟩
  obtain ⟨m', h_get', h_mm⟩ := h_move.milestone h_get
  exact ⟨m', h_get', h_mm.status⟩

/-! ## At most one `create` -/

/-- The step is a `create` that returned. -/
def Label.creates {Address : Type} : Label Address → Bool
  | .returned ⟨_, _, .create _⟩ => true
  | _ => false

/-- A `create` that returns finds no record and stores one. -/
theorem Step.creates {s s' : State H} {l : Label Address} (h : Step s l s')
    (h_creates : l.creates = true) :
    s.storage.escrow = none ∧ ∃ d, s'.storage.escrow = some d := by
  cases h with
  | aborted => cases h_creates
  | outside => cases h_creates
  | @returned _ c h_time h_run =>
      obtain ⟨t, auth, op⟩ := c
      cases op with
      | create a =>
          have h_created : Created s ⟨t, auth, .create a⟩ a s' := ⟨.returned h_time h_run, rfl⟩
          obtain ⟨-, -, h_none, -⟩ := h_created.effect
          exact ⟨h_none, _, h_created.stored⟩
      | _ => cases h_creates

/-- While a record is stored, no `create` returns. -/
theorem Run.creates_of_stored {s s' : State H} {tr : List (Entry H)} {d : EscrowData Address}
    (h : Run s tr s') (h_stored : s.storage.escrow = some d) :
    ∀ e ∈ tr, e.label.creates = false := by
  intro e h_e
  obtain ⟨d₁, -, h_d₁, -⟩ := h.moves h_stored e h_e
  by_contra h_creates
  rw [Bool.not_eq_false] at h_creates
  obtain ⟨h_none, -⟩ := (h.step_of_mem e h_e).creates h_creates
  rw [h_none] at h_d₁
  cases h_d₁

/-- Before the record is stored, no step finds or leaves one. -/
theorem Run.unstored {s s' : State H} {tr : List (Entry H)} (h : Run s tr s')
    (h_none : s'.storage.escrow = none) :
    ∀ e ∈ tr, e.pre.storage.escrow = none ∧ e.post.storage.escrow = none := by
  have h_hist := h.history (P := fun tr t => t.storage.escrow = none →
    ∀ e ∈ tr, e.pre.storage.escrow = none ∧ e.post.storage.escrow = none) ?_ ?_
  · exact h_hist h_none
  · intro tr e h_step h_prev h_post
    have h_pre : e.pre.storage.escrow = none := by
      by_contra h_some
      obtain ⟨d, h_d⟩ := Option.ne_none_iff_exists'.mp h_some
      obtain ⟨d', h_d', -⟩ := h_step.move h_d
      rw [h_post] at h_d'
      cases h_d'
    rw [List.forall_mem_append, List.forall_mem_singleton]
    exact ⟨h_prev h_pre, h_pre, h_post⟩
  · intro _
    exact List.forall_mem_nil _

/-! ## At most one `approve i` -/

/-- The step is an `approve i` that returned. -/
def Label.approvesAt {Address : Type} (i : Nat) : Label Address → Bool
  | .returned ⟨_, _, .approve j⟩ => i == j
  | _ => false

theorem Label.approvesAt_of_approves {Address : Type} {l : Label Address}
    (h : l.approves = true) : ∃ i, l.approvesAt i = true := by
  cases l with
  | aborted => cases h
  | outside => cases h
  | returned c =>
      obtain ⟨t, auth, op⟩ := c
      cases op with
      | approve i => exact ⟨i, beq_self_eq_true i⟩
      | _ => cases h

/-- Milestone `i` of the stored record is approved. -/
def ApprovedAt (i : Nat) (s : State H) : Prop :=
  ∃ d m, s.storage.escrow = some d ∧ d.milestones[i]? = some m ∧ m.status = .approved

/-- An `approve i` that returns finds milestone `i` submitted and leaves it approved. -/
theorem Step.approvesAt {s s' : State H} {l : Label Address} {i : Nat} (h : Step s l s')
    (h_approves : l.approvesAt i = true) : ¬ApprovedAt i s ∧ ApprovedAt i s' := by
  cases h with
  | aborted => cases h_approves
  | outside => cases h_approves
  | @returned _ c _ h_run =>
      obtain ⟨t, auth, op⟩ := c
      cases op with
      | approve j =>
          obtain rfl : i = j := by simpa [Label.approvesAt] using h_approves
          obtain ⟨-, d, h_d, m, h_get, h_submitted, -, net, s₁, -, rfl⟩ :=
            approve_ok.mp (Call.run_ok.mp h_run)
          obtain ⟨h_lt, -⟩ := List.getElem?_eq_some_iff.mp h_get
          constructor
          · rintro ⟨d', m', h_d', h_get', h_approved⟩
            obtain rfl := Option.some.inj (h_d.symm.trans h_d')
            obtain rfl := Option.some.inj (h_get.symm.trans h_get')
            rw [h_submitted] at h_approved
            cases h_approved
          · exact ⟨_, _, rfl, List.getElem?_set_self h_lt, rfl⟩
      | _ => cases h_approves

/-- An approved milestone stays approved. -/
theorem Step.approved {s s' : State H} {l : Label Address} {i : Nat} (h : Step s l s')
    (h_approved : ApprovedAt i s) : ApprovedAt i s' := by
  obtain ⟨d, m, h_d, h_get, h_status⟩ := h_approved
  obtain ⟨d', h_d', h_move⟩ := h.move h_d
  obtain ⟨m', h_get', h_mm⟩ := h_move.milestone h_get
  refine ⟨d', m', h_d', h_get', ?_⟩
  rcases h_mm.status with h_same | h_next
  · rw [h_same, h_status]
  · rw [h_status] at h_next
    cases h_next

/-- Over any run, `approve i` returned not yet, or once and the milestone is approved. -/
theorem Run.approvesAt {s s' : State H} {tr : List (Entry H)} (h : Run s tr s') (i : Nat) :
    tr.countP (·.label.approvesAt i) = 0 ∨
      tr.countP (·.label.approvesAt i) = 1 ∧ ApprovedAt i s' := by
  refine h.history (P := fun tr t => tr.countP (·.label.approvesAt i) = 0 ∨
    tr.countP (·.label.approvesAt i) = 1 ∧ ApprovedAt i t) ?_ (.inl rfl)
  intro tr e h_step h_prev
  rw [List.countP_append, List.countP_singleton]
  by_cases h_approves : e.label.approvesAt i = true
  · rw [if_pos h_approves]
    obtain ⟨h_before, h_after⟩ := h_step.approvesAt h_approves
    rcases h_prev with h_zero | ⟨-, h_approved⟩
    · right
      rw [h_zero]
      exact ⟨rfl, h_after⟩
    · exact absurd h_approved h_before
  · rw [if_neg h_approves]
    rcases h_prev with h_zero | ⟨h_one, h_approved⟩
    · exact .inl h_zero
    · exact .inr ⟨h_one, h_step.approved h_approved⟩

/-! ## Whole runs -/

/-- Before the record is stored, nothing is created or approved. -/
theorem Run.none_before {s s' : State H} {tr : List (Entry H)} (h : Run s tr s')
    (h_none : s'.storage.escrow = none) :
    ∀ e ∈ tr, e.label.creates = false ∧ e.label.approves = false := by
  intro e h_e
  obtain ⟨-, h_post⟩ := h.unstored h_none e h_e
  have h_step := h.step_of_mem e h_e
  constructor
  · by_contra h_creates
    rw [Bool.not_eq_false] at h_creates
    obtain ⟨-, d, h_d⟩ := h_step.creates h_creates
    rw [h_post] at h_d
    cases h_d
  · by_contra h_approves
    rw [Bool.not_eq_false] at h_approves
    obtain ⟨i, h_at⟩ := Label.approvesAt_of_approves h_approves
    obtain ⟨-, d, m, h_d, -⟩ := h_step.approvesAt h_at
    rw [h_post] at h_d
    cases h_d

/-- The record descends from the one `create` stored, terms included. -/
theorem Run.sameTerms {s s' : State H} {tr : List (Entry H)} {d : EscrowData Address}
    (h : Run s tr s') (h_stored : s.storage.escrow = some d) (h_wf : WellFormed d) :
    ∃ d', s'.storage.escrow = some d' ∧ SameTerms d d' ∧ WellFormed d' := by
  refine h.deal (O := fun _ => True) (I := fun _ d' => SameTerms d d' ∧ WellFormed d')
    (fun _ _ => trivial) h_stored ⟨.refl d, h_wf⟩ ?_
  intro e d₁ d₂ _ _ _ h_move ⟨h_terms, h_wf₁⟩
  exact ⟨h_terms.trans h_move.sameTerms, h_move.wellFormed h_wf₁⟩

/-- **The terms are immutable and each milestone is paid at most once.**  In every run with a
    `create` that returns, no other one does; the terms never change afterwards, the total stays
    the sum of the amounts, and milestones only move forward; each `approve i` returns at most
    once, and all of them together pay at most the total. -/
theorem terms_immutable {s₀ s₁ s₂ s₃ : State H} {tr₀ tr : List (Entry H)} {c : Call Address}
    {a : CreateArgs Address} (h_before : Run s₀ tr₀ s₁) (h_created : Created s₁ c a s₂)
    (h_run : Run s₂ tr s₃) :
    (∀ e ∈ tr₀, e.label.creates = false ∧ e.label.approves = false) ∧
    (∀ e ∈ tr, e.label.creates = false) ∧
    (∃ d, s₃.storage.escrow = some d ∧ SameTerms (a.stored c.timestamp) d ∧
      d.totalAmount = milestoneTotal d.milestones) ∧
    (∀ e ∈ tr, Forward e) ∧
    (∀ i, tr.countP (·.label.approvesAt i) ≤ 1) ∧
    (tr.map (approvalPaid a.token)).sum ≤ milestoneTotal a.milestones := by
  obtain ⟨-, -, h_none, -⟩ := h_created.effect
  obtain ⟨d, h_d, h_terms, h_wf⟩ := h_run.sameTerms h_created.stored h_created.wellFormed
  refine ⟨h_before.none_before h_none, h_run.creates_of_stored h_created.stored,
    ⟨d, h_d, h_terms, h_wf.sound.total⟩, ?_, ?_, ?_⟩
  · intro e h_e
    exact (h_run.step_of_mem e h_e).forward
  · intro i
    rcases h_run.approvesAt i with h_zero | ⟨h_one, -⟩ <;> omega
  · -- what was approved when the record was created is not counted as paid
    have h_sum := h_run.releasedAmount h_created.stored h_created.wellFormed
    have h_le := h_wf.sound.approved_le
    have h_nonneg := h_created.sound.approved_nonneg
    rw [releasedAmount_eq h_d, releasedAmount_eq h_created.stored] at h_sum
    rw [h_terms.totalAmount] at h_le
    have h_total : (a.stored c.timestamp).totalAmount = milestoneTotal a.milestones := rfl
    have h_token : (a.stored c.timestamp).token = a.token := rfl
    rw [h_token] at h_sum
    omega

namespace Sample

/-- Both milestones are paid; a second `create` and a second approval are refused. -/
def allPaid : List (Call Nat) :=
  [call 2 (.submitWork 1), call 3 (.approve 1), call 4 (.create twoParts), call 5 (.approve 1),
    call 6 (.transferFreelancer 5), call 7 (.submitWork 0), call 8 (.approve 0)]

end Sample

theorem terms_immutable_allPaid :
    let s₂ := Sample.opened 100 0 Sample.twoParts
    let tr := playTrace Sample.allPaid s₂
    (∀ e ∈ ([] : List (Entry Sample.host)), e.label.creates = false ∧ e.label.approves = false) ∧
    (∀ e ∈ tr, e.label.creates = false) ∧
    (∃ d, (play Sample.allPaid s₂).storage.escrow = some d ∧
      SameTerms (Sample.twoParts.stored 1) d ∧ d.totalAmount = milestoneTotal d.milestones) ∧
    (∀ e ∈ tr, Forward e) ∧
    (∀ i, tr.countP (·.label.approvesAt i) ≤ 1) ∧
    (tr.map (approvalPaid 9)).sum ≤ milestoneTotal Sample.twoParts.milestones :=
  terms_immutable .refl (Sample.opened_created (by decide)) (run_play (by decide))

end StarEscrow.Escrow
