/-
  StarEscrow.Escrow.Lifecycle

  Two status fields, two levels: `cancel` and `expire` look at the status of
  the escrow, which `submit_work` does not write, and `approve` looks at the
  status of the milestone only.

    * A refund call does not see submitted work.  As long as no such call
      passes its checks while something is submitted, a submitted milestone
      stays submitted until it is approved and paid.
    * An approval does not see that the escrow is over.  As long as no such
      call passes its checks after the end, the end is final.
-/

import StarEscrow.Escrow.Creation

namespace StarEscrow.Escrow

def Op.isRefund {Address : Type} : Op Address → Bool
  | .cancel | .expire => true
  | _ => false

def Op.isApprove {Address : Type} : Op Address → Bool
  | .approve _ => true
  | _ => false

/-- The step is a `cancel` or `expire` that returned. -/
def Label.refunds {Address : Type} : Label Address → Bool
  | .returned c => c.op.isRefund
  | _ => false

/-- The step is an `approve` that returned. -/
def Label.approves {Address : Type} : Label Address → Bool
  | .returned c => c.op.isApprove
  | _ => false

theorem Op.onBooks_of_isApprove {Address : Type} {op : Op Address} (h : op.isApprove = true) :
    op.onBooks = true := by
  cases op <;> first | rfl | cases h

theorem Op.onBooks_of_isRefund {Address : Type} {op : Op Address} (h : op.isRefund = true) :
    op.onBooks = true := by
  cases op <;> first | rfl | cases h

variable {Address : Type} [DecidableEq Address] {H : Host Address}

/-! ## Submitted work -/

/-- The step is no `cancel` or `expire` that passes its checks while a milestone is submitted. -/
def SparesSubmitted (e : Entry H) : Prop :=
  ∀ c ∈ e.label.call?, ∀ d ∈ e.pre.storage.escrow, c.op.isRefund = true → c.Admitted e.pre d →
    ∀ m ∈ d.milestones, m.status ≠ .submitted

instance (e : Entry H) : Decidable (SparesSubmitted e) := by
  unfold SparesSubmitted
  infer_instance

/-- The step is an `approve i`, authorised by the payer, that paid `amount`, fee included. -/
def PaysMilestone (i : Nat) (amount : Int) (e : Entry H) : Prop :=
  ∃ c d, e.label = .returned c ∧ c.op = .approve i ∧ e.pre.storage.escrow = some d ∧
    c.auth d.payer = true ∧
    e.post.transfers =
      e.pre.transfers ++ payouts H e.pre.storage.config d.token d.freelancer amount ∧
    e.post.paidOut d.token = e.pre.paidOut d.token + amount

/-- A refund that returns passed its checks. -/
theorem Move.admitted_of_refunds {s s' : State H} {l : Label Address} {d d' : EscrowData Address}
    (h : Move s l s' d d') (h_refunds : l.refunds = true) :
    ∃ c, l = .returned c ∧ c.op.isRefund = true ∧ c.Admitted s d := by
  cases h with
  | quiet h_quiet =>
      cases l with
      | returned c =>
          have h_books := Op.onBooks_of_isRefund (show c.op.isRefund = true from h_refunds)
          rw [h_quiet c rfl] at h_books
          cases h_books
      | aborted | outside => cases h_refunds
  | submit h_label h_op | approve h_label h_op | release h_label h_op =>
      subst h_label
      rw [Label.refunds, h_op] at h_refunds
      cases h_refunds
  | refund h_label _ _ h_admitted =>
      subst h_label
      exact ⟨_, rfl, h_refunds, h_admitted⟩

/-- Milestone `i` is submitted and nothing was refunded since, or it is approved and was paid. -/
def Protected (i : Nat) (tr : List (Entry H)) (d : EscrowData Address) : Prop :=
  ∃ m, d.milestones[i]? = some m ∧
    (m.status = .submitted ∧ (∀ e ∈ tr, e.label.refunds = false) ∨
      m.status = .approved ∧ ∃ e ∈ tr, PaysMilestone i m.amount e)

/-- One admitted step keeps a submitted milestone protected. -/
theorem Move.keepsProtected {e : Entry H} {d d' : EscrowData Address} {i : Nat} {tr : List (Entry H)}
    (h : Move e.pre e.label e.post d d') (h_sound : Sound d) (h_spares : SparesSubmitted e)
    (h_stored : e.pre.storage.escrow = some d) (h_inv : Protected i tr d) :
    Protected i (tr ++ [e]) d' := by
  obtain ⟨m, h_get, h_cases⟩ := h_inv
  obtain ⟨m', h_get', h_mm⟩ := h.milestone h_get
  refine ⟨m', h_get', ?_⟩
  cases h_mm with
  | same =>
      rcases h_cases with ⟨h_submitted, h_none⟩ | ⟨h_approved, e', h_e', h_paid⟩
      · left
        refine ⟨h_submitted, ?_⟩
        rw [List.forall_mem_append, List.forall_mem_singleton]
        refine ⟨h_none, ?_⟩
        by_contra h_refunds
        rw [Bool.not_eq_false] at h_refunds
        -- such a refund passed its checks, with milestone `i` submitted
        obtain ⟨c, h_label, h_op, h_admitted⟩ := h.admitted_of_refunds h_refunds
        exact h_spares c (Label.mem_call? h_label) d h_stored h_op h_admitted m
          (List.mem_of_getElem? h_get) h_submitted
      · right
        exact ⟨h_approved, e', List.mem_append_left _ h_e', h_paid⟩
  | submitted _ _ h_pending =>
      -- a protected milestone is not pending any more
      rcases h_cases with ⟨h_status, -⟩ | ⟨h_status, -⟩ <;>
      · rw [h_pending] at h_status
        cases h_status
  | approved h_label h_op _ h_auth h_paid =>
      right
      have h_pos := h_sound.positive m (List.mem_of_getElem? h_get)
      exact ⟨rfl, e, List.mem_append_right _ (List.mem_singleton_self _), _, d, h_label, h_op,
        h_stored, h_auth, h_paid.transfers, h_paid.paidOut h_pos.le⟩

/-- A run of admitted steps keeps a submitted milestone protected. -/
theorem Run.keepsProtected {s s' : State H} {d : EscrowData Address} {i : Nat} {tr : List (Entry H)}
    (h : Run s tr s') (h_stored : s.storage.escrow = some d) (h_wf : WellFormed d)
    (h_spares : ∀ e ∈ tr, SparesSubmitted e) (h_init : Protected (H := H) i [] d) :
    ∃ d', s'.storage.escrow = some d' ∧ Protected i tr d' := by
  have h_hist := h.dealHistory
    (P := fun tr _ d => WellFormed d ∧ ((∀ e ∈ tr, SparesSubmitted e) → Protected i tr d))
    h_stored ⟨h_wf, fun _ => h_init⟩ ?_
  · obtain ⟨d', h_d', -, h_all⟩ := h_hist
    exact ⟨d', h_d', h_all h_spares⟩
  · intro tr e d₁ d₂ h_d₁ h_move ⟨h_wf₁, h_prev⟩
    refine ⟨h_move.wellFormed h_wf₁, fun h_ok => ?_⟩
    rw [List.forall_mem_append, List.forall_mem_singleton] at h_ok
    exact h_move.keepsProtected h_wf₁.sound h_ok.2 h_d₁ (h_prev h_ok.1)

/-- **Submitted work is protected**, in every run in which no `cancel` or `expire` passes its
    checks while work is submitted: the milestone stays submitted, and nothing is refunded, until
    it is approved and paid; and no refund returns while anything is submitted. -/
theorem submitted_protected {s₁ s₂ s₃ : State H} {c : Call Address} {i : Nat} {tr : List (Entry H)}
    (h_reach : Reachable s₁) (h_submit : Step s₁ (.returned c) s₂) (h_op : c.op = .submitWork i)
    (h_run : Run s₂ tr s₃) (h_spares : ∀ e ∈ tr, SparesSubmitted e) :
    (∃ d, s₃.storage.escrow = some d ∧ Protected i tr d) ∧
      ∀ e ∈ tr, e.label.refunds = true → ∀ d ∈ e.pre.storage.escrow, ∀ m ∈ d.milestones,
        m.status ≠ .submitted := by
  constructor
  · cases h_submit with
    | returned h_time h_ret =>
        have h_step := Step.returned h_time h_ret
        obtain ⟨t, auth, op⟩ := c
        cases h_op
        obtain ⟨-, d, h_d, -, m, h_get, -, -, h_s₂⟩ := submitWork_ok.mp (Call.run_ok.mp h_ret)
        have h_stored : s₂.storage.escrow = some (d.withSubmitted i m) := by
          rw [h_s₂]
          rfl
        obtain ⟨d', h_d', h_move⟩ := h_step.move h_d
        -- the stored record has milestone `i` submitted, and no step was taken yet
        obtain rfl : d' = d.withSubmitted i m := Option.some.inj (h_d'.symm.trans h_stored)
        have h_wf := h_move.wellFormed (h_reach.wellFormed h_d)
        obtain ⟨h_lt, -⟩ := List.getElem?_eq_some_iff.mp h_get
        exact h_run.keepsProtected h_stored h_wf h_spares
          ⟨_, List.getElem?_set_self h_lt, .inl ⟨rfl, by simp⟩⟩
  · intro e h_e h_refunds d h_d
    obtain ⟨d', -, h_move⟩ := (h_run.step_of_mem e h_e).move h_d
    obtain ⟨c', h_label, h_op', h_admitted⟩ := h_move.admitted_of_refunds h_refunds
    exact h_spares e h_e c' (Label.mem_call? h_label) d h_d h_op' h_admitted

/-- The first milestone of two is submitted and approved later, the second cancelled. -/
theorem submitted_protected_partlyPaid :
    let s₂ := (Sample.call 2 (.submitWork 0)).perform (Sample.opened 100 0 Sample.twoParts)
    let tr := playTrace [Sample.call 3 (.approve 0), Sample.call 4 .cancel] s₂
    (∃ d, (play [Sample.call 3 (.approve 0), Sample.call 4 .cancel] s₂).storage.escrow = some d ∧
        Protected 0 tr d) ∧
      ∀ e ∈ tr, e.label.refunds = true → ∀ d ∈ e.pre.storage.escrow, ∀ m ∈ d.milestones,
        m.status ≠ .submitted :=
  submitted_protected (Sample.opened_reachable (by decide))
    (.returned (by decide) (Call.run_perform (by decide))) rfl (run_play (by decide)) (by decide)

/-- After a submission, `cancel` returns, refunds everything and leaves the milestone submitted. -/
theorem cancel_takes_submitted_work :
    ∃ (s₁ s₂ s₃ : State Sample.host) (c c' : Call Nat), Reachable s₁ ∧
      Step s₁ (.returned c) s₂ ∧ c.op = .submitWork 0 ∧ Step s₂ (.returned c') s₃ ∧
      c'.op = .cancel ∧ s₃.paidOut 9 - s₂.paidOut 9 = 100 ∧
      ∃ d, s₃.storage.escrow = some d ∧ ∃ m, d.milestones = [m] ∧ m.amount = 100 ∧
        m.status = .submitted :=
  ⟨Sample.opened 100 0 (Sample.deal (Sample.pending [100]) 0 0), _, _,
    Sample.call 2 (.submitWork 0), Sample.call 3 .cancel, Sample.opened_reachable (by decide),
    .returned (by decide) (Call.run_perform (by decide)), rfl,
    .returned (by decide) (Call.run_perform (by decide)), rfl, by decide, _, rfl, _, rfl, rfl, rfl⟩

/-! ## Terminal statuses -/

/-- The step is no `approve` that passes its checks although the escrow is over. -/
def SparesClosed (e : Entry H) : Prop :=
  ∀ c ∈ e.label.call?, ∀ d ∈ e.pre.storage.escrow, c.op.isApprove = true → d.status.Terminal →
    ¬c.Admitted e.pre d

instance (e : Entry H) : Decidable (SparesClosed e) := by
  unfold SparesClosed
  infer_instance

/-- One admitted step from a terminal status writes no books and moves no money. -/
theorem Move.terminal {s s' : State H} {l : Label Address} {d d' : EscrowData Address}
    (h : Move s l s' d d') (h_term : d.status.Terminal) (h_spares : SparesClosed ⟨s, l, s'⟩)
    (h_stored : s.storage.escrow = some d) :
    d'.status = d.status ∧ d'.milestones = d.milestones ∧ s'.transfers = s.transfers := by
  -- every operation on the books but `approve` asks for an `Active` escrow
  have h_over := h_term.ne_active
  cases h with
  | quiet _ h_unpaid => exact ⟨rfl, rfl, h_unpaid.transfers⟩
  | submit _ _ h_active => exact absurd h_active h_over
  | approve h_label h_op _ _ h_admitted =>
      subst h_label
      exact absurd h_admitted (h_spares _ rfl d h_stored (by rw [h_op]; rfl) h_term)
  | release _ _ _ h_active => exact absurd h_active h_over
  | refund _ _ h_active => exact absurd h_active h_over

/-- **Terminal statuses are final**, in every run in which no approval passes its checks after the
    end: the status and the milestones never change again, and nothing is transferred. -/
theorem terminal_final {s s' : State H} {d : EscrowData Address} {tr : List (Entry H)}
    (h_stored : s.storage.escrow = some d) (h_term : d.status.Terminal) (h_run : Run s tr s')
    (h_spares : ∀ e ∈ tr, SparesClosed e) :
    ∃ d', s'.storage.escrow = some d' ∧ d'.status = d.status ∧ d'.milestones = d.milestones ∧
      s'.transfers = s.transfers := by
  refine h_run.deal (I := fun t d' => d'.status = d.status ∧ d'.milestones = d.milestones ∧
    t.transfers = s.transfers) h_spares h_stored ⟨rfl, rfl, rfl⟩ ?_
  intro e d₁ d₂ h_e h_pre _ h_move ⟨h_status, h_ms, h_transfers⟩
  have h_term₁ : d₁.status.Terminal := by
    rw [h_status]
    exact h_term
  obtain ⟨h_status', h_ms', h_transfers'⟩ := h_move.terminal h_term₁ h_e h_pre
  exact ⟨h_status'.trans h_status, h_ms'.trans h_ms, h_transfers'.trans h_transfers⟩

theorem terminal_final_partlyPaid :
    let s := play Sample.partlyPaid (Sample.opened 100 0 Sample.twoParts)
    let s' := play [Sample.call 5 (.approve 1), Sample.call 6 .cancel] s
    ∃ d', s'.storage.escrow = some d' ∧ d'.status = (s.storage.escrow.get rfl).status ∧
      d'.milestones = (s.storage.escrow.get rfl).milestones ∧ s'.transfers = s.transfers :=
  terminal_final (Option.some_get _).symm (by decide) (run_play (by decide)) (by decide)

/-- A cancelled escrow completes, and the contract pays the milestone it has refunded from what
    else it holds. -/
theorem approve_after_cancel :
    ∃ (s s' : State Sample.host) (d d' : EscrowData Nat) (c : Call Nat), Reachable s ∧
      s.storage.escrow = some d ∧ d.status = .cancelled ∧ Step s (.returned c) s' ∧
      s'.storage.escrow = some d' ∧ d'.status = .completed ∧ d'.milestones ≠ d.milestones ∧
      s'.paidOut 9 - s.paidOut 9 = 100 :=
  ⟨play [Sample.call 2 (.submitWork 0), Sample.call 3 .cancel]
      (Sample.opened 100 100 (Sample.deal (Sample.pending [100]) 0 0)), _, _, _,
    Sample.call 4 (.approve 0),
    (Sample.opened_reachable (by decide)).run (run_play (by decide)), rfl, rfl,
    .returned (by decide) (Call.run_perform (by decide)), rfl, rfl, by decide, by decide⟩

end StarEscrow.Escrow
