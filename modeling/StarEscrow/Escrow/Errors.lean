/-
  StarEscrow.Escrow.Errors

  The error codes a caller of the escrow contract sees, and what they tell.

  `Refusal` has a constructor for each check of the source that can fail in a
  reachable state.  A call that returns an error returns one with its reason,
  and a call for which there is a reason does not return.  Five of the
  seventeen errors of `errors.rs` have no reason: two checks that would return
  them never fail in a run, and the other three stand in no entry point.

  The host also shows the caller the code of a contract that the call called
  (`PassedOn`), and nothing tells the two apart: a token that refuses with
  code 11 looks like `RecurrenceComplete`.
-/

import StarEscrow.Escrow.Failures

namespace StarEscrow.Escrow

open Exec

variable {Address : Type} [DecidableEq Address] {H : Host Address}

/-! ## Reasons -/

/-- The operations that only an `Active` escrow takes. -/
def Op.NeedsActive : Op Address → Prop
  | .submitWork _ | .releaseRecurring | .cancel | .expire => True
  | _ => False

/-- The operations that a pause stops. -/
def Op.Pausable : Op Address → Prop
  | .init _ _ _ | .pause | .unpause => False
  | _ => True

/-- Why a call is refused, and with which error. -/
inductive Refusal (s : State H) (c : Call Address) : EscrowError → Prop
  | configured {admin feeCollector : Address} {feeBps : UInt32}
      (h_op : c.op = .init admin feeBps feeCollector) (h_config : s.storage.config ≠ none) :
      Refusal s c .alreadyExists
  | paused (h_op : c.op.Pausable) (h_paused : s.paused = true) : Refusal s c .paused
  | created {a : CreateArgs Address} (h_op : c.op = .create a)
      (h_escrow : s.storage.escrow ≠ none) : Refusal s c .alreadyExists
  | amounts {a : CreateArgs Address} (h_op : c.op = .create a)
      (h_bad : a.milestones = [] ∨ ∃ m ∈ a.milestones, m.amount ≤ 0) : Refusal s c .invalidAmount
  | ended {d : EscrowData Address} (h_op : c.op.NeedsActive)
      (h_stored : s.storage.escrow = some d) (h_end : d.status.Terminal) : Refusal s c .notActive
  | index {d : EscrowData Address} {i : Nat} (h_op : c.op = .submitWork i ∨ c.op = .approve i)
      (h_stored : s.storage.escrow = some d) (h_index : d.milestones.length ≤ i) :
      Refusal s c .milestoneInvalidIndex
  | notPending {d : EscrowData Address} {i : Nat} {m : Milestone} (h_op : c.op = .submitWork i)
      (h_stored : s.storage.escrow = some d) (h_get : d.milestones[i]? = some m)
      (h_status : m.status ≠ .pending) : Refusal s c .milestoneNotPending
  | notSubmitted {d : EscrowData Address} {i : Nat} {m : Milestone} (h_op : c.op = .approve i)
      (h_stored : s.storage.escrow = some d) (h_get : d.milestones[i]? = some m)
      (h_status : m.status ≠ .submitted) : Refusal s c .milestoneNotSubmitted
  | notRecurring {d : EscrowData Address} (h_op : c.op = .releaseRecurring)
      (h_stored : s.storage.escrow = some d) (h_off : d.interval = 0 ∨ d.recurrenceCount = 0) :
      Refusal s c .notRecurring
  | tooEarly {d : EscrowData Address} (h_op : c.op = .releaseRecurring)
      (h_stored : s.storage.escrow = some d)
      (h_early : c.timestamp.toNat < d.lastReleaseTime.toNat + d.interval.toNat) :
      Refusal s c .intervalNotElapsed
  | noDeadline {d : EscrowData Address} (h_op : c.op = .expire)
      (h_stored : s.storage.escrow = some d) (h_none : d.deadline = none) : Refusal s c .notExpired
  | deadlineAhead {d : EscrowData Address} {t : UInt64} (h_op : c.op = .expire)
      (h_stored : s.storage.escrow = some d) (h_deadline : d.deadline = some t)
      (h_ahead : c.timestamp ≤ t) : Refusal s c .deadlineNotPassed
  | notLater {d : EscrowData Address} {t' : UInt64} (h_op : c.op = .extendDeadline t')
      (h_stored : s.storage.escrow = some d) (h_deadline : ∀ t, d.deadline = some t → t' ≤ t) :
      Refusal s c .invalidDeadline

/-! ## What every reachable state rules out -/

/-- No entry point writes the allowlist. -/
theorem Call.run_allowedTokens {c : Call Address} {s s' : State H} (h : c.run s = .ok s') :
    s'.storage.allowedTokens = s.storage.allowedTokens := by
  obtain ⟨t, auth, op⟩ := c
  rw [Call.run_ok] at h
  cases op with
  | init admin feeBps feeCollector =>
      obtain ⟨-, -, rfl⟩ := init_ok.mp h
      rfl
  | pause =>
      obtain ⟨c, -, -, rfl⟩ := pause_ok.mp h
      rfl
  | unpause =>
      obtain ⟨c, -, -, rfl⟩ := unpause_ok.mp h
      rfl
  | create a =>
      obtain ⟨-, -, -, -, -, -, -, w, -, d, s₁, h_lend, rfl⟩ := create_ok.mp h
      rcases depositYield_ok.mp h_lend with ⟨-, -, rfl⟩ | ⟨p, -, -, w', -, rfl⟩
      · rfl
      · rfl
  | submitWork i =>
      obtain ⟨-, d, -, -, m, -, -, -, rfl⟩ := submitWork_ok.mp h
      rfl
  | approve i =>
      obtain ⟨-, d, -, m, -, -, -, net, s₁, h_pay, rfl⟩ := approve_ok.mp h
      have h_storage := (payFreelancer_payment h_pay).storage
      exact (congrArg Storage.allowedTokens h_storage :)
  | releaseRecurring =>
      obtain ⟨-, d, -, -, -, -, -, -, net, s₁, k, h_pay, -, rfl⟩ := releaseRecurring_ok.mp h
      have h_storage := (payFreelancer_payment h_pay).storage
      exact (congrArg Storage.allowedTokens h_storage :)
  | cancel =>
      obtain ⟨-, d, -, -, -, x, -, w, -, rfl⟩ := cancel_ok.mp h
      rfl
  | expire =>
      obtain ⟨-, d, -, -, dl, -, -, -, x, -, w, -, rfl⟩ := expire_ok.mp h
      rfl
  | transferFreelancer f =>
      obtain ⟨-, d, -, -, rfl⟩ := transferFreelancer_ok.mp h
      rfl
  | transferPayer p =>
      obtain ⟨-, d, -, -, rfl⟩ := transferPayer_ok.mp h
      rfl
  | extendDeadline t' =>
      obtain ⟨-, d, -, -, dl, -, -, rfl⟩ := extendDeadline_ok.mp h
      rfl

theorem Reachable.allowedTokens {s : State H} (h : Reachable s) :
    s.storage.allowedTokens = none := by
  obtain ⟨s₀, tr, h_init, h_run⟩ := h
  refine h_run.invariant (O := fun _ => True) (I := fun s => s.storage.allowedTokens = none)
    (fun _ _ => trivial) ?_ h_init.2.2.1
  rintro ⟨s₁, l, s₂⟩ - h_step h_pre
  dsimp only at h_step h_pre ⊢
  cases h_step with
  | returned _ h_call => exact (Call.run_allowedTokens h_call).trans h_pre
  | aborted => exact h_pre
  | outside => exact h_pre

/-- While the escrow is `Active`, its schedule is not used up. -/
def Unfinished (d : EscrowData Address) : Prop :=
  d.status = .active → d.recurrenceCount ≠ 0 → d.releasesMade < d.recurrenceCount

theorem Move.unfinished {s s' : State H} {l : Label Address} {d d' : EscrowData Address}
    (h : Move s l s' d d') (h_d : Unfinished d) : Unfinished d' := by
  intro h_active
  -- an escrow that is `Active` after the step was so before it
  have h_before := h_d (h.active h_active)
  cases h with
  | quiet | submit | approve | refund => exact h_before
  | release =>
      intro _
      simp only [EscrowData.withRelease] at h_active ⊢
      split at h_active
      · cases h_active
      · exact UInt32.not_le.mp ‹_›

theorem Reachable.unfinished {s : State H} (h : Reachable s) {d : EscrowData Address}
    (h_stored : s.storage.escrow = some d) : Unfinished d := by
  refine h.record h_stored (fun _ _ h_count => ?_) Move.unfinished
  exact UInt32.pos_iff_ne_zero.mpr h_count

/-! ## When an entry point returns an error -/

section EntryPoints

variable {env : Env Address} {s : State H} {e : EscrowError}

theorem init_errs {admin feeCollector : Address} {feeBps : UInt32} :
    (init (H := H) admin feeBps feeCollector).Fails env s (.error e) ↔
      s.storage.config ≠ none ∧ .alreadyExists = e := by
  simp [init, Option.isSome_iff_ne_none]

theorem pause_errs : ¬ (pause (H := H)).Fails env s (.error e) := by simp [pause]

theorem unpause_errs : ¬ (unpause (H := H)).Fails env s (.error e) := by simp [unpause]

theorem submitWork_errs {i : Nat} :
    (submitWork (H := H) i).Fails env s (.error e) ↔
      s.paused = true ∧ .paused = e ∨ s.paused = false ∧ ∃ d, s.storage.escrow = some d ∧
        (d.status ≠ .active ∧ .notActive = e ∨ d.status = .active ∧
          (d.milestones.length ≤ i ∧ .milestoneInvalidIndex = e ∨
            ∃ m, d.milestones[i]? = some m ∧ m.status ≠ .pending ∧ .milestoneNotPending = e)) := by
  simp [submitWork]

theorem approve_errs {i : Nat} :
    (approve (H := H) i).Fails env s (.error e) ↔
      s.paused = true ∧ .paused = e ∨ s.paused = false ∧ ∃ d, s.storage.escrow = some d ∧
        (d.milestones.length ≤ i ∧ .milestoneInvalidIndex = e ∨
          ∃ m, d.milestones[i]? = some m ∧ m.status ≠ .submitted ∧
            .milestoneNotSubmitted = e) := by
  simp [approve]

theorem releaseRecurring_errs :
    (releaseRecurring (H := H)).Fails env s (.error e) ↔
      s.paused = true ∧ .paused = e ∨ s.paused = false ∧ ∃ d, s.storage.escrow = some d ∧
        ((d.interval = 0 ∨ d.recurrenceCount = 0) ∧ .notRecurring = e ∨
          (d.interval ≠ 0 ∧ d.recurrenceCount ≠ 0) ∧
            (d.status ≠ .active ∧ .notActive = e ∨ d.status = .active ∧
              (d.recurrenceCount ≤ d.releasesMade ∧ .recurrenceComplete = e ∨
                d.releasesMade < d.recurrenceCount ∧
                  ∃ due, Checked.addU64 d.lastReleaseTime d.interval = some due ∧
                    env.timestamp < due ∧ .intervalNotElapsed = e))) := by
  simp [releaseRecurring]

theorem cancel_errs :
    (cancel (H := H)).Fails env s (.error e) ↔
      s.paused = true ∧ .paused = e ∨ s.paused = false ∧ ∃ d, s.storage.escrow = some d ∧
        d.status ≠ .active ∧ .notActive = e := by
  simp [cancel]

theorem expire_errs :
    (expire (H := H)).Fails env s (.error e) ↔
      s.paused = true ∧ .paused = e ∨ s.paused = false ∧ ∃ d, s.storage.escrow = some d ∧
        (d.status ≠ .active ∧ .notActive = e ∨ d.status = .active ∧
          (d.deadline = none ∧ .notExpired = e ∨
            ∃ t, d.deadline = some t ∧ env.timestamp ≤ t ∧ .deadlineNotPassed = e)) := by
  simp [expire]

theorem transferFreelancer_errs {newFreelancer : Address} :
    (transferFreelancer (H := H) newFreelancer).Fails env s (.error e) ↔
      s.paused = true ∧ .paused = e := by
  simp [transferFreelancer]

theorem transferPayer_errs {newPayer : Address} :
    (transferPayer (H := H) newPayer).Fails env s (.error e) ↔ s.paused = true ∧ .paused = e := by
  simp [transferPayer]

theorem extendDeadline_errs {newDeadline : UInt64} :
    (extendDeadline (H := H) newDeadline).Fails env s (.error e) ↔
      s.paused = true ∧ .paused = e ∨ s.paused = false ∧ ∃ d, s.storage.escrow = some d ∧
        env.auth d.payer = true ∧
          (d.deadline = none ∧ .invalidDeadline = e ∨
            ∃ t, d.deadline = some t ∧ newDeadline ≤ t ∧ .invalidDeadline = e) := by
  simp [extendDeadline]

/-- Once the loop of `create` is through, the total is positive. -/
theorem create_errs {a : CreateArgs Address} (h : (create (H := H) a).Fails env s (.error e)) :
    s.paused = true ∧ e = .paused ∨
    s.storage.escrow ≠ none ∧ e = .alreadyExists ∨
    (a.milestones = [] ∨ ∃ m ∈ a.milestones, m.amount ≤ 0) ∧ e = .invalidAmount ∨
    s.storage.allowedTokens.getD [] ≠ [] ∧ e = .tokenNotAllowed := by
  simp only [create, ne_eq, fails_bind, fails_assertNotPaused, Failure.error.injEq,
    assertNotPaused_ok, fails_hasEscrow, hasEscrow_ok, fails_errIf, errIf_ok, Bool.not_eq_true,
    List.isEmpty_iff, not_le, fails_readAllowedTokens, readAllowedTokens_ok, not_and,
    Decidable.not_not, fails_requireAuth, reduceCtorEq, and_false, requireAuth_ok, fails_transfer,
    Failure.ofCallee_ne_error, transfer_ok, fails_timestamp, timestamp_ok, errs_depositYield,
    fails_saveEscrow, saveEscrow_ok, fails_emit, emit_ok, fails_extendTtl, exists_false,
    exists_const, or_self, or_false, exists_and_right, ↓existsAndEq, and_true, exists_eq_left',
    false_or] at h
  obtain ⟨h_paused, rfl⟩ | ⟨-, h⟩ := h
  · exact .inl ⟨h_paused, rfl⟩
  obtain ⟨h_escrow, rfl⟩ | ⟨-, h⟩ := h
  · exact .inr (.inl ⟨Option.isSome_iff_ne_none.mp h_escrow, rfl⟩)
  obtain ⟨h_nil, rfl⟩ | ⟨h_ne, h⟩ := h
  · exact .inr (.inr (.inl ⟨.inl h_nil, rfl⟩))
  obtain h_loop | ⟨total, s₁, h_loop, h⟩ := h
  · obtain ⟨h_e, h_bad⟩ | h_f := fails_sumMilestones h_loop
    · exact .inr (.inr (.inl ⟨.inr h_bad, Failure.error.inj h_e⟩))
    · cases h_f
  · obtain ⟨h_pos, -, rfl, rfl⟩ := (sumMilestones_ok (Int.le_refl 0) Checked.inI128_zero).mp h_loop
    have h_total := milestoneTotal_pos h_ne h_pos
    obtain ⟨h_zero, -⟩ | ⟨-, ⟨h_allowed, -⟩, rfl⟩ := h
    · omega
    · exact .inr (.inr (.inr ⟨h_allowed, rfl⟩))

end EntryPoints

/-! ## Every error has its reason -/

/-- In a reachable state every error has its reason. -/
theorem Call.refused {c : Call Address} {s : State H} {e : EscrowError} (h_reach : Reachable s)
    (h : c.run s = .error (.error e)) : Refusal s c e := by
  obtain ⟨t, auth, op⟩ := c
  rw [Call.run_fails] at h
  have h_ended {d : EscrowData Address} (h_d : s.storage.escrow = some d)
      (h_status : d.status ≠ .active) : d.status.Terminal :=
    (h_reach.wellFormed h_d).status.resolve_left h_status
  cases op with
  | init admin feeBps feeCollector =>
      obtain ⟨h_config, rfl⟩ := init_errs.mp h
      exact .configured rfl h_config
  | pause => exact (pause_errs h).elim
  | unpause => exact (unpause_errs h).elim
  | create a =>
      obtain ⟨h_paused, rfl⟩ | ⟨h_escrow, rfl⟩ | ⟨h_bad, rfl⟩ | ⟨h_allowed, -⟩ := create_errs h
      · exact .paused trivial h_paused
      · exact .created rfl h_escrow
      · exact .amounts rfl h_bad
      · -- nobody has written an allowlist
        exact absurd (congrArg (·.getD []) h_reach.allowedTokens) h_allowed
  | submitWork i =>
      obtain ⟨h_paused, rfl⟩ | ⟨-, d, h_d, h⟩ := submitWork_errs.mp h
      · exact .paused trivial h_paused
      obtain ⟨h_status, rfl⟩ | ⟨-, ⟨h_index, rfl⟩ | ⟨m, h_get, h_status, rfl⟩⟩ := h
      · exact .ended trivial h_d (h_ended h_d h_status)
      · exact .index (.inl rfl) h_d h_index
      · exact .notPending rfl h_d h_get h_status
  | approve i =>
      obtain ⟨h_paused, rfl⟩ | ⟨-, d, h_d, h⟩ := approve_errs.mp h
      · exact .paused trivial h_paused
      obtain ⟨h_index, rfl⟩ | ⟨m, h_get, h_status, rfl⟩ := h
      · exact .index (.inr rfl) h_d h_index
      · exact .notSubmitted rfl h_d h_get h_status
  | releaseRecurring =>
      obtain ⟨h_paused, rfl⟩ | ⟨-, d, h_d, h⟩ := releaseRecurring_errs.mp h
      · exact .paused trivial h_paused
      obtain ⟨h_off, rfl⟩ | ⟨⟨-, h_count⟩, h⟩ := h
      · exact .notRecurring rfl h_d h_off
      obtain ⟨h_status, rfl⟩ | ⟨h_active, h⟩ := h
      · exact .ended trivial h_d (h_ended h_d h_status)
      obtain ⟨h_used, -⟩ | ⟨-, due, h_add, h_early, rfl⟩ := h
      · have h_left := h_reach.unfinished h_d h_active h_count
        exact absurd h_used (UInt32.not_le.mpr h_left)
      · refine .tooEarly rfl h_d ?_
        rw [← Checked.addU64_eq_some.mp h_add]
        exact UInt64.lt_iff_toNat_lt.mp h_early
  | cancel =>
      obtain ⟨h_paused, rfl⟩ | ⟨-, d, h_d, h_status, rfl⟩ := cancel_errs.mp h
      · exact .paused trivial h_paused
      · exact .ended trivial h_d (h_ended h_d h_status)
  | expire =>
      obtain ⟨h_paused, rfl⟩ | ⟨-, d, h_d, h⟩ := expire_errs.mp h
      · exact .paused trivial h_paused
      obtain ⟨h_status, rfl⟩ | ⟨-, ⟨h_none, rfl⟩ | ⟨t', h_deadline, h_ahead, rfl⟩⟩ := h
      · exact .ended trivial h_d (h_ended h_d h_status)
      · exact .noDeadline rfl h_d h_none
      · exact .deadlineAhead rfl h_d h_deadline h_ahead
  | transferFreelancer f =>
      obtain ⟨h_paused, rfl⟩ := transferFreelancer_errs.mp h
      exact .paused trivial h_paused
  | transferPayer p =>
      obtain ⟨h_paused, rfl⟩ := transferPayer_errs.mp h
      exact .paused trivial h_paused
  | extendDeadline t' =>
      obtain ⟨h_paused, rfl⟩ | ⟨-, d, h_d, -, h⟩ := extendDeadline_errs.mp h
      · exact .paused trivial h_paused
      obtain ⟨h_none, rfl⟩ | ⟨t₀, h_deadline, h_le, rfl⟩ := h
      · exact .notLater rfl h_d fun t₁ h_t₁ => by rw [h_none] at h_t₁; cases h_t₁
      · refine .notLater rfl h_d fun t₁ h_t₁ => ?_
        obtain rfl := Option.some.inj (h_deadline.symm.trans h_t₁)
        exact h_le

/-! ## Where there is a reason, the call does not return -/

theorem Op.Pausable.running {c : Call Address} {s s' : State H} (h_op : c.op.Pausable)
    (h : c.run s = .ok s') : s.paused = false := by
  obtain ⟨t, auth, op⟩ := c
  rw [Call.run_ok] at h
  cases op with
  | init | pause | unpause => exact h_op.elim
  | create => exact (create_ok.mp h).1
  | submitWork => exact (submitWork_ok.mp h).1
  | approve => exact (approve_ok.mp h).1
  | releaseRecurring => exact (releaseRecurring_ok.mp h).1
  | cancel => exact (cancel_ok.mp h).1
  | expire => exact (expire_ok.mp h).1
  | transferFreelancer => exact (transferFreelancer_ok.mp h).1
  | transferPayer => exact (transferPayer_ok.mp h).1
  | extendDeadline => exact (extendDeadline_ok.mp h).1

theorem Op.NeedsActive.active {c : Call Address} {s s' : State H} {d : EscrowData Address}
    (h_op : c.op.NeedsActive) (h_stored : s.storage.escrow = some d) (h : c.run s = .ok s') :
    d.status = .active := by
  have h_same {d' : EscrowData Address} (h_d : s.storage.escrow = some d') : d' = d :=
    Option.some.inj (h_d.symm.trans h_stored)
  cases Call.change h with
  | submit _ _ h_d h_active => exact h_same h_d ▸ h_active
  | release _ _ h_d _ _ h_active => exact h_same h_d ▸ h_active
  | refund _ _ h_d h_active => exact h_same h_d ▸ h_active
  | @pausing _ b h_eq =>
      rw [h_eq] at h_op
      cases b <;> exact h_op.elim
  | init h_eq | create h_eq | approve h_eq | transferFreelancer h_eq | transferPayer h_eq
  | extendDeadline h_eq =>
      rw [h_eq] at h_op
      exact h_op.elim

theorem Refusal.not_ok {c : Call Address} {s s' : State H} {e : EscrowError} (h : Refusal s c e) :
    c.run s ≠ .ok s' := by
  intro h_run
  obtain ⟨t, auth, op⟩ := c
  have h_ok := Call.run_ok.mp h_run
  cases h with
  | configured h_op h_config =>
      cases h_op
      exact h_config (init_ok.mp h_ok).1
  | paused h_op h_paused =>
      rw [h_op.running h_run] at h_paused
      cases h_paused
  | created h_op h_escrow =>
      cases h_op
      exact h_escrow (create_ok.mp h_ok).2.1
  | amounts h_op h_bad =>
      cases h_op
      obtain ⟨-, -, h_ne, h_pos, -⟩ := create_ok.mp h_ok
      obtain h_nil | ⟨m, h_m, h_amount⟩ := h_bad
      · exact h_ne h_nil
      · exact absurd (h_pos m h_m) (by omega)
  | ended h_op h_stored h_end => exact h_end.ne_active (h_op.active h_stored h_run)
  | index h_op h_stored h_index =>
      have h_out {i : Nat} {d : EscrowData Address} {m : Milestone}
          (h_len : d.milestones.length ≤ i) (h_get : d.milestones[i]? = some m) : False := by
        rw [List.getElem?_eq_none h_len] at h_get
        cases h_get
      obtain h_op | h_op := h_op
      · cases h_op
        obtain ⟨-, d, h_d, -, m, h_get, -⟩ := submitWork_ok.mp h_ok
        obtain rfl := Option.some.inj (h_stored.symm.trans h_d)
        exact h_out h_index h_get
      · cases h_op
        obtain ⟨-, d, h_d, m, h_get, -⟩ := approve_ok.mp h_ok
        obtain rfl := Option.some.inj (h_stored.symm.trans h_d)
        exact h_out h_index h_get
  | notPending h_op h_stored h_get h_status =>
      cases h_op
      obtain ⟨-, d, h_d, -, m, h_get', h_pending, -⟩ := submitWork_ok.mp h_ok
      obtain rfl := Option.some.inj (h_stored.symm.trans h_d)
      obtain rfl := Option.some.inj (h_get.symm.trans h_get')
      exact h_status h_pending
  | notSubmitted h_op h_stored h_get h_status =>
      cases h_op
      obtain ⟨-, d, h_d, m, h_get', h_submitted, -⟩ := approve_ok.mp h_ok
      obtain rfl := Option.some.inj (h_stored.symm.trans h_d)
      obtain rfl := Option.some.inj (h_get.symm.trans h_get')
      exact h_status h_submitted
  | notRecurring h_op h_stored h_off =>
      cases h_op
      obtain ⟨-, d, h_d, h_interval, h_count, -⟩ := releaseRecurring_ok.mp h_ok
      obtain rfl := Option.some.inj (h_stored.symm.trans h_d)
      exact h_off.elim h_interval h_count
  | tooEarly h_op h_stored h_early =>
      cases h_op
      obtain ⟨-, d, h_d, -, -, -, -, h_due, -⟩ := releaseRecurring_ok.mp h_ok
      obtain rfl := Option.some.inj (h_stored.symm.trans h_d)
      exact absurd h_due (Nat.not_le.mpr h_early)
  | noDeadline h_op h_stored h_none =>
      cases h_op
      obtain ⟨-, d, h_d, -, t', h_deadline, -⟩ := expire_ok.mp h_ok
      obtain rfl := Option.some.inj (h_stored.symm.trans h_d)
      cases h_none.symm.trans h_deadline
  | deadlineAhead h_op h_stored h_deadline h_ahead =>
      cases h_op
      obtain ⟨-, d, h_d, -, t', h_deadline', h_passed, -⟩ := expire_ok.mp h_ok
      obtain rfl := Option.some.inj (h_stored.symm.trans h_d)
      obtain rfl := Option.some.inj (h_deadline.symm.trans h_deadline')
      exact absurd h_passed (UInt64.not_lt.mpr h_ahead)
  | notLater h_op h_stored h_deadline =>
      cases h_op
      obtain ⟨-, d, h_d, -, t', h_current, h_later, -⟩ := extendDeadline_ok.mp h_ok
      obtain rfl := Option.some.inj (h_stored.symm.trans h_d)
      exact absurd h_later (UInt64.not_lt.mpr (h_deadline t' h_current))

/-- The errors of `errors.rs` that the contract never returns. -/
def unseenErrors : List EscrowError :=
  [.workNotSubmitted, .unauthorized, .tokenNotAllowed, .recurrenceComplete,
    .milestoneAlreadyApproved]

theorem Refusal.not_unseen {c : Call Address} {s : State H} {e : EscrowError}
    (h : Refusal s c e) : e ∉ unseenErrors := by
  cases h <;> decide

/-! ## Whose code it is -/

/-- A contract around refuses, with code `n`, an effect that the call has: it carries out those
    before it and not that one. -/
def PassedOn (s : State H) (c : Call Address) (n : UInt32) : Prop :=
  H.carryAll s.world (c.op.effects H s.storage) = .error (some n)

theorem PassedOn.not_ok {c : Call Address} {s s' : State H} {n : UInt32} (h : PassedOn s c n) :
    c.run s ≠ .ok s' := by
  intro h_run
  have h_carried := (Call.did h_run).2
  rw [PassedOn, h_carried] at h
  cases h

theorem Call.exists_failure {c : Call Address} {s : State H} (h : ∀ s', c.run s ≠ .ok s') :
    ∃ f, c.run s = .error f := by
  cases h_run : c.run s with
  | ok s' => exact absurd h_run (h s')
  | error f => exact ⟨f, rfl⟩

/-- The code the caller of a failing call sees. -/
def Call.code? (c : Call Address) (s : State H) : Option UInt32 :=
  match c.run s with
  | .ok _ => none
  | .error f => f.code?

/-- A code is seen either for an error of the contract or for one that it passes on. -/
theorem Call.code?_eq_some {c : Call Address} {s : State H} {n : UInt32} :
    c.code? s = some n ↔
      (∃ e : EscrowError, e.code = n ∧ c.run s = .error (.error e)) ∨
        c.run s = .error (.passed n) := by
  unfold Call.code?
  cases h_run : c.run s with
  | ok s' => simp
  | error f => cases f <;> simp [Failure.code?]

/-- **Errors tell the truth.**  In every state of every run from empty storage, whatever error code
    a call shows its caller, either the state and the call have the reason for it that `Refusal`
    lists, and it is none of the five errors that are never returned, or a called contract refused
    an effect of the call with that code.  And whenever there is a reason of either kind, the call
    does not return. -/
theorem refusals_exact {s : State H} (h : Reachable s) (c : Call Address) :
    (∀ n, c.code? s = some n →
      (∃ e, e.code = n ∧ c.run s = .error (.error e) ∧ Refusal s c e ∧ e ∉ unseenErrors) ∨
        c.run s = .error (.passed n) ∧ PassedOn s c n) ∧
    (∀ e, Refusal s c e → ∃ f, c.run s = .error f) ∧
    (∀ n, PassedOn s c n → ∃ f, c.run s = .error f) := by
  refine ⟨fun n h_code => ?_, fun e h_refusal => ?_, fun n h_passed => ?_⟩
  · obtain ⟨e, h_e, h_run⟩ | h_run := Call.code?_eq_some.mp h_code
    · have h_refusal := Call.refused h h_run
      exact .inl ⟨e, h_e, h_run, h_refusal, h_refusal.not_unseen⟩
    · exact .inr ⟨h_run, Call.passed h_run⟩
  · exact Call.exists_failure fun _ => h_refusal.not_ok
  · exact Call.exists_failure fun _ => h_passed.not_ok

theorem refusals_exact_firstSubmitted :
    let s := play [Sample.call 2 (.submitWork 0)] (Sample.opened 100 0 Sample.twoParts)
    let c := Sample.call 3 (.submitWork 0)
    (∀ n, c.code? s = some n →
      (∃ e, e.code = n ∧ c.run s = .error (.error e) ∧ Refusal s c e ∧ e ∉ unseenErrors) ∨
        c.run s = .error (.passed n) ∧ PassedOn s c n) ∧
    (∀ e, Refusal s c e → ∃ f, c.run s = .error f) ∧
    (∀ n, PassedOn s c n → ∃ f, c.run s = .error f) :=
  refusals_exact ((Sample.opened_reachable (by decide)).run (run_play (by decide)))
    (Sample.call 3 (.submitWork 0))

/-! ## Which codes are seen -/

/-- Some contract around reports the code. -/
def Host.Reports (H : Host Address) (n : UInt32) : Prop :=
  (∃ w token src dst x, H.codes.transfer w token src dst x = some n) ∨
  (∃ w protocol x, H.codes.deposit w protocol x = some n) ∨
  ∃ w protocol x, H.codes.withdraw w protocol x = some n

theorem Host.Reports.of_carryOut {w : H.World} {e : Effect Address} {n : UInt32}
    (h : H.carryOut w e = .error (some n)) : H.Reports n := by
  unfold Host.carryOut at h
  split at h
  · cases h
  · split at h
    · cases h
    · exact .inl ⟨_, _, _, _, _, Except.error.inj h⟩
  · split at h
    · cases h
    · exact .inr (.inl ⟨_, _, _, Except.error.inj h⟩)
  · split at h
    · cases h
    · exact .inr (.inr ⟨_, _, _, Except.error.inj h⟩)

theorem Host.Reports.of_carryAll {w : H.World} {es : List (Effect Address)} {n : UInt32}
    (h : H.carryAll w es = .error (some n)) : H.Reports n := by
  induction es generalizing w with
  | nil => cases h
  | cons e es ih =>
      rw [Host.carryAll, List.foldlM_cons] at h
      cases h_e : H.carryOut w e with
      | ok w' =>
          rw [h_e] at h
          exact ih h
      | error code =>
          rw [h_e] at h
          obtain rfl : code = some n := Except.error.inj h
          exact .of_carryOut h_e

namespace Sample

/-- For each error that is returned, calls that lead to a state and a call that it refuses. -/
def refused : EscrowError → List (Call Nat) × Call Nat
  | .alreadyExists => ([call 1 (.create twoParts)], call 2 (.create twoParts))
  | .notActive => ([call 1 (.create twoParts), call 2 .cancel], call 3 .cancel)
  | .invalidAmount => ([], call 1 (.create (deal [] 0 0)))
  | .deadlineNotPassed => ([call 1 (.create twoParts)], call 50 .expire)
  | .notExpired => ([call 1 (.create { twoParts with deadline := none })], call 60 .expire)
  | .paused => ([call 1 (.init 4 250 3), call 2 .pause], call 3 (.create twoParts))
  | .intervalNotElapsed => ([call 1 (.create twice)], call 10 .releaseRecurring)
  | .notRecurring => ([call 1 (.create twoParts)], call 20 .releaseRecurring)
  | .milestoneInvalidIndex => ([call 1 (.create twoParts)], call 2 (.approve 2))
  | .milestoneNotPending =>
      ([call 1 (.create twoParts), call 2 (.submitWork 0)], call 3 (.submitWork 0))
  | .milestoneNotSubmitted => ([call 1 (.create twoParts)], call 2 (.approve 0))
  | .invalidDeadline => ([call 1 (.create twoParts)], call 2 (.extendDeadline 50))
  | _ => ([], call 1 .pause)

theorem refused_code {e : EscrowError} (h : e ∉ unseenErrors) :
    InOrder (refused e).1 (start 100 0) = true ∧
    (refused e).2.code? (play (refused e).1 (start 100 0)) = some e.code := by
  cases e <;> first | decide | exact absurd (by decide) h

theorem host_silent (n : UInt32) : ¬host.Reports n := by
  rintro (⟨_, _, _, _, _, h⟩ | ⟨_, _, _, h⟩ | ⟨_, _, _, h⟩) <;> cases h

/-- The same tables of balances, in a token that refuses with code `n`. -/
def reporting (n : UInt32) : Host Nat :=
  { host with codes := ⟨fun _ _ _ _ _ => some n, fun _ _ _ => none, fun _ _ _ => none⟩ }

/-- Nobody owns anything. -/
def penniless (n : UInt32) : State (reporting n) := ⟨⟨none, none, none, 0⟩, fun _ _ => 0, [], 0⟩

end Sample

/-- **The codes that are seen.**  A code of its own, which no called contract passed on, a call of
    some run from empty storage shows exactly if it is that of an error other than the five; and
    there is no code that a called contract cannot make a call show. -/
theorem seen_iff (n : UInt32) :
    ((∃ (H : Host Nat) (s : State H) (c : Call Nat),
      Reachable s ∧ c.code? s = some n ∧ ¬PassedOn s c n) ↔ ∃ e ∉ unseenErrors, e.code = n) ∧
    ∃ (H : Host Nat) (s : State H) (c : Call Nat),
      Reachable s ∧ c.code? s = some n ∧ PassedOn s c n := by
  refine ⟨⟨?_, ?_⟩, ?_⟩
  · rintro ⟨H, s, c, h_reach, h_code, h_own⟩
    obtain ⟨e, h_e, h_run⟩ | h_run := Call.code?_eq_some.mp h_code
    · exact ⟨e, (Call.refused h_reach h_run).not_unseen, h_e⟩
    · exact absurd (Call.passed h_run) h_own
  · rintro ⟨e, h_seen, rfl⟩
    obtain ⟨h_order, h_code⟩ := Sample.refused_code h_seen
    refine ⟨Sample.host, _, _, (Sample.start_reachable 100 0).run (run_play h_order), h_code, ?_⟩
    -- nobody there reports a code
    exact fun h_passed => Sample.host_silent _ (.of_carryAll h_passed)
  · refine ⟨Sample.reporting n, Sample.penniless n, Sample.call 1 (.create Sample.twoParts), ?_, ?_,
      ?_⟩
    · exact ⟨Sample.penniless n, [], ⟨rfl, rfl, rfl, rfl⟩, .refl⟩
    · rfl
    · rfl

end StarEscrow.Escrow
