/-
  StarEscrow.Escrow.Failures

  How a call fails.

  `Fails` is the counterpart of the `_ok` lemmas: its rules say with which
  failure a primitive stops, and simp takes an entry point apart with them.
  They are used for the failures a caller can read a code off: the contract's
  own errors, and the errors of the contracts it calls.

  A code that is passed on comes from one of the effects the call was to have:
  the contracts around carried out those before it and refused that one
  (`Call.passed`).
-/

import StarEscrow.Escrow.Effects

namespace StarEscrow.Escrow

open Exec

variable {Address : Type} [DecidableEq Address] {H : Host Address}

/-! ## When a primitive fails -/

namespace Exec

variable {α β : Type} {env : Env Address} {s : State H} {f : Failure}

/-- The computation stops with this failure. -/
def Fails (x : Exec H α) (env : Env Address) (s : State H) (f : Failure) : Prop :=
  x env s = .error f

@[simp] theorem fails_pure {a : α} : ¬ (pure a : Exec H α).Fails env s f := by
  intro h
  have h : Except.ok (a, s) = Except.error f := h
  cases h

@[simp] theorem fails_bind {x : Exec H α} {g : α → Exec H β} :
    (x >>= g).Fails env s f ↔
      x.Fails env s f ∨ ∃ a s₁, x env s = .ok (a, s₁) ∧ (g a).Fails env s₁ f := by
  show (x env s >>= fun p => g p.1 env p.2) = _ ↔ _
  unfold Fails
  cases x env s with
  | error f => simp [bind, Except.bind]
  | ok p =>
      obtain ⟨a, s₁⟩ := p
      simp [bind, Except.bind]

@[simp] theorem fails_map {x : Exec H α} {g : α → β} :
    (g <$> x).Fails env s f ↔ x.Fails env s f := by
  rw [← bind_pure_comp, fails_bind]
  simp

@[simp] theorem fails_ite {c : Prop} [Decidable c] {x y : Exec H α} :
    (if c then x else y).Fails env s f ↔ if c then x.Fails env s f else y.Fails env s f := by
  split <;> rfl

@[simp] theorem fails_errIf {c : Prop} [Decidable c] {e : EscrowError} :
    (errIf (H := H) c e).Fails env s f ↔ c ∧ .error e = f := by
  unfold Fails errIf
  split <;> simp_all

@[simp] theorem fails_orErr {o : Option α} {e : EscrowError} :
    (orErr (H := H) o e).Fails env s f ↔ o = none ∧ .error e = f := by
  cases o <;> simp [Fails, orErr]

@[simp] theorem fails_orTrap {o : Option α} {t : Trap} :
    (orTrap (H := H) o t).Fails env s f ↔ o = none ∧ .trap t = f := by
  cases o <;> simp [Fails, orTrap]

@[simp] theorem fails_requireAuth {a : Address} :
    (requireAuth (H := H) a).Fails env s f ↔ env.auth a = false ∧ .trap .unauthorized = f := by
  unfold Fails requireAuth
  split <;> simp_all

@[simp] theorem fails_timestamp : ¬ (timestamp (H := H)).Fails env s f := by
  simp [Fails, timestamp]

@[simp] theorem fails_reads {g : State H → α} : ¬ (reads g).Fails env s f := by
  simp [Fails, reads]

@[simp] theorem fails_update {g : State H → State H} : ¬ (update g).Fails env s f := by
  simp [Fails, update]

@[simp] theorem fails_emit {ev : Event Address} : ¬ (emit (H := H) ev).Fails env s f := fails_update

@[simp] theorem fails_transfer {token src dst : Address} {x : Int} :
    (transfer (H := H) token src dst x).Fails env s f ↔
      H.transfer s.world token src dst x = none ∧
        .ofCallee (H.codes.transfer s.world token src dst x) .token = f := by
  unfold Fails transfer
  split <;> simp_all

@[simp] theorem fails_deposit {protocol : Address} {x : Int} :
    (deposit (H := H) protocol x).Fails env s f ↔
      H.deposit s.world protocol x = none ∧
        .ofCallee (H.codes.deposit s.world protocol x) .yieldProtocol = f := by
  unfold Fails deposit
  split <;> simp_all

end Exec

/-! ## The helpers -/

section Helpers

variable {env : Env Address} {s : State H} {f : Failure}

@[simp] theorem fails_saveEscrow {d : EscrowData Address} :
    ¬ (saveEscrow (H := H) d).Fails env s f := fails_update

@[simp] theorem fails_saveConfig {c : ProtocolConfig Address} :
    ¬ (saveConfig (H := H) c).Fails env s f := fails_update

@[simp] theorem fails_extendTtl : ¬ (extendTtl (H := H)).Fails env s f := fails_update

@[simp] theorem fails_hasConfig : ¬ (hasConfig (H := H)).Fails env s f := fails_reads

@[simp] theorem fails_hasEscrow : ¬ (hasEscrow (H := H)).Fails env s f := fails_reads

@[simp] theorem fails_readAllowedTokens : ¬ (readAllowedTokens (H := H)).Fails env s f :=
  fails_reads

@[simp] theorem fails_loadConfig :
    (loadConfig (H := H)).Fails env s f ↔
      s.storage.config = none ∧ .trap (.expect "protocol not initialised") = f := by
  simp [loadConfig]

@[simp] theorem fails_loadEscrow :
    (loadEscrow (H := H)).Fails env s f ↔
      s.storage.escrow = none ∧ .trap (.expect "escrow not initialised") = f := by
  simp [loadEscrow]

@[simp] theorem fails_assertNotPaused :
    (assertNotPaused (H := H)).Fails env s f ↔ s.paused = true ∧ .error .paused = f := by
  unfold assertNotPaused
  cases h : s.storage.config with
  | none => simp [h, State.paused]
  | some c => simp [h, State.paused]

@[simp] theorem errs_depositYield {d : EscrowData Address} {e : EscrowError} :
    ¬ (depositYield (H := H) d).Fails env s (.error e) := by
  unfold depositYield
  split <;> simp

@[simp] theorem errs_payFreelancer {token freelancer : Address} {x : Int} {e : EscrowError} :
    ¬ (payFreelancer (H := H) token freelancer x).Fails env s (.error e) := by
  unfold payFreelancer
  simp

/-- The loop of `create` only rejects an amount that is not positive, or overflows. -/
theorem fails_sumMilestones {ms : List Milestone} {t : Int}
    (h : (sumMilestones (H := H) t ms).Fails env s f) :
    f = .error .invalidAmount ∧ (∃ m ∈ ms, m.amount ≤ 0) ∨ f = .trap .overflow := by
  induction ms generalizing t with
  | nil => exact (fails_pure h).elim
  | cons m ms ih =>
      simp only [sumMilestones, fails_bind, fails_errIf, fails_orTrap, errIf_ok, orTrap_ok] at h
      obtain ⟨h_amount, rfl⟩ | ⟨_, s₁, ⟨-, rfl⟩, ⟨-, rfl⟩ | ⟨t', s₂, ⟨-, rfl⟩, h_rest⟩⟩ := h
      · exact .inl ⟨rfl, m, List.mem_cons_self, h_amount⟩
      · exact .inr rfl
      · obtain ⟨h_f, m', h_m', h_amount⟩ | h_f := ih h_rest
        · exact .inl ⟨h_f, m', List.mem_cons_of_mem m h_m', h_amount⟩
        · exact .inr h_f

end Helpers

theorem Call.run_fails {c : Call Address} {s : State H} {f : Failure} :
    c.run s = .error f ↔ c.op.exec.Fails c.env (s.atTime c.timestamp) f := by
  unfold Call.run Fails
  cases c.op.exec c.env (s.atTime c.timestamp) with
  | error f => simp [Except.map]
  | ok p => simp [Except.map]

/-! ## When a code is passed on -/

section Passed

variable {env : Env Address} {s : State H} {n : UInt32}

theorem payFreelancer_passed {token freelancer : Address} {gross : Int}
    (h : (payFreelancer token freelancer gross).Fails env s (.passed n)) :
    H.carryAll s.world ((payouts H s.storage.config token freelancer gross).map .transfer) =
      .error (some n) := by
  cases h_config : s.storage.config with
  | none =>
      obtain ⟨h_refuses, h_code⟩ :
          H.transfer s.world token H.currentContract freelancer gross = none ∧
            H.codes.transfer s.world token H.currentContract freelancer gross = some n := by
        simpa [payFreelancer, h_config] using h
      rw [← h_code]
      have h_net : gross - feeOf (none : Option (ProtocolConfig Address)) gross = gross :=
        Int.sub_zero gross
      rw [payouts_of_free le_rfl, h_net]
      exact carryAll_refused h_refuses
  | some c =>
      simp only [payFreelancer, bind_pure_comp, bind_assoc, fails_bind, fails_hasConfig,
        hasConfig_ok, h_config, Option.isSome_some, Bool.true_eq, fails_ite, fails_loadConfig,
        reduceCtorEq, and_false, loadConfig_ok, fails_orTrap, orTrap_ok, fails_transfer,
        Failure.ofCallee_eq_passed, fails_pure, if_false_right, exists_false, or_false,
        ↓existsAndEq, and_true, false_or, fails_map, Option.some.injEq, exists_eq_left',
        exists_eq_left, true_and, ↓reduceIte, bind_ok, exists_eq_right_right,
        exists_and_right] at h
      obtain ⟨fee, h_product, h_pos, h_refuses, h_code⟩ |
        ⟨net, s₁, ⟨fee, h_product, ⟨_, h_take⟩, h_net⟩, h_refuses, h_code⟩ := h
      · -- the collector's transfer is refused
        obtain ⟨-, rfl⟩ := Checked.i128_eq_some.mp h_product
        rw [payouts_of_fee rfl h_pos, ← h_code]
        exact carryAll_refused h_refuses
      · -- the freelancer's is, after the collector's or without one
        obtain ⟨-, rfl⟩ := Checked.i128_eq_some.mp h_product
        obtain ⟨-, rfl⟩ := Checked.i128_eq_some.mp h_net
        rw [← h_code]
        split at h_take
        · rename_i h_pos
          obtain ⟨w, h_w, rfl⟩ := transfer_ok.mp h_take
          rw [payouts_of_fee rfl h_pos]
          exact (carryAll_transfer h_w).trans (carryAll_refused h_refuses)
        · rename_i h_zero
          obtain rfl := (pure_ok.mp h_take).2
          have h_free : feeOf (some c) gross ≤ 0 := Int.not_lt.mp h_zero
          rw [payouts_of_free h_free]
          exact carryAll_refused h_refuses

/-- The only other contract `create` calls, once the token is paid, is the yield protocol. -/
theorem depositYield_passed {d : EscrowData Address}
    (h : (depositYield (H := H) d).Fails env s (.passed n)) :
    ∃ p, d.yieldProtocol = some p ∧ H.deposit s.world p d.totalAmount = none ∧
      H.codes.deposit s.world p d.totalAmount = some n := by
  cases h_p : d.yieldProtocol with
  | none => simp [depositYield, h_p] at h
  | some p =>
      refine ⟨p, rfl, ?_⟩
      simpa [depositYield, h_p] using h

theorem create_passed {a : CreateArgs Address} (h : (create (H := H) a).Fails env s (.passed n)) :
    H.carryAll s.world (Op.effects H s.storage (.create a)) = .error (some n) := by
  simp only [create, fails_bind, fails_assertNotPaused, reduceCtorEq, and_false, assertNotPaused_ok,
    fails_hasEscrow, hasEscrow_ok, fails_errIf, errIf_ok, Bool.not_eq_true, fails_readAllowedTokens,
    readAllowedTokens_ok, fails_requireAuth, requireAuth_ok, fails_transfer,
    Failure.ofCallee_eq_passed, transfer_ok, fails_timestamp, timestamp_ok, fails_saveEscrow,
    saveEscrow_ok, fails_emit, emit_ok, fails_extendTtl, exists_false, exists_const, or_self,
    or_false, ↓existsAndEq, and_true, exists_eq_left', false_or] at h
  obtain ⟨-, -, -, h_loop | ⟨total, s₁, h_loop, -, -, -, h⟩⟩ := h
  · -- the loop calls nobody
    rcases fails_sumMilestones h_loop with ⟨h_f, -⟩ | h_f <;> cases h_f
  · obtain ⟨-, -, rfl, rfl⟩ := (sumMilestones_ok (Int.le_refl 0) Checked.inI128_zero).mp h_loop
    rw [Int.zero_add] at h
    obtain ⟨h_refuses, h_code⟩ | ⟨w, h_w, h_lend⟩ := h
    · rw [← h_code]
      exact carryAll_refused h_refuses
    · obtain ⟨p, h_p, h_refuses, h_code⟩ := depositYield_passed h_lend
      have h_p : a.yieldProtocol = some p := h_p
      rw [← h_code, Op.effects, h_p]
      exact (carryAll_transfer h_w).trans (carryAll_deposit_refused h_refuses)

theorem approve_passed {i : Nat} (h : (approve (H := H) i).Fails env s (.passed n)) :
    H.carryAll s.world (Op.effects H s.storage (.approve i)) = .error (some n) := by
  obtain ⟨-, d, h_d, m, h_get, -, -, h_pay⟩ : s.paused = false ∧ ∃ d, s.storage.escrow = some d ∧
      ∃ m, d.milestones[i]? = some m ∧ m.status = .submitted ∧ env.auth d.payer = true ∧
        (payFreelancer d.token d.freelancer m.amount).Fails env s (.passed n) := by
    simpa [approve] using h
  simp [Op.effects, h_d, h_get, carryAll_append_error (payFreelancer_passed h_pay)]

theorem releaseRecurring_passed (h : (releaseRecurring (H := H)).Fails env s (.passed n)) :
    H.carryAll s.world (Op.effects H s.storage .releaseRecurring) = .error (some n) := by
  obtain ⟨-, d, h_d, -, -, -, due, -, -, h_pay⟩ : s.paused = false ∧ ∃ d,
      s.storage.escrow = some d ∧ (d.interval ≠ 0 ∧ d.recurrenceCount ≠ 0) ∧ d.status = .active ∧
        d.releasesMade < d.recurrenceCount ∧
          ∃ due, Checked.addU64 d.lastReleaseTime d.interval = some due ∧ due ≤ env.timestamp ∧
            (payFreelancer d.token d.freelancer d.amount).Fails env s (.passed n) := by
    simpa [releaseRecurring] using h
  simp [Op.effects, h_d, carryAll_append_error (payFreelancer_passed h_pay)]

theorem cancel_passed (h : (cancel (H := H)).Fails env s (.passed n)) :
    H.carryAll s.world (Op.effects H s.storage .cancel) = .error (some n) := by
  obtain ⟨-, d, h_d, -, -, x, h_x, h_refuses, h_code⟩ : s.paused = false ∧ ∃ d,
      s.storage.escrow = some d ∧ d.status = .active ∧ env.auth d.payer = true ∧
        ∃ x, remaining d = some x ∧
          H.transfer s.world d.token H.currentContract d.payer x = none ∧
            H.codes.transfer s.world d.token H.currentContract d.payer x = some n := by
    simpa [cancel] using h
  obtain rfl := remaining_exact h_x
  rw [← h_code, Op.effects, h_d]
  exact carryAll_refused h_refuses

theorem expire_passed (h : (expire (H := H)).Fails env s (.passed n)) :
    H.carryAll s.world (Op.effects H s.storage .expire) = .error (some n) := by
  obtain ⟨-, d, h_d, -, t, -, -, -, x, h_x, h_refuses, h_code⟩ : s.paused = false ∧ ∃ d,
      s.storage.escrow = some d ∧ d.status = .active ∧ ∃ t, d.deadline = some t ∧
        t < env.timestamp ∧ env.auth d.payer = true ∧ ∃ x, remaining d = some x ∧
          H.transfer s.world d.token H.currentContract d.payer x = none ∧
            H.codes.transfer s.world d.token H.currentContract d.payer x = some n := by
    simpa [expire] using h
  obtain rfl := remaining_exact h_x
  rw [← h_code, Op.effects, h_d]
  exact carryAll_refused h_refuses

end Passed

/-- A call that passes on a code was refused one of its effects, with that code. -/
theorem Call.passed {c : Call Address} {s : State H} {n : UInt32}
    (h : c.run s = .error (.passed n)) :
    H.carryAll s.world (c.op.effects H s.storage) = .error (some n) := by
  obtain ⟨t, auth, op⟩ := c
  rw [Call.run_fails] at h
  show H.carryAll (s.atTime t).world (op.effects H (s.atTime t).storage) = _
  cases op with
  | create a => exact create_passed h
  | approve i => exact approve_passed h
  | releaseRecurring => exact releaseRecurring_passed h
  | cancel => exact cancel_passed h
  | expire => exact expire_passed h
  | init admin feeBps feeCollector => simp [Op.exec, init] at h
  | pause => simp [Op.exec, pause] at h
  | unpause => simp [Op.exec, unpause] at h
  | submitWork i => simp [Op.exec, submitWork] at h
  | transferFreelancer f => simp [Op.exec, transferFreelancer] at h
  | transferPayer p => simp [Op.exec, transferPayer] at h
  | extendDeadline t' => simp [Op.exec, extendDeadline] at h

end StarEscrow.Escrow
