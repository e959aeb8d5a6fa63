/-
  StarEscrow.Escrow.Enabled

  When a call returns.

  `Call.Enabled` says it of every entry point without running it: who has to
  sign, what has to be stored, which amounts have to be computable and which
  balances have to cover them.  In every state that runs reach, on tokens that
  refuse nothing else, a call returns exactly if it is enabled
  (`returns_iff_enabled`).  Of the amounts only three can stop a call: the fee
  (`FeeFits`), the refund after releases (`RefundFits`) and the balance.
-/

import StarEscrow.Escrow.Fee

namespace StarEscrow.Escrow

open Exec

/-! ## Payments -/

section Payments

variable {Address : Type} [DecidableEq Address] {H : Host Address} {env : Env Address}
  {s s' : State H} {token freelancer : Address} {gross : Int}

/-- The fee goes to the contract itself. -/
def CollectsItself (H : Host Address) (config : Option (ProtocolConfig Address)) : Prop :=
  ∃ c ∈ config, c.feeCollector = H.currentContract

instance (H : Host Address) (config : Option (ProtocolConfig Address)) :
    Decidable (CollectsItself H config) := by
  unfold CollectsItself
  infer_instance

/-- What the contract must hold to pay a gross amount: all of it, or the larger part if it gets the
    fee itself. -/
def outlay (H : Host Address) (config : Option (ProtocolConfig Address)) (gross : Int) : Int :=
  if CollectsItself H config then max (feeOf config gross) (gross - feeOf config gross) else gross

/-- The fee fits and the balance covers the payment. -/
def Affordable (s : State H) (token : Address) (gross : Int) : Prop :=
  FeeFits s.storage.config gross ∧ outlay H s.storage.config gross ≤ s.funds token

instance (s : State H) (token : Address) (gross : Int) : Decidable (Affordable s token gross) :=
  inferInstanceAs (Decidable (_ ∧ _))

/-- Without a fee all of it is needed. -/
theorem outlay_of_free {config : Option (ProtocolConfig Address)} (h_gross : 0 ≤ gross)
    (h_free : feeOf config gross = 0) : outlay H config gross = gross := by
  rw [outlay, h_free, Int.sub_zero, max_eq_right h_gross, ite_self]

/-- What a payment that went through was covered by. -/
theorem outlay_le_funds (h_gross : 0 ≤ gross) {net : Int}
    (h : payFreelancer token freelancer gross env s = .ok (net, s')) :
    outlay H s.storage.config gross ≤ s.funds token := by
  obtain ⟨-, -, s₁, h_fee, h_rest⟩ := payFreelancer_steps h
  obtain ⟨w, h_w, -⟩ := transfer_ok.mp h_rest
  have h_last := (H.transfer_covered h_w).2
  have h_nonneg := feeOf_nonneg s.storage.config h_gross
  obtain ⟨h_zero, rfl⟩ | ⟨c, h_config, h_pos, h_take⟩ := h_fee
  · have h_free : feeOf s₁.storage.config gross = 0 := by omega
    rw [outlay_of_free h_gross h_free]
    rw [h_free, Int.sub_zero] at h_last
    exact h_last
  · -- the fee leaves the balance, unless it comes back
    obtain ⟨w', h_w', rfl⟩ := transfer_ok.mp h_take
    have h_first : feeOf s.storage.config gross ≤ s.funds token := (H.transfer_covered h_w').2
    have h_last : gross - feeOf s.storage.config gross ≤ H.balance w' token H.currentContract :=
      h_last
    have h_funds : H.balance s.world token H.currentContract = s.funds token := rfl
    unfold outlay
    split
    · rename_i h_self
      obtain ⟨c', h_c', h_coll⟩ := h_self
      obtain rfl := Option.some.inj (h_config.symm.trans h_c')
      rw [h_coll] at h_w'
      rw [H.balance_self h_w', h_funds] at h_last
      exact max_le h_first h_last
    · rename_i h_other
      rw [H.balance_src h_w' fun h_coll => h_other ⟨c, h_config, h_coll⟩, h_funds] at h_last
      omega

/-- Two transfers make a payment with a fee. -/
theorem payFreelancer_of_transfers {c : ProtocolConfig Address} {w w' : H.World}
    (h_config : s.storage.config = some c) (h_product : Checked.InI128 (gross * c.feeBps.toNat))
    (h_pos : 0 < feeOf (some c) gross) (h_range : Checked.InI128 (gross - feeOf (some c) gross))
    (h_fee : H.transfer s.world token H.currentContract c.feeCollector (feeOf (some c) gross) =
      some w)
    (h_rest : H.transfer w token H.currentContract freelancer (gross - feeOf (some c) gross) =
      some w') :
    ∃ net s₁, payFreelancer token freelancer gross env s = .ok (net, s₁) := by
  -- the state between the two
  let s₁ : State H := (s.putWorld w).push
    (.transfer ⟨token, H.currentContract, c.feeCollector, feeOf (some c) gross⟩)
  have h_take : (if 0 < feeOf (some c) gross then
      transfer token H.currentContract c.feeCollector (feeOf (some c) gross)
      else pure () : Exec H Unit) env s = .ok ((), s₁) := by
    rw [if_pos h_pos]
    exact transfer_ok.mpr ⟨w, h_fee, rfl⟩
  simp only [payFreelancer, bind_ok, hasConfig_ok, transfer_ok, pure_ok]
  refine ⟨_, _, gross - feeOf (some c) gross, s₁, ⟨true, s, ⟨by rw [h_config]; rfl, rfl⟩, ?_⟩, (), _,
    ⟨w', h_rest, rfl⟩, rfl, rfl⟩
  simp only [if_true, bind_ok, loadConfig_ok, orTrap_ok]
  exact ⟨c, s, ⟨h_config, rfl⟩, _, s, ⟨Checked.i128_of_inI128 h_product, rfl⟩, (), s₁, h_take,
    Checked.i128_of_inI128 h_range, rfl⟩

/-- On a live token a payment goes through exactly if it is affordable. -/
theorem payFreelancer_returns_iff_affordable (h_live : H.Live) (env : Env Address)
    (freelancer : Address) (h_gross : 0 ≤ gross) (h_range : Checked.InI128 gross) :
    (∃ net s₁, payFreelancer token freelancer gross env s = .ok (net, s₁)) ↔
      Affordable s token gross := by
  constructor
  · rintro ⟨net, s₁, h⟩
    exact ⟨payFreelancer_fits h_gross h, outlay_le_funds h_gross h⟩
  · rintro ⟨h_fits, h_funds⟩
    have h_nonneg := feeOf_nonneg s.storage.config h_gross
    have h_le := h_fits.fee_le h_gross
    by_cases h_whole : outlay H s.storage.config gross = gross
    · rw [h_whole] at h_funds
      exact (payFreelancer_returns_iff env freelancer h_live h_gross h_range h_funds).mpr h_fits
    · -- a positive fee that comes back to the contract
      obtain ⟨c, h_c, h_coll⟩ : CollectsItself H s.storage.config := by
        by_contra h_other
        exact h_whole (if_neg h_other)
      have h_config : s.storage.config = some c := h_c
      rw [outlay, if_pos ⟨c, h_c, h_coll⟩] at h_funds
      rw [h_config] at h_nonneg h_le h_funds h_whole
      have h_pos : 0 < feeOf (some c) gross := by
        by_contra h_not
        exact h_whole (outlay_of_free h_gross (by omega))
      obtain ⟨w, h_w⟩ := h_live s.world token H.currentContract c.feeCollector
        (feeOf (some c) gross) h_nonneg ((le_max_left _ _).trans h_funds)
      have h_same : H.balance w token H.currentContract = s.funds token := by
        rw [h_coll] at h_w
        rw [H.balance_self h_w]
        rfl
      obtain ⟨w', h_w'⟩ := h_live w token H.currentContract freelancer
        (gross - feeOf (some c) gross) (by omega) (h_same ▸ (le_max_right _ _).trans h_funds)
      exact payFreelancer_of_transfers h_config (h_fits c h_c).1 h_pos
        (Checked.inI128_of_le (by omega) (by omega) h_range) h_w h_w'

end Payments

/-! ## Refunds -/

section Refunds

variable {Address : Type} {d : EscrowData Address}

/-- The refund can be computed: its recurring part, if there is one, and the sum are in range. -/
def RefundFits (d : EscrowData Address) : Prop :=
  0 < d.recurrenceCount →
    Checked.InI128 (d.amount * d.releasesMade.toNat) ∧ Checked.InI128 (refundOf d)

instance (d : EscrowData Address) : Decidable (RefundFits d) := by
  unfold RefundFits
  infer_instance

theorem Sound.sumI128_released (h : Sound d) :
    Checked.sumI128 0 (releasedAmounts d.milestones) = some (approvedTotal d.milestones) := by
  have h_items : ∀ x ∈ releasedAmounts d.milestones, 0 ≤ x := by
    intro x h_x
    obtain ⟨m, h_m, rfl⟩ := List.mem_map.mp h_x
    have h_amount := h.positive m h_m
    split <;> omega
  have h_range : Checked.InI128 (0 + (releasedAmounts d.milestones).sum) := by
    rw [Int.zero_add]
    exact Checked.inI128_of_le h.approved_nonneg h.approved_le h.range
  rw [Checked.sumI128_of_nonneg (Int.le_refl 0) h_items h_range, Int.zero_add, approvedTotal]

/-- Of a sound record only the recurring part can overflow. -/
theorem Sound.remaining_iff (h : Sound d) {x : Int} :
    remaining d = some x ↔ RefundFits d ∧ x = refundOf d := by
  have h_left : Checked.InI128 (d.totalAmount - approvedTotal d.milestones) := by
    have h_nonneg := h.approved_nonneg
    have h_le := h.approved_le
    exact Checked.inI128_of_le (by omega) (by omega) h.range
  simp only [remaining, h.sumI128_released, Option.bind_eq_bind, Option.bind_some,
    Checked.i128_of_inI128 h_left]
  unfold RefundFits refundOf
  by_cases h_count : 0 < d.recurrenceCount
  · simp only [if_pos h_count, Option.bind_eq_some_iff, Checked.i128_eq_some]
    constructor
    · rintro ⟨k, ⟨h_k, rfl⟩, h_sum, rfl⟩
      exact ⟨fun _ => ⟨h_k, h_sum⟩, rfl⟩
    · rintro ⟨h_fits, rfl⟩
      obtain ⟨h_k, h_sum⟩ := h_fits h_count
      exact ⟨_, ⟨h_k, rfl⟩, h_sum, rfl⟩
  · simp [h_count, Checked.i128_of_inI128 h_left, eq_comm]

/-- A sound record refunds no negative amount. -/
theorem Sound.refundOf_nonneg (h : Sound d) : 0 ≤ refundOf d := by
  have h_le := h.approved_le
  unfold refundOf
  split
  · have h_pos := h.total_pos
    have h_nonneg : 0 ≤ d.amount * d.releasesMade.toNat :=
      Int.mul_nonneg h_pos.le (Int.natCast_nonneg _)
    omega
  · omega

end Refunds

/-! ## Guards -/

section Guards

variable {Address : Type} [DecidableEq Address] {H : Host Address} {s : State H}

/-- The payer owns the total, and the yield protocol takes it if there is one. -/
def CanLock (s : State H) (a : CreateArgs Address) : Prop :=
  milestoneTotal a.milestones ≤ H.balance s.world a.token a.payer ∧
    ∀ p ∈ a.yieldProtocol, ∃ w, H.transfer s.world a.token a.payer H.currentContract
      (milestoneTotal a.milestones) = some w ∧ (H.deposit w p (milestoneTotal a.milestones)).isSome

/-- What the call asks of a stored record. -/
def Op.Ready (op : Op Address) (now : UInt64) (auth : Address → Bool) (s : State H)
    (d : EscrowData Address) : Prop :=
  match op with
  | .submitWork i =>
      d.status = .active ∧ (∃ m ∈ d.milestones[i]?, m.status = .pending) ∧ auth d.freelancer = true
  | .approve i => auth d.payer = true ∧
      ∃ m ∈ d.milestones[i]?, m.status = .submitted ∧ Affordable s d.token m.amount
  | .releaseRecurring => d.interval ≠ 0 ∧ d.recurrenceCount ≠ 0 ∧ d.status = .active ∧
      d.releasesMade < d.recurrenceCount ∧
      d.lastReleaseTime.toNat + d.interval.toNat ≤ now.toNat ∧ Affordable s d.token d.amount
  | .cancel => d.status = .active ∧ auth d.payer = true ∧ RefundFits d ∧
      refundOf d ≤ s.funds d.token
  | .expire => d.status = .active ∧ (∃ t ∈ d.deadline, t < now) ∧ auth d.payer = true ∧
      RefundFits d ∧ refundOf d ≤ s.funds d.token
  | .transferFreelancer _ => auth d.freelancer = true
  | .transferPayer _ => auth d.payer = true
  | .extendDeadline t => auth d.payer = true ∧ ∃ current ∈ d.deadline, current < t
  | _ => False

/-- What the call asks of the state. -/
def Call.Enabled (c : Call Address) (s : State H) : Prop :=
  match c.op with
  | .init admin _ _ => s.storage.config = none ∧ c.auth admin = true
  | .pause | .unpause => ∃ cfg ∈ s.storage.config, c.auth cfg.admin = true
  | .create a => s.paused = false ∧ s.storage.escrow = none ∧ a.Accepted ∧
      (s.storage.allowedTokens.getD [] ≠ [] → a.token ∈ s.storage.allowedTokens.getD []) ∧
      c.auth a.payer = true ∧ CanLock s a
  | op => s.paused = false ∧ ∃ d ∈ s.storage.escrow, op.Ready c.timestamp c.auth s d

theorem Call.returns_iff {c : Call Address} :
    c.returns s = true ↔ ∃ s', c.run s = .ok s' := by
  unfold Call.returns
  cases c.run s with
  | ok s' => exact iff_of_true rfl ⟨s', rfl⟩
  | error f =>
      refine iff_of_false Bool.false_ne_true ?_
      rintro ⟨s', h_run⟩
      cases h_run

variable {t : UInt64} {auth : Address → Bool}

/-- `create` returns if its arguments pass and the total can be locked. -/
theorem create_returns_iff (h_live : H.Live) {a : CreateArgs Address} :
    (∃ s', (Call.mk t auth (.create a)).run s = .ok s') ↔
      (Call.mk t auth (.create a)).Enabled s := by
  constructor
  · rintro ⟨s', h_run⟩
    obtain ⟨h_free, h_new, h_ne, h_pos, h_range, h_allowed, h_auth, w, h_w, d, s₁, h_lend, -⟩ :=
      create_ok.mp (Call.run_ok.mp h_run)
    refine ⟨h_free, h_new, ⟨h_ne, h_pos, h_range⟩, h_allowed, h_auth,
      (H.transfer_covered h_w).2, fun p h_p => ⟨w, h_w, ?_⟩⟩
    rcases depositYield_ok.mp h_lend with ⟨h_none, -⟩ | ⟨p', h_p', -, w', h_w', -⟩
    · have h_some : a.yieldProtocol = some p := h_p
      have h_none : a.yieldProtocol = none := h_none
      rw [h_some] at h_none
      cases h_none
    · have h_p' : a.yieldProtocol = some p' := h_p'
      obtain rfl := Option.some.inj (h_p'.symm.trans h_p)
      exact Option.isSome_of_mem h_w'
  · rintro ⟨h_free, h_new, h_accepted, h_allowed, h_auth, h_covered, h_lends⟩
    have h_total := milestoneTotal_pos h_accepted.nonempty h_accepted.positive
    obtain ⟨w, h_w⟩ := h_live s.world a.token a.payer H.currentContract _ h_total.le h_covered
    obtain ⟨d, s₁, h_lend⟩ : ∃ d s₁, depositYield (a.record (milestoneTotal a.milestones) t)
        ⟨t, auth⟩ (((s.atTime t).putWorld w).push (.transfer
          ⟨a.token, a.payer, H.currentContract, milestoneTotal a.milestones⟩)) = .ok (d, s₁) := by
      simp only [depositYield_ok]
      cases h_p : a.yieldProtocol with
      | none => exact ⟨_, _, .inl ⟨h_p, rfl, rfl⟩⟩
      | some p =>
          obtain ⟨w₁, h_w₁, h_some⟩ := h_lends p h_p
          obtain rfl := Option.some.inj (h_w.symm.trans h_w₁)
          obtain ⟨w', h_w'⟩ := Option.isSome_iff_exists.mp h_some
          exact ⟨_, _, .inr ⟨p, h_p, rfl, w', h_w', rfl⟩⟩
    exact ⟨_, Call.run_ok.mpr (create_ok.mpr ⟨h_free, h_new, h_accepted.nonempty,
      h_accepted.positive, h_accepted.range, h_allowed, h_auth, w, h_w, d, s₁, h_lend, rfl⟩)⟩

/-- A refund goes through if it can be computed and is covered. -/
theorem refund_returns_iff (h_live : H.Live) {d : EscrowData Address} (h_sound : Sound d) :
    (∃ x, remaining d = some x ∧
        ∃ w, H.transfer s.world d.token H.currentContract d.payer x = some w) ↔
      RefundFits d ∧ refundOf d ≤ s.funds d.token := by
  constructor
  · rintro ⟨x, h_x, w, h_w⟩
    obtain ⟨h_fits, rfl⟩ := h_sound.remaining_iff.mp h_x
    exact ⟨h_fits, (H.transfer_covered h_w).2⟩
  · rintro ⟨h_fits, h_covered⟩
    exact ⟨_, h_sound.remaining_iff.mpr ⟨h_fits, rfl⟩,
      h_live s.world d.token H.currentContract d.payer _ h_sound.refundOf_nonneg h_covered⟩

/-- `approve` returns if the payment is affordable. -/
theorem approve_returns_iff (h_live : H.Live) {i : Nat}
    (h_sound : ∀ d ∈ s.storage.escrow, Sound d) :
    (∃ s', (Call.mk t auth (.approve i)).run s = .ok s') ↔
      (Call.mk t auth (.approve i)).Enabled s := by
  have h_pay {d : EscrowData Address} {m : Milestone} (h_d : s.storage.escrow = some d)
      (h_get : d.milestones[i]? = some m) :
      (∃ net s₁, payFreelancer d.token d.freelancer m.amount ⟨t, auth⟩ (s.atTime t) =
        .ok (net, s₁)) ↔ Affordable s d.token m.amount := by
    have h_m := List.mem_of_getElem? h_get
    exact payFreelancer_returns_iff_affordable (s := s.atTime t) h_live ⟨t, auth⟩ d.freelancer
      ((h_sound d h_d).positive m h_m).le ((h_sound d h_d).amount_range h_m)
  constructor
  · rintro ⟨s', h_run⟩
    obtain ⟨h_free, d, h_d, m, h_get, h_submitted, h_auth, net, s₁, h_paid, -⟩ :=
      approve_ok.mp (Call.run_ok.mp h_run)
    exact ⟨h_free, d, h_d, h_auth, m, h_get, h_submitted, (h_pay h_d h_get).mp ⟨net, s₁, h_paid⟩⟩
  · rintro ⟨h_free, d, h_d, h_auth, m, h_get, h_submitted, h_afford⟩
    obtain ⟨net, s₁, h_paid⟩ := (h_pay h_d h_get).mpr h_afford
    exact ⟨_, Call.run_ok.mpr (approve_ok.mpr
      ⟨h_free, d, h_d, m, h_get, h_submitted, h_auth, net, s₁, h_paid, rfl⟩)⟩

/-- `release_recurring` returns if it is due and the whole total is affordable. -/
theorem releaseRecurring_returns_iff (h_live : H.Live)
    (h_sound : ∀ d ∈ s.storage.escrow, Sound d) :
    (∃ s', (Call.mk t auth .releaseRecurring).run s = .ok s') ↔
      (Call.mk t auth .releaseRecurring).Enabled s := by
  have h_pay {d : EscrowData Address} (h_d : s.storage.escrow = some d) :
      (∃ net s₁, payFreelancer d.token d.freelancer d.amount ⟨t, auth⟩ (s.atTime t) =
        .ok (net, s₁)) ↔ Affordable s d.token d.amount :=
    payFreelancer_returns_iff_affordable (s := s.atTime t) h_live ⟨t, auth⟩ d.freelancer
      (h_sound d h_d).total_pos.le (h_sound d h_d).range
  constructor
  · rintro ⟨s', h_run⟩
    obtain ⟨h_free, d, h_d, h_interval, h_count, h_active, h_left, h_due, net, s₁, k, h_paid, -⟩ :=
      releaseRecurring_ok.mp (Call.run_ok.mp h_run)
    exact ⟨h_free, d, h_d, h_interval, h_count, h_active, h_left, h_due,
      (h_pay h_d).mp ⟨net, s₁, h_paid⟩⟩
  · rintro ⟨h_free, d, h_d, h_interval, h_count, h_active, h_left, h_due, h_afford⟩
    obtain ⟨net, s₁, h_paid⟩ := (h_pay h_d).mpr h_afford
    -- the counter stays below the number of releases
    have h_next : (d.releasesMade + 1).toNat = d.releasesMade.toNat + 1 := by
      have h_lt := UInt32.lt_iff_toNat_lt.mp h_left
      have h_bound := d.recurrenceCount.toNat_lt
      rw [UInt32.toNat_add, UInt32.toNat_one, Nat.mod_eq_of_lt (by omega)]
    exact ⟨_, Call.run_ok.mpr (releaseRecurring_ok.mpr ⟨h_free, d, h_d, h_interval, h_count,
      h_active, h_left, h_due, net, s₁, d.releasesMade + 1, h_paid, h_next, rfl⟩)⟩

/-- **When a call returns.**  In every state that runs from empty storage reach, on live tokens, a
    call of any entry point returns exactly if it is enabled. -/
theorem returns_iff_enabled (h_live : H.Live) (h_reach : Reachable s) (c : Call Address) :
    c.returns s = true ↔ c.Enabled s := by
  have h_sound : ∀ d ∈ s.storage.escrow, Sound d := fun d h_d => (h_reach.wellFormed h_d).sound
  rw [Call.returns_iff]
  obtain ⟨t, auth, op⟩ := c
  have h_refund {d : EscrowData Address} (h_d : s.storage.escrow = some d) :=
    refund_returns_iff (s := s.atTime t) h_live (h_sound d h_d)
  cases op with
  | create a => exact create_returns_iff h_live
  | approve i => exact approve_returns_iff h_live h_sound
  | releaseRecurring => exact releaseRecurring_returns_iff h_live h_sound
  | init admin feeBps feeCollector =>
      constructor
      · rintro ⟨s', h_run⟩
        obtain ⟨h_none, h_auth, -⟩ := init_ok.mp (Call.run_ok.mp h_run)
        exact ⟨h_none, h_auth⟩
      · rintro ⟨h_none, h_auth⟩
        exact ⟨_, Call.run_ok.mpr (init_ok.mpr ⟨h_none, h_auth, rfl⟩)⟩
  | pause =>
      constructor
      · rintro ⟨s', h_run⟩
        obtain ⟨cfg, h_cfg, h_auth, -⟩ := pause_ok.mp (Call.run_ok.mp h_run)
        exact ⟨cfg, h_cfg, h_auth⟩
      · rintro ⟨cfg, h_cfg, h_auth⟩
        exact ⟨_, Call.run_ok.mpr (pause_ok.mpr ⟨cfg, h_cfg, h_auth, rfl⟩)⟩
  | unpause =>
      constructor
      · rintro ⟨s', h_run⟩
        obtain ⟨cfg, h_cfg, h_auth, -⟩ := unpause_ok.mp (Call.run_ok.mp h_run)
        exact ⟨cfg, h_cfg, h_auth⟩
      · rintro ⟨cfg, h_cfg, h_auth⟩
        exact ⟨_, Call.run_ok.mpr (unpause_ok.mpr ⟨cfg, h_cfg, h_auth, rfl⟩)⟩
  | submitWork i =>
      constructor
      · rintro ⟨s', h_run⟩
        obtain ⟨h_free, d, h_d, h_active, m, h_get, h_pending, h_auth, -⟩ :=
          submitWork_ok.mp (Call.run_ok.mp h_run)
        exact ⟨h_free, d, h_d, h_active, ⟨m, h_get, h_pending⟩, h_auth⟩
      · rintro ⟨h_free, d, h_d, h_active, ⟨m, h_get, h_pending⟩, h_auth⟩
        exact ⟨_, Call.run_ok.mpr (submitWork_ok.mpr
          ⟨h_free, d, h_d, h_active, m, h_get, h_pending, h_auth, rfl⟩)⟩
  | cancel =>
      constructor
      · rintro ⟨s', h_run⟩
        obtain ⟨h_free, d, h_d, h_active, h_auth, x, h_x, w, h_w, -⟩ :=
          cancel_ok.mp (Call.run_ok.mp h_run)
        exact ⟨h_free, d, h_d, h_active, h_auth, (h_refund h_d).mp ⟨x, h_x, w, h_w⟩⟩
      · rintro ⟨h_free, d, h_d, h_active, h_auth, h_covered⟩
        obtain ⟨x, h_x, w, h_w⟩ := (h_refund h_d).mpr h_covered
        exact ⟨_, Call.run_ok.mpr (cancel_ok.mpr
          ⟨h_free, d, h_d, h_active, h_auth, x, h_x, w, h_w, rfl⟩)⟩
  | expire =>
      constructor
      · rintro ⟨s', h_run⟩
        obtain ⟨h_free, d, h_d, h_active, dl, h_dl, h_late, h_auth, x, h_x, w, h_w, -⟩ :=
          expire_ok.mp (Call.run_ok.mp h_run)
        exact ⟨h_free, d, h_d, h_active, ⟨dl, h_dl, h_late⟩, h_auth,
          (h_refund h_d).mp ⟨x, h_x, w, h_w⟩⟩
      · rintro ⟨h_free, d, h_d, h_active, ⟨dl, h_dl, h_late⟩, h_auth, h_covered⟩
        obtain ⟨x, h_x, w, h_w⟩ := (h_refund h_d).mpr h_covered
        exact ⟨_, Call.run_ok.mpr (expire_ok.mpr
          ⟨h_free, d, h_d, h_active, dl, h_dl, h_late, h_auth, x, h_x, w, h_w, rfl⟩)⟩
  | transferFreelancer f =>
      constructor
      · rintro ⟨s', h_run⟩
        obtain ⟨h_free, d, h_d, h_auth, -⟩ := transferFreelancer_ok.mp (Call.run_ok.mp h_run)
        exact ⟨h_free, d, h_d, h_auth⟩
      · rintro ⟨h_free, d, h_d, h_auth⟩
        exact ⟨_, Call.run_ok.mpr (transferFreelancer_ok.mpr ⟨h_free, d, h_d, h_auth, rfl⟩)⟩
  | transferPayer p =>
      constructor
      · rintro ⟨s', h_run⟩
        obtain ⟨h_free, d, h_d, h_auth, -⟩ := transferPayer_ok.mp (Call.run_ok.mp h_run)
        exact ⟨h_free, d, h_d, h_auth⟩
      · rintro ⟨h_free, d, h_d, h_auth⟩
        exact ⟨_, Call.run_ok.mpr (transferPayer_ok.mpr ⟨h_free, d, h_d, h_auth, rfl⟩)⟩
  | extendDeadline x =>
      constructor
      · rintro ⟨s', h_run⟩
        obtain ⟨h_free, d, h_d, h_auth, dl, h_dl, h_later, -⟩ :=
          extendDeadline_ok.mp (Call.run_ok.mp h_run)
        exact ⟨h_free, d, h_d, h_auth, dl, h_dl, h_later⟩
      · rintro ⟨h_free, d, h_d, h_auth, dl, h_dl, h_later⟩
        exact ⟨_, Call.run_ok.mpr (extendDeadline_ok.mpr
          ⟨h_free, d, h_d, h_auth, dl, h_dl, h_later, rfl⟩)⟩

theorem returns_iff_enabled_submitted :
    (Sample.call 3 (.approve 0)).returns
        (play [Sample.call 2 (.submitWork 0)] (Sample.opened 100 0 Sample.twoParts)) = true ↔
      (Sample.call 3 (.approve 0)).Enabled
        (play [Sample.call 2 (.submitWork 0)] (Sample.opened 100 0 Sample.twoParts)) :=
  returns_iff_enabled Sep41.ledger_live
    ((Sample.opened_reachable (by decide)).run (run_play (by decide))) _

end Guards

end StarEscrow.Escrow
