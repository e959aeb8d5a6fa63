/-
  StarEscrow.Escrow.OpSpecs

  One lemma per entry point: the call returns exactly when its guards hold, and
  then the state it leaves is the one written on the right-hand side.  Nothing
  after this file unfolds an entry point.

  The two pieces several entry points share have a lemma of their own:
  `payFreelancer` (the fee split) is described by `Payment`, `remaining` (the
  refund) by `refundOf`.
-/

import StarEscrow.Escrow.Contract

namespace StarEscrow.Escrow

open Exec

variable {Address : Type}

/-! ## The fee split -/

/-- The fee the stored config charges on a gross payment. -/
def feeOf (config : Option (ProtocolConfig Address)) (gross : Int) : Int :=
  match config with
  | none => 0
  | some c => (gross * c.feeBps.toNat).tdiv 10000

theorem feeOf_nonneg (config : Option (ProtocolConfig Address)) {gross : Int}
    (h : 0 ≤ gross) : 0 ≤ feeOf config gross := by
  cases config with
  | none => exact Int.le_refl 0
  | some c => exact Int.tdiv_nonneg (Int.mul_nonneg h (Int.natCast_nonneg _)) (by decide)

/-- A rate of at most 100 % never takes more than the whole payment. -/
theorem feeOf_le {config : Option (ProtocolConfig Address)} {gross : Int} (h : 0 ≤ gross)
    (h_bps : ∀ c ∈ config, c.feeBps.toNat ≤ 10000) : feeOf config gross ≤ gross := by
  cases config with
  | none => exact h
  | some c =>
      have hc : (c.feeBps.toNat : Int) ≤ 10000 := by exact_mod_cast h_bps c rfl
      have h_prod : gross * c.feeBps.toNat ≤ gross * 10000 := Int.mul_le_mul_of_nonneg_left hc h
      rw [feeOf, Int.tdiv_eq_ediv_of_nonneg (Int.mul_nonneg h (Int.natCast_nonneg _))]
      omega

/-! ## The refund -/

/-- The amount `cancel` and `expire` transfer, as an exact integer. -/
def refundOf (d : EscrowData Address) : Int :=
  d.totalAmount - approvedTotal d.milestones +
    if 0 < d.recurrenceCount then d.amount * d.releasesMade.toNat else 0

theorem remaining_exact {d : EscrowData Address} {x : Int} (h : remaining d = some x) :
    x = refundOf d := by
  simp only [remaining, Option.bind_eq_bind, Option.bind_eq_some_iff,
    Checked.i128_eq_some] at h
  obtain ⟨r, h_sum, _, ⟨-, rfl⟩, k, h_rec, -, rfl⟩ := h
  have h_r : r = approvedTotal d.milestones := by
    simpa [approvedTotal] using Checked.sumI128_exact h_sum
  by_cases h_count : 0 < d.recurrenceCount
  · rw [if_pos h_count, Checked.i128_eq_some] at h_rec
    rw [refundOf, if_pos h_count, h_r, h_rec.2]
  · rw [if_neg h_count, Option.some.injEq] at h_rec
    rw [refundOf, if_neg h_count, h_r, h_rec]

/-- With no release made and a record in range, the refund is computed without a trap. -/
theorem remaining_returns {d : EscrowData Address}
    (h_amounts : ∀ m ∈ d.milestones, 0 ≤ m.amount)
    (h_le : approvedTotal d.milestones ≤ d.totalAmount) (h_range : Checked.InI128 d.totalAmount)
    (h_none : d.recurrenceCount = 0 ∨ d.releasesMade = 0) :
    remaining d = some (d.totalAmount - approvedTotal d.milestones) := by
  have h_items : ∀ x ∈ releasedAmounts d.milestones, 0 ≤ x := by
    intro x hx
    obtain ⟨m, hm, rfl⟩ := List.mem_map.mp hx
    have h_amount := h_amounts m hm
    split <;> omega
  have h_total : 0 ≤ approvedTotal d.milestones := List.sum_nonneg h_items
  have h_rest : Checked.InI128 (d.totalAmount - approvedTotal d.milestones) :=
    Checked.inI128_of_le (by omega) (by omega) h_range
  have h_sum : Checked.sumI128 0 (releasedAmounts d.milestones) =
      some (approvedTotal d.milestones) := by
    have h_fits : Checked.InI128 (0 + (releasedAmounts d.milestones).sum) := by
      rw [Int.zero_add]
      exact Checked.inI128_of_le h_total h_le h_range
    rw [Checked.sumI128_of_nonneg (Int.le_refl 0) h_items h_fits, Int.zero_add, approvedTotal]
  -- with no release the recurring part vanishes, whichever mode the escrow is in
  have h_rec : (if 0 < d.recurrenceCount then
      Checked.i128 (d.amount * d.releasesMade.toNat) else some 0) = some 0 := by
    split
    · rename_i h_count
      rcases h_none with h_zero | h_zero
      · rw [h_zero] at h_count
        exact absurd h_count (by decide)
      · rw [h_zero]
        simp [Checked.i128_of_inI128 Checked.inI128_zero]
    · rfl
  simp only [remaining, Option.bind_eq_bind, h_sum, h_rec, Option.bind_some,
    Checked.i128_of_inI128 h_rest, Int.add_zero]

variable [DecidableEq Address] {H : Host Address}

/-! ## `extend_ttl` -/

namespace State

variable (s : State H)

@[simp] theorem touch_config : s.touch.storage.config = s.storage.config := rfl
@[simp] theorem touch_escrow : s.touch.storage.escrow = s.storage.escrow := rfl
@[simp] theorem touch_world : s.touch.world = s.world := rfl
@[simp] theorem touch_log : s.touch.log = s.log := rfl
@[simp] theorem touch_time : s.touch.time = s.time := rfl

/-- Several events, in order. -/
def publish (es : List (Event Address)) : State H := { s with log := s.log ++ es.map .event }

@[simp] theorem publish_storage (es : List (Event Address)) :
    (s.publish es).storage = s.storage := rfl
@[simp] theorem publish_world (es : List (Event Address)) : (s.publish es).world = s.world := rfl
@[simp] theorem publish_time (es : List (Event Address)) : (s.publish es).time = s.time := rfl
@[simp] theorem publish_log (es : List (Event Address)) :
    (s.publish es).log = s.log ++ es.map .event := rfl

end State

variable {env : Env Address} {s s' : State H} {u : Unit}

/-! ## Storage helpers and guards -/

@[simp] theorem saveEscrow_ok {d : EscrowData Address} :
    saveEscrow d env s = .ok (u, s') ↔ s' = s.putEscrow d := update_ok

@[simp] theorem saveConfig_ok {c : ProtocolConfig Address} :
    saveConfig c env s = .ok (u, s') ↔ s' = s.putConfig c := update_ok

@[simp] theorem extendTtl_ok :
    extendTtl (H := H) env s = .ok (u, s') ↔ s' = s.touch := update_ok

@[simp] theorem readAllowedTokens_ok {l : List Address} :
    readAllowedTokens (H := H) env s = .ok (l, s') ↔
      s.storage.allowedTokens.getD [] = l ∧ s = s' := reads_ok

@[simp] theorem hasConfig_ok {b : Bool} :
    hasConfig (H := H) env s = .ok (b, s') ↔ s.storage.config.isSome = b ∧ s = s' := reads_ok

@[simp] theorem hasEscrow_ok {b : Bool} :
    hasEscrow (H := H) env s = .ok (b, s') ↔ s.storage.escrow.isSome = b ∧ s = s' := reads_ok

@[simp] theorem loadConfig_ok {c : ProtocolConfig Address} :
    loadConfig (H := H) env s = .ok (c, s') ↔ s.storage.config = some c ∧ s = s' := by
  simp [loadConfig]

@[simp] theorem loadEscrow_ok {d : EscrowData Address} :
    loadEscrow (H := H) env s = .ok (d, s') ↔ s.storage.escrow = some d ∧ s = s' := by
  simp [loadEscrow]

@[simp] theorem assertNotPaused_ok :
    assertNotPaused (H := H) env s = .ok (u, s') ↔ s.paused = false ∧ s = s' := by
  cases h : s.storage.config with
  | none => simp [assertNotPaused, State.paused, h]
  | some c => simp [assertNotPaused, State.paused, h, and_comm]

/-! ## Transfers and what they do to the contract's funds -/

namespace State

theorem transfers_push_transfer (s : State H) (t : Transfer Address) :
    (s.push (.transfer t)).transfers = s.transfers ++ [t] := by
  simp [transfers, Effect.transfer?]

@[simp] theorem transfers_push_event (s : State H) (e : Event Address) :
    (s.push (.event e)).transfers = s.transfers := by
  simp [transfers, Effect.transfer?]

@[simp] theorem transfers_push_deposit (s : State H) (p : Address) (x : Int) :
    (s.push (.deposit p x)).transfers = s.transfers := by
  simp [transfers, Effect.transfer?]

theorem transfers_publish (s : State H) (es : List (Event Address)) :
    (s.publish es).transfers = s.transfers := by
  simp [transfers, Function.comp_def, Effect.transfer?]

theorem transfers_congr {s s' : State H} (h : s'.log = s.log) : s'.transfers = s.transfers := by
  rw [transfers, transfers, h]

theorem paidOut_congr {s s' : State H} (h : s'.transfers = s.transfers) (token : Address) :
    s'.paidOut token = s.paidOut token := by
  rw [paidOut, paidOut, h]

theorem paidOut_append {s s' : State H} {ts : List (Transfer Address)}
    (h : s'.transfers = s.transfers ++ ts) (token : Address)
    (h_out : ∀ t ∈ ts, t.token = token ∧ t.src = H.currentContract) :
    s'.paidOut token = s.paidOut token + (ts.map (·.amount)).sum := by
  have h_filter : ts.filter (fun t => t.token = token ∧ t.src = H.currentContract) = ts :=
    List.filter_eq_self.mpr fun t ht => decide_eq_true (h_out t ht)
  rw [paidOut, h, List.filter_append, h_filter, List.map_append, List.sum_append, ← paidOut]

theorem funds_congr {s s' : State H} (h : s'.world = s.world) (token : Address) :
    s'.funds token = s.funds token := by
  rw [funds, funds, h]

end State

/-! ## Paying the freelancer -/

/-- The transfers that pay a gross amount: the fee, when there is one, and the rest. -/
def payouts (H : Host Address) (config : Option (ProtocolConfig Address))
    (token freelancer : Address) (gross : Int) : List (Transfer Address) :=
  (match config with
    | none => []
    | some c =>
        if 0 < feeOf config gross then
          [⟨token, H.currentContract, c.feeCollector, feeOf config gross⟩]
        else []) ++
  [⟨token, H.currentContract, freelancer, gross - feeOf config gross⟩]

theorem payouts_out {config : Option (ProtocolConfig Address)} {token freelancer : Address}
    {gross : Int} : ∀ t ∈ payouts H config token freelancer gross,
      t.token = token ∧ t.src = H.currentContract := by
  intro t ht
  cases config with
  | none => simp_all [payouts]
  | some c =>
      simp only [payouts, List.mem_append, List.mem_singleton] at ht
      rcases ht with ht | rfl
      · split at ht <;> simp_all
      · exact ⟨rfl, rfl⟩

theorem payouts_of_free {config : Option (ProtocolConfig Address)} {token freelancer : Address}
    {gross : Int} (h : feeOf config gross ≤ 0) : payouts H config token freelancer gross =
      [⟨token, H.currentContract, freelancer, gross - feeOf config gross⟩] := by
  cases config with
  | none => rfl
  | some c =>
      rw [payouts]
      simp [Int.not_lt.mpr h]

theorem payouts_of_fee {config : Option (ProtocolConfig Address)} {c : ProtocolConfig Address}
    {token freelancer : Address} {gross : Int} (h_config : config = some c)
    (h : 0 < feeOf config gross) : payouts H config token freelancer gross =
      [⟨token, H.currentContract, c.feeCollector, feeOf config gross⟩,
        ⟨token, H.currentContract, freelancer, gross - feeOf config gross⟩] := by
  subst h_config
  rw [payouts]
  simp [h]

/-- The payouts add up to the gross amount. -/
theorem payouts_sum (config : Option (ProtocolConfig Address)) (token freelancer : Address)
    {gross : Int} (h : 0 ≤ gross) :
    ((payouts H config token freelancer gross).map (·.amount)).sum = gross := by
  have h_fee := feeOf_nonneg config h
  cases config with
  | none => simp [payouts, feeOf]
  | some c =>
      simp only [payouts]
      split
      · simp
      · have h_zero : feeOf (some c) gross = 0 := by omega
        simp [h_zero]

/-- `s₁` is `s` after `gross` was paid out in `token`, the fee to the collector and the rest to
    the freelancer. -/
structure Payment (s s₁ : State H) (token freelancer : Address) (gross : Int) : Prop where
  storage : s₁.storage = s.storage
  log : s₁.log = s.log ++ (payouts H s.storage.config token freelancer gross).map .transfer
  /-- With the contract on neither receiving end, its balance covers and loses the gross amount. -/
  funds : 0 ≤ gross → freelancer ≠ H.currentContract →
    (∀ c ∈ s.storage.config, c.feeCollector ≠ H.currentContract) →
      gross ≤ s.funds token ∧ s₁.funds token = s.funds token - gross

theorem Payment.transfers {s s₁ : State H} {token freelancer : Address} {gross : Int}
    (h : Payment s s₁ token freelancer gross) :
    s₁.transfers = s.transfers ++ payouts H s.storage.config token freelancer gross := by
  rw [State.transfers, h.log, List.filterMap_append, ← State.transfers]
  congr 1
  induction payouts H s.storage.config token freelancer gross with
  | nil => rfl
  | cons t ts ih => simp [Effect.transfer?, ih]

/-- What a payment that goes through did: it moved the fee, when there is one, and then the
    rest. -/
theorem payFreelancer_steps {token freelancer : Address} {gross net : Int}
    (h : payFreelancer token freelancer gross env s = .ok (net, s')) :
    net = gross - feeOf s.storage.config gross ∧
    (∀ c, s.storage.config = some c → Checked.InI128 (gross * c.feeBps.toNat)) ∧
    ∃ s₁, (feeOf s.storage.config gross ≤ 0 ∧ s₁ = s ∨
        ∃ c, s.storage.config = some c ∧ 0 < feeOf s.storage.config gross ∧
          transfer token H.currentContract c.feeCollector (feeOf s.storage.config gross) env s =
            .ok ((), s₁)) ∧
      transfer token H.currentContract freelancer (gross - feeOf s.storage.config gross) env s₁ =
        .ok ((), s') := by
  simp only [payFreelancer, bind_ok, hasConfig_ok, pure_ok] at h
  obtain ⟨x, s₁, ⟨_, _, ⟨rfl, rfl⟩, h_fee⟩, _, _, h_rest, rfl, rfl⟩ := h
  cases h_config : s.storage.config with
  | none =>
      -- without a config the only transfer is the freelancer's
      simp only [h_config, Option.isSome_none, Bool.false_eq_true, if_false, pure_ok] at h_fee
      obtain ⟨rfl, rfl⟩ := h_fee
      have h_zero : feeOf (none : Option (ProtocolConfig Address)) gross = 0 := rfl
      rw [h_zero, Int.sub_zero]
      exact ⟨rfl, by simp, _, .inl ⟨le_rfl, rfl⟩, h_rest⟩
  | some c =>
      simp only [h_config, Option.isSome_some, if_true, bind_ok, loadConfig_ok, orTrap_ok,
        Checked.i128_eq_some] at h_fee
      obtain ⟨_, _, ⟨h_c, rfl⟩, _, _, ⟨⟨h_range, rfl⟩, rfl⟩, _, s₂, h_take, ⟨-, rfl⟩, rfl⟩ := h_fee
      obtain rfl := Option.some.inj h_c
      refine ⟨rfl, fun c' h_c' => Option.some.inj h_c' ▸ h_range, _, ?_, h_rest⟩
      change (if 0 < feeOf (some c) gross then
        transfer token H.currentContract c.feeCollector (feeOf (some c) gross)
        else pure () : Exec H Unit) env s = _ at h_take
      split at h_take
      · rename_i h_pos
        exact .inr ⟨c, rfl, h_pos, h_take⟩
      · rename_i h_zero
        exact .inl ⟨Int.not_lt.mp h_zero, (pure_ok.mp h_take).2.symm⟩

theorem payFreelancer_payment {token freelancer : Address} {gross net : Int}
    (h : payFreelancer token freelancer gross env s = .ok (net, s')) :
    Payment s s' token freelancer gross := by
  obtain ⟨-, -, s₁, h_fee, h_rest⟩ := payFreelancer_steps h
  obtain ⟨w, hw, rfl⟩ := transfer_ok.mp h_rest
  have h_after := H.transfer_covered hw
  obtain ⟨h_zero, rfl⟩ | ⟨c, h_config, h_pos, h_take⟩ := h_fee
  · -- a fee of zero is not transferred
    refine ⟨rfl, by simp [payouts_of_free h_zero], fun h_gross h_free _ => ?_⟩
    have h_nonneg := feeOf_nonneg s₁.storage.config h_gross
    have h_end := H.balance_src hw h_free
    simp only [State.funds, State.putWorld_world, State.push_world] at *
    omega
  · -- two transfers: both are covered, so their sum is
    obtain ⟨w', hw', rfl⟩ := transfer_ok.mp h_take
    refine ⟨rfl, by simp [payouts_of_fee h_config h_pos], fun _ h_free h_coll => ?_⟩
    have h_before := H.transfer_covered hw'
    have h_mid := H.balance_src hw' (h_coll c h_config)
    have h_end := H.balance_src hw h_free
    simp only [State.funds, State.putWorld_world, State.push_world] at *
    omega

/-- Paying does not touch the clock. -/
theorem payFreelancer_time {token freelancer : Address} {gross net : Int}
    (h : payFreelancer token freelancer gross env s = .ok (net, s')) : s'.time = s.time := by
  obtain ⟨-, -, s₁, h_fee, h_rest⟩ := payFreelancer_steps h
  obtain ⟨w, -, rfl⟩ := transfer_ok.mp h_rest
  show s₁.time = s.time
  obtain ⟨-, rfl⟩ | ⟨c, -, -, h_take⟩ := h_fee
  · rfl
  · obtain ⟨w', -, rfl⟩ := transfer_ok.mp h_take
    rfl

/-- With a fee of at most the payment and a fee product in range, a live token pays every gross
    amount the contract's balance covers. -/
theorem payFreelancer_returns (h_live : H.Live) {token freelancer : Address} {gross : Int}
    (h_gross : 0 ≤ gross) (h_le : feeOf s.storage.config gross ≤ gross)
    (h_range : Checked.InI128 gross)
    (h_product : ∀ c ∈ s.storage.config, Checked.InI128 (gross * c.feeBps.toNat))
    (h_funds : gross ≤ s.funds token) :
    ∃ net s₁, payFreelancer token freelancer gross env s = .ok (net, s₁) := by
  simp only [payFreelancer, bind_ok, hasConfig_ok, transfer_ok, pure_ok]
  cases h_config : s.storage.config with
  | none =>
      obtain ⟨w, hw⟩ := h_live s.world token H.currentContract freelancer gross h_gross h_funds
      exact ⟨gross, _, gross, s, ⟨false, s, ⟨rfl, rfl⟩, pure_ok.mpr ⟨rfl, rfl⟩⟩, (), _,
        ⟨w, hw, rfl⟩, rfl, rfl⟩
  | some c =>
      rw [h_config] at h_le h_product
      have h_nonneg := feeOf_nonneg (some c) h_gross
      have h_rest : Checked.InI128 (gross - feeOf (some c) gross) :=
        Checked.inI128_of_le (by omega) (by omega) h_range
      -- the fee transfer first, when there is a fee
      obtain ⟨s₁, h_take, h_funds₁⟩ : ∃ s₁,
          (if 0 < feeOf (some c) gross then
            transfer token H.currentContract c.feeCollector (feeOf (some c) gross)
          else pure ()) env s = .ok ((), s₁) ∧
          gross - feeOf (some c) gross ≤ s₁.funds token := by
        split
        · obtain ⟨w, hw⟩ := h_live s.world token H.currentContract c.feeCollector
            (feeOf (some c) gross) h_nonneg (h_le.trans h_funds)
          refine ⟨_, transfer_ok.mpr ⟨w, hw, rfl⟩, ?_⟩
          simp only [State.funds, State.push_world, State.putWorld_world] at h_funds ⊢
          -- a fee paid to the contract itself stays there
          by_cases h_coll : c.feeCollector = H.currentContract
          · rw [h_coll] at hw
            rw [H.balance_self hw]
            omega
          · rw [H.balance_src hw h_coll]
            omega
        · exact ⟨s, pure_ok.mpr ⟨rfl, rfl⟩, by omega⟩
      obtain ⟨w, hw⟩ := h_live s₁.world token H.currentContract freelancer
        (gross - feeOf (some c) gross) (by omega) h_funds₁
      refine ⟨_, _, gross - feeOf (some c) gross, s₁, ⟨true, s, ⟨rfl, rfl⟩, ?_⟩, (), _,
        ⟨w, hw, rfl⟩, rfl, rfl⟩
      simp only [if_true, bind_ok, loadConfig_ok, orTrap_ok]
      exact ⟨c, s, ⟨h_config, rfl⟩, _, s, ⟨Checked.i128_of_inI128 (h_product c rfl), rfl⟩, (), s₁,
        h_take, Checked.i128_of_inI128 h_rest, rfl⟩

/-! ## Configuration -/

theorem init_ok {admin feeCollector : Address} {feeBps : UInt32} :
    init admin feeBps feeCollector env s = .ok (u, s') ↔
      s.storage.config = none ∧ env.auth admin = true ∧
      s' = (s.putConfig ⟨admin, false, feeBps, feeCollector⟩).touch := by
  simp [init]

theorem pause_ok :
    pause env s = .ok (u, s') ↔
      ∃ c, s.storage.config = some c ∧ env.auth c.admin = true ∧
        s' = ((s.push (.event (.contractPaused c.admin))).putConfig
          { c with paused := true }).touch := by
  simp [pause]

theorem unpause_ok :
    unpause env s = .ok (u, s') ↔
      ∃ c, s.storage.config = some c ∧ env.auth c.admin = true ∧
        s' = ((s.push (.event (.contractUnpaused c.admin))).putConfig
          { c with paused := false }).touch := by
  simp [unpause]

/-! ## Creation -/

/-- The loop of `create` returns exactly on positive amounts whose sum is in range. -/
theorem sumMilestones_ok {ms : List Milestone} {t r : Int} (h_t : 0 ≤ t)
    (h_range : Checked.InI128 t) :
    sumMilestones t ms env s = .ok (r, s') ↔
      (∀ m ∈ ms, 0 < m.amount) ∧ Checked.InI128 (t + milestoneTotal ms) ∧
        r = t + milestoneTotal ms ∧ s = s' := by
  induction ms generalizing t with
  | nil =>
      rw [sumMilestones, pure_ok]
      simp [milestoneTotal, h_range, eq_comm]
  | cons m ms ih =>
      have h_total : milestoneTotal (m :: ms) = m.amount + milestoneTotal ms := by
        simp [milestoneTotal]
      simp only [sumMilestones, bind_ok, errIf_ok, orTrap_ok, Checked.i128_eq_some, h_total,
        ← Int.add_assoc, List.forall_mem_cons]
      constructor
      · rintro ⟨_, _, ⟨h_pos, rfl⟩, _, _, ⟨⟨h_fits, rfl⟩, rfl⟩, h_rest⟩
        obtain ⟨h_amounts, h_end⟩ := (ih (by omega) h_fits).mp h_rest
        exact ⟨⟨by omega, h_amounts⟩, h_end⟩
      · rintro ⟨⟨h_pos, h_amounts⟩, h_fits, h_end⟩
        -- the partial sums are below the total, so none of them traps
        have h_rest : 0 ≤ milestoneTotal ms := by
          refine List.sum_nonneg fun x hx => ?_
          obtain ⟨m', hm', rfl⟩ := List.mem_map.mp hx
          exact (h_amounts m' hm').le
        have h_head : Checked.InI128 (t + m.amount) :=
          Checked.inI128_of_le (by omega) (by omega) h_fits
        exact ⟨(), s, ⟨by omega, rfl⟩, _, s, ⟨⟨h_head, rfl⟩, rfl⟩,
          (ih (by omega) h_head).mpr ⟨h_amounts, h_fits, h_end⟩⟩

/-- Lending to the yield protocol: what `create` stores, and the state it stores it in. -/
theorem depositYield_ok {d d' : EscrowData Address} :
    depositYield d env s = .ok (d', s') ↔
      (d.yieldProtocol = none ∧ d' = d ∧ s' = s) ∨
      ∃ p, d.yieldProtocol = some p ∧ d' = { d with principalDeposited := d.totalAmount } ∧
        ∃ w, H.deposit s.world p d.totalAmount = some w ∧
          s' = (((s.putWorld w).push (.deposit p d.totalAmount)).push
            (.event (.yieldDeposited p d.totalAmount))) := by
  cases h : d.yieldProtocol with
  | none =>
      simp only [depositYield, h, pure_ok]
      simp [eq_comm]
  | some p =>
      simp only [depositYield, h]
      simp
      grind

theorem milestoneTotal_pos {ms : List Milestone} (h_ne : ms ≠ [])
    (h_pos : ∀ m ∈ ms, 0 < m.amount) : 0 < milestoneTotal ms := by
  refine List.sum_pos _ (fun x hx => ?_) (by simpa using h_ne)
  obtain ⟨m, hm, rfl⟩ := List.mem_map.mp hx
  exact h_pos m hm

theorem create_ok {a : CreateArgs Address} :
    create a env s = .ok (u, s') ↔
      s.paused = false ∧ s.storage.escrow = none ∧ a.milestones ≠ [] ∧
      (∀ m ∈ a.milestones, 0 < m.amount) ∧ Checked.InI128 (milestoneTotal a.milestones) ∧
      (s.storage.allowedTokens.getD [] ≠ [] → a.token ∈ s.storage.allowedTokens.getD []) ∧
      env.auth a.payer = true ∧
      ∃ w, H.transfer s.world a.token a.payer H.currentContract (milestoneTotal a.milestones) =
          some w ∧
        ∃ d s₁, depositYield (a.record (milestoneTotal a.milestones) env.timestamp) env
            ((s.putWorld w).push (.transfer
              ⟨a.token, a.payer, H.currentContract, milestoneTotal a.milestones⟩)) =
              .ok (d, s₁) ∧
          s' = ((s₁.putEscrow d).push (.event (.escrowCreated a.payer a.freelancer
            (milestoneTotal a.milestones) a.milestones))).touch := by
  have h_sum (r : Int) (t t' : State H) :
      sumMilestones 0 a.milestones env t = .ok (r, t') ↔ _ :=
    sumMilestones_ok (Int.le_refl 0) Checked.inI128_zero
  simp only [Int.zero_add] at h_sum
  simp [create, and_assoc, h_sum]
  intro h_run h_new h_ne h_pos h_range h_allowed h_auth
  have h_total := milestoneTotal_pos h_ne h_pos
  simp [h_total]

/-! ## Milestones -/

theorem submitWork_ok {i : Nat} :
    submitWork i env s = .ok (u, s') ↔
      s.paused = false ∧ ∃ d, s.storage.escrow = some d ∧ d.status = .active ∧
        ∃ m, d.milestones[i]? = some m ∧ m.status = .pending ∧ env.auth d.freelancer = true ∧
          s' = ((s.putEscrow { d with
              milestones := d.milestones.set i { m with status := .submitted } }).push
            (.event (.milestoneSubmitted d.freelancer i m.description))).touch := by
  simp [submitWork, and_assoc]

theorem approve_ok {i : Nat} :
    approve i env s = .ok (u, s') ↔
      s.paused = false ∧ ∃ d, s.storage.escrow = some d ∧
        ∃ m, d.milestones[i]? = some m ∧ m.status = .submitted ∧ env.auth d.payer = true ∧
          ∃ net s₁, payFreelancer d.token d.freelancer m.amount env s = .ok (net, s₁) ∧
            s' = ((s₁.push (.event
                (.milestoneApproved d.freelancer i m.description net))).putEscrow
              (let milestones := d.milestones.set i { m with status := .approved }
              { d with
                milestones := milestones
                status := if ∀ m ∈ milestones, m.status = .approved then .completed
                  else d.status })).touch := by
  simp [approve, and_assoc]

/-! ## Recurring releases -/

/-- A deadline in the future of `a` by `b` seconds has passed, with no overflow on the way. -/
theorem addU64_le_iff {a b t : UInt64} {P : Prop} :
    (∃ due, Checked.addU64 a b = some due ∧ due ≤ t ∧ P) ↔ a.toNat + b.toNat ≤ t.toNat ∧ P := by
  constructor
  · rintro ⟨due, h_add, h_le⟩
    rw [← Checked.addU64_eq_some.mp h_add]
    exact h_le
  · intro h_le
    -- the clock is a `u64`, so a time it has reached is one too
    have h_lt := t.toNat_lt
    have h_fits : a.toNat + b.toNat < 2 ^ 64 := by omega
    refine ⟨a + b, by rw [Checked.addU64, if_pos h_fits], ?_⟩
    rw [UInt64.le_iff_toNat_le, UInt64.toNat_add, Nat.mod_eq_of_lt h_fits]
    exact h_le

/-- The event that closes the last release. -/
theorem finalRelease_ok {n k : UInt32} {e e' : Event Address} :
    (if n ≤ k then emit e' else pure () : Exec H Unit) env (s.push (.event e)) = .ok (u, s') ↔
      s' = s.publish (e :: if n ≤ k then [e'] else []) := by
  split
  · rw [emit_ok]
    simp [State.publish, State.push]
  · rw [pure_ok]
    simp [State.publish, State.push, eq_comm]

theorem releaseRecurring_ok :
    releaseRecurring env s = .ok (u, s') ↔
      s.paused = false ∧ ∃ d, s.storage.escrow = some d ∧
        d.interval ≠ 0 ∧ d.recurrenceCount ≠ 0 ∧ d.status = .active ∧
        d.releasesMade < d.recurrenceCount ∧
        d.lastReleaseTime.toNat + d.interval.toNat ≤ env.timestamp.toNat ∧
        ∃ net s₁, ∃ k : UInt32, payFreelancer d.token d.freelancer d.amount env s = .ok (net, s₁) ∧
          k.toNat = d.releasesMade.toNat + 1 ∧
          s' = (s₁.publish (.recurringReleased d.freelancer net k ::
              if d.recurrenceCount ≤ k then [.paymentReleased d.freelancer net] else [])).putEscrow
            { d with
              releasesMade := k
              lastReleaseTime := env.timestamp
              status := if d.recurrenceCount ≤ k then .completed else d.status } := by
  simp [releaseRecurring, and_assoc, finalRelease_ok, Checked.succU32_eq_some, ← addU64_le_iff]

/-! ## Refunds -/

theorem cancel_ok :
    cancel env s = .ok (u, s') ↔
      s.paused = false ∧ ∃ d, s.storage.escrow = some d ∧ d.status = .active ∧
        env.auth d.payer = true ∧ ∃ x, remaining d = some x ∧
          ∃ w, H.transfer s.world d.token H.currentContract d.payer x = some w ∧
            s' = (((((s.putWorld w).push
                (.transfer ⟨d.token, H.currentContract, d.payer, x⟩)).push
                (.event (.escrowCancelled d.payer x))).putEscrow
                { d with status := .cancelled })).touch := by
  simp [cancel, and_assoc]

theorem expire_ok :
    expire env s = .ok (u, s') ↔
      s.paused = false ∧ ∃ d, s.storage.escrow = some d ∧ d.status = .active ∧
        ∃ deadline, d.deadline = some deadline ∧ deadline < env.timestamp ∧
          env.auth d.payer = true ∧ ∃ x, remaining d = some x ∧
            ∃ w, H.transfer s.world d.token H.currentContract d.payer x = some w ∧
              s' = (((((s.putWorld w).push
                  (.transfer ⟨d.token, H.currentContract, d.payer, x⟩)).push
                  (.event (.escrowExpired d.payer x))).putEscrow
                  { d with status := .expired })).touch := by
  simp [expire, and_assoc]

/-! ## Roles and deadline -/

theorem transferFreelancer_ok {newFreelancer : Address} :
    transferFreelancer newFreelancer env s = .ok (u, s') ↔
      s.paused = false ∧ ∃ d, s.storage.escrow = some d ∧ env.auth d.freelancer = true ∧
        s' = ((s.putEscrow { d with freelancer := newFreelancer }).push
          (.event (.freelancerTransferred d.freelancer newFreelancer))).touch := by
  simp [transferFreelancer, and_assoc]

theorem transferPayer_ok {newPayer : Address} :
    transferPayer newPayer env s = .ok (u, s') ↔
      s.paused = false ∧ ∃ d, s.storage.escrow = some d ∧ env.auth d.payer = true ∧
        s' = ((s.putEscrow { d with payer := newPayer }).push
          (.event (.payerTransferred d.payer newPayer))).touch := by
  simp [transferPayer, and_assoc]

theorem extendDeadline_ok {newDeadline : UInt64} :
    extendDeadline newDeadline env s = .ok (u, s') ↔
      s.paused = false ∧ ∃ d, s.storage.escrow = some d ∧ env.auth d.payer = true ∧
        ∃ current, d.deadline = some current ∧ current < newDeadline ∧
          s' = ((s.putEscrow { d with deadline := some newDeadline }).push
            (.event (.deadlineExtended current newDeadline))).touch := by
  simp [extendDeadline, and_assoc]

end StarEscrow.Escrow
