/-
  StarEscrow.Escrow.Fee

  When the fee lets an approval through.

  `init` stores any rate and `approve` multiplies the amount by it in `i128`
  before it divides, so there are two ways for the fee to stop a payment: the
  product overflows, or the fee exceeds the amount and what would be left for
  the freelancer is negative, which a token refuses.  `FeeFits` excludes both,
  and nothing else can go wrong.
-/

import StarEscrow.Escrow.Creation

namespace StarEscrow.Escrow

open Exec

variable {Address : Type}

/-- The fee product of the amount is in range, and its 10000th part is at most the amount. -/
def FeeFits (config : Option (ProtocolConfig Address)) (amount : Int) : Prop :=
  ∀ c ∈ config, Checked.InI128 (amount * c.feeBps.toNat) ∧
    amount * c.feeBps.toNat < 10000 * (amount + 1)

instance (config : Option (ProtocolConfig Address)) (amount : Int) :
    Decidable (FeeFits config amount) := by
  unfold FeeFits
  infer_instance

/-- Rates of at most 100 % fit as soon as the product is in range. -/
theorem feeFits_of_bps {config : Option (ProtocolConfig Address)} {amount : Int}
    (h_amount : 0 ≤ amount) (h_bps : ∀ c ∈ config, c.feeBps.toNat ≤ 10000)
    (h_product : ∀ c ∈ config, Checked.InI128 (amount * c.feeBps.toNat)) :
    FeeFits config amount := by
  intro c h_c
  refine ⟨h_product c h_c, ?_⟩
  have h_rate : (c.feeBps.toNat : Int) ≤ 10000 := by exact_mod_cast h_bps c h_c
  have h_le : amount * c.feeBps.toNat ≤ amount * 10000 :=
    Int.mul_le_mul_of_nonneg_left h_rate h_amount
  omega

theorem FeeFits.fee_le {config : Option (ProtocolConfig Address)} {amount : Int}
    (h : FeeFits config amount) (h_amount : 0 ≤ amount) : feeOf config amount ≤ amount := by
  cases config with
  | none => exact h_amount
  | some c =>
      obtain ⟨-, h_lt⟩ := h c rfl
      have h_product : 0 ≤ amount * c.feeBps.toNat := Int.mul_nonneg h_amount (Int.natCast_nonneg _)
      rw [feeOf, Int.tdiv_eq_ediv_of_nonneg h_product]
      omega

variable [DecidableEq Address] {H : Host Address} {env : Env Address} {s s' : State H}

/-- The transfer of a fee to the collector, if there is a fee. -/
def feeTransfers (H : Host Address) (config : Option (ProtocolConfig Address)) (token : Address)
    (fee : Int) : List (Transfer Address) :=
  match config with
  | none => []
  | some c => if 0 < fee then [⟨token, H.currentContract, c.feeCollector, fee⟩] else []

theorem payouts_eq (config : Option (ProtocolConfig Address)) (token freelancer : Address)
    (amount : Int) : payouts H config token freelancer amount =
      feeTransfers H config token (feeOf config amount) ++
        [⟨token, H.currentContract, freelancer, amount - feeOf config amount⟩] := by
  cases config <;> rfl

/-- A payment that went through had a fee that fits. -/
theorem payFreelancer_fits {token freelancer : Address} {gross net : Int} (h_gross : 0 ≤ gross)
    (h : payFreelancer token freelancer gross env s = .ok (net, s')) :
    FeeFits s.storage.config gross := by
  intro c h_c
  have h_c : s.storage.config = some c := h_c
  obtain ⟨-, h_range, s₁, -, h_rest⟩ := payFreelancer_steps h
  obtain ⟨w, h_w, -⟩ := transfer_ok.mp h_rest
  -- the token moved the rest, so the rest is not negative
  have h_covered := (H.transfer_covered h_w).1
  have h_product : 0 ≤ gross * c.feeBps.toNat := Int.mul_nonneg h_gross (Int.natCast_nonneg _)
  rw [h_c, feeOf, Int.tdiv_eq_ediv_of_nonneg h_product] at h_covered
  exact ⟨h_range c h_c, by omega⟩

/-- On a live token that holds the amount, the payment goes through exactly when the fee fits. -/
theorem payFreelancer_returns_iff (env : Env Address) (freelancer : Address) (h_live : H.Live)
    {token : Address} {gross : Int} (h_gross : 0 ≤ gross) (h_range : Checked.InI128 gross)
    (h_funds : gross ≤ s.funds token) :
    (∃ net s₁, payFreelancer token freelancer gross env s = .ok (net, s₁)) ↔
      FeeFits s.storage.config gross := by
  constructor
  · rintro ⟨net, s₁, h⟩
    exact payFreelancer_fits h_gross h
  · intro h_fits
    exact payFreelancer_returns h_live h_gross (h_fits.fee_le h_gross) h_range
      (fun c h_c => (h_fits c h_c).1) h_funds

/-- Every amount of a sound record is in range. -/
theorem Sound.amount_range {Address : Type} {d : EscrowData Address} (h : Sound d) {m : Milestone}
    (h_mem : m ∈ d.milestones) : Checked.InI128 m.amount := by
  have h_le : m.amount ≤ milestoneTotal d.milestones :=
    List.single_le_sum h.amounts_nonneg m.amount (List.mem_map_of_mem h_mem)
  rw [← h.total] at h_le
  exact Checked.inI128_of_le (h.positive m h_mem).le h_le h.range

/-- The approval of a submitted milestone by the payer. -/
structure ApprovalDue (s : State H) (c : Call Address) (i : Nat) (d : EscrowData Address)
    (m : Milestone) : Prop where
  op : c.op = .approve i
  running : s.paused = false
  stored : s.storage.escrow = some d
  get : d.milestones[i]? = some m
  submitted : m.status = .submitted
  authorized : c.auth d.payer = true

theorem ApprovalDue.returns_iff (h_live : H.Live) {c : Call Address} {i : Nat}
    {d : EscrowData Address} {m : Milestone} (h : ApprovalDue s c i d m) (h_sound : Sound d)
    (h_funds : m.amount ≤ s.funds d.token) :
    (∃ s', c.run s = .ok s') ↔ FeeFits s.storage.config m.amount := by
  obtain ⟨t, auth, op⟩ := c
  obtain rfl : op = .approve i := h.op
  have h_mem := List.mem_of_getElem? h.get
  have h_pay := payFreelancer_returns_iff (s := s.atTime t) ⟨t, auth⟩ d.freelancer h_live
    (h_sound.positive m h_mem).le (h_sound.amount_range h_mem) h_funds
  rw [State.atTime_storage] at h_pay
  rw [← h_pay]
  constructor
  · rintro ⟨s', h_run⟩
    obtain ⟨-, d', h_d', m', h_get', -, -, net, s₁, h_ok, -⟩ := approve_ok.mp (Call.run_ok.mp h_run)
    obtain rfl := Option.some.inj (h.stored.symm.trans h_d')
    obtain rfl := Option.some.inj (h.get.symm.trans h_get')
    exact ⟨net, s₁, h_ok⟩
  · rintro ⟨net, s₁, h_ok⟩
    exact ⟨_, Call.run_ok.mpr (approve_ok.mpr ⟨h.running, d, h.stored, m, h.get, h.submitted,
      h.authorized, net, s₁, h_ok, rfl⟩)⟩

/-- What it transfers when it returns. -/
theorem ApprovalDue.transfers {c : Call Address} {i : Nat} {d : EscrowData Address} {m : Milestone}
    (h : ApprovalDue s c i d m) (h_run : c.run s = .ok s') :
    s'.transfers = s.transfers ++ payouts H s.storage.config d.token d.freelancer m.amount := by
  obtain ⟨t, auth, op⟩ := c
  obtain rfl : op = .approve i := h.op
  obtain ⟨-, d', h_d', m', h_get', -, -, net, s₁, h_ok, rfl⟩ :=
    approve_ok.mp (Call.run_ok.mp h_run)
  obtain rfl := Option.some.inj (h.stored.symm.trans h_d')
  obtain rfl := Option.some.inj (h.get.symm.trans h_get')
  have h_pay := (payFreelancer_payment h_ok).of_atTime.transfers
  rw [← h_pay]
  exact State.transfers_push_event s₁ _

/-- **The fee lets an approval through exactly when it fits.**  In every reachable running state
    whose balance covers a submitted milestone, the payer's approval returns, with the amount split
    into a fee and a net payment that are both between zero and the amount, exactly when the fee
    product is in range and its 10000th part is at most the amount. -/
theorem approval_splits_iff (h_live : H.Live) (h_reach : Reachable s) {c : Call Address} {i : Nat}
    {d : EscrowData Address} {m : Milestone} (h_due : ApprovalDue s c i d m)
    (h_funds : m.amount ≤ s.funds d.token) :
    (∃ s', c.run s = .ok s' ∧ ∃ fee net : Int, fee + net = m.amount ∧
        (0 ≤ fee ∧ fee ≤ m.amount) ∧ (0 ≤ net ∧ net ≤ m.amount) ∧
        s'.transfers = s.transfers ++ (feeTransfers H s.storage.config d.token fee ++
          [⟨d.token, H.currentContract, d.freelancer, net⟩])) ↔
      FeeFits s.storage.config m.amount := by
  have h_sound := (h_reach.wellFormed h_due.stored).sound
  have h_pos := h_sound.positive m (List.mem_of_getElem? h_due.get)
  rw [← h_due.returns_iff h_live h_sound h_funds]
  constructor
  · rintro ⟨s', h_run, -⟩
    exact ⟨s', h_run⟩
  · rintro ⟨s', h_run⟩
    have h_fits := (h_due.returns_iff h_live h_sound h_funds).mp ⟨s', h_run⟩
    have h_nonneg := feeOf_nonneg s.storage.config h_pos.le
    have h_le := h_fits.fee_le h_pos.le
    refine ⟨s', h_run, feeOf s.storage.config m.amount, m.amount - feeOf s.storage.config m.amount,
      by omega, ⟨h_nonneg, h_le⟩, ⟨by omega, by omega⟩, ?_⟩
    rw [h_due.transfers h_run, payouts_eq]

namespace Sample

/-- A config of the given rate, one milestone of `x`, submitted. -/
def submittedUnder (feeBps : UInt32) (x : Int) : State host :=
  play [call 1 (.init 4 feeBps 3), call 1 (.create (deal (pending [x]) 0 0)),
    call 2 (.submitWork 0)] (start x 0)

/-- The record of `submittedUnder`. -/
def submittedDeal (x : Int) : EscrowData Nat :=
  ((deal (pending [x]) 0 0).stored 1).withSubmitted 0 ⟨"", x, .pending⟩

end Sample

theorem approval_splits_iff_quarter :
    let s := Sample.submittedUnder 2500 100
    (∃ s', (Sample.call 3 (.approve 0)).run s = .ok s' ∧ ∃ fee net : Int, fee + net = 100 ∧
        (0 ≤ fee ∧ fee ≤ 100) ∧ (0 ≤ net ∧ net ≤ 100) ∧
        s'.transfers = s.transfers ++
          (feeTransfers Sample.host (some ⟨4, false, 2500, 3⟩) 9 fee ++ [⟨9, 0, 2, net⟩])) ↔
      FeeFits (some (⟨4, false, 2500, 3⟩ : ProtocolConfig Nat)) 100 :=
  approval_splits_iff Sep41.ledger_live ⟨_, _, Sample.start_initial 100 0, run_play (by decide)⟩
    (d := Sample.submittedDeal 100) (m := ⟨"", 100, .submitted⟩)
    ⟨rfl, by decide, by decide, by decide, rfl, rfl⟩ (by decide)

/-- A reachable state in which the payer's approval of submitted work that the contract holds the
    amount of does not return. -/
def ApprovalBlocked (s : State H) : Prop :=
  Reachable s ∧ ∃ c i d m, ApprovalDue s c i d m ∧ d.status = .active ∧ d.yieldProtocol = none ∧
    m.amount ≤ s.funds d.token ∧ c.returns s = false

/-- A rate of 200 % blocks an approval, and so does a rate of 2.5 % on a large amount. -/
theorem approval_blocked_by_fee :
    ApprovalBlocked (Sample.submittedUnder 20000 100) ∧
      ApprovalBlocked (Sample.submittedUnder 250 (2 ^ 126)) := by
  constructor
  · -- the fee of 200 would leave -100 for the freelancer
    exact ⟨⟨_, _, Sample.start_initial 100 0, run_play (by decide)⟩, Sample.call 3 (.approve 0), 0,
      Sample.submittedDeal 100, ⟨"", 100, .submitted⟩,
      ⟨rfl, by decide, by decide, by decide, rfl, rfl⟩, rfl, rfl, by decide, by decide⟩
  · -- the product overflows before it is divided
    exact ⟨⟨_, _, Sample.start_initial (2 ^ 126) 0, run_play (by decide)⟩,
      Sample.call 3 (.approve 0), 0, Sample.submittedDeal (2 ^ 126), ⟨"", 2 ^ 126, .submitted⟩,
      ⟨rfl, by decide, by decide, by decide, rfl, rfl⟩, rfl, rfl, by decide, by decide⟩

end StarEscrow.Escrow
