/-
  StarEscrow.Escrow.Splitting

  What splitting a job into milestones costs.

  Every approval rounds its own fee down, so the fees depend on how the total
  is divided.  The approvals may come in any order and the freelancer may
  change between them.  But each milestone is approved once, at a rate that no
  step changes once it is stored, so the fees of a run are the shares of the
  amounts and the bounds of `Lib.Rounding` apply.
-/

import StarEscrow.Escrow.Authority
import StarEscrow.Escrow.Fee
import StarEscrow.Escrow.History
import StarEscrow.Lib.Rounding

namespace StarEscrow.Escrow

/-! ## Fees are shares -/

section Shares

variable {Address : Type} (config : ProtocolConfig Address) {amounts : List Int}

theorem map_feeOf (h : ∀ x ∈ amounts, 0 ≤ x) :
    amounts.map (feeOf (some config)) =
      amounts.map fun x => x * (config.feeBps.toNat : Int) / 10000 := by
  apply List.map_congr_left
  intro x h_x
  have h_product : 0 ≤ x * config.feeBps.toNat :=
    Int.mul_nonneg (h x h_x) (Int.natCast_nonneg _)
  rw [feeOf, Int.tdiv_eq_ediv_of_nonneg h_product]

theorem sum_feeOf_le (h : ∀ x ∈ amounts, 0 ≤ x) :
    (amounts.map (feeOf (some config))).sum ≤ amounts.sum * config.feeBps.toNat / 10000 := by
  rw [map_feeOf config h]
  exact Rounding.sum_share_le (by omega) _

theorem le_sum_feeOf (h : ∀ x ∈ amounts, 0 ≤ x) (h_ne : amounts ≠ []) :
    amounts.sum * config.feeBps.toNat / 10000 ≤
      (amounts.map (feeOf (some config))).sum + (amounts.length - 1) := by
  rw [map_feeOf config h]
  exact Rounding.share_sum_le (by omega) _ h_ne

end Shares

/-! ## One approval -/

variable {Address : Type} [DecidableEq Address] {H : Host Address}

/-- The transfers the step made. -/
def newTransfers (e : Entry H) : List (Transfer Address) :=
  e.post.transfers.drop e.pre.transfers.length

/-- What the step paid before its last transfer, if it was an approval that returned. -/
def feePaid (e : Entry H) : Int :=
  if e.label.approves then ((newTransfers e).dropLast.map (·.amount)).sum else 0

/-- What the last transfer of the step paid, if it was an approval that returned. -/
def netPaid (e : Entry H) : Int :=
  if e.label.approves then ((newTransfers e).getLast?.map (·.amount)).getD 0 else 0

theorem Paid.newTransfers_eq {e : Entry H} {token f : Address} {gross : Int}
    (h : Paid e.pre e.post token f gross) :
    newTransfers e = payouts H e.pre.storage.config token f gross := by
  rw [newTransfers, h.transfers, List.drop_left]

theorem sum_feeTransfers (config : Option (ProtocolConfig Address)) (token : Address) {x : Int}
    (h : 0 ≤ x) : ((feeTransfers H config token (feeOf config x)).map (·.amount)).sum =
      feeOf config x := by
  have h_nonneg := feeOf_nonneg config h
  cases config with
  | none => rfl
  | some c =>
      -- a fee of zero is not transferred
      rw [feeTransfers]
      split
      · simp
      · simp only [List.map_nil, List.sum_nil]
        omega

section Split

variable {e : Entry H} {config : Option (ProtocolConfig Address)} {token f : Address} {gross : Int}

theorem feePaid_eq (h_approves : e.label.approves = true) (h_gross : 0 ≤ gross)
    (h : newTransfers e = payouts H config token f gross) : feePaid e = feeOf config gross := by
  rw [feePaid, if_pos h_approves, h, payouts_eq, List.dropLast_concat, sum_feeTransfers _ _ h_gross]

theorem netPaid_eq (h_approves : e.label.approves = true)
    (h : newTransfers e = payouts H config token f gross) :
    netPaid e = gross - feeOf config gross := by
  rw [netPaid, if_pos h_approves, h, payouts_eq, List.getLast?_concat]
  rfl

end Split

/-! ## Whole runs -/

variable {s s' : State H} {tr : List (Entry H)} {d d' : EscrowData Address}
  {config : ProtocolConfig Address}

/-- Every payment after a config is stored follows its fee terms. -/
theorem Run.newTransfers_eq (h : Run s tr s') (h_config : s.storage.config = some config) :
    ∀ e ∈ tr, ∀ token f gross, Paid e.pre e.post token f gross →
      newTransfers e = payouts H (some config) token f gross := by
  intro e h_e token f gross h_paid
  have h_some : s.storage.config.isSome := by
    rw [h_config]
    rfl
  have h_terms := (h.feeTerms h_some).1 e h_e
  rw [h_paid.newTransfers_eq, payouts_of_feeTerms h_terms, h_config]

/-- The fees of a run are the fees on the amounts it approved. -/
theorem Run.feePaid_sum (h : Run s tr s') (h_stored : s.storage.escrow = some d)
    (h_stored' : s'.storage.escrow = some d') (h_sound : Sound d)
    (h_config : s.storage.config = some config) :
    approvedSum (feeOf (some config)) d'.milestones =
      approvedSum (feeOf (some config)) d.milestones + (tr.map feePaid).sum := by
  refine h.approvedSum_eq h_stored h_stored' h_sound _ _ ?_ ?_
  · intro e _ h_not
    rw [feePaid, h_not, if_neg Bool.false_ne_true]
  · intro e h_e f gross h_approves h_gross h_paid
    exact feePaid_eq h_approves h_gross (h.newTransfers_eq h_config e h_e _ _ _ h_paid)

/-- Fees and net payments of a run add up to the amounts it approved. -/
theorem Run.netPaid_sum (h : Run s tr s') (h_stored : s.storage.escrow = some d)
    (h_stored' : s'.storage.escrow = some d') (h_sound : Sound d) :
    approvedTotal d'.milestones =
      approvedTotal d.milestones + ((tr.map feePaid).sum + (tr.map netPaid).sum) := by
  rw [← List.sum_map_add, ← approvedSum_id, ← approvedSum_id]
  refine h.approvedSum_eq h_stored h_stored' h_sound _ _ ?_ ?_
  · intro e _ h_not
    rw [feePaid, netPaid, h_not, if_neg Bool.false_ne_true, if_neg Bool.false_ne_true,
      Int.add_zero]
  · intro e _ f gross h_approves h_gross h_paid
    rw [feePaid_eq h_approves h_gross h_paid.newTransfers_eq,
      netPaid_eq h_approves h_paid.newTransfers_eq]
    omega

/-- Without an approval, nothing more is approved. -/
theorem Run.approvedSum_of_none (h : Run s tr s') (h_stored : s.storage.escrow = some d)
    (h_none : ∀ e ∈ tr, e.label.approves = false) :
    ∃ d', s'.storage.escrow = some d' ∧ Descends d d' ∧
      ∀ w, approvedSum w d'.milestones = approvedSum w d.milestones := by
  refine h.deal (I := fun _ d' => Descends d d' ∧
    ∀ w, approvedSum w d'.milestones = approvedSum w d.milestones) h_none h_stored
    ⟨.refl d, fun _ => rfl⟩ ?_
  intro e d₁ d₂ h_not _ _ h_move ⟨h_desc, h_sum⟩
  refine ⟨h_desc.trans h_move.descends, fun w => ?_⟩
  rcases h_move.approval with ⟨-, h_same⟩ | ⟨m, -, h_approves, -⟩
  · rw [h_same, h_sum]
  · rw [h_not] at h_approves
    cases h_approves

/-- Every approval of a run pays its fee to the collector and the rest to the freelancer. -/
theorem Run.approval_transfers (h : Run s tr s') (h_stored : s.storage.escrow = some d)
    (h_sound : Sound d) (h_config : s.storage.config = some config) :
    ∀ e ∈ tr, e.label.approves = true → ∃ d₁, e.pre.storage.escrow = some d₁ ∧
      newTransfers e = feeTransfers H (some config) d.token (feePaid e) ++
        [⟨d.token, H.currentContract, d₁.freelancer, netPaid e⟩] := by
  intro e h_e h_approves
  obtain ⟨d₁, d₂, h_d₁, -, h_desc, h_move⟩ := h.moves h_stored e h_e
  rcases h_move.approval with ⟨h_not, -⟩ | ⟨m, h_mem, -, h_paid, -⟩
  · rw [h_not] at h_approves
    cases h_approves
  · have h_pos := (h_desc.sound h_sound).positive m h_mem
    have h_new := h.newTransfers_eq h_config e h_e _ _ _ h_paid
    refine ⟨d₁, h_d₁, ?_⟩
    rw [feePaid_eq h_approves h_pos.le h_new, netPaid_eq h_approves h_new, h_new, payouts_eq,
      h_desc.token]

/-- **Splitting costs the protocol less than one unit for each milestone.**  Once a config is
    stored, over any run that approves all milestones of a deal created with `Pending` ones, the
    fees are at most the fee on the total and fall short of it by at most the number of milestones
    less one, and the net payments, each to the freelancer of the time, are the total less the
    fees. -/
theorem splitting_cost {s₁ s₂ s₃ s₄ : State H} {c : Call Address} {a : CreateArgs Address}
    {tr₁ tr₂ : List (Entry H)} (h_created : Created s₁ c a s₂)
    (h_pending : ∀ m ∈ a.milestones, m.status = .pending) (h_before : Run s₂ tr₁ s₃)
    (h_none : ∀ e ∈ tr₁, e.label.approves = false) (h_config : s₃.storage.config = some config)
    (h_after : Run s₃ tr₂ s₄) (h_stored : s₄.storage.escrow = some d)
    (h_all : AllApproved d.milestones) :
    let total := milestoneTotal a.milestones
    let fees := (tr₂.map feePaid).sum
    fees ≤ total * config.feeBps.toNat / 10000 ∧
    total * config.feeBps.toNat / 10000 - (a.milestones.length - 1) ≤ fees ∧
    (tr₂.map netPaid).sum = total - fees ∧
    ∀ e ∈ tr₂, e.label.approves = true → ∃ d₁, e.pre.storage.escrow = some d₁ ∧
      newTransfers e = feeTransfers H (some config) a.token (feePaid e) ++
        [⟨a.token, H.currentContract, d₁.freelancer, netPaid e⟩] := by
  -- nothing is approved yet when the first approval comes
  obtain ⟨d₃, h_d₃, h_desc, h_same⟩ := h_before.approvedSum_of_none h_created.stored h_none
  have h_zero (w : Int → Int) : approvedSum w d₃.milestones = 0 := by
    rw [h_same]
    apply approvedSum_of_none
    intro m h_mem h_approved
    rw [h_pending m h_mem] at h_approved
    cases h_approved
  have h_sound := h_desc.sound h_created.sound
  -- at the end all amounts are, and they are still those of `create`
  obtain ⟨d₄, h_d₄, h_desc'⟩ := h_after.descends h_d₃
  obtain rfl : d₄ = d := Option.some.inj (h_d₄.symm.trans h_stored)
  have h_amounts : d₄.milestones.map (·.amount) = a.milestones.map (·.amount) :=
    h_desc'.amounts.trans h_desc.amounts
  have h_fees := h_after.feePaid_sum h_d₃ h_stored h_sound h_config
  have h_nets := h_after.netPaid_sum h_d₃ h_stored h_sound
  rw [h_zero, approvedSum_of_allApproved _ h_all, h_amounts] at h_fees
  rw [← approvedSum_id, ← approvedSum_id, h_zero, approvedSum_of_allApproved _ h_all, h_amounts,
    List.map_id'] at h_nets
  -- so the fees are those on the amounts of `create`
  have h_ne : a.milestones.map (·.amount) ≠ [] := by
    intro h_nil
    exact h_created.accepted.nonempty (List.map_eq_nil_iff.mp h_nil)
  have h_nonneg : ∀ x ∈ a.milestones.map (·.amount), 0 ≤ x := h_created.sound.amounts_nonneg
  have h_le := sum_feeOf_le config h_nonneg
  have h_ge := le_sum_feeOf config h_nonneg h_ne
  rw [List.length_map] at h_ge
  rw [h_fees, Int.zero_add] at h_le h_ge
  refine ⟨h_le, ?_, ?_, ?_⟩
  · show (a.milestones.map (·.amount)).sum * _ / _ - _ ≤ _
    omega
  · show _ = (a.milestones.map (·.amount)).sum - _
    omega
  · have h_transfers := h_after.approval_transfers h_d₃ h_sound h_config
    rw [h_desc.token] at h_transfers
    exact h_transfers

namespace Sample

def rate : ProtocolConfig Nat := ⟨4, false, 250, 3⟩

def threeParts : CreateArgs Nat := deal (pending [399, 399, 2]) 0 0

/-- The last milestone of `threeParts` is submitted, and a rate of 2.5 % stored after `create`. -/
def rated : State host :=
  play [call 2 (.init 4 250 3), call 3 (.submitWork 2)] (opened 800 0 threeParts)

/-- The milestones are approved in another order, for two freelancers. -/
def allApproved : List (Call Nat) :=
  [call 4 (.approve 2), call 5 (.submitWork 1), call 6 (.approve 1), call 7 (.transferFreelancer 5),
    call 8 (.submitWork 0), call 9 (.approve 0)]

end Sample

theorem splitting_cost_threeParts :
    let total := milestoneTotal Sample.threeParts.milestones
    let tr := playTrace Sample.allApproved Sample.rated
    let fees := (tr.map feePaid).sum
    fees ≤ total * Sample.rate.feeBps.toNat / 10000 ∧
    total * Sample.rate.feeBps.toNat / 10000 - (Sample.threeParts.milestones.length - 1) ≤ fees ∧
    (tr.map netPaid).sum = total - fees ∧
    ∀ e ∈ tr, e.label.approves = true → ∃ d₁, e.pre.storage.escrow = some d₁ ∧
      newTransfers e = feeTransfers Sample.host (some Sample.rate) 9 (feePaid e) ++
        [⟨9, 0, d₁.freelancer, netPaid e⟩] :=
  splitting_cost (Sample.opened_created (by decide)) (by decide) (run_play (by decide))
    (by decide) rfl (run_play (by decide)) (Option.some_get (by decide)).symm (by decide)

/-- The loss is reached: the fee on 800 is 20, the three fees add up to 18. -/
example : ((playTrace Sample.allApproved Sample.rated).map feePaid).sum = 18 := by decide

end StarEscrow.Escrow
