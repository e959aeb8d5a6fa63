/-
  StarEscrow.Escrow.Refund

  When `cancel` and `expire` return, and what they give back.

  Both transfer the amount `refundOf`, so they return exactly when their checks
  pass, the amount is computed without overflow and the contract's balance
  covers it.  The amount is what is left only while no release was made: the
  source adds the releases to the refund instead of subtracting them, so that
  after `k` releases it asks for `2 * k` totals too much.
-/

import StarEscrow.Escrow.Lifecycle

namespace StarEscrow.Escrow

variable {Address : Type} [DecidableEq Address] {H : Host Address}

/-- A refund that returns transfers `refundOf` to the payer. -/
theorem Call.refunded {c : Call Address} {s s' : State H} {d : EscrowData Address}
    (h_run : c.run s = .ok s') (h_op : c.op.isRefund = true) (h_stored : s.storage.escrow = some d) :
    Refunded s s' d := by
  obtain ⟨d', -, h_move⟩ := (Call.change h_run).move h_stored
  cases h_move with
  | quiet h_quiet =>
      have h_books := Op.onBooks_of_isRefund h_op
      rw [h_quiet c rfl] at h_books
      cases h_books
  | submit h_label h_op' | approve h_label h_op' | release h_label h_op' =>
      cases h_label
      rw [h_op'] at h_op
      cases h_op
  | refund _ _ _ _ _ h_refunded => exact h_refunded

/-- A refund whose checks pass returns once the amount is computed and can be transferred. -/
theorem Call.refund_returns {c : Call Address} {s : State H} {d : EscrowData Address} {x : Int}
    {w : H.World} (h_op : c.op.isRefund = true) (h_stored : s.storage.escrow = some d)
    (h_admitted : c.Admitted s d) (h_x : remaining d = some x)
    (h_w : H.transfer s.world d.token H.currentContract d.payer x = some w) :
    ∃ s', c.run s = .ok s' := by
  obtain ⟨t, auth, op⟩ := c
  obtain ⟨h_run, h_checks⟩ := h_admitted
  cases op with
  | cancel =>
      obtain ⟨h_active, h_auth⟩ := h_checks
      exact ⟨_, Call.run_ok.mpr (cancel_ok.mpr
        ⟨h_run, d, h_stored, h_active, h_auth, x, h_x, w, h_w, rfl⟩)⟩
  | expire =>
      obtain ⟨h_active, h_auth, dl, h_dl, h_late⟩ := h_checks
      exact ⟨_, Call.run_ok.mpr (expire_ok.mpr
        ⟨h_run, d, h_stored, h_active, dl, h_dl, h_late, h_auth, x, h_x, w, h_w, rfl⟩)⟩
  | _ => cases h_op

/-- While no release was made, a refund whose checks pass returns exactly when the contract holds
    what is not approved. -/
theorem Call.refund_returns_iff (h_live : H.Live) {c : Call Address} {s : State H}
    {d : EscrowData Address} (h_op : c.op.isRefund = true) (h_stored : s.storage.escrow = some d)
    (h_admitted : c.Admitted s d) (h_sound : Sound d) (h_zero : d.releasesMade = 0) :
    (∃ s', c.run s = .ok s') ↔
      d.totalAmount - approvedTotal d.milestones ≤ s.funds d.token := by
  constructor
  · rintro ⟨s', h_run⟩
    have h_moved := (Call.refunded h_run h_op h_stored).moved
    rw [refundOf_of_zero h_zero] at h_moved
    exact (H.transfer_covered h_moved).2
  · intro h_funds
    have h_le := h_sound.approved_le
    have h_x := h_sound.remaining_returns (.inr h_zero)
    obtain ⟨w, h_w⟩ := h_live s.world d.token H.currentContract d.payer
      (d.totalAmount - approvedTotal d.milestones) (by omega) h_funds
    exact Call.refund_returns h_op h_stored h_admitted h_x h_w

/-- With `k` releases made and `base` approved from the start, the refund is what is left only if
    both are zero. -/
theorem refund_eq_left_iff {total approved base : Int} {k : Nat} (h_total : 0 < total)
    (h_base : 0 ≤ base) (h_le : base ≤ total) :
    total - approved + total * k = total - (approved - base + total * k) ↔ k = 0 ∧ base = 0 := by
  constructor
  · intro h_eq
    -- `base` is at most one total, so it cannot be two totals for each release
    have h_twice : base = 2 * (total * k) := by omega
    by_cases h_k : k = 0
    · subst h_k
      exact ⟨rfl, by simpa using h_twice⟩
    · have h_one : (1 : Int) ≤ k := by omega
      have h_prod : total * 1 ≤ total * k := Int.mul_le_mul_of_nonneg_left h_one h_total.le
      omega
  · rintro ⟨rfl, rfl⟩
    simp

/-- **The refund is exactly what is left**, for every `cancel` and every `expire` whose own checks
    pass, exactly when the contract is running, no release was made and no milestone was created
    `Approved`.  What is left is the total less all payments since `create`. -/
theorem refund_exact_iff (h_live : H.Live) {s₁ s₂ s₃ : State H} {c : Call Address}
    {a : CreateArgs Address} {tr : List (Entry H)} {d : EscrowData Address}
    (h_created : Created s₁ c a s₂) (h_run : Run s₂ tr s₃) (h_stored : s₃.storage.escrow = some d)
    (h_active : d.status = .active)
    (h_held : d.totalAmount - (s₃.paidOut a.token - s₂.paidOut a.token) ≤ s₃.funds a.token) :
    (∀ c' : Call Address, s₃.time ≤ c'.timestamp → c'.auth d.payer = true →
        (c'.op = .cancel ∨ c'.op = .expire ∧ ∃ t ∈ d.deadline, t < c'.timestamp) →
        ∃ s₄, c'.run s₃ = .ok s₄ ∧ s₄.transfers = s₃.transfers ++
          [⟨a.token, H.currentContract, d.payer,
            d.totalAmount - (s₃.paidOut a.token - s₂.paidOut a.token)⟩]) ↔
      s₃.paused = false ∧ d.releasesMade = 0 ∧ ∀ m ∈ a.milestones, m.status ≠ .approved := by
  obtain ⟨d', h_d', h_booked⟩ := h_created.run_booked h_run
  obtain rfl : d = d' := Option.some.inj (h_stored.symm.trans h_d')
  have h_sound := h_booked.wellFormed.sound
  have h_token : d.token = a.token := h_booked.descends.token
  have h_total : d.totalAmount = milestoneTotal a.milestones := h_booked.descends.totalAmount
  have h_base : 0 ≤ approvedTotal a.milestones := h_created.sound.approved_nonneg
  have h_le : approvedTotal a.milestones ≤ milestoneTotal a.milestones :=
    h_created.sound.approved_le
  have h_paid : s₃.paidOut a.token - s₂.paidOut a.token =
      approvedTotal d.milestones - approvedTotal a.milestones +
        milestoneTotal a.milestones * d.releasesMade.toNat := h_booked.paid h_active
  -- whether the transferred amount is the one that is left
  have h_amount : refundOf d = d.totalAmount - (s₃.paidOut a.token - s₂.paidOut a.token) ↔
      d.releasesMade.toNat = 0 ∧ approvedTotal a.milestones = 0 := by
    rw [refundOf_eq h_booked.wellFormed.counter, h_paid, h_total]
    exact refund_eq_left_iff (h_total ▸ h_sound.total_pos) h_base h_le
  have h_zero : d.releasesMade = 0 ↔ d.releasesMade.toNat = 0 := by
    rw [← UInt32.toNat_inj, UInt32.toNat_zero]
  rw [h_zero, ← approvedTotal_eq_zero h_created.accepted.positive, ← h_amount]
  constructor
  · intro h_all
    -- the payer's `cancel`, right now
    obtain ⟨s₄, h_ret, h_transfers⟩ :=
      h_all ⟨s₃.time, fun _ => true, .cancel⟩ (UInt64.le_refl _) rfl (.inl rfl)
    obtain ⟨h_not, -⟩ := cancel_ok.mp (Call.run_ok.mp h_ret)
    have h_refunded := (Call.refunded h_ret rfl h_stored).transfers
    rw [h_transfers, List.append_cancel_left_eq, List.cons.injEq, Transfer.mk.injEq]
      at h_refunded
    exact ⟨h_not, h_refunded.1.2.2.2.symm⟩
  · rintro ⟨h_not, h_eq⟩ c' - h_auth h_op
    have h_refund : c'.op.isRefund = true := by
      rcases h_op with h_op | ⟨h_op, -⟩ <;> rw [h_op] <;> rfl
    have h_admitted : c'.Admitted s₃ d := Call.admitted_of_refund h_not h_active h_auth h_op
    have h_k := h_zero.mpr (h_amount.mp h_eq).1
    have h_covered : d.totalAmount - approvedTotal d.milestones ≤ s₃.funds d.token := by
      rw [← refundOf_of_zero h_k, h_eq, h_token]
      exact h_held
    obtain ⟨s₄, h_ret⟩ :=
      (Call.refund_returns_iff h_live h_refund h_stored h_admitted h_sound h_k).mpr h_covered
    refine ⟨s₄, h_ret, ?_⟩
    rw [(Call.refunded h_ret h_refund h_stored).transfers, h_eq, h_token]

namespace Sample

/-- Two milestones, and two releases of their total, every 10 seconds. -/
def twiceParts : CreateArgs Nat := deal (pending [60, 40]) 10 2

/-- The first milestone is delivered and paid. -/
def firstApproved : List (Call Nat) := [call 2 (.submitWork 0), call 3 (.approve 0)]

end Sample

theorem refund_exact_iff_firstApproved :
    let s₂ := Sample.opened 100 0 Sample.twiceParts
    let s := play Sample.firstApproved s₂
    let d := s.storage.escrow.get (by decide)
    (∀ c' : Call Nat, s.time ≤ c'.timestamp → c'.auth d.payer = true →
        (c'.op = .cancel ∨ c'.op = .expire ∧ ∃ t ∈ d.deadline, t < c'.timestamp) →
        ∃ s₄, c'.run s = .ok s₄ ∧ s₄.transfers = s.transfers ++
          [⟨9, 0, d.payer, d.totalAmount - (s.paidOut 9 - s₂.paidOut 9)⟩]) ↔
      s.paused = false ∧ d.releasesMade = 0 ∧
        ∀ m ∈ Sample.twiceParts.milestones, m.status ≠ .approved :=
  refund_exact_iff Sep41.ledger_live (Sample.opened_created (by decide)) (run_play (by decide))
    (Option.some_get _).symm (by decide) (by decide)

/-- After one release of the whole total nothing is left, and `cancel` refunds 200 more. -/
theorem cancel_after_release :
    ∃ (s₁ s₂ s₃ s₄ : State Sample.host) (c c' : Call Nat) (a : CreateArgs Nat)
      (tr : List (Entry Sample.host)) (d : EscrowData Nat), Reachable s₁ ∧ Created s₁ c a s₂ ∧
      0 < a.interval ∧ 0 < a.recurrenceCount ∧ a.yieldProtocol = none ∧ Run s₂ tr s₃ ∧
      s₃.storage.escrow = some d ∧ d.status = .active ∧ d.releasesMade = 1 ∧
      d.totalAmount - (s₃.paidOut a.token - s₂.paidOut a.token) = 0 ∧
      Step s₃ (.returned c') s₄ ∧ c'.op = .cancel ∧
      s₄.transfers = s₃.transfers ++ [⟨a.token, 0, d.payer, 200⟩] :=
  ⟨_, Sample.opened 100 200 Sample.twice, _, _, _, Sample.call 12 .cancel, _, _, _,
    Sample.start_reachable 100 200, Sample.opened_created (by decide), by decide, by decide, rfl,
    run_play (l := [Sample.call 11 .releaseRecurring]) (by decide), rfl, rfl, rfl, by decide,
    .returned (by decide) (Call.run_perform (by decide)), rfl, by decide⟩

end StarEscrow.Escrow
