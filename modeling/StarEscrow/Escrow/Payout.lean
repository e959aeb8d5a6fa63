/-
  StarEscrow.Escrow.Payout

  What leaves the contract against what `create` locked.

  `approve`, `release_recurring`, `cancel` and `expire` draw on one pot, each
  with its own bookkeeping, and none of them looks at what the others took.
  The pot is respected as long as

    * milestones are approved while the escrow is `Active` and nothing was released,
    * a release is the first payment,
    * a refund comes before any release.

  Outside these conditions the contract pays with whatever else it holds.
-/

import StarEscrow.Escrow.Creation

namespace StarEscrow.Escrow

variable {Address : Type} [DecidableEq Address] {H : Host Address}

/-- If the step is a call that passes the checks of its operation, then it draws on a pot that
    holds what it takes; `base` is what had been paid out when the escrow was created. -/
def DrawsWithin (base : Int) (e : Entry H) : Prop :=
  ∀ c ∈ e.label.call?, ∀ d ∈ e.pre.storage.escrow, c.Admitted e.pre d →
    match c.op with
    | .approve _ => d.status = .active ∧ d.releasesMade = 0
    | .releaseRecurring => e.pre.paidOut d.token = base
    | .cancel | .expire => d.releasesMade = 0
    | _ => True

instance (base : Int) (e : Entry H) : Decidable (DrawsWithin base e) := by
  unfold DrawsWithin
  have h (c : Call Address) (d : EscrowData Address) : Decidable (match c.op with
    | .approve _ => d.status = .active ∧ d.releasesMade = 0
    | .releaseRecurring => e.pre.paidOut d.token = base
    | .cancel | .expire => d.releasesMade = 0
    | _ => True) := by
    split <;> infer_instance
  infer_instance

/-- What an admitted step that draws within the pot does to it. -/
theorem Move.paidOut_le {d₂ d d' : EscrowData Address} {s s' : State H} {l : Label Address}
    {base : Int} (h : Move s l s' d d') (h_base : 0 ≤ approvedTotal d₂.milestones)
    (h_within : DrawsWithin base ⟨s, l, s'⟩) (h_stored : s.storage.escrow = some d)
    (h_booked : Booked d₂ base s d) (h_le : s.paidOut d₂.token - base ≤ d₂.totalAmount) :
    s'.paidOut d₂.token - base ≤ d₂.totalAmount := by
  have h_sound := h_booked.wellFormed.sound
  have h_after := (h.wellFormed h_booked.wellFormed).sound.approved_le
  have h_token := h_booked.descends.token
  have h_total := h_booked.descends.totalAmount
  -- with no release made, an `Active` escrow has paid the approved milestones and nothing else
  have h_first (h_active : d.status = .active) (h_zero : d.releasesMade = 0) :
      s.paidOut d₂.token - base =
        approvedTotal d.milestones - approvedTotal d₂.milestones := by
    have h_paid := h_booked.paid h_active
    rw [h_zero, UInt32.toNat_zero, Int.natCast_zero, Int.mul_zero, Int.add_zero] at h_paid
    exact h_paid
  cases h with
  | quiet _ h_unpaid =>
      rw [h_unpaid.paidOut]
      exact h_le
  | submit _ _ _ _ _ _ h_unpaid =>
      rw [h_unpaid.paidOut]
      exact h_le
  | @approve c i m h_label h_op h_get h_submitted h_admitted _ h_paid =>
      subst h_label
      have h_cond := h_within c rfl d h_stored h_admitted
      rw [h_op] at h_cond
      obtain ⟨h_active, h_zero⟩ := h_cond
      have h_eq := h_first h_active h_zero
      have h_pos := h_sound.positive m (List.mem_of_getElem? h_get)
      have h_out := h_paid.paidOut h_pos.le
      rw [h_token] at h_out
      rw [approvedTotal_withApproved h_get h_submitted, withApproved_totalAmount] at h_after
      omega
  | @release c k h_label h_op _ _ _ _ h_admitted h_paid =>
      subst h_label
      have h_cond := h_within c rfl d h_stored h_admitted
      rw [h_op] at h_cond
      have h_zero : s.paidOut d.token = base := h_cond
      have h_out : s'.paidOut d.token = s.paidOut d.token + d.totalAmount :=
        h_paid.paidOut h_sound.total_pos.le
      rw [h_token] at h_out h_zero
      omega
  | @refund c st h_label h_op h_active h_admitted _ h_refunded =>
      subst h_label
      have h_cond := h_within c rfl d h_stored h_admitted
      have h_zero : d.releasesMade = 0 := by
        rcases h_op with ⟨h_op, -⟩ | ⟨h_op, -⟩ <;> rw [h_op] at h_cond <;> exact h_cond
      have h_eq := h_first h_active h_zero
      have h_out := h_refunded.paidOut
      rw [h_token, refundOf_of_zero h_zero] at h_out
      omega

/-- **The escrow pays out at most what it locked**, whatever else the contract holds, in every run
    whose calls draw within the pot. -/
theorem paidOut_le_locked {s₁ s₂ s₃ : State H} {c : Call Address} {a : CreateArgs Address}
    {tr : List (Entry H)} (h_created : Created s₁ c a s₂) (h_run : Run s₂ tr s₃)
    (h_within : ∀ e ∈ tr, DrawsWithin (s₂.paidOut a.token) e) :
    s₃.paidOut a.token - s₂.paidOut a.token ≤ milestoneTotal a.milestones := by
  have h_base := h_created.sound.approved_nonneg
  have h_init : s₂.paidOut a.token - s₂.paidOut a.token ≤ milestoneTotal a.milestones := by
    have h_pos : 0 < milestoneTotal a.milestones := h_created.sound.total_pos
    omega
  obtain ⟨d₃, -, -, h_le⟩ := h_run.deal
    (I := fun s d => Booked (a.stored c.timestamp) (s₂.paidOut a.token) s d ∧
      s.paidOut a.token - s₂.paidOut a.token ≤ milestoneTotal a.milestones) h_within
    h_created.stored ⟨h_created.booked, h_init⟩
    (fun h_ok h_pre _ h_move h_inv => ⟨h_move.booked h_inv.1,
      h_move.paidOut_le h_base h_ok h_pre h_inv.1 h_inv.2⟩)
  exact h_le

theorem paidOut_le_locked_partlyPaid :
    (play Sample.partlyPaid (Sample.opened 100 7 Sample.twoParts)).paidOut 9 -
      (Sample.opened 100 7 Sample.twoParts).paidOut 9 ≤ milestoneTotal Sample.twoParts.milestones :=
  paidOut_le_locked (Sample.opened_created (by decide)) (run_play (by decide)) (by decide)

/-- A schedule of two releases over 100 tokens pays 200 when the contract holds 100 more. -/
theorem bothReleases_exceed_lock :
    ∃ (s₁ s₂ s₃ : State Sample.host) (c : Call Nat) (a : CreateArgs Nat)
      (tr : List (Entry Sample.host)), Reachable s₁ ∧ Created s₁ c a s₂ ∧
      a.yieldProtocol = none ∧ Run s₂ tr s₃ ∧ milestoneTotal a.milestones = 100 ∧
      s₃.paidOut a.token - s₂.paidOut a.token = 200 :=
  ⟨_, Sample.opened 100 100 Sample.twice, _, _, _, _,
    Sample.start_reachable 100 100, Sample.opened_created (by decide), rfl,
    run_play (l := Sample.bothReleases) (by decide), by decide, by decide⟩

end StarEscrow.Escrow
