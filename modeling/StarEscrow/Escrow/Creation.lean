/-
  StarEscrow.Escrow.Creation

  The one call that opens an escrow, and what holds of the record in every
  state that runs from empty storage reach.
-/

import StarEscrow.Escrow.Books

namespace StarEscrow.Escrow

variable {Address : Type} [DecidableEq Address] {H : Host Address}

/-- The call `c` created the escrow `a` between `s₁` and `s₂`. -/
structure Created (s₁ : State H) (c : Call Address) (a : CreateArgs Address) (s₂ : State H) :
    Prop where
  step : Step s₁ (.returned c) s₂
  op : c.op = .create a

namespace Created

variable {s₁ s₂ : State H} {c : Call Address} {a : CreateArgs Address}

theorem run_ok (h : Created s₁ c a s₂) : c.run s₁ = .ok s₂ := by
  cases h.step with
  | returned _ h_run => exact h_run

/-- Everything a successful `create` checked and did. -/
theorem effect (h : Created s₁ c a s₂) :
    a.Accepted ∧ s₁.paused = false ∧ s₁.storage.escrow = none ∧ ∃ w s,
      H.transfer s₁.world a.token a.payer H.currentContract (milestoneTotal a.milestones) =
        some w ∧
      (s.world = w ∧ a.yieldProtocol = none ∨ ∃ p, a.yieldProtocol = some p ∧
        H.deposit w p (milestoneTotal a.milestones) = some s.world) ∧
      s.storage.config = s₁.storage.config ∧ s.withdrawals = s₁.withdrawals ∧
      Stores s (a.stored c.timestamp) s₂ := by
  have h_op := h.op
  cases Call.change h.run_ok with
  | create h_op' h_run h_new h_accepted _ h_lock h_lend h_config _ h_withdrawals h_stores =>
      rw [h_op] at h_op'
      cases h_op'
      exact ⟨h_accepted, h_run, h_new, _, _, h_lock, h_lend, h_config, h_withdrawals, h_stores⟩
  | @pausing _ b h_op' =>
      rw [h_op] at h_op'
      cases b <;> cases h_op'
  | refund h_op' =>
      rw [h_op] at h_op'
      rcases h_op' with ⟨h_op', -⟩ | ⟨h_op', -⟩ <;> cases h_op'
  | init h_op' | submit h_op' | approve h_op' | release h_op' | transferFreelancer h_op'
  | transferPayer h_op' | extendDeadline h_op' =>
      rw [h_op] at h_op'
      cases h_op'

theorem accepted (h : Created s₁ c a s₂) : a.Accepted := h.effect.1

theorem sound (h : Created s₁ c a s₂) : Sound (a.stored c.timestamp) := h.accepted.sound _

theorem notPaused (h : Created s₁ c a s₂) : s₁.paused = false := h.effect.2.1

theorem stored (h : Created s₁ c a s₂) : s₂.storage.escrow = some (a.stored c.timestamp) := by
  obtain ⟨-, -, -, w, s, -, -, -, -, h_stores⟩ := h.effect
  exact h_stores.escrow

theorem config (h : Created s₁ c a s₂) : s₂.storage.config = s₁.storage.config := by
  obtain ⟨-, -, -, w, s, -, -, h_config, -, h_stores⟩ := h.effect
  rw [h_stores.config, h_config]

theorem withdrawals (h : Created s₁ c a s₂) : s₂.withdrawals = s₁.withdrawals := by
  obtain ⟨-, -, -, w, s, -, -, -, h_withdrawals, h_stores⟩ := h.effect
  rw [h_stores.events.withdrawals, h_withdrawals]

theorem time (h : Created s₁ c a s₂) : s₂.time = c.timestamp := Call.run_time h.run_ok

/-- Without a yield protocol, the contract holds the locked total on top of what it had. -/
theorem funds (h : Created s₁ c a s₂) (h_yield : a.yieldProtocol = none)
    (h_payer : a.payer ≠ H.currentContract) :
    s₂.funds a.token = s₁.funds a.token + milestoneTotal a.milestones := by
  obtain ⟨-, -, -, w, s, h_lock, h_lend, -, -, h_stores⟩ := h.effect
  have h_world : s.world = w := by
    rcases h_lend with ⟨h_world, -⟩ | ⟨p, h_p, -⟩
    · exact h_world
    · rw [h_yield] at h_p
      cases h_p
  rw [State.funds_congr h_stores.world]
  show H.balance s.world a.token H.currentContract = _
  rw [h_world]
  exact H.balance_dst h_lock h_payer.symm

end Created

theorem Created.of_returns {s : State H} {c : Call Address} {a : CreateArgs Address}
    (h_time : s.time ≤ c.timestamp) (h_returns : c.returns s = true) (h_op : c.op = .create a) :
    Created s c a (c.perform s) :=
  ⟨.returned h_time (Call.run_perform h_returns), h_op⟩

/-- The only way to a stored record is `create`. -/
theorem Step.created_of_none {s s' : State H} {l : Label Address} {d : EscrowData Address}
    (h : Step s l s') (h_new : s.storage.escrow = none) (h_stored : s'.storage.escrow = some d) :
    ∃ c a, Created s c a s' := by
  cases h with
  | aborted | outside =>
      have h_none : some d = none := h_stored.symm.trans h_new
      cases h_none
  | @returned _ c h_time h_run =>
      have h_same (h_deal : SameDeal s s') : False := by
        rw [h_deal.escrow, h_new] at h_stored
        cases h_stored
      -- every other operation on the deal loads the record first
      have h_other {d' : EscrowData Address} (h_d : s.storage.escrow = some d') : False := by
        rw [h_new] at h_d
        cases h_d
      cases Call.change h_run with
      | create h_op => exact ⟨c, _, .returned h_time h_run, h_op⟩
      | init _ _ _ _ h_deal | pausing _ _ _ _ h_deal => exact (h_same h_deal).elim
      | submit _ _ h_d | approve _ _ h_d | release _ _ h_d | refund _ _ h_d
      | transferFreelancer _ _ h_d | transferPayer _ _ h_d | extendDeadline _ _ h_d =>
          exact (h_other h_d).elim

/-! ## Records of reachable states -/

theorem Reachable.run {s s' : State H} {tr : List (Entry H)} (h : Reachable s) (h_run : Run s tr s') :
    Reachable s' := by
  obtain ⟨s₀, tr₀, h_init, h_run₀⟩ := h
  exact ⟨s₀, _, h_init, h_run₀.trans h_run⟩

/-- A step keeps the status or ends the escrow. -/
theorem Move.status {s s' : State H} {l : Label Address} {d d' : EscrowData Address}
    (h : Move s l s' d d') : d'.status = d.status ∨ d'.status.Terminal := by
  cases h with
  | quiet => exact .inl rfl
  | submit => exact .inl rfl
  | approve =>
      simp only [EscrowData.withApproved]
      split
      · exact .inr (.inl rfl)
      · exact .inl rfl
  | release =>
      simp only [EscrowData.withRelease]
      split
      · exact .inr (.inl rfl)
      · exact .inl rfl
  | refund _ h_op =>
      rcases h_op with ⟨-, rfl⟩ | ⟨-, rfl⟩
      · exact .inr (.inr (.inl rfl))
      · exact .inr (.inr (.inr rfl))

/-- What every stored record satisfies: the amounts are sound, the counter only runs in recurring
    mode, and `WorkSubmitted` is never used. -/
structure WellFormed (d : EscrowData Address) : Prop where
  sound : Sound d
  counter : d.recurrenceCount = 0 → d.releasesMade = 0
  status : d.status = .active ∨ d.status.Terminal

theorem Created.wellFormed {s₁ s₂ : State H} {c : Call Address} {a : CreateArgs Address}
    (h : Created s₁ c a s₂) : WellFormed (a.stored c.timestamp) :=
  ⟨h.sound, fun _ => rfl, .inl rfl⟩

theorem Move.wellFormed {s s' : State H} {l : Label Address} {d d' : EscrowData Address}
    (h : Move s l s' d d') (h_d : WellFormed d) : WellFormed d' where
  sound := h.descends.sound h_d.sound
  counter := by
    cases h with
    | quiet => exact h_d.counter
    | submit => exact h_d.counter
    | approve => exact h_d.counter
    | release _ _ h_count => exact fun h_zero => absurd h_zero h_count
    | refund => exact h_d.counter
  status := by
    rcases h.status with h_same | h_end
    · rw [h_same]
      exact h_d.status
    · exact .inr h_end

/-- Along a run from a well-formed record, later records are well-formed and descend from it. -/
theorem Run.wellFormed {s s' : State H} {tr : List (Entry H)} {d : EscrowData Address}
    (h : Run s tr s') (h_stored : s.storage.escrow = some d) (h_d : WellFormed d) :
    ∃ d', s'.storage.escrow = some d' ∧ WellFormed d' ∧ Descends d d' := by
  refine h.deal (O := fun _ => True) (I := fun _ d' => WellFormed d' ∧ Descends d d')
    (fun _ _ => trivial) h_stored ⟨h_d, .refl d⟩ ?_
  intro e d₁ d₂ _ _ _ h_move ⟨h_d₁, h_desc⟩
  exact ⟨h_move.wellFormed h_d₁, h_desc.trans h_move.descends⟩

/-- **Record rule.**  What `create` establishes and every step keeps holds of the record in every
    reachable state. -/
theorem Reachable.record {I : EscrowData Address → Prop} {s : State H} (h : Reachable s)
    {d : EscrowData Address} (h_stored : s.storage.escrow = some d)
    (h_create : ∀ {s₁ s₂ : State H} {c : Call Address} {a : CreateArgs Address},
      Created s₁ c a s₂ → I (a.stored c.timestamp))
    (h_move : ∀ {s₁ s₂ : State H} {l : Label Address} {d d' : EscrowData Address},
      Move s₁ l s₂ d d' → I d → I d') : I d := by
  obtain ⟨s₀, tr, h_init, h_run⟩ := h
  have h_all := h_run.invariant (O := fun _ => True)
    (I := fun s => ∀ d, s.storage.escrow = some d → I d) (fun _ _ => trivial) ?_ ?_
  · exact h_all d h_stored
  · intro e _ h_step h_pre d' h_d'
    -- the record was created in this step, or it comes from an earlier one
    cases h_old : e.pre.storage.escrow with
    | none =>
        obtain ⟨c, a, h_created⟩ := h_step.created_of_none h_old h_d'
        rw [h_created.stored, Option.some.injEq] at h_d'
        exact h_d' ▸ h_create h_created
    | some d₁ =>
        obtain ⟨d₂, h_d₂, h_d₁⟩ := h_step.move h_old
        rw [h_d₂, Option.some.injEq] at h_d'
        exact h_d' ▸ h_move h_d₁ (h_pre d₁ h_old)
  · intro d' h_d'
    rw [h_init.2.1] at h_d'
    cases h_d'

theorem Reachable.wellFormed {s : State H} (h : Reachable s) {d : EscrowData Address}
    (h_stored : s.storage.escrow = some d) : WellFormed d :=
  h.record h_stored Created.wellFormed Move.wellFormed

/-! ## The books while the escrow is `Active` -/

/-- Since `d₂` was created, with `base` paid out before, the contract has paid the approved
    milestones and one total for each release, as long as the escrow is still `Active`. -/
structure Booked (d₂ : EscrowData Address) (base : Int) (s : State H) (d : EscrowData Address) :
    Prop where
  wellFormed : WellFormed d
  descends : Descends d₂ d
  paid : d.status = .active → s.paidOut d₂.token - base =
    approvedTotal d.milestones - approvedTotal d₂.milestones +
      d₂.totalAmount * d.releasesMade.toNat

theorem Created.booked {s₁ s₂ : State H} {c : Call Address} {a : CreateArgs Address}
    (h : Created s₁ c a s₂) :
    Booked (a.stored c.timestamp) (s₂.paidOut a.token) s₂ (a.stored c.timestamp) where
  wellFormed := h.wellFormed
  descends := .refl _
  paid := by
    intro _
    have h_zero : (a.stored c.timestamp).releasesMade = 0 := rfl
    rw [h_zero]
    show s₂.paidOut a.token - s₂.paidOut a.token = _
    simp

theorem Move.booked {d₂ d d' : EscrowData Address} {s s' : State H} {l : Label Address} {base : Int}
    (h : Move s l s' d d') (h_inv : Booked d₂ base s d) : Booked d₂ base s' d' := by
  have h_sound := h_inv.wellFormed.sound
  have h_token := h_inv.descends.token
  have h_total := h_inv.descends.totalAmount
  refine ⟨h.wellFormed h_inv.wellFormed, h_inv.descends.trans h.descends, fun h_active => ?_⟩
  -- an escrow that is `Active` after the step was so before it
  have h_before := h_inv.paid (h.active h_active)
  cases h with
  | quiet _ h_unpaid =>
      rw [h_unpaid.paidOut]
      exact h_before
  | submit _ _ _ h_get h_pending _ h_unpaid =>
      rw [h_unpaid.paidOut, approvedTotal_withSubmitted h_get h_pending]
      exact h_before
  | @approve c i m _ _ h_get h_submitted _ _ h_paid =>
      have h_pos := h_sound.positive m (List.mem_of_getElem? h_get)
      have h_out := h_paid.paidOut h_pos.le
      rw [h_token] at h_out
      rw [h_out, approvedTotal_withApproved h_get h_submitted, withApproved_releasesMade]
      omega
  | @release c k _ _ _ _ _ _ _ h_paid h_next =>
      have h_out : s'.paidOut d.token = s.paidOut d.token + d.totalAmount :=
        h_paid.paidOut h_sound.total_pos.le
      rw [h_token, h_total] at h_out
      rw [h_out, withRelease_releasesMade, withRelease_milestones, h_next, Nat.cast_add,
        Int.mul_add, Nat.cast_one, Int.mul_one]
      omega
  | refund _ h_op =>
      rcases h_op with ⟨-, rfl⟩ | ⟨-, rfl⟩ <;> cases h_active

/-- The books of every state after `create`. -/
theorem Created.run_booked {s₁ s₂ s₃ : State H} {c : Call Address} {a : CreateArgs Address}
    {tr : List (Entry H)} (h : Created s₁ c a s₂) (h_run : Run s₂ tr s₃) :
    ∃ d, s₃.storage.escrow = some d ∧
      Booked (a.stored c.timestamp) (s₂.paidOut a.token) s₃ d :=
  h_run.deal (O := fun _ => True) (fun _ _ => trivial) h.stored h.booked
    fun _ _ _ h_move h_inv => h_move.booked h_inv

/-! ## A concrete instance

The contract at address 0, the payer at 1, the freelancer at 2, the fee collector at 3, the admin
at 4, a yield protocol at 5 and one token at 9.  Everybody authorises every call. -/

namespace Sample

abbrev host : Host Nat := Host.ledger 0 (fun _ => 9) (fun _ => 5)

/-- Empty storage; the payer owns `x` and the contract `y`. -/
def start (x y : Int) : State host where
  storage := ⟨none, none, none, 0⟩
  world := fun _ holder => if holder = 1 then x else if holder = 0 then y else 0
  log := []
  time := 0

def call (t : UInt64) (op : Op Nat) : Call Nat := ⟨t, fun _ => true, op⟩

/-- Pending milestones of the given amounts. -/
def pending (amounts : List Int) : List Milestone := amounts.map fun x => ⟨"", x, .pending⟩

def deal (milestones : List Milestone) (interval : UInt64) (recurrenceCount : UInt32) :
    CreateArgs Nat where
  payer := 1
  freelancer := 2
  token := 9
  milestones := milestones
  deadline := some 50
  yieldProtocol := none
  yieldRecipient := .payer
  interval := interval
  recurrenceCount := recurrenceCount

/-- Two milestones, no recurrence. -/
def twoParts : CreateArgs Nat := deal (pending [60, 40]) 0 0

/-- One milestone of 100, to be released twice, every 10 seconds. -/
def twice : CreateArgs Nat := deal (pending [100]) 10 2

/-- The first milestone of two is delivered and paid, the second given up. -/
def partlyPaid : List (Call Nat) :=
  [call 2 (.submitWork 0), call 3 (.approve 0), call 4 .cancel]

/-- Both releases of `twice`. -/
def bothReleases : List (Call Nat) := [call 11 .releaseRecurring, call 21 .releaseRecurring]

/-- The state after `a` was created at time 1, with no config stored. -/
def opened (x y : Int) (a : CreateArgs Nat) : State host := (call 1 (.create a)).perform (start x y)

theorem start_initial (x y : Int) : (start x y).Initial := ⟨rfl, rfl, rfl, rfl⟩

theorem start_reachable (x y : Int) : Reachable (start x y) :=
  ⟨start x y, [], start_initial x y, .refl⟩

theorem opened_created {x y : Int} {a : CreateArgs Nat}
    (h : (call 1 (.create a)).returns (start x y) = true) :
    Created (start x y) (call 1 (.create a)) a (opened x y a) :=
  .of_returns (show (0 : UInt64) ≤ 1 by decide) h rfl

theorem opened_reachable {x y : Int} {a : CreateArgs Nat}
    (h : (call 1 (.create a)).returns (start x y) = true) : Reachable (opened x y a) :=
  (start_reachable x y).run (.single (opened_created h).step)

end Sample

end StarEscrow.Escrow
