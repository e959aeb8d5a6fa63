/-
  StarEscrow.Escrow.Yield

  Escrows that lend the locked amount to a yield protocol.

  `create` deposits, but nothing ever withdraws: `withdraw_funds` has no caller.
  So the refund of an `Active` escrow has to come from other tokens of the
  contract, and an escrow that is over has settled nothing.
-/

import StarEscrow.Escrow.Refund

namespace StarEscrow.Escrow

variable {Address : Type} [DecidableEq Address] {H : Host Address}

/-- What the interface of `yield.rs` promises of a protocol other than the contract itself:
    `deposit` takes the amount from the contract, `withdraw` pays the requested principal and a
    nonnegative yield.  `asset` is the token a protocol keeps. -/
structure YieldLaws (H : Host Address) (asset : Address → Address) : Prop where
  deposit : ∀ {w w' : H.World} {protocol : Address} {x : Int}, protocol ≠ H.currentContract →
    H.deposit w protocol x = some w' →
      H.balance w' (asset protocol) H.currentContract =
        H.balance w (asset protocol) H.currentContract - x
  withdraw : ∀ {w w' : H.World} {protocol : Address} {x principal yieldAccrued : Int},
    protocol ≠ H.currentContract →
    H.withdraw w protocol x = some (w', principal, yieldAccrued) →
      principal = x ∧ 0 ≤ yieldAccrued ∧
        H.balance w' (asset protocol) H.currentContract =
          H.balance w (asset protocol) H.currentContract + (x + yieldAccrued)

/-- The tables of balances keep the promises. -/
theorem Host.ledger_yieldLaws {currentContract : Address} {asset : Address → Address}
    {accrued : Address → Int} (h_accrued : ∀ protocol, 0 ≤ accrued protocol) :
    YieldLaws (Host.ledger currentContract asset accrued) asset where
  deposit h_ne h := (Sep41.ledger Address).balance_src h h_ne
  withdraw := by
    intro w w' protocol x principal yieldAccrued h_ne h
    obtain ⟨w₁, h_w₁, h_eq⟩ := Option.map_eq_some_iff.mp h
    cases h_eq
    exact ⟨rfl, h_accrued protocol, (Sep41.ledger Address).balance_dst h_w₁ h_ne.symm⟩

/-- Lending leaves the contract with what it had before. -/
theorem Created.funds_lent {s₁ s₂ : State H} {c : Call Address} {a : CreateArgs Address}
    {p : Address} {asset : Address → Address} (h : Created s₁ c a s₂) (h_laws : YieldLaws H asset)
    (h_yield : a.yieldProtocol = some p) (h_asset : asset p = a.token)
    (h_protocol : p ≠ H.currentContract) (h_payer : a.payer ≠ H.currentContract) :
    s₂.funds a.token = s₁.funds a.token := by
  obtain ⟨-, -, -, w, s, h_lock, h_lend, -, -, h_stores⟩ := h.effect
  have h_locked := H.balance_dst h_lock h_payer.symm
  rcases h_lend with ⟨-, h_no⟩ | ⟨p', h_p', h_dep⟩
  · rw [h_yield] at h_no
    cases h_no
  · obtain rfl : p = p' := Option.some.inj (h_yield.symm.trans h_p')
    have h_lent := h_laws.deposit h_protocol h_dep
    rw [h_asset] at h_lent
    rw [State.funds_congr h_stores.world, State.funds, State.funds]
    omega

/-! ## No step withdraws -/

theorem Move.withdrawals {s s' : State H} {l : Label Address} {d d' : EscrowData Address}
    (h : Move s l s' d d') : s'.withdrawals = s.withdrawals := by
  cases h with
  | quiet _ h_unpaid => exact h_unpaid.withdrawals
  | submit _ _ _ _ _ _ h_unpaid => exact h_unpaid.withdrawals
  | approve _ _ _ _ _ _ h_paid => exact h_paid.withdrawals
  | release _ _ _ _ _ _ _ h_paid => exact h_paid.withdrawals
  | refund _ _ _ _ _ h_refunded => exact h_refunded.withdrawals

theorem Run.withdrawals {s s' : State H} {tr : List (Entry H)} {d : EscrowData Address}
    (h : Run s tr s') (h_stored : s.storage.escrow = some d) : s'.withdrawals = s.withdrawals := by
  obtain ⟨d', -, h_eq⟩ := h.deal (O := fun _ => True)
    (I := fun t _ => t.withdrawals = s.withdrawals) (fun _ _ => trivial) h_stored rfl
    fun _ _ _ h_move h_prev => h_move.withdrawals.trans h_prev
  exact h_eq

/-! ## Settlement -/

/-- If the escrow is `Active` and the contract is running, every `cancel` the payer authorises
    returns. -/
def CancelReady (s : State H) (d : EscrowData Address) : Prop :=
  d.status = .active → s.paused = false → ∀ c : Call Address, c.op = .cancel →
    s.time ≤ c.timestamp → c.auth d.payer = true → ∃ s', c.run s = .ok s'

/-- If the escrow is over, then since the state `s₂` the principal was withdrawn once, the yield
    went to its recipient, and nothing is left in the protocol or in the contract. -/
def YieldSettled (s₂ s : State H) (d : EscrowData Address) : Prop :=
  d.status.Terminal → ∃ w : Withdrawal Address, s.withdrawals = s₂.withdrawals ++ [w] ∧
    some w.protocol = d.yieldProtocol ∧ w.requested = d.principalDeposited ∧
    w.principal = d.principalDeposited ∧
    (0 < w.yieldAccrued → ⟨d.token, H.currentContract,
      (match d.yieldRecipient with
        | .payer => d.payer
        | .freelancer => d.freelancer), w.yieldAccrued⟩ ∈ s.transfers) ∧
    H.balance s.world d.token w.protocol = 0 ∧ s.funds d.token = 0

/-- An escrow that is over has not settled. -/
theorem not_yieldSettled {s₂ s : State H} {d : EscrowData Address}
    (h_same : s.withdrawals = s₂.withdrawals) (h_term : d.status.Terminal) :
    ¬YieldSettled s₂ s d := by
  intro h_settled
  obtain ⟨w, h_w, -⟩ := h_settled h_term
  rw [h_same] at h_w
  have h_len := congrArg List.length h_w
  rw [List.length_append, List.length_singleton] at h_len
  omega

/-- A payer can cancel an `Active` escrow of a running contract without recurrence exactly when
    the contract itself holds what is not approved. -/
theorem cancelReady_iff (h_live : H.Live) {s : State H} {d : EscrowData Address}
    (h_stored : s.storage.escrow = some d) (h_wf : WellFormed d) (h_once : d.recurrenceCount = 0)
    (h_active : d.status = .active) :
    CancelReady s d ↔
      s.paused = true ∨ d.totalAmount - approvedTotal d.milestones ≤ s.funds d.token := by
  have h_zero := h_wf.counter h_once
  have h_iff (c : Call Address) (h_op : c.op = .cancel) (h_auth : c.auth d.payer = true)
      (h_run : s.paused = false) := by
    have h_admitted : c.Admitted s d :=
      Call.admitted_of_refund h_run h_active h_auth (.inl h_op)
    exact Call.refund_returns_iff h_live (by rw [h_op]; rfl) h_stored h_admitted h_wf.sound h_zero
  by_cases h_paused : s.paused = true
  · constructor
    · intro _
      exact .inl h_paused
    · intro _ _ h_run
      rw [h_paused] at h_run
      cases h_run
  · have h_run : s.paused = false := by simpa using h_paused
    constructor
    · intro h_ready
      right
      -- a `cancel` that the payer sends at once
      let now : Call Address := ⟨s.time, fun _ => true, .cancel⟩
      exact (h_iff now rfl rfl h_run).mp (h_ready h_active h_run now rfl (UInt64.le_refl _) rfl)
    · intro h_or _ _ c h_op _ h_auth
      rcases h_or with h_pause | h_funds
      · exact absurd h_pause h_paused
      · exact (h_iff c h_op h_auth h_run).mpr h_funds

/-- **Settlement of a yield escrow**, in any state after a `create` without recurrence: the payer
    can cancel while the escrow is `Active`, and it has settled once it is over, exactly when it is
    still `Active` and the contract is paused or itself holds what is not approved. -/
theorem yield_settles_iff (h_live : H.Live) {s₁ s₂ s₃ : State H} {c : Call Address}
    {a : CreateArgs Address} {tr : List (Entry H)} {d : EscrowData Address}
    (h_created : Created s₁ c a s₂) (h_once : a.recurrenceCount = 0) (h_run : Run s₂ tr s₃)
    (h_stored : s₃.storage.escrow = some d) :
    CancelReady s₃ d ∧ YieldSettled s₂ s₃ d ↔
      d.status = .active ∧
        (s₃.paused = true ∨ d.totalAmount - approvedTotal d.milestones ≤ s₃.funds a.token) := by
  obtain ⟨d', h_d', h_wf, h_desc⟩ := h_run.wellFormed h_created.stored h_created.wellFormed
  obtain rfl : d = d' := Option.some.inj (h_stored.symm.trans h_d')
  have h_same := h_run.withdrawals h_created.stored
  have h_token : d.token = a.token := h_desc.token
  have h_once' : d.recurrenceCount = 0 := h_desc.recurrenceCount.trans h_once
  rcases h_wf.status with h_active | h_term
  · have h_ready := cancelReady_iff h_live h_stored h_wf h_once' h_active
    rw [h_token] at h_ready
    have h_settled : YieldSettled s₂ s₃ d := fun h_term => absurd h_active h_term.ne_active
    rw [h_ready]
    exact ⟨fun h => ⟨h_active, h.1⟩, fun h => ⟨h.2, h_settled⟩⟩
  · -- the escrow is over: it has not settled, and the right-hand side asks for `Active`
    exact iff_of_false (fun h => not_yieldSettled h_same h_term h.2)
      (fun h => h_term.ne_active h.1)

namespace Sample

/-- A single milestone of 100 whose amount is lent to the protocol at address 5. -/
def lent : CreateArgs Nat := { deal (pending [100]) 0 0 with yieldProtocol := some 5 }

/-- Two milestones, lent to it together. -/
def lentParts : CreateArgs Nat := { twoParts with yieldProtocol := some 5 }

end Sample

/-- A third party has left 100 tokens, and the first milestone is paid from them. -/
theorem yield_settles_iff_lentParts :
    let s₂ := Sample.opened 100 100 Sample.lentParts
    let s := play [Sample.call 2 (.submitWork 0), Sample.call 3 (.approve 0)] s₂
    let d := s.storage.escrow.get (by decide)
    CancelReady s d ∧ YieldSettled s₂ s d ↔
      d.status = .active ∧
        (s.paused = true ∨ d.totalAmount - approvedTotal d.milestones ≤ s.funds 9) :=
  yield_settles_iff (a := Sample.lentParts) Sep41.ledger_live (Sample.opened_created (by decide))
    rfl (run_play (by decide)) (Option.some_get _).symm

/-- With a protocol that keeps its promises, the payer's `cancel` fails right after `create`; and
    when a third party has left 100 tokens, the approved milestone is paid from them, the escrow
    completes, and the principal stays in the protocol. -/
theorem yield_never_settles :
    YieldLaws Sample.host (fun _ => 9) ∧
    (∃ (s₁ s₂ : State Sample.host) (c c' : Call Nat), Reachable s₁ ∧ Created s₁ c Sample.lent s₂ ∧
      s₂.storage.escrow.map (·.status) = some .active ∧ s₂.paused = false ∧ c'.op = .cancel ∧
      s₂.time ≤ c'.timestamp ∧ c'.auth 1 = true ∧ c'.returns s₂ = false) ∧
    ∃ (s₁ s₂ s₃ : State Sample.host) (c : Call Nat) (tr : List (Entry Sample.host)),
      Reachable s₁ ∧ Created s₁ c Sample.lent s₂ ∧ Run s₂ tr s₃ ∧
      s₃.storage.escrow.map (·.status) = some .completed ∧ s₃.withdrawals = [] ∧
      Sample.host.balance s₃.world 9 5 = 100 :=
  ⟨Host.ledger_yieldLaws fun _ => by decide,
    ⟨_, Sample.opened 100 0 Sample.lent, _, Sample.call 2 .cancel, Sample.start_reachable 100 0,
      Sample.opened_created (by decide), rfl, rfl, rfl, by decide, rfl, by decide⟩,
    ⟨_, Sample.opened 100 100 Sample.lent, _, _, _, Sample.start_reachable 100 100,
      Sample.opened_created (by decide),
      run_play (l := [Sample.call 2 (.submitWork 0), Sample.call 3 (.approve 0)]) (by decide), rfl,
      by decide, by decide⟩⟩

end StarEscrow.Escrow
