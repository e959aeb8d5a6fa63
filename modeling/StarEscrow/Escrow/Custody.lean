/-
  StarEscrow.Escrow.Custody

  Whose tokens a call can touch.

  The contract moves tokens in two ways only: `create` takes the total from the
  payer, who authorised it, and payments and refunds leave the contract's own
  balance.  So nobody else ever loses anything through the contract
  (`only_create_takes`), and in milestone mode the contract's balance covers
  what is not approved as long as the escrow is `Active` (`Backed`), whatever
  comes in from outside and whoever holds the roles.
-/

import StarEscrow.Escrow.Refund
import StarEscrow.Escrow.Authority

namespace StarEscrow.Escrow

open Exec

variable {Address : Type} [DecidableEq Address] {H : Host Address}

/-! ## Who loses tokens -/

/-- Lending to a yield protocol takes nothing from `a`. -/
def DepositSpares (H : Host Address) (a : Address) : Prop :=
  ∀ w w' protocol x, H.deposit w protocol x = some w' → H.Spares a w w'

section Payments

variable {env : Env Address} {s s' : State H} {token freelancer : Address} {gross net : Int}

/-- A payment spares everybody but the contract. -/
theorem payFreelancer_spares {a : Address} (h : payFreelancer token freelancer gross env s =
    .ok (net, s')) (h_a : a ≠ H.currentContract) : H.Spares a s.world s'.world := by
  obtain ⟨-, -, s₁, h_fee, h_rest⟩ := payFreelancer_steps h
  obtain ⟨w, h_w, rfl⟩ := transfer_ok.mp h_rest
  have h_last : H.Spares a s₁.world w := .of_transfer h_w h_a
  obtain ⟨-, rfl⟩ | ⟨c, -, -, h_take⟩ := h_fee
  · exact h_last
  · obtain ⟨w', h_w', rfl⟩ := transfer_ok.mp h_take
    exact Sep41.Spares.trans (.of_transfer h_w' h_a) h_last

/-- A payment costs the contract at most the gross amount, even if it pays itself. -/
theorem payFreelancer_funds (h : payFreelancer token freelancer gross env s = .ok (net, s'))
    (h_gross : 0 ≤ gross) : s.funds token - gross ≤ s'.funds token := by
  obtain ⟨-, -, s₁, h_fee, h_rest⟩ := payFreelancer_steps h
  obtain ⟨w, h_w, rfl⟩ := transfer_ok.mp h_rest
  have h_last := H.le_balance h_w token H.currentContract
  rw [if_pos rfl] at h_last
  show s.funds token - gross ≤ H.balance w token H.currentContract
  obtain ⟨h_zero, rfl⟩ | ⟨c, -, -, h_take⟩ := h_fee
  · -- without a fee the net amount is the gross one
    have h_nonneg := feeOf_nonneg s₁.storage.config h_gross
    simp only [State.funds] at h_last ⊢
    omega
  · obtain ⟨w', h_w', rfl⟩ := transfer_ok.mp h_take
    have h_first := H.le_balance h_w' token H.currentContract
    rw [if_pos rfl] at h_first
    simp only [State.funds, State.push_world, State.putWorld_world] at h_first h_last ⊢
    omega

end Payments

/-- A call that returns spares everybody but the contract, unless it is a `create` by its payer; and
    that takes at most the total, of its own token. -/
theorem Call.takes {c : Call Address} {s s' : State H} {a : Address} (h : c.run s = .ok s')
    (h_a : a ≠ H.currentContract) (h_deposit : DepositSpares H a) :
    H.Spares a s.world s'.world ∨ ∃ args, c.op = .create args ∧ args.payer = a ∧
      c.auth a = true ∧ ∀ token, H.balance s.world token a -
        (if token = args.token then milestoneTotal args.milestones else 0) ≤
          H.balance s'.world token a := by
  obtain ⟨t, auth, op⟩ := c
  rw [Call.run_ok] at h
  cases op with
  | init admin feeBps feeCollector =>
      obtain ⟨-, -, rfl⟩ := init_ok.mp h
      exact .inl (.refl _)
  | pause =>
      obtain ⟨cfg, -, -, rfl⟩ := pause_ok.mp h
      exact .inl (.refl _)
  | unpause =>
      obtain ⟨cfg, -, -, rfl⟩ := unpause_ok.mp h
      exact .inl (.refl _)
  | create args =>
      obtain ⟨-, -, -, -, -, -, h_auth, w, h_w, d, s₁, h_lend, rfl⟩ := create_ok.mp h
      have h_rest : H.Spares a w s₁.world := by
        rcases depositYield_ok.mp h_lend with ⟨-, -, rfl⟩ | ⟨p, -, -, w', h_w', rfl⟩
        · exact .refl _
        · exact h_deposit _ _ _ _ h_w'
      by_cases h_payer : args.payer = a
      · refine .inr ⟨args, rfl, h_payer, h_payer ▸ h_auth, fun token => ?_⟩
        exact (H.le_balance h_w token a).trans (h_rest token)
      · exact .inl (Sep41.Spares.trans (.of_transfer h_w (Ne.symm h_payer)) h_rest)
  | submitWork i =>
      obtain ⟨-, d, -, -, m, -, -, -, rfl⟩ := submitWork_ok.mp h
      exact .inl (.refl _)
  | approve i =>
      obtain ⟨-, d, -, m, -, -, -, net, s₁, h_pay, rfl⟩ := approve_ok.mp h
      have h_spares := payFreelancer_spares h_pay h_a
      exact .inl h_spares
  | releaseRecurring =>
      obtain ⟨-, d, -, -, -, -, -, -, net, s₁, k, h_pay, -, rfl⟩ := releaseRecurring_ok.mp h
      have h_spares := payFreelancer_spares h_pay h_a
      exact .inl h_spares
  | cancel =>
      obtain ⟨-, d, -, -, -, x, -, w, h_w, rfl⟩ := cancel_ok.mp h
      exact .inl (.of_transfer h_w h_a)
  | expire =>
      obtain ⟨-, d, -, -, dl, -, -, -, x, -, w, h_w, rfl⟩ := expire_ok.mp h
      exact .inl (.of_transfer h_w h_a)
  | transferFreelancer f =>
      obtain ⟨-, d, -, -, rfl⟩ := transferFreelancer_ok.mp h
      exact .inl (.refl _)
  | transferPayer p =>
      obtain ⟨-, d, -, -, rfl⟩ := transferPayer_ok.mp h
      exact .inl (.refl _)
  | extendDeadline t' =>
      obtain ⟨-, d, -, -, dl, -, -, rfl⟩ := extendDeadline_ok.mp h
      exact .inl (.refl _)

/-- A call that returns spares everybody who did not authorise it, except the contract. -/
theorem Call.spares {c : Call Address} {s s' : State H} {a : Address} (h : c.run s = .ok s')
    (h_a : a ≠ H.currentContract) (h_deposit : DepositSpares H a) (h_auth : c.auth a = false) :
    H.Spares a s.world s'.world := by
  rcases Call.takes h h_a h_deposit with h_spares | ⟨args, -, -, h_auth', -⟩
  · exact h_spares
  · rw [h_auth] at h_auth'
    cases h_auth'

/-- What a step of the contract takes from anybody else. -/
theorem Step.takes {s s' : State H} {l : Label Address} {a token : Address} (h : Step s l s')
    (h_label : l ≠ .outside) (h_a : a ≠ H.currentContract) (h_deposit : DepositSpares H a)
    (h_less : H.balance s'.world token a < H.balance s.world token a) :
    ∃ c args, l = .returned c ∧ c.op = .create args ∧ args.payer = a ∧ c.auth a = true ∧
      token = args.token ∧
      H.balance s.world token a - milestoneTotal args.milestones ≤ H.balance s'.world token a := by
  cases h with
  | outside => exact absurd rfl h_label
  | aborted => exact absurd h_less (lt_irrefl _)
  | @returned _ c _ h_run =>
      rcases Call.takes h_run h_a h_deposit with h_spares | ⟨args, h_op, h_payer, h_auth, h_le⟩
      · have h_ge := h_spares token
        omega
      · have h_le := h_le token
        by_cases h_token : token = args.token
        · rw [if_pos h_token] at h_le
          exact ⟨c, args, rfl, h_op, h_payer, h_auth, h_token, h_le⟩
        · rw [if_neg h_token] at h_le
          omega

theorem Step.spares {s s' : State H} {l : Label Address} {a : Address} (h : Step s l s')
    (h_label : l ≠ .outside) (h_a : a ≠ H.currentContract) (h_deposit : DepositSpares H a)
    (h_silent : Silent a ⟨s, l, s'⟩) : H.Spares a s.world s'.world := by
  cases h with
  | outside => exact absurd rfl h_label
  | aborted => exact .refl _
  | returned _ h_run =>
      exact Call.spares h_run h_a h_deposit (h_silent _ (Label.mem_call? rfl))

/-- The protocols of the table take from the contract only. -/
theorem Host.ledger_depositSpares {currentContract a : Address} {asset : Address → Address}
    {accrued : Address → Int} (h_a : a ≠ currentContract) :
    DepositSpares (Host.ledger currentContract asset accrued) a := by
  intro w w' protocol x h_w
  exact Sep41.Spares.of_transfer (T := Sep41.ledger Address) h_w h_a

/-- **Only `create` takes, and only from its payer.**  In a run, the balance of an address other than
    the contract is lowered by a step of the contract only if that is a `create` the address
    authorised as the payer, and then only in the deal's token and by at most the total. -/
theorem only_create_takes {s s' : State H} {tr : List (Entry H)} (h_run : Run s tr s')
    {a : Address} (h_a : a ≠ H.currentContract) (h_deposit : DepositSpares H a) :
    ∀ e ∈ tr, e.label ≠ .outside → ∀ token,
      H.balance e.post.world token a < H.balance e.pre.world token a →
        ∃ c args, e.label = .returned c ∧ c.op = .create args ∧ args.payer = a ∧
          c.auth a = true ∧ token = args.token ∧
          H.balance e.pre.world token a - milestoneTotal args.milestones ≤
            H.balance e.post.world token a :=
  fun e h_e h_label _ => (h_run.step_of_mem e h_e).takes h_label h_a h_deposit

namespace Sample

/-- A call that everybody but the contract authorises. -/
def signed (t : UInt64) (op : Op Nat) : Call Nat := ⟨t, fun a => a ≠ 0, op⟩

/-- `twoParts` is created, and its first milestone delivered and paid. -/
def firstPaid : List (Call Nat) :=
  [signed 1 (.create twoParts), signed 2 (.submitWork 0), signed 3 (.approve 0)]

end Sample

/-- The first call takes 100 from the payer. -/
theorem only_create_takes_firstPaid :
    let tr := playTrace Sample.firstPaid (Sample.start 100 0)
    (∃ e ∈ tr, Sample.host.balance e.post.world 9 1 < Sample.host.balance e.pre.world 9 1) ∧
    ∀ e ∈ tr, e.label ≠ .outside → ∀ token,
      Sample.host.balance e.post.world token 1 < Sample.host.balance e.pre.world token 1 →
        ∃ c args, e.label = .returned c ∧ c.op = .create args ∧ args.payer = 1 ∧
          c.auth 1 = true ∧ token = args.token ∧
          Sample.host.balance e.pre.world token 1 - milestoneTotal args.milestones ≤
            Sample.host.balance e.post.world token 1 :=
  ⟨⟨_, List.mem_cons_self, by decide⟩,
    only_create_takes (run_play (by decide)) (by decide) (Host.ledger_depositSpares (by decide))⟩

/-! ## What the contract keeps -/

/-- No recurrence and no yield protocol. -/
def EscrowData.Plain {Address : Type} (d : EscrowData Address) : Prop :=
  d.recurrenceCount = 0 ∧ d.yieldProtocol = none

/-- What is not approved. -/
def EscrowData.rest {Address : Type} (d : EscrowData Address) : Int :=
  d.totalAmount - approvedTotal d.milestones

/-- The contract's balance covers what is not approved of an `Active` plain escrow. -/
structure Backed (s : State H) : Prop where
  unopened : s.storage.escrow = none → ∀ token, 0 ≤ s.funds token
  wellFormed : ∀ d ∈ s.storage.escrow, WellFormed d
  covered : ∀ d ∈ s.storage.escrow, d.Plain → d.status = .active → d.rest ≤ s.funds d.token

/-- An approval takes at most the amount of its milestone. -/
theorem Call.approve_funds {c : Call Address} {s s' : State H} {i : Nat} {d : EscrowData Address}
    {m : Milestone} (h : c.run s = .ok s') (h_op : c.op = .approve i)
    (h_stored : s.storage.escrow = some d) (h_get : d.milestones[i]? = some m)
    (h_amount : 0 ≤ m.amount) : s.funds d.token - m.amount ≤ s'.funds d.token := by
  rw [Call.run_ok, h_op] at h
  obtain ⟨-, d', h_d', m', h_get', -, -, net, s₁, h_pay, rfl⟩ := approve_ok.mp h
  rw [State.atTime_storage, h_stored, Option.some.injEq] at h_d'
  subst h_d'
  rw [h_get, Option.some.injEq] at h_get'
  subst h_get'
  have h_funds := payFreelancer_funds h_pay h_amount
  exact h_funds

/-- A step that leaves no record does not lower the contract's balance. -/
theorem Step.unopened {s s' : State H} {l : Label Address} (h : Step s l s')
    (h_new' : s'.storage.escrow = none) (token : Address) : s.funds token ≤ s'.funds token := by
  cases h with
  | aborted => exact le_refl _
  | outside h_keeps => exact h_keeps token
  | returned _ h_run =>
      have h_same (h_deal : SameDeal s s') : s.funds token ≤ s'.funds token :=
        (State.funds_congr h_deal.world token).ge
      have h_stored {s₁ : State H} {d : EscrowData Address} (h_stores : Stores s₁ d s') :
          s.funds token ≤ s'.funds token := by
        rw [h_stores.escrow] at h_new'
        cases h_new'
      cases Call.change h_run with
      | init _ _ _ _ h_deal | pausing _ _ _ _ h_deal => exact h_same h_deal
      | create _ _ _ _ _ _ _ _ _ _ h_stores | submit _ _ _ _ _ _ _ h_stores
      | approve _ _ _ _ _ _ _ h_stores | release _ _ _ _ _ _ _ _ _ _ h_stores
      | refund _ _ _ _ _ _ _ _ h_stores | transferFreelancer _ _ _ _ h_stores
      | transferPayer _ _ _ _ h_stores | extendDeadline _ _ _ _ _ _ h_stores =>
          exact h_stored h_stores

/-- One step from a stored record. -/
theorem Step.covered {s s' : State H} {l : Label Address} {d d' : EscrowData Address}
    (h : Step s l s') (h_stored : s.storage.escrow = some d) (h_move : Move s l s' d d')
    (h_wf : WellFormed d) (h_plain : d'.Plain) (h_active : d'.status = .active)
    (h_before : d.Plain → d.status = .active → d.rest ≤ s.funds d.token) :
    d'.rest ≤ s'.funds d'.token := by
  have h_desc := h_move.descends
  have h_covered : d.rest ≤ s.funds d.token :=
    h_before ⟨h_desc.recurrenceCount ▸ h_plain.1, h_desc.yieldProtocol ▸ h_plain.2⟩
      (h_move.active h_active)
  cases h_move with
  | quiet _ _ h_world =>
      refine h_covered.trans ?_
      cases h with
      | outside h_keeps => exact h_keeps _
      | returned | aborted => exact (State.funds_congr (h_world (by simp)) d.token).ge
  | submit _ _ _ h_get h_pending _ _ h_world =>
      rw [EscrowData.rest, approvedTotal_withSubmitted h_get h_pending]
      exact h_covered.trans (State.funds_congr h_world d.token).ge
  | @approve c i m h_label h_op h_get h_submitted =>
      subst h_label
      have h_pos := h_wf.sound.positive m (List.mem_of_getElem? h_get)
      cases h with
      | returned _ h_run =>
          -- the approval pays what it takes off the rest
          have h_funds := Call.approve_funds h_run h_op h_stored h_get h_pos.le
          rw [EscrowData.rest, approvedTotal_withApproved h_get h_submitted]
          show d.totalAmount - (approvedTotal d.milestones + m.amount) ≤ s'.funds d.token
          unfold EscrowData.rest at h_covered
          omega
  | release _ _ h_count => exact absurd h_plain.1 h_count
  | refund _ h_op =>
      rcases h_op with ⟨-, rfl⟩ | ⟨-, rfl⟩ <;> cases h_active

/-- The step that stores the record: a `create`, whose payer is not the contract. -/
theorem Change.covered {s s' : State H} {c : Call Address} {d : EscrowData Address}
    (h : Change s c s') (h_signs : c.auth H.currentContract = false)
    (h_new : s.storage.escrow = none) (h_funds : ∀ token, 0 ≤ s.funds token)
    (h_stored : s'.storage.escrow = some d) (h_plain : d.Plain) : d.rest ≤ s'.funds d.token := by
  have h_same (h_deal : SameDeal s s') : d.rest ≤ s'.funds d.token := by
    rw [h_deal.escrow, h_new] at h_stored
    cases h_stored
  have h_other {d' : EscrowData Address} (h_d : s.storage.escrow = some d') :
      d.rest ≤ s'.funds d.token := by
    rw [h_new] at h_d
    cases h_d
  cases h with
  | init _ _ _ _ h_deal | pausing _ _ _ _ h_deal => exact h_same h_deal
  | submit _ _ h_d | approve _ _ h_d | release _ _ h_d | refund _ _ h_d
  | transferFreelancer _ _ h_d | transferPayer _ _ h_d | extendDeadline _ _ h_d =>
      exact h_other h_d
  | @create a s₁ w _ _ _ h_accepted h_auth h_lock h_lend _ _ _ h_stores =>
      obtain rfl : a.stored c.timestamp = d :=
        Option.some.inj (h_stores.escrow.symm.trans h_stored)
      have h_payer : a.payer ≠ H.currentContract := by
        intro h_eq
        rw [h_eq, h_signs] at h_auth
        cases h_auth
      have h_world : s₁.world = w := by
        rcases h_lend with ⟨h_world, -⟩ | ⟨p, h_p, -⟩
        · exact h_world
        · have h_none : a.yieldProtocol = none := h_plain.2
          rw [h_none] at h_p
          cases h_p
      have h_locked := H.balance_dst h_lock h_payer.symm
      have h_before := h_funds a.token
      have h_approved := (h_accepted.sound c.timestamp).approved_nonneg
      show milestoneTotal a.milestones - approvedTotal a.milestones ≤
        H.balance s'.world a.token H.currentContract
      rw [h_stores.world, h_world, h_locked]
      have h_sum : 0 ≤ approvedTotal a.milestones := h_approved
      unfold State.funds at h_before
      omega

theorem Step.backed {s s' : State H} {l : Label Address} (h : Step s l s')
    (h_signs : Silent H.currentContract ⟨s, l, s'⟩) (h_inv : Backed s) : Backed s' := by
  cases h_old : s.storage.escrow with
  | some d =>
      obtain ⟨d', h_d', h_move⟩ := h.move h_old
      have h_wf := h_inv.wellFormed d h_old
      refine ⟨fun h_none => ?_, fun d'' h_d'' => ?_, fun d'' h_d'' h_plain h_active => ?_⟩
      · rw [h_d'] at h_none
        cases h_none
      · obtain rfl : d' = d'' := Option.some.inj (h_d'.symm.trans h_d'')
        exact h_move.wellFormed h_wf
      · obtain rfl : d' = d'' := Option.some.inj (h_d'.symm.trans h_d'')
        exact h.covered h_old h_move h_wf h_plain h_active (h_inv.covered d h_old)
  | none =>
      have h_funds := h_inv.unopened h_old
      refine ⟨fun h_none token => (h_funds token).trans (h.unopened h_none token),
        fun d h_d => ?_, fun d h_d h_plain _ => ?_⟩
      · obtain ⟨c, a, h_created⟩ := h.created_of_none h_old h_d
        obtain rfl : a.stored c.timestamp = d := Option.some.inj (h_created.stored.symm.trans h_d)
        exact h_created.wellFormed
      · cases h with
        | returned _ h_run =>
            exact (Call.change h_run).covered (h_signs _ rfl) h_old h_funds h_d h_plain
        | aborted | outside =>
            have h_none : some d = none := h_d.symm.trans h_old
            cases h_none

theorem State.Initial.backed {s : State H} (h : s.Initial) (h_funds : ∀ token, 0 ≤ s.funds token) :
    Backed s := by
  obtain ⟨-, h_escrow, -, -⟩ := h
  refine ⟨fun _ => h_funds, ?_, ?_⟩ <;> simp [h_escrow]

theorem Run.backed {s s' : State H} {tr : List (Entry H)} (h : Run s tr s')
    (h_signs : ∀ e ∈ tr, Silent H.currentContract e) (h_init : Backed s) : Backed s' :=
  h.invariant h_signs (fun _ h_e h_step h_inv => h_step.backed h_e h_inv) h_init

/-- A refund passes its checks only while the escrow is `Active`. -/
theorem Call.Admitted.active {c : Call Address} {s : State H} {d : EscrowData Address}
    (h : c.Admitted s d) (h_op : c.op.isRefund = true) : d.status = .active := by
  obtain ⟨t, auth, op⟩ := c
  cases op with
  | cancel => exact h.2.1
  | expire => exact h.2.1
  | _ => cases h_op

/-- **The payer can always get the rest back.**  While a plain escrow is `Active` and the contract
    runs, every `cancel` of the payer, and every late `expire`, returns and transfers exactly what
    is not approved, whatever the run did before and whatever the contract was sent. -/
theorem payer_can_exit (h_live : H.Live) {s₀ s : State H} {tr : List (Entry H)}
    {d : EscrowData Address} (h_init : s₀.Initial) (h_funds : ∀ token, 0 ≤ s₀.funds token)
    (h_run : Run s₀ tr s) (h_signs : ∀ e ∈ tr, Silent H.currentContract e) (h_stored : s.storage.escrow = some d)
    (h_plain : d.recurrenceCount = 0 ∧ d.yieldProtocol = none) (h_active : d.status = .active)
    (h_free : s.paused = false) {c : Call Address} (h_auth : c.auth d.payer = true)
    (h_op : c.op = .cancel ∨ c.op = .expire ∧ ∃ t ∈ d.deadline, t < c.timestamp) :
    ∃ s', c.run s = .ok s' ∧ s'.transfers = s.transfers ++
      [⟨d.token, H.currentContract, d.payer, d.totalAmount - approvedTotal d.milestones⟩] := by
  have h_backed := h_run.backed h_signs (h_init.backed h_funds)
  have h_wf := h_backed.wellFormed d h_stored
  have h_zero := h_wf.counter h_plain.1
  have h_refund : c.op.isRefund = true := by
    rcases h_op with h_op | ⟨h_op, -⟩ <;> rw [h_op] <;> rfl
  have h_admitted := Call.admitted_of_refund h_free h_active h_auth h_op
  obtain ⟨s', h_ret⟩ := (Call.refund_returns_iff h_live h_refund h_stored h_admitted h_wf.sound
    h_zero).mpr (h_backed.covered d h_stored h_plain h_active)
  refine ⟨s', h_ret, ?_⟩
  rw [(Call.refunded h_ret h_refund h_stored).transfers, refundOf_of_zero h_zero]

theorem payer_can_exit_firstPaid :
    let s := play Sample.firstPaid (Sample.start 100 0)
    let d := s.storage.escrow.get rfl
    ∃ s', (Sample.signed 4 .cancel).run s = .ok s' ∧ s'.transfers = s.transfers ++
      [⟨d.token, 0, d.payer, d.totalAmount - approvedTotal d.milestones⟩] :=
  payer_can_exit Sep41.ledger_live (Sample.start_initial 100 0)
    (fun token => show (0 : Int) ≤ if 0 = 1 then 100 else if 0 = 0 then 0 else 0 by decide)
    (run_play (by decide)) (by decide) (Option.some_get _).symm (by decide) (by decide) (by decide)
    (by decide) (.inl rfl)

end StarEscrow.Escrow
