/-
  StarEscrow.Escrow.Change

  What a returned call can do, said once.

  `Change s c s'` has one constructor for each kind of effect: it names the
  guards that held, the record that was stored, and what happened to the
  config, the token balances and the list of transfers.  `cancel` and `expire`
  share a constructor, and so do `pause` and `unpause`.
-/

import StarEscrow.Escrow.Run

namespace StarEscrow.Escrow

open Exec

variable {Address : Type} [DecidableEq Address] {H : Host Address}

/-- `s'` did nothing after `s` but publish events. -/
def Publishes (s s' : State H) : Prop :=
  ∃ es : List (Event Address), s'.log = s.log ++ es.map .event

theorem Publishes.transfers {s s' : State H} (h : Publishes s s') :
    s'.transfers = s.transfers := by
  obtain ⟨es, h_log⟩ := h
  rw [State.transfers_congr (s := s.publish es) h_log, State.transfers_publish]

theorem Publishes.withdrawals {s s' : State H} (h : Publishes s s') :
    s'.withdrawals = s.withdrawals := by
  obtain ⟨es, h_log⟩ := h
  simp [State.withdrawals, h_log, Function.comp_def, Effect.withdraw?]

/-- Only the config may differ. -/
structure SameDeal (s s' : State H) : Prop where
  escrow : s'.storage.escrow = s.storage.escrow
  world : s'.world = s.world
  events : Publishes s s'

/-- `s'` is `s₁` with the record `d` stored (and events, or a longer time to live). -/
structure Stores (s₁ : State H) (d : EscrowData Address) (s' : State H) : Prop where
  escrow : s'.storage.escrow = some d
  config : s'.storage.config = s₁.storage.config
  world : s'.world = s₁.world
  events : Publishes s₁ s'

/-- The record after milestone `i`, so far `m`, was marked as submitted. -/
def EscrowData.withSubmitted (d : EscrowData Address) (i : Nat) (m : Milestone) :
    EscrowData Address :=
  { d with milestones := d.milestones.set i { m with status := .submitted } }

/-- The record after milestone `i`, so far `m`, was approved. -/
def EscrowData.withApproved (d : EscrowData Address) (i : Nat) (m : Milestone) :
    EscrowData Address :=
  { d with
    milestones := d.milestones.set i { m with status := .approved }
    status :=
      if ∀ m' ∈ d.milestones.set i { m with status := .approved }, m'.status = .approved then
        .completed
      else d.status }

/-- The record after a release that brought the counter to `k` at time `t`. -/
def EscrowData.withRelease (d : EscrowData Address) (k : UInt32) (t : UInt64) :
    EscrowData Address :=
  { d with
    releasesMade := k
    lastReleaseTime := t
    status := if d.recurrenceCount ≤ k then .completed else d.status }

/-- What `create` checks of its milestones. -/
structure CreateArgs.Accepted (a : CreateArgs Address) : Prop where
  nonempty : a.milestones ≠ []
  positive : ∀ m ∈ a.milestones, 0 < m.amount
  range : Checked.InI128 (milestoneTotal a.milestones)

/-- The record `create` stores at time `t`. -/
def CreateArgs.stored (a : CreateArgs Address) (t : UInt64) : EscrowData Address :=
  { a.record (milestoneTotal a.milestones) t with
    principalDeposited := if a.yieldProtocol.isSome then milestoneTotal a.milestones else 0 }

inductive Change (s : State H) (c : Call Address) (s' : State H) : Prop
  | init {admin feeCollector : Address} {feeBps : UInt32}
      (h_op : c.op = .init admin feeBps feeCollector) (h_none : s.storage.config = none)
      (h_auth : c.auth admin = true)
      (h_config : s'.storage.config = some ⟨admin, false, feeBps, feeCollector⟩)
      (h_same : SameDeal s s')
  | pausing {cfg : ProtocolConfig Address} {b : Bool}
      (h_op : c.op = if b then .pause else .unpause) (h_stored : s.storage.config = some cfg)
      (h_auth : c.auth cfg.admin = true)
      (h_config : s'.storage.config = some { cfg with paused := b }) (h_same : SameDeal s s')
  | create {a : CreateArgs Address} {s₁ : State H} {w : H.World}
      (h_op : c.op = .create a) (h_run : s.paused = false) (h_new : s.storage.escrow = none)
      (h_accepted : a.Accepted) (h_auth : c.auth a.payer = true)
      (h_lock : H.transfer s.world a.token a.payer H.currentContract
        (milestoneTotal a.milestones) = some w)
      (h_lend : s₁.world = w ∧ a.yieldProtocol = none ∨ ∃ p, a.yieldProtocol = some p ∧
        H.deposit w p (milestoneTotal a.milestones) = some s₁.world)
      (h_config : s₁.storage.config = s.storage.config)
      (h_transfers : s₁.transfers = s.transfers ++
        [⟨a.token, a.payer, H.currentContract, milestoneTotal a.milestones⟩])
      (h_withdrawals : s₁.withdrawals = s.withdrawals)
      (h_stores : Stores s₁ (a.stored c.timestamp) s')
  | submit {i : Nat} {d : EscrowData Address} {m : Milestone}
      (h_op : c.op = .submitWork i) (h_run : s.paused = false)
      (h_stored : s.storage.escrow = some d) (h_active : d.status = .active)
      (h_get : d.milestones[i]? = some m) (h_pending : m.status = .pending)
      (h_auth : c.auth d.freelancer = true) (h_stores : Stores s (d.withSubmitted i m) s')
  | approve {i : Nat} {d : EscrowData Address} {m : Milestone} {s₁ : State H}
      (h_op : c.op = .approve i) (h_run : s.paused = false)
      (h_stored : s.storage.escrow = some d) (h_get : d.milestones[i]? = some m)
      (h_submitted : m.status = .submitted) (h_auth : c.auth d.payer = true)
      (h_pay : Payment s s₁ d.token d.freelancer m.amount)
      (h_stores : Stores s₁ (d.withApproved i m) s')
  | release {d : EscrowData Address} {k : UInt32} {s₁ : State H}
      (h_op : c.op = .releaseRecurring) (h_run : s.paused = false)
      (h_stored : s.storage.escrow = some d) (h_interval : d.interval ≠ 0)
      (h_count : d.recurrenceCount ≠ 0) (h_active : d.status = .active)
      (h_left : d.releasesMade < d.recurrenceCount)
      (h_due : d.lastReleaseTime.toNat + d.interval.toNat ≤ c.timestamp.toNat)
      (h_pay : Payment s s₁ d.token d.freelancer d.amount)
      (h_next : k.toNat = d.releasesMade.toNat + 1)
      (h_stores : Stores s₁ (d.withRelease k c.timestamp) s')
  | refund {d : EscrowData Address} {st : EscrowStatus} {s₁ : State H}
      (h_op : c.op = .cancel ∧ st = .cancelled ∨ c.op = .expire ∧ st = .expired ∧
        ∃ t, d.deadline = some t ∧ t < c.timestamp)
      (h_run : s.paused = false) (h_stored : s.storage.escrow = some d)
      (h_active : d.status = .active) (h_auth : c.auth d.payer = true)
      (h_transfer : H.transfer s.world d.token H.currentContract d.payer (refundOf d) =
        some s₁.world)
      (h_storage : s₁.storage = s.storage)
      (h_log : s₁.log = s.log ++
        [.transfer ⟨d.token, H.currentContract, d.payer, refundOf d⟩])
      (h_stores : Stores s₁ { d with status := st } s')
  | transferFreelancer {d : EscrowData Address} {f : Address}
      (h_op : c.op = .transferFreelancer f) (h_run : s.paused = false)
      (h_stored : s.storage.escrow = some d) (h_auth : c.auth d.freelancer = true)
      (h_stores : Stores s { d with freelancer := f } s')
  | transferPayer {d : EscrowData Address} {p : Address}
      (h_op : c.op = .transferPayer p) (h_run : s.paused = false)
      (h_stored : s.storage.escrow = some d) (h_auth : c.auth d.payer = true)
      (h_stores : Stores s { d with payer := p } s')
  | extendDeadline {d : EscrowData Address} {t t' : UInt64}
      (h_op : c.op = .extendDeadline t') (h_run : s.paused = false)
      (h_stored : s.storage.escrow = some d) (h_auth : c.auth d.payer = true)
      (h_deadline : d.deadline = some t) (h_later : t < t')
      (h_stores : Stores s { d with deadline := some t' } s')

theorem Payment.of_atTime {s s₁ : State H} {t : UInt64} {token freelancer : Address} {gross : Int}
    (h : Payment (s.atTime t) s₁ token freelancer gross) : Payment s s₁ token freelancer gross :=
  ⟨h.storage, h.log, h.funds⟩

/-- Every returned call is one of the changes. -/
theorem Call.change {c : Call Address} {s s' : State H} (h : c.run s = .ok s') :
    Change s c s' := by
  obtain ⟨t, auth, op⟩ := c
  rw [Call.run_ok] at h
  cases op with
  | init admin feeBps feeCollector =>
      obtain ⟨h_none, h_auth, rfl⟩ := init_ok.mp h
      exact .init rfl h_none h_auth rfl ⟨rfl, rfl, [], (List.append_nil _).symm⟩
  | pause =>
      obtain ⟨cfg, h_stored, h_auth, rfl⟩ := pause_ok.mp h
      exact .pausing (b := true) rfl h_stored h_auth rfl
        ⟨rfl, rfl, [_], rfl⟩
  | unpause =>
      obtain ⟨cfg, h_stored, h_auth, rfl⟩ := unpause_ok.mp h
      exact .pausing (b := false) rfl h_stored h_auth rfl
        ⟨rfl, rfl, [_], rfl⟩
  | create a =>
      obtain ⟨h_run, h_new, h_ne, h_pos, h_range, -, h_auth, w, hw, d, s₁, h_dep, rfl⟩ :=
        create_ok.mp h
      have h_accepted : a.Accepted := ⟨h_ne, h_pos, h_range⟩
      -- the state after the payer's transfer, before the loan
      let locked : State H := ((s.atTime t).putWorld w).push
        (.transfer ⟨a.token, a.payer, H.currentContract, milestoneTotal a.milestones⟩)
      have h_transfers : locked.transfers = s.transfers ++
          [⟨a.token, a.payer, H.currentContract, milestoneTotal a.milestones⟩] :=
        State.transfers_push_transfer _ _
      have h_withdrawals : locked.withdrawals = s.withdrawals := by
        simp [locked, State.withdrawals, Effect.withdraw?]
      rcases depositYield_ok.mp h_dep with ⟨h_no, rfl, rfl⟩ | ⟨p, h_p, rfl, w', hw', rfl⟩
      · have h_no : a.yieldProtocol = none := h_no
        have h_record : a.record (milestoneTotal a.milestones) t = a.stored t := by
          simp [CreateArgs.stored, CreateArgs.record, h_no]
        have h_world : locked.world = w := rfl
        exact .create rfl h_run h_new h_accepted h_auth hw (.inl ⟨h_world, h_no⟩) rfl
          h_transfers h_withdrawals ⟨congrArg some h_record, rfl, rfl, [_], rfl⟩
      · have h_p : a.yieldProtocol = some p := h_p
        -- the state after the loan, with only its deposit added to the log
        let lent : State H :=
          (locked.putWorld w').push (.deposit p (milestoneTotal a.milestones))
        have h_record : { a.record (milestoneTotal a.milestones) t with
            principalDeposited := milestoneTotal a.milestones } = a.stored t := by
          simp [CreateArgs.stored, h_p]
        have h_lend : H.deposit w p (milestoneTotal a.milestones) = some lent.world := hw'
        refine .create rfl h_run h_new h_accepted h_auth hw (.inr ⟨p, h_p, h_lend⟩) rfl
          ?_ ?_ ⟨congrArg some h_record, rfl, rfl, [.yieldDeposited p (milestoneTotal a.milestones),
            .escrowCreated a.payer a.freelancer (milestoneTotal a.milestones) a.milestones], ?_⟩
        · exact (State.transfers_push_deposit (locked.putWorld w') p _).trans h_transfers
        · rw [← h_withdrawals]
          simp [lent, State.withdrawals, Effect.withdraw?]
        · exact List.append_assoc _ [_] [_]
  | submitWork i =>
      obtain ⟨h_run, d, h_stored, h_active, m, h_get, h_pending, h_auth, rfl⟩ := submitWork_ok.mp h
      exact .submit rfl h_run h_stored h_active h_get h_pending h_auth
        ⟨rfl, rfl, rfl, [_], rfl⟩
  | approve i =>
      obtain ⟨h_run, d, h_stored, m, h_get, h_submitted, h_auth, net, s₁, h_pay, rfl⟩ :=
        approve_ok.mp h
      exact .approve rfl h_run h_stored h_get h_submitted h_auth
        (payFreelancer_payment h_pay).of_atTime ⟨rfl, rfl, rfl, [_], rfl⟩
  | releaseRecurring =>
      obtain ⟨h_run, d, h_stored, h_interval, h_count, h_active, h_left, h_due, net, s₁, k, h_pay,
        h_next, rfl⟩ := releaseRecurring_ok.mp h
      exact .release rfl h_run h_stored h_interval h_count h_active h_left h_due
        (payFreelancer_payment h_pay).of_atTime h_next
        ⟨rfl, rfl, rfl, _, rfl⟩
  | cancel =>
      obtain ⟨h_run, d, h_stored, h_active, h_auth, x, hx, w, hw, rfl⟩ := cancel_ok.mp h
      -- the checked expression did not trap, so it is the exact refund
      obtain rfl := remaining_exact hx
      let refunded : State H := ((s.atTime t).putWorld w).push
        (.transfer ⟨d.token, H.currentContract, d.payer, refundOf d⟩)
      have h_world : H.transfer s.world d.token H.currentContract d.payer (refundOf d) =
        some refunded.world := hw
      exact .refund (.inl ⟨rfl, rfl⟩) h_run h_stored h_active h_auth h_world rfl rfl
        ⟨rfl, rfl, rfl, [_], rfl⟩
  | expire =>
      obtain ⟨h_run, d, h_stored, h_active, dl, h_dl, h_late, h_auth, x, hx, w, hw, rfl⟩ :=
        expire_ok.mp h
      obtain rfl := remaining_exact hx
      let refunded : State H := ((s.atTime t).putWorld w).push
        (.transfer ⟨d.token, H.currentContract, d.payer, refundOf d⟩)
      have h_world : H.transfer s.world d.token H.currentContract d.payer (refundOf d) =
        some refunded.world := hw
      exact .refund (.inr ⟨rfl, rfl, dl, h_dl, h_late⟩) h_run h_stored h_active h_auth h_world rfl
        rfl ⟨rfl, rfl, rfl, [_], rfl⟩
  | transferFreelancer f =>
      obtain ⟨h_run, d, h_stored, h_auth, rfl⟩ := transferFreelancer_ok.mp h
      exact .transferFreelancer rfl h_run h_stored h_auth
        ⟨rfl, rfl, rfl, [_], rfl⟩
  | transferPayer p =>
      obtain ⟨h_run, d, h_stored, h_auth, rfl⟩ := transferPayer_ok.mp h
      exact .transferPayer rfl h_run h_stored h_auth
        ⟨rfl, rfl, rfl, [_], rfl⟩
  | extendDeadline t' =>
      obtain ⟨h_run, d, h_stored, h_auth, dl, h_dl, h_later, rfl⟩ := extendDeadline_ok.mp h
      exact .extendDeadline rfl h_run h_stored h_auth h_dl h_later
        ⟨rfl, rfl, rfl, [_], rfl⟩

end StarEscrow.Escrow
