/-
  StarEscrow.Escrow.Journal

  The published events as a journal of the escrow.

  A reader who sees nothing but the events keeps the `View` below, and
  `View.read` refuses an event that contradicts it: a wrong party, a milestone
  that is not there or not in the right status, a payment of more than its
  milestone, a refund of another amount, a release out of sequence, anything
  about the deal while the contract is paused.  No run makes it refuse, and
  what it ends with is what the contract stores (`Knows`).

  Not everything is published: neither the token, the fee, the terms of the
  recurrence nor the first deadline can be read off the events.
-/

import StarEscrow.Lib.Journal
import StarEscrow.Escrow.Effects

namespace StarEscrow.Escrow

open Journal

variable {Address : Type}

def Effect.event? : Effect Address → Option (Event Address)
  | .event e => some e
  | _ => none

/-! ## What the events tell -/

/-- The part of the record that the events tell. -/
structure Deal (Address : Type) where
  payer : Address
  freelancer : Address
  totalAmount : Int
  milestones : List Milestone
  status : EscrowStatus
  releasesMade : UInt32
  deriving DecidableEq, Repr

def EscrowData.deal (d : EscrowData Address) : Deal Address where
  payer := d.payer
  freelancer := d.freelancer
  totalAmount := d.totalAmount
  milestones := d.milestones
  status := d.status
  releasesMade := d.releasesMade

/-- The loan to a yield protocol: whom to, and how much. -/
def EscrowData.loan (d : EscrowData Address) : Option (Address × Int) :=
  d.yieldProtocol.map fun p => (p, d.principalDeposited)

/-- What a reader of the events knows. -/
structure View (Address : Type) where
  paused : Bool
  /-- The admin, once there was a pause. -/
  admin : Option Address
  loan : Option (Address × Int)
  deal : Option (Deal Address)
  /-- The deadline, once it was extended. -/
  deadline : Option UInt64
  /-- What the last recurring release paid. -/
  lastRelease : Option Int
  deriving DecidableEq, Repr

def View.empty : View Address := ⟨false, none, none, none, none, none⟩

/-- The refund that is due on a deal. -/
def Deal.refund (d : Deal Address) : Int :=
  d.totalAmount - approvedTotal d.milestones + d.totalAmount * d.releasesMade.toNat

/-- An event about the deal: there has to be one, and the contract runs. -/
def View.turn (v : View Address) (f : Deal Address → Option (Deal Address)) :
    Option (View Address) :=
  if v.paused then none else (v.deal.bind f).map fun d => { v with deal := some d }

variable [DecidableEq Address]

/-- A submission by the freelancer. -/
def Deal.submit (d : Deal Address) (f : Address) (i : Nat) (description : String) :
    Option (Deal Address) :=
  d.milestones[i]?.bind fun m =>
    if d.status = .active ∧ d.freelancer = f ∧ m.description = description ∧ m.status = .pending then
      some { d with milestones := d.milestones.set i { m with status := .submitted } }
    else none

/-- An approval that pays the freelancer. -/
def Deal.approve (d : Deal Address) (f : Address) (i : Nat) (description : String) (x : Int) :
    Option (Deal Address) :=
  d.milestones[i]?.bind fun m =>
    if d.freelancer = f ∧ m.description = description ∧ m.status = .submitted ∧ 0 ≤ x ∧
        x ≤ m.amount then
      let milestones := d.milestones.set i { m with status := .approved }
      some { d with
        milestones := milestones
        status := if AllApproved milestones then .completed else d.status }
    else none

/-- A recurring release, numbered. -/
def Deal.release (d : Deal Address) (f : Address) (x : Int) (num : UInt32) :
    Option (Deal Address) :=
  if d.status = .active ∧ d.freelancer = f ∧ 0 ≤ x ∧ x ≤ d.totalAmount ∧
      num.toNat = d.releasesMade.toNat + 1 then
    some { d with releasesMade := num }
  else none

/-- The end of an active deal, by the last release or by a refund of what is due. -/
def Deal.close (d : Deal Address) (st : EscrowStatus) (c : Prop) [Decidable c] :
    Option (Deal Address) :=
  if d.status = .active ∧ c then some { d with status := st } else none

/-- What the reader makes of an event; `none` when it contradicts the view. -/
def View.read (v : View Address) : Event Address → Option (View Address)
  | .contractPaused a =>
      if v.admin.all (· = a) then some { v with paused := true, admin := some a } else none
  | .contractUnpaused a =>
      if v.admin.all (· = a) then some { v with paused := false, admin := some a } else none
  | .yieldDeposited p x =>
      if v.paused = false ∧ v.deal.isNone ∧ v.loan.isNone then some { v with loan := some (p, x) }
      else none
  | .escrowCreated p f x ms =>
      if v.paused = false ∧ v.deal.isNone ∧ x = milestoneTotal ms ∧ 0 < x ∧
          v.loan.all (·.2 = x) then
        some { v with deal := some ⟨p, f, x, ms, .active, 0⟩ }
      else none
  | .milestoneSubmitted f i description => v.turn fun d => d.submit f i description
  | .milestoneApproved f i description x => v.turn fun d => d.approve f i description x
  | .recurringReleased f x num =>
      (v.turn fun d => d.release f x num).map fun v => { v with lastRelease := some x }
  | .paymentReleased f x =>
      v.turn fun d => d.close .completed (d.freelancer = f ∧ v.lastRelease = some x)
  | .escrowCancelled p x => v.turn fun d => d.close .cancelled (d.payer = p ∧ x = d.refund)
  | .escrowExpired p x => v.turn fun d => d.close .expired (d.payer = p ∧ x = d.refund)
  | .freelancerTransferred old new => v.turn fun d =>
      if d.freelancer = old then some { d with freelancer := new } else none
  | .payerTransferred old new => v.turn fun d =>
      if d.payer = old then some { d with payer := new } else none
  | .deadlineExtended old new =>
      if v.paused = false ∧ v.deal.isSome ∧ old < new ∧ v.deadline.all (· = old) then
        some { v with deadline := some new }
      else none

variable {H : Host Address}

/-- The events the contract has published so far. -/
def State.events (s : State H) : List (Event Address) := s.log.filterMap Effect.event?

/-- The view is right about the state. -/
structure Knows (s : State H) (v : View Address) : Prop where
  paused : v.paused = s.paused
  admin : ∀ a ∈ v.admin, ∃ c ∈ s.storage.config, c.admin = a
  loan : v.loan = s.storage.escrow.bind EscrowData.loan
  deal : v.deal = s.storage.escrow.map EscrowData.deal
  deadline : ∀ t ∈ v.deadline, ∃ d ∈ s.storage.escrow, d.deadline = some t
  wellFormed : ∀ d ∈ s.storage.escrow, WellFormed d

/-! ## What the reader makes of a record's changes -/

section Deals

variable {d : EscrowData Address} {i : Nat} {m : Milestone}

theorem deal_submit (h_active : d.status = .active) (h_get : d.milestones[i]? = some m)
    (h_pending : m.status = .pending) :
    d.deal.submit d.freelancer i m.description = some (d.withSubmitted i m).deal := by
  have h_get' : d.deal.milestones[i]? = some m := h_get
  rw [Deal.submit, h_get', Option.bind_some]
  exact if_pos ⟨h_active, rfl, rfl, h_pending⟩

theorem deal_approve {x : Int} (h_get : d.milestones[i]? = some m)
    (h_submitted : m.status = .submitted) (h_nonneg : 0 ≤ x) (h_le : x ≤ m.amount) :
    d.deal.approve d.freelancer i m.description x = some (d.withApproved i m).deal := by
  have h_get' : d.deal.milestones[i]? = some m := h_get
  rw [Deal.approve, h_get', Option.bind_some]
  exact if_pos ⟨rfl, rfl, h_submitted, h_nonneg, h_le⟩

/-- The first of the two events of a release. -/
theorem deal_release {x : Int} {num : UInt32} (h_active : d.status = .active) (h_nonneg : 0 ≤ x)
    (h_le : x ≤ d.totalAmount) (h_num : num.toNat = d.releasesMade.toNat + 1) :
    d.deal.release d.freelancer x num = some { d.deal with releasesMade := num } :=
  if_pos ⟨h_active, rfl, h_nonneg, h_le, h_num⟩

omit [DecidableEq Address] in
theorem deal_refund (h : WellFormed d) : d.deal.refund = refundOf d := (refundOf_eq h.counter).symm

omit [DecidableEq Address] in
/-- What is left of a gross payment is at most the payment. -/
theorem netOf_le (config : Option (ProtocolConfig Address)) {gross : Int} (h : 0 ≤ gross) :
    netOf config gross ≤ gross := by
  have h_fee := feeOf_nonneg config h
  unfold netOf
  omega

end Deals

theorem Knows.turn {s : State H} {v : View Address} {d : EscrowData Address} {x : Deal Address}
    {f : Deal Address → Option (Deal Address)} (h : Knows s v) (h_run : s.paused = false)
    (h_stored : s.storage.escrow = some d) (h_f : f d.deal = some x) :
    v.turn f = some { v with deal := some x } := by
  have h_deal : v.deal = some d.deal := by rw [h.deal, h_stored, Option.map_some]
  rw [View.turn, h.paused, h_run, h_deal, Option.bind_some, h_f]
  rfl

/-- A view that is right stays so when it takes over the new deal of the record. -/
theorem Knows.store {s s₁ s' : State H} {v : View Address} {d d' : EscrowData Address}
    (h : Knows s v) (h_stored : s.storage.escrow = some d) (h_stores : Stores s₁ d' s')
    (h_config : s₁.storage.config = s.storage.config) (h_loan : d'.loan = d.loan)
    (h_deadline : d'.deadline = d.deadline) (h_wf : WellFormed d') (x : Option Int) :
    Knows s' { v with deal := some d'.deal, lastRelease := x } where
  paused := by
    rw [h.paused, State.paused, State.paused, h_stores.config, h_config]
  admin := by
    rw [h_stores.config, h_config]
    exact h.admin
  loan := by
    rw [h_stores.escrow, Option.bind_some, h_loan, h.loan, h_stored, Option.bind_some]
  deal := by rw [h_stores.escrow, Option.map_some]
  deadline := by
    intro t h_t
    obtain ⟨d₀, h_d₀, h_dl⟩ := h.deadline t h_t
    rw [h_stored, Option.mem_some] at h_d₀
    subst h_d₀
    exact ⟨d', h_stores.escrow, h_deadline.trans h_dl⟩
  wellFormed := by
    rw [h_stores.escrow]
    rintro d'' ⟨⟩
    exact h_wf

/-- Nothing published, and nothing changed that the events tell. -/
theorem Knows.same {s s' : State H} {v : View Address} (h : Knows s v)
    (h_config : s'.storage.config = s.storage.config)
    (h_escrow : s'.storage.escrow = s.storage.escrow) : Knows s' v where
  paused := by rw [h.paused, State.paused, State.paused, h_config]
  admin := by
    rw [h_config]
    exact h.admin
  loan := by rw [h.loan, h_escrow]
  deal := by rw [h.deal, h_escrow]
  deadline := by
    rw [h_escrow]
    exact h.deadline
  wellFormed := by
    rw [h_escrow]
    exact h.wellFormed

/-! ## One step -/

/-- The net amount of an approval that returns is not negative. -/
theorem Call.approve_net {c : Call Address} {s s' : State H} {i : Nat} {d : EscrowData Address}
    {m : Milestone} (h : c.run s = .ok s') (h_op : c.op = .approve i)
    (h_stored : s.storage.escrow = some d) (h_get : d.milestones[i]? = some m) :
    0 ≤ netOf s.storage.config m.amount := by
  rw [Call.run_ok, h_op] at h
  obtain ⟨-, d', h_d', m', h_get', -, -, net, s₁, h_pay, -⟩ := approve_ok.mp h
  rw [State.atTime_storage, h_stored, Option.some.injEq] at h_d'
  subst h_d'
  rw [h_get, Option.some.injEq] at h_get'
  subst h_get'
  obtain ⟨rfl, h_nonneg⟩ := payFreelancer_net h_pay
  exact h_nonneg

/-- The net amount of a release that returns is not negative. -/
theorem Call.release_net {c : Call Address} {s s' : State H} {d : EscrowData Address}
    (h : c.run s = .ok s') (h_op : c.op = .releaseRecurring)
    (h_stored : s.storage.escrow = some d) : 0 ≤ netOf s.storage.config d.amount := by
  rw [Call.run_ok, h_op] at h
  obtain ⟨-, d', h_d', -, -, -, -, -, net, s₁, k, h_pay, -, -⟩ := releaseRecurring_ok.mp h
  rw [State.atTime_storage, h_stored, Option.some.injEq] at h_d'
  subst h_d'
  obtain ⟨rfl, h_nonneg⟩ := payFreelancer_net h_pay
  exact h_nonneg

/-! ### The events of an operation -/

def Op.events (H : Host Address) (st : Storage Address) (op : Op Address) : List (Event Address) :=
  (op.effects H st).filterMap Effect.event?

omit [DecidableEq Address] in
theorem filterMap_event?_transfers (ts : List (Transfer Address)) :
    (ts.map Effect.transfer).filterMap Effect.event? = [] := by
  induction ts with
  | nil => rfl
  | cons t ts ih => exact ih

section Events

variable {st : Storage Address} {d : EscrowData Address} {i : Nat} {m : Milestone}

theorem events_pausing {cfg : ProtocolConfig Address} (h : st.config = some cfg) (b : Bool) :
    Op.events H st (if b then .pause else .unpause) =
      [if b then .contractPaused cfg.admin else .contractUnpaused cfg.admin] := by
  cases b <;> simp [Op.events, Op.effects, h, Effect.event?]

theorem events_create (a : CreateArgs Address) :
    Op.events H st (.create a) =
      (a.yieldProtocol.toList.map fun p => .yieldDeposited p (milestoneTotal a.milestones)) ++
        [.escrowCreated a.payer a.freelancer (milestoneTotal a.milestones) a.milestones] := by
  cases h : a.yieldProtocol with
  | none =>
      simp only [Op.events, Op.effects, h]
      rfl
  | some p =>
      simp only [Op.events, Op.effects, h]
      rfl

theorem events_submitWork (h : st.escrow = some d) (h_get : d.milestones[i]? = some m) :
    Op.events H st (.submitWork i) = [.milestoneSubmitted d.freelancer i m.description] := by
  simp [Op.events, Op.effects, h, h_get, Effect.event?]

theorem events_approve (h : st.escrow = some d) (h_get : d.milestones[i]? = some m) :
    Op.events H st (.approve i) =
      [.milestoneApproved d.freelancer i m.description (netOf st.config m.amount)] := by
  simp only [Op.events, Op.effects, h, h_get, Option.toList_some, List.flatMap_singleton,
    List.filterMap_append, filterMap_event?_transfers, List.nil_append]
  rfl

theorem events_releaseRecurring (h : st.escrow = some d) :
    Op.events H st .releaseRecurring =
      .recurringReleased d.freelancer (netOf st.config d.amount) (d.releasesMade + 1) ::
        if d.recurrenceCount ≤ d.releasesMade + 1 then
          [.paymentReleased d.freelancer (netOf st.config d.amount)]
        else [] := by
  simp only [Op.events, Op.effects, h, Option.toList_some, List.flatMap_singleton,
    List.filterMap_append, filterMap_event?_transfers, List.nil_append]
  split <;> rfl

theorem events_cancel (h : st.escrow = some d) :
    Op.events H st .cancel = [.escrowCancelled d.payer (refundOf d)] := by
  simp only [Op.events, Op.effects, h, Option.toList_some, List.flatMap_singleton]
  rfl

theorem events_expire (h : st.escrow = some d) :
    Op.events H st .expire = [.escrowExpired d.payer (refundOf d)] := by
  simp only [Op.events, Op.effects, h, Option.toList_some, List.flatMap_singleton]
  rfl

theorem events_transferFreelancer (h : st.escrow = some d) (f : Address) :
    Op.events H st (.transferFreelancer f) = [.freelancerTransferred d.freelancer f] := by
  simp [Op.events, Op.effects, h, Effect.event?]

theorem events_transferPayer (h : st.escrow = some d) (p : Address) :
    Op.events H st (.transferPayer p) = [.payerTransferred d.payer p] := by
  simp [Op.events, Op.effects, h, Effect.event?]

theorem events_extendDeadline {t : UInt64} (h : st.escrow = some d) (h_dl : d.deadline = some t)
    (t' : UInt64) : Op.events H st (.extendDeadline t') = [.deadlineExtended t t'] := by
  simp [Op.events, Op.effects, h, h_dl, Effect.event?]

end Events

/-! ### The reader -/

/-- The reader follows every call that returns. -/
theorem Call.told {c : Call Address} {s s' : State H} {v : View Address} (h_run : c.run s = .ok s')
    (h : Knows s v) :
    ∃ v', replay View.read v (c.op.events H s.storage) = some v' ∧ Knows s' v' := by
  have h_change := Call.change h_run
  -- the new record of a stored one is well formed again
  have h_wf {d d' : EscrowData Address} (h_d : s.storage.escrow = some d)
      (h_d' : s'.storage.escrow = some d') : WellFormed d' := by
    obtain ⟨d'', h_d'', h_move⟩ := h_change.move h_d
    rw [h_d', Option.some.injEq] at h_d''
    exact h_d'' ▸ h_move.wellFormed (h.wellFormed d h_d)
  have h_loan {d d' : EscrowData Address} (h_d : s.storage.escrow = some d)
      (h_d' : s'.storage.escrow = some d') : d'.loan = d.loan := by
    obtain ⟨d'', h_d'', h_move⟩ := h_change.move h_d
    rw [h_d', Option.some.injEq] at h_d''
    subst h_d''
    rw [EscrowData.loan, EscrowData.loan, h_move.descends.yieldProtocol,
      h_move.descends.principalDeposited]
  cases h_change with
  | init h_op h_none _ h_config h_same =>
      refine ⟨v, by rw [h_op]; rfl, ?_, ?_, ?_, ?_, ?_, ?_⟩
      · rw [h.paused, State.paused, State.paused, h_none, h_config]
        rfl
      · -- without a config there was no pause to learn an admin from
        intro x h_x
        obtain ⟨cfg, h_cfg, -⟩ := h.admin x h_x
        rw [h_none] at h_cfg
        cases h_cfg
      · rw [h.loan, h_same.escrow]
      · rw [h.deal, h_same.escrow]
      · rw [h_same.escrow]
        exact h.deadline
      · rw [h_same.escrow]
        exact h.wellFormed
  | @pausing cfg b h_op h_stored _ h_config h_same =>
      have h_admin : v.admin.all (· = cfg.admin) = true := by
        rw [Option.all_eq_true]
        intro x h_x
        obtain ⟨cfg', h_cfg', h_eq⟩ := h.admin x h_x
        rw [h_stored, Option.mem_some] at h_cfg'
        exact decide_eq_true (h_cfg' ▸ h_eq.symm)
      refine ⟨{ v with paused := b, admin := some cfg.admin }, ?_, ?_, ?_, ?_, ?_, ?_, ?_⟩
      · rw [h_op, events_pausing h_stored, replay_one]
        cases b <;> exact if_pos h_admin
      · rw [State.paused, h_config]
        rfl
      · rintro x ⟨⟩
        exact ⟨_, h_config, rfl⟩
      · rw [h_same.escrow]
        exact h.loan
      · rw [h_same.escrow]
        exact h.deal
      · rw [h_same.escrow]
        exact h.deadline
      · rw [h_same.escrow]
        exact h.wellFormed
  | @create a s₁ w h_op h_free h_new h_accepted _ _ _ h_config _ _ h_stores =>
      have h_sound := h_accepted.sound c.timestamp
      have h_paused : v.paused = false := by rw [h.paused, h_free]
      have h_deal : v.deal.isNone = true := by rw [h.deal, h_new]; rfl
      have h_none : v.loan = none := by rw [h.loan, h_new]; rfl
      refine ⟨{ v with
        loan := (a.stored c.timestamp).loan, deal := some (a.stored c.timestamp).deal },
        ?_, ?_, ?_, ?_, ?_, ?_, ?_⟩
      · rw [h_op, events_create]
        cases h_yield : a.yieldProtocol with
        | none =>
            have h_loan : (a.stored c.timestamp).loan = v.loan := by
              rw [h_none, EscrowData.loan, CreateArgs.stored]
              simp [CreateArgs.record, h_yield]
            rw [h_loan]
            refine replay_one.trans (if_pos ⟨h_paused, h_deal, rfl, h_sound.total_pos, ?_⟩)
            rw [h_none]
            rfl
        | some p =>
            have h_loan : (a.stored c.timestamp).loan =
                some (p, milestoneTotal a.milestones) := by
              rw [EscrowData.loan, CreateArgs.stored]
              simp [CreateArgs.record, h_yield]
            -- the loan is announced before the escrow
            rw [h_loan, Option.toList_some, List.map_singleton, List.singleton_append, replay_cons]
            refine ⟨_, if_pos ⟨h_paused, h_deal, by rw [h_none]; rfl⟩, replay_one.trans ?_⟩
            exact if_pos ⟨h_paused, h_deal, rfl, h_sound.total_pos, decide_eq_true rfl⟩
      · show v.paused = _
        rw [h.paused, State.paused, State.paused, h_stores.config, h_config]
      · rw [h_stores.config, h_config]
        exact h.admin
      · rw [h_stores.escrow, Option.bind_some]
      · rw [h_stores.escrow, Option.map_some]
      · intro x h_x
        obtain ⟨d, h_d, -⟩ := h.deadline x h_x
        rw [h_new] at h_d
        cases h_d
      · rw [h_stores.escrow]
        rintro d ⟨⟩
        exact ⟨h_sound, fun _ => rfl, .inl rfl⟩
  | @submit i d m h_op h_free h_d h_active h_get h_pending _ h_stores =>
      refine ⟨_, ?_, h.store h_d h_stores rfl (h_loan h_d h_stores.escrow) rfl
        (h_wf h_d h_stores.escrow) v.lastRelease⟩
      rw [h_op, events_submitWork h_d h_get, replay_one]
      exact h.turn h_free h_d (deal_submit h_active h_get h_pending)
  | @approve i d m s₁ h_op h_free h_d h_get h_submitted _ h_pay h_stores =>
      have h_pos := (h.wellFormed d h_d).sound.positive m (List.mem_of_getElem? h_get)
      have h_net := Call.approve_net h_run h_op h_d h_get
      refine ⟨_, ?_, h.store h_d h_stores (congrArg _ h_pay.storage) (h_loan h_d h_stores.escrow)
        rfl (h_wf h_d h_stores.escrow) v.lastRelease⟩
      rw [h_op, events_approve h_d h_get, replay_one]
      exact h.turn h_free h_d (deal_approve h_get h_submitted h_net (netOf_le _ h_pos.le))
  | @release d k s₁ h_op h_free h_d _ _ h_active _ _ h_pay h_next h_stores =>
      have h_pos := (h.wellFormed d h_d).sound.total_pos
      have h_net := Call.release_net h_run h_op h_d
      have h_k : d.releasesMade + 1 = k := by
        have h_lt := k.toNat_lt
        apply UInt32.toNat_inj.mp
        rw [h_next, UInt32.toNat_add, UInt32.toNat_one, Nat.mod_eq_of_lt (by omega)]
      refine ⟨_, ?_, h.store h_d h_stores (congrArg _ h_pay.storage) (h_loan h_d h_stores.escrow)
        rfl (h_wf h_d h_stores.escrow) (some (netOf s.storage.config d.amount))⟩
      have h_turn := h.turn (f := fun x => x.release d.freelancer (netOf s.storage.config d.amount) k)
        h_free h_d (deal_release h_active h_net (netOf_le _ h_pos.le) h_next)
      have h_read : v.read (.recurringReleased d.freelancer (netOf s.storage.config d.amount) k) =
          some { v with
            deal := some { d.deal with releasesMade := k }
            lastRelease := some (netOf s.storage.config d.amount) } := by
        rw [View.read, h_turn]
        rfl
      rw [h_op, events_releaseRecurring h_d, h_k, replay_cons]
      refine ⟨_, h_read, ?_⟩
      by_cases h_last : d.recurrenceCount ≤ k
      · -- the last release is announced a second time, and closes the deal
        rw [if_pos h_last, replay_one, View.read, View.turn, h.paused, h_free]
        simp [Deal.close, EscrowData.deal, EscrowData.withRelease, h_active, h_last]
      · rw [if_neg h_last]
        simp [EscrowData.deal, EscrowData.withRelease, h_last]
  | @refund d st s₁ h_op h_free h_d h_active _ _ h_storage _ h_stores =>
      refine ⟨_, ?_, h.store h_d h_stores (congrArg _ h_storage) (h_loan h_d h_stores.escrow)
        rfl (h_wf h_d h_stores.escrow) v.lastRelease⟩
      have h_due := (deal_refund (h.wellFormed d h_d)).symm
      rcases h_op with ⟨h_op, rfl⟩ | ⟨h_op, rfl, -⟩
      · rw [h_op, events_cancel h_d, replay_one]
        exact h.turn h_free h_d (if_pos ⟨h_active, rfl, h_due⟩)
      · rw [h_op, events_expire h_d, replay_one]
        exact h.turn h_free h_d (if_pos ⟨h_active, rfl, h_due⟩)
  | @transferFreelancer d f h_op h_free h_d _ h_stores =>
      refine ⟨_, ?_, h.store h_d h_stores rfl (h_loan h_d h_stores.escrow) rfl
        (h_wf h_d h_stores.escrow) v.lastRelease⟩
      rw [h_op, events_transferFreelancer h_d, replay_one]
      exact h.turn h_free h_d (if_pos rfl)
  | @transferPayer d p h_op h_free h_d _ h_stores =>
      refine ⟨_, ?_, h.store h_d h_stores rfl (h_loan h_d h_stores.escrow) rfl
        (h_wf h_d h_stores.escrow) v.lastRelease⟩
      rw [h_op, events_transferPayer h_d, replay_one]
      exact h.turn h_free h_d (if_pos rfl)
  | @extendDeadline d t t' h_op h_free h_d _ h_deadline h_later h_stores =>
      refine ⟨{ v with deadline := some t' }, ?_, ?_, ?_, ?_, ?_, ?_, ?_⟩
      · rw [h_op, events_extendDeadline h_d h_deadline, replay_one]
        refine if_pos ⟨by rw [h.paused, h_free], by rw [h.deal, h_d]; rfl, h_later, ?_⟩
        rw [Option.all_eq_true]
        intro x h_x
        obtain ⟨d₀, h_d₀, h_dl⟩ := h.deadline x h_x
        rw [h_d, Option.mem_some] at h_d₀
        rw [← h_d₀, h_deadline, Option.some.injEq] at h_dl
        exact decide_eq_true h_dl.symm
      · show v.paused = _
        rw [h.paused, State.paused, State.paused, h_stores.config]
      · rw [h_stores.config]
        exact h.admin
      · rw [h_stores.escrow, Option.bind_some, h_loan h_d h_stores.escrow, h.loan, h_d,
          Option.bind_some]
      · show v.deal = _
        rw [h_stores.escrow, h.deal, h_d]
        rfl
      · rintro x ⟨⟩
        exact ⟨_, h_stores.escrow, rfl⟩
      · intro d' h_d'
        exact h_wf h_d h_d'

/-! ## Runs -/

/-- The reader of the events keeps up with the contract. -/
theorem tracks_events (H : Host Address) : Tracks Step (State.events (H := H)) View.read Knows where
  step := by
    intro s s' l v h_step h
    cases h_step with
    | returned _ h_run =>
        obtain ⟨v', h_replay, h_right⟩ := Call.told h_run h
        refine ⟨_, v', ?_, h_replay, h_right⟩
        rw [State.events, (Call.did h_run).1, List.filterMap_append]
        rfl
    | aborted => exact ⟨[], v, (List.append_nil _).symm, rfl, h.same rfl rfl⟩
    | outside => exact ⟨[], v, (List.append_nil _).symm, rfl, h.same rfl rfl⟩

theorem State.Initial.knows {s : State H} (h : s.Initial) : Knows s .empty := by
  obtain ⟨h_config, h_escrow, -, -⟩ := h
  refine ⟨?_, by simp [View.empty], ?_, ?_, by simp [View.empty], by simp [h_escrow]⟩
  · rw [State.paused, h_config]
    rfl
  · rw [h_escrow]
    rfl
  · rw [h_escrow]
    rfl

/-- **The events tell the deal.**  No event of a reachable state contradicts those before it, and
    together they tell whether the contract is paused, the loan, the parties, the total, every
    milestone with its status, the status of the escrow and the number of releases. -/
theorem events_replay {s : State H} (h : Reachable s) :
    ∃ v, replay View.read .empty s.events = some v ∧ Knows s v := by
  obtain ⟨s₀, tr, h_init, h_run⟩ := h
  exact (tracks_events H).run h_run (congrArg _ h_init.2.2.2) h_init.knows

theorem events_replay_partlyPaid :
    ∃ v, replay View.read .empty
        (play Sample.partlyPaid (Sample.opened 100 0 Sample.twoParts)).events = some v ∧
      Knows (play Sample.partlyPaid (Sample.opened 100 0 Sample.twoParts)) v :=
  events_replay ((Sample.opened_reachable (by decide)).run (run_play (by decide)))

/-- **The same events, the same deal.**  Two instances that have published the same events, under
    whatever hosts, agree on the pause, the loan and everything the events tell of the record. -/
theorem same_events_same_deal {H H' : Host Address} {s : State H} {s' : State H'}
    (h : Reachable s) (h' : Reachable s') (h_events : s.events = s'.events) :
    s.paused = s'.paused ∧
      s.storage.escrow.bind EscrowData.loan = s'.storage.escrow.bind EscrowData.loan ∧
      s.storage.escrow.map EscrowData.deal = s'.storage.escrow.map EscrowData.deal := by
  obtain ⟨s₀, tr, h_init, h_run⟩ := h
  obtain ⟨s₀', tr', h_init', h_run'⟩ := h'
  obtain ⟨v, h_v, h_v'⟩ := (tracks_events H).agree (tracks_events H') h_run
    (congrArg _ h_init.2.2.2) h_init.knows h_run' (congrArg _ h_init'.2.2.2) h_init'.knows h_events
  refine ⟨?_, ?_, ?_⟩
  · rw [← h_v.paused, h_v'.paused]
  · rw [← h_v.loan, h_v'.loan]
  · rw [← h_v.deal, h_v'.deal]

/-- The payer's and the contract's balances before do not show in the events. -/
theorem same_events_same_deal_partlyPaid :
    let s := play Sample.partlyPaid (Sample.opened 100 0 Sample.twoParts)
    let s' := play Sample.partlyPaid (Sample.opened 300 7 Sample.twoParts)
    s.paused = s'.paused ∧
      s.storage.escrow.bind EscrowData.loan = s'.storage.escrow.bind EscrowData.loan ∧
      s.storage.escrow.map EscrowData.deal = s'.storage.escrow.map EscrowData.deal :=
  same_events_same_deal ((Sample.opened_reachable (by decide)).run (run_play (by decide)))
    ((Sample.opened_reachable (by decide)).run (run_play (by decide))) (by decide)

/-- A refund of anything but the rest is refused. -/
example : replay View.read (View.empty : View Nat)
    [.escrowCreated 1 2 100 (Sample.pending [60, 40]), .escrowCancelled 1 99] = none := by decide

end StarEscrow.Escrow
