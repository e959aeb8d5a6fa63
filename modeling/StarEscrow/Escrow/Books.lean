/-
  StarEscrow.Escrow.Books

  The books of an escrow (its milestones, its release counter, its status) and
  the steps that write them.

  Once a record is stored, `create` is blocked, so a step writes the books in
  one of four ways (`Move.submit`, `.approve`, `.release`, `.refund`) or not at
  all (`Move.quiet`: configuration, roles, the deadline, a failed call, the
  rest of the ledger).  `Run.deal` and `Run.dealHistory` turn what each of the
  five preserves into what a run preserves.
-/

import StarEscrow.Escrow.Record

namespace StarEscrow.Escrow

/-- The operations that write the books. -/
def Op.onBooks {Address : Type} : Op Address → Bool
  | .create _ | .submitWork _ | .approve _ | .releaseRecurring | .cancel | .expire => true
  | .init _ _ _ | .pause | .unpause | .transferFreelancer _ | .transferPayer _
  | .extendDeadline _ => false

variable {Address : Type} [DecidableEq Address] {H : Host Address}

/-! ## What a step does to the money -/

/-- Nothing moved, neither through a token nor through a yield protocol. -/
structure Unpaid (s s' : State H) : Prop where
  transfers : s'.transfers = s.transfers
  withdrawals : s'.withdrawals = s.withdrawals

/-- `gross` was paid out, the fee to the collector and the rest to the freelancer. -/
structure Paid (s s' : State H) (token freelancer : Address) (gross : Int) : Prop where
  transfers : s'.transfers = s.transfers ++ payouts H s.storage.config token freelancer gross
  withdrawals : s'.withdrawals = s.withdrawals
  funds : 0 ≤ gross → freelancer ≠ H.currentContract →
    (∀ c ∈ s.storage.config, c.feeCollector ≠ H.currentContract) →
      gross ≤ s.funds token ∧ s'.funds token = s.funds token - gross

/-- The refund of `d` went to its payer. -/
structure Refunded (s s' : State H) (d : EscrowData Address) : Prop where
  transfers : s'.transfers = s.transfers ++ [⟨d.token, H.currentContract, d.payer, refundOf d⟩]
  withdrawals : s'.withdrawals = s.withdrawals
  moved : H.transfer s.world d.token H.currentContract d.payer (refundOf d) = some s'.world

theorem Publishes.unpaid {s s' : State H} (h : Publishes s s') : Unpaid s s' :=
  ⟨h.transfers, h.withdrawals⟩

theorem Payment.withdrawals {s s₁ : State H} {token freelancer : Address} {gross : Int}
    (h : Payment s s₁ token freelancer gross) : s₁.withdrawals = s.withdrawals := by
  have h_none (ts : List (Transfer Address)) :
      (ts.map Effect.transfer).filterMap Effect.withdraw? = [] := by
    simp [Function.comp_def, Effect.withdraw?]
  rw [State.withdrawals, h.log, List.filterMap_append, h_none, List.append_nil, State.withdrawals]

theorem Payment.paid {s s₁ s' : State H} {d : EscrowData Address} {token freelancer : Address}
    {gross : Int} (h : Payment s s₁ token freelancer gross) (h_stores : Stores s₁ d s') :
    Paid s s' token freelancer gross where
  transfers := by rw [h_stores.events.transfers, h.transfers]
  withdrawals := by rw [h_stores.events.withdrawals, h.withdrawals]
  funds := by
    intro h_gross h_free h_coll
    rw [State.funds_congr h_stores.world]
    exact h.funds h_gross h_free h_coll

theorem Unpaid.paidOut {s s' : State H} (h : Unpaid s s') (token : Address) :
    s'.paidOut token = s.paidOut token :=
  State.paidOut_congr h.transfers token

theorem Paid.paidOut {s s' : State H} {token freelancer : Address} {gross : Int}
    (h : Paid s s' token freelancer gross) (h_gross : 0 ≤ gross) :
    s'.paidOut token = s.paidOut token + gross := by
  rw [State.paidOut_append h.transfers token payouts_out, payouts_sum _ _ _ h_gross]

theorem Refunded.paidOut {s s' : State H} {d : EscrowData Address} (h : Refunded s s' d) :
    s'.paidOut d.token = s.paidOut d.token + refundOf d := by
  rw [State.paidOut_append h.transfers d.token (by simp)]
  simp

theorem Refunded.funds {s s' : State H} {d : EscrowData Address} (h : Refunded s s' d)
    (h_payer : d.payer ≠ H.currentContract) :
    s'.funds d.token = s.funds d.token - refundOf d :=
  H.balance_src h.moved h_payer

/-! ## The checks before money moves -/

/-- The checks `approve`, `release_recurring`, `cancel` and `expire` make before their first
    transfer. -/
def Op.Admitted (op : Op Address) (now : UInt64) (auth : Address → Bool) (d : EscrowData Address) :
    Prop :=
  match op with
  | .approve i => (∃ m ∈ d.milestones[i]?, m.status = .submitted) ∧ auth d.payer = true
  | .releaseRecurring =>
      d.interval ≠ 0 ∧ d.recurrenceCount ≠ 0 ∧ d.status = .active ∧
        d.releasesMade < d.recurrenceCount ∧
        d.lastReleaseTime.toNat + d.interval.toNat ≤ now.toNat
  | .cancel => d.status = .active ∧ auth d.payer = true
  | .expire => d.status = .active ∧ auth d.payer = true ∧ ∃ t ∈ d.deadline, t < now
  | _ => False

instance (op : Op Address) (now : UInt64) (auth : Address → Bool) (d : EscrowData Address) :
    Decidable (op.Admitted now auth d) :=
  match op with
  | .approve i => inferInstanceAs
      (Decidable ((∃ m ∈ d.milestones[i]?, m.status = .submitted) ∧ auth d.payer = true))
  | .releaseRecurring => inferInstanceAs (Decidable (d.interval ≠ 0 ∧ d.recurrenceCount ≠ 0 ∧
      d.status = .active ∧ d.releasesMade < d.recurrenceCount ∧
      d.lastReleaseTime.toNat + d.interval.toNat ≤ now.toNat))
  | .cancel => inferInstanceAs (Decidable (d.status = .active ∧ auth d.payer = true))
  | .expire => inferInstanceAs
      (Decidable (d.status = .active ∧ auth d.payer = true ∧ ∃ t ∈ d.deadline, t < now))
  | .init _ _ _ | .pause | .unpause | .create _ | .submitWork _ | .transferFreelancer _
  | .transferPayer _ | .extendDeadline _ => inferInstanceAs (Decidable False)

/-- The call finds the contract running and passes these checks. -/
def Call.Admitted (c : Call Address) (s : State H) (d : EscrowData Address) : Prop :=
  s.paused = false ∧ c.op.Admitted c.timestamp c.auth d

instance (c : Call Address) (s : State H) (d : EscrowData Address) : Decidable (c.Admitted s d) :=
  inferInstanceAs (Decidable (_ ∧ _))

/-- The checks of `cancel` and of `expire`, together. -/
theorem Call.admitted_of_refund {c : Call Address} {s : State H} {d : EscrowData Address}
    (h_run : s.paused = false) (h_active : d.status = .active) (h_auth : c.auth d.payer = true)
    (h_op : c.op = .cancel ∨ c.op = .expire ∧ ∃ t ∈ d.deadline, t < c.timestamp) :
    c.Admitted s d := by
  refine ⟨h_run, ?_⟩
  rcases h_op with h_cancel | ⟨h_expire, h_late⟩
  · rw [h_cancel]
    exact ⟨h_active, h_auth⟩
  · rw [h_expire]
    exact ⟨h_active, h_auth, h_late⟩

/-! ## The five kinds of step -/

/-- What a step from a state that stores `d` does to the books, and the record it leaves. -/
inductive Move (s : State H) (l : Label Address) (s' : State H) (d : EscrowData Address) :
    EscrowData Address → Prop
  | quiet {p f : Address} {t : Option UInt64}
      (h_quiet : ∀ c, l = .returned c → c.op.onBooks = false) (h_unpaid : Unpaid s s')
      (h_world : l ≠ .outside → s'.world = s.world) :
      Move s l s' d { d with payer := p, freelancer := f, deadline := t }
  | submit {c : Call Address} {i : Nat} {m : Milestone} (h_label : l = .returned c)
      (h_op : c.op = .submitWork i) (h_active : d.status = .active)
      (h_get : d.milestones[i]? = some m) (h_pending : m.status = .pending)
      (h_auth : c.auth d.freelancer = true) (h_unpaid : Unpaid s s') (h_world : s'.world = s.world) :
      Move s l s' d (d.withSubmitted i m)
  | approve {c : Call Address} {i : Nat} {m : Milestone} (h_label : l = .returned c)
      (h_op : c.op = .approve i) (h_get : d.milestones[i]? = some m)
      (h_submitted : m.status = .submitted) (h_admitted : c.Admitted s d)
      (h_auth : c.auth d.payer = true) (h_paid : Paid s s' d.token d.freelancer m.amount) :
      Move s l s' d (d.withApproved i m)
  | release {c : Call Address} {k : UInt32} (h_label : l = .returned c)
      (h_op : c.op = .releaseRecurring) (h_count : d.recurrenceCount ≠ 0)
      (h_active : d.status = .active) (h_left : d.releasesMade < d.recurrenceCount)
      (h_due : d.lastReleaseTime.toNat + d.interval.toNat ≤ c.timestamp.toNat)
      (h_admitted : c.Admitted s d) (h_paid : Paid s s' d.token d.freelancer d.amount)
      (h_next : k.toNat = d.releasesMade.toNat + 1) :
      Move s l s' d (d.withRelease k c.timestamp)
  | refund {c : Call Address} {st : EscrowStatus} (h_label : l = .returned c)
      (h_op : c.op = .cancel ∧ st = .cancelled ∨ c.op = .expire ∧ st = .expired)
      (h_active : d.status = .active) (h_admitted : c.Admitted s d)
      (h_auth : c.auth d.payer = true) (h_refunded : Refunded s s' d) :
      Move s l s' d { d with status := st }

/-- A change that stores `d'` right away moves nothing. -/
theorem Stores.unpaid {s s' : State H} {d : EscrowData Address} (h : Stores s d s') : Unpaid s s' :=
  h.events.unpaid

theorem Change.move {s s' : State H} {c : Call Address} {d : EscrowData Address}
    (h : Change s c s') (h_stored : s.storage.escrow = some d) :
    ∃ d', s'.storage.escrow = some d' ∧ Move s (.returned c) s' d d' := by
  have h_same {d' : EscrowData Address} (h' : s.storage.escrow = some d') : d = d' := by
    rw [h_stored] at h'
    exact Option.some.inj h'
  have h_quiet (h_op : c.op.onBooks = false) (c' : Call Address)
      (h_c : Label.returned c = .returned c') : c'.op.onBooks = false := by
    cases h_c
    exact h_op
  cases h with
  | init h_op _ _ _ h_deal =>
      refine ⟨d, h_deal.escrow.trans h_stored, ?_⟩
      exact .quiet (h_quiet (by rw [h_op]; rfl)) h_deal.events.unpaid fun _ => h_deal.world
  | @pausing _ b h_op _ _ _ h_deal =>
      refine ⟨d, h_deal.escrow.trans h_stored, ?_⟩
      exact .quiet (h_quiet (by rw [h_op]; cases b <;> rfl)) h_deal.events.unpaid
        fun _ => h_deal.world
  | create _ _ h_new =>
      -- `create` would have met the stored escrow
      rw [h_new] at h_stored
      cases h_stored
  | submit h_op _ h_d h_active h_get h_pending h_auth h_stores =>
      obtain rfl := h_same h_d
      exact ⟨_, h_stores.escrow, .submit rfl h_op h_active h_get h_pending h_auth h_stores.unpaid
        h_stores.world⟩
  | @approve i _ m _ h_op h_run h_d h_get h_submitted h_auth h_pay h_stores =>
      obtain rfl := h_same h_d
      have h_admitted : c.Admitted s d := by
        refine ⟨h_run, ?_⟩
        rw [h_op]
        exact ⟨⟨m, h_get, h_submitted⟩, h_auth⟩
      exact ⟨_, h_stores.escrow, .approve rfl h_op h_get h_submitted h_admitted h_auth
        (h_pay.paid h_stores)⟩
  | release h_op h_run h_d h_interval h_count h_active h_left h_due h_pay h_next h_stores =>
      obtain rfl := h_same h_d
      have h_admitted : c.Admitted s d := by
        refine ⟨h_run, ?_⟩
        rw [h_op]
        exact ⟨h_interval, h_count, h_active, h_left, h_due⟩
      exact ⟨_, h_stores.escrow, .release rfl h_op h_count h_active h_left h_due h_admitted
        (h_pay.paid h_stores) h_next⟩
  | @refund _ st s₁ h_op h_run h_d h_active h_auth h_transfer _ h_log h_stores =>
      obtain rfl := h_same h_d
      have h_admitted : c.Admitted s d := by
        apply Call.admitted_of_refund h_run h_active h_auth
        rcases h_op with ⟨h_cancel, -⟩ | ⟨h_expire, -, h_late⟩
        · exact .inl h_cancel
        · exact .inr ⟨h_expire, h_late⟩
      refine ⟨_, h_stores.escrow, .refund rfl ?_ h_active h_admitted h_auth ⟨?_, ?_, ?_⟩⟩
      · rcases h_op with h_cancel | ⟨h_expire, h_st, -⟩
        · exact .inl h_cancel
        · exact .inr ⟨h_expire, h_st⟩
      · rw [h_stores.events.transfers, State.transfers, h_log]
        simp [State.transfers, Effect.transfer?]
      · rw [h_stores.events.withdrawals, State.withdrawals, h_log]
        simp [State.withdrawals, Effect.withdraw?]
      · rw [h_stores.world]
        exact h_transfer
  | transferFreelancer h_op _ h_d _ h_stores =>
      obtain rfl := h_same h_d
      exact ⟨_, h_stores.escrow, .quiet (h_quiet (by rw [h_op]; rfl)) h_stores.unpaid
        fun _ => h_stores.world⟩
  | transferPayer h_op _ h_d _ h_stores =>
      obtain rfl := h_same h_d
      exact ⟨_, h_stores.escrow, .quiet (h_quiet (by rw [h_op]; rfl)) h_stores.unpaid
        fun _ => h_stores.world⟩
  | extendDeadline h_op _ h_d _ _ _ h_stores =>
      obtain rfl := h_same h_d
      exact ⟨_, h_stores.escrow, .quiet (h_quiet (by rw [h_op]; rfl)) h_stores.unpaid
        fun _ => h_stores.world⟩

/-- Every step from a state that stores a record is one of the five. -/
theorem Step.move {s s' : State H} {l : Label Address} {d : EscrowData Address}
    (h : Step s l s') (h_stored : s.storage.escrow = some d) :
    ∃ d', s'.storage.escrow = some d' ∧ Move s l s' d d' := by
  cases h with
  | returned _ h_run => exact (Call.change h_run).move h_stored
  | aborted => exact ⟨d, h_stored, .quiet (by simp) ⟨rfl, rfl⟩ fun _ => rfl⟩
  | outside => exact ⟨d, h_stored, .quiet (by simp) ⟨rfl, rfl⟩ (by simp)⟩

/-- No step writes the fields that `create` fixed. -/
theorem Move.descends {s s' : State H} {l : Label Address} {d d' : EscrowData Address}
    (h : Move s l s' d d') : Descends d d' := by
  cases h with
  | quiet => exact ⟨rfl, rfl, rfl, rfl, rfl, rfl, rfl, rfl⟩
  | submit _ _ _ h_get => exact .of_set h_get rfl
  | approve _ _ h_get => exact .of_set h_get rfl
  | release => exact ⟨rfl, rfl, rfl, rfl, rfl, rfl, rfl, rfl⟩
  | refund => exact ⟨rfl, rfl, rfl, rfl, rfl, rfl, rfl, rfl⟩

/-- A step that leaves the escrow `Active` found it `Active`. -/
theorem Move.active {s s' : State H} {l : Label Address} {d d' : EscrowData Address}
    (h : Move s l s' d d') (h_active : d'.status = .active) : d.status = .active := by
  cases h with
  | quiet => exact h_active
  | submit _ _ h_before => exact h_before
  | approve =>
      -- an approval keeps the status it finds unless it completes the escrow
      simp only [EscrowData.withApproved] at h_active
      split at h_active
      · cases h_active
      · exact h_active
  | release _ _ _ h_before => exact h_before
  | refund _ _ h_before => exact h_before

/-! ## Who is paid -/

/-- The transfers of a returned call out of the contract, from the storage it found: a payment sends
    the fee to the collector and the rest to the freelancer of the time, a refund goes to the payer
    of the time. -/
def Op.payments (H : Host Address) (st : Storage Address) (op : Op Address) :
    List (Transfer Address) :=
  st.escrow.toList.flatMap fun d =>
    match op with
    | .approve i => d.milestones[i]?.toList.flatMap fun m =>
        payouts H st.config d.token d.freelancer m.amount
    | .releaseRecurring => payouts H st.config d.token d.freelancer d.amount
    | .cancel | .expire => [⟨d.token, H.currentContract, d.payer, refundOf d⟩]
    | _ => []

/-- What the step paid, and to whom. -/
def payments (e : Entry H) : List (Transfer Address) :=
  match e.label with
  | .returned c => c.op.payments H e.pre.storage
  | .aborted _ | .outside => []

theorem Op.payments_of_onBooks {st : Storage Address} {op : Op Address}
    (h : op.onBooks = false) : op.payments H st = [] := by
  rw [Op.payments, List.flatMap_eq_nil_iff]
  intro d _
  cases op <;> first | rfl | cases h

/-- A step makes the transfers its label says, and no others. -/
theorem Move.transfers {s s' : State H} {l : Label Address} {d d' : EscrowData Address}
    (h : Move s l s' d d') (h_stored : s.storage.escrow = some d) :
    s'.transfers = s.transfers ++ payments ⟨s, l, s'⟩ := by
  cases h with
  | quiet h_quiet h_unpaid =>
      have h_none : payments ⟨s, l, s'⟩ = [] := by
        cases l with
        | returned c => exact Op.payments_of_onBooks (h_quiet c rfl)
        | aborted => rfl
        | outside => rfl
      rw [h_none, List.append_nil]
      exact h_unpaid.transfers
  | submit h_label h_op _ _ _ _ h_unpaid =>
      simp [payments, h_label, h_op, Op.payments, h_unpaid.transfers]
  | approve h_label h_op h_get _ _ _ h_paid =>
      simp [payments, h_label, h_op, Op.payments, h_stored, h_get, h_paid.transfers]
  | release h_label h_op _ _ _ _ _ h_paid =>
      simp [payments, h_label, h_op, Op.payments, h_stored, h_paid.transfers]
  | refund h_label h_op _ _ _ h_refunded =>
      rcases h_op with ⟨h_op, -⟩ | ⟨h_op, -⟩ <;>
        simp [payments, h_label, h_op, Op.payments, h_stored, h_refunded.transfers]

/-- Payments are made in the token of the deal, by the contract. -/
theorem payments_out {e : Entry H} {d : EscrowData Address}
    (h_stored : e.pre.storage.escrow = some d) :
    ∀ t ∈ payments e, t.token = d.token ∧ t.src = H.currentContract := by
  intro t h_t
  unfold payments at h_t
  split at h_t
  · rw [Op.payments, h_stored, Option.toList_some, List.flatMap_singleton] at h_t
    split at h_t
    · obtain ⟨m, -, h_m⟩ := List.mem_flatMap.mp h_t
      exact payouts_out t h_m
    · exact payouts_out t h_t
    · rw [List.mem_singleton.mp h_t]
      exact ⟨rfl, rfl⟩
    · rw [List.mem_singleton.mp h_t]
      exact ⟨rfl, rfl⟩
    · cases h_t
  · cases h_t
  · cases h_t

/-! ## One milestone -/

/-- What a step does to milestone `i`: nothing, or the freelancer's submission of a pending one,
    or the payer's approval of a submitted one, which pays its amount. -/
inductive MilestoneMove (s : State H) (l : Label Address) (s' : State H) (d : EscrowData Address)
    (i : Nat) (m : Milestone) : Milestone → Prop
  | same : MilestoneMove s l s' d i m m
  | submitted {c : Call Address} (h_label : l = .returned c) (h_op : c.op = .submitWork i)
      (h_pending : m.status = .pending) (h_auth : c.auth d.freelancer = true) :
      MilestoneMove s l s' d i m { m with status := .submitted }
  | approved {c : Call Address} (h_label : l = .returned c) (h_op : c.op = .approve i)
      (h_submitted : m.status = .submitted) (h_auth : c.auth d.payer = true)
      (h_paid : Paid s s' d.token d.freelancer m.amount) :
      MilestoneMove s l s' d i m { m with status := .approved }

theorem Move.milestone {s s' : State H} {l : Label Address} {d d' : EscrowData Address} {i : Nat}
    {m : Milestone} (h : Move s l s' d d') (h_get : d.milestones[i]? = some m) :
    ∃ m', d'.milestones[i]? = some m' ∧ MilestoneMove s l s' d i m m' := by
  obtain ⟨h_lt, -⟩ := List.getElem?_eq_some_iff.mp h_get
  cases h with
  | quiet => exact ⟨m, h_get, .same⟩
  | @submit c j m₀ h_label h_op _ h_get₀ h_pending h_auth =>
      rw [withSubmitted_milestones]
      by_cases h_ij : j = i
      · subst h_ij
        obtain rfl : m₀ = m := Option.some.inj (h_get₀.symm.trans h_get)
        exact ⟨_, List.getElem?_set_self h_lt, .submitted h_label h_op h_pending h_auth⟩
      · exact ⟨m, (List.getElem?_set_ne h_ij).trans h_get, .same⟩
  | @approve c j m₀ h_label h_op h_get₀ h_submitted _ h_auth h_paid =>
      rw [withApproved_milestones]
      by_cases h_ij : j = i
      · subst h_ij
        obtain rfl : m₀ = m := Option.some.inj (h_get₀.symm.trans h_get)
        exact ⟨_, List.getElem?_set_self h_lt, .approved h_label h_op h_submitted h_auth h_paid⟩
      · exact ⟨m, (List.getElem?_set_ne h_ij).trans h_get, .same⟩
  | release => exact ⟨m, h_get, .same⟩
  | refund => exact ⟨m, h_get, .same⟩

/-! ## Run rules -/

/-- A property of the state and its record that every admitted step keeps, a run keeps. -/
theorem Run.deal {O : Entry H → Prop} {I : State H → EscrowData Address → Prop}
    {s s' : State H} {tr : List (Entry H)} {d : EscrowData Address} (h : Run s tr s')
    (h_ok : ∀ e ∈ tr, O e) (h_stored : s.storage.escrow = some d) (h_init : I s d)
    (h_step : ∀ {e : Entry H} {d d' : EscrowData Address}, O e →
      e.pre.storage.escrow = some d → e.post.storage.escrow = some d' →
      Move e.pre e.label e.post d d' → I e.pre d → I e.post d') :
    ∃ d', s'.storage.escrow = some d' ∧ I s' d' := by
  refine h.invariant (I := fun s => ∃ d, s.storage.escrow = some d ∧ I s d) h_ok ?_
    ⟨d, h_stored, h_init⟩
  intro e h_e h_s ⟨d₁, h_d₁, h_inv⟩
  obtain ⟨d₂, h_d₂, h_move⟩ := h_s.move h_d₁
  exact ⟨d₂, h_d₂, h_step h_e h_d₁ h_d₂ h_move h_inv⟩

/-- The same for a property of the record and the history that led to it. -/
theorem Run.dealHistory {P : List (Entry H) → State H → EscrowData Address → Prop}
    {s s' : State H} {tr : List (Entry H)} {d : EscrowData Address} (h : Run s tr s')
    (h_stored : s.storage.escrow = some d) (h_init : P [] s d)
    (h_step : ∀ {tr : List (Entry H)} {e : Entry H} {d d' : EscrowData Address},
      e.pre.storage.escrow = some d → Move e.pre e.label e.post d d' → P tr e.pre d →
      P (tr ++ [e]) e.post d') :
    ∃ d', s'.storage.escrow = some d' ∧ P tr s' d' := by
  refine h.history (P := fun tr s => ∃ d, s.storage.escrow = some d ∧ P tr s d) ?_
    ⟨d, h_stored, h_init⟩
  intro tr e h_s ⟨d₁, h_d₁, h_inv⟩
  obtain ⟨d₂, h_d₂, h_move⟩ := h_s.move h_d₁
  exact ⟨d₂, h_d₂, h_step h_d₁ h_move h_inv⟩

/-- A record stays stored, and only descends. -/
theorem Run.descends {s s' : State H} {tr : List (Entry H)} {d : EscrowData Address}
    (h : Run s tr s') (h_stored : s.storage.escrow = some d) :
    ∃ d', s'.storage.escrow = some d' ∧ Descends d d' :=
  h.deal (O := fun _ => True) (I := fun _ d' => Descends d d') (fun _ _ => trivial) h_stored
    (.refl d) fun _ _ _ h_move h_desc => h_desc.trans h_move.descends

/-- Every step of a run moves a record that descends from the first one. -/
theorem Run.moves {s s' : State H} {tr : List (Entry H)} {d : EscrowData Address} (h : Run s tr s')
    (h_stored : s.storage.escrow = some d) :
    ∀ e ∈ tr, ∃ d₁ d₂, e.pre.storage.escrow = some d₁ ∧ e.post.storage.escrow = some d₂ ∧
      Descends d d₁ ∧ Move e.pre e.label e.post d₁ d₂ := by
  have h_pre := h.invariant_pre (O := fun _ => True)
    (I := fun t => ∃ d₁, t.storage.escrow = some d₁ ∧ Descends d d₁) (fun _ _ => trivial) ?_
    ⟨d, h_stored, .refl d⟩
  · intro e h_e
    obtain ⟨d₁, h_d₁, h_desc⟩ := h_pre e h_e
    obtain ⟨d₂, h_d₂, h_move⟩ := (h.step_of_mem e h_e).move h_d₁
    exact ⟨d₁, d₂, h_d₁, h_d₂, h_desc, h_move⟩
  · intro e _ h_step ⟨d₁, h_d₁, h_desc⟩
    obtain ⟨d₂, h_d₂, h_move⟩ := h_step.move h_d₁
    exact ⟨d₂, h_d₂, h_desc.trans h_move.descends⟩

/-- **Who was paid.**  The transfers since a record was stored are the payments of the steps. -/
theorem Run.transfers {s s' : State H} {tr : List (Entry H)} {d : EscrowData Address}
    (h : Run s tr s') (h_stored : s.storage.escrow = some d) :
    s'.transfers = s.transfers ++ tr.flatMap payments := by
  have h_all := h.dealHistory
    (P := fun tr t _ => t.transfers = s.transfers ++ tr.flatMap payments) h_stored
    (List.append_nil _).symm ?_
  · obtain ⟨-, -, h_transfers⟩ := h_all
    exact h_transfers
  · intro tr e d₁ d₂ h_d₁ h_move h_before
    rw [h_move.transfers h_d₁, h_before, List.flatMap_append, List.flatMap_singleton,
      List.append_assoc]

/-- They add up to what was paid out. -/
theorem Run.paidOut {s s' : State H} {tr : List (Entry H)} {d : EscrowData Address}
    (h : Run s tr s') (h_stored : s.storage.escrow = some d) :
    s'.paidOut d.token = s.paidOut d.token + ((tr.flatMap payments).map (·.amount)).sum := by
  refine State.paidOut_append (h.transfers h_stored) d.token fun t h_t => ?_
  obtain ⟨e, h_e, h_t⟩ := List.mem_flatMap.mp h_t
  obtain ⟨d₁, -, h_d₁, -, h_desc, -⟩ := h.moves h_stored e h_e
  rw [← h_desc.token]
  exact payments_out h_d₁ t h_t

end StarEscrow.Escrow
