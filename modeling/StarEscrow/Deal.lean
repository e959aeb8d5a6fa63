/-
  StarEscrow.Deal

  One deal, two contracts.

  `Deal.machine` is the deal itself: the transition table of the protocol for
  submission, approval and cancellation, with what each status has paid to whom.
  An escrow of the factory and a stand-alone escrow with one milestone are two
  more machines with the same requests.  The factory is the deal, over every
  sequence of requests; the stand-alone escrow is the deal only until the
  freelancer submits, because `submit_work` leaves its status `Active`.
-/

import StarEscrow.Lib.Mealy
import StarEscrow.Escrow.Creation
import StarEscrow.Factory.Independence

namespace StarEscrow.Deal

/-! ## Requests and outcomes -/

/-- What is asked for, who authorises it, and the ledger time. -/
structure Request (Address : Type) where
  action : Factory.Action
  auth : Address → Bool
  timestamp : UInt64

/-- What a request comes to: whether it succeeded, what the parties have received since the deal
    was made, and the status the contract reports. -/
structure Outcome where
  succeeded : Bool
  toPayer : Int
  toFreelancer : Int
  status : Option Escrow.EscrowStatus
  deriving DecidableEq, Repr

variable {Address : Type} [DecidableEq Address]

/-- The total of a token that transfers bring an address. -/
def received (ts : List (Escrow.Transfer Address)) (token who : Address) : Int :=
  ((ts.filter fun t => t.token = token ∧ t.dst = who).map (·.amount)).sum

theorem received_append (ts ts' : List (Escrow.Transfer Address)) (token who : Address) :
    received (ts ++ ts') token who = received ts token who + received ts' token who := by
  rw [received, List.filter_append, List.map_append, List.sum_append]
  rfl

theorem received_single (token src dst who : Address) (amount : Int) :
    received [⟨token, src, dst, amount⟩] token who = if dst = who then amount else 0 := by
  by_cases h_dst : dst = who
  · simp [received, h_dst]
  · simp [received, h_dst]

/-! ## The deal -/

/-- Where a request takes the status of the deal. -/
def next (a : Factory.CreateArgs Address) (st : Escrow.EscrowStatus) (x : Request Address) :
    Option Escrow.EscrowStatus :=
  match x.action, st with
  | .submitWork, .active => if x.auth a.freelancer then some .workSubmitted else none
  | .approve, .workSubmitted => if x.auth a.payer then some .completed else none
  | .cancel, .active => if x.auth a.payer then some .cancelled else none
  | _, _ => none

/-- What an address has been paid in a status. -/
def paid (a : Factory.CreateArgs Address) (who : Address) : Escrow.EscrowStatus → Int
  | .completed => if a.freelancer = who then a.amount else 0
  | .cancelled => if a.payer = who then a.amount else 0
  | _ => 0

def machine (a : Factory.CreateArgs Address) :
    Mealy.Machine (Request Address) Escrow.EscrowStatus Outcome where
  perform x st := (next a st x).getD st
  output x st :=
    let st' := (next a st x).getD st
    ⟨(next a st x).isSome, paid a a.payer st', paid a a.freelancer st', some st'⟩

/-! ## The factory -/

/-- The status of the same name. -/
def ofFactory : Factory.EscrowStatus → Escrow.EscrowStatus
  | .active => .active
  | .workSubmitted => .workSubmitted
  | .completed => .completed
  | .cancelled => .cancelled

section Factory

variable {F : Factory.Host Address}

def Request.toFactory (x : Request Address) (id : UInt64) : Factory.Call Address :=
  ⟨x.auth, .act id x.action⟩

/-- The escrow `id` of the factory, observed from the state `f₀` on. -/
def factory (a : Factory.CreateArgs Address) (id : UInt64) (f₀ : Factory.State F) :
    Mealy.Machine (Request Address) (Factory.State F) Outcome where
  perform x f := (x.toFactory id).perform f
  output x f :=
    let f' := (x.toFactory id).perform f
    ⟨((x.toFactory id).run f).isOk,
      received f'.transfers a.token a.payer - received f₀.transfers a.token a.payer,
      received f'.transfers a.token a.freelancer - received f₀.transfers a.token a.freelancer,
      (Factory.getEscrow id f').toOption.map fun r => ofFactory r.status⟩

/-- The table of the deal is the one the factory follows. -/
theorem next_ofFactory {Address : Type} (a : Factory.CreateArgs Address) (id : UInt64)
    (st : Factory.EscrowStatus) (x : Request Address) : next a (ofFactory st) x =
      if st = x.action.source ∧ x.auth (x.action.caller (a.record id)) = true then
        some (ofFactory x.action.target)
      else none := by
  obtain ⟨action, auth, t⟩ := x
  cases action <;> cases st <;>
    simp [next, ofFactory, Factory.Action.source, Factory.Action.caller, Factory.Action.target,
      Factory.CreateArgs.record]

/-- What a payment of the factory brings an address. -/
theorem received_pays {s s' : Factory.State F} {token : Address} {amount : Int}
    {o : Option Address} (h : Factory.Pays s s' token amount o) (token' who : Address) :
    received s'.transfers token' who =
      received s.transfers token' who + if token = token' ∧ o = some who then amount else 0 := by
  cases o with
  | none => rw [h.2, if_neg nofun, Int.add_zero]
  | some dst =>
      rw [h.2, received_append]
      congr 1
      by_cases h_token : token = token'
      · subst h_token
        simp [received_single]
      · simp [received, h_token]

/-- The factory stores the deal with the status `st`, and has paid what `st` says since `f₀`. -/
structure Holds (a : Factory.CreateArgs Address) (id : UInt64) (f₀ f : Factory.State F)
    (st : Escrow.EscrowStatus) : Prop where
  solvent : ∃ rs, Factory.Represents f rs ∧ Factory.Solvent f rs
  stored : ∃ st', f.storage.escrow id = some { a.record id with status := st' } ∧
    st = ofFactory st'
  paid : ∀ who, received f.transfers a.token who - received f₀.transfers a.token who =
    paid a who st

theorem Holds.outcome {a : Factory.CreateArgs Address} {id : UInt64} {f₀ f : Factory.State F}
    {st : Escrow.EscrowStatus} {x : Request Address}
    (h : Holds a id f₀ ((x.toFactory id).perform f) st) :
    (factory a id f₀).output x f =
      ⟨((x.toFactory id).run f).isOk, Deal.paid a a.payer st, Deal.paid a a.freelancer st,
        some st⟩ := by
  obtain ⟨st', h_stored, rfl⟩ := h.stored
  simp only [factory, h.paid, Factory.getEscrow, Factory.loadEscrow, h_stored]
  rfl

/-- The factory serves a request exactly when the deal allows it, and goes where the deal goes. -/
theorem Holds.perform (h_live : F.Live) {a : Factory.CreateArgs Address} {id : UInt64}
    {f₀ f : Factory.State F} {st : Escrow.EscrowStatus} (h : Holds a id f₀ f st)
    (x : Request Address) : ((x.toFactory id).run f).isOk = (next a st x).isSome ∧
      Holds a id f₀ ((x.toFactory id).perform f) ((next a st x).getD st) := by
  obtain ⟨rs, h_rep, h_solvent⟩ := h.solvent
  obtain ⟨st', h_stored, rfl⟩ := h.stored
  have h_next := next_ofFactory a id st' x
  have h_run : (x.toFactory id).run f = x.action.exec x.auth id f := rfl
  cases h_check : x.action.check x.auth (f.storage.escrow id) with
  | error e =>
      rw [Factory.Action.exec_of_check_error h_check] at h_run
      have h_none : next a (ofFactory st') x = none := by
        rw [h_next, if_neg]
        rintro ⟨h_status, h_auth⟩
        cases h_check.symm.trans (Factory.Action.check_ok.mpr ⟨h_stored, h_status, h_auth⟩)
      rw [Factory.Call.perform, h_run, h_none]
      exact ⟨rfl, h⟩
  | ok r =>
      obtain ⟨f', h_exec⟩ := h_solvent.exec_returns h_live h_rep h_check
      obtain ⟨r', h_check', h_storage, h_pays⟩ := Factory.Action.exec_ok h_exec
      obtain rfl : r = r' := Except.ok.inj (h_check.symm.trans h_check')
      obtain ⟨h_r, h_status, h_auth⟩ := Factory.Action.check_ok.mp h_check
      obtain rfl : { a.record id with status := st' } = r :=
        Option.some.inj (h_stored.symm.trans h_r)
      have h_status : st' = x.action.source := h_status
      have h_some : next a (ofFactory st') x = some (ofFactory x.action.target) := by
        rw [h_next, if_pos ⟨h_status, h_auth⟩]
      rw [h_exec] at h_run
      have h_perform : (x.toFactory id).perform f = f' := by rw [Factory.Call.perform, h_run]
      rw [h_run, h_some]
      refine ⟨rfl, h_solvent.perform h_rep rfl, ⟨x.action.target, ?_, rfl⟩, fun who => ?_⟩
      · rw [h_perform, h_storage, Factory.saveEscrow_storage]
        exact Function.update_self id _ _
      · -- an open deal had paid nothing yet
        have h_before := h.paid who
        have h_after := received_pays h_pays a.token who
        rw [h_perform, Option.getD_some]
        rw [h_status] at h_before
        cases h_action : x.action <;>
          simp [h_action, Factory.Action.payee, Factory.Action.source, Factory.Action.target,
            Factory.CreateArgs.record, ofFactory, Deal.paid] at h_before h_after ⊢ <;> omega

/-- Every request takes the factory where it takes the deal. -/
theorem Holds.step (h_live : F.Live) {a : Factory.CreateArgs Address} {id : UInt64}
    {f₀ : Factory.State F} (x : Request Address) (f : Factory.State F) (st : Escrow.EscrowStatus)
    (h : Holds a id f₀ f st) : (factory a id f₀).output x f = (machine a).output x st ∧
      Holds a id f₀ ((factory a id f₀).perform x f) ((machine a).perform x st) := by
  obtain ⟨h_ok, h_holds⟩ := h.perform h_live x
  refine ⟨?_, h_holds⟩
  rw [h_holds.outcome, h_ok]
  rfl

/-- What the factory holds right after `create_escrow`. -/
theorem holds_of_create {f₀ f₁ f₂ : Factory.State F} {tr : List (Factory.Entry F)}
    (h_init : f₀.Initial) (h_funds : ∀ token, 0 ≤ f₀.funds token) (h_run : Factory.Run f₀ tr f₁)
    (h_payers : ∀ e ∈ tr, Factory.PayersOutside e) {auth : Address → Bool}
    {a : Factory.CreateArgs Address} {id : UInt64} (h_payer : a.payer ≠ F.currentContract)
    (h_create : Factory.createEscrow auth a f₁ = .ok (id, f₂)) : Holds a id f₂ f₂ .active := by
  let c : Factory.Call Address := ⟨auth, .createEscrow a⟩
  have h_ret : c.run f₁ = .ok f₂ := by
    show (Factory.createEscrow auth a f₁).map (·.2) = .ok f₂
    rw [h_create]
    rfl
  have h_run₂ : Factory.Run f₀ _ f₂ := h_run.trans (.single (Factory.Step.returned h_ret))
  refine ⟨h_run₂.solvent h_init h_funds ?_, ⟨.active, ?_, rfl⟩, fun who => Int.sub_self _⟩
  · rw [List.forall_mem_append, List.forall_mem_singleton]
    refine ⟨h_payers, ?_⟩
    intro a' h_a'
    cases h_a'
    exact h_payer
  · obtain ⟨-, -, w, -, h_id, next, -, rfl⟩ := Factory.createEscrow_ok.mp h_create
    simp [Factory.State.created, Factory.saveEscrow, Factory.appendToIndex,
      Factory.State.putIndex, Factory.State.push, Factory.State.putEscrow,
      Factory.State.putNextId, Factory.State.putWorld, Factory.CreateArgs.record]

end Factory

/-! ## The stand-alone escrow -/

section Standalone

variable {E : Escrow.Host Address}

/-- The arguments of `create` for the same deal. -/
def standalone (a : Factory.CreateArgs Address) (description : String)
    (yieldRecipient : Escrow.YieldRecipient) : Escrow.CreateArgs Address where
  payer := a.payer
  freelancer := a.freelancer
  token := a.token
  milestones := [⟨description, a.amount, .pending⟩]
  deadline := none
  yieldProtocol := none
  yieldRecipient := yieldRecipient
  interval := 0
  recurrenceCount := 0

/-- The same action on the only milestone. -/
def onMilestone : Factory.Action → Escrow.Op Address
  | .submitWork => .submitWork 0
  | .approve => .approve 0
  | .cancel => .cancel

def Request.toEscrow (x : Request Address) : Escrow.Call Address :=
  ⟨x.timestamp, x.auth, onMilestone x.action⟩

/-- The escrow instance, observed from the state `e₀` on. -/
def escrow (a : Factory.CreateArgs Address) (e₀ : Escrow.State E) :
    Mealy.Machine (Request Address) (Escrow.State E) Outcome where
  perform x e := x.toEscrow.perform e
  output x e :=
    let e' := x.toEscrow.perform e
    ⟨x.toEscrow.returns e,
      received e'.transfers a.token a.payer - received e₀.transfers a.token a.payer,
      received e'.transfers a.token a.freelancer - received e₀.transfers a.token a.freelancer,
      (Escrow.getStatus x.toEscrow.env e').toOption.map (·.1)⟩

/-- The request is a submission that the freelancer authorises. -/
def Request.Submits (a : Factory.CreateArgs Address) (x : Request Address) : Prop :=
  x.action = .submitWork ∧ x.auth a.freelancer = true

/-- The request is a cancellation that the payer authorises. -/
def Request.Cancels (a : Factory.CreateArgs Address) (x : Request Address) : Prop :=
  x.action = .cancel ∧ x.auth a.payer = true

/-- Nothing is submitted before the deal is cancelled. -/
def Unsubmitted (a : Factory.CreateArgs Address) : List (Request Address) → Prop
  | [] => True
  | x :: xs => ¬x.Submits a ∧ (x.Cancels a ∨ Unsubmitted a xs)

/-- The instance stores the deal with the status `st` and its milestone pending, and has paid what
    `st` says since `e₀`. -/
structure Keeps (a : Factory.CreateArgs Address) (d : Escrow.EscrowData Address)
    (e₀ e : Escrow.State E) (st : Escrow.EscrowStatus) : Prop where
  running : e.paused = false
  stored : e.storage.escrow = some { d with status := st }
  covered : st = .active → a.amount ≤ e.funds a.token
  paid : ∀ who, received e.transfers a.token who - received e₀.transfers a.token who =
    paid a who st

variable {a : Factory.CreateArgs Address} {d : Escrow.EscrowData Address}
  {e₀ e : Escrow.State E} {st : Escrow.EscrowStatus} {x : Request Address}

/-- The reported status is the stored one. -/
theorem outcome_status (a : Factory.CreateArgs Address) (e₀ : Escrow.State E)
    {d' : Escrow.EscrowData Address} (h : (x.toEscrow.perform e).storage.escrow = some d') :
    ((escrow a e₀).output x e).status = some d'.status := by
  have h_status : Escrow.getStatus x.toEscrow.env (x.toEscrow.perform e) =
      .ok (d'.status, x.toEscrow.perform e) := by
    simp [Escrow.getStatus, h]
  simp only [escrow, h_status]
  rfl

theorem Keeps.outcome (h : Keeps a d e₀ (x.toEscrow.perform e) st) : (escrow a e₀).output x e =
    ⟨x.toEscrow.returns e, Deal.paid a a.payer st, Deal.paid a a.freelancer st, some st⟩ := by
  rw [← outcome_status a e₀ h.stored]
  simp only [escrow, h.paid]

theorem Keeps.atTime (h : Keeps a d e₀ e st) (t : UInt64) : Keeps a d e₀ (e.atTime t) st :=
  ⟨h.running, h.stored, h.covered, h.paid⟩

/-- The record of the deal: its parties, one pending milestone of the amount, no recurrence. -/
structure IsDeal (a : Factory.CreateArgs Address) (d : Escrow.EscrowData Address) : Prop where
  sound : Escrow.Sound d
  payer : d.payer = a.payer
  freelancer : d.freelancer = a.freelancer
  token : d.token = a.token
  total : d.totalAmount = a.amount
  pending : ∀ m ∈ d.milestones, m.status = .pending
  single : d.recurrenceCount = 0

omit [DecidableEq Address] in
theorem next_of_submits (h : x.Submits a) : next a .active x = some .workSubmitted := by
  obtain ⟨action, auth, t⟩ := x
  obtain ⟨rfl, h_auth⟩ := h
  exact if_pos h_auth

omit [DecidableEq Address] in
theorem next_of_cancels (h : x.Cancels a) : next a .active x = some .cancelled := by
  obtain ⟨action, auth, t⟩ := x
  obtain ⟨rfl, h_auth⟩ := h
  exact if_pos h_auth

omit [DecidableEq Address] in
theorem next_eq_none (h_st : st = .active ∨ st = .cancelled)
    (h_submit : ¬(st = .active ∧ x.Submits a)) (h_cancel : ¬(st = .active ∧ x.Cancels a)) :
    next a st x = none := by
  obtain ⟨action, auth, t⟩ := x
  rcases h_st with rfl | rfl <;> cases action <;>
    simp_all [next, Request.Submits, Request.Cancels]

/-- With its milestone pending, the escrow refuses everything but the freelancer's submission and
    the payer's cancellation, and after the cancellation these too. -/
theorem Keeps.refuses (h_deal : IsDeal a d) (h : Keeps a d e₀ e st)
    (h_submit : ¬(st = .active ∧ x.Submits a)) (h_cancel : ¬(st = .active ∧ x.Cancels a)) :
    x.toEscrow.returns e = false ∧ x.toEscrow.perform e = e.atTime x.timestamp := by
  have h_no : ∀ e', x.toEscrow.run e ≠ .ok e' := by
    intro e' h_run
    rw [Escrow.Call.run_ok] at h_run
    have h_stored {d' : Escrow.EscrowData Address}
        (h_d' : (e.atTime x.timestamp).storage.escrow = some d') : { d with status := st } = d' :=
      Option.some.inj (h.stored.symm.trans h_d')
    obtain ⟨action, auth, t⟩ := x
    cases action with
    | submitWork =>
        obtain ⟨-, d', h_d', h_active, m, -, -, h_auth, -⟩ := Escrow.submitWork_ok.mp h_run
        obtain rfl := h_stored h_d'
        exact h_submit ⟨h_active, rfl, h_deal.freelancer ▸ h_auth⟩
    | approve =>
        obtain ⟨-, d', h_d', m, h_get, h_submitted, -⟩ := Escrow.approve_ok.mp h_run
        obtain rfl := h_stored h_d'
        have h_pending := h_deal.pending m (List.mem_of_getElem? h_get)
        rw [h_submitted] at h_pending
        cases h_pending
    | cancel =>
        obtain ⟨-, d', h_d', h_active, h_auth, -⟩ := Escrow.cancel_ok.mp h_run
        obtain rfl := h_stored h_d'
        exact h_cancel ⟨h_active, rfl, h_deal.payer ▸ h_auth⟩
  unfold Escrow.Call.returns Escrow.Call.perform
  cases h_run : x.toEscrow.run e with
  | ok e' => exact absurd h_run (h_no e')
  | error f => exact ⟨rfl, rfl⟩

/-- The payer's cancellation refunds the whole amount. -/
theorem Keeps.cancels (h_live : E.Live) (h_deal : IsDeal a d) (h : Keeps a d e₀ e .active)
    (h_cancel : x.Cancels a) :
    x.toEscrow.returns e = true ∧ Keeps a d e₀ (x.toEscrow.perform e) .cancelled := by
  obtain ⟨action, auth, t⟩ := x
  obtain ⟨rfl, h_auth⟩ := h_cancel
  have h_none : Escrow.approvedTotal d.milestones = 0 := by
    apply Escrow.approvedTotal_of_none
    intro m h_mem h_approved
    rw [h_deal.pending m h_mem] at h_approved
    cases h_approved
  have h_rest : Escrow.remaining { d with status := .active } = some a.amount := by
    have h_sound : Escrow.Sound { d with status := .active } :=
      ⟨h_deal.sound.positive, h_deal.sound.total, h_deal.sound.total_pos, h_deal.sound.range⟩
    rw [h_sound.remaining_returns (.inl h_deal.single)]
    simp only [h_none, h_deal.total, Int.sub_zero]
  have h_pos := h_deal.sound.total_pos
  rw [h_deal.total] at h_pos
  obtain ⟨w, h_w⟩ := h_live e.world a.token E.currentContract a.payer a.amount h_pos.le
    (h.covered rfl)
  obtain ⟨e', h_e', h_run⟩ : ∃ e', e' = ((((((e.atTime t).putWorld w).push
      (.transfer ⟨a.token, E.currentContract, a.payer, a.amount⟩)).push
      (.event (.escrowCancelled a.payer a.amount))).putEscrow
      { d with status := .cancelled }).touch) ∧
      (Request.toEscrow ⟨.cancel, auth, t⟩).run e = .ok e' := by
    refine ⟨_, rfl, Escrow.Call.run_ok.mpr (Escrow.cancel_ok.mpr ⟨h.running, _, h.stored, rfl, ?_⟩)⟩
    simp only [h_deal.payer, h_deal.token]
    exact ⟨h_auth, a.amount, h_rest, w, h_w, rfl⟩
  have h_transfers : e'.transfers =
      e.transfers ++ [⟨a.token, E.currentContract, a.payer, a.amount⟩] := by
    rw [h_e', Escrow.State.transfers]
    simp [Escrow.State.transfers, Escrow.Effect.transfer?]
  simp only [Escrow.Call.returns, Escrow.Call.perform, h_run, true_and]
  refine ⟨?_, ?_, ?_, fun who => ?_⟩
  · rw [h_e']
    exact h.running
  · rw [h_e']
    rfl
  · intro h_active
    cases h_active
  · -- nothing had been paid before
    have h_before := h.paid who
    rw [h_transfers, received_append, received_single]
    simp only [Deal.paid] at h_before ⊢
    omega

/-- As long as nothing is submitted, the stand-alone escrow serves a request exactly when the deal
    allows it, and goes where the deal goes. -/
theorem Keeps.perform (h_live : E.Live) (h_deal : IsDeal a d) (h : Keeps a d e₀ e st)
    (h_st : st = .active ∨ st = .cancelled) (h_submit : ¬(st = .active ∧ x.Submits a)) :
    x.toEscrow.returns e = (next a st x).isSome ∧
      Keeps a d e₀ (x.toEscrow.perform e) ((next a st x).getD st) ∧
      ((next a st x).getD st = .active ∨ (next a st x).getD st = .cancelled) := by
  by_cases h_cancel : st = .active ∧ x.Cancels a
  · obtain ⟨rfl, h_cancel⟩ := h_cancel
    obtain ⟨h_returns, h_keeps⟩ := h.cancels h_live h_deal h_cancel
    rw [next_of_cancels h_cancel]
    exact ⟨h_returns, h_keeps, .inr rfl⟩
  · obtain ⟨h_returns, h_perform⟩ := h.refuses h_deal h_submit h_cancel
    rw [next_eq_none h_st h_submit h_cancel, h_perform]
    exact ⟨h_returns, h.atTime x.timestamp, h_st⟩

/-- As long as nothing is submitted, a request takes the stand-alone escrow where it takes the
    deal. -/
theorem Keeps.step (h_live : E.Live) (h_deal : IsDeal a d) (h : Keeps a d e₀ e st)
    (h_st : st = .active ∨ st = .cancelled) (h_submit : ¬(st = .active ∧ x.Submits a)) :
    (escrow a e₀).output x e = (machine a).output x st ∧
      Keeps a d e₀ ((escrow a e₀).perform x e) ((machine a).perform x st) ∧
      ((machine a).perform x st = .active ∨ (machine a).perform x st = .cancelled) := by
  obtain ⟨h_returns, h_keeps, h_st'⟩ := h.perform h_live h_deal h_st h_submit
  refine ⟨?_, h_keeps, h_st'⟩
  rw [h_keeps.outcome, h_returns]
  rfl

/-- The freelancer's submission: the deal moves on, the stand-alone escrow reports `Active`. -/
theorem Keeps.outcome_ne (h : Keeps a d e₀ e .active)
    (h_submit : x.Submits a) : (escrow a e₀).output x e ≠ (machine a).output x .active := by
  have h_stored : ∃ d', (x.toEscrow.perform e).storage.escrow = some d' ∧ d'.status = .active := by
    obtain ⟨action, auth, t⟩ := x
    obtain ⟨rfl, -⟩ := h_submit
    unfold Escrow.Call.perform
    cases h_run : (Request.toEscrow ⟨.submitWork, auth, t⟩).run e with
    | error f => exact ⟨_, h.stored, rfl⟩
    | ok e' =>
        obtain ⟨-, d', -, h_active, m, -, -, -, rfl⟩ :=
          Escrow.submitWork_ok.mp (Escrow.Call.run_ok.mp h_run)
        exact ⟨_, rfl, h_active⟩
  obtain ⟨d', h_d', h_active⟩ := h_stored
  intro h_eq
  have h_status := congrArg Outcome.status h_eq
  rw [outcome_status a e₀ h_d', h_active] at h_status
  simp only [machine, next_of_submits h_submit] at h_status
  cases h_status

/-- After the cancellation no submission counts. -/
theorem avoids_of_cancelled (a : Factory.CreateArgs Address) (xs : List (Request Address)) :
    (machine a).Avoids (fun x st => st = .active ∧ x.Submits a) .cancelled xs := by
  induction xs with
  | nil => trivial
  | cons x xs ih =>
      have h_stays : (machine a).perform x .cancelled = .cancelled := by
        obtain ⟨action, auth, t⟩ := x
        cases action <;> rfl
      rw [Mealy.Machine.Avoids, h_stays]
      exact ⟨fun h => absurd h.1 (by decide), ih⟩

/-- The deal meets no submission while it is open exactly if nothing is submitted before it is
    cancelled. -/
theorem avoids_iff (a : Factory.CreateArgs Address) (xs : List (Request Address)) :
    (machine a).Avoids (fun x st => st = .active ∧ x.Submits a) .active xs ↔
      Unsubmitted a xs := by
  induction xs with
  | nil => exact Iff.rfl
  | cons x xs ih =>
      rw [Mealy.Machine.Avoids, Unsubmitted, eq_self_iff_true, true_and]
      refine and_congr_right fun h_submit => ?_
      by_cases h_cancel : x.Cancels a
      · have h_next : (machine a).perform x .active = .cancelled := by
          simp only [machine, next_of_cancels h_cancel, Option.getD_some]
        rw [h_next]
        exact iff_of_true (avoids_of_cancelled a xs) (.inl h_cancel)
      · have h_none : next a .active x = none :=
          next_eq_none (.inl rfl) (fun h => h_submit h.2) fun h => h_cancel h.2
        have h_next : (machine a).perform x .active = .active := by
          simp only [machine, h_none, Option.getD_none]
        rw [h_next, ih, or_iff_right h_cancel]

/-- The stand-alone escrow is the deal exactly when nothing is submitted before a cancellation. -/
theorem Keeps.outputs_iff (h_live : E.Live) (h_deal : IsDeal a d) (h : Keeps a d e₀ e .active)
    (xs : List (Request Address)) :
    (escrow a e₀).outputs e xs = (machine a).outputs .active xs ↔ Unsubmitted a xs := by
  rw [← avoids_iff]
  refine Mealy.outputs_eq_iff
    (R := fun e st => Keeps a d e₀ e st ∧ (st = .active ∨ st = .cancelled)) ?_ ?_
    ⟨h, .inl rfl⟩ xs
  · rintro x e st ⟨h_keeps, h_st⟩ h_submit
    exact h_keeps.step h_live h_deal h_st h_submit
  · rintro x e st ⟨h_keeps, -⟩ ⟨rfl, h_submit⟩
    exact h_keeps.outcome_ne h_submit

/-- What the instance keeps right after `create`. -/
theorem keeps_of_create {e₁ e₂ : Escrow.State E} {c : Escrow.Call Address}
    {a : Factory.CreateArgs Address} {description : String} {yieldRecipient : Escrow.YieldRecipient}
    (h_created : Escrow.Created e₁ c (standalone a description yieldRecipient) e₂)
    (h_config : e₁.storage.config = none) (h_funds : 0 ≤ e₁.funds a.token)
    (h_payer : a.payer ≠ E.currentContract) :
    ∃ d, IsDeal a d ∧ Keeps a d e₂ e₂ .active := by
  have h_total : Escrow.milestoneTotal (standalone a description yieldRecipient).milestones =
      a.amount := Int.add_zero a.amount
  refine ⟨_, ⟨h_created.sound, rfl, rfl, rfl, h_total, ?_, rfl⟩, ⟨?_, h_created.stored, ?_, ?_⟩⟩
  · intro m h_m
    rw [List.mem_singleton.mp h_m]
  · rw [Escrow.State.paused, h_created.config, h_config]
    rfl
  · intro _
    have h_locked : e₂.funds a.token = e₁.funds a.token + _ := h_created.funds rfl h_payer
    rw [h_total] at h_locked
    omega
  · exact fun who => Int.sub_self _

end Standalone

/-! ## Agreement -/

/-- **One deal, two contracts.**  After `create_escrow` on the factory and `create` of the same
    deal on a fresh instance, the factory's outcomes are those of the deal over every sequence of
    requests; so the two contracts have the same outcomes exactly when the freelancer submits
    nothing before the payer cancels. -/
theorem contracts_agree_iff {F : Factory.Host Address} {E : Escrow.Host Address}
    (h_live : F.Live) (h_live' : E.Live)
    {f₀ f₁ f₂ : Factory.State F} {tr : List (Factory.Entry F)} (h_init : f₀.Initial)
    (h_funds : ∀ token, 0 ≤ f₀.funds token) (h_run : Factory.Run f₀ tr f₁)
    (h_payers : ∀ e ∈ tr, Factory.PayersOutside e) {auth : Address → Bool}
    {a : Factory.CreateArgs Address} {id : UInt64} (h_payer : a.payer ≠ F.currentContract)
    (h_create : Factory.createEscrow auth a f₁ = .ok (id, f₂))
    {e₁ e₂ : Escrow.State E} {c : Escrow.Call Address} {description : String}
    {yieldRecipient : Escrow.YieldRecipient} (h_config : e₁.storage.config = none)
    (h_funds' : 0 ≤ e₁.funds a.token) (h_payer' : a.payer ≠ E.currentContract)
    (h_created : Escrow.Created e₁ c (standalone a description yieldRecipient) e₂)
    (xs : List (Request Address)) :
    (factory a id f₂).outputs f₂ xs = (escrow a e₂).outputs e₂ xs ↔ Unsubmitted a xs := by
  have h_holds := holds_of_create h_init h_funds h_run h_payers h_payer h_create
  have h_factory : (factory a id f₂).outputs f₂ xs = (machine a).outputs .active xs :=
    Mealy.outputs_eq (Holds.step h_live) h_holds xs
  obtain ⟨d, h_deal, h_keeps⟩ := keeps_of_create h_created h_config h_funds' h_payer'
  rw [h_factory, eq_comm]
  exact h_keeps.outputs_iff h_live' h_deal xs

namespace Sample

/-- The payer at 1 locks 100 of token 9 for the freelancer at 3. -/
def deal : Factory.CreateArgs Nat := ⟨1, 3, 9, 100, ""⟩

/-- The state of the factory after `create_escrow`. -/
def inFactory : Factory.State Factory.Sample.host :=
  (Factory.Sample.call (.createEscrow deal)).perform Factory.Sample.start

/-- The state of a fresh instance after `create`. -/
def alone : Escrow.State Escrow.Sample.host :=
  Escrow.Sample.opened 100 0 (standalone deal "" .payer)

def request (action : Factory.Action) (t : UInt64) : Request Nat := ⟨action, fun _ => true, t⟩

theorem deal_created : Factory.createEscrow (fun _ => true) deal Factory.Sample.start =
    .ok (0, inFactory) := rfl

theorem alone_created : Escrow.Created (Escrow.Sample.start 100 0)
    (Escrow.Sample.call 1 (.create (standalone deal "" .payer))) (standalone deal "" .payer)
    alone :=
  Escrow.Sample.opened_created (by decide)

end Sample

/-- A refused approval, a cancellation, a late submission. -/
theorem contracts_agree_iff_cancelled :
    let xs := [Sample.request .approve 2, Sample.request .cancel 3, Sample.request .submitWork 4]
    (factory Sample.deal 0 Sample.inFactory).outputs Sample.inFactory xs =
        (escrow Sample.deal Sample.alone).outputs Sample.alone xs ↔
      Unsubmitted Sample.deal xs :=
  contracts_agree_iff Sep41.ledger_live Sep41.ledger_live Factory.Sample.start_initial
    (fun token => (Factory.Sample.start_funds token).ge) .refl (by decide) (by decide)
    Sample.deal_created rfl (by decide) (by decide) Sample.alone_created _

/-- After an authorised submission the two contracts report different statuses, and only the
    stand-alone escrow still lets the payer cancel. -/
theorem contracts_disagree_after_submit :
    ∃ (f₁ f₂ : Factory.State Factory.Sample.host) (e₁ e₂ : Escrow.State Escrow.Sample.host)
      (a : Factory.CreateArgs Nat) (c : Escrow.Call Nat) (xs : List (Request Nat)),
      f₁.Initial ∧ Factory.createEscrow (fun _ => true) a f₁ = .ok (0, f₂) ∧ e₁.Initial ∧
      Escrow.Created e₁ c (standalone a "" .payer) e₂ ∧
      (factory a 0 f₂).outputs f₂ xs =
        [⟨true, 0, 0, some .workSubmitted⟩, ⟨false, 0, 0, some .workSubmitted⟩] ∧
      (escrow a e₂).outputs e₂ xs =
        [⟨true, 0, 0, some .active⟩, ⟨true, 100, 0, some .cancelled⟩] :=
  ⟨Factory.Sample.start, Sample.inFactory, Escrow.Sample.start 100 0, Sample.alone, Sample.deal,
    _, [Sample.request .submitWork 2, Sample.request .cancel 3], Factory.Sample.start_initial,
    Sample.deal_created, Escrow.Sample.start_initial 100 0, Sample.alone_created, by decide,
    by decide⟩

end StarEscrow.Deal
