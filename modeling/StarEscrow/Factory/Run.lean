/-
  StarEscrow.Factory.Run

  Runs of the factory contract, and when its calls return.

  `submit_work`, `approve` and `cancel` follow one pattern: they load the
  record of an id, ask for a status and an authorisation, pay somebody or
  nobody, and store the record with its next status.  `Action` names the three,
  `Action.exec_ok` is the one lemma about them.

  A run interleaves calls, failed calls, and whatever the rest of the ledger
  does, except that nobody but the factory spends the factory's own balances.
-/

import StarEscrow.Lib.Mealy
import StarEscrow.Factory.Contract

namespace StarEscrow.Factory

open Invoke

/-! ## Actions on one escrow -/

inductive Action
  | submitWork
  | approve
  | cancel
  deriving DecidableEq, Repr

namespace Action

/-- The status the action asks for. -/
def source : Action → EscrowStatus
  | submitWork => .active
  | approve => .workSubmitted
  | cancel => .active

/-- The status it leaves. -/
def target : Action → EscrowStatus
  | submitWork => .workSubmitted
  | approve => .completed
  | cancel => .cancelled

/-- The error when the status is another one. -/
def refusal : Action → FactoryError
  | submitWork => .notActive
  | approve => .workNotSubmitted
  | cancel => .notActive

variable {Address : Type}

/-- Who has to authorise it. -/
def caller (r : EscrowRecord Address) : Action → Address
  | submitWork => r.freelancer
  | approve => r.payer
  | cancel => r.payer

/-- Whom it pays the amount. -/
def payee (r : EscrowRecord Address) : Action → Option Address
  | submitWork => none
  | approve => some r.freelancer
  | cancel => some r.payer

/-- The record it stores. -/
def result (r : EscrowRecord Address) (x : Action) : EscrowRecord Address :=
  { r with status := x.target }

variable [DecidableEq Address] {H : Host Address}

def exec (auth : Address → Bool) (id : UInt64) (s : State H) : Action → Exec (State H)
  | submitWork => Factory.submitWork auth id s
  | approve => Factory.approve auth id s
  | cancel => Factory.cancel auth id s

end Action

/-! ## Steps and runs -/

inductive Op (Address : Type)
  | createEscrow (a : CreateArgs Address)
  | act (id : UInt64) (x : Action)
  deriving DecidableEq, Repr

/-- The id an operation is about; `create_escrow` is about none yet. -/
def Op.id? {Address : Type} : Op Address → Option UInt64
  | .createEscrow _ => none
  | .act id _ => some id

/-- A call: who authorises it, and what it asks for. -/
structure Call (Address : Type) where
  auth : Address → Bool
  op : Op Address

/-- What one step of a run was. -/
inductive Label (Address : Type)
  | returned (c : Call Address)
  | aborted (c : Call Address)
  | outside

/-- The escrow the step created. -/
def Label.created? {Address : Type} : Label Address → Option (CreateArgs Address)
  | .returned ⟨_, .createEscrow a⟩ => some a
  | _ => none

theorem Label.created?_eq {Address : Type} {l : Label Address} {c : Call Address}
    {a : CreateArgs Address} (h_label : l = .returned c) (h_op : c.op = .createEscrow a) :
    l.created? = some a := by
  obtain ⟨auth, op⟩ := c
  subst h_label
  cases h_op
  rfl

def Label.isOutside {Address : Type} : Label Address → Bool
  | .outside => true
  | _ => false

variable {Address : Type} [DecidableEq Address] {H : Host Address}

/-- The state a call leaves, or why it fails. -/
def Call.run (c : Call Address) (s : State H) : Exec (State H) :=
  match c.op with
  | .createEscrow a => (createEscrow c.auth a s).map (·.2)
  | .act id x => x.exec c.auth id s

inductive Step : State H → Label Address → State H → Prop
  | returned {s s' : State H} {c : Call Address} (h_run : c.run s = .ok s') :
      Step s (.returned c) s'
  | aborted {s : State H} {c : Call Address} {f : Failure FactoryError}
      (h_run : c.run s = .error f) : Step s (.aborted c) s
  | outside {s : State H} {w : H.World}
      (h_keeps : ∀ token, s.funds token ≤ H.balance w token H.currentContract) :
      Step s .outside (s.putWorld w)

abbrev Entry (H : Host Address) := Lts.Entry (State H) (Label Address)

abbrev Run (s : State H) (tr : List (Entry H)) (s' : State H) : Prop := Lts.Run Step s tr s'

/-- Nothing stored, nothing done. -/
structure State.Initial (s : State H) : Prop where
  nextId : s.storage.nextId = none
  escrow : ∀ id, s.storage.escrow id = none
  index : ∀ key, s.storage.index key = none
  log : s.log = []

/-! ## Playing a list of calls -/

/-- The state after a call, whether it returns or not. -/
def Call.perform (c : Call Address) (s : State H) : State H :=
  match c.run s with
  | .ok s' => s'
  | .error _ => s

/-- What the caller learns: success, or the failure. -/
def Call.result (c : Call Address) (s : State H) : Exec Unit := (c.run s).map fun _ => ()

def Call.label (c : Call Address) (s : State H) : Label Address :=
  match c.run s with
  | .ok _ => .returned c
  | .error _ => .aborted c

def Call.returns (c : Call Address) (s : State H) : Bool := (c.run s).isOk

theorem Call.perform_of_run {c : Call Address} {s s' : State H} (h : c.run s = .ok s') :
    c.returns s = true ∧ c.perform s = s' := by
  unfold Call.returns Call.perform
  rw [h]
  exact ⟨rfl, rfl⟩

theorem Call.step_perform (c : Call Address) (s : State H) : Step s (c.label s) (c.perform s) := by
  unfold Call.label Call.perform
  cases h_run : c.run s with
  | ok s' => exact .returned h_run
  | error f => exact .aborted h_run

/-- The contract as a machine: it answers a call with the label of its step. -/
def machine (H : Host Address) : Mealy.Machine (Call Address) (State H) (Label Address) :=
  ⟨Call.perform, Call.label⟩

def play (l : List (Call Address)) (s : State H) : State H := (machine H).final s l

def playTrace (l : List (Call Address)) (s : State H) : List (Entry H) := (machine H).trace s l

/-- The calls all return. -/
def AllReturn (l : List (Call Address)) (s : State H) : Bool := (machine H).All Call.returns s l

theorem run_play (l : List (Call Address)) (s : State H) : Run s (playTrace l s) (play l s) :=
  Mealy.run_trace (p := fun _ _ => true) (fun c s _ => c.step_perform s) (Mealy.all_true s l)

/-! ## When calls return -/

theorem transfer_ok {token src dst : Address} {x : Int} {s s' : State H} :
    transfer token src dst x s = .ok s' ↔ ∃ w, H.transfer s.world token src dst x = some w ∧
      s' = (s.putWorld w).push (.transfer ⟨token, src, dst, x⟩) := by
  simp only [transfer, bind_ok, pure_ok, orTrap_ok]
  constructor
  · rintro ⟨w, h_w, rfl⟩
    exact ⟨w, h_w, rfl⟩
  · rintro ⟨w, h_w, rfl⟩
    exact ⟨w, h_w, rfl⟩

theorem nextId_ok {s s' : State H} {id : UInt64} :
    nextId s = .ok (id, s') ↔ id = s.storage.nextId.getD 0 ∧ ∃ next : UInt64,
      next.toNat = id.toNat + 1 ∧ s' = s.putNextId next := by
  simp only [nextId, bind_ok, pure_ok, orTrap_ok, Checked.addU64_eq_some, UInt64.toNat_one,
    Prod.mk.injEq]
  constructor
  · rintro ⟨next, h_next, rfl, rfl⟩
    exact ⟨rfl, next, h_next, rfl⟩
  · rintro ⟨rfl, next, h_next, rfl⟩
    exact ⟨next, h_next, rfl, rfl⟩

/-- The state `create_escrow` leaves: the escrow got the number `id`, the counter goes to `next`. -/
def State.created (s : State H) (a : CreateArgs Address) (id next : UInt64) (w : H.World) :
    State H :=
  let paid := (s.putWorld w).push (.transfer ⟨a.token, a.payer, H.currentContract, a.amount⟩)
  let saved := saveEscrow (a.record id) (paid.putNextId next)
  let indexed := appendToIndex (.freelancerIndex a.freelancer) id
    (appendToIndex (.payerIndex a.payer) id saved)
  indexed.push (.event (.escrowCreated id a.payer a.freelancer a.amount))

theorem createEscrow_ok {auth : Address → Bool} {a : CreateArgs Address} {s s' : State H}
    {id : UInt64} :
    createEscrow auth a s = .ok (id, s') ↔ 0 < a.amount ∧ auth a.payer = true ∧
      ∃ w, H.transfer s.world a.token a.payer H.currentContract a.amount = some w ∧
        id = s.storage.nextId.getD 0 ∧ ∃ next : UInt64, next.toNat = id.toNat + 1 ∧
          s' = s.created a id next w := by
  simp only [createEscrow, bind_ok, errIf_ok, requireAuth_ok, transfer_ok, pure_ok, Prod.exists,
    nextId_ok, Prod.mk.injEq, Int.not_le]
  constructor
  · rintro ⟨-, h_pos, -, h_auth, _, ⟨w, h_w, rfl⟩, _, _, ⟨h_id, next, h_next, rfl⟩, rfl, rfl⟩
    exact ⟨h_pos, h_auth, w, h_w, h_id, next, h_next, rfl⟩
  · rintro ⟨h_pos, h_auth, w, h_w, h_id, next, h_next, rfl⟩
    exact ⟨(), h_pos, (), h_auth, _, ⟨w, h_w, rfl⟩, _, _, ⟨h_id, next, h_next, rfl⟩, rfl, rfl⟩

/-! ## Actions: their checks, and what they do -/

/-- The checks of an action, on the stored record. -/
def Action.check {Address : Type} (auth : Address → Bool) (o : Option (EscrowRecord Address))
    (x : Action) : Exec (EscrowRecord Address) := do
  let r ← orErr o .notFound
  errIf (r.status ≠ x.source) x.refusal
  requireAuth auth (x.caller r)
  return r

theorem Action.check_ok {Address : Type} {auth : Address → Bool}
    {o : Option (EscrowRecord Address)} {x : Action} {r : EscrowRecord Address} :
    x.check auth o = .ok r ↔ o = some r ∧ r.status = x.source ∧ auth (x.caller r) = true := by
  simp only [Action.check, bind_ok, orErr_ok, errIf_ok, requireAuth_ok, pure_ok, not_not]
  constructor
  · rintro ⟨_, h_o, -, h_status, -, h_auth, rfl⟩
    exact ⟨h_o, h_status, h_auth⟩
  · rintro ⟨h_o, h_status, h_auth⟩
    exact ⟨r, h_o, (), h_status, (), h_auth, rfl⟩

/-- What an action does once its checks have passed. -/
def Action.settle (id : UInt64) (r : EscrowRecord Address) (s : State H) :
    Action → Exec (State H)
  | .submitWork => pure (saveEscrow (submitWork.result r) s)
  | .approve => do
      let s ← transfer r.token H.currentContract r.freelancer r.amount s
      return saveEscrow (approve.result r)
        (s.push (.event (.paymentReleased id r.freelancer r.amount)))
  | .cancel => do
      let s ← transfer r.token H.currentContract r.payer r.amount s
      return saveEscrow (cancel.result r) (s.push (.event (.escrowCancelled id r.payer r.amount)))

/-- Every action is its checks, then its effect. -/
theorem Action.exec_eq (auth : Address → Bool) (id : UInt64) (x : Action) (s : State H) :
    x.exec auth id s = x.check auth (s.storage.escrow id) >>= fun r => x.settle id r s := by
  cases x <;> simp only [Action.check, bind_assoc, pure_bind] <;> rfl

/-- `amount` went from the factory to the payee, or nobody was paid. -/
def Pays (s s' : State H) (token : Address) (amount : Int) : Option Address → Prop
  | none => s'.world = s.world ∧ s'.transfers = s.transfers
  | some dst => H.transfer s.world token H.currentContract dst amount = some s'.world ∧
      s'.transfers = s.transfers ++ [⟨token, H.currentContract, dst, amount⟩]

/-- The effect of an action: its record is stored, its payee paid. -/
theorem Action.settle_ok {id : UInt64} {r : EscrowRecord Address} {x : Action} {s s' : State H}
    (h : x.settle id r s = .ok s') :
    s'.storage = (saveEscrow (x.result r) s).storage ∧ Pays s s' r.token r.amount (x.payee r) := by
  cases x with
  | submitWork =>
      obtain rfl := pure_ok.mp h
      exact ⟨rfl, rfl, rfl⟩
  | approve | cancel =>
      simp only [Action.settle, bind_ok, transfer_ok, pure_ok] at h
      obtain ⟨_, ⟨w, h_w, rfl⟩, rfl⟩ := h
      refine ⟨rfl, h_w, ?_⟩
      simp [State.transfers, State.push, saveEscrow, State.putEscrow, State.putWorld,
        Effect.transfer?]

/-- An action that returns passed its checks, stored its record and paid its payee. -/
theorem Action.exec_ok {auth : Address → Bool} {id : UInt64} {x : Action} {s s' : State H}
    (h : x.exec auth id s = .ok s') : ∃ r, x.check auth (s.storage.escrow id) = .ok r ∧
      s'.storage = (saveEscrow (x.result r) s).storage ∧
      Pays s s' r.token r.amount (x.payee r) := by
  rw [Action.exec_eq, bind_ok] at h
  obtain ⟨r, h_check, h_settle⟩ := h
  exact ⟨r, h_check, Action.settle_ok h_settle⟩

/-- The checks decide the error. -/
theorem Action.exec_of_check_error {auth : Address → Bool} {id : UInt64} {x : Action} {s : State H}
    {f : Failure FactoryError} (h : x.check auth (s.storage.escrow id) = .error f) :
    x.exec auth id s = .error f := by
  rw [Action.exec_eq, h]
  rfl

/-- Past the checks, only the token can refuse. -/
theorem Action.exec_of_check {auth : Address → Bool} {id : UInt64} {x : Action} {s : State H}
    {r : EscrowRecord Address} (h : x.check auth (s.storage.escrow id) = .ok r)
    (h_pay : ∀ dst ∈ x.payee r,
      ∃ w, H.transfer s.world r.token H.currentContract dst r.amount = some w) :
    ∃ s', x.exec auth id s = .ok s' := by
  rw [Action.exec_eq, h]
  show ∃ s', x.settle id r s = .ok s'
  cases x with
  | submitWork => exact ⟨_, rfl⟩
  | approve =>
      obtain ⟨w, h_w⟩ := h_pay r.freelancer rfl
      simp only [Action.settle, bind_ok, transfer_ok, pure_ok]
      exact ⟨_, _, ⟨w, h_w, rfl⟩, rfl⟩
  | cancel =>
      obtain ⟨w, h_w⟩ := h_pay r.payer rfl
      simp only [Action.settle, bind_ok, transfer_ok, pure_ok]
      exact ⟨_, _, ⟨w, h_w, rfl⟩, rfl⟩

end StarEscrow.Factory
