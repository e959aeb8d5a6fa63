/-
  StarEscrow.Factory.Contract

  The factory contract: many escrows of one amount each, held in one contract.

  The storage has a counter, a map of records and one index list for every
  payer and every freelancer.  An entry point is a function of the addresses
  that authorise the call and of the state it finds; when it fails, the host
  keeps that state.
-/

import StarEscrow.Lib.Checked
import StarEscrow.Lib.Invoke
import StarEscrow.Lib.Sep41
import StarEscrow.Escrow.Types

namespace StarEscrow.Factory

open Invoke

/-! ## Types -/

inductive EscrowStatus
  | active
  | workSubmitted
  | completed
  | cancelled
  deriving DecidableEq, Repr

structure EscrowRecord (Address : Type) where
  id : UInt64
  payer : Address
  freelancer : Address
  token : Address
  amount : Int
  milestone : String
  status : EscrowStatus
  deriving DecidableEq, Repr

inductive FactoryError
  | notFound
  | notActive
  | workNotSubmitted
  | invalidAmount
  | unauthorized
  deriving DecidableEq, Repr

/-- The keys of the index lists. -/
inductive DataKey (Address : Type)
  | payerIndex (a : Address)
  | freelancerIndex (a : Address)
  deriving DecidableEq, Repr

/-- The instance storage. -/
structure Storage (Address : Type) where
  nextId : Option UInt64
  escrow : UInt64 → Option (EscrowRecord Address)
  index : DataKey Address → Option (List UInt64)

inductive Event (Address : Type)
  | escrowCreated (id : UInt64) (payer freelancer : Address) (amount : Int)
  | paymentReleased (id : UInt64) (freelancer : Address) (amount : Int)
  | escrowCancelled (id : UInt64) (payer : Address) (amount : Int)
  deriving DecidableEq, Repr

/-- What a call does outside the factory's own storage, in order. -/
inductive Effect (Address : Type)
  | transfer (t : Escrow.Transfer Address)
  | event (e : Event Address)
  deriving DecidableEq, Repr

def Effect.transfer? {Address : Type} : Effect Address → Option (Escrow.Transfer Address)
  | .transfer t => some t
  | .event _ => none

/-- The token contracts, and the address of the factory. -/
structure Host (Address : Type) [DecidableEq Address] extends Sep41 Address where
  currentContract : Address

variable {Address : Type} [DecidableEq Address]

structure State (H : Host Address) where
  storage : Storage Address
  world : H.World
  log : List (Effect Address)

/-- What an entry point returns, or why it does not. -/
abbrev Exec (α : Type) : Type := Except (Failure FactoryError) α

namespace State

variable {H : Host Address}

def putNextId (s : State H) (id : UInt64) : State H :=
  { s with storage := { s.storage with nextId := some id } }

def putEscrow (s : State H) (id : UInt64) (r : EscrowRecord Address) : State H :=
  { s with storage := { s.storage with
      escrow := fun j => if j = id then some r else s.storage.escrow j } }

def putIndex (s : State H) (key : DataKey Address) (ids : List UInt64) : State H :=
  { s with storage := { s.storage with
      index := fun k => if k = key then some ids else s.storage.index k } }

def push (s : State H) (e : Effect Address) : State H := { s with log := s.log ++ [e] }

def putWorld (s : State H) (w : H.World) : State H := { s with world := w }

/-- The transfers the factory has asked for so far. -/
def transfers (s : State H) : List (Escrow.Transfer Address) := s.log.filterMap Effect.transfer?

/-- The factory's own balance of a token. -/
def funds (s : State H) (token : Address) : Int := H.balance s.world token H.currentContract

end State

variable {H : Host Address}

/-! ## Storage helpers -/

def nextId (s : State H) : Exec (UInt64 × State H) := do
  let id := s.storage.nextId.getD 0
  let next ← orTrap (Checked.addU64 id 1) .overflow
  return (id, s.putNextId next)

def saveEscrow (record : EscrowRecord Address) (s : State H) : State H :=
  s.putEscrow record.id record

def loadEscrow (id : UInt64) (s : State H) : Exec (EscrowRecord Address) :=
  orErr (s.storage.escrow id) .notFound

def getIndex (key : DataKey Address) (s : State H) : List UInt64 := (s.storage.index key).getD []

def appendToIndex (key : DataKey Address) (id : UInt64) (s : State H) : State H :=
  s.putIndex key (getIndex key s ++ [id])

/-- `token::Client::transfer`. -/
def transfer (token src dst : Address) (amount : Int) (s : State H) : Exec (State H) := do
  let w ← orTrap (H.transfer s.world token src dst amount) .token
  return (s.putWorld w).push (.transfer ⟨token, src, dst, amount⟩)

/-! ## Entry points -/

/-- The arguments of `create_escrow`. -/
structure CreateArgs (Address : Type) where
  payer : Address
  freelancer : Address
  token : Address
  amount : Int
  milestone : String
  deriving DecidableEq, Repr

/-- The record `create_escrow` stores. -/
def CreateArgs.record (a : CreateArgs Address) (id : UInt64) : EscrowRecord Address where
  id := id
  payer := a.payer
  freelancer := a.freelancer
  token := a.token
  amount := a.amount
  milestone := a.milestone
  status := .active

def createEscrow (auth : Address → Bool) (a : CreateArgs Address) (s : State H) :
    Exec (UInt64 × State H) := do
  errIf (a.amount ≤ 0) .invalidAmount
  requireAuth auth a.payer
  let s ← transfer a.token a.payer H.currentContract a.amount s
  let (id, s) ← nextId s
  let s := saveEscrow (a.record id) s
  let s := appendToIndex (.payerIndex a.payer) id s
  let s := appendToIndex (.freelancerIndex a.freelancer) id s
  return (id, s.push (.event (.escrowCreated id a.payer a.freelancer a.amount)))

def submitWork (auth : Address → Bool) (id : UInt64) (s : State H) : Exec (State H) := do
  let record ← loadEscrow id s
  errIf (record.status ≠ .active) .notActive
  requireAuth auth record.freelancer
  return saveEscrow { record with status := .workSubmitted } s

def approve (auth : Address → Bool) (id : UInt64) (s : State H) : Exec (State H) := do
  let record ← loadEscrow id s
  errIf (record.status ≠ .workSubmitted) .workNotSubmitted
  requireAuth auth record.payer
  let s ← transfer record.token H.currentContract record.freelancer record.amount s
  let s := s.push (.event (.paymentReleased id record.freelancer record.amount))
  return saveEscrow { record with status := .completed } s

def cancel (auth : Address → Bool) (id : UInt64) (s : State H) : Exec (State H) := do
  let record ← loadEscrow id s
  errIf (record.status ≠ .active) .notActive
  requireAuth auth record.payer
  let s ← transfer record.token H.currentContract record.payer record.amount s
  let s := s.push (.event (.escrowCancelled id record.payer record.amount))
  return saveEscrow { record with status := .cancelled } s

/-! ## Queries -/

def getEscrow (id : UInt64) (s : State H) : Exec (EscrowRecord Address) := loadEscrow id s

def listByPayer (payer : Address) (s : State H) : List UInt64 := getIndex (.payerIndex payer) s

def listByFreelancer (freelancer : Address) (s : State H) : List UInt64 :=
  getIndex (.freelancerIndex freelancer) s

end StarEscrow.Factory
