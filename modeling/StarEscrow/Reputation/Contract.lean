/-
  StarEscrow.Reputation.Contract

  The reputation contract: completed and cancelled escrows counted per address.

  The admin registers callers, and a registered caller records outcomes under
  its own authorisation.  As in the factory, an entry point is a function of
  the addresses that authorise the call and of the state it finds.
-/

import StarEscrow.Lib.Checked
import StarEscrow.Lib.Invoke

namespace StarEscrow.Reputation

open Invoke

/-! ## Types -/

@[ext]
structure ReputationStats where
  completed : UInt32
  cancelled : UInt32
  deriving DecidableEq, Repr

inductive ReputationError
  | unauthorized
  | alreadyInitialized
  deriving DecidableEq, Repr

inductive Event (Address : Type)
  | reputationUpdated (address : Address) (completed cancelled : UInt32)
  deriving DecidableEq, Repr

/-- The instance storage. -/
structure Storage (Address : Type) where
  admin : Option Address
  caller : Address → Option Bool
  stats : Address → Option ReputationStats

structure State (Address : Type) where
  storage : Storage Address
  events : List (Event Address)

/-- What an entry point returns, or why it does not. -/
abbrev Exec (α : Type) : Type := Except (Failure ReputationError) α

namespace State

variable {Address : Type} [DecidableEq Address]

/-- Nothing stored, nothing published. -/
def empty : State Address := ⟨⟨none, fun _ => none, fun _ => none⟩, []⟩

def putAdmin (s : State Address) (admin : Address) : State Address :=
  { s with storage := { s.storage with admin := some admin } }

def putCaller (s : State Address) (caller : Address) (b : Bool) : State Address :=
  { s with storage := { s.storage with
      caller := fun a => if a = caller then some b else s.storage.caller a } }

def putStats (s : State Address) (address : Address) (stats : ReputationStats) : State Address :=
  { s with storage := { s.storage with
      stats := fun a => if a = address then some stats else s.storage.stats a } }

def push (s : State Address) (e : Event Address) : State Address :=
  { s with events := s.events ++ [e] }

end State

variable {Address : Type} [DecidableEq Address]

/-! ## Storage helpers -/

def loadStats (address : Address) (s : State Address) : ReputationStats :=
  (s.storage.stats address).getD ⟨0, 0⟩

def saveStats (address : Address) (stats : ReputationStats) (s : State Address) : State Address :=
  s.putStats address stats

/-! ## Entry points -/

def init (auth : Address → Bool) (admin : Address) (s : State Address) : Exec (State Address) := do
  errIf s.storage.admin.isSome .alreadyInitialized
  requireAuth auth admin
  return s.putAdmin admin

def registerCaller (auth : Address → Bool) (caller : Address) (s : State Address) :
    Exec (State Address) := do
  let admin ← orTrap s.storage.admin .unwrap
  requireAuth auth admin
  return s.putCaller caller true

/-- The body `record_completion` and `record_cancellation` share; `bump` is the `+= 1` of each. -/
def record (bump : ReputationStats → Option ReputationStats) (auth : Address → Bool)
    (caller address : Address) (s : State Address) : Exec (State Address) := do
  requireAuth auth caller
  errIf (s.storage.caller caller).isNone .unauthorized
  let stats ← orTrap (bump (loadStats address s)) .overflow
  let s := saveStats address stats s
  return s.push (.reputationUpdated address stats.completed stats.cancelled)

def recordCompletion (auth : Address → Bool) (caller address : Address) (s : State Address) :
    Exec (State Address) :=
  record (fun stats => (Checked.succU32 stats.completed).map fun n => { stats with completed := n })
    auth caller address s

def recordCancellation (auth : Address → Bool) (caller address : Address) (s : State Address) :
    Exec (State Address) :=
  record (fun stats => (Checked.succU32 stats.cancelled).map fun n => { stats with cancelled := n })
    auth caller address s

/-! ## Queries -/

def getStats (address : Address) (s : State Address) : ReputationStats := loadStats address s

/-- `completed * 10 - cancelled * 5`, the products checked, the difference saturating at zero. -/
def getReputation (address : Address) (s : State Address) : Exec UInt32 := do
  let stats := loadStats address s
  let positive ← orTrap (Checked.mulU32 stats.completed 10) .overflow
  let negative ← orTrap (Checked.mulU32 stats.cancelled 5) .overflow
  return if positive < negative then 0 else positive - negative

end StarEscrow.Reputation
