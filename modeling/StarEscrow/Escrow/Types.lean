/-
  StarEscrow.Escrow.Types

  The data of the escrow contract: the stored records of `storage.rs`, the
  error codes of `errors.rs` and the events of `events.rs`.

  `i128` amounts are `Int`s; the arithmetic that produces them is range-checked
  where the contract computes it.  `u64` and `u32` fields keep their width.
  The record field `amount`, which `release_recurring`, `cancel` and `expire`
  still read, was replaced by `total_amount`; it is `EscrowData.amount` below.
-/

import Mathlib.Algebra.Order.BigOperators.Group.List
import Mathlib.Algebra.Order.Ring.Int

namespace StarEscrow.Escrow

/-- `errors.rs`. -/
inductive EscrowError
  | alreadyExists
  | notActive
  | workNotSubmitted
  | invalidAmount
  | deadlineNotPassed
  | notExpired
  | unauthorized
  | paused
  | tokenNotAllowed
  | intervalNotElapsed
  | recurrenceComplete
  | notRecurring
  | milestoneInvalidIndex
  | milestoneNotPending
  | milestoneNotSubmitted
  | milestoneAlreadyApproved
  | invalidDeadline
  deriving DecidableEq, Repr

/-- The number a caller sees. -/
def EscrowError.code : EscrowError → UInt32
  | .alreadyExists => 1
  | .notActive => 2
  | .workNotSubmitted => 3
  | .invalidAmount => 4
  | .deadlineNotPassed => 5
  | .notExpired => 6
  | .unauthorized => 7
  | .paused => 8
  | .tokenNotAllowed => 9
  | .intervalNotElapsed => 10
  | .recurrenceComplete => 11
  | .notRecurring => 12
  | .milestoneInvalidIndex => 13
  | .milestoneNotPending => 14
  | .milestoneNotSubmitted => 15
  | .milestoneAlreadyApproved => 16
  | .invalidDeadline => 17

inductive EscrowStatus
  | active
  | workSubmitted
  | completed
  | cancelled
  | expired
  deriving DecidableEq, Repr

/-- The states `PROTOCOL.md` calls terminal. -/
def EscrowStatus.Terminal (st : EscrowStatus) : Prop :=
  st = .completed ∨ st = .cancelled ∨ st = .expired

instance : DecidablePred EscrowStatus.Terminal := fun st =>
  inferInstanceAs (Decidable (st = .completed ∨ st = .cancelled ∨ st = .expired))

theorem EscrowStatus.Terminal.ne_active {st : EscrowStatus} (h : st.Terminal) : st ≠ .active := by
  rcases h with rfl | rfl | rfl <;> decide

/-- Recipient of accrued yield. -/
inductive YieldRecipient
  | payer
  | freelancer
  deriving DecidableEq, Repr

inductive MilestoneStatus
  | pending
  | submitted
  | approved
  deriving DecidableEq, Repr

structure Milestone where
  description : String
  amount : Int
  status : MilestoneStatus
  deriving DecidableEq, Repr

/-- The escrow record. -/
structure EscrowData (Address : Type) where
  payer : Address
  freelancer : Address
  token : Address
  totalAmount : Int
  milestones : List Milestone
  status : EscrowStatus
  deadline : Option UInt64
  yieldProtocol : Option Address
  principalDeposited : Int
  yieldRecipient : YieldRecipient
  /-- Seconds between recurring releases (0 = disabled). -/
  interval : UInt64
  /-- Number of recurring releases allowed (0 = disabled). -/
  recurrenceCount : UInt32
  releasesMade : UInt32
  /-- Time of the last release, or of creation before the first. -/
  lastReleaseTime : UInt64
  deriving DecidableEq, Repr

/-- `data.amount`, read as the field that replaced it. -/
def EscrowData.amount {Address : Type} (d : EscrowData Address) : Int := d.totalAmount

/-- Admin, pause flag and fee. -/
structure ProtocolConfig (Address : Type) where
  admin : Address
  paused : Bool
  feeBps : UInt32
  feeCollector : Address
  deriving DecidableEq, Repr

/-- The instance storage, one field a key, with its remaining time to live in ledgers. -/
structure Storage (Address : Type) where
  config : Option (ProtocolConfig Address)
  escrow : Option (EscrowData Address)
  allowedTokens : Option (List Address)
  ttl : Nat
  deriving DecidableEq, Repr

/-- The events of `events.rs` that the contract publishes. -/
inductive Event (Address : Type)
  | escrowCreated (payer freelancer : Address) (totalAmount : Int) (milestones : List Milestone)
  | milestoneSubmitted (freelancer : Address) (idx : Nat) (description : String)
  | milestoneApproved (freelancer : Address) (idx : Nat) (description : String) (amount : Int)
  | paymentReleased (freelancer : Address) (amount : Int)
  | escrowCancelled (payer : Address) (amount : Int)
  | escrowExpired (payer : Address) (amount : Int)
  | freelancerTransferred (old new : Address)
  | payerTransferred (oldPayer newPayer : Address)
  | deadlineExtended (oldDeadline newDeadline : UInt64)
  | contractPaused (admin : Address)
  | contractUnpaused (admin : Address)
  | yieldDeposited (protocol : Address) (amount : Int)
  | recurringReleased (freelancer : Address) (amount : Int) (releaseNum : UInt32)
  deriving DecidableEq, Repr

/-- A token transfer the contract asked a token contract for. -/
structure Transfer (Address : Type) where
  token : Address
  src : Address
  dst : Address
  amount : Int
  deriving DecidableEq, Repr

/-- A withdrawal from a yield protocol, with the pair it returned. -/
structure Withdrawal (Address : Type) where
  protocol : Address
  requested : Int
  principal : Int
  yieldAccrued : Int
  deriving DecidableEq, Repr

/-- What a call does outside the contract's own storage, in order. -/
inductive Effect (Address : Type)
  | transfer (t : Transfer Address)
  | deposit (protocol : Address) (amount : Int)
  | withdraw (w : Withdrawal Address)
  | event (e : Event Address)
  deriving DecidableEq, Repr

def Effect.transfer? {Address : Type} : Effect Address → Option (Transfer Address)
  | .transfer t => some t
  | _ => none

def Effect.withdraw? {Address : Type} : Effect Address → Option (Withdrawal Address)
  | .withdraw w => some w
  | _ => none

/-! ## Amounts of a milestone list -/

/-- Total of the amounts of all milestones. -/
def milestoneTotal (ms : List Milestone) : Int := (ms.map (·.amount)).sum

/-- What `cancel` and `expire` count as released: the amounts of the `Approved` milestones. -/
def releasedAmounts (ms : List Milestone) : List Int :=
  ms.map fun m => if m.status = .approved then m.amount else 0

def approvedTotal (ms : List Milestone) : Int := (releasedAmounts ms).sum

end StarEscrow.Escrow
