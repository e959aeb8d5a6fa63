/-
  StarEscrow.Escrow.Contract

  The escrow contract: the storage helpers of `storage.rs` and the entry points
  of `lib.rs`, in the order of the source.

  An entry point that returns `Err` or traps leaves no trace (the host rolls it
  back), so only the order of the checks before the first effect matters, and
  that order is the source's.
-/

import StarEscrow.Escrow.Env

namespace StarEscrow.Escrow

open Exec

variable {Address : Type} [DecidableEq Address] {H : Host Address}

/-! ## `storage.rs` -/

/-- About one day of ledgers. -/
def ttlMinLedgers : Nat := 17280

/-- About thirty days of ledgers. -/
def ttlMaxLedgers : Nat := 518400

/-- `extend_ttl(threshold, extend_to)` raises a time to live below the threshold. -/
def State.touch (s : State H) : State H :=
  s.putTtl (if s.storage.ttl < ttlMinLedgers then ttlMaxLedgers else s.storage.ttl)

def extendTtl : Exec H Unit := update State.touch

def saveEscrow (data : EscrowData Address) : Exec H Unit := update (·.putEscrow data)

def loadEscrow : Exec H (EscrowData Address) := do
  orTrap (← reads (·.storage.escrow)) (.expect "escrow not initialised")

def hasEscrow : Exec H Bool := reads (·.storage.escrow.isSome)

def readAllowedTokens : Exec H (List Address) := reads (·.storage.allowedTokens.getD [])

def writeAllowedTokens (tokens : List Address) : Exec H Unit := update (·.putAllowedTokens tokens)

/-- Whether the token was added. -/
def addToAllowlist (token : Address) : Exec H Bool := do
  let tokens ← readAllowedTokens
  if token ∈ tokens then
    pure false
  else
    writeAllowedTokens (tokens ++ [token])
    pure true

/-- Whether the token was removed. -/
def removeFromAllowlist (token : Address) : Exec H Bool := do
  let tokens ← readAllowedTokens
  -- the list that remains may be empty, and is stored as such
  let newTokens := tokens.filter (· ≠ token)
  if newTokens.length < tokens.length then
    writeAllowedTokens newTokens
    pure true
  else
    pure false

def saveConfig (config : ProtocolConfig Address) : Exec H Unit := update (·.putConfig config)

def loadConfig : Exec H (ProtocolConfig Address) := do
  orTrap (← reads (·.storage.config)) (.expect "protocol not initialised")

def hasConfig : Exec H Bool := reads (·.storage.config.isSome)

/-! ## Configuration -/

def assertNotPaused : Exec H Unit := do
  if ← hasConfig then
    errIf (← loadConfig).paused .paused
  else
    pure ()

def init (admin : Address) (feeBps : UInt32) (feeCollector : Address) : Exec H Unit := do
  errIf (← hasConfig) .alreadyExists
  requireAuth admin
  saveConfig { admin, paused := false, feeBps, feeCollector }
  extendTtl

def pause : Exec H Unit := do
  let config ← loadConfig
  requireAuth config.admin
  emit (.contractPaused config.admin)
  saveConfig { config with paused := true }
  extendTtl

def unpause : Exec H Unit := do
  let config ← loadConfig
  requireAuth config.admin
  emit (.contractUnpaused config.admin)
  saveConfig { config with paused := false }
  extendTtl

/-! ## Creation -/

/-- The arguments of `create`. -/
structure CreateArgs (Address : Type) where
  payer : Address
  freelancer : Address
  token : Address
  milestones : List Milestone
  deadline : Option UInt64
  yieldProtocol : Option Address
  yieldRecipient : YieldRecipient
  interval : UInt64
  recurrenceCount : UInt32
  deriving DecidableEq, Repr

/-- The loop of `create` over the milestones: reject a non-positive amount, add the others up. -/
def sumMilestones : Int → List Milestone → Exec H Int
  | totalAmount, [] => pure totalAmount
  | totalAmount, m :: ms => do
      errIf (m.amount ≤ 0) .invalidAmount
      -- `total_amount += m.amount`, in `i128`
      sumMilestones (← orTrap (Checked.i128 (totalAmount + m.amount)) .overflow) ms

/-- The record `create` starts from. -/
def CreateArgs.record (a : CreateArgs Address) (totalAmount : Int) (now : UInt64) :
    EscrowData Address where
  payer := a.payer
  freelancer := a.freelancer
  token := a.token
  totalAmount := totalAmount
  milestones := a.milestones
  status := .active
  deadline := a.deadline
  yieldProtocol := a.yieldProtocol
  principalDeposited := 0
  yieldRecipient := a.yieldRecipient
  interval := a.interval
  recurrenceCount := a.recurrenceCount
  releasesMade := 0
  lastReleaseTime := now

/-- `if let Some(protocol)`: lend the locked amount to the yield protocol. -/
def depositYield (data : EscrowData Address) : Exec H (EscrowData Address) :=
  match data.yieldProtocol with
  | some protocol => do
      deposit protocol data.totalAmount
      emit (.yieldDeposited protocol data.totalAmount)
      pure { data with principalDeposited := data.totalAmount }
  | none => pure data

def create (a : CreateArgs Address) : Exec H Unit := do
  assertNotPaused
  errIf (← hasEscrow) .alreadyExists
  errIf a.milestones.isEmpty .invalidAmount
  let totalAmount ← sumMilestones 0 a.milestones
  errIf (totalAmount ≤ 0) .invalidAmount
  let allowed ← readAllowedTokens
  errIf (allowed ≠ [] ∧ a.token ∉ allowed) .tokenNotAllowed
  requireAuth a.payer
  transfer a.token a.payer H.currentContract totalAmount
  let now ← timestamp
  let data ← depositYield (a.record totalAmount now)
  -- the milestones are stored as passed, whatever their statuses
  saveEscrow data
  emit (.escrowCreated a.payer a.freelancer totalAmount a.milestones)
  extendTtl

/-! ## Milestones -/

def submitWork (milestoneIdx : Nat) : Exec H Unit := do
  assertNotPaused
  let data ← loadEscrow
  errIf (data.status ≠ .active) .notActive
  let milestone ← orErr data.milestones[milestoneIdx]? .milestoneInvalidIndex
  errIf (milestone.status ≠ .pending) .milestoneNotPending
  requireAuth data.freelancer
  saveEscrow { data with
    milestones := data.milestones.set milestoneIdx { milestone with status := .submitted } }
  emit (.milestoneSubmitted data.freelancer milestoneIdx milestone.description)
  extendTtl

/-- The payment code `approve` and `release_recurring` repeat: charge the configured fee on a
    gross amount, pay the freelancer the rest, and return the net payment. -/
def payFreelancer (token freelancer : Address) (amount : Int) : Exec H Int := do
  let freelancerAmount ← (do
    if ← hasConfig then
      let config ← loadConfig
      let product ← orTrap (Checked.i128 (amount * config.feeBps.toNat)) .overflow
      -- the division of `i128` truncates toward zero
      let fee := product.tdiv 10000
      (if 0 < fee then transfer token H.currentContract config.feeCollector fee else pure ())
      orTrap (Checked.i128 (amount - fee)) .overflow
    else
      pure amount)
  transfer token H.currentContract freelancer freelancerAmount
  pure freelancerAmount

def approve (milestoneIdx : Nat) : Exec H Unit := do
  assertNotPaused
  let data ← loadEscrow
  let milestone ← orErr data.milestones[milestoneIdx]? .milestoneInvalidIndex
  -- of the two statuses only the milestone's is asked for
  errIf (milestone.status ≠ .submitted) .milestoneNotSubmitted
  requireAuth data.payer
  let freelancerAmount ← payFreelancer data.token data.freelancer milestone.amount
  emit (.milestoneApproved data.freelancer milestoneIdx milestone.description freelancerAmount)
  let milestones := data.milestones.set milestoneIdx { milestone with status := .approved }
  saveEscrow { data with
    milestones := milestones
    -- a status other than `Active` is overwritten as well
    status := if ∀ m ∈ milestones, m.status = .approved then .completed else data.status }
  extendTtl

/-! ## Recurring releases -/

def releaseRecurring : Exec H Unit := do
  assertNotPaused
  let data ← loadEscrow
  errIf (data.interval = 0 ∨ data.recurrenceCount = 0) .notRecurring
  errIf (data.status ≠ .active) .notActive
  errIf (data.recurrenceCount ≤ data.releasesMade) .recurrenceComplete
  let now ← timestamp
  let due ← orTrap (Checked.addU64 data.lastReleaseTime data.interval) .overflow
  errIf (now < due) .intervalNotElapsed
  let releaseAmount ← payFreelancer data.token data.freelancer data.amount
  let releasesMade ← orTrap (Checked.succU32 data.releasesMade) .overflow
  emit (.recurringReleased data.freelancer releaseAmount releasesMade)
  (if data.recurrenceCount ≤ releasesMade then
    emit (.paymentReleased data.freelancer releaseAmount) else pure ())
  -- the only operation that writes the record without `extend_ttl`
  saveEscrow { data with
    releasesMade := releasesMade
    lastReleaseTime := now
    status := if data.recurrenceCount ≤ releasesMade then .completed else data.status }

/-! ## Refunds -/

/-- The refund expression `cancel` and `expire` repeat; `none` is an overflow.  The recurring part
    is *added*, as the source has it. -/
def remaining (data : EscrowData Address) : Option Int := do
  let releasedAmount ← Checked.sumI128 0 (releasedAmounts data.milestones)
  let unreleased ← Checked.i128 (data.totalAmount - releasedAmount)
  let recurring ← (if 0 < data.recurrenceCount then
    Checked.i128 (data.amount * data.releasesMade.toNat) else some 0)
  Checked.i128 (unreleased + recurring)

def cancel : Exec H Unit := do
  assertNotPaused
  let data ← loadEscrow
  -- submitted milestones leave the escrow `Active` and do not stop a refund
  errIf (data.status ≠ .active) .notActive
  requireAuth data.payer
  let refund ← orTrap (remaining data) .overflow
  transfer data.token H.currentContract data.payer refund
  emit (.escrowCancelled data.payer refund)
  saveEscrow { data with status := .cancelled }
  extendTtl

def expire : Exec H Unit := do
  assertNotPaused
  let data ← loadEscrow
  errIf (data.status ≠ .active) .notActive
  let deadline ← orErr data.deadline .notExpired
  errIf ((← timestamp) ≤ deadline) .deadlineNotPassed
  requireAuth data.payer
  let refund ← orTrap (remaining data) .overflow
  transfer data.token H.currentContract data.payer refund
  emit (.escrowExpired data.payer refund)
  saveEscrow { data with status := .expired }
  extendTtl

/-! ## Roles and deadline -/

def transferFreelancer (newFreelancer : Address) : Exec H Unit := do
  assertNotPaused
  let data ← loadEscrow
  requireAuth data.freelancer
  saveEscrow { data with freelancer := newFreelancer }
  emit (.freelancerTransferred data.freelancer newFreelancer)
  extendTtl

def transferPayer (newPayer : Address) : Exec H Unit := do
  assertNotPaused
  let data ← loadEscrow
  requireAuth data.payer
  saveEscrow { data with payer := newPayer }
  emit (.payerTransferred data.payer newPayer)
  extendTtl

def extendDeadline (newDeadline : UInt64) : Exec H Unit := do
  assertNotPaused
  let data ← loadEscrow
  requireAuth data.payer
  let current ← orErr data.deadline .invalidDeadline
  errIf (newDeadline ≤ current) .invalidDeadline
  saveEscrow { data with deadline := some newDeadline }
  emit (.deadlineExtended current newDeadline)
  extendTtl

/-! ## Queries -/

def getStatus : Exec H EscrowStatus := do
  return (← loadEscrow).status

def getEscrow : Exec H (EscrowData Address) := loadEscrow

/-! ## Settlement with the yield protocol

No entry point calls this helper. -/

def withdrawFunds (data : EscrowData Address) (recipient : Address) : Exec H Unit := do
  let total ← (match data.yieldProtocol with
    | some protocol => do
        let (principal, yieldAccrued) ← withdraw protocol data.principalDeposited
        (if 0 < yieldAccrued then
          transfer data.token H.currentContract
            (match data.yieldRecipient with
              | .payer => data.payer
              | .freelancer => data.freelancer)
            yieldAccrued
        else pure ())
        pure principal
    | none => pure data.totalAmount)
  transfer data.token H.currentContract recipient total

end StarEscrow.Escrow
