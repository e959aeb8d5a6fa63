/-
  StarEscrow.Bundle.Work

  A job in parts.

  A payer and a freelancer agree on a list of items, each with its own amount.
  The freelancer submits items, the payer approves submitted ones, one by one,
  and the payer may give up what is left.  `serve` is the whole protocol; it
  knows neither contract.  Both the factory, with one escrow for each item, and
  one escrow with a milestone for each item are meant to be this.
-/

import StarEscrow.Lib.Mealy
import StarEscrow.Lib.Register

namespace StarEscrow.Bundle

/-! ## Items -/

inductive Stage
  | pending
  | submitted
  | approved
  | refunded
  deriving DecidableEq, Repr

/-- Its amount is still held. -/
def Stage.Open (st : Stage) : Prop := st = .pending ∨ st = .submitted

instance : DecidablePred Stage.Open := fun st =>
  inferInstanceAs (Decidable (st = .pending ∨ st = .submitted))

structure Item where
  amount : Int
  stage : Stage
  deriving DecidableEq, Repr

/-- Giving an item up refunds it if it is pending. -/
def Item.giveUp (it : Item) : Item :=
  if it.stage = .pending then { it with stage := .refunded } else it

structure Parties (Address : Type) where
  payer : Address
  freelancer : Address
  token : Address

/-! ## Requests -/

inductive Work
  | submit (item : Nat)
  | approve (item : Nat)
  | giveUp
  deriving DecidableEq, Repr

/-- What is asked for, who authorises it, and the ledger time. -/
structure Request (Address : Type) where
  work : Work
  auth : Address → Bool
  timestamp : UInt64

variable {Address : Type}

/-- Take an item from one stage to the next, if it is there and that is allowed. -/
def advance (items : List Item) (i : Nat) (source target : Stage) (allowed : Bool) :
    Bool × List Item :=
  match items[i]? with
  | some it =>
    if it.stage = source ∧ allowed = true then (true, items.set i { it with stage := target })
    else (false, items)
  | none => (false, items)

/-- Giving up succeeds if something is open and all of it can be refunded. -/
def giveUpAll (items : List Item) (allowed : Bool) : Bool × List Item :=
  if allowed = true then
    (decide ((∃ it ∈ items, it.stage.Open) ∧ ∀ it ∈ items, it.stage ≠ .submitted),
      items.map Item.giveUp)
  else (false, items)

/-- Whether a request succeeds, and the items after it. -/
def serve (p : Parties Address) (items : List Item) (x : Request Address) : Bool × List Item :=
  match x.work with
  | .submit i => advance items i .pending .submitted (x.auth p.freelancer)
  | .approve i => advance items i .submitted .approved (x.auth p.payer)
  | .giveUp => giveUpAll items (x.auth p.payer)

/-! ## What is paid -/

variable [DecidableEq Address]

/-- What an address has been paid for an item. -/
def Item.paid (p : Parties Address) (who : Address) (it : Item) : Int :=
  match it.stage with
  | .approved => if p.freelancer = who then it.amount else 0
  | .refunded => if p.payer = who then it.amount else 0
  | .pending | .submitted => 0

def paid (p : Parties Address) (who : Address) (items : List Item) : Int :=
  (items.map (·.paid p who)).sum

/-- What a request comes to: whether it succeeded, what the parties have been paid so far, and where
    the items stand. -/
structure Outcome where
  succeeded : Bool
  toPayer : Int
  toFreelancer : Int
  items : List Item
  deriving DecidableEq, Repr

/-- The job as a machine. -/
def machine (p : Parties Address) : Mealy.Machine (Request Address) (List Item) Outcome where
  perform x items := (serve p items x).2
  output x items :=
    let after := serve p items x
    ⟨after.1, paid p p.payer after.2, paid p p.freelancer after.2, after.2⟩

/-- The payer gives up while a submitted item waits for approval. -/
def LateGiveUp (p : Parties Address) (x : Request Address) (items : List Item) : Prop :=
  x.work = .giveUp ∧ x.auth p.payer = true ∧ ∃ it ∈ items, it.stage = .submitted

/-! ## Closed jobs -/

section
variable {p : Parties Address} {items : List Item}

/-- Nothing is open any more. -/
def Closed (items : List Item) : Prop := ∀ it ∈ items, ¬ it.stage.Open

omit [DecidableEq Address] in
theorem Closed.giveUp (h : Closed items) : items.map Item.giveUp = items := by
  rw [List.map_congr_left fun it h_it => ?_, List.map_id']
  exact if_neg fun h_stage => h it h_it (.inl h_stage)

theorem advance_of_ne {i : Nat} {source target : Stage} {allowed : Bool}
    (h : ∀ it, items[i]? = some it → it.stage = source → allowed = false) :
    advance items i source target allowed = (false, items) := by
  unfold advance
  split
  · rename_i it h_it
    refine if_neg fun ⟨h_stage, h_allowed⟩ => ?_
    rw [h it h_it h_stage] at h_allowed
    cases h_allowed
  · rfl

theorem advance_of_eq {i : Nat} {source target : Stage} {it : Item}
    (h_get : items[i]? = some it) (h_stage : it.stage = source) :
    advance items i source target true = (true, items.set i { it with stage := target }) := by
  unfold advance
  rw [h_get]
  exact if_pos ⟨h_stage, rfl⟩

omit [DecidableEq Address] in
/-- A closed job refuses everything. -/
theorem Closed.serve (h : Closed items) (x : Request Address) :
    serve p items x = (false, items) := by
  have h_not {i : Nat} {it : Item} (h_get : items[i]? = some it) : ¬ it.stage.Open :=
    h it (List.mem_of_getElem? h_get)
  unfold Bundle.serve
  cases x.work with
  | submit i => exact advance_of_ne fun it h_get h_stage => absurd (.inl h_stage) (h_not h_get)
  | approve i => exact advance_of_ne fun it h_get h_stage => absurd (.inr h_stage) (h_not h_get)
  | giveUp =>
      simp only [giveUpAll, h.giveUp]
      split
      · have h_none : ¬ ∃ it ∈ items, it.stage.Open := fun ⟨it, h_it, h_open⟩ => h it h_it h_open
        simp [h_none]
      · rfl

/-- Moving one item changes what is paid by that item. -/
theorem paid_set {who : Address} {i : Nat} {it : Item} (h_get : items[i]? = some it) (it' : Item) :
    paid p who (items.set i it') = paid p who items - it.paid p who + it'.paid p who :=
  Register.sum_replace _ h_get it'

end

end StarEscrow.Bundle
