/-
  StarEscrow.Lib.Pot

  A pot divided into parts.

  Somebody fills the pot once; after that each part is paid out at most once,
  and the parts that are left can be given back together, which closes the
  pot.  The states are the sets of paid parts (`Pot`), the steps are
  `Pot.Step`, and every unit of the total is either still in the pot or has
  been drawn from it (`held_add_drawn`).

  Parts are the elements of a finite set of any type, with integer amounts.
-/

import Mathlib.Algebra.BigOperators.Group.Finset.Basic
import Mathlib.Algebra.Order.Group.Int
import Mathlib.Tactic.Linarith

/-- The paid parts of the set `parts`, and whether the rest was given back. -/
structure Pot {ι : Type} (parts : Finset ι) where
  paid : Finset ι
  paid_subset : paid ⊆ parts
  closed : Bool

namespace Pot

variable {ι : Type} [DecidableEq ι] {parts : Finset ι}

inductive Event (ι : Type)
  | pay (i : ι)
  | refund

/-- Nothing paid, nothing given back. -/
def full (parts : Finset ι) : Pot parts := ⟨∅, Finset.empty_subset parts, false⟩

inductive Step : Pot parts → Event ι → Pot parts → Prop
  | pay {p p' : Pot parts} {i : ι} (h_open : p.closed = false) (h_part : i ∈ parts)
      (h_new : i ∉ p.paid) (h_paid : p'.paid = insert i p.paid) (h_open' : p'.closed = false) :
      Step p (.pay i) p'
  | refund {p p' : Pot parts} (h_open : p.closed = false) (h_paid : p'.paid = p.paid)
      (h_closed : p'.closed = true) : Step p .refund p'

variable (amount : ι → Int)

/-- The total of the unpaid parts. -/
def unpaid (p : Pot parts) : Int := ∑ i ∈ parts \ p.paid, amount i

/-- What is in the pot. -/
def held (p : Pot parts) : Int := if p.closed then 0 else p.unpaid amount

/-- What has left the pot. -/
def drawn (p : Pot parts) : Int :=
  ∑ i ∈ p.paid, amount i + if p.closed then p.unpaid amount else 0

/-- What an event takes out of the pot. -/
def Event.draw (p : Pot parts) : Event ι → Int
  | .pay i => amount i
  | .refund => p.unpaid amount

theorem unpaid_add_paid (p : Pot parts) :
    p.unpaid amount + ∑ i ∈ p.paid, amount i = ∑ i ∈ parts, amount i :=
  Finset.sum_sdiff p.paid_subset

/-- **Conservation.**  What is in the pot and what has left it add up to the total. -/
theorem held_add_drawn (p : Pot parts) :
    p.held amount + p.drawn amount = ∑ i ∈ parts, amount i := by
  have h_all := p.unpaid_add_paid amount
  unfold held drawn
  split
  · linarith
  · linarith

theorem held_of_open {p : Pot parts} (h : p.closed = false) : p.held amount = p.unpaid amount := by
  rw [held, h, if_neg Bool.false_ne_true]

theorem held_of_closed {p : Pot parts} (h : p.closed = true) : p.held amount = 0 := by
  rw [held, if_pos h]

theorem drawn_of_open {p : Pot parts} (h : p.closed = false) :
    p.drawn amount = ∑ i ∈ p.paid, amount i := by
  rw [drawn, h, if_neg Bool.false_ne_true, add_zero]

/-- The pot loses what the event draws. -/
theorem Step.held {p p' : Pot parts} {ev : Event ι} (h : Step p ev p') :
    p'.held amount = p.held amount - ev.draw amount p := by
  cases h with
  | pay h_open h_part h_new h_paid h_open' =>
      have h_before := p.unpaid_add_paid amount
      have h_after := p'.unpaid_add_paid amount
      rw [h_paid, Finset.sum_insert h_new] at h_after
      rw [held_of_open amount h_open, held_of_open amount h_open', Event.draw]
      linarith
  | refund h_open h_paid h_closed =>
      rw [held_of_open amount h_open, held_of_closed amount h_closed, Event.draw]
      linarith

/-- What the event draws leaves the pot. -/
theorem Step.drawn {p p' : Pot parts} {ev : Event ι} (h : Step p ev p') :
    p'.drawn amount = p.drawn amount + ev.draw amount p := by
  have h_held := h.held amount
  have h_before := p.held_add_drawn amount
  have h_after := p'.held_add_drawn amount
  linarith

/-! ## Parts numbered by the positions of a list -/

/-- The entries of a list, added up by position. -/
theorem sum_range_getD (l : List Int) : ∑ i ∈ Finset.range l.length, l.getD i 0 = l.sum := by
  induction l with
  | nil => rfl
  | cons x xs ih =>
      rw [List.length_cons, Finset.sum_range_succ', List.sum_cons, ← ih]
      simp only [List.getD_cons_succ, List.getD_cons_zero]
      omega

end Pot
