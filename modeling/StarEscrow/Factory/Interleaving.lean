/-
  StarEscrow.Factory.Interleaving

  Any order of the calls.

  Calls on different escrows commute, answers included, and what a call does is
  decided by the storage and the balances.  So the calls on each escrow may be
  interleaved with those on the others in any way: what happened is what would
  have happened in every order that keeps the order on each escrow
  (`factory_interleavings_agree`, by `Reorder.Commuting.reorder`).
-/

import StarEscrow.Factory.Independence
import StarEscrow.Lib.Reorder

namespace StarEscrow.Factory

open Reorder

variable {Address : Type}

/-- An action on an escrow, and the answer it got. -/
structure Exchange (Address : Type) where
  auth : Address → Bool
  id : UInt64
  action : Action
  answer : Exec Unit

def Exchange.call (x : Exchange Address) : Call Address := ⟨x.auth, .act x.id x.action⟩

variable [DecidableEq Address] {H : Host Address}

/-- The call is made in `s`, gets that answer, and leaves `s'`. -/
def Exchange.Happens (x : Exchange Address) (s s' : State H) : Prop :=
  x.call.result s = x.answer ∧ s' = x.call.perform s

/-- The states store the same and everybody owns the same. -/
structure Agree (s s' : State H) : Prop where
  storage : s'.storage = s.storage
  balance : H.balance s'.world = H.balance s.world

/-- A state that runs can reach. -/
def Sane (s : State H) : Prop := ∃ rs, Represents s rs ∧ Solvent s rs

theorem Sane.congr {s s' : State H} (h : Sane s) (h_agree : Agree s s') : Sane s' := by
  obtain ⟨rs, h_rep, h_solvent⟩ := h
  refine ⟨rs, h_rep.congr h_agree.storage, h_solvent.payers, fun token => ?_⟩
  show _ ≤ H.balance s'.world token H.currentContract
  rw [h_agree.balance]
  exact h_solvent.covered token

theorem exchanges_commuting (h_live : H.Live) :
    Commuting (Exchange.Happens (H := H)) (fun x => x) Exchange.id Sane Agree := by
  have h_acts (x : Exchange Address) {s : State H} (h : Sane s) :
      Acts x.call x.id x.action s := by
    obtain ⟨rs, h_rep, h_solvent⟩ := h
    exact h_solvent.acts h_live h_rep rfl
  have h_keeps (x : Exchange Address) {s : State H} (h : Sane s) : Sane (x.call.perform s) := by
    obtain ⟨rs, h_rep, h_solvent⟩ := h
    exact h_solvent.perform h_rep rfl
  refine ⟨fun s => ⟨rfl, rfl⟩, fun h h' => ⟨h'.1.trans h.1, h'.2.trans h.2⟩, ?_, Sane.congr, ?_, ?_⟩
  · rintro x s _ h_sane ⟨-, rfl⟩
    exact h_keeps x h_sane
  · rintro x x' s s' _ h_sane h_agree h_eq ⟨h_answer, rfl⟩
    obtain rfl : x = x' := h_eq
    have h := h_acts x h_sane
    have h' := h_acts x (h_sane.congr h_agree)
    refine ⟨_, ⟨?_, rfl⟩, ?_, ?_⟩
    · rw [h'.result, h_agree.storage, ← h.result, h_answer]
    · rw [h'.storage, h.storage, h_agree.storage]
    · rw [h'.balance, h.balance, h_agree.storage, h_agree.balance]
  · rintro x y s _ _ h_sane h_ne ⟨h_x, rfl⟩ ⟨h_y, rfl⟩
    have h_ne : x.id ≠ y.id := h_ne
    have h₁ := h_acts x h_sane
    have h₂ := h_acts y h_sane
    have h₁₂ := h_acts y (h_keeps x h_sane)
    have h₂₁ := h_acts x (h_keeps y h_sane)
    -- each finds the record of its own id as it was
    have h_own := h₁.escrow_of_ne h_ne.symm
    have h_own' := h₂.escrow_of_ne h_ne
    refine ⟨_, _, ⟨?_, rfl⟩, ⟨?_, rfl⟩, ?_, ?_⟩
    · rw [← h_y, h₁₂.result, h₂.result, h_own]
    · rw [← h_x, h₂₁.result, h₁.result, h_own']
    · rw [h₂₁.storage, h₁₂.storage, h_own, h_own', h₁.storage, h₂.storage]
      simp only [Function.update_comm h_ne]
    · rw [h₂₁.balance, h₁₂.balance, h_own, h_own', h₁.balance, h₂.balance, add_right_comm]

/-- **Interleavings agree.**  In every state that runs from empty storage reach, on live tokens, let
    any calls on escrows be made and get the answers they get.  In every other order that keeps the
    order on each escrow the same calls get the same answers, and leave the same storage and the
    same balances. -/
theorem factory_interleavings_agree (h_live : H.Live) {s₀ s s' : State H} {tr : List (Entry H)}
    (h_init : s₀.Initial) (h_funds : ∀ token, 0 ≤ s₀.funds token) (h_run : Run s₀ tr s)
    (h_payers : ∀ e ∈ tr, PayersOutside e) {xs ys : List (Exchange Address)}
    (h_order : ∀ id, xs.filter (·.id = id) = ys.filter (·.id = id))
    (h_steps : Steps Exchange.Happens xs s s') :
    ∃ s'', Steps Exchange.Happens ys s s'' ∧ s''.storage = s'.storage ∧
      H.balance s''.world = H.balance s'.world := by
  have h_sane : Sane s := h_run.solvent h_init h_funds h_payers
  have h_labels (id : UInt64) : (xs.map fun x => x).filter (·.id = id) =
      (ys.map fun x => x).filter (·.id = id) := by
    rw [List.map_id', List.map_id']
    exact h_order id
  obtain ⟨s'', h_steps', h_agree⟩ :=
    (exchanges_commuting h_live).reorder h_sane h_labels h_steps
  exact ⟨s'', h_steps', h_agree.storage, h_agree.balance⟩

namespace Sample

def exchange (id : UInt64) (action : Action) (answer : Exec Unit) : Exchange Nat :=
  ⟨fun _ => true, id, action, answer⟩

/-- The first escrow is submitted, approved and cancelled in vain. -/
def onFirst : List (Exchange Nat) :=
  [exchange 0 .submitWork (.ok ()), exchange 0 .approve (.ok ()),
    exchange 0 .cancel (.error (.error .notActive))]

def onThird : Exchange Nat := exchange 2 .cancel (.ok ())

end Sample

theorem factory_interleavings_agree_mixed :
    let s := play (Sample.mixed.take 3) Sample.start
    let s' := play ((Sample.onThird :: Sample.onFirst).map Exchange.call) s
    ∃ s'', Steps Exchange.Happens (Sample.onFirst ++ [Sample.onThird]) s s'' ∧
      s''.storage = s'.storage ∧
      Sample.host.balance s''.world = Sample.host.balance s'.world := by
  intro s s'
  have h_steps : Steps Exchange.Happens (Sample.onThird :: Sample.onFirst) s s' :=
    ⟨_, ⟨rfl, rfl⟩, _, ⟨rfl, rfl⟩, _, ⟨rfl, rfl⟩, _, ⟨rfl, rfl⟩, rfl⟩
  refine factory_interleavings_agree Sep41.ledger_live Sample.start_initial
    (fun token => (Sample.start_funds token).ge) (run_play (Sample.mixed.take 3) Sample.start)
    (by decide) (fun id => ?_) h_steps
  by_cases h_first : (0 : UInt64) = id
  · subst h_first
    rfl
  · simp [Sample.onFirst, Sample.onThird, Sample.exchange, List.filter_cons, h_first]

end StarEscrow.Factory
