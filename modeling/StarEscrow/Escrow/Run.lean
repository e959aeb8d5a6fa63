/-
  StarEscrow.Escrow.Run

  Runs of one escrow instance.

  A run interleaves calls of the twelve entry points, with any arguments and
  any authorisations at non-decreasing ledger times, with whatever the rest of
  the ledger does.  A call that returns replaces the state; a call that fails
  only moves the clock.  Outside activity may change every balance, except
  that nobody but the contract spends the contract's own.
-/

import StarEscrow.Lib.Mealy
import StarEscrow.Escrow.OpSpecs

namespace StarEscrow.Escrow

open Exec

inductive Op (Address : Type)
  | init (admin : Address) (feeBps : UInt32) (feeCollector : Address)
  | pause
  | unpause
  | create (a : CreateArgs Address)
  | submitWork (milestoneIdx : Nat)
  | approve (milestoneIdx : Nat)
  | releaseRecurring
  | cancel
  | expire
  | transferFreelancer (newFreelancer : Address)
  | transferPayer (newPayer : Address)
  | extendDeadline (newDeadline : UInt64)
  deriving DecidableEq, Repr

/-- A call: when it is made, who authorises it, and what it asks for. -/
structure Call (Address : Type) where
  timestamp : UInt64
  auth : Address → Bool
  op : Op Address

/-- What one step of a run was. -/
inductive Label (Address : Type)
  | returned (c : Call Address)
  | aborted (c : Call Address)
  | outside

def Label.call? {Address : Type} : Label Address → Option (Call Address)
  | .returned c | .aborted c => some c
  | .outside => none

theorem Label.mem_call? {Address : Type} {l : Label Address} {c : Call Address}
    (h : l = .returned c) : c ∈ l.call? := by
  rw [h]
  rfl

def Label.isOutside {Address : Type} : Label Address → Bool
  | .outside => true
  | _ => false

variable {Address : Type} [DecidableEq Address] {H : Host Address}

def Op.exec : Op Address → Exec H Unit
  | .init admin feeBps feeCollector => Escrow.init admin feeBps feeCollector
  | .pause => Escrow.pause
  | .unpause => Escrow.unpause
  | .create a => Escrow.create a
  | .submitWork i => Escrow.submitWork i
  | .approve i => Escrow.approve i
  | .releaseRecurring => Escrow.releaseRecurring
  | .cancel => Escrow.cancel
  | .expire => Escrow.expire
  | .transferFreelancer a => Escrow.transferFreelancer a
  | .transferPayer a => Escrow.transferPayer a
  | .extendDeadline t => Escrow.extendDeadline t

/-- The environment a call runs in. -/
def Call.env (c : Call Address) : Env Address := ⟨c.timestamp, c.auth⟩

/-- The state a call leaves, or why it fails. -/
def Call.run (c : Call Address) (s : State H) : Except Failure (State H) :=
  (c.op.exec c.env (s.atTime c.timestamp)).map (·.2)

inductive Step : State H → Label Address → State H → Prop
  | returned {s s' : State H} {c : Call Address} (h_time : s.time ≤ c.timestamp)
      (h_run : c.run s = .ok s') : Step s (.returned c) s'
  | aborted {s : State H} {c : Call Address} {f : Failure} (h_time : s.time ≤ c.timestamp)
      (h_run : c.run s = .error f) : Step s (.aborted c) (s.atTime c.timestamp)
  | outside {s : State H} {w : H.World} {ttl : Nat}
      (h_keeps : ∀ token, s.funds token ≤ H.balance w token H.currentContract)
      (h_ttl : ttl ≤ s.storage.ttl) : Step s .outside ((s.putWorld w).putTtl ttl)

abbrev Entry (H : Host Address) := Lts.Entry (State H) (Label Address)

abbrev Run (s : State H) (tr : List (Entry H)) (s' : State H) : Prop := Lts.Run Step s tr s'

/-- Nothing stored, nothing done. -/
def State.Initial (s : State H) : Prop :=
  s.storage.config = none ∧ s.storage.escrow = none ∧ s.storage.allowedTokens = none ∧ s.log = []

/-- The states that runs from empty storage reach. -/
def Reachable (s : State H) : Prop := ∃ s₀ tr, s₀.Initial ∧ Run s₀ tr s

theorem Call.run_ok {c : Call Address} {s s' : State H} :
    c.run s = .ok s' ↔ c.op.exec c.env (s.atTime c.timestamp) = .ok ((), s') := by
  unfold Call.run
  cases h : c.op.exec c.env (s.atTime c.timestamp) with
  | error f => simp [Except.map]
  | ok p => simp [Except.map, Prod.ext_iff]

/-- A call that returns leaves the clock at its own time. -/
theorem Call.run_time {c : Call Address} {s s' : State H} (h : c.run s = .ok s') :
    s'.time = c.timestamp := by
  obtain ⟨t, auth, op⟩ := c
  rw [Call.run_ok] at h
  cases op with
  | init admin feeBps feeCollector =>
      obtain ⟨-, -, rfl⟩ := init_ok.mp h
      rfl
  | pause =>
      obtain ⟨c, -, -, rfl⟩ := pause_ok.mp h
      rfl
  | unpause =>
      obtain ⟨c, -, -, rfl⟩ := unpause_ok.mp h
      rfl
  | create a =>
      obtain ⟨-, -, -, -, -, -, -, w, -, d, s₁, h_lend, rfl⟩ := create_ok.mp h
      rcases depositYield_ok.mp h_lend with ⟨-, -, rfl⟩ | ⟨p, -, -, w', -, rfl⟩
      · rfl
      · rfl
  | submitWork i =>
      obtain ⟨-, d, -, -, m, -, -, -, rfl⟩ := submitWork_ok.mp h
      rfl
  | approve i =>
      obtain ⟨-, d, -, m, -, -, -, net, s₁, h_pay, rfl⟩ := approve_ok.mp h
      exact payFreelancer_time h_pay
  | releaseRecurring =>
      obtain ⟨-, d, -, -, -, -, -, -, net, s₁, k, h_pay, -, rfl⟩ := releaseRecurring_ok.mp h
      exact payFreelancer_time h_pay
  | cancel =>
      obtain ⟨-, d, -, -, -, x, -, w, -, rfl⟩ := cancel_ok.mp h
      rfl
  | expire =>
      obtain ⟨-, d, -, -, dl, -, -, -, x, -, w, -, rfl⟩ := expire_ok.mp h
      rfl
  | transferFreelancer f =>
      obtain ⟨-, d, -, -, rfl⟩ := transferFreelancer_ok.mp h
      rfl
  | transferPayer p =>
      obtain ⟨-, d, -, -, rfl⟩ := transferPayer_ok.mp h
      rfl
  | extendDeadline t' =>
      obtain ⟨-, d, -, -, dl, -, -, rfl⟩ := extendDeadline_ok.mp h
      rfl

/-! ## Playing a list of calls

The function behind the relation, for concrete runs. -/

def Call.perform (c : Call Address) (s : State H) : State H :=
  match c.run s with
  | .ok s' => s'
  | .error _ => s.atTime c.timestamp

def Call.label (c : Call Address) (s : State H) : Label Address :=
  match c.run s with
  | .ok _ => .returned c
  | .error _ => .aborted c

theorem Call.step_perform (c : Call Address) {s : State H} (h : s.time ≤ c.timestamp) :
    Step s (c.label s) (c.perform s) := by
  unfold Call.label Call.perform
  cases h_run : c.run s with
  | ok s' => exact .returned h h_run
  | error f => exact .aborted h h_run

def Call.returns (c : Call Address) (s : State H) : Bool :=
  match c.run s with
  | .ok _ => true
  | .error _ => false

theorem Call.run_perform {c : Call Address} {s : State H} (h : c.returns s = true) :
    c.run s = .ok (c.perform s) := by
  unfold Call.returns at h
  unfold Call.perform
  cases h_run : c.run s with
  | ok s' => rfl
  | error f =>
      rw [h_run] at h
      cases h

theorem Call.perform_of_run {c : Call Address} {s s' : State H} (h : c.run s = .ok s') :
    c.returns s = true ∧ c.perform s = s' := by
  unfold Call.returns Call.perform
  rw [h]
  exact ⟨rfl, rfl⟩

/-- A call that cannot return is refused. -/
theorem Call.perform_of_refused {c : Call Address} {s : State H} (h : ∀ s', c.run s ≠ .ok s') :
    c.returns s = false ∧ c.perform s = s.atTime c.timestamp := by
  unfold Call.returns Call.perform
  cases h_run : c.run s with
  | ok s' => exact absurd h_run (h s')
  | error f => exact ⟨rfl, rfl⟩

/-- The contract as a machine: it answers a call with the label of its step. -/
def machine (H : Host Address) : Mealy.Machine (Call Address) (State H) (Label Address) :=
  ⟨Call.perform, Call.label⟩

def play (l : List (Call Address)) (s : State H) : State H := (machine H).final s l

def playTrace (l : List (Call Address)) (s : State H) : List (Entry H) := (machine H).trace s l

/-- The calls are in the order of their ledger times, from the state on. -/
def InOrder (l : List (Call Address)) (s : State H) : Bool :=
  (machine H).All (fun c s => decide (s.time ≤ c.timestamp)) s l

/-- The calls all return. -/
def AllReturn (l : List (Call Address)) (s : State H) : Bool := (machine H).All Call.returns s l

/-- Calls played in order are a run. -/
theorem run_play {l : List (Call Address)} {s : State H} (h : InOrder l s = true) :
    Run s (playTrace l s) (play l s) :=
  Mealy.run_trace (fun c _ h_time => c.step_perform (of_decide_eq_true h_time)) h

end StarEscrow.Escrow
