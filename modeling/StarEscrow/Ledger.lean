/-
  StarEscrow.Ledger

  Any number of escrow contracts and factories on one ledger.

  The runs of one contract leave everything else to their outside steps.  Here
  the rest of the ledger is other contracts: they share the token contracts,
  each under its own address, and take steps in any order.  No contract signs
  calls, and a call spares whoever does not sign it, so no contract ever
  lowers the balance of another one, which is all that outside steps may not
  do.  So each contract runs as it would alone (`Deployment.project`), and the
  books of all of them balance at the same time (`ledger_solvent`).
-/

import StarEscrow.Lib.Parallel
import StarEscrow.Escrow.Custody
import StarEscrow.Factory.Solvency

namespace StarEscrow.Factory

variable {Address : Type} [DecidableEq Address] {H : Host Address}

/-- `p` authorises nothing in the step. -/
def Silent (p : Address) (e : Entry H) : Prop := ∀ c, e.label = .returned c → c.auth p = false

/-- A call that returns spares everybody who did not authorise it, except the factory. -/
theorem Call.spares {c : Call Address} {s s' : State H} {a : Address} (h : c.run s = .ok s')
    (h_a : a ≠ H.currentContract) (h_auth : c.auth a = false) : H.Spares a s.world s'.world := by
  obtain ⟨auth, op⟩ := c
  cases op with
  | createEscrow args =>
      obtain ⟨⟨id, s₁⟩, h_create, rfl⟩ := Invoke.map_ok.mp h
      obtain ⟨-, h_payer, w, h_w, rfl, next, -, rfl⟩ := createEscrow_ok.mp h_create
      refine Sep41.Spares.of_transfer h_w fun h_eq => ?_
      rw [← h_eq] at h_payer
      exact absurd (h_payer.symm.trans h_auth) (by decide)
  | act id x =>
      obtain ⟨r, -, -, h_pays⟩ := Action.exec_ok h
      cases h_payee : x.payee r with
      | none =>
          rw [h_payee] at h_pays
          rw [h_pays.1]
          exact .refl _
      | some dst =>
          rw [h_payee] at h_pays
          exact .of_transfer h_pays.1 h_a

theorem Step.spares {s s' : State H} {l : Label Address} {a : Address} (h : Step s l s')
    (h_label : l ≠ .outside) (h_a : a ≠ H.currentContract) (h_silent : Silent a ⟨s, l, s'⟩) :
    H.Spares a s.world s'.world := by
  cases h with
  | outside => exact absurd rfl h_label
  | aborted => exact .refl _
  | returned h_run => exact Call.spares h_run h_a (h_silent _ rfl)

/-- A payer authorises, so the factory is none. -/
theorem Step.payersOutside {s s' : State H} {l : Label Address} (h : Step s l s')
    (h_silent : Silent H.currentContract ⟨s, l, s'⟩) : PayersOutside ⟨s, l, s'⟩ := by
  intro a h_a
  cases h with
  | aborted | outside => cases h_a
  | @returned _ c h_run =>
      obtain ⟨auth, op⟩ := c
      cases op with
      | act => cases h_a
      | createEscrow args =>
          obtain rfl : args = a := Option.some.inj h_a
          obtain ⟨⟨id, s₁⟩, h_create, -⟩ := Invoke.map_ok.mp h_run
          obtain ⟨-, h_payer, -⟩ := createEscrow_ok.mp h_create
          intro h_eq
          have h_none := h_silent _ rfl
          rw [← h_eq] at h_none
          exact absurd (h_payer.symm.trans h_none) (by decide)

end StarEscrow.Factory

namespace StarEscrow.Ledger

open Parallel

variable {Address : Type} [DecidableEq Address]

/-! ## Deployments -/

/-- The yield protocols on the ledger: code behind `yield.rs`, called by the given contract. -/
structure YieldCode (T : Sep41 Address) where
  deposit : Address → T.World → Address → Int → Option T.World
  withdraw : Address → T.World → Address → Int → Option (T.World × Int × Int)

/-- Escrow contracts and factories, each under an address of its own. -/
structure Deployment (T : Sep41 Address) (ι κ : Type) where
  address : ι ⊕ κ → Address
  distinct : Function.Injective address
  yields : YieldCode T
  codes : Address → Escrow.Codes Address T.World
  /-- A deposit takes tokens from the depositing contract, not from another one. -/
  deposit_spares : ∀ {m n : ι ⊕ κ}, n ≠ m → ∀ w w' protocol x,
    yields.deposit (address m) w protocol x = some w' → T.Spares (address n) w w'

namespace Deployment

variable {T : Sep41 Address} {ι κ : Type} (D : Deployment T ι κ)

def escrowHost (i : ι) : Escrow.Host Address where
  toSep41 := T
  currentContract := D.address (.inl i)
  codes := D.codes (D.address (.inl i))
  deposit := D.yields.deposit (D.address (.inl i))
  withdraw := D.yields.withdraw (D.address (.inl i))

def factoryHost (k : κ) : Factory.Host Address where
  toSep41 := T
  currentContract := D.address (.inr k)

/-- An escrow contract relies on nobody else spending its balances. -/
def escrowComponent (i : ι) : Component T.World where
  State := Escrow.State (D.escrowHost i)
  Label := Escrow.Label Address
  step := Escrow.Step
  world := fun s => s.world
  meet := Escrow.State.putWorld
  outside := .outside
  Rely := T.Spares (D.address (.inl i))
  world_meet := fun _ _ => rfl
  step_meet := by
    intro s w h_rely
    exact Escrow.Step.outside (s := s) h_rely (Nat.le_refl s.storage.ttl)

/-- So does a factory. -/
def factoryComponent (k : κ) : Component T.World where
  State := Factory.State (D.factoryHost k)
  Label := Factory.Label Address
  step := Factory.Step
  world := fun s => s.world
  meet := Factory.State.putWorld
  outside := .outside
  Rely := T.Spares (D.address (.inr k))
  world_meet := fun _ _ => rfl
  step_meet := by
    intro s w h_rely
    exact Factory.Step.outside (s := s) h_rely

def component : ι ⊕ κ → Component T.World
  | .inl i => D.escrowComponent i
  | .inr k => D.factoryComponent k

/-- No deployed contract authorises the step. -/
def Unsigned : ∀ n : ι ⊕ κ, Lts.Entry (D.component n).State (D.component n).Label → Prop
  | .inl _, e => ∀ n, Escrow.Silent (D.address n) e
  | .inr _, e => ∀ n, Factory.Silent (D.address n) e

variable {D}

/-- The escrow contract `i` in a state of the ledger. -/
def escrowAt (s : States D.component) (i : ι) : Escrow.State (D.escrowHost i) := s (.inl i)

/-- The factory `k` in a state of the ledger. -/
def factoryAt (s : States D.component) (k : κ) : Factory.State (D.factoryHost k) := s (.inr k)

variable [DecidableEq ι] [DecidableEq κ] {s t : States D.component}
  {tr : List (Parallel.Entry D.component)}

/-! ## Playing a list of calls -/

variable (ι κ Address) in
/-- A call to one of the contracts. -/
inductive Call
  | escrow (i : ι) (c : Escrow.Call Address)
  | factory (k : κ) (c : Factory.Call Address)

namespace Call

def label (s : States D.component) : Call Address ι κ → Parallel.Label D.component
  | .escrow i c => .own (.inl i) (c.label (escrowAt s i))
  | .factory k c => .own (.inr k) (c.label (factoryAt s k))

def perform (s : States D.component) : Call Address ι κ → States D.component
  | .escrow i c => advance s (.inl i) (c.perform (escrowAt s i))
  | .factory k c => advance s (.inr k) (c.perform (factoryAt s k))

/-- The call is not made before the contract's last one. -/
def inTime (s : States D.component) : Call Address ι κ → Bool
  | .escrow i c => decide ((escrowAt s i).time ≤ c.timestamp)
  | .factory _ _ => true

def auth : Call Address ι κ → Address → Bool
  | .escrow _ c => c.auth
  | .factory _ c => c.auth

theorem step_perform {c : Call Address ι κ} (h : c.inTime s = true) :
    Parallel.Step D.component s (c.label s) (c.perform s) := by
  cases c with
  | escrow i c =>
      have h_time : (escrowAt s i).time ≤ c.timestamp := of_decide_eq_true h
      refine Step.advance (i := Sum.inl i) ?_ (c.step_perform h_time)
      show c.label (escrowAt s i) ≠ .outside
      unfold Escrow.Call.label
      split <;> simp
  | factory k c =>
      refine Step.advance (i := Sum.inr k) ?_ (c.step_perform (factoryAt s k))
      show c.label (factoryAt s k) ≠ .outside
      unfold Factory.Call.label
      split <;> simp

omit [DecidableEq ι] [DecidableEq κ] in
/-- A call that no deployed contract signs is admitted. -/
theorem admitted {c : Call Address ι κ} (h : ∀ n, c.auth (D.address n) = false) :
    Admitted D.Unsigned ⟨s, c.label s, t⟩ := by
  cases c with
  | escrow i c =>
      rintro _ _ ⟨⟩ n c' h_c'
      obtain rfl : c = c' := by
        unfold Escrow.Call.label at h_c'
        split at h_c' <;> exact Option.some.inj h_c'
      exact h n
  | factory k c =>
      rintro _ _ ⟨⟩ n c' h_c'
      obtain rfl : c = c' := by
        unfold Factory.Call.label at h_c'
        split at h_c' <;> cases h_c'
        rfl
      exact h n

end Call

variable (D) in
/-- The deployment as a machine: it answers a call with the label of its step. -/
def machine : Mealy.Machine (Call Address ι κ) (States D.component) (Parallel.Label D.component) :=
  ⟨fun c s => c.perform s, fun c s => c.label s⟩

def play (l : List (Call Address ι κ)) (s : States D.component) : States D.component :=
  (machine D).final s l

def playTrace (l : List (Call Address ι κ)) (s : States D.component) :
    List (Parallel.Entry D.component) := (machine D).trace s l

def InOrder (l : List (Call Address ι κ)) (s : States D.component) : Bool :=
  (machine D).All (fun c s => c.inTime s) s l

/-- Calls that no deployed contract signs, played in order, are a run of admitted steps. -/
theorem run_play {l : List (Call Address ι κ)} (h : InOrder l s = true)
    (h_auth : ∀ c ∈ l, ∀ n, c.auth (D.address n) = false) :
    Parallel.Run D.component s (playTrace l s) (play l s) ∧
      ∀ e ∈ playTrace l s, Admitted D.Unsigned e := by
  refine ⟨Mealy.run_trace (fun c s h_time => Call.step_perform h_time) h, fun e h_e => ?_⟩
  obtain ⟨c, h_c, s', rfl⟩ := Mealy.mem_trace h_e
  exact Call.admitted (h_auth c h_c)

/-! ## One escrow contract and one factory -/

namespace Sample

/-- An escrow contract at 20 and a factory at 0; the ledger has no yield protocols. -/
def pair : Deployment (Sep41.ledger Nat) Unit Unit where
  address := Sum.elim (fun _ => 20) (fun _ => 0)
  distinct := by rintro (_ | _) (_ | _) h <;> cases h <;> rfl
  yields := ⟨fun _ _ _ _ => none, fun _ _ _ _ => none⟩
  codes _ := .none _ _
  deposit_spares := by
    intro m n _ w w' protocol x h
    cases h

/-- Empty contracts; 1 and 2 own 100 of every token. -/
def start : States pair.component
  | .inl _ => ⟨⟨none, none, none, 0⟩, fun _ a => if a = 1 ∨ a = 2 then 100 else 0, [], 0⟩
  | .inr _ => ⟨⟨none, fun _ => none, fun _ => none⟩, fun _ a => if a = 1 ∨ a = 2 then 100 else 0, []⟩

def users (a : Nat) : Bool := a ≠ 0 ∧ a ≠ 20

/-- A deal of the contract and an escrow of the factory, in turn, in the same token. -/
def turns : List (Call Nat Unit Unit) :=
  [.escrow () ⟨1, users, .create Escrow.Sample.twoParts⟩,
    .factory () ⟨users, .createEscrow ⟨2, 3, 9, 50, ""⟩⟩,
    .escrow () ⟨2, users, .submitWork 0⟩, .factory () ⟨users, .act 0 .submitWork⟩,
    .escrow () ⟨3, users, .approve 0⟩]

theorem start_synced : Synced start := ⟨_, by rintro (_ | _) <;> rfl⟩

theorem turns_unsigned : ∀ c ∈ turns, ∀ n, c.auth (pair.address n) = false := by
  intro c h_c n
  rcases n with ⟨⟨⟩⟩ | ⟨⟨⟩⟩ <;> revert c <;> decide

theorem turns_run : Parallel.Run pair.component start (playTrace turns start) (play turns start) ∧
    ∀ e ∈ playTrace turns start, Admitted pair.Unsigned e :=
  run_play (by decide) turns_unsigned

end Sample

/-! ## Every contract runs as it would alone -/

variable (D) in
omit [DecidableEq ι] [DecidableEq κ] in
/-- What a contract does on its own spares every other one. -/
theorem compatible : Compatible D.Unsigned := by
  intro m n h_ne e h_unsigned h_own h_step
  have h_address : D.address n ≠ D.address m := fun h_eq => h_ne (D.distinct h_eq)
  have h_spares : T.Spares (D.address n) ((D.component m).world e.pre)
      ((D.component m).world e.post) := by
    cases m with
    | inl i =>
        have h_silent : Escrow.Silent (D.address n) e := h_unsigned n
        have h_label : e.label ≠ .outside := h_own
        have h_lent : Escrow.DepositSpares (D.escrowHost i) (D.address n) :=
          fun w w' protocol x => D.deposit_spares h_ne w w' protocol x
        exact Escrow.Step.spares h_step h_label h_address h_lent h_silent
    | inr k =>
        have h_silent : Factory.Silent (D.address n) e := h_unsigned n
        have h_label : e.label ≠ .outside := h_own
        exact Factory.Step.spares h_step h_label h_address h_silent
  cases n with
  | inl j => exact h_spares
  | inr k => exact h_spares

/-- **Each contract of a ledger runs as it would alone.**  In any interleaving of the calls to all
    deployed contracts with anything else on the ledger, what one of them goes through is a run of
    that contract, the others' calls being outside steps. -/
theorem project (h_run : Parallel.Run D.component s tr t) (h_sync : Synced s)
    (h_signs : ∀ e ∈ tr, Admitted D.Unsigned e) :
    (∀ i, Escrow.Run (escrowAt s i) (tr.map (view (Sum.inl i))) (escrowAt t i)) ∧
      ∀ k, Factory.Run (factoryAt s k) (tr.map (view (Sum.inr k))) (factoryAt t k) := by
  have h_all := h_run.restrict D.compatible h_sync h_signs
  exact ⟨fun i => (h_all (.inl i)).2, fun k => (h_all (.inr k)).2⟩

theorem project_turns :
    let s := Sample.start
    let tr := playTrace Sample.turns s
    (∀ i, Escrow.Run (escrowAt s i) (tr.map (view (Sum.inl i)))
      (escrowAt (play Sample.turns s) i)) ∧
    ∀ k, Factory.Run (factoryAt s k) (tr.map (view (Sum.inr k)))
      (factoryAt (play Sample.turns s) k) :=
  project Sample.turns_run.1 Sample.start_synced Sample.turns_run.2

/-! ## The books of all of them -/

/-- Every contract starts empty and without debt, and they find the same world. -/
structure Fresh (s : States D.component) : Prop where
  synced : Synced s
  escrow : ∀ i, (escrowAt s i).Initial ∧ ∀ token, 0 ≤ (escrowAt s i).funds token
  factory : ∀ k, (factoryAt s k).Initial ∧ ∀ token, 0 ≤ (factoryAt s k).funds token

theorem Fresh.backed (h : Fresh s) (h_run : Parallel.Run D.component s tr t)
    (h_signs : ∀ e ∈ tr, Admitted D.Unsigned e) (i : ι) : Escrow.Backed (escrowAt t i) := by
  obtain ⟨h_init, h_funds⟩ := h.escrow i
  have h_silent : ∀ e ∈ tr.map (view (Sum.inl i)),
      Escrow.Silent (D.escrowHost i).currentContract e := by
    refine forall_view h_signs (fun e h_e => ?_) fun a b c h_c => ?_
    · have h_all : ∀ n, Escrow.Silent (D.address n) e := h_e
      exact h_all (.inl i)
    · cases h_c
  exact Escrow.Run.backed ((project h_run h.synced h_signs).1 i) h_silent (h_init.backed h_funds)

theorem Fresh.solvent (h : Fresh s) (h_run : Parallel.Run D.component s tr t)
    (h_signs : ∀ e ∈ tr, Admitted D.Unsigned e) (k : κ) :
    ∃ rs, Factory.Represents (factoryAt t k) rs ∧ Factory.Solvent (factoryAt t k) rs := by
  obtain ⟨h_init, h_funds⟩ := h.factory k
  have h_local := (project h_run h.synced h_signs).2 k
  have h_silent : ∀ e ∈ tr.map (view (Sum.inr k)),
      Factory.Silent (D.factoryHost k).currentContract e := by
    refine forall_view h_signs (fun e h_e => ?_) fun a b c h_c => ?_
    · have h_all : ∀ n, Factory.Silent (D.address n) e := h_e
      exact h_all (.inr k)
    · cases h_c
  refine h_local.solvent h_init h_funds fun e h_e => ?_
  exact Factory.Step.payersOutside (h_local.step_of_mem e h_e) (h_silent e h_e)

/-- **All contracts of a ledger are solvent at once.**  In every state of every interleaving, each
    plain escrow that is `Active` is covered by its contract's balance and each factory's balance
    covers what it owes; so no refund and no action that passes its checks fails for lack of funds,
    on live tokens. -/
theorem ledger_solvent (h : Fresh s) (h_run : Parallel.Run D.component s tr t)
    (h_signs : ∀ e ∈ tr, Admitted D.Unsigned e) :
    (∀ i, ∀ d ∈ (escrowAt t i).storage.escrow, d.Plain →
      (d.status = .active → d.rest ≤ (escrowAt t i).funds d.token) ∧
      (T.Live → ∀ c : Escrow.Call Address, c.op.isRefund = true → c.Admitted (escrowAt t i) d →
        ∃ s', c.run (escrowAt t i) = .ok s')) ∧
    ∀ k, (∀ token, (factoryAt t k).owed token ≤ (factoryAt t k).funds token) ∧
      (T.Live → ∀ (auth : Address → Bool) (id : UInt64) (x : Factory.Action)
        (r : Factory.EscrowRecord Address),
        x.check auth ((factoryAt t k).storage.escrow id) = .ok r →
          ∃ s', x.exec auth id (factoryAt t k) = .ok s') := by
  constructor
  · intro i d h_d h_plain
    have h_backed := h.backed h_run h_signs i
    have h_wf := h_backed.wellFormed d h_d
    refine ⟨h_backed.covered d h_d h_plain, fun h_live c h_op h_admitted => ?_⟩
    have h_active := h_admitted.active h_op
    exact (Escrow.Call.refund_returns_iff h_live h_op h_d h_admitted h_wf.sound
      (h_wf.counter h_plain.1)).mpr (h_backed.covered d h_d h_plain h_active)
  · intro k
    obtain ⟨rs, h_rep, h_solvent⟩ := h.solvent h_run h_signs k
    refine ⟨fun token => ?_, fun h_live auth id x r h_check => ?_⟩
    · rw [Factory.State.owed, h_rep.records_eq]
      exact h_solvent.covered token
    · exact h_solvent.exec_returns h_live h_rep h_check

theorem Sample.start_fresh : Fresh Sample.start where
  synced := start_synced
  escrow := fun _ => ⟨⟨rfl, rfl, rfl, rfl⟩, fun _ => Int.le_refl 0⟩
  factory := fun _ => ⟨⟨rfl, fun _ => rfl, fun _ => rfl, rfl⟩, fun _ => Int.le_refl 0⟩

theorem ledger_solvent_turns :
    let t := play Sample.turns Sample.start
    (∀ i, ∀ d ∈ (escrowAt t i).storage.escrow, d.Plain →
      (d.status = .active → d.rest ≤ (escrowAt t i).funds d.token) ∧
      ((Sep41.ledger Nat).Live → ∀ c : Escrow.Call Nat, c.op.isRefund = true →
        c.Admitted (escrowAt t i) d → ∃ s', c.run (escrowAt t i) = .ok s')) ∧
    ∀ k, (∀ token, (factoryAt t k).owed token ≤ (factoryAt t k).funds token) ∧
      ((Sep41.ledger Nat).Live → ∀ (auth : Nat → Bool) (id : UInt64) (x : Factory.Action)
        (r : Factory.EscrowRecord Nat), x.check auth ((factoryAt t k).storage.escrow id) = .ok r →
          ∃ s', x.exec auth id (factoryAt t k) = .ok s') :=
  ledger_solvent Sample.start_fresh Sample.turns_run.1 Sample.turns_run.2

example : (escrowAt (play Sample.turns Sample.start) ()).funds 9 = 40 := by decide

end Deployment

end StarEscrow.Ledger
