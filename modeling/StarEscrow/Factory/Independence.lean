/-
  StarEscrow.Factory.Independence

  Calls on different escrows do not see each other.

  In a solvent state the pooled balance never decides anything: a call on an id
  returns or fails as its checks on that id's record say, rewrites that record,
  and adds a change to the balances that depends on the record alone
  (`Acts`).  Two such calls on different ids therefore commute.
-/

import Mathlib.Logic.Function.Basic
import StarEscrow.Factory.Solvency

namespace StarEscrow.Factory

variable {Address : Type}

/-- What an action leaves of the stored record. -/
def Action.entry (auth : Address → Bool) (o : Option (EscrowRecord Address)) (x : Action) :
    Option (EscrowRecord Address) :=
  match x.check auth o with
  | .ok r => some (x.result r)
  | .error _ => o

variable [DecidableEq Address]

/-- What a payment from `src` to `dst` adds to the balances. -/
def movement (token src : Address) (amount : Int) (dst : Option Address) : Address → Address → Int :=
  dst.elim 0 fun dst => movedBalance 0 token src dst amount

/-- What an action adds to the balances. -/
def Action.delta (factory : Address) (auth : Address → Bool) (o : Option (EscrowRecord Address))
    (x : Action) : Address → Address → Int :=
  match x.check auth o with
  | .ok r => movement r.token factory r.amount (x.payee r)
  | .error _ => 0

variable {H : Host Address}

theorem saveEscrow_storage (r : EscrowRecord Address) (s : State H) :
    (saveEscrow r s).storage =
      { s.storage with escrow := Function.update s.storage.escrow r.id (some r) } := by
  have h_entries : (saveEscrow r s).storage.escrow =
      Function.update s.storage.escrow r.id (some r) := by
    funext j
    rw [Function.update_apply]
    rfl
  rw [← h_entries]
  rfl

theorem Pays.balance {s s' : State H} {token : Address} {amount : Int} {o : Option Address}
    (h : Pays s s' token amount o) :
    H.balance s'.world = H.balance s.world + movement token H.currentContract amount o := by
  cases o with
  | none =>
      rw [h.1]
      exact (add_zero _).symm
  | some dst => exact H.balance_add h.1

/-! ## One call -/

/-- The call is an action on the id, and does to the state what the record of the id says. -/
structure Acts (c : Call Address) (id : UInt64) (x : Action) (s : State H) : Prop where
  result : c.result s = (x.check c.auth (s.storage.escrow id)).map fun _ => ()
  storage : (c.perform s).storage = { s.storage with
    escrow := Function.update s.storage.escrow id (x.entry c.auth (s.storage.escrow id)) }
  balance : H.balance (c.perform s).world =
    H.balance s.world + x.delta H.currentContract c.auth (s.storage.escrow id)

theorem Solvent.acts (h_live : H.Live) {s : State H} {rs : List (EscrowRecord Address)}
    (h : Solvent s rs) (h_rep : Represents s rs) {c : Call Address} {id : UInt64} {x : Action}
    (h_op : c.op = .act id x) : Acts c id x s := by
  have h_run : c.run s = x.exec c.auth id s := by rw [Call.run, h_op]
  cases h_check : x.check c.auth (s.storage.escrow id) with
  | error f =>
      rw [Action.exec_of_check_error h_check] at h_run
      have h_entry : x.entry c.auth (s.storage.escrow id) = s.storage.escrow id := by
        rw [Action.entry, h_check]
      have h_delta : x.delta H.currentContract c.auth (s.storage.escrow id) = 0 := by
        rw [Action.delta, h_check]
      refine ⟨?_, ?_, ?_⟩
      · rw [Call.result, h_run, h_check]
        rfl
      · rw [Call.perform, h_run, h_entry, Function.update_eq_self]
      · rw [Call.perform, h_run, h_delta, add_zero]
  | ok r =>
      obtain ⟨s', h_exec⟩ := h.exec_returns h_live h_rep h_check
      obtain ⟨r', h_check', h_storage, h_pays⟩ := Action.exec_ok h_exec
      obtain rfl : r = r' := Except.ok.inj (h_check.symm.trans h_check')
      rw [h_exec] at h_run
      have h_entry : x.entry c.auth (s.storage.escrow id) = some (x.result r) := by
        rw [Action.entry, h_check]
      have h_delta : x.delta H.currentContract c.auth (s.storage.escrow id) =
          movement r.token H.currentContract r.amount (x.payee r) := by
        rw [Action.delta, h_check]
      -- the record is stored back under its own number
      obtain ⟨h_r, -, -⟩ := Action.check_ok.mp h_check
      have h_id : r.id = id := by
        rw [h_rep.escrow] at h_r
        exact UInt64.toNat_inj.mp (h_rep.ids _ r h_r)
      refine ⟨?_, ?_, ?_⟩
      · rw [Call.result, h_run, h_check]
        rfl
      · rw [Call.perform, h_run]
        show s'.storage = _
        rw [h_storage, h_entry, ← h_id, saveEscrow_storage]
        rfl
      · rw [Call.perform, h_run, h_delta]
        exact h_pays.balance

/-- A call on an id keeps the state solvent. -/
theorem Solvent.perform {s : State H} {rs : List (EscrowRecord Address)} (h : Solvent s rs)
    (h_rep : Represents s rs) {c : Call Address} {id : UInt64} {x : Action}
    (h_op : c.op = .act id x) :
    ∃ rs', Represents (c.perform s) rs' ∧ Solvent (c.perform s) rs' := by
  obtain ⟨rs', h_rep', h_move⟩ := (c.step_perform s).move h_rep
  have h_payers : PayersOutside (⟨s, c.label s, c.perform s⟩ : Entry H) := by
    intro a h_a
    obtain ⟨auth, op⟩ := c
    obtain rfl : op = .act id x := h_op
    simp only [Call.label] at h_a
    split at h_a <;> cases h_a
  exact ⟨rs', h_rep', h_move.solvent (e := ⟨_, _, _⟩) h_payers h_rep h⟩

/-- A call on another id leaves the record of this one. -/
theorem Acts.escrow_of_ne {c : Call Address} {i j : UInt64} {x : Action} {s : State H}
    (h : Acts c i x s) (h_ne : j ≠ i) : (c.perform s).storage.escrow j = s.storage.escrow j := by
  rw [h.storage]
  exact Function.update_of_ne h_ne _ _

/-! ## Two calls -/

/-- **Independence.**  In every state that runs reach, two calls on different escrows have the same
    results in both orders, and leave the same storage and the same balances. -/
theorem different_escrows_independent {s₀ s : State H} {tr : List (Entry H)}
    (h_init : s₀.Initial) (h_funds : ∀ token, 0 ≤ s₀.funds token) (h_run : Run s₀ tr s)
    (h_payers : ∀ e ∈ tr, PayersOutside e) (h_live : H.Live) {c₁ c₂ : Call Address}
    {i j : UInt64} {x y : Action} (h_i : c₁.op = .act i x) (h_j : c₂.op = .act j y)
    (h_ne : i ≠ j) :
    c₁.result (c₂.perform s) = c₁.result s ∧ c₂.result (c₁.perform s) = c₂.result s ∧
    (c₂.perform (c₁.perform s)).storage = (c₁.perform (c₂.perform s)).storage ∧
    H.balance (c₂.perform (c₁.perform s)).world = H.balance (c₁.perform (c₂.perform s)).world := by
  obtain ⟨rs, h_rep, h_solvent⟩ := h_run.solvent h_init h_funds h_payers
  -- each of the two calls acts by its own record, first or second
  have h₁ := h_solvent.acts h_live h_rep h_i
  have h₂ := h_solvent.acts h_live h_rep h_j
  obtain ⟨rs₁, h_rep₁, h_solvent₁⟩ := h_solvent.perform h_rep h_i
  obtain ⟨rs₂, h_rep₂, h_solvent₂⟩ := h_solvent.perform h_rep h_j
  have h₂₁ := h_solvent₁.acts h_live h_rep₁ h_j
  have h₁₂ := h_solvent₂.acts h_live h_rep₂ h_i
  have h_i_same := h₂.escrow_of_ne h_ne
  have h_j_same := h₁.escrow_of_ne h_ne.symm
  refine ⟨?_, ?_, ?_, ?_⟩
  · rw [h₁₂.result, h_i_same, h₁.result]
  · rw [h₂₁.result, h_j_same, h₂.result]
  · rw [h₂₁.storage, h₁₂.storage, h_i_same, h_j_same, h₁.storage, h₂.storage]
    simp only [Function.update_comm h_ne]
  · rw [h₂₁.balance, h₁₂.balance, h_i_same, h_j_same, h₁.balance, h₂.balance, add_right_comm]

theorem different_escrows_independent_mixed :
    let s := play (Sample.mixed.take 4) Sample.start
    let c₁ := Sample.call (.act 0 .approve)
    let c₂ := Sample.call (.act 2 .cancel)
    c₁.result (c₂.perform s) = c₁.result s ∧ c₂.result (c₁.perform s) = c₂.result s ∧
    (c₂.perform (c₁.perform s)).storage = (c₁.perform (c₂.perform s)).storage ∧
    Sample.host.balance (c₂.perform (c₁.perform s)).world =
      Sample.host.balance (c₁.perform (c₂.perform s)).world :=
  different_escrows_independent Sample.start_initial (fun token => (Sample.start_funds token).ge)
    (run_play (Sample.mixed.take 4) Sample.start) (by decide) Sep41.ledger_live rfl rfl (by decide)

end StarEscrow.Factory
