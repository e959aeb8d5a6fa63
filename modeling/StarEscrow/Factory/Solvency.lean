/-
  StarEscrow.Factory.Solvency

  One pooled balance per token against everything the factory still owes.

  A record owes its amount until it is completed or cancelled.  `create_escrow`
  takes in what the new record owes, and an action that pays closes a record
  that owes exactly the payment; so the balance covers the sum over all records
  (`Solvent`), and equals it when nobody sends the factory tokens
  (`Balanced`).
-/

import StarEscrow.Factory.Registry

namespace StarEscrow.Factory

/-- The statuses in which the amount is still held. -/
def EscrowStatus.Open (st : EscrowStatus) : Prop := st = .active ∨ st = .workSubmitted

instance : DecidablePred EscrowStatus.Open := fun st =>
  inferInstanceAs (Decidable (st = .active ∨ st = .workSubmitted))

theorem Action.source_open (x : Action) : x.source.Open := by
  cases x with
  | submitWork => exact .inl rfl
  | approve => exact .inr rfl
  | cancel => exact .inl rfl

variable {Address : Type} [DecidableEq Address] {H : Host Address}

/-- What the factory owes on a record, in a token. -/
def EscrowRecord.owes (token : Address) (r : EscrowRecord Address) : Int :=
  if r.token = token ∧ r.status.Open then r.amount else 0

/-- All stored records, by id. -/
def State.records (s : State H) : List (EscrowRecord Address) :=
  (List.range s.count.toNat).filterMap fun i => s.storage.escrow (.ofNat i)

/-- What the factory owes on all records together, in a token. -/
def State.owed (s : State H) (token : Address) : Int := (s.records.map (·.owes token)).sum

theorem EscrowRecord.owes_nonneg {token : Address} {r : EscrowRecord Address} (h : 0 < r.amount) :
    0 ≤ r.owes token := by
  unfold EscrowRecord.owes
  split <;> omega

/-- The stored records are the register. -/
theorem Represents.records_eq {s : State H} {rs : List (EscrowRecord Address)}
    (h : Represents s rs) : s.records = rs := by
  have h_count := h.count
  have h_lt : rs.length < 2 ^ 64 := h_count ▸ s.count.toNat_lt
  have h_entries : ∀ i ∈ List.range rs.length, s.storage.escrow (.ofNat i) = rs[i]? := by
    intro i h_i
    have h_i := List.mem_range.mp h_i
    rw [h.escrow, UInt64.toNat_ofNat_of_lt' (show i < 2 ^ 64 by omega)]
  rw [State.records, h_count, List.filterMap_congr h_entries]
  exact Register.filterMap_range rs

/-! ## One step -/

/-- The payer of a new escrow is not the factory itself. -/
def PayersOutside (e : Entry H) : Prop := ∀ a ∈ e.label.created?, a.payer ≠ H.currentContract

instance (e : Entry H) : Decidable (PayersOutside e) := by
  unfold PayersOutside
  infer_instance

/-- The step brings the factory none of the token from outside, and the freelancer of a new escrow
    is not the factory itself. -/
def Isolated (token : Address) (e : Entry H) : Prop :=
  (e.label.isOutside = true → e.post.funds token = e.pre.funds token) ∧
    ∀ a ∈ e.label.created?, a.freelancer ≠ H.currentContract

instance (token : Address) (e : Entry H) : Decidable (Isolated token e) :=
  inferInstanceAs (Decidable (_ ∧ _))

/-- The balances cover what is owed, and no payer is the factory. -/
structure Solvent (s : State H) (rs : List (EscrowRecord Address)) : Prop where
  payers : ∀ r ∈ rs, r.payer ≠ H.currentContract
  covered : ∀ token, (rs.map (·.owes token)).sum ≤ s.funds token

/-- The balance is what is owed, and no party is the factory. -/
structure Balanced (token : Address) (s : State H) (rs : List (EscrowRecord Address)) : Prop where
  payers : ∀ r ∈ rs, r.payer ≠ H.currentContract
  freelancers : ∀ r ∈ rs, r.freelancer ≠ H.currentContract
  exact : s.funds token = (rs.map (·.owes token)).sum

/-- `create_escrow` takes in what its record owes. -/
theorem funds_create {s s' : State H} {a : CreateArgs Address} (id : UInt64)
    (h_lock : H.transfer s.world a.token a.payer H.currentContract a.amount = some s'.world)
    (h_payer : a.payer ≠ H.currentContract) (token : Address) :
    s'.funds token = s.funds token + (a.record id).owes token := by
  have h_owes : (a.record id).owes token = if token = a.token then a.amount else 0 := by
    simp [EscrowRecord.owes, CreateArgs.record, EscrowStatus.Open, eq_comm]
  rw [h_owes, State.funds, State.funds, H.balance_apply h_lock]
  simp [h_payer.symm]

/-- What an action takes out of the balance is at most what its record stops owing, and exactly
    that unless it pays the factory itself. -/
theorem funds_act {s s' : State H} {x : Action} {r : EscrowRecord Address}
    (h_pays : Pays s s' r.token r.amount (x.payee r)) (h_status : r.status = x.source)
    (h_pos : 0 < r.amount) (token : Address) :
    s.funds token - r.owes token + (x.result r).owes token ≤ s'.funds token ∧
      (x.payee r ≠ some H.currentContract →
        s'.funds token = s.funds token - r.owes token + (x.result r).owes token) := by
  have h_owes : r.owes token = if token = r.token then r.amount else 0 := by
    have h_open : r.status.Open := h_status ▸ x.source_open
    simp [EscrowRecord.owes, h_open, eq_comm]
  -- a paid record owes nothing any more
  have h_paid (dst : Address) (h_target : ¬x.target.Open)
      (h_move : H.transfer s.world r.token H.currentContract dst r.amount = some s'.world) :
      s.funds token - r.owes token + (x.result r).owes token ≤ s'.funds token ∧
        (some dst ≠ some H.currentContract →
          s'.funds token = s.funds token - r.owes token + (x.result r).owes token) := by
    have h_result : (x.result r).owes token = 0 := if_neg fun h => h_target h.2
    have h_funds := H.balance_apply h_move token H.currentContract
    rw [h_owes, h_result]
    simp only [State.funds, and_true] at h_funds ⊢
    by_cases h_token : token = r.token
    · by_cases h_dst : H.currentContract = dst
      · simp only [h_token, h_dst, and_self, if_true] at h_funds ⊢
        exact ⟨by omega, fun h => absurd rfl h⟩
      · simp only [h_token, h_dst, and_false, if_true, if_false] at h_funds ⊢
        exact ⟨by omega, fun _ => by omega⟩
    · simp only [h_token, false_and, if_false] at h_funds ⊢
      exact ⟨by omega, fun _ => by omega⟩
  cases x with
  | submitWork =>
      have h_same : (Action.submitWork.result r).owes token = r.owes token := by
        rw [h_owes]
        simp [EscrowRecord.owes, Action.result, Action.target, EscrowStatus.Open, eq_comm]
      rw [h_same, State.funds, State.funds, h_pays.1]
      exact ⟨by omega, fun _ => by omega⟩
  | approve => exact h_paid r.freelancer (by decide) h_pays.1
  | cancel => exact h_paid r.payer (by decide) h_pays.1

theorem Move.solvent {e : Entry H} {rs rs' : List (EscrowRecord Address)}
    (h : Move e.pre e.label e.post rs rs') (h_payers : PayersOutside e)
    (h_rep : Represents e.pre rs) (h_inv : Solvent e.pre rs) : Solvent e.post rs' := by
  cases h with
  | quiet _ _ h_keeps =>
      exact ⟨h_inv.payers, fun token => (h_inv.covered token).trans (h_keeps token)⟩
  | @create c a h_label h_op _ _ h_lock =>
      have h_payer := h_payers a (Label.created?_eq h_label h_op)
      constructor
      · rw [List.forall_mem_append, List.forall_mem_singleton]
        exact ⟨h_inv.payers, h_payer⟩
      · intro token
        have h_covered := h_inv.covered token
        rw [Register.sum_snoc, funds_create e.pre.count h_lock h_payer token]
        omega
  | @act c id x r _ _ h_get h_status _ h_pays =>
      have h_mem := List.mem_of_getElem? h_get
      constructor
      · exact Register.forall_replace h_inv.payers (h_inv.payers r h_mem)
      · intro token
        have h_covered := h_inv.covered token
        obtain ⟨h_le, -⟩ := funds_act h_pays h_status (h_rep.positive r h_mem) token
        rw [Register.sum_replace _ h_get]
        omega

theorem Move.balanced {e : Entry H} {rs rs' : List (EscrowRecord Address)} {token : Address}
    (h : Move e.pre e.label e.post rs rs') (h_payers : PayersOutside e) (h_iso : Isolated token e)
    (h_rep : Represents e.pre rs) (h_inv : Balanced token e.pre rs) :
    Balanced token e.post rs' := by
  cases h with
  | quiet _ _ _ h_world =>
      refine ⟨h_inv.payers, h_inv.freelancers, ?_⟩
      rw [← h_inv.exact]
      by_cases h_out : e.label.isOutside = true
      · exact h_iso.1 h_out
      · have h_not : e.label ≠ .outside := by
          intro h_label
          rw [h_label] at h_out
          exact h_out rfl
        rw [State.funds, h_world h_not, State.funds]
  | @create c a h_label h_op _ _ h_lock =>
      have h_payer := h_payers a (Label.created?_eq h_label h_op)
      refine ⟨?_, ?_, ?_⟩
      · rw [List.forall_mem_append, List.forall_mem_singleton]
        exact ⟨h_inv.payers, h_payer⟩
      · rw [List.forall_mem_append, List.forall_mem_singleton]
        exact ⟨h_inv.freelancers, h_iso.2 a (Label.created?_eq h_label h_op)⟩
      · rw [Register.sum_snoc, funds_create e.pre.count h_lock h_payer token, h_inv.exact]
  | @act c id x r _ _ h_get h_status _ h_pays =>
      have h_mem := List.mem_of_getElem? h_get
      have h_payee : x.payee r ≠ some H.currentContract := by
        cases x with
        | submitWork => simp [Action.payee]
        | approve => simpa [Action.payee] using h_inv.freelancers r h_mem
        | cancel => simpa [Action.payee] using h_inv.payers r h_mem
      refine ⟨?_, ?_, ?_⟩
      · exact Register.forall_replace h_inv.payers (h_inv.payers r h_mem)
      · exact Register.forall_replace h_inv.freelancers (h_inv.freelancers r h_mem)
      · obtain ⟨-, h_eq⟩ := funds_act h_pays h_status (h_rep.positive r h_mem) token
        rw [Register.sum_replace _ h_get, h_eq h_payee, h_inv.exact]

/-! ## Whole runs -/

theorem Run.solvent {s₀ s : State H} {tr : List (Entry H)} (h_run : Run s₀ tr s)
    (h_init : s₀.Initial) (h_funds : ∀ token, 0 ≤ s₀.funds token)
    (h_payers : ∀ e ∈ tr, PayersOutside e) : ∃ rs, Represents s rs ∧ Solvent s rs := by
  have h_start : Solvent s₀ [] := ⟨by simp, h_funds⟩
  exact h_run.register h_payers h_init.represents h_start
    fun h_e h_rep h_move h_inv => h_move.solvent h_e h_rep h_inv

theorem Run.balanced {s₀ s : State H} {tr : List (Entry H)} {token : Address}
    (h_run : Run s₀ tr s) (h_init : s₀.Initial) (h_empty : s₀.funds token = 0)
    (h_ok : ∀ e ∈ tr, PayersOutside e ∧ Isolated token e) :
    ∃ rs, Represents s rs ∧ Balanced token s rs := by
  have h_start : Balanced token s₀ [] := ⟨by simp, by simp, h_empty⟩
  exact h_run.register h_ok h_init.represents h_start
    fun h_e h_rep h_move h_inv => h_move.balanced h_e.1 h_e.2 h_rep h_inv

/-- The balance covers every single record that is still open. -/
theorem Solvent.amount_le {s : State H} {rs : List (EscrowRecord Address)} (h : Solvent s rs)
    (h_rep : Represents s rs) {i : Nat} {r : EscrowRecord Address} (h_get : rs[i]? = some r)
    (h_open : r.status.Open) : r.amount ≤ s.funds r.token := by
  have h_owes : r.owes r.token = r.amount := if_pos ⟨rfl, h_open⟩
  have h_le : r.owes r.token ≤ (rs.map (·.owes r.token)).sum :=
    Register.le_sum (fun z h_z => EscrowRecord.owes_nonneg (h_rep.positive z h_z)) h_get
  have h_covered := h.covered r.token
  omega

/-- In a solvent state an action that passes its checks returns, on a live token. -/
theorem Solvent.exec_returns (h_live : H.Live) {s : State H} {rs : List (EscrowRecord Address)}
    (h : Solvent s rs) (h_rep : Represents s rs) {auth : Address → Bool} {id : UInt64} {x : Action}
    {r : EscrowRecord Address} (h_check : x.check auth (s.storage.escrow id) = .ok r) :
    ∃ s', x.exec auth id s = .ok s' := by
  obtain ⟨h_r, h_status, -⟩ := Action.check_ok.mp h_check
  have h_get : rs[id.toNat]? = some r := by rw [← h_rep.escrow, h_r]
  have h_pos := h_rep.positive r (List.mem_of_getElem? h_get)
  have h_le := h.amount_le h_rep h_get (h_status ▸ x.source_open)
  refine Action.exec_of_check h_check fun dst _ => ?_
  exact h_live s.world r.token H.currentContract dst r.amount h_pos.le h_le

/-- **Factory solvency.**  For every token the balance covers what all open records hold together,
    with equality when tokens come in through `create_escrow` only and no freelancer is the
    factory; and no action that passes its checks fails for lack of funds. -/
theorem factory_solvent {s₀ s : State H} {tr : List (Entry H)} (h_init : s₀.Initial)
    (h_funds : ∀ token, 0 ≤ s₀.funds token) (h_run : Run s₀ tr s)
    (h_payers : ∀ e ∈ tr, PayersOutside e) :
    (∀ token, s.owed token ≤ s.funds token) ∧
    (∀ token, s₀.funds token = 0 → (∀ e ∈ tr, Isolated token e) →
      s.funds token = s.owed token) ∧
    ∀ (c : Call Address) (id : UInt64) (x : Action) (r : EscrowRecord Address),
      c.op = .act id x → x.check c.auth (s.storage.escrow id) = .ok r →
        r.amount ≤ s.funds r.token ∧ (H.Live → ∃ s', c.run s = .ok s') := by
  obtain ⟨rs, h_rep, h_solvent⟩ := h_run.solvent h_init h_funds h_payers
  refine ⟨?_, ?_, ?_⟩
  · intro token
    rw [State.owed, h_rep.records_eq]
    exact h_solvent.covered token
  · intro token h_empty h_iso
    obtain ⟨rs', h_rep', h_balanced⟩ := h_run.balanced h_init h_empty
      fun e h_e => ⟨h_payers e h_e, h_iso e h_e⟩
    rw [State.owed, h_rep'.records_eq]
    exact h_balanced.exact
  · intro c id x r h_op h_check
    obtain ⟨h_r, h_status, -⟩ := Action.check_ok.mp h_check
    have h_get : rs[id.toNat]? = some r := by rw [← h_rep.escrow, h_r]
    refine ⟨h_solvent.amount_le h_rep h_get (h_status ▸ x.source_open), fun h_live => ?_⟩
    rw [Call.run, h_op]
    exact h_solvent.exec_returns h_live h_rep h_check

theorem factory_solvent_mixed :
    let s := play Sample.mixed Sample.start
    (∀ token, s.owed token ≤ s.funds token) ∧
    (∀ token, Sample.start.funds token = 0 →
      (∀ e ∈ playTrace Sample.mixed Sample.start, Isolated token e) →
        s.funds token = s.owed token) ∧
    ∀ (c : Call Nat) (id : UInt64) (x : Action) (r : EscrowRecord Nat),
      c.op = .act id x → x.check c.auth (s.storage.escrow id) = .ok r →
        r.amount ≤ s.funds r.token ∧ (Sample.host.Live → ∃ s', c.run s = .ok s') :=
  factory_solvent Sample.start_initial (fun token => (Sample.start_funds token).ge)
    (run_play Sample.mixed Sample.start) (by decide)

end StarEscrow.Factory
