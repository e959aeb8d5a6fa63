/-
  StarEscrow.Factory.WindDown

  The payers can close the factory.

  An open escrow needs one more call of its payer: a cancellation while it is
  `Active`, an approval once the work is submitted.  `windDown` lists these
  calls, in the order of the ids.  A solvent factory refuses none of them, and
  each leaves the others' records and their cover alone, so they all return and
  nothing stays owed (`factory_winds_down`).
-/

import StarEscrow.Factory.Independence

namespace StarEscrow.Factory

/-! ## What closes an escrow -/

/-- The payer's call that closes an escrow of the status. -/
def EscrowStatus.closing : EscrowStatus → Option Action
  | .active => some .cancel
  | .workSubmitted => some .approve
  | .completed | .cancelled => none

theorem EscrowStatus.of_closing {st : EscrowStatus} {x : Action} (h : st.closing = some x) :
    st = x.source ∧ ¬ x.target.Open := by
  cases st with
  | active =>
      obtain rfl := Option.some.inj h
      exact ⟨rfl, by decide⟩
  | workSubmitted =>
      obtain rfl := Option.some.inj h
      exact ⟨rfl, by decide⟩
  | completed | cancelled => cases h

theorem EscrowStatus.closing_eq_none {st : EscrowStatus} (h : st.closing = none) : ¬ st.Open := by
  cases st with
  | active | workSubmitted => cases h
  | completed | cancelled => decide

variable {Address : Type}

/-- The payer makes the closing call. -/
theorem EscrowStatus.caller_of_closing {st : EscrowStatus} {x : Action} (r : EscrowRecord Address)
    (h : st.closing = some x) : x.caller r = r.payer := by
  cases st with
  | active | workSubmitted =>
      obtain rfl := Option.some.inj h
      rfl
  | completed | cancelled => cases h

/-- The record once it is closed. -/
def EscrowRecord.closed (r : EscrowRecord Address) : EscrowRecord Address :=
  match r.status.closing with
  | some x => x.result r
  | none => r

theorem EscrowRecord.closed_not_open (r : EscrowRecord Address) : ¬ r.closed.status.Open := by
  unfold EscrowRecord.closed
  cases h : r.status.closing with
  | none => exact EscrowStatus.closing_eq_none h
  | some x => exact (EscrowStatus.of_closing h).2

/-- The closing calls for the records from number `i` on. -/
def windDown : Nat → List (EscrowRecord Address) → List (Op Address)
  | _, [] => []
  | i, r :: rs => r.status.closing.toList.map (.act (.ofNat i)) ++ windDown (i + 1) rs

/-- What closing a record pays: the freelancer if the work is submitted, else the payer. -/
def EscrowRecord.closingTransfers (factory : Address) (r : EscrowRecord Address) :
    List (Escrow.Transfer Address) :=
  (r.status.closing.bind (·.payee r)).toList.map fun dst => ⟨r.token, factory, dst, r.amount⟩

variable [DecidableEq Address] {H : Host Address}

/-! ## One record -/

/-- In a solvent state the payer's closing call returns and closes the record. -/
theorem Solvent.close (h_live : H.Live) {s : State H} {rs : List (EscrowRecord Address)}
    (h : Solvent s rs) (h_rep : Represents s rs) {auth : Address → Bool} {i : Nat} {x : Action}
    {r : EscrowRecord Address} (h_get : rs[i]? = some r) (h_closing : r.status.closing = some x)
    (h_auth : auth r.payer = true) :
    ∃ s', (Call.mk auth (.act (.ofNat i) x)).run s = .ok s' ∧
      Represents s' (rs.set i r.closed) ∧ Solvent s' (rs.set i r.closed) ∧
      s'.transfers = s.transfers ++ r.closingTransfers H.currentContract := by
  let c : Call Address := ⟨auth, .act (.ofNat i) x⟩
  have h_closed : r.closed = x.result r := by rw [EscrowRecord.closed, h_closing]
  -- every number of a stored record fits the counter
  have h_id : (UInt64.ofNat i).toNat = i := by
    have h_lt := (List.getElem?_eq_some_iff.mp h_get).1
    have h_count := s.count.toNat_lt
    rw [h_rep.count] at h_count
    exact UInt64.toNat_ofNat_of_lt' (show i < 2 ^ 64 by omega)
  have h_stored : s.storage.escrow (.ofNat i) = some r := by rw [h_rep.escrow, h_id, h_get]
  have h_check : x.check auth (s.storage.escrow (.ofNat i)) = .ok r :=
    Action.check_ok.mpr ⟨h_stored, (EscrowStatus.of_closing h_closing).1,
      EscrowStatus.caller_of_closing r h_closing ▸ h_auth⟩
  obtain ⟨s', h_run⟩ := h.exec_returns h_live h_rep h_check
  obtain ⟨r', h_check', h_storage, h_pays⟩ := Action.exec_ok h_run
  obtain rfl := Except.ok.inj (h_check.symm.trans h_check')
  have h_rep' : Represents s' (rs.set i r.closed) := by
    have h_set := h_rep.act (by rw [h_id]; exact h_get) h_storage
    rwa [h_id, ← h_closed] at h_set
  refine ⟨s', h_run, h_rep', ?_, ?_⟩
  · have h_returned : c.run s = .ok s' := h_run
    have h_perform : c.perform s = s' := (Call.perform_of_run h_returned).2
    obtain ⟨rs', h_rep'', h_solvent⟩ := h.perform h_rep (c := c) rfl
    rw [h_perform] at h_rep'' h_solvent
    rw [← h_rep'.records_eq, h_rep''.records_eq]
    exact h_solvent
  · rw [EscrowRecord.closingTransfers, h_closing, Option.bind_some]
    cases h_payee : x.payee r with
    | none =>
        rw [h_payee] at h_pays
        rw [h_pays.2, Option.toList_none, List.map_nil, List.append_nil]
    | some dst =>
        rw [h_payee] at h_pays
        exact h_pays.2

/-! ## All records -/

/-- By induction on the records that are left; those before them are closed. -/
theorem Solvent.wind_down (h_live : H.Live) {auth : Address → Bool}
    (rest : List (EscrowRecord Address)) {done : List (EscrowRecord Address)} {s : State H}
    (h : Solvent s (done ++ rest)) (h_rep : Represents s (done ++ rest))
    (h_auth : ∀ r ∈ rest, auth r.payer = true) :
    let calls := (windDown done.length rest).map (Call.mk auth)
    AllReturn calls s = true ∧
      Represents (play calls s) (done ++ rest.map EscrowRecord.closed) ∧
      (play calls s).transfers =
        s.transfers ++ rest.flatMap (·.closingTransfers H.currentContract) := by
  induction rest generalizing done s with
  | nil => exact ⟨rfl, h_rep, (List.append_nil _).symm⟩
  | cons r rest ih =>
      have h_rest_auth : ∀ r' ∈ rest, auth r'.payer = true :=
        fun r' h_r' => h_auth r' (List.mem_cons_of_mem _ h_r')
      have h_split : done ++ r.closed :: rest = (done ++ [r.closed]) ++ rest := by
        rw [List.append_assoc, List.singleton_append]
      cases h_closing : r.status.closing with
      | none =>
          -- the record is closed already
          have h_closed : r.closed = r := by rw [EscrowRecord.closed, h_closing]
          have h_none : r.closingTransfers H.currentContract = [] := by
            rw [EscrowRecord.closingTransfers, h_closing]
            rfl
          rw [h_closed] at h_split
          rw [h_split] at h h_rep
          have h_all := ih h h_rep h_rest_auth
          rw [List.length_append, List.length_singleton] at h_all
          rw [windDown, h_closing, List.map_cons, h_closed, List.flatMap_cons, h_none,
            ← List.singleton_append (l := rest.map _), ← List.append_assoc]
          exact h_all
      | some x =>
          have h_get : (done ++ r :: rest)[done.length]? = some r := by
            rw [List.getElem?_append_right (Nat.le_refl _), Nat.sub_self]
            rfl
          obtain ⟨s', h_run, h_rep', h_solvent', h_transfers⟩ :=
            h.close h_live h_rep h_get h_closing (h_auth r List.mem_cons_self)
          rw [List.set_append_right _ _ (Nat.le_refl _), Nat.sub_self, List.set_cons_zero, h_split]
            at h_rep' h_solvent'
          obtain ⟨h_returns, h_end, h_paid⟩ := ih h_solvent' h_rep' h_rest_auth
          rw [List.length_append, List.length_singleton] at h_returns h_end h_paid
          obtain ⟨h_first, h_perform⟩ := Call.perform_of_run h_run
          rw [windDown, h_closing]
          refine ⟨?_, ?_, ?_⟩
          · show (Call.returns _ s && AllReturn _ (Call.perform _ s)) = true
            rw [h_first, h_perform, Bool.true_and]
            exact h_returns
          · show Represents (play _ (Call.perform _ s)) _
            rw [h_perform, List.map_cons, ← List.singleton_append (l := rest.map _),
              ← List.append_assoc]
            exact h_end
          · show (play _ (Call.perform _ s)).transfers = _
            rw [h_perform, List.flatMap_cons, ← List.append_assoc, ← h_transfers]
            exact h_paid

/-- **The payers can close the factory.**  From every state that a run from empty storage reaches,
    on live tokens, the closing calls of the open escrows all return, one after the other in the
    order of their ids, when the payers sign them.  They pay each open escrow's amount to the
    freelancer if the work is submitted and back to the payer if not, they close every record, and
    then nothing is owed in any token. -/
theorem factory_winds_down (h_live : H.Live) {s₀ s : State H} {tr : List (Entry H)}
    (h_init : s₀.Initial) (h_funds : ∀ token, 0 ≤ s₀.funds token) (h_run : Run s₀ tr s)
    (h_payers : ∀ e ∈ tr, PayersOutside e) {auth : Address → Bool}
    (h_auth : ∀ r ∈ s.records, auth r.payer = true) :
    let calls := (windDown 0 s.records).map (Call.mk auth)
    AllReturn calls s = true ∧
      (play calls s).records = s.records.map EscrowRecord.closed ∧
      (∀ r ∈ (play calls s).records, ¬ r.status.Open) ∧
      (∀ token, (play calls s).owed token = 0) ∧
      (play calls s).transfers =
        s.transfers ++ s.records.flatMap (·.closingTransfers H.currentContract) := by
  intro calls
  obtain ⟨rs, h_rep, h_solvent⟩ := h_run.solvent h_init h_funds h_payers
  have h_records := h_rep.records_eq
  rw [← h_records] at h_rep h_solvent
  have h_start : Solvent s ([] ++ s.records) := h_solvent
  obtain ⟨h_returns, h_end, h_transfers⟩ := h_start.wind_down h_live s.records h_rep h_auth
  have h_closed : (play calls s).records = s.records.map EscrowRecord.closed := h_end.records_eq
  have h_none : ∀ r ∈ (play calls s).records, ¬ r.status.Open := by
    rw [h_closed]
    intro r h_r
    obtain ⟨r₀, -, rfl⟩ := List.mem_map.mp h_r
    exact r₀.closed_not_open
  refine ⟨h_returns, h_closed, h_none, fun token => ?_, h_transfers⟩
  refine List.sum_eq_zero fun x h_x => ?_
  obtain ⟨r, h_r, rfl⟩ := List.mem_map.mp h_x
  exact if_neg fun h => h_none r h_r h.2

theorem factory_winds_down_mixed :
    let s := play (Sample.mixed.take 5) Sample.start
    let calls := (windDown 0 s.records).map (Call.mk fun a : Nat => a = 1 ∨ a = 2)
    AllReturn calls s = true ∧
      (play calls s).records = s.records.map EscrowRecord.closed ∧
      (∀ r ∈ (play calls s).records, ¬ r.status.Open) ∧
      (∀ token, (play calls s).owed token = 0) ∧
      (play calls s).transfers = s.transfers ++ s.records.flatMap (·.closingTransfers 0) :=
  factory_winds_down Sep41.ledger_live Sample.start_initial
    (fun token => (Sample.start_funds token).ge) (run_play (Sample.mixed.take 5) Sample.start)
    (by decide) (by decide)

end StarEscrow.Factory
