/-
  StarEscrow.Bundle.Factory

  A job in parts, on the factory.

  Each item is an escrow of its own.  To give the job up, the payer cancels
  every escrow that is still open; these are separate calls, and one that finds
  a submitted item is refused while the others go through.  Since calls on
  different ids do not see each other, a batch of them does to each record what
  a single call would (`Solvent.batch`), and the factory is the job over every
  sequence of requests (`Holds.step`).
-/

import StarEscrow.Bundle.Work
import StarEscrow.Deal
import StarEscrow.Factory.WindDown
import Mathlib.Data.List.Nodup

namespace StarEscrow.Bundle

open Deal (received received_pays)

variable {Address : Type} [DecidableEq Address]

/-! ## Batches of calls -/

section Batch

variable {F : Factory.Host Address} {f : Factory.State F} {rs : List (Factory.EscrowRecord Address)}
  {auth : Address → Bool} {x : Factory.Action}

/-- What an action on a stored record pays an address in a token. -/
def paysTo (auth : Address → Bool) (x : Factory.Action) (token who : Address)
    (o : Option (Factory.EscrowRecord Address)) : Int :=
  match x.check auth o with
  | .ok r => if r.token = token ∧ x.payee r = some who then r.amount else 0
  | .error _ => 0

/-- The same action on several ids. -/
def batch (auth : Address → Bool) (x : Factory.Action) (ids : List UInt64) :
    List (Factory.Call Address) :=
  ids.map fun id => ⟨auth, .act id x⟩

/-- What one call pays. -/
theorem received_perform (h_solvent : Factory.Solvent f rs) (h_live : F.Live)
    (h_rep : Factory.Represents f rs) (id : UInt64) (token who : Address) :
    received ((Factory.Call.mk auth (.act id x)).perform f).transfers token who =
      received f.transfers token who + paysTo auth x token who (f.storage.escrow id) := by
  let c : Factory.Call Address := ⟨auth, .act id x⟩
  show received (c.perform f).transfers token who = _
  have h_run : c.run f = x.exec auth id f := rfl
  cases h_check : x.check auth (f.storage.escrow id) with
  | error e =>
      rw [Factory.Action.exec_of_check_error h_check] at h_run
      rw [Factory.Call.perform, h_run, paysTo, h_check, Int.add_zero]
  | ok r =>
      obtain ⟨f', h_exec⟩ := h_solvent.exec_returns h_live h_rep h_check
      obtain ⟨r', h_check', -, h_pays⟩ := Factory.Action.exec_ok h_exec
      obtain rfl := Except.ok.inj (h_check.symm.trans h_check')
      rw [h_exec] at h_run
      rw [Factory.Call.perform, h_run, paysTo, h_check]
      exact received_pays h_pays token who

omit [DecidableEq Address] in
theorem isOk_map {α β : Type} (o : Factory.Exec α) (g : α → β) : (o.map g).isOk = o.isOk := by
  cases o <;> rfl

/-- A call returns if its checks pass. -/
theorem returns_eq {c : Factory.Call Address} {o : Factory.Exec (Factory.EscrowRecord Address)}
    (h : c.result f = o.map fun _ => ()) : c.returns f = o.isOk := by
  have h_ok := congrArg Except.isOk h
  rwa [Factory.Call.result, isOk_map, isOk_map] at h_ok

/-- What calls on different ids do, each by its own record. -/
structure Batched (auth : Address → Bool) (x : Factory.Action) (ids : List UInt64)
    (f f' : Factory.State F) : Prop where
  solvent : ∃ rs, Factory.Represents f' rs ∧ Factory.Solvent f' rs
  returns : Factory.AllReturn (batch auth x ids) f =
    ids.all fun id => (x.check auth (f.storage.escrow id)).isOk
  escrow : ∀ id, f'.storage.escrow id =
    if id ∈ ids then x.entry auth (f.storage.escrow id) else f.storage.escrow id
  paid : ∀ token who, received f'.transfers token who = received f.transfers token who +
    (ids.map fun id => paysTo auth x token who (f.storage.escrow id)).sum

theorem batched (h_live : F.Live) {ids : List UInt64} (h_nodup : ids.Nodup)
    (h_solvent : Factory.Solvent f rs) (h_rep : Factory.Represents f rs) :
    Batched auth x ids f (Factory.play (batch auth x ids) f) := by
  induction ids generalizing f rs with
  | nil => exact ⟨⟨rs, h_rep, h_solvent⟩, rfl, fun _ => rfl, fun _ _ => (Int.add_zero _).symm⟩
  | cons id ids ih =>
      obtain ⟨h_new, h_rest⟩ := List.nodup_cons.mp h_nodup
      let c : Factory.Call Address := ⟨auth, .act id x⟩
      have h_acts := h_solvent.acts h_live h_rep (c := c) rfl
      obtain ⟨rs', h_rep', h_solvent'⟩ := h_solvent.perform h_rep (c := c) rfl
      have h_after := ih h_rest h_solvent' h_rep'
      -- the first call leaves the records of the others
      have h_same {j : UInt64} (h_j : j ≠ id) :
          (c.perform f).storage.escrow j = f.storage.escrow j := h_acts.escrow_of_ne h_j
      have h_mem {j : UInt64} (h_j : j ∈ ids) : j ≠ id := fun h_eq => h_new (h_eq ▸ h_j)
      refine ⟨h_after.solvent, ?_, fun j => ?_, fun token who => ?_⟩
      · show (c.returns f && Factory.AllReturn (batch auth x ids) (c.perform f)) = _
        rw [h_after.returns, List.all_cons]
        congr 1
        · exact returns_eq h_acts.result
        · rw [Bool.eq_iff_iff, List.all_eq_true, List.all_eq_true]
          exact forall₂_congr fun j h_j => by rw [h_same (h_mem h_j)]
      · show (Factory.play (batch auth x ids) (c.perform f)).storage.escrow j = _
        rw [h_after.escrow]
        by_cases h_j : j = id
        · subst h_j
          rw [if_neg h_new, if_pos List.mem_cons_self, h_acts.storage]
          exact Function.update_self j _ _
        · rw [h_same h_j]
          simp [List.mem_cons, h_j]
      · have h_paid := h_after.paid token who
        show received (Factory.play (batch auth x ids) (c.perform f)).transfers token who = _
        rw [h_paid, received_perform h_solvent h_live h_rep, List.map_cons, List.sum_cons,
          Int.add_assoc]
        congr 3
        apply List.map_congr_left
        intro j h_j
        rw [h_same (h_mem h_j)]

end Batch

/-! ## The machine -/

section Machine

variable {F : Factory.Host Address}

def stageOf : Factory.EscrowStatus → Stage
  | .active => .pending
  | .workSubmitted => .submitted
  | .completed => .approved
  | .cancelled => .refunded

def itemOf (r : Factory.EscrowRecord Address) : Item := ⟨r.amount, stageOf r.status⟩

/-- The record is between the parties. -/
def Parties.Fits (p : Parties Address) (r : Factory.EscrowRecord Address) : Prop :=
  r.payer = p.payer ∧ r.freelancer = p.freelancer ∧ r.token = p.token

/-- The escrow is stored and still open. -/
def isOpen (f : Factory.State F) (id : UInt64) : Bool :=
  (f.storage.escrow id).any fun r => r.status.Open

/-- The calls that serve a request. -/
def calls (ids : List UInt64) (f : Factory.State F) (x : Request Address) :
    List (Factory.Call Address) :=
  match x.work with
  | .submit i => batch x.auth .submitWork ids[i]?.toList
  | .approve i => batch x.auth .approve ids[i]?.toList
  | .giveUp => batch x.auth .cancel (ids.filter (isOpen f))

/-- The escrows `ids` of the factory, observed from the state `f₀` on.  A request succeeds if there
    is something to call and all of it returns. -/
def factory (p : Parties Address) (ids : List UInt64) (f₀ : Factory.State F) :
    Mealy.Machine (Request Address) (Factory.State F) Outcome where
  perform x f := Factory.play (calls ids f x) f
  output x f :=
    let cs := calls ids f x
    let f' := Factory.play cs f
    ⟨!cs.isEmpty && Factory.AllReturn cs f,
      received f'.transfers p.token p.payer - received f₀.transfers p.token p.payer,
      received f'.transfers p.token p.freelancer - received f₀.transfers p.token p.freelancer,
      (ids.map f'.storage.escrow).filterMap (Option.map itemOf)⟩

/-- The factory stores the items under `ids`, and has paid what they say since `f₀`. -/
structure Holds (p : Parties Address) (ids : List UInt64) (f₀ f : Factory.State F)
    (items : List Item) : Prop where
  solvent : ∃ rs, Factory.Represents f rs ∧ Factory.Solvent f rs
  records : ∃ rs : List (Factory.EscrowRecord Address), ids.map f.storage.escrow = rs.map some ∧
    rs.map itemOf = items ∧ ∀ r ∈ rs, p.Fits r
  paid : ∀ who, received f.transfers p.token who - received f₀.transfers p.token who =
    paid p who items

variable {p : Parties Address} {ids : List UInt64} {f₀ f : Factory.State F} {items : List Item}

/-- The answer, in a state that holds the items. -/
theorem Holds.output {x : Request Address} {items' : List Item}
    (h : Holds p ids f₀ ((factory p ids f₀).perform x f) items') :
    (factory p ids f₀).output x f =
      ⟨!(calls ids f x).isEmpty && Factory.AllReturn (calls ids f x) f,
        Bundle.paid p p.payer items', Bundle.paid p p.freelancer items', items'⟩ := by
  obtain ⟨rs, h_rs, rfl, -⟩ := h.records
  have h_items : (ids.map ((factory p ids f₀).perform x f).storage.escrow).filterMap
      (Option.map itemOf) = rs.map itemOf := by
    rw [h_rs, List.filterMap_map]
    exact congrFun List.filterMap_eq_map rs
  rw [← h.paid, ← h.paid, ← h_items]
  rfl

/-! ## One item -/

/-- An update at one of different keys. -/
theorem map_update {β : Type} {g : UInt64 → β} {i : Nat} {id : UInt64} {b : β}
    (h_nodup : ids.Nodup) (h_id : ids[i]? = some id) :
    ids.map (Function.update g id b) = (ids.map g).set i b := by
  obtain ⟨h_lt, rfl⟩ := List.getElem?_eq_some_iff.mp h_id
  rw [h_nodup.map_update, if_pos (List.getElem_mem h_lt), h_nodup.idxOf_getElem i h_lt]

theorem stageOf_inj {st st' : Factory.EscrowStatus} : stageOf st = stageOf st' ↔ st = st' := by
  cases st <;> cases st' <;> decide

theorem isOpen_iff {st : Factory.EscrowStatus} : st.Open ↔ (stageOf st).Open := by
  cases st <;> decide

omit [DecidableEq Address] in
theorem check_isOk {auth : Address → Bool} {x : Factory.Action} {r : Factory.EscrowRecord Address} :
    (x.check auth (some r)).isOk = true ↔ r.status = x.source ∧ auth (x.caller r) = true := by
  cases h : x.check auth (some r) with
  | ok r' =>
      obtain ⟨h_r, h_status, h_auth⟩ := Factory.Action.check_ok.mp h
      obtain rfl := Option.some.inj h_r
      exact iff_of_true rfl ⟨h_status, h_auth⟩
  | error e =>
      refine iff_of_false nofun fun ⟨h_status, h_auth⟩ => ?_
      cases h.symm.trans (Factory.Action.check_ok.mpr ⟨rfl, h_status, h_auth⟩)

/-- What an action leaves of a record, and pays for it. -/
theorem entry_of_ok {auth : Address → Bool} {x : Factory.Action} {r : Factory.EscrowRecord Address}
    (h_status : r.status = x.source) (h_auth : auth (x.caller r) = true) :
    x.entry auth (some r) = some (x.result r) ∧ ∀ token who,
      paysTo auth x token who (some r) =
        if r.token = token ∧ x.payee r = some who then r.amount else 0 := by
  have h_check : x.check auth (some r) = .ok r :=
    Factory.Action.check_ok.mpr ⟨rfl, h_status, h_auth⟩
  rw [Factory.Action.entry, h_check]
  exact ⟨rfl, fun token who => by rw [paysTo, h_check]⟩

theorem entry_of_refused {auth : Address → Bool} {x : Factory.Action}
    {r : Factory.EscrowRecord Address} (h : ¬ (r.status = x.source ∧ auth (x.caller r) = true)) :
    x.entry auth (some r) = some r ∧ ∀ token who, paysTo auth x token who (some r) = 0 := by
  rw [← check_isOk] at h
  unfold Factory.Action.entry paysTo
  cases h_check : x.check auth (some r) with
  | ok r' => exact absurd (by rw [h_check]; rfl) h
  | error e => exact ⟨rfl, fun _ _ => rfl⟩

/-- What an action pays is what its result says. -/
theorem paid_result {r : Factory.EscrowRecord Address} (h : p.Fits r) (x : Factory.Action)
    (who : Address) : (if r.token = p.token ∧ x.payee r = some who then r.amount else 0) =
      (itemOf (x.result r)).paid p who := by
  obtain ⟨h_payer, h_freelancer, h_token⟩ := h
  cases x <;> simp [itemOf, stageOf, Item.paid, Factory.Action.payee, Factory.Action.result,
    Factory.Action.target, h_payer, h_freelancer, h_token]

/-- Nothing is paid for an item that an action is for. -/
theorem paid_source {r : Factory.EscrowRecord Address} {x : Factory.Action}
    (h : r.status = x.source) (who : Address) : (itemOf r).paid p who = 0 := by
  cases x <;> simp [itemOf, stageOf, Item.paid, h, Factory.Action.source]

/-- Together they say what the action pays. -/
theorem paid_entry {auth : Address → Bool} {x : Factory.Action} {r r' : Factory.EscrowRecord Address}
    (h_fits : p.Fits r) (h : x.entry auth (some r) = some r') (who : Address) :
    (itemOf r').paid p who = (itemOf r).paid p who + paysTo auth x p.token who (some r) := by
  by_cases h_ok : r.status = x.source ∧ auth (x.caller r) = true
  · obtain ⟨h_entry, h_pays⟩ := entry_of_ok h_ok.1 h_ok.2
    obtain rfl := Option.some.inj (h_entry.symm.trans h)
    rw [h_pays, paid_source h_ok.1, Int.zero_add, paid_result h_fits]
  · obtain ⟨h_entry, h_pays⟩ := entry_of_refused h_ok
    obtain rfl := Option.some.inj (h_entry.symm.trans h)
    rw [h_pays, Int.add_zero]

/-- An action on one item takes it from its source stage to its target stage. -/
theorem Holds.advance (h_live : F.Live) (h_nodup : ids.Nodup) (h : Holds p ids f₀ f items)
    {auth : Address → Bool} {x : Factory.Action} {i : Nat} {allowed : Bool}
    (h_allowed : ∀ r, p.Fits r → auth (x.caller r) = allowed) :
    let cs := batch auth x ids[i]?.toList
    let after := Bundle.advance items i (stageOf x.source) (stageOf x.target) allowed
    (!cs.isEmpty && Factory.AllReturn cs f) = after.1 ∧
      Holds p ids f₀ (Factory.play cs f) after.2 := by
  obtain ⟨rs', h_rep, h_solvent⟩ := h.solvent
  obtain ⟨rs, h_rs, rfl, h_fits⟩ := h.records
  cases h_id : ids[i]? with
  | none =>
      -- there is no such item
      have h_none : (rs.map itemOf)[i]? = none := by
        have h_len := congrArg List.length h_rs
        rw [List.length_map, List.length_map] at h_len
        rw [List.getElem?_eq_none_iff] at h_id ⊢
        rw [List.length_map]
        omega
      rw [advance_of_ne fun it h_it => by rw [h_none] at h_it; cases h_it]
      exact ⟨rfl, h⟩
  | some id =>
      have h_stored : some (f.storage.escrow id) = (rs[i]?).map some := by
        rw [← List.getElem?_map, ← h_rs, List.getElem?_map, h_id]
        rfl
      obtain ⟨r, h_r, h_some⟩ := Option.map_eq_some_iff.mp h_stored.symm
      have h_fit := h_fits r (List.mem_of_getElem? h_r)
      have h_item : (rs.map itemOf)[i]? = some (itemOf r) := by rw [List.getElem?_map, h_r]; rfl
      have h_batch : Batched auth x [id] f (Factory.play (batch auth x [id]) f) :=
        batched h_live (List.nodup_singleton id) h_solvent h_rep
      have h_calls : (!(batch auth x [id]).isEmpty && Factory.AllReturn (batch auth x [id]) f) =
          (x.check auth (some r)).isOk := by
        rw [h_batch.returns, List.all_cons, ← h_some]
        simp [batch]
      -- the record of the item after the call
      have h_set {r' : Factory.EscrowRecord Address} (h_entry : x.entry auth (some r) = some r')
          (h_same : p.Fits r') :
          Holds p ids f₀ (Factory.play (batch auth x [id]) f) ((rs.set i r').map itemOf) := by
        refine ⟨h_batch.solvent, ⟨rs.set i r', ?_, rfl, ?_⟩, fun who => ?_⟩
        · have h_escrow : (Factory.play (batch auth x [id]) f).storage.escrow =
              Function.update f.storage.escrow id (some r') := by
            funext j
            rw [h_batch.escrow, Function.update_apply, ← h_entry, h_some]
            by_cases h_j : j = id
            · subst h_j
              simp
            · simp [h_j]
          rw [h_escrow, map_update h_nodup h_id, h_rs, List.map_set]
        · exact Register.forall_replace h_fits h_same
        · have h_before := h.paid who
          have h_one := h_batch.paid p.token who
          rw [List.map_cons, List.map_nil, List.sum_cons, List.sum_nil, ← h_some] at h_one
          rw [List.map_set, paid_set h_item, paid_entry h_fit h_entry]
          omega
      show (!(batch auth x [id]).isEmpty && Factory.AllReturn (batch auth x [id]) f) = _ ∧
        Holds p ids f₀ (Factory.play (batch auth x [id]) f) _
      rw [h_calls]
      by_cases h_ok : r.status = x.source ∧ auth (x.caller r) = true
      · have h_stage : (itemOf r).stage = stageOf x.source := congrArg stageOf h_ok.1
        have h_true : allowed = true := (h_allowed r h_fit).symm.trans h_ok.2
        rw [h_true, advance_of_eq h_item h_stage, check_isOk.mpr h_ok]
        have h_holds := h_set (entry_of_ok h_ok.1 h_ok.2).1 h_fit
        rw [List.map_set] at h_holds
        exact ⟨rfl, h_holds⟩
      · have h_refused : (x.check auth (some r)).isOk = false :=
          Bool.eq_false_iff.mpr fun h => h_ok (check_isOk.mp h)
        rw [advance_of_ne fun it h_it h_stage => ?_, h_refused]
        · have h_holds := h_set (entry_of_refused h_ok).1 h_fit
          have h_self : rs.set i r = rs := by
            obtain ⟨h_lt, h_eq⟩ := List.getElem?_eq_some_iff.mp h_r
            rw [← h_eq]
            exact List.set_getElem_self h_lt
          rw [h_self] at h_holds
          exact ⟨rfl, h_holds⟩
        · obtain rfl := Option.some.inj (h_item.symm.trans h_it)
          rw [← h_allowed r h_fit]
          exact Bool.eq_false_iff.mpr fun h_auth => h_ok ⟨stageOf_inj.mp h_stage, h_auth⟩

/-! ## Giving up -/

/-- What a cancellation leaves of a record. -/
def cancelled (auth : Address → Bool) (r : Factory.EscrowRecord Address) :
    Factory.EscrowRecord Address :=
  if r.status = .active ∧ auth r.payer = true then Factory.Action.cancel.result r else r

theorem cancel_entry (auth : Address → Bool) (r : Factory.EscrowRecord Address) :
    Factory.Action.cancel.entry auth (some r) = some (cancelled auth r) := by
  unfold cancelled
  split
  · rename_i h_ok
    exact (entry_of_ok (x := .cancel) h_ok.1 h_ok.2).1
  · rename_i h_ok
    exact (entry_of_refused (x := .cancel) h_ok).1

omit [DecidableEq Address] in
theorem cancelled_of_closed {auth : Address → Bool} {r : Factory.EscrowRecord Address}
    (h : ¬ r.status.Open) : cancelled auth r = r := if_neg fun h_ok => h (.inl h_ok.1)

omit [DecidableEq Address] in
theorem itemOf_cancelled {auth : Address → Bool} {r : Factory.EscrowRecord Address} :
    itemOf (cancelled auth r) = if auth r.payer = true then (itemOf r).giveUp else itemOf r := by
  cases h_auth : auth r.payer <;> cases h_status : r.status <;>
    simp [cancelled, h_auth, h_status, itemOf, stageOf, Item.giveUp, Factory.Action.result,
      Factory.Action.target]

/-- A sum over the ids that count. -/
theorem sum_filter {α : Type} {q : α → Bool} {g : α → Int} {l : List α}
    (h : ∀ a ∈ l, q a = false → g a = 0) : ((l.filter q).map g).sum = (l.map g).sum := by
  induction l with
  | nil => rfl
  | cons a l ih =>
      have h_rest := ih fun b h_b => h b (List.mem_cons_of_mem a h_b)
      cases h_a : q a with
      | true => rw [List.filter_cons_of_pos h_a, List.map_cons, List.map_cons, List.sum_cons,
          List.sum_cons, h_rest]
      | false =>
          rw [List.filter_cons_of_neg (by simp [h_a]), h_rest, List.map_cons, List.sum_cons,
            h a List.mem_cons_self h_a, Int.zero_add]

/-- The records of the items are the stored ones. -/
theorem mem_records {rs : List (Factory.EscrowRecord Address)}
    (h_rs : ids.map f.storage.escrow = rs.map some) {r : Factory.EscrowRecord Address} :
    r ∈ rs ↔ ∃ id ∈ ids, f.storage.escrow id = some r := by
  have h_mem : some r ∈ rs.map some ↔ r ∈ rs := by simp
  rw [← h_mem, ← h_rs, List.mem_map]

theorem exists_record {rs : List (Factory.EscrowRecord Address)}
    (h_rs : ids.map f.storage.escrow = rs.map some) {id : UInt64} (h_id : id ∈ ids) :
    ∃ r ∈ rs, f.storage.escrow id = some r := by
  have h_mem : f.storage.escrow id ∈ rs.map some := h_rs ▸ List.mem_map_of_mem h_id
  obtain ⟨r, h_r, h_some⟩ := List.mem_map.mp h_mem
  exact ⟨r, h_r, h_some.symm⟩

/-- Cancelling what is open cancels every record that can be. -/
theorem Holds.cancel_open (h_live : F.Live) (h_nodup : ids.Nodup) (h : Holds p ids f₀ f items)
    (auth : Address → Bool) {rs : List (Factory.EscrowRecord Address)}
    (h_rs : ids.map f.storage.escrow = rs.map some) (h_items : rs.map itemOf = items)
    (h_fits : ∀ r ∈ rs, p.Fits r) :
    Holds p ids f₀ (Factory.play (batch auth .cancel (ids.filter (isOpen f))) f)
      (rs.map fun r => itemOf (cancelled auth r)) := by
  obtain ⟨rs', h_rep, h_solvent⟩ := h.solvent
  have h_batch : Batched auth .cancel (ids.filter (isOpen f)) f
      (Factory.play (batch auth .cancel (ids.filter (isOpen f))) f) :=
    batched h_live (h_nodup.filter _) h_solvent h_rep
  have h_closed {id : UInt64} {r : Factory.EscrowRecord Address}
      (h_r : f.storage.escrow id = some r) (h_id : isOpen f id = false) : ¬ r.status.Open := by
    simpa [isOpen, h_r] using h_id
  refine ⟨h_batch.solvent, ⟨rs.map (cancelled auth), ?_, by rw [List.map_map]; rfl, ?_⟩, ?_⟩
  · have h_left : ∀ id ∈ ids,
        (Factory.play (batch auth .cancel (ids.filter (isOpen f))) f).storage.escrow id =
          (f.storage.escrow id).map (cancelled auth) := by
      intro id h_id
      obtain ⟨r, -, h_r⟩ := exists_record h_rs h_id
      rw [h_batch.escrow, h_r, Option.map_some]
      split
      · exact cancel_entry auth r
      · rename_i h_out
        rw [cancelled_of_closed]
        exact h_closed h_r (by simpa [List.mem_filter, h_id] using h_out)
    calc ids.map (Factory.play (batch auth .cancel (ids.filter (isOpen f))) f).storage.escrow
        = (ids.map f.storage.escrow).map (Option.map (cancelled auth)) := by
          rw [List.map_congr_left h_left, List.map_map]
          rfl
      _ = (rs.map (cancelled auth)).map some := by
          rw [h_rs, List.map_map, List.map_map]
          rfl
  · intro r h_r
    obtain ⟨r₀, h_r₀, rfl⟩ := List.mem_map.mp h_r
    unfold cancelled
    split
    · exact h_fits r₀ h_r₀
    · exact h_fits r₀ h_r₀
  · intro who
    have h_before := h.paid who
    have h_sum : ((ids.filter (isOpen f)).map fun id =>
        paysTo auth .cancel p.token who (f.storage.escrow id)).sum =
          (rs.map fun r => paysTo auth .cancel p.token who (some r)).sum := by
      rw [sum_filter]
      · have h_map := congrArg (fun l => (l.map (paysTo auth .cancel p.token who)).sum) h_rs
        rwa [List.map_map, List.map_map] at h_map
      · intro id h_id h_out
        obtain ⟨r, -, h_r⟩ := exists_record h_rs h_id
        rw [h_r]
        refine (entry_of_refused fun h_ok => h_closed h_r h_out ?_).2 p.token who
        exact h_ok.1 ▸ .inl rfl
    have h_items_sum : (rs.map fun r => (itemOf (cancelled auth r)).paid p who).sum =
        (rs.map fun r => (itemOf r).paid p who).sum +
          (rs.map fun r => paysTo auth .cancel p.token who (some r)).sum := by
      rw [← List.sum_map_add]
      congr 1
      apply List.map_congr_left
      intro r h_r
      exact paid_entry (h_fits r h_r) (cancel_entry auth r) who
    rw [h_batch.paid, h_sum]
    subst h_items
    unfold Bundle.paid at h_before ⊢
    rw [List.map_map] at h_before ⊢
    simp only [Function.comp_def] at h_before ⊢
    omega

/-- The batch returns, and calls something, exactly if giving up succeeds. -/
theorem Holds.giveUp_returns (h_live : F.Live) (h_nodup : ids.Nodup) (h : Holds p ids f₀ f items)
    (auth : Address → Bool) :
    let cs := batch auth .cancel (ids.filter (isOpen f))
    (!cs.isEmpty && Factory.AllReturn cs f) = (giveUpAll items (auth p.payer)).1 := by
  intro cs
  obtain ⟨rs', h_rep, h_solvent⟩ := h.solvent
  obtain ⟨rs, h_rs, rfl, h_fits⟩ := h.records
  have h_batch : Batched auth .cancel (ids.filter (isOpen f)) f (Factory.play cs f) :=
    batched h_live (h_nodup.filter _) h_solvent h_rep
  have h_open {id : UInt64} {r : Factory.EscrowRecord Address} (h_id : id ∈ ids)
      (h_r : f.storage.escrow id = some r) :
      id ∈ ids.filter (isOpen f) ↔ (itemOf r).stage.Open := by
    rw [List.mem_filter, itemOf, ← isOpen_iff]
    simp [isOpen, h_id, h_r]
  have h_check {id : UInt64} {r : Factory.EscrowRecord Address} (h_mem : r ∈ rs)
      (h_r : f.storage.escrow id = some r) :
      (Factory.Action.cancel.check auth (f.storage.escrow id)).isOk = true ↔
        (itemOf r).stage = .pending ∧ auth p.payer = true := by
    rw [h_r, check_isOk, ← (h_fits r h_mem).1]
    exact and_congr_left fun _ => stageOf_inj.symm
  rw [h_batch.returns, Bool.eq_iff_iff, Bool.and_eq_true, List.all_eq_true]
  have h_some : (!cs.isEmpty) = true ↔ ∃ id, id ∈ ids.filter (isOpen f) := by
    simp only [cs, batch, Bool.not_eq_true', List.isEmpty_eq_false_iff, ne_eq, List.map_eq_nil_iff]
    exact ⟨List.exists_mem_of_ne_nil _, fun ⟨_, h_id⟩ => List.ne_nil_of_mem h_id⟩
  rw [h_some]
  -- the record behind an id that is called
  have h_called {id : UInt64} (h_id : id ∈ ids.filter (isOpen f)) :
      ∃ r ∈ rs, f.storage.escrow id = some r ∧ (itemOf r).stage.Open := by
    obtain ⟨r, h_mem, h_r⟩ := exists_record h_rs (List.mem_of_mem_filter h_id)
    exact ⟨r, h_mem, h_r, (h_open (List.mem_of_mem_filter h_id) h_r).mp h_id⟩
  unfold giveUpAll
  constructor
  · rintro ⟨⟨id, h_id⟩, h_all⟩
    obtain ⟨r, h_mem, h_r, h_stage⟩ := h_called h_id
    have h_auth := ((h_check h_mem h_r).mp (h_all id h_id)).2
    rw [if_pos h_auth, decide_eq_true_eq]
    refine ⟨⟨itemOf r, List.mem_map_of_mem h_mem, h_stage⟩, fun it h_it h_submitted => ?_⟩
    obtain ⟨r', h_mem', rfl⟩ := List.mem_map.mp h_it
    obtain ⟨id', h_id', h_r'⟩ := (mem_records h_rs).mp h_mem'
    have h_called' := (h_open h_id' h_r').mpr (.inr h_submitted)
    rw [((h_check h_mem' h_r').mp (h_all id' h_called')).1] at h_submitted
    cases h_submitted
  · intro h_ok
    have h_auth : auth p.payer = true := by
      by_contra h_not
      rw [if_neg h_not] at h_ok
      cases h_ok
    rw [if_pos h_auth, decide_eq_true_eq] at h_ok
    obtain ⟨⟨it, h_it, h_stage⟩, h_none⟩ := h_ok
    obtain ⟨r, h_mem, rfl⟩ := List.mem_map.mp h_it
    obtain ⟨id, h_id, h_r⟩ := (mem_records h_rs).mp h_mem
    refine ⟨⟨id, (h_open h_id h_r).mpr h_stage⟩, fun id' h_id' => ?_⟩
    obtain ⟨r', h_mem', h_r', h_stage'⟩ := h_called h_id'
    have h_not := h_none (itemOf r') (List.mem_map_of_mem h_mem')
    exact (h_check h_mem' h_r').mpr ⟨h_stage'.resolve_right h_not, h_auth⟩

/-- Cancelling what is open gives up every item. -/
theorem Holds.giveUp (h_live : F.Live) (h_nodup : ids.Nodup) (h : Holds p ids f₀ f items)
    (auth : Address → Bool) :
    Holds p ids f₀ (Factory.play (batch auth .cancel (ids.filter (isOpen f))) f)
      (giveUpAll items (auth p.payer)).2 := by
  obtain ⟨rs, h_rs, rfl, h_fits⟩ := h.records
  have h_left : (giveUpAll (rs.map itemOf) (auth p.payer)).2 =
      rs.map fun r => itemOf (cancelled auth r) := by
    have h_item : ∀ r ∈ rs, itemOf (cancelled auth r) =
        if auth p.payer = true then (itemOf r).giveUp else itemOf r := by
      intro r h_r
      rw [itemOf_cancelled, (h_fits r h_r).1]
    rw [List.map_congr_left h_item]
    unfold giveUpAll
    split
    · exact List.map_map
    · rfl
  rw [h_left]
  exact h.cancel_open h_live h_nodup auth h_rs rfl h_fits

/-- The factory serves every request as the job does. -/
theorem Holds.step (h_live : F.Live) (h_nodup : ids.Nodup) (x : Request Address)
    (f : Factory.State F) (items : List Item) (h : Holds p ids f₀ f items) :
    (factory p ids f₀).output x f = (machine p).output x items ∧
      Holds p ids f₀ ((factory p ids f₀).perform x f) ((machine p).perform x items) := by
  obtain ⟨work, auth, t⟩ := x
  have h_serve : (!(calls ids f ⟨work, auth, t⟩).isEmpty &&
        Factory.AllReturn (calls ids f ⟨work, auth, t⟩) f) = (serve p items ⟨work, auth, t⟩).1 ∧
      Holds p ids f₀ ((factory p ids f₀).perform ⟨work, auth, t⟩ f)
        (serve p items ⟨work, auth, t⟩).2 := by
    cases work with
    | submit i => exact h.advance h_live h_nodup fun r h_r => by rw [← h_r.2.1]; rfl
    | approve i => exact h.advance h_live h_nodup fun r h_r => by rw [← h_r.1]; rfl
    | giveUp => exact ⟨h.giveUp_returns h_live h_nodup auth, h.giveUp h_live h_nodup auth⟩
  refine ⟨?_, h_serve.2⟩
  rw [h_serve.2.output, h_serve.1]
  rfl

/-- A run leaves the factory with what is stored under `ids`, and nothing paid since. -/
theorem holds_of_run {f₀ f : Factory.State F} {tr : List (Factory.Entry F)} (h_init : f₀.Initial)
    (h_funds : ∀ token, 0 ≤ f₀.funds token) (h_run : Factory.Run f₀ tr f)
    (h_payers : ∀ e ∈ tr, Factory.PayersOutside e) {rs : List (Factory.EscrowRecord Address)}
    (h_rs : ids.map f.storage.escrow = rs.map some) (h_fits : ∀ r ∈ rs, p.Fits r)
    (h_active : ∀ r ∈ rs, r.status = .active) : Holds p ids f f (rs.map itemOf) := by
  refine ⟨h_run.solvent h_init h_funds h_payers, ⟨rs, h_rs, rfl, h_fits⟩, fun who => ?_⟩
  rw [Int.sub_self, Bundle.paid, eq_comm]
  apply List.sum_eq_zero
  intro x h_x
  obtain ⟨it, h_it, rfl⟩ := List.mem_map.mp h_x
  obtain ⟨r, h_r, rfl⟩ := List.mem_map.mp h_it
  simp [itemOf, h_active r h_r, stageOf, Item.paid]

end Machine

end StarEscrow.Bundle
