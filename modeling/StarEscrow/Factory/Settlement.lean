/-
  StarEscrow.Factory.Settlement

  Each escrow of the factory is settled once, and to the right party.

  A step either leaves the record of an id alone or is an action on it that
  passed its checks (`Turn`).  The terms never change, the status moves along
  `EscrowStatus.Next`, and the history keeps up with the status: what the calls
  on the id paid so far, and who authorised them, can be read off it (`Told`).
  Record `id` is what the `id`-th `create_escrow` stored (`Made`).
-/

import Mathlib.Logic.Relation
import StarEscrow.Factory.Solvency

namespace StarEscrow.Factory

/-! ## Statuses -/

/-- Where a status can move in one step. -/
inductive EscrowStatus.Next : EscrowStatus → EscrowStatus → Prop
  | submitted : Next .active .workSubmitted
  | completed : Next .workSubmitted .completed
  | cancelled : Next .active .cancelled

theorem Action.next (x : Action) : x.source.Next x.target := by
  cases x with
  | submitWork => exact .submitted
  | approve => exact .completed
  | cancel => exact .cancelled

/-- The escrow a call that returned acted on. -/
def Label.id? {Address : Type} : Label Address → Option UInt64
  | .returned c => c.op.id?
  | _ => none

section Labels

variable {Address : Type} {l : Label Address} {c : Call Address}

theorem Label.id?_of_act {id : UInt64} {x : Action} (h_label : l = .returned c)
    (h_op : c.op = .act id x) : l.id? = some id := by
  rw [h_label, Label.id?, h_op, Op.id?]

theorem Label.id?_of_create {a : CreateArgs Address} (h_label : l = .returned c)
    (h_op : c.op = .createEscrow a) : l.id? = none := by
  rw [h_label, Label.id?, h_op, Op.id?]

theorem Label.id?_of_quiet (h : ∀ c, l ≠ .returned c) : l.id? = none := by
  cases l with
  | returned c => exact absurd rfl (h c)
  | aborted | outside => rfl

end Labels

variable {Address : Type} [DecidableEq Address] {H : Host Address}

/-! ## What calls on an id pay -/

/-- The transfers the factory asked for in the step, if it was a call on the id. -/
def paidBy (id : UInt64) (e : Entry H) : List (Escrow.Transfer Address) :=
  if e.label.id? = some id then e.post.transfers.drop e.pre.transfers.length else []

/-- The transfers of all calls on the id. -/
def paidIn (id : UInt64) (tr : List (Entry H)) : List (Escrow.Transfer Address) :=
  tr.flatMap (paidBy id)

/-- What is to be paid on a record, by its status. -/
def EscrowRecord.settlement (factory : Address) (r : EscrowRecord Address) :
    List (Escrow.Transfer Address) :=
  match r.status with
  | .active | .workSubmitted => []
  | .completed => [⟨r.token, factory, r.freelancer, r.amount⟩]
  | .cancelled => [⟨r.token, factory, r.payer, r.amount⟩]

theorem paidIn_snoc (id : UInt64) (tr : List (Entry H)) (e : Entry H) :
    paidIn id (tr ++ [e]) = paidIn id tr ++ paidBy id e := by
  rw [paidIn, List.flatMap_append, List.flatMap_singleton]
  rfl

theorem EscrowRecord.settlement_of_open {Address : Type} {factory : Address}
    {r : EscrowRecord Address} (h : r.status.Open) : r.settlement factory = [] := by
  unfold EscrowRecord.settlement
  rcases h with h | h <;> rw [h]

/-- The payee of an action is who its target status says was paid. -/
theorem Action.settlement_result {Address : Type} (factory : Address) (r : EscrowRecord Address)
    (x : Action) : (x.result r).settlement factory =
      (x.payee r).toList.map fun dst => ⟨r.token, factory, dst, r.amount⟩ := by
  cases x <;> rfl

theorem Pays.newTransfers {s s' : State H} {token : Address} {amount : Int} {o : Option Address}
    (h : Pays s s' token amount o) : s'.transfers.drop s.transfers.length =
      o.toList.map fun dst => ⟨token, H.currentContract, dst, amount⟩ := by
  cases o with
  | none =>
      rw [h.2, List.drop_length]
      rfl
  | some dst =>
      rw [h.2, List.drop_left]
      rfl

/-! ## One step, seen from one record -/

/-- What a step does to the record `r` of an id. -/
inductive Turn (s : State H) (l : Label Address) (s' : State H) (id : UInt64)
    (r : EscrowRecord Address) : EscrowRecord Address → Prop
  | idle (h_other : l.id? ≠ some id) : Turn s l s' id r r
  | act {c : Call Address} {x : Action} (h_label : l = .returned c) (h_op : c.op = .act id x)
      (h_status : r.status = x.source) (h_auth : c.auth (x.caller r) = true)
      (h_pays : Pays s s' r.token r.amount (x.payee r)) : Turn s l s' id r (x.result r)

/-- A stored record has its turn. -/
theorem Move.turn {s s' : State H} {l : Label Address} {rs rs' : List (EscrowRecord Address)}
    (h : Move s l s' rs rs') {id : UInt64} {r : EscrowRecord Address}
    (h_get : rs[id.toNat]? = some r) : ∃ r', rs'[id.toNat]? = some r' ∧ Turn s l s' id r r' := by
  cases h with
  | quiet h_label =>
      refine ⟨r, h_get, .idle ?_⟩
      rw [Label.id?_of_quiet h_label]
      exact nofun
  | create h_label h_op =>
      refine ⟨r, ?_, .idle ?_⟩
      · rw [List.getElem?_append_left (List.getElem?_eq_some_iff.mp h_get).1, h_get]
      · rw [Label.id?_of_create h_label h_op]
        exact nofun
  | @act c id' x r₁ h_label h_op h_get₁ h_status h_auth h_pays =>
      rw [Register.getElem?_replace h_get₁]
      by_cases h_id : id = id'
      · subst h_id
        obtain rfl : r₁ = r := Option.some.inj (h_get₁.symm.trans h_get)
        exact ⟨_, if_pos rfl, .act h_label h_op h_status h_auth h_pays⟩
      · have h_ne : id.toNat ≠ id'.toNat := fun h => h_id (UInt64.toNat_inj.mp h)
        refine ⟨r, by rw [if_neg h_ne, h_get], .idle ?_⟩
        rw [Label.id?_of_act h_label h_op]
        exact fun h => h_id (Option.some.inj h).symm

/-- A record that was not there before is fresh, and no call was on it. -/
theorem Move.fresh {s s' : State H} {l : Label Address} {rs rs' : List (EscrowRecord Address)}
    (h : Move s l s' rs rs') {id : UInt64} (h_none : rs[id.toNat]? = none) :
    l.id? ≠ some id ∧ ∀ r, rs'[id.toNat]? = some r → r.status = .active := by
  cases h with
  | quiet h_label =>
      rw [Label.id?_of_quiet h_label, h_none]
      exact ⟨nofun, fun _ => nofun⟩
  | @create c a h_label h_op =>
      rw [Label.id?_of_create h_label h_op]
      refine ⟨nofun, fun r h_r => ?_⟩
      rw [Register.getElem?_snoc, h_none] at h_r
      split at h_r
      · cases h_r
        rfl
      · cases h_r
  | @act c id' x r₁ h_label h_op h_get₁ =>
      have h_ne : id.toNat ≠ id'.toNat := by
        intro h_eq
        rw [h_eq, h_get₁] at h_none
        cases h_none
      rw [Register.getElem?_replace h_get₁, if_neg h_ne, h_none, Label.id?_of_act h_label h_op]
      refine ⟨fun h_id => h_ne ?_, fun _ => nofun⟩
      rw [Option.some.inj h_id]

/-- The terms stay, the status stays or moves on. -/
theorem Turn.terms {s s' : State H} {l : Label Address} {id : UInt64}
    {r r' : EscrowRecord Address} (h : Turn s l s' id r r') :
    r' = { r with status := r'.status } ∧ (r'.status = r.status ∨ r.status.Next r'.status) := by
  cases h with
  | idle => exact ⟨rfl, .inl rfl⟩
  | @act c x _ _ h_status =>
      refine ⟨rfl, .inr ?_⟩
      rw [h_status]
      exact x.next

/-! ## What the history tells about a record -/

/-- The step is an action on the escrow that returned, authorised by `a`. -/
def Does (id : UInt64) (x : Action) (a : Address) (e : Entry H) : Prop :=
  ∃ c, e.label = .returned c ∧ c.op = .act id x ∧ c.auth a = true

/-- The step is a `submit_work` of the escrow that returned. -/
def Submits (id : UInt64) (e : Entry H) : Prop :=
  ∃ c, e.label = .returned c ∧ c.op = .act id .submitWork

/-- The status of a record tells what happened in the steps `tr`. -/
structure Told (tr : List (Entry H)) (id : UInt64) (r : EscrowRecord Address) : Prop where
  paid : paidIn id tr = r.settlement H.currentContract
  submitted : r.status = .workSubmitted → ∃ e ∈ tr, Does id .submitWork r.freelancer e
  completed : r.status = .completed → ∃ e e', [e, e'].Sublist tr ∧
    Does id .submitWork r.freelancer e ∧ Does id .approve r.payer e'
  cancelled : r.status = .cancelled → ∃ e ∈ tr, Does id .cancel r.payer e
  unsubmitted : r.status = .active ∨ r.status = .cancelled → ∀ e ∈ tr, ¬Submits id e

/-- A step that is not on the id tells nothing new about it. -/
theorem Told.idle {tr : List (Entry H)} {id : UInt64} {r : EscrowRecord Address}
    (h : Told tr id r) {e : Entry H} (h_other : e.label.id? ≠ some id) :
    Told (tr ++ [e]) id r where
  paid := by rw [paidIn_snoc, paidBy, if_neg h_other, List.append_nil, h.paid]
  submitted := by
    intro h_status
    obtain ⟨e₁, h_e₁, h_does⟩ := h.submitted h_status
    exact ⟨e₁, List.mem_append_left _ h_e₁, h_does⟩
  completed := by
    intro h_status
    obtain ⟨e₁, e₂, h_order, h_does⟩ := h.completed h_status
    exact ⟨e₁, e₂, h_order.trans (List.sublist_append_left tr [e]), h_does⟩
  cancelled := by
    intro h_status
    obtain ⟨e₁, h_e₁, h_does⟩ := h.cancelled h_status
    exact ⟨e₁, List.mem_append_left _ h_e₁, h_does⟩
  unsubmitted := by
    intro h_status
    rw [List.forall_mem_append, List.forall_mem_singleton]
    refine ⟨h.unsubmitted h_status, ?_⟩
    rintro ⟨c, h_label, h_op⟩
    exact h_other (Label.id?_of_act h_label h_op)

/-- An action tells what its target status stands for. -/
theorem Told.act {tr : List (Entry H)} {id : UInt64} {r : EscrowRecord Address}
    (h : Told tr id r) {e : Entry H} {c : Call Address} {x : Action}
    (h_label : e.label = .returned c) (h_op : c.op = .act id x) (h_status : r.status = x.source)
    (h_auth : c.auth (x.caller r) = true)
    (h_pays : Pays e.pre e.post r.token r.amount (x.payee r)) : Told (tr ++ [e]) id (x.result r) := by
  have h_does : Does id x (x.caller r) e := ⟨c, h_label, h_op, h_auth⟩
  have h_new : e ∈ tr ++ [e] := List.mem_append_right _ (List.mem_singleton_self e)
  have h_paid : paidIn id (tr ++ [e]) = (x.result r).settlement H.currentContract := by
    rw [paidIn_snoc, h.paid, EscrowRecord.settlement_of_open (h_status ▸ x.source_open), paidBy,
      if_pos (Label.id?_of_act h_label h_op), h_pays.newTransfers, Action.settlement_result,
      List.nil_append]
  cases x with
  | submitWork =>
      exact ⟨h_paid, fun _ => ⟨e, h_new, h_does⟩, nofun, nofun, nofun⟩
  | approve =>
      -- the submission lies in `tr`, the approval is the new step
      obtain ⟨e₁, h_e₁, h_submit⟩ := h.submitted h_status
      have h_order : [e₁, e].Sublist (tr ++ [e]) :=
        (List.singleton_sublist.mpr h_e₁).append (List.Sublist.refl [e])
      exact ⟨h_paid, nofun, fun _ => ⟨e₁, e, h_order, h_submit, h_does⟩, nofun, nofun⟩
  | cancel =>
      refine ⟨h_paid, nofun, nofun, fun _ => ⟨e, h_new, h_does⟩, fun _ => ?_⟩
      rw [List.forall_mem_append, List.forall_mem_singleton]
      refine ⟨h.unsubmitted (.inl h_status), ?_⟩
      rintro ⟨c', h_label', h_op'⟩
      cases h_label.symm.trans h_label'
      cases h_op.symm.trans h_op'

theorem Turn.told {e : Entry H} {tr : List (Entry H)} {id : UInt64} {r r' : EscrowRecord Address}
    (h : Turn e.pre e.label e.post id r r') (h_told : Told tr id r) : Told (tr ++ [e]) id r' := by
  cases h with
  | idle h_other => exact h_told.idle h_other
  | act h_label h_op h_status h_auth h_pays =>
      exact h_told.act h_label h_op h_status h_auth h_pays

/-- Nothing happened to an id so far. -/
def Untouched (tr : List (Entry H)) (id : UInt64) : Prop := ∀ e ∈ tr, e.label.id? ≠ some id

/-- A fresh record tells the empty history. -/
theorem Untouched.told {tr : List (Entry H)} {id : UInt64} {r : EscrowRecord Address}
    (h : Untouched tr id) (h_status : r.status = .active) : Told tr id r where
  paid := by
    rw [EscrowRecord.settlement_of_open (.inl h_status), paidIn, List.flatMap_eq_nil_iff]
    intro e h_e
    rw [paidBy, if_neg (h e h_e)]
  submitted := by rw [h_status]; exact nofun
  completed := by rw [h_status]; exact nofun
  cancelled := by rw [h_status]; exact nofun
  unsubmitted := by
    rintro - e h_e ⟨c, h_label, h_op⟩
    exact h e h_e (Label.id?_of_act h_label h_op)

/-! ## Where the records come from -/

/-- The arguments of the calls that created the escrows, oldest first. -/
def creations (tr : List (Entry H)) : List (CreateArgs Address) :=
  tr.filterMap fun e => e.label.created?

/-- The record as it was created. -/
def EscrowRecord.reopened (r : EscrowRecord Address) : EscrowRecord Address :=
  { r with status := .active }

/-- Statuses aside, the records are those that the creations store, in their order. -/
def Made (tr : List (Entry H)) (rs : List (EscrowRecord Address)) : Prop :=
  rs.map EscrowRecord.reopened = (creations tr).mapIdx fun i a => a.record (.ofNat i)

theorem creations_snoc (tr : List (Entry H)) (e : Entry H) :
    creations (tr ++ [e]) = creations tr ++ e.label.created?.toList := by
  rw [creations, List.filterMap_append]
  cases h : e.label.created? <;> simp [h, creations]

theorem Made.length_eq {tr : List (Entry H)} {rs : List (EscrowRecord Address)} (h : Made tr rs) :
    rs.length = (creations tr).length := by
  have h_length := congrArg List.length h
  rwa [List.length_map, List.length_mapIdx] at h_length

theorem Move.made {e : Entry H} {tr : List (Entry H)} {rs rs' : List (EscrowRecord Address)}
    (h : Move e.pre e.label e.post rs rs') (h_rep : Represents e.pre rs) (h_inv : Made tr rs) :
    Made (tr ++ [e]) rs' := by
  rw [Made, creations_snoc]
  cases h with
  | quiet h_label =>
      have h_none : e.label.created? = none := by
        cases h_l : e.label with
        | returned c => exact absurd h_l (h_label c)
        | aborted | outside => rfl
      rw [h_none, Option.toList_none, List.append_nil]
      exact h_inv
  | @create c a h_label h_op =>
      -- the counter is the number of creations so far
      have h_count : e.pre.count = .ofNat (creations tr).length := by
        rw [← h_inv.length_eq, ← h_rep.count, UInt64.ofNat_toNat]
      rw [Label.created?_eq h_label h_op, Option.toList_some, List.map_append, h_inv,
        List.mapIdx_append, h_count]
      simp [EscrowRecord.reopened, CreateArgs.record]
  | @act c id x r h_label h_op h_get =>
      have h_none : e.label.created? = none := by
        obtain ⟨auth, op⟩ := c
        cases h_op
        rw [h_label]
        rfl
      have h_same : (x.result r).reopened = r.reopened := rfl
      rw [h_none, Option.toList_none, List.append_nil, Register.map_replace h_get h_same]
      exact h_inv

theorem Run.made {s₀ s : State H} {tr : List (Entry H)} (h_run : Run s₀ tr s)
    (h_init : s₀.Initial) : ∃ rs, Represents s rs ∧ Made tr rs := by
  refine h_run.history (P := fun tr s => ∃ rs, Represents s rs ∧ Made tr rs) ?_
    ⟨[], h_init.represents, rfl⟩
  rintro tr e h_step ⟨rs, h_rep, h_inv⟩
  obtain ⟨rs', h_rep', h_move⟩ := h_step.move h_rep
  exact ⟨rs', h_rep', h_move.made h_rep h_inv⟩

/-- Record `id` is what the `id`-th creation stored, with the status it has reached. -/
theorem Made.created {s : State H} {tr : List (Entry H)} {rs : List (EscrowRecord Address)}
    (h : Made tr rs) (h_rep : Represents s rs) {id : UInt64} {r : EscrowRecord Address}
    (h_r : s.storage.escrow id = some r) :
    ∃ a, (creations tr)[id.toNat]? = some a ∧ r = { a.record id with status := r.status } := by
  rw [h_rep.escrow] at h_r
  have h_made : some r.reopened = ((creations tr)[id.toNat]?).map fun a => a.record id := by
    have h_get := congrArg (·[id.toNat]?) h
    simpa only [List.getElem?_map, List.getElem?_mapIdx, h_r, Option.map_some,
      UInt64.ofNat_toNat] using h_get
  obtain ⟨a, h_a, h_eq⟩ := Option.map_eq_some_iff.mp h_made.symm
  refine ⟨a, h_a, ?_⟩
  rw [h_eq]
  rfl

/-! ## Whole runs -/

/-- The history so far tells all records, and nothing about the ids to come. -/
def Chronicle (tr : List (Entry H)) (rs : List (EscrowRecord Address)) : Prop :=
  ∀ id : UInt64, (rs[id.toNat]? = none → Untouched tr id) ∧
    ∀ r, rs[id.toNat]? = some r → Told tr id r

theorem Move.chronicle {e : Entry H} {tr : List (Entry H)} {rs rs' : List (EscrowRecord Address)}
    (h : Move e.pre e.label e.post rs rs') (h_inv : Chronicle tr rs) :
    Chronicle (tr ++ [e]) rs' := by
  intro id
  obtain ⟨h_none, h_some⟩ := h_inv id
  cases h_get : rs[id.toNat]? with
  | none =>
      obtain ⟨h_other, h_fresh⟩ := h.fresh h_get
      have h_untouched : Untouched (tr ++ [e]) id := by
        rw [Untouched, List.forall_mem_append, List.forall_mem_singleton]
        exact ⟨h_none h_get, h_other⟩
      exact ⟨fun _ => h_untouched, fun r h_r => h_untouched.told (h_fresh r h_r)⟩
  | some r =>
      obtain ⟨r', h_get', h_turn⟩ := h.turn h_get
      rw [h_get']
      refine ⟨nofun, fun r₁ h_r₁ => ?_⟩
      cases h_r₁
      exact h_turn.told (h_some r h_get)

theorem Run.chronicle {s₀ s : State H} {tr : List (Entry H)} (h_run : Run s₀ tr s)
    (h_init : s₀.Initial) : ∃ rs, Represents s rs ∧ Chronicle tr rs := by
  refine h_run.history (P := fun tr s => ∃ rs, Represents s rs ∧ Chronicle tr rs) ?_ ?_
  · rintro tr e h_step ⟨rs, h_rep, h_inv⟩
    obtain ⟨rs', h_rep', h_move⟩ := h_step.move h_rep
    exact ⟨rs', h_rep', h_move.chronicle h_inv⟩
  · refine ⟨[], h_init.represents, fun id => ⟨fun _ => ?_, nofun⟩⟩
    exact List.forall_mem_nil _

/-- Over any further run the terms stay and the status moves on. -/
theorem Represents.terms_of_run {s s' : State H} {tr : List (Entry H)}
    {rs : List (EscrowRecord Address)} (h_rep : Represents s rs) (h_run : Run s tr s') {id : UInt64}
    {r : EscrowRecord Address} (h_r : s.storage.escrow id = some r) :
    ∃ r', s'.storage.escrow id = some r' ∧ r' = { r with status := r'.status } ∧
      Relation.ReflTransGen EscrowStatus.Next r.status r'.status := by
  rw [h_rep.escrow] at h_r
  have h_later := h_run.register (O := fun _ => True)
    (I := fun _ rs => ∃ r', rs[id.toNat]? = some r' ∧ r' = { r with status := r'.status } ∧
      Relation.ReflTransGen EscrowStatus.Next r.status r'.status)
    (fun _ _ => trivial) h_rep ⟨r, h_r, rfl, .refl⟩ ?_
  · obtain ⟨rs', h_rep', r', h_r', h_terms, h_later⟩ := h_later
    exact ⟨r', by rw [h_rep'.escrow, h_r'], h_terms, h_later⟩
  · rintro e rs₁ rs₂ - - h_move ⟨r₁, h_get, h_terms, h_later⟩
    obtain ⟨r₂, h_get', h_turn⟩ := h_move.turn h_get
    obtain ⟨h_terms', h_next⟩ := h_turn.terms
    refine ⟨r₂, h_get', ?_, ?_⟩
    · rw [h_terms', h_terms]
    · rcases h_next with h_same | h_next
      · rw [h_same]
        exact h_later
      · exact h_later.tail h_next

/-- A settled status is final. -/
theorem EscrowStatus.eq_of_settled {a b : EscrowStatus} (h_settled : ¬a.Open)
    (h : Relation.ReflTransGen EscrowStatus.Next a b) : b = a := by
  induction h using Relation.ReflTransGen.head_induction_on with
  | refl => rfl
  | head h_next _ _ =>
      cases h_next with
      | submitted | cancelled => exact absurd (.inl rfl) h_settled
      | completed => exact absurd (.inr rfl) h_settled

/-- **Each escrow is settled once, to the right party.**  Whatever is interleaved, record `id` has
    the payer, freelancer, token and amount of the `id`-th `create_escrow`; the calls on the
    id paid nothing while its record is open, the amount to the freelancer once it is completed,
    and the amount to the payer once it is cancelled; it gets there only with the freelancer's
    submission and the payer's later approval, or with the payer's cancellation and no submission;
    and afterwards only the status of the record moves, forward and never out of a settled one. -/
theorem settled_once {s₀ s : State H} {tr : List (Entry H)} (h_init : s₀.Initial)
    (h_run : Run s₀ tr s) {id : UInt64} {r : EscrowRecord Address}
    (h_r : s.storage.escrow id = some r) :
    (∃ a, (creations tr)[id.toNat]? = some a ∧ r = { a.record id with status := r.status }) ∧
    paidIn id tr = r.settlement H.currentContract ∧
    (r.status = .completed → ∃ e e', [e, e'].Sublist tr ∧ Does id .submitWork r.freelancer e ∧
      Does id .approve r.payer e') ∧
    (r.status = .cancelled → (∃ e ∈ tr, Does id .cancel r.payer e) ∧
      ∀ e ∈ tr, ¬Submits id e) ∧
    ∀ tr' s', Run s tr' s' → ∃ r', s'.storage.escrow id = some r' ∧
      r' = { r with status := r'.status } ∧
      Relation.ReflTransGen EscrowStatus.Next r.status r'.status ∧
      (¬r.status.Open → r' = r) := by
  obtain ⟨rs, h_rep, h_chronicle⟩ := h_run.chronicle h_init
  have h_told := (h_chronicle id).2 r (by rw [← h_rep.escrow, h_r])
  obtain ⟨rs', h_rep', h_made⟩ := h_run.made h_init
  refine ⟨h_made.created h_rep' h_r, h_told.paid, h_told.completed, ?_, ?_⟩
  · intro h_status
    exact ⟨h_told.cancelled h_status, h_told.unsubmitted (.inr h_status)⟩
  · intro tr' s' h_run'
    obtain ⟨r', h_r', h_terms, h_later⟩ := h_rep.terms_of_run h_run' h_r
    refine ⟨r', h_r', h_terms, h_later, fun h_settled => ?_⟩
    rw [h_terms, EscrowStatus.eq_of_settled h_settled h_later]

theorem settled_once_mixed :
    let tr := playTrace Sample.mixed Sample.start
    let r : EscrowRecord Nat := ⟨1, 2, 3, 9, 50, "", .cancelled⟩
    (∃ a, (creations tr)[(1 : UInt64).toNat]? = some a ∧
      r = { a.record 1 with status := r.status }) ∧
    paidIn 1 tr = r.settlement 0 ∧
    (r.status = .completed → ∃ e e', [e, e'].Sublist tr ∧ Does 1 .submitWork r.freelancer e ∧
      Does 1 .approve r.payer e') ∧
    (r.status = .cancelled → (∃ e ∈ tr, Does 1 .cancel r.payer e) ∧ ∀ e ∈ tr, ¬Submits 1 e) ∧
    ∀ tr' s', Run (play Sample.mixed Sample.start) tr' s' → ∃ r',
      s'.storage.escrow 1 = some r' ∧ r' = { r with status := r'.status } ∧
      Relation.ReflTransGen EscrowStatus.Next r.status r'.status ∧
      (¬r.status.Open → r' = r) :=
  settled_once Sample.start_initial (run_play Sample.mixed Sample.start) (by decide)

end StarEscrow.Factory
