/-
  StarEscrow.Bundle.Escrow

  A job in parts, on one escrow.

  Each item is a milestone, and the job is given up by one `cancel`.  On a
  fresh instance without protocol configuration the escrow serves every request
  as the job does, except one: a payer who gives up while a submitted milestone
  waits is not refused, and gets its amount back too.  So one escrow and as many
  escrows of the factory answer alike exactly as long as that does not happen
  (`bundles_agree_iff`).
-/

import StarEscrow.Bundle.Factory
import StarEscrow.Escrow.Completion
import StarEscrow.Escrow.Refund

namespace StarEscrow.Bundle

open Deal (received received_append received_single)

variable {Address : Type}

/-! ## Items of a record -/

/-- The stage of a milestone; a cancelled escrow has refunded what it had not paid. -/
def stageIn (st : Escrow.EscrowStatus) : Escrow.MilestoneStatus → Stage
  | .pending => if st = .cancelled then .refunded else .pending
  | .submitted => if st = .cancelled then .refunded else .submitted
  | .approved => .approved

def itemIn (st : Escrow.EscrowStatus) (m : Escrow.Milestone) : Item := ⟨m.amount, stageIn st m.status⟩

def itemsOf (d : Escrow.EscrowData Address) : List Item := d.milestones.map (itemIn d.status)

section Items

variable {d : Escrow.EscrowData Address} {i : Nat} {m : Escrow.Milestone}

theorem itemIn_of_ne {st : Escrow.EscrowStatus} (h : st ≠ .cancelled) :
    itemIn st = itemIn .active := by
  funext m
  obtain ⟨description, amount, status⟩ := m
  cases status <;> simp [itemIn, stageIn, h]

theorem getElem?_itemsOf (i : Nat) :
    (itemsOf d)[i]? = d.milestones[i]?.map (itemIn d.status) := List.getElem?_map

theorem itemsOf_withSubmitted (h_active : d.status = .active) :
    itemsOf (d.withSubmitted i m) =
      (itemsOf d).set i { itemIn .active m with stage := .submitted } := by
  have h_status : (d.withSubmitted i m).status = .active := h_active
  rw [itemsOf, h_status, Escrow.withSubmitted_milestones, List.map_set, itemsOf, h_active]
  rfl

theorem itemsOf_withApproved (h_active : d.status = .active) :
    itemsOf (d.withApproved i m) =
      (itemsOf d).set i { itemIn .active m with stage := .approved } := by
  have h_status : (d.withApproved i m).status ≠ .cancelled := by
    unfold Escrow.EscrowData.withApproved
    split
    · exact nofun
    · rw [h_active]
      exact nofun
  rw [itemsOf, itemIn_of_ne h_status, Escrow.withApproved_milestones, List.map_set, itemsOf,
    h_active]
  rfl

/-- A cancellation gives up every item, if none is submitted. -/
theorem itemsOf_cancelled (h_active : d.status = .active)
    (h_none : ∀ m ∈ d.milestones, m.status ≠ .submitted) :
    itemsOf { d with status := .cancelled } = (itemsOf d).map Item.giveUp := by
  rw [itemsOf, itemsOf, List.map_map, h_active]
  apply List.map_congr_left
  intro m h_m
  have h_m := h_none m h_m
  obtain ⟨description, amount, status⟩ := m
  cases status with
  | submitted => exact absurd rfl h_m
  | pending | approved => rfl

/-- The submitted items of an active record are its submitted milestones. -/
theorem exists_submitted (h_active : d.status = .active) :
    (∃ it ∈ itemsOf d, it.stage = .submitted) ↔ ∃ m ∈ d.milestones, m.status = .submitted := by
  simp only [itemsOf, h_active, List.mem_map, exists_exists_and_eq_and]
  refine exists_congr fun m => and_congr_right fun _ => ?_
  cases h : m.status <;> simp [itemIn, stageIn, h]

theorem exists_open (h_active : d.status = .active) :
    (∃ it ∈ itemsOf d, it.stage.Open) ↔ ¬ Escrow.AllApproved d.milestones := by
  simp only [itemsOf, h_active, List.mem_map, exists_exists_and_eq_and, Escrow.AllApproved,
    not_forall, exists_prop]
  refine exists_congr fun m => and_congr_right fun _ => ?_
  cases h : m.status <;> simp [itemIn, stageIn, Stage.Open, h]

/-- Where nothing is left to approve, nothing is open. -/
theorem closed_of_allApproved (h : Escrow.AllApproved d.milestones) : Closed (itemsOf d) := by
  intro it h_it
  obtain ⟨m, h_m, rfl⟩ := List.mem_map.mp h_it
  simp [itemIn, stageIn, Stage.Open, h m h_m]

theorem closed_of_cancelled (h : d.status = .cancelled) : Closed (itemsOf d) := by
  intro it h_it
  obtain ⟨m, h_m, rfl⟩ := List.mem_map.mp h_it
  cases h_m : m.status <;> simp [itemIn, stageIn, Stage.Open, h_m, h]

end Items

variable [DecidableEq Address] {E : Escrow.Host Address}

/-! ## The machine -/

def Work.toOp : Work → Escrow.Op Address
  | .submit i => .submitWork i
  | .approve i => .approve i
  | .giveUp => .cancel

def Request.toEscrow (x : Request Address) : Escrow.Call Address :=
  ⟨x.timestamp, x.auth, x.work.toOp⟩

/-- The escrow instance, observed from the state `e₀` on. -/
def escrow (p : Parties Address) (e₀ : Escrow.State E) :
    Mealy.Machine (Request Address) (Escrow.State E) Outcome where
  perform x e := x.toEscrow.perform e
  output x e :=
    let e' := x.toEscrow.perform e
    ⟨x.toEscrow.returns e,
      received e'.transfers p.token p.payer - received e₀.transfers p.token p.payer,
      received e'.transfers p.token p.freelancer - received e₀.transfers p.token p.freelancer,
      (Escrow.getEscrow x.toEscrow.env e').toOption.elim [] fun r => itemsOf r.1⟩

/-- The record of a job of the parties. -/
structure Parties.Serves (p : Parties Address) (d : Escrow.EscrowData Address) : Prop where
  sound : Escrow.Sound d
  payer : d.payer = p.payer
  freelancer : d.freelancer = p.freelancer
  token : d.token = p.token
  unreleased : d.releasesMade = 0

/-- The job is on: something is left to approve, and held. -/
structure On (e : Escrow.State E) (d : Escrow.EscrowData Address) : Prop where
  active : d.status = .active
  left : ¬ Escrow.AllApproved d.milestones
  covered : d.rest ≤ e.funds d.token

/-- The job is over: everything is approved or refunded. -/
structure Over (d : Escrow.EscrowData Address) : Prop where
  status : d.status ≠ .active
  closed : Closed (itemsOf d)
  unsubmitted : ∀ m ∈ d.milestones, m.status ≠ .submitted

/-- The instance stores the items as milestones, and has paid what they say since `e₀`. -/
structure Keeps (p : Parties Address) (e₀ e : Escrow.State E) (items : List Item) : Prop where
  config : e.storage.config = none
  stored : ∃ d, e.storage.escrow = some d ∧ p.Serves d ∧ itemsOf d = items ∧ (On e d ∨ Over d)
  paid : ∀ who, received e.transfers p.token who - received e₀.transfers p.token who =
    paid p who items

variable {p : Parties Address} {e₀ e : Escrow.State E} {items : List Item} {x : Request Address}

/-- The answer, in a state that keeps the items. -/
theorem Keeps.output {items' : List Item} (h : Keeps p e₀ ((escrow p e₀).perform x e) items') :
    (escrow p e₀).output x e =
      ⟨x.toEscrow.returns e, Bundle.paid p p.payer items', Bundle.paid p p.freelancer items',
        items'⟩ := by
  obtain ⟨d, h_d, -, rfl, -⟩ := h.stored
  have h_get : Escrow.getEscrow x.toEscrow.env ((escrow p e₀).perform x e) =
      .ok (d, (escrow p e₀).perform x e) := by
    simp [Escrow.getEscrow, h_d]
  have h_items : (Escrow.getEscrow x.toEscrow.env ((escrow p e₀).perform x e)).toOption.elim []
      (fun r => itemsOf r.1) = itemsOf d := by rw [h_get]; rfl
  rw [← h.paid, ← h.paid, ← h_items]
  rfl

/-! ## Refusals -/

theorem Keeps.atTime (h : Keeps p e₀ e items) (t : UInt64) : Keeps p e₀ (e.atTime t) items := by
  obtain ⟨d, h_d, h_serves, h_items, h_phase⟩ := h.stored
  refine ⟨h.config, ⟨d, h_d, h_serves, h_items, h_phase.imp_left fun h_on => ?_⟩, h.paid⟩
  exact ⟨h_on.active, h_on.left, h_on.covered⟩

/-- A request that the job and the escrow both refuse. -/
theorem Keeps.of_refused (h : Keeps p e₀ e items) (h_run : ∀ e', x.toEscrow.run e ≠ .ok e')
    (h_serve : serve p items x = (false, items)) :
    x.toEscrow.returns e = (serve p items x).1 ∧
      Keeps p e₀ (x.toEscrow.perform e) (serve p items x).2 := by
  obtain ⟨h_returns, h_perform⟩ := Escrow.Call.perform_of_refused h_run
  rw [h_returns, h_perform, h_serve]
  exact ⟨rfl, h.atTime _⟩

/-- Once the job is over, the escrow returns from nothing. -/
theorem Over.run_ne {d : Escrow.EscrowData Address} (h : Over d)
    (h_d : e.storage.escrow = some d) (e' : Escrow.State E) : x.toEscrow.run e ≠ .ok e' := by
  intro h_run
  rw [Escrow.Call.run_ok] at h_run
  obtain ⟨work, auth, t⟩ := x
  cases work with
  | submit i =>
      obtain ⟨-, d', h_d', h_active, -⟩ := Escrow.submitWork_ok.mp h_run
      obtain rfl := Option.some.inj (h_d.symm.trans h_d')
      exact h.status h_active
  | approve i =>
      obtain ⟨-, d', h_d', m, h_get, h_submitted, -⟩ := Escrow.approve_ok.mp h_run
      obtain rfl := Option.some.inj (h_d.symm.trans h_d')
      exact h.unsubmitted m (List.mem_of_getElem? h_get) h_submitted
  | giveUp =>
      obtain ⟨-, d', h_d', h_active, -⟩ := Escrow.cancel_ok.mp h_run
      obtain rfl := Option.some.inj (h_d.symm.trans h_d')
      exact h.status h_active

/-! ## One milestone -/

section Steps

variable {d : Escrow.EscrowData Address}

/-- What one returned call leaves of the job, by the record it stores and what it transfers. -/
theorem Keeps.of_leads {c : Escrow.Call Address} {ts : List (Escrow.Transfer Address)}
    {d' : Escrow.EscrowData Address} {items' : List Item} (h : Keeps p e₀ e items)
    (h_leads : Escrow.Leads [c] e ts d') (h_serves : p.Serves d') (h_items : itemsOf d' = items')
    (h_phase : d'.status = .active ∧ ¬ Escrow.AllApproved d'.milestones ∨ Over d')
    (h_paid : ∀ who, received ts p.token who =
      Bundle.paid p who items' - Bundle.paid p who items) :
    c.returns e = true ∧ Keeps p e₀ (c.perform e) items' := by
  have h_open : Escrow.Open (c.perform e) d' := h_leads.isOpen
  have h_transfers : (c.perform e).transfers = e.transfers ++ ts := h_leads.transfers
  refine ⟨?_, h_leads.config.trans h.config, ⟨d', h_open.stored, h_serves, h_items, ?_⟩, ?_⟩
  · have h_returns := h_leads.returns
    rwa [Escrow.AllReturn, Mealy.all_singleton] at h_returns
  · exact h_phase.imp_left fun h_on => ⟨h_on.1, h_on.2, h_open.covered⟩
  · intro who
    have h_before := h.paid who
    rw [h_transfers, received_append, h_paid]
    omega

theorem On.isOpen (h : On e d) (h_config : e.storage.config = none)
    (h_d : e.storage.escrow = some d) (h_sound : Escrow.Sound d) : Escrow.Open e d := by
  refine ⟨?_, h_d, h_sound, h.covered⟩
  rw [Escrow.State.paused, h_config]
  rfl

omit [DecidableEq Address] in
/-- The item of a milestone, while the escrow is active. -/
theorem item_of_milestone (h_active : d.status = .active) {i : Nat} {m : Escrow.Milestone}
    (h_get : d.milestones[i]? = some m) : (itemsOf d)[i]? = some (itemIn .active m) := by
  rw [getElem?_itemsOf, h_get, h_active]
  rfl

/-- A milestone of the status is there, and its party signs. -/
def Due (d : Escrow.EscrowData Address) (i : Nat) (source : Escrow.MilestoneStatus)
    (allowed : Bool) : Prop :=
  ∃ m, d.milestones[i]? = some m ∧ m.status = source ∧ allowed = true

omit [DecidableEq Address] in
/-- Where no milestone is due, the job does not advance. -/
theorem advance_of_not_due (h_active : d.status = .active) {i : Nat}
    {source : Escrow.MilestoneStatus} {target : Stage} {allowed : Bool}
    (h : ¬ Due d i source allowed) :
    advance (itemsOf d) i (stageIn .active source) target allowed = (false, itemsOf d) := by
  refine advance_of_ne fun it h_it h_stage => Bool.eq_false_iff.mpr fun h_allowed => ?_
  rw [getElem?_itemsOf, h_active, Option.map_eq_some_iff] at h_it
  obtain ⟨m, h_get, rfl⟩ := h_it
  have h_inj : stageIn .active m.status = stageIn .active source → m.status = source := by
    cases m.status <;> cases source <;> decide
  exact h ⟨m, h_get, h_inj h_stage, h_allowed⟩

theorem Keeps.submit (h : Keeps p e₀ e items) {i : Nat} {auth : Address → Bool} {t : UInt64} :
    let x : Request Address := ⟨.submit i, auth, t⟩
    x.toEscrow.returns e = (serve p items x).1 ∧
      Keeps p e₀ (x.toEscrow.perform e) (serve p items x).2 := by
  intro x
  obtain ⟨d, h_d, h_serves, rfl, h_on | h_over⟩ := h.stored
  · by_cases h_due : Due d i .pending (auth p.freelancer)
    · obtain ⟨m, h_get, h_pending, h_auth⟩ := h_due
      have h_leads : Escrow.Leads [x.toEscrow] e [] (d.withSubmitted i m) :=
        (h_on.isOpen h.config h_d h_serves.sound).submit h_on.active h_get h_pending
          (h_serves.freelancer ▸ h_auth)
      have h_item := item_of_milestone h_on.active h_get
      have h_stage : (itemIn .active m).stage = .pending := by simp [itemIn, stageIn, h_pending]
      have h_serve : serve p (itemsOf d) x = (true, (itemsOf d).set i
          { itemIn .active m with stage := .submitted }) := by
        show advance (itemsOf d) i .pending .submitted (auth p.freelancer) = _
        rw [h_auth, advance_of_eq h_item h_stage]
      rw [h_serve]
      have h_desc : Escrow.Descends d (d.withSubmitted i m) := .of_set h_get rfl
      refine h.of_leads h_leads ⟨h_desc.sound h_serves.sound, h_serves.payer, h_serves.freelancer,
        h_serves.token, h_serves.unreleased⟩ (itemsOf_withSubmitted h_on.active)
        (.inl ⟨h_on.active, fun h_all => ?_⟩) fun who => ?_
      · -- the milestone itself is not approved
        have h_lt := (List.getElem?_eq_some_iff.mp h_get).1
        cases h_all { m with status := .submitted } (List.mem_set h_lt _)
      · rw [paid_set h_item]
        simp [received, Item.paid, h_stage]
    · refine h.of_refused (fun e' h_run => h_due ?_) (advance_of_not_due h_on.active h_due)
      obtain ⟨-, d', h_d', -, m, h_get, h_pending, h_auth, -⟩ :=
        Escrow.submitWork_ok.mp (Escrow.Call.run_ok.mp h_run)
      obtain rfl := Option.some.inj (h_d.symm.trans h_d')
      exact ⟨m, h_get, h_pending, h_serves.freelancer ▸ h_auth⟩
  · exact h.of_refused (h_over.run_ne h_d) (h_over.closed.serve x)

theorem Keeps.approve (h_live : E.Live) (h : Keeps p e₀ e items) {i : Nat} {auth : Address → Bool}
    {t : UInt64} :
    let x : Request Address := ⟨.approve i, auth, t⟩
    x.toEscrow.returns e = (serve p items x).1 ∧
      Keeps p e₀ (x.toEscrow.perform e) (serve p items x).2 := by
  intro x
  obtain ⟨d, h_d, h_serves, rfl, h_on | h_over⟩ := h.stored
  · by_cases h_due : Due d i .submitted (auth p.payer)
    · obtain ⟨m, h_get, h_submitted, h_auth⟩ := h_due
      have h_fits : Escrow.FeeFits e.storage.config m.amount := by
        rw [h.config]
        exact nofun
      have h_leads : Escrow.Leads [x.toEscrow] e _ (d.withApproved i m) :=
        (h_on.isOpen h.config h_d h_serves.sound).approve h_live h_get h_submitted h_fits
          (h_serves.payer ▸ h_auth)
      have h_item := item_of_milestone h_on.active h_get
      have h_stage : (itemIn .active m).stage = .submitted := by
        simp [itemIn, stageIn, h_submitted]
      have h_serve : serve p (itemsOf d) x = (true, (itemsOf d).set i
          { itemIn .active m with stage := .approved }) := by
        show advance (itemsOf d) i .submitted .approved (auth p.payer) = _
        rw [h_auth, advance_of_eq h_item h_stage]
      rw [h_serve]
      have h_desc : Escrow.Descends d (d.withApproved i m) := .of_set h_get rfl
      refine h.of_leads h_leads ⟨h_desc.sound h_serves.sound, h_serves.payer, h_serves.freelancer,
        h_serves.token, h_serves.unreleased⟩ (itemsOf_withApproved h_on.active) ?_ fun who => ?_
      · by_cases h_all : Escrow.AllApproved (d.withApproved i m).milestones
        · -- the last approval ends the job
          refine .inr ⟨?_, closed_of_allApproved h_all, fun m' h_m' => ?_⟩
          · rw [Escrow.withApproved_completed h_all]
            exact nofun
          · rw [h_all m' h_m']
            exact nofun
        · exact .inl ⟨(Escrow.withApproved_status h_all).trans h_on.active, h_all⟩
      · -- without configuration there is no fee
        have h_payouts : Escrow.payouts E e.storage.config d.token d.freelancer m.amount =
            [⟨p.token, E.currentContract, p.freelancer, m.amount⟩] := by
          simp [h.config, h_serves.token, h_serves.freelancer, Escrow.payouts, Escrow.feeOf]
        have h_unpaid : (itemIn .active m).paid p who = 0 := by simp [Item.paid, h_stage]
        rw [paid_set h_item, h_payouts, received_single, h_unpaid]
        simp [Item.paid, itemIn]
    · refine h.of_refused (fun e' h_run => h_due ?_) (advance_of_not_due h_on.active h_due)
      obtain ⟨-, d', h_d', m, h_get, h_submitted, h_auth, -⟩ :=
        Escrow.approve_ok.mp (Escrow.Call.run_ok.mp h_run)
      obtain rfl := Option.some.inj (h_d.symm.trans h_d')
      exact ⟨m, h_get, h_submitted, h_serves.payer ▸ h_auth⟩
  · exact h.of_refused (h_over.run_ne h_d) (h_over.closed.serve x)

/-! ## Giving up -/

/-- The payer's cancellation, while the contract holds the rest. -/
theorem cancel_returns (h_live : E.Live) (h_open : Escrow.Open e d) (h_active : d.status = .active)
    (h_zero : d.releasesMade = 0) (t : UInt64) {auth : Address → Bool}
    (h_auth : auth d.payer = true) :
    ∃ e', (Escrow.Call.mk t auth .cancel).run e = .ok e' ∧
      e'.storage.escrow = some { d with status := .cancelled } ∧
      e'.storage.config = e.storage.config ∧
      e'.transfers = e.transfers ++ [⟨d.token, E.currentContract, d.payer, d.rest⟩] := by
  let c : Escrow.Call Address := ⟨t, auth, .cancel⟩
  have h_admitted : c.Admitted e d :=
    Escrow.Call.admitted_of_refund h_open.running h_active h_auth (.inl rfl)
  obtain ⟨e', h_run⟩ := (Escrow.Call.refund_returns_iff h_live (c := c) rfl h_open.stored h_admitted
    h_open.sound h_zero).mpr h_open.covered
  have h_transfers := (Escrow.Call.refunded h_run rfl h_open.stored).transfers
  rw [Escrow.refundOf_of_zero h_zero] at h_transfers
  obtain ⟨-, d', h_d', -, -, x, -, w, -, h_e'⟩ := Escrow.cancel_ok.mp (Escrow.Call.run_ok.mp h_run)
  obtain rfl := Option.some.inj (h_open.stored.symm.trans h_d')
  exact ⟨e', h_run, by rw [h_e']; rfl, by rw [h_e']; rfl, h_transfers⟩

/-- Giving up pays the payer what is not approved. -/
theorem paid_giveUp (h_active : d.status = .active) (h_sound : Escrow.Sound d)
    (h_none : ∀ m ∈ d.milestones, m.status ≠ .submitted) (who : Address) :
    Bundle.paid p who ((itemsOf d).map Item.giveUp) =
      Bundle.paid p who (itemsOf d) + if p.payer = who then d.rest else 0 := by
  have h_item : ∀ m ∈ d.milestones, ((itemIn .active m).giveUp).paid p who =
      (itemIn .active m).paid p who +
        if p.payer = who then m.amount - m.released else 0 := by
    intro m h_m
    have h_m := h_none m h_m
    unfold Escrow.Milestone.released
    cases h_status : m.status with
    | submitted => exact absurd h_status h_m
    | pending | approved => simp [itemIn, stageIn, h_status, Item.giveUp, Item.paid]
  have h_rest : (d.milestones.map fun m => if p.payer = who then m.amount - m.released else 0).sum =
      if p.payer = who then d.rest else 0 := by
    split
    · have h_split : (d.milestones.map fun m => m.amount - m.released).sum +
          (d.milestones.map Escrow.Milestone.released).sum = Escrow.milestoneTotal d.milestones := by
        rw [← List.sum_map_add]
        simp [Escrow.milestoneTotal]
      rw [Escrow.EscrowData.rest, h_sound.total, Escrow.approvedTotal_eq]
      omega
    · simp
  rw [Bundle.paid, Bundle.paid, itemsOf, h_active, List.map_map, List.map_map, List.map_map,
    ← h_rest, ← List.sum_map_add]
  exact congrArg List.sum (List.map_congr_left h_item)

/-- Giving up, unless a submitted milestone waits. -/
theorem Keeps.giveUp (h_live : E.Live) (h : Keeps p e₀ e items) {auth : Address → Bool}
    {t : UInt64} :
    let x : Request Address := ⟨.giveUp, auth, t⟩
    ¬ LateGiveUp p x items →
    x.toEscrow.returns e = (serve p items x).1 ∧
      Keeps p e₀ (x.toEscrow.perform e) (serve p items x).2 := by
  intro x h_late
  obtain ⟨d, h_d, h_serves, rfl, h_on | h_over⟩ := h.stored
  · by_cases h_auth : auth p.payer = true
    · have h_none : ∀ m ∈ d.milestones, m.status ≠ .submitted := fun m h_m h_submitted =>
        h_late ⟨rfl, h_auth, (exists_submitted h_on.active).mpr ⟨m, h_m, h_submitted⟩⟩
      have h_open := h_on.isOpen h.config h_d h_serves.sound
      obtain ⟨e', h_run, h_stored, h_config, h_transfers⟩ :=
        cancel_returns h_live h_open h_on.active h_serves.unreleased t (h_serves.payer ▸ h_auth)
      obtain ⟨h_returns, rfl⟩ := Escrow.Call.perform_of_run h_run
      have h_serve : serve p (itemsOf d) x = (true, (itemsOf d).map Item.giveUp) := by
        show giveUpAll (itemsOf d) (auth p.payer) = _
        rw [giveUpAll, if_pos h_auth, decide_eq_true]
        refine ⟨(exists_open h_on.active).mpr h_on.left, fun it h_it h_submitted => ?_⟩
        exact h_late ⟨rfl, h_auth, it, h_it, h_submitted⟩
      rw [h_serve]
      have h_over : Over { d with status := .cancelled } :=
        ⟨Escrow.EscrowStatus.Terminal.ne_active (.inr (.inl rfl)), closed_of_cancelled rfl, h_none⟩
      refine ⟨h_returns, h_config.trans h.config, ⟨_, h_stored, ?_,
        itemsOf_cancelled h_on.active h_none, .inr h_over⟩, fun who => ?_⟩
      · exact ⟨⟨h_serves.sound.positive, h_serves.sound.total, h_serves.sound.total_pos,
          h_serves.sound.range⟩, h_serves.payer, h_serves.freelancer, h_serves.token,
          h_serves.unreleased⟩
      · have h_before := h.paid who
        have h_paid := paid_giveUp (p := p) h_on.active h_serves.sound h_none who
        have h_received : received (x.toEscrow.perform e).transfers p.token who =
            received e.transfers p.token who + if p.payer = who then d.rest else 0 := by
          have h_after : (x.toEscrow.perform e).transfers = _ := h_transfers
          rw [h_after, received_append, h_serves.token, received_single, h_serves.payer]
        show _ = Bundle.paid p who ((itemsOf d).map Item.giveUp)
        omega
    · refine h.of_refused (fun e' h_run => h_auth ?_) (if_neg h_auth)
      obtain ⟨-, d', h_d', -, h_signed, -⟩ := Escrow.cancel_ok.mp (Escrow.Call.run_ok.mp h_run)
      obtain rfl := Option.some.inj (h_d.symm.trans h_d')
      exact h_serves.payer ▸ h_signed
  · exact h.of_refused (h_over.run_ne h_d) (h_over.closed.serve x)

end Steps

/-! ## Requests -/

/-- The escrow serves every other request as the job does. -/
theorem Keeps.step (h_live : E.Live) (x : Request Address) (e : Escrow.State E) (items : List Item)
    (h : Keeps p e₀ e items) (h_late : ¬ LateGiveUp p x items) :
    (escrow p e₀).output x e = (machine p).output x items ∧
      Keeps p e₀ ((escrow p e₀).perform x e) ((machine p).perform x items) := by
  obtain ⟨work, auth, t⟩ := x
  have h_serve : (Request.mk work auth t).toEscrow.returns e = (serve p items ⟨work, auth, t⟩).1 ∧
      Keeps p e₀ ((escrow p e₀).perform ⟨work, auth, t⟩ e) (serve p items ⟨work, auth, t⟩).2 := by
    cases work with
    | submit i => exact h.submit
    | approve i => exact h.approve h_live
    | giveUp => exact h.giveUp h_live h_late
  refine ⟨?_, h_serve.2⟩
  rw [h_serve.2.output, h_serve.1]
  rfl

/-- A late cancellation goes through, and the job refuses it. -/
theorem Keeps.output_ne (h_live : E.Live) (x : Request Address) (e : Escrow.State E)
    (items : List Item) (h : Keeps p e₀ e items) (h_late : LateGiveUp p x items) :
    (escrow p e₀).output x e ≠ (machine p).output x items := by
  obtain ⟨work, auth, t⟩ := x
  obtain ⟨rfl, h_auth, it, h_it, h_submitted⟩ := h_late
  obtain ⟨d, h_d, h_serves, rfl, h_on | h_over⟩ := h.stored
  · have h_open := h_on.isOpen h.config h_d h_serves.sound
    have h_signed : auth d.payer = true := h_serves.payer ▸ h_auth
    obtain ⟨e', h_run, -⟩ :=
      cancel_returns h_live h_open h_on.active h_serves.unreleased t h_signed
    have h_returns : ((escrow p e₀).output ⟨.giveUp, auth, t⟩ e).succeeded = true :=
      (Escrow.Call.perform_of_run h_run).1
    have h_refused : ((machine p).output ⟨.giveUp, auth, t⟩ (itemsOf d)).succeeded = false := by
      show (giveUpAll (itemsOf d) (auth p.payer)).1 = false
      rw [giveUpAll, if_pos h_auth, decide_eq_false]
      exact fun h_both => h_both.2 it h_it h_submitted
    intro h_eq
    rw [h_eq, h_refused] at h_returns
    cases h_returns
  · exact absurd (.inr h_submitted) (h_over.closed it h_it)

/-- What an instance keeps right after `create`. -/
theorem keeps_of_create {e₁ e₂ : Escrow.State E} {c : Escrow.Call Address}
    {a : Escrow.CreateArgs Address} (h_created : Escrow.Created e₁ c a e₂)
    (h_config : e₁.storage.config = none) (h_yield : a.yieldProtocol = none)
    (h_funds : 0 ≤ e₁.funds a.token) (h_payer : a.payer ≠ E.currentContract)
    (h_pending : ∀ m ∈ a.milestones, m.status = .pending) :
    Keeps ⟨a.payer, a.freelancer, a.token⟩ e₂ e₂ (a.milestones.map (itemIn .active)) := by
  have h_not_approved : ∀ m ∈ a.milestones, m.status ≠ .approved := by
    intro m h_m
    rw [h_pending m h_m]
    exact nofun
  refine ⟨h_created.config.trans h_config, ⟨_, h_created.stored,
    ⟨h_created.sound, rfl, rfl, rfl, rfl⟩, rfl, .inl ⟨rfl, fun h_all => ?_, ?_⟩⟩, fun who => ?_⟩
  · obtain ⟨m, h_m⟩ := List.exists_mem_of_ne_nil _ h_created.accepted.nonempty
    exact h_not_approved m h_m (h_all m h_m)
  · have h_locked := h_created.funds h_yield h_payer
    have h_none : Escrow.approvedTotal a.milestones = 0 :=
      Escrow.approvedTotal_of_none h_not_approved
    show Escrow.milestoneTotal a.milestones - Escrow.approvedTotal a.milestones ≤ e₂.funds a.token
    omega
  · rw [Int.sub_self, Bundle.paid, eq_comm]
    apply List.sum_eq_zero
    intro y h_y
    obtain ⟨it, h_it, rfl⟩ := List.mem_map.mp h_y
    obtain ⟨m, h_m, rfl⟩ := List.mem_map.mp h_it
    simp [itemIn, h_pending m h_m, stageIn, Item.paid]

/-! ## Agreement -/

/-- **One job, two layouts.**  Take escrows of the factory between one payer and one freelancer, all
    `Active`, that any run has left there, and a fresh escrow instance with a pending milestone of
    the same amount for each.  Over every sequence of requests the factory serves the job in parts;
    the instance serves it too, and so answers as the factory does, exactly if the payer never gives
    up while a submitted item waits for approval. -/
theorem bundles_agree_iff {F : Factory.Host Address} {E : Escrow.Host Address} (h_live : F.Live)
    (h_live' : E.Live) {f₀ f : Factory.State F} {tr : List (Factory.Entry F)}
    (h_init : f₀.Initial) (h_funds : ∀ token, 0 ≤ f₀.funds token) (h_run : Factory.Run f₀ tr f)
    (h_payers : ∀ e ∈ tr, Factory.PayersOutside e) {a : Escrow.CreateArgs Address}
    {ids : List UInt64} (h_nodup : ids.Nodup) {rs : List (Factory.EscrowRecord Address)}
    (h_rs : ids.map f.storage.escrow = rs.map some)
    (h_fits : ∀ r ∈ rs, Parties.Fits ⟨a.payer, a.freelancer, a.token⟩ r)
    (h_active : ∀ r ∈ rs, r.status = .active) {e₁ e₂ : Escrow.State E} {c : Escrow.Call Address}
    (h_created : Escrow.Created e₁ c a e₂) (h_config : e₁.storage.config = none)
    (h_yield : a.yieldProtocol = none) (h_funds' : 0 ≤ e₁.funds a.token)
    (h_payer : a.payer ≠ E.currentContract) (h_pending : ∀ m ∈ a.milestones, m.status = .pending)
    (h_amounts : a.milestones.map (·.amount) = rs.map (·.amount)) (xs : List (Request Address)) :
    let p : Parties Address := ⟨a.payer, a.freelancer, a.token⟩
    let items := rs.map itemOf
    (factory p ids f).outputs f xs = (machine p).outputs items xs ∧
      ((factory p ids f).outputs f xs = (escrow p e₂).outputs e₂ xs ↔
        (machine p).Avoids (LateGiveUp p) items xs) := by
  intro p items
  have h_holds : Holds p ids f f items :=
    holds_of_run h_init h_funds h_run h_payers h_rs h_fits h_active
  have h_factory : (factory p ids f).outputs f xs = (machine p).outputs items xs :=
    Mealy.outputs_eq (Holds.step h_live h_nodup) h_holds xs
  have h_items : a.milestones.map (itemIn .active) = items := by
    -- both are pending items of the same amounts
    have h_left : a.milestones.map (itemIn .active) =
        (a.milestones.map (·.amount)).map fun x => ⟨x, .pending⟩ := by
      rw [List.map_map]
      exact List.map_congr_left fun m h_m => by simp [itemIn, stageIn, h_pending m h_m]
    have h_right : items = (rs.map (·.amount)).map fun x => ⟨x, .pending⟩ := by
      rw [List.map_map]
      exact List.map_congr_left fun r h_r => by simp [itemOf, stageOf, h_active r h_r]
    rw [h_left, h_right, h_amounts]
  have h_keeps : Keeps p e₂ e₂ items :=
    h_items ▸ keeps_of_create h_created h_config h_yield h_funds' h_payer h_pending
  refine ⟨h_factory, ?_⟩
  rw [h_factory, eq_comm]
  exact Mealy.outputs_eq_iff (Keeps.step h_live') (Keeps.output_ne h_live') h_keeps xs

namespace Sample

/-- Two escrows of the factory, of 60 and 40. -/
def inFactory : Factory.State Factory.Sample.host :=
  Factory.play [Factory.Sample.create 1 2 60, Factory.Sample.create 1 2 40] Factory.Sample.start

/-- One escrow with two milestones, of 60 and 40. -/
def alone : Escrow.State Escrow.Sample.host := Escrow.Sample.opened 100 0 Escrow.Sample.twoParts

def parties : Parties Nat := ⟨1, 2, 9⟩

/-- The first item is paid; the payer gives up while the second one waits. -/
def late : List (Request Nat) :=
  [.submit 0, .approve 0, .submit 1, .giveUp].map fun work => ⟨work, fun _ => true, 2⟩

end Sample

theorem bundles_agree_iff_late :
    let rs := [0, 1].filterMap Sample.inFactory.storage.escrow
    (factory Sample.parties [0, 1] Sample.inFactory).outputs Sample.inFactory Sample.late =
        (machine Sample.parties).outputs (rs.map itemOf) Sample.late ∧
      ((factory Sample.parties [0, 1] Sample.inFactory).outputs Sample.inFactory Sample.late =
          (escrow Sample.parties Sample.alone).outputs Sample.alone Sample.late ↔
        (machine Sample.parties).Avoids (LateGiveUp Sample.parties) (rs.map itemOf)
          Sample.late) :=
  bundles_agree_iff Sep41.ledger_live Sep41.ledger_live Factory.Sample.start_initial
    (fun token => (Factory.Sample.start_funds token).ge) (Factory.run_play _ _) (by decide)
    (a := Escrow.Sample.twoParts) (by decide) rfl (by unfold Parties.Fits; decide) (by decide)
    (Escrow.Sample.opened_created (by decide)) rfl rfl (by decide) (by decide) (by decide) rfl _

/-- The late request: one escrow refunds 40 and reports success, the factory refuses. -/
example :
    ((factory Sample.parties [0, 1] Sample.inFactory).outputs Sample.inFactory Sample.late)[3]? =
        some ⟨false, 0, 60, [⟨60, .approved⟩, ⟨40, .submitted⟩]⟩ ∧
      ((escrow Sample.parties Sample.alone).outputs Sample.alone Sample.late)[3]? =
        some ⟨true, 40, 60, [⟨60, .approved⟩, ⟨40, .refunded⟩]⟩ := by decide

end StarEscrow.Bundle
