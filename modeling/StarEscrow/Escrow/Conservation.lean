/-
  StarEscrow.Escrow.Conservation

  Milestone mode: an escrow without recurrence and without a yield protocol is
  a pot with one part for each milestone.

  `EscrowData.pot` reads the pot off a record: the paid parts are the approved
  milestones, and a cancelled or expired escrow is a closed pot.  Every step of
  the contract is a step of the pot or leaves it alone (`Move.pot`), so every
  run of the contract is matched by a run of the pot (`Run.refines_pot`), and
  the contract's balance is what the pot holds.

  Nothing in `approve` looks at the status of the escrow.  What keeps a closed
  pot closed is that the contract then has nothing left to pay with.
-/

import StarEscrow.Lib.Pot
import StarEscrow.Escrow.Creation

namespace StarEscrow.Escrow

/-! ## The pot of a record -/

/-- The amount of milestone `i`. -/
def partAmount (ms : List Milestone) (i : Nat) : Int := (ms.map (·.amount)).getD i 0

/-- The positions of the approved milestones among the first `n`. -/
def approvedParts (n : Nat) (ms : List Milestone) : Finset Nat :=
  (Finset.range n).filter fun i => ∃ m ∈ ms[i]?, m.status = .approved

/-- The two statuses in which the rest went back to the payer. -/
def EscrowStatus.GivenBack (st : EscrowStatus) : Prop := st = .cancelled ∨ st = .expired

instance : DecidablePred EscrowStatus.GivenBack := fun st =>
  inferInstanceAs (Decidable (st = .cancelled ∨ st = .expired))

def EscrowData.pot {Address : Type} (d : EscrowData Address) (n : Nat) : Pot (Finset.range n) where
  paid := approvedParts n d.milestones
  paid_subset := Finset.filter_subset _ _
  closed := decide d.status.GivenBack

theorem mem_approvedParts {n i : Nat} {ms : List Milestone} :
    i ∈ approvedParts n ms ↔ i < n ∧ ∃ m ∈ ms[i]?, m.status = .approved := by
  rw [approvedParts, Finset.mem_filter, Finset.mem_range]

/-- The paid parts add up to the released amount. -/
theorem sum_approvedParts (ms : List Milestone) :
    ∑ i ∈ approvedParts ms.length ms, partAmount ms i = approvedTotal ms := by
  have h_sum := Pot.sum_range_getD (ms.map Milestone.released)
  rw [List.length_map] at h_sum
  rw [approvedTotal_eq, ← h_sum, approvedParts, Finset.sum_filter]
  -- position by position: part `i` is paid exactly when milestone `i` is approved
  refine Finset.sum_congr rfl fun i h_i => ?_
  have h_lt := Finset.mem_range.mp h_i
  by_cases h_approved : ms[i].status = .approved
  · have h_ex : ∃ m ∈ ms[i]?, m.status = .approved :=
      ⟨ms[i], List.getElem?_eq_getElem h_lt, h_approved⟩
    rw [if_pos h_ex, partAmount]
    simp [Milestone.released, h_lt, h_approved]
  · have h_no : ¬∃ m ∈ ms[i]?, m.status = .approved := by
      rintro ⟨m, h_m, h_status⟩
      rw [List.getElem?_eq_getElem h_lt, Option.mem_def, Option.some.injEq] at h_m
      exact h_approved (h_m ▸ h_status)
    rw [if_neg h_no]
    simp [Milestone.released, h_lt, h_approved]

theorem sum_parts (ms : List Milestone) :
    ∑ i ∈ Finset.range ms.length, partAmount ms i = milestoneTotal ms := by
  have h_sum := Pot.sum_range_getD (ms.map (·.amount))
  rw [List.length_map] at h_sum
  exact h_sum

section Replace

variable {ms : List Milestone} {i : Nat} {m : Milestone} (n : Nat)

/-- Replacing an unapproved milestone by an unapproved one pays no part. -/
theorem approvedParts_set_of_ne (m' : Milestone) (h_get : ms[i]? = some m)
    (h_old : m.status ≠ .approved) (h_new : m'.status ≠ .approved) :
    approvedParts n (ms.set i m') = approvedParts n ms := by
  obtain ⟨h_lt, -⟩ := List.getElem?_eq_some_iff.mp h_get
  ext j
  rw [mem_approvedParts, mem_approvedParts]
  by_cases h_ij : i = j
  · subst h_ij
    rw [List.getElem?_set_self h_lt, h_get]
    simp [h_old, h_new]
  · rw [List.getElem?_set_ne h_ij]

/-- Approving milestone `i` pays part `i`. -/
theorem approvedParts_set_approved (h_get : ms[i]? = some m) (h_i : i < n) :
    approvedParts n (ms.set i { m with status := .approved }) = insert i (approvedParts n ms) := by
  obtain ⟨h_lt, -⟩ := List.getElem?_eq_some_iff.mp h_get
  ext j
  rw [Finset.mem_insert, mem_approvedParts, mem_approvedParts]
  by_cases h_ij : i = j
  · subst h_ij
    rw [List.getElem?_set_self h_lt]
    simp [h_i]
  · rw [List.getElem?_set_ne h_ij]
    simp [Ne.symm h_ij]

theorem not_mem_approvedParts (h_get : ms[i]? = some m) (h_status : m.status ≠ .approved) :
    i ∉ approvedParts n ms := by
  rw [mem_approvedParts]
  rintro ⟨-, m', h_m', h_approved⟩
  rw [h_get, Option.mem_def, Option.some.injEq] at h_m'
  exact h_status (h_m' ▸ h_approved)

end Replace

/-! ## The pot of a later record -/

theorem Descends.partAmount_eq {Address : Type} {d d' : EscrowData Address} (h : Descends d d') :
    partAmount d.milestones = partAmount d'.milestones := by
  funext i
  rw [partAmount, partAmount, h.amounts]

/-- The paid parts of a later record. -/
theorem Descends.sum_paid {Address : Type} {d₂ d : EscrowData Address} (h : Descends d₂ d) :
    ∑ i ∈ (d.pot d₂.milestones.length).paid, partAmount d₂.milestones i =
      approvedTotal d.milestones := by
  rw [h.partAmount_eq, ← h.length_eq]
  exact sum_approvedParts d.milestones

/-- The unpaid parts of a later record. -/
theorem Descends.unpaid {Address : Type} {d₂ d : EscrowData Address} (h : Descends d₂ d)
    (h_sound : Sound d) :
    (d.pot d₂.milestones.length).unpaid (partAmount d₂.milestones) =
      d.totalAmount - approvedTotal d.milestones := by
  have h_all := (d.pot d₂.milestones.length).unpaid_add_paid (partAmount d₂.milestones)
  rw [h.sum_paid, sum_parts] at h_all
  have h_total : d.totalAmount = milestoneTotal d₂.milestones := by
    rw [h_sound.total, milestoneTotal, milestoneTotal, h.amounts]
  omega

/-! ## Contract states and pots -/

variable {Address : Type} [DecidableEq Address] {H : Host Address}

/-- The step brings the contract none of the token from outside, and the contract itself is
    neither payer nor freelancer nor fee collector when it is taken. -/
def Isolated (token : Address) (e : Entry H) : Prop :=
  (e.label.isOutside = true → e.post.funds token = e.pre.funds token) ∧
    (∀ d ∈ e.pre.storage.escrow, d.payer ≠ H.currentContract ∧ d.freelancer ≠ H.currentContract) ∧
    ∀ c ∈ e.pre.storage.config, c.feeCollector ≠ H.currentContract

instance (token : Address) (e : Entry H) : Decidable (Isolated token e) :=
  inferInstanceAs (Decidable (_ ∧ _ ∧ _))

/-- The contract's balance and payments are those of the pot, and the status says whether parts
    are left; `d₂` is the record as created, `base` what had been paid out by then. -/
structure InPot (d₂ : EscrowData Address) (base : Int) (s : State H) (d : EscrowData Address) :
    Prop where
  wellFormed : WellFormed d
  descends : Descends d₂ d
  funds : s.funds d₂.token = (d.pot d₂.milestones.length).held (partAmount d₂.milestones)
  paidOut : s.paidOut d₂.token - base =
    (d.pot d₂.milestones.length).drawn (partAmount d₂.milestones)
  active : d.status = .active → ¬AllApproved d.milestones
  completed : d.status = .completed → AllApproved d.milestones

/-! ## One step of the contract -/

section Step

variable {d₂ d d' : EscrowData Address} {base : Int} {s s' : State H} {l : Label Address}

/-- A step that leaves the pot, the balance and the payments alone. -/
theorem InPot.stutter (h : InPot d₂ base s d) (h_move : Move s l s' d d')
    (h_status : d'.status = d.status)
    (h_paid : approvedParts d₂.milestones.length d'.milestones =
      approvedParts d₂.milestones.length d.milestones)
    (h_all : AllApproved d'.milestones ↔ AllApproved d.milestones)
    (h_funds : s'.funds d₂.token = s.funds d₂.token)
    (h_out : s'.paidOut d₂.token = s.paidOut d₂.token) :
    d'.pot d₂.milestones.length = d.pot d₂.milestones.length ∧ InPot d₂ base s' d' := by
  have h_pot : d'.pot d₂.milestones.length = d.pot d₂.milestones.length := by
    simp only [EscrowData.pot, h_status, h_paid]
  refine ⟨h_pot, h_move.wellFormed h.wellFormed, h.descends.trans h_move.descends, ?_, ?_, ?_, ?_⟩
  · rw [h_pot, h_funds, h.funds]
  · rw [h_pot, h_out, h.paidOut]
  · rw [h_status, h_all]
    exact h.active
  · rw [h_status, h_all]
    exact h.completed

/-- A step that pays what an event of the pot draws. -/
theorem InPot.step {ev : Pot.Event Nat} (h : InPot d₂ base s d) (h_move : Move s l s' d d')
    (h_step : Pot.Step (d.pot d₂.milestones.length) ev (d'.pot d₂.milestones.length))
    (h_funds : s'.funds d₂.token = s.funds d₂.token -
      ev.draw (partAmount d₂.milestones) (d.pot d₂.milestones.length))
    (h_out : s'.paidOut d₂.token = s.paidOut d₂.token +
      ev.draw (partAmount d₂.milestones) (d.pot d₂.milestones.length))
    (h_active : d'.status = .active → ¬AllApproved d'.milestones)
    (h_completed : d'.status = .completed → AllApproved d'.milestones) : InPot d₂ base s' d' where
  wellFormed := h_move.wellFormed h.wellFormed
  descends := h.descends.trans h_move.descends
  funds := by rw [h_funds, h.funds, h_step.held]
  paidOut := by
    have h_before := h.paidOut
    have h_after := h_step.drawn (partAmount d₂.milestones)
    omega
  active := h_active
  completed := h_completed

/-- While a milestone waits for approval, the escrow is `Active`: a closed pot has nothing left
    to pay it with, and a completed escrow has no such milestone. -/
theorem InPot.active_of_paid {i : Nat} {m : Milestone} (h : InPot d₂ base s d)
    (h_get : d.milestones[i]? = some m) (h_submitted : m.status = .submitted)
    (h_covered : m.amount ≤ s.funds d₂.token) : d.status = .active := by
  have h_mem := List.mem_of_getElem? h_get
  have h_pos := h.wellFormed.sound.positive m h_mem
  rcases h.wellFormed.status with h_active | h_completed | h_back
  · exact h_active
  · have h_approved := h.completed h_completed m h_mem
    rw [h_submitted] at h_approved
    cases h_approved
  · have h_closed : (d.pot d₂.milestones.length).closed = true := decide_eq_true h_back
    have h_funds := h.funds
    rw [Pot.held_of_closed _ h_closed] at h_funds
    omega

/-- An approval of an `Active` escrow completes it exactly when nothing is left to approve. -/
theorem withApproved_status_eq {Address : Type} {d : EscrowData Address} {i : Nat} {m : Milestone}
    (h_active : d.status = .active) : (d.withApproved i m).status =
      if AllApproved (d.withApproved i m).milestones then .completed else .active := by
  by_cases h_all : AllApproved (d.withApproved i m).milestones
  · rw [if_pos h_all, withApproved_completed h_all]
  · rw [if_neg h_all, withApproved_status h_all, h_active]

/-- An approval of an `Active` escrow pays one part. -/
theorem pot_withApproved {Address : Type} {d : EscrowData Address} {n i : Nat} {m : Milestone}
    (h_active : d.status = .active) (h_get : d.milestones[i]? = some m)
    (h_submitted : m.status = .submitted) (h_i : i < n) :
    Pot.Step (d.pot n) (.pay i) ((d.withApproved i m).pot n) := by
  have h_new := not_mem_approvedParts n h_get (by simp [h_submitted])
  have h_open' : ¬(d.withApproved i m).status.GivenBack := by
    rw [withApproved_status_eq h_active]
    split <;> decide
  refine .pay ?_ (Finset.mem_range.mpr h_i) h_new (approvedParts_set_approved _ h_get h_i)
    (decide_eq_false h_open')
  rw [EscrowData.pot, h_active]
  rfl

/-- A refund of an `Active` escrow closes the pot. -/
theorem pot_refunded {Address : Type} {d : EscrowData Address} {st : EscrowStatus} (n : Nat)
    (h_active : d.status = .active) (h_back : st.GivenBack) :
    Pot.Step (d.pot n) .refund (EscrowData.pot { d with status := st } n) := by
  refine .refund ?_ rfl (decide_eq_true h_back)
  rw [EscrowData.pot, h_active]
  rfl

/-- **One step of the contract** is one step of the pot, or leaves the pot alone. -/
theorem Move.pot (h : Move s l s' d d') (h_once : d₂.recurrenceCount = 0)
    (h_iso : Isolated d₂.token ⟨s, l, s'⟩) (h_stored : s.storage.escrow = some d)
    (h_inv : InPot d₂ base s d) :
    (d'.pot d₂.milestones.length = d.pot d₂.milestones.length ∨
      ∃ ev, Pot.Step (d.pot d₂.milestones.length) ev (d'.pot d₂.milestones.length)) ∧
    InPot d₂ base s' d' := by
  obtain ⟨h_outside, h_roles, h_coll⟩ := h_iso
  obtain ⟨h_payer, h_free⟩ := h_roles d h_stored
  have h_token := h_inv.descends.token
  have h_move := h
  cases h with
  | quiet _ h_unpaid h_world =>
      -- only outside activity touches the balance, and here it brings nothing
      have h_funds : s'.funds d₂.token = s.funds d₂.token := by
        by_cases h_out : l.isOutside = true
        · exact h_outside h_out
        · refine State.funds_congr (h_world ?_) _
          rintro rfl
          exact h_out rfl
      obtain ⟨h_pot, h_next⟩ :=
        h_inv.stutter h_move rfl rfl Iff.rfl h_funds (h_unpaid.paidOut _)
      exact ⟨.inl h_pot, h_next⟩
  | @submit c i m _ _ h_active h_get h_pending _ h_unpaid h_world =>
      -- neither the pending nor the submitted milestone is a paid part
      have h_mem := List.mem_of_getElem? h_get
      have h_not : ¬AllApproved d.milestones := h_inv.active h_active
      have h_not' : ¬AllApproved (d.withSubmitted i m).milestones := by
        intro h_all
        obtain ⟨h_lt, -⟩ := List.getElem?_eq_some_iff.mp h_get
        have h_status := h_all { m with status := .submitted } (List.mem_set h_lt _)
        cases h_status
      have h_parts := approvedParts_set_of_ne d₂.milestones.length
        { m with status := .submitted } h_get (by simp [h_pending]) (by simp)
      obtain ⟨h_pot, h_next⟩ := h_inv.stutter h_move rfl h_parts (iff_of_false h_not' h_not)
        (State.funds_congr h_world _) (h_unpaid.paidOut _)
      exact ⟨.inl h_pot, h_next⟩
  | @approve c i m _ _ h_get h_submitted _ _ h_paid =>
      have h_pos := h_inv.wellFormed.sound.positive m (List.mem_of_getElem? h_get)
      obtain ⟨h_covered, h_funds⟩ := h_paid.funds h_pos.le h_free h_coll
      have h_out := h_paid.paidOut h_pos.le
      rw [h_token] at h_covered h_funds h_out
      -- the code does not ask for the status, but the payment was covered
      have h_active := h_inv.active_of_paid h_get h_submitted h_covered
      obtain ⟨h_lt, -⟩ := List.getElem?_eq_some_iff.mp h_get
      have h_i : i < d₂.milestones.length := by rwa [← h_inv.descends.length_eq]
      have h_amount : partAmount d₂.milestones i = m.amount := by
        rw [h_inv.descends.partAmount_eq, partAmount]
        simp [h_get]
      have h_step := pot_withApproved h_active h_get h_submitted h_i
      refine ⟨.inr ⟨_, h_step⟩, h_inv.step h_move h_step ?_ ?_ ?_ ?_⟩
      · rw [h_funds, Pot.Event.draw, h_amount]
      · rw [h_out, Pot.Event.draw, h_amount]
      · intro h_st h_all
        rw [withApproved_completed h_all] at h_st
        cases h_st
      · intro h_st
        by_contra h_all
        rw [withApproved_status h_all, h_active] at h_st
        cases h_st
  | release _ _ h_count =>
      -- without recurrence no release passes its checks
      rw [h_inv.descends.recurrenceCount] at h_count
      exact absurd h_once h_count
  | @refund c st _ h_op h_active _ _ h_refunded =>
      have h_back : st.GivenBack := by
        rcases h_op with ⟨-, rfl⟩ | ⟨-, rfl⟩
        · exact .inl rfl
        · exact .inr rfl
      -- no release was made, so the refund is all that is left
      have h_draw :
          refundOf d = (d.pot d₂.milestones.length).unpaid (partAmount d₂.milestones) := by
        have h_zero := h_inv.wellFormed.counter (h_inv.descends.recurrenceCount.trans h_once)
        rw [refundOf_of_zero h_zero, h_inv.descends.unpaid h_inv.wellFormed.sound]
      have h_funds := h_refunded.funds h_payer
      have h_out := h_refunded.paidOut
      rw [h_token, h_draw] at h_funds h_out
      have h_step := pot_refunded d₂.milestones.length h_active h_back
      refine ⟨.inr ⟨_, h_step⟩, h_inv.step h_move h_step h_funds h_out ?_ ?_⟩
      · rintro rfl
        exact absurd h_back (by decide)
      · rintro rfl
        exact absurd h_back (by decide)

end Step

/-! ## Whole runs -/

/-- The pot an escrow of pending milestones starts with is full. -/
theorem inPot_created {s₂ : State H} {a : CreateArgs Address} {t : UInt64}
    (h_wf : WellFormed (a.stored t)) (h_pending : ∀ m ∈ a.milestones, m.status = .pending)
    (h_ne : a.milestones ≠ []) (h_funds : s₂.funds a.token = milestoneTotal a.milestones) :
    (a.stored t).pot a.milestones.length = Pot.full _ ∧
      InPot (a.stored t) (s₂.paidOut a.token) s₂ (a.stored t) := by
  have h_none : ∀ m ∈ (a.stored t).milestones, m.status ≠ .approved := by
    intro m h_mem h_approved
    rw [h_pending m h_mem] at h_approved
    cases h_approved
  have h_parts : approvedParts a.milestones.length a.milestones = ∅ := by
    apply Finset.eq_empty_of_forall_notMem
    intro i h_i
    obtain ⟨-, m, h_m, h_approved⟩ := mem_approvedParts.mp h_i
    exact h_none m (List.mem_of_getElem? h_m) h_approved
  have h_open : ((a.stored t).pot (a.stored t).milestones.length).closed = false := rfl
  have h_zero := approvedTotal_of_none h_none
  refine ⟨?_, h_wf, .refl _, ?_, ?_, fun _ h_all => ?_, fun h_st => ?_⟩
  · rw [EscrowData.pot, Pot.full]
    congr 1
  · show s₂.funds a.token = _
    rw [Pot.held_of_open _ h_open, Descends.unpaid (.refl _) h_wf.sound, h_funds, h_zero]
    exact (Int.sub_zero _).symm
  · rw [Pot.drawn_of_open _ h_open, Descends.sum_paid (.refl _), h_zero]
    exact Int.sub_self _
  · obtain ⟨m, h_mem⟩ := List.exists_mem_of_ne_nil a.milestones h_ne
    exact h_none m h_mem (h_all m h_mem)
  · cases h_st

/-- **Refinement.**  Every run of the contract in milestone mode is matched by a run of the pot,
    and the contract's balance and payments are the pot's. -/
theorem Run.refines_pot {s₁ s₂ s₃ : State H} {c : Call Address} {a : CreateArgs Address}
    {tr : List (Entry H)} (h_created : Created s₁ c a s₂)
    (h_pending : ∀ m ∈ a.milestones, m.status = .pending) (h_once : a.recurrenceCount = 0)
    (h_yield : a.yieldProtocol = none) (h_empty : s₁.funds a.token = 0)
    (h_payer : a.payer ≠ H.currentContract) (h_run : Run s₂ tr s₃)
    (h_iso : ∀ e ∈ tr, Isolated a.token e) :
    ∃ evs d, Lts.Run Pot.Step (Pot.full (Finset.range a.milestones.length)) evs
        (d.pot a.milestones.length) ∧ s₃.storage.escrow = some d ∧
      InPot (a.stored c.timestamp) (s₂.paidOut a.token) s₃ d := by
  have h_funds := h_created.funds h_yield h_payer
  rw [h_empty, Int.zero_add] at h_funds
  obtain ⟨h_full, h_init⟩ :=
    inPot_created h_created.wellFormed h_pending h_created.accepted.nonempty h_funds
  have h_sim : ∃ evs p, Lts.Run Pot.Step (Pot.full (Finset.range a.milestones.length)) evs p ∧
      ∃ d, s₃.storage.escrow = some d ∧ p = d.pot a.milestones.length ∧
        InPot (a.stored c.timestamp) (s₂.paidOut a.token) s₃ d := by
    refine h_run.simulate (R := fun s p => ∃ d, s.storage.escrow = some d ∧
      p = d.pot a.milestones.length ∧ InPot (a.stored c.timestamp) (s₂.paidOut a.token) s d)
      h_iso ?_ ⟨_, h_created.stored, h_full.symm, h_init⟩
    rintro e p h_e h_s ⟨d, h_d, rfl, h_inv⟩
    obtain ⟨d', h_d', h_move⟩ := h_s.move h_d
    obtain ⟨h_pot, h_next⟩ := h_move.pot h_once h_e h_d h_inv
    -- the contract's step is matched by no step of the pot, or by one
    rcases h_pot with h_same | ⟨ev, h_step⟩
    · exact ⟨[], _, .refl, d', h_d', h_same.symm, h_next⟩
    · exact ⟨_, _, .single h_step, d', h_d', rfl, h_next⟩
  obtain ⟨evs, p, h_evs, d, h_d, rfl, h_inv⟩ := h_sim
  exact ⟨evs, d, h_evs, h_d, h_inv⟩

/-- **Conservation of funds.**  While the escrow is `Active` the contract holds exactly what is
    not approved and something is not; once it is over the contract holds nothing; and at any time
    what it holds and what freelancers, fee collector and refunded payers received, each from the
    calls that owe it to them, add up to the locked total. -/
theorem funds_conserved {s₁ s₂ s₃ : State H} {c : Call Address} {a : CreateArgs Address}
    {tr : List (Entry H)} (h_created : Created s₁ c a s₂)
    (h_pending : ∀ m ∈ a.milestones, m.status = .pending) (h_once : a.recurrenceCount = 0)
    (h_yield : a.yieldProtocol = none) (h_empty : s₁.funds a.token = 0)
    (h_payer : a.payer ≠ H.currentContract) (h_run : Run s₂ tr s₃)
    (h_iso : ∀ e ∈ tr, Isolated a.token e) :
    ∃ d, s₃.storage.escrow = some d ∧ d.totalAmount = milestoneTotal a.milestones ∧
      (d.status = .active → s₃.funds a.token = d.totalAmount - approvedTotal d.milestones ∧
        ¬AllApproved d.milestones) ∧
      (d.status = .completed → AllApproved d.milestones ∧ s₃.funds a.token = 0) ∧
      (d.status = .cancelled ∨ d.status = .expired → s₃.funds a.token = 0) ∧
      s₃.transfers = s₂.transfers ++ tr.flatMap payments ∧
      s₃.funds a.token + ((tr.flatMap payments).map (·.amount)).sum = d.totalAmount := by
  obtain ⟨evs, d, -, h_d, h_inv⟩ :=
    h_run.refines_pot h_created h_pending h_once h_yield h_empty h_payer h_iso
  have h_held : s₃.funds a.token = _ := h_inv.funds
  have h_drawn : s₃.paidOut a.token - s₂.paidOut a.token = _ := h_inv.paidOut
  -- what was paid out is what the steps of the run paid
  have h_payments : s₃.paidOut a.token =
      s₂.paidOut a.token + ((tr.flatMap payments).map (·.amount)).sum :=
    h_run.paidOut h_created.stored
  have h_unpaid := h_inv.descends.unpaid h_inv.wellFormed.sound
  have h_total : d.totalAmount = milestoneTotal a.milestones := h_inv.descends.totalAmount
  have h_open (h_st : ¬d.status.GivenBack) :
      s₃.funds a.token = d.totalAmount - approvedTotal d.milestones := by
    rw [h_held, Pot.held_of_open _ (decide_eq_false h_st), h_unpaid]
  refine ⟨d, h_d, h_total, fun h_st => ⟨h_open ?_, h_inv.active h_st⟩, fun h_st => ?_,
    fun h_st => ?_, h_run.transfers h_created.stored, ?_⟩
  · rw [h_st]
    decide
  · have h_all := h_inv.completed h_st
    refine ⟨h_all, ?_⟩
    rw [h_open (by rw [h_st]; decide), approvedTotal_of_allApproved h_all,
      h_inv.wellFormed.sound.total]
    omega
  · rw [h_held, Pot.held_of_closed _ (decide_eq_true h_st)]
  · have h_both : s₃.funds a.token + (s₃.paidOut a.token - s₂.paidOut a.token) =
        d.totalAmount := by
      rw [h_held, h_drawn, Pot.held_add_drawn, h_total]
      exact sum_parts a.milestones
    omega

theorem funds_conserved_partlyPaid :
    let s₂ := Sample.opened 100 0 Sample.twoParts
    let s₃ := play Sample.partlyPaid s₂
    let paid := (playTrace Sample.partlyPaid s₂).flatMap payments
    ∃ d, s₃.storage.escrow = some d ∧ d.totalAmount = milestoneTotal Sample.twoParts.milestones ∧
      (d.status = .active → s₃.funds 9 = d.totalAmount - approvedTotal d.milestones ∧
        ¬AllApproved d.milestones) ∧
      (d.status = .completed → AllApproved d.milestones ∧ s₃.funds 9 = 0) ∧
      (d.status = .cancelled ∨ d.status = .expired → s₃.funds 9 = 0) ∧
      s₃.transfers = s₂.transfers ++ paid ∧
      s₃.funds 9 + (paid.map (·.amount)).sum = d.totalAmount :=
  funds_conserved (Sample.opened_created (by decide)) (by decide) rfl rfl (by decide) (by decide)
    (run_play (by decide)) (by decide)

/-- The first part went to the freelancer 2, the rest back to the payer 1. -/
example : (playTrace Sample.partlyPaid (Sample.opened 100 0 Sample.twoParts)).flatMap payments =
    [⟨9, 0, 2, 60⟩, ⟨9, 0, 1, 40⟩] := by decide

end StarEscrow.Escrow
