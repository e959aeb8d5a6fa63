/-
  StarEscrow.Escrow.Record

  Facts about one escrow record: what `create` establishes (`Sound`), which
  fields no later operation writes (`Descends`), and how the sum over the
  approved milestones moves when one milestone is replaced.
-/

import StarEscrow.Escrow.Change
import StarEscrow.Lib.Register

namespace StarEscrow.Escrow

variable {Address : Type}

/-! ## Sums over a milestone list -/

/-- What one milestone adds to the released amount. -/
def Milestone.released (m : Milestone) : Int := if m.status = .approved then m.amount else 0

theorem approvedTotal_eq (ms : List Milestone) :
    approvedTotal ms = (ms.map Milestone.released).sum := rfl

/-- The sum of `w` over the amounts of the approved milestones. -/
def approvedSum (w : Int → Int) (ms : List Milestone) : Int :=
  (ms.map fun m => if m.status = .approved then w m.amount else 0).sum

theorem approvedSum_id (ms : List Milestone) : approvedSum (fun x => x) ms = approvedTotal ms := rfl

/-- Submitting does not count as releasing. -/
theorem approvedSum_submitted (w : Int → Int) {ms : List Milestone} {i : Nat} {m : Milestone}
    (h_get : ms[i]? = some m) (h_pending : m.status = .pending) :
    approvedSum w (ms.set i { m with status := .submitted }) = approvedSum w ms := by
  unfold approvedSum
  rw [Register.sum_replace _ h_get, if_neg (by simp [h_pending]), if_neg (by simp)]
  omega

/-- Approving releases exactly the milestone's amount. -/
theorem approvedSum_approved (w : Int → Int) {ms : List Milestone} {i : Nat} {m : Milestone}
    (h_get : ms[i]? = some m) (h_submitted : m.status = .submitted) :
    approvedSum w (ms.set i { m with status := .approved }) = approvedSum w ms + w m.amount := by
  unfold approvedSum
  rw [Register.sum_replace _ h_get, if_neg (by simp [h_submitted]), if_pos rfl, Int.sub_zero]

/-- Every milestone is approved. -/
def AllApproved (ms : List Milestone) : Prop := ∀ m ∈ ms, m.status = .approved

instance : DecidablePred AllApproved := fun ms =>
  inferInstanceAs (Decidable (∀ m ∈ ms, m.status = .approved))

theorem approvedSum_of_allApproved (w : Int → Int) {ms : List Milestone} (h : AllApproved ms) :
    approvedSum w ms = ((ms.map (·.amount)).map w).sum := by
  rw [approvedSum, List.map_map, List.map_congr_left]
  intro m h_mem
  exact if_pos (h m h_mem)

theorem approvedTotal_of_allApproved {ms : List Milestone} (h : AllApproved ms) :
    approvedTotal ms = milestoneTotal ms := by
  rw [← approvedSum_id, approvedSum_of_allApproved _ h, List.map_id', milestoneTotal]

theorem approvedSum_of_none (w : Int → Int) {ms : List Milestone}
    (h : ∀ m ∈ ms, m.status ≠ .approved) : approvedSum w ms = 0 := by
  apply List.sum_eq_zero
  intro x h_x
  obtain ⟨m, h_mem, rfl⟩ := List.mem_map.mp h_x
  exact if_neg (h m h_mem)

theorem approvedTotal_of_none {ms : List Milestone} (h : ∀ m ∈ ms, m.status ≠ .approved) :
    approvedTotal ms = 0 :=
  approvedSum_of_none (fun x => x) h

/-- With positive amounts, nothing is released only while nothing is approved. -/
theorem approvedTotal_eq_zero {ms : List Milestone} (h_pos : ∀ m ∈ ms, 0 < m.amount) :
    approvedTotal ms = 0 ↔ ∀ m ∈ ms, m.status ≠ .approved := by
  constructor
  · intro h_zero m h_mem h_approved
    have h_items : ∀ x ∈ ms.map Milestone.released, 0 ≤ x := by
      intro x h_x
      obtain ⟨m', h_mem', rfl⟩ := List.mem_map.mp h_x
      have h_amount := h_pos m' h_mem'
      unfold Milestone.released
      split <;> omega
    -- one approved milestone alone makes the sum positive
    have h_le := List.single_le_sum h_items m.released (List.mem_map_of_mem h_mem)
    rw [← approvedTotal_eq, h_zero, Milestone.released, if_pos h_approved] at h_le
    have h_amount := h_pos m h_mem
    omega
  · exact approvedTotal_of_none

/-! ## The updated records -/

section Updates

variable {d : EscrowData Address} {i : Nat} {m : Milestone}

@[simp] theorem withSubmitted_milestones : (d.withSubmitted i m).milestones =
    d.milestones.set i { m with status := .submitted } := rfl
@[simp] theorem withApproved_milestones : (d.withApproved i m).milestones =
    d.milestones.set i { m with status := .approved } := rfl
@[simp] theorem withApproved_totalAmount : (d.withApproved i m).totalAmount = d.totalAmount := rfl
@[simp] theorem withRelease_releasesMade {k : UInt32} {t : UInt64} :
    (d.withRelease k t).releasesMade = k := rfl
@[simp] theorem withRelease_milestones {k : UInt32} {t : UInt64} :
    (d.withRelease k t).milestones = d.milestones := rfl
@[simp] theorem withApproved_releasesMade : (d.withApproved i m).releasesMade = d.releasesMade := rfl

/-- The last approval completes the escrow. -/
theorem withApproved_completed (h : AllApproved (d.withApproved i m).milestones) :
    (d.withApproved i m).status = .completed := if_pos h

/-- Every other approval keeps the status, whatever it is. -/
theorem withApproved_status (h : ¬AllApproved (d.withApproved i m).milestones) :
    (d.withApproved i m).status = d.status := if_neg h

theorem approvedTotal_withSubmitted (h_get : d.milestones[i]? = some m)
    (h_pending : m.status = .pending) :
    approvedTotal (d.withSubmitted i m).milestones = approvedTotal d.milestones :=
  approvedSum_submitted (fun x => x) h_get h_pending

theorem approvedTotal_withApproved (h_get : d.milestones[i]? = some m)
    (h_submitted : m.status = .submitted) :
    approvedTotal (d.withApproved i m).milestones = approvedTotal d.milestones + m.amount :=
  approvedSum_approved (fun x => x) h_get h_submitted

end Updates

/-! ## What `create` establishes -/

/-- The amounts of a record are positive, add up to its total, and the total is in range. -/
structure Sound (d : EscrowData Address) : Prop where
  positive : ∀ m ∈ d.milestones, 0 < m.amount
  total : d.totalAmount = milestoneTotal d.milestones
  total_pos : 0 < d.totalAmount
  range : Checked.InI128 d.totalAmount

theorem CreateArgs.Accepted.sound {a : CreateArgs Address} (h : a.Accepted) (t : UInt64) :
    Sound (a.stored t) where
  positive := h.positive
  total := rfl
  total_pos := milestoneTotal_pos h.nonempty h.positive
  range := h.range

theorem Sound.amounts_nonneg {d : EscrowData Address} (h : Sound d) :
    ∀ x ∈ d.milestones.map (·.amount), 0 ≤ x := by
  intro x h_x
  obtain ⟨m, h_mem, rfl⟩ := List.mem_map.mp h_x
  exact (h.positive m h_mem).le

theorem Sound.approved_nonneg {d : EscrowData Address} (h : Sound d) :
    0 ≤ approvedTotal d.milestones := by
  refine List.sum_nonneg fun x h_x => ?_
  obtain ⟨m, h_mem, rfl⟩ := List.mem_map.mp h_x
  have h_amount := h.positive m h_mem
  split <;> omega

theorem Sound.approved_le {d : EscrowData Address} (h : Sound d) :
    approvedTotal d.milestones ≤ d.totalAmount := by
  rw [h.total]
  refine List.sum_le_sum fun m h_mem => ?_
  have h_amount := h.positive m h_mem
  show m.released ≤ m.amount
  unfold Milestone.released
  split <;> omega

/-- While no release was made, a refund is computed and is exactly what is not approved. -/
theorem Sound.remaining_returns {d : EscrowData Address} (h : Sound d)
    (h_none : d.recurrenceCount = 0 ∨ d.releasesMade = 0) :
    remaining d = some (d.totalAmount - approvedTotal d.milestones) :=
  Escrow.remaining_returns (fun m h_mem => (h.positive m h_mem).le) h.approved_le h.range h_none

/-- Each release adds one total to the refund. -/
theorem refundOf_eq {d : EscrowData Address} (h : d.recurrenceCount = 0 → d.releasesMade = 0) :
    refundOf d =
      d.totalAmount - approvedTotal d.milestones + d.totalAmount * d.releasesMade.toNat := by
  unfold refundOf
  by_cases h_count : 0 < d.recurrenceCount
  · rw [if_pos h_count]
    rfl
  · have h_zero : d.recurrenceCount = 0 := by
      apply UInt32.toNat_inj.mp
      rw [UInt32.lt_iff_toNat_lt] at h_count
      simpa using h_count
    rw [if_neg h_count, h h_zero]
    simp

theorem refundOf_of_zero {d : EscrowData Address} (h : d.releasesMade = 0) :
    refundOf d = d.totalAmount - approvedTotal d.milestones := by
  rw [refundOf_eq fun _ => h, h, UInt32.toNat_zero, Int.natCast_zero, Int.mul_zero, Int.add_zero]

/-! ## What no later operation writes -/

/-- `d'` is a later record of the same escrow as `d`. -/
structure Descends (d d' : EscrowData Address) : Prop where
  token : d'.token = d.token
  totalAmount : d'.totalAmount = d.totalAmount
  amounts : d'.milestones.map (·.amount) = d.milestones.map (·.amount)
  interval : d'.interval = d.interval
  recurrenceCount : d'.recurrenceCount = d.recurrenceCount
  yieldProtocol : d'.yieldProtocol = d.yieldProtocol
  principalDeposited : d'.principalDeposited = d.principalDeposited
  yieldRecipient : d'.yieldRecipient = d.yieldRecipient

namespace Descends

theorem refl (d : EscrowData Address) : Descends d d := ⟨rfl, rfl, rfl, rfl, rfl, rfl, rfl, rfl⟩

theorem trans {d d' d'' : EscrowData Address} (h : Descends d d') (h' : Descends d' d'') :
    Descends d d'' where
  token := h'.token.trans h.token
  totalAmount := h'.totalAmount.trans h.totalAmount
  amounts := h'.amounts.trans h.amounts
  interval := h'.interval.trans h.interval
  recurrenceCount := h'.recurrenceCount.trans h.recurrenceCount
  yieldProtocol := h'.yieldProtocol.trans h.yieldProtocol
  principalDeposited := h'.principalDeposited.trans h.principalDeposited
  yieldRecipient := h'.yieldRecipient.trans h.yieldRecipient

theorem length_eq {d d' : EscrowData Address} (h : Descends d d') :
    d'.milestones.length = d.milestones.length := by
  have h_len := congrArg List.length h.amounts
  rwa [List.length_map, List.length_map] at h_len

theorem sound {d d' : EscrowData Address} (h : Descends d d') (h_sound : Sound d) : Sound d' where
  positive := by
    intro m h_mem
    -- the amount already stood in the earlier record
    have h_amount : m.amount ∈ d.milestones.map (·.amount) := by
      rw [← h.amounts]
      exact List.mem_map_of_mem h_mem
    obtain ⟨m₀, h_mem₀, h_eq⟩ := List.mem_map.mp h_amount
    rw [← h_eq]
    exact h_sound.positive m₀ h_mem₀
  total := by rw [h.totalAmount, h_sound.total, milestoneTotal, milestoneTotal, h.amounts]
  total_pos := by rw [h.totalAmount]; exact h_sound.total_pos
  range := by rw [h.totalAmount]; exact h_sound.range

/-- The record after one milestone was replaced by one of the same amount, with any status. -/
theorem of_set {d : EscrowData Address} {i : Nat} {m m' : Milestone} {st : EscrowStatus}
    (h_get : d.milestones[i]? = some m) (h_amount : m'.amount = m.amount) :
    Descends d { d with milestones := d.milestones.set i m', status := st } :=
  ⟨rfl, rfl, Register.map_replace h_get h_amount, rfl, rfl, rfl, rfl, rfl⟩

end Descends

end StarEscrow.Escrow
