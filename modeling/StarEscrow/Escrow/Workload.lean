/-
  StarEscrow.Escrow.Workload

  How much work a deal can take.

  A pending milestone has a submission and an approval ahead of it, a submitted
  one an approval; a recurring escrow has its remaining releases, and an
  `Active` one its refund.  `stepsLeft` adds these up.  Every returned call
  that writes the books uses up at least one, and nothing adds any, so the
  number of such calls is bounded from the start (`work_bounded`).
-/

import StarEscrow.Escrow.Creation

namespace StarEscrow.Escrow

/-- The calls a milestone can still take. -/
def MilestoneStatus.stepsLeft : MilestoneStatus → Int
  | .pending => 2
  | .submitted => 1
  | .approved => 0

theorem MilestoneStatus.stepsLeft_nonneg (st : MilestoneStatus) : 0 ≤ st.stepsLeft := by
  cases st <;> decide

theorem MilestoneStatus.stepsLeft_le (st : MilestoneStatus) : st.stepsLeft ≤ 2 := by
  cases st <;> decide

/-- The calls on the books that a deal can still take. -/
def EscrowData.stepsLeft {Address : Type} (d : EscrowData Address) : Int :=
  (d.milestones.map (·.status.stepsLeft)).sum +
    ((d.recurrenceCount.toNat - d.releasesMade.toNat : Nat) : Int) +
    if d.status = .active then 1 else 0

variable {Address : Type} [DecidableEq Address] {H : Host Address}

/-- The step is a call on the books that returned. -/
def Label.works {Address : Type} : Label Address → Bool
  | .returned c => c.op.onBooks
  | _ => false

/-- How many steps of a run are. -/
def workCount (tr : List (Entry H)) : Nat := tr.countP (·.label.works)

theorem EscrowData.stepsLeft_nonneg {Address : Type} (d : EscrowData Address) :
    0 ≤ d.stepsLeft := by
  have h_sum : 0 ≤ (d.milestones.map (·.status.stepsLeft)).sum := by
    refine List.sum_nonneg fun x h_x => ?_
    obtain ⟨m, -, rfl⟩ := List.mem_map.mp h_x
    exact m.status.stepsLeft_nonneg
  unfold EscrowData.stepsLeft
  split <;> omega

/-- Bringing a milestone one step closer to its end uses up a step. -/
theorem sum_stepsLeft_set {ms : List Milestone} {i : Nat} {m : Milestone} (st : MilestoneStatus)
    (h_get : ms[i]? = some m) (h_next : m.status.stepsLeft = st.stepsLeft + 1) :
    ((ms.set i { m with status := st }).map (·.status.stepsLeft)).sum + 1 =
      (ms.map (·.status.stepsLeft)).sum := by
  rw [Register.sum_replace (fun m : Milestone => m.status.stepsLeft) h_get, h_next]
  show _ - (st.stepsLeft + 1) + st.stepsLeft + 1 = _
  omega

/-- Every move on the books uses up a step, and no move adds one. -/
theorem Move.stepsLeft {s s' : State H} {l : Label Address} {d d' : EscrowData Address}
    (h : Move s l s' d d') : (if l.works then 1 else 0) + d'.stepsLeft ≤ d.stepsLeft := by
  have h_idle (h_quiet : ∀ c, l = .returned c → c.op.onBooks = false) : l.works = false := by
    cases l with
    | returned c => exact h_quiet c rfl
    | aborted | outside => rfl
  have h_cost : (if l.works then (1 : Int) else 0) ≤ 1 := by split <;> decide
  generalize h_x : (if l.works then (1 : Int) else 0) = x at h_cost ⊢
  cases h with
  | quiet h_quiet =>
      rw [h_idle h_quiet, if_neg (by decide)] at h_x
      rw [← h_x]
      exact (Int.zero_add _).le
  | @submit c i m _ _ h_active h_get h_pending =>
      have h_sum := sum_stepsLeft_set .submitted h_get (by rw [h_pending]; rfl)
      simp only [EscrowData.stepsLeft, EscrowData.withSubmitted, if_pos h_active]
      omega
  | @approve c i m _ _ h_get h_submitted =>
      have h_sum := sum_stepsLeft_set .approved h_get (by rw [h_submitted]; rfl)
      -- an approval never makes the escrow `Active`
      have h_status : (if (d.withApproved i m).status = .active then (1 : Int) else 0) ≤
          if d.status = .active then 1 else 0 := by
        by_cases h_all : AllApproved (d.withApproved i m).milestones
        · rw [withApproved_completed h_all, if_neg (by decide)]
          split <;> decide
        · rw [withApproved_status h_all]
      simp only [EscrowData.stepsLeft, withApproved_milestones, withApproved_releasesMade]
      show _ + (_ + ((d.recurrenceCount.toNat - d.releasesMade.toNat : Nat) : Int) + _) ≤ _
      omega
  | @release c k _ _ h_count h_active h_left _ _ _ h_next =>
      have h_lt := UInt32.lt_iff_toNat_lt.mp h_left
      have h_status : (if (d.withRelease k c.timestamp).status = .active then (1 : Int) else 0) ≤
          1 := by split <;> decide
      simp only [EscrowData.stepsLeft, withRelease_milestones, withRelease_releasesMade, h_next,
        if_pos h_active]
      show _ + (_ + ((d.recurrenceCount.toNat - (d.releasesMade.toNat + 1) : Nat) : Int) + _) ≤ _
      omega
  | refund _ h_op h_active =>
      simp only [EscrowData.stepsLeft, if_pos h_active]
      rcases h_op with ⟨-, rfl⟩ | ⟨-, rfl⟩
      · rw [if_neg (by decide)]
        omega
      · rw [if_neg (by decide)]
        omega

/-! ## Runs -/

/-- What a deal can still take, in a state; nothing before there is one. -/
def State.stepsLeft (s : State H) : Int := (s.storage.escrow.map (·.stepsLeft)).getD 0

theorem sum_works (tr : List (Entry H)) :
    (tr.map fun e => if e.label.works then (1 : Int) else 0).sum = workCount tr := by
  induction tr with
  | nil => rfl
  | cons e tr ih =>
      rw [List.map_cons, List.sum_cons, ih, workCount, workCount, List.countP_cons]
      split <;> push_cast <;> omega

/-- From a stored record on, the work that returned and the work that is left are no more than
    what was left at the start. -/
theorem Run.workCount_le {s s' : State H} {tr : List (Entry H)} {d : EscrowData Address}
    (h_run : Run s tr s') (h_stored : s.storage.escrow = some d) :
    ∃ d', s'.storage.escrow = some d' ∧ (workCount tr : Int) + d'.stepsLeft ≤ d.stepsLeft := by
  obtain ⟨d', h_d', -⟩ := h_run.descends h_stored
  refine ⟨d', h_d', ?_⟩
  have h_moves := h_run.moves h_stored
  have h_all := h_run.potential (f := State.stepsLeft)
    (c := fun e => if e.label.works then 1 else 0) fun e h_e => by
      obtain ⟨d₁, d₂, h_d₁, h_d₂, -, h_move⟩ := h_moves e h_e
      rw [State.stepsLeft, State.stepsLeft, h_d₁, h_d₂]
      exact h_move.stepsLeft
  rw [sum_works, State.stepsLeft, State.stepsLeft, h_stored, h_d'] at h_all
  exact h_all

theorem stepsLeft_stored_le {Address : Type} (a : CreateArgs Address) (t : UInt64) :
    (a.stored t).stepsLeft ≤ 2 * a.milestones.length + a.recurrenceCount.toNat + 1 := by
  have h_sum : (a.milestones.map (·.status.stepsLeft)).sum ≤ 2 * a.milestones.length := by
    have h_le := List.sum_le_card_nsmul (a.milestones.map (·.status.stepsLeft)) 2 fun x h_x => by
      obtain ⟨m, -, rfl⟩ := List.mem_map.mp h_x
      exact m.status.stepsLeft_le
    rw [List.length_map, nsmul_eq_mul] at h_le
    omega
  have h_active : (a.stored t).status = .active := rfl
  rw [EscrowData.stepsLeft, if_pos h_active]
  show _ + ((a.recurrenceCount.toNat - (0 : UInt32).toNat : Nat) : Int) + 1 ≤ _
  rw [UInt32.toNat_zero, Nat.sub_zero]
  show (a.milestones.map (·.status.stepsLeft)).sum + _ + _ ≤ _
  omega

/-- **A deal takes boundedly many calls.**  Over any run after `create`, at most two calls for each
    milestone, one for each release and one refund return and write the books, whatever is called
    how often; and once the work that is left is zero, no such call ever returns again. -/
theorem work_bounded {s₁ s₂ s₃ : State H} {c : Call Address} {a : CreateArgs Address}
    {tr : List (Entry H)} (h_created : Created s₁ c a s₂) (h_run : Run s₂ tr s₃) :
    ∃ d, s₃.storage.escrow = some d ∧
      (workCount tr : Int) + d.stepsLeft ≤
        2 * a.milestones.length + a.recurrenceCount.toNat + 1 ∧
      0 ≤ d.stepsLeft ∧
      ∀ tr' s₄, Run s₃ tr' s₄ → (workCount tr' : Int) ≤ d.stepsLeft := by
  obtain ⟨d, h_d, h_le⟩ := h_run.workCount_le h_created.stored
  refine ⟨d, h_d, h_le.trans (stepsLeft_stored_le a c.timestamp), d.stepsLeft_nonneg, ?_⟩
  intro tr' s₄ h_run'
  obtain ⟨d', -, h_le'⟩ := h_run'.workCount_le h_d
  have h_nonneg := d'.stepsLeft_nonneg
  omega

theorem work_bounded_partlyPaid :
    ∃ d, (play Sample.partlyPaid (Sample.opened 100 0 Sample.twoParts)).storage.escrow = some d ∧
      (workCount (playTrace Sample.partlyPaid (Sample.opened 100 0 Sample.twoParts)) : Int) +
        d.stepsLeft ≤ 2 * Sample.twoParts.milestones.length +
          Sample.twoParts.recurrenceCount.toNat + 1 ∧
      0 ≤ d.stepsLeft ∧
      ∀ tr' s₄, Run (play Sample.partlyPaid (Sample.opened 100 0 Sample.twoParts)) tr' s₄ →
        (workCount tr' : Int) ≤ d.stepsLeft :=
  work_bounded (Sample.opened_created (by decide)) (run_play (by decide))

end StarEscrow.Escrow
