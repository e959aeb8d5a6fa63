/-
  StarEscrow.Escrow.History

  The statuses of the milestones against what happened since `create`.

  Every later operation writes a status only together with the event it stands
  for, so the statuses record real events as soon as they do so in the record
  `create` builds.  That record has the statuses the payer passed, and only
  `Pending` ones record what happened by then: nothing.
-/

import StarEscrow.Escrow.Lifecycle

namespace StarEscrow.Escrow

variable {Address : Type} [DecidableEq Address] {H : Host Address}

/-- The step is a `submit_work i`, authorised by the freelancer of the time, that returned. -/
def Submits (i : Nat) (e : Entry H) : Prop :=
  ∃ c d, e.label = .returned c ∧ c.op = .submitWork i ∧ e.pre.storage.escrow = some d ∧
    c.auth d.freelancer = true

/-- Every submitted milestone was submitted, every approved one was submitted, then approved and
    paid, among the steps `tr`. -/
def Recorded (tr : List (Entry H)) (d : EscrowData Address) : Prop :=
  ∀ i m, d.milestones[i]? = some m →
    (m.status = .submitted → ∃ e ∈ tr, Submits i e) ∧
    (m.status = .approved → ∃ e e', [e, e'].Sublist tr ∧ Submits i e ∧
      PaysMilestone i m.amount e')

/-- The gross amount the step paid, if it was an approval that returned. -/
def approvalPaid (token : Address) (e : Entry H) : Int :=
  if e.label.approves then e.post.paidOut token - e.pre.paidOut token else 0

/-- What `cancel` and `expire` count as released. -/
def releasedAmount (s : State H) : Int :=
  (s.storage.escrow.map fun d => approvedTotal d.milestones).getD 0

theorem releasedAmount_eq {s : State H} {d : EscrowData Address}
    (h : s.storage.escrow = some d) : releasedAmount s = approvedTotal d.milestones := by
  rw [releasedAmount, h, Option.map_some, Option.getD_some]

/-! ## One step -/

theorem Move.recorded {e : Entry H} {d d' : EscrowData Address} {tr : List (Entry H)}
    (h : Move e.pre e.label e.post d d') (h_sound : Sound d)
    (h_stored : e.pre.storage.escrow = some d) (h_inv : Recorded tr d) :
    Recorded (tr ++ [e]) d' := by
  intro i m' h_get'
  obtain ⟨h_lt', -⟩ := List.getElem?_eq_some_iff.mp h_get'
  have h_lt : i < d.milestones.length := by
    rw [← h.descends.length_eq]
    exact h_lt'
  have h_get := List.getElem?_eq_getElem h_lt
  obtain ⟨m₁, h_get₁, h_mm⟩ := h.milestone h_get
  obtain rfl : m₁ = m' := Option.some.inj (h_get₁.symm.trans h_get')
  obtain ⟨h_sub, h_app⟩ := h_inv i _ h_get
  cases h_mm with
  | same =>
      -- what `tr` shows, `tr ++ [e]` shows
      constructor
      · intro h_status
        obtain ⟨e', h_e', h_ev⟩ := h_sub h_status
        exact ⟨e', List.mem_append_left _ h_e', h_ev⟩
      · intro h_status
        obtain ⟨e₁, e₂, h_order, h_evs⟩ := h_app h_status
        exact ⟨e₁, e₂, h_order.trans (List.sublist_append_left tr [e]), h_evs⟩
  | @submitted c h_label h_op _ h_auth =>
      constructor
      · intro _
        exact ⟨e, List.mem_append_right _ (List.mem_singleton_self e), c, d, h_label, h_op,
          h_stored, h_auth⟩
      · intro h_status
        cases h_status
  | @approved c h_label h_op h_submitted h_auth h_paid =>
      constructor
      · intro h_status
        cases h_status
      · intro _
        -- the submission lies in `tr`, the approval is the new step
        obtain ⟨e₁, h_e₁, h_ev⟩ := h_sub h_submitted
        have h_pos := h_sound.positive _ (List.getElem_mem h_lt)
        have h_order : [e₁, e].Sublist (tr ++ [e]) :=
          (List.singleton_sublist.mpr h_e₁).append (List.Sublist.refl [e])
        exact ⟨e₁, e, h_order, h_ev, c, d, h_label, h_op, h_stored, h_auth, h_paid.transfers,
          h_paid.paidOut h_pos.le⟩

/-- A step either is no approval and keeps the sums over the approved amounts, or it approves and
    pays one more amount. -/
theorem Move.approval {s s' : State H} {l : Label Address} {d d' : EscrowData Address}
    (h : Move s l s' d d') :
    l.approves = false ∧ (∀ w, approvedSum w d'.milestones = approvedSum w d.milestones) ∨
      ∃ m ∈ d.milestones, l.approves = true ∧ Paid s s' d.token d.freelancer m.amount ∧
        ∀ w, approvedSum w d'.milestones = approvedSum w d.milestones + w m.amount := by
  cases h with
  | quiet h_quiet =>
      left
      refine ⟨?_, fun _ => rfl⟩
      cases l with
      | returned c =>
          have h_books := h_quiet c rfl
          by_contra h_app
          rw [Bool.not_eq_false] at h_app
          rw [Op.onBooks_of_isApprove h_app] at h_books
          cases h_books
      | aborted | outside => rfl
  | submit h_label h_op _ h_get h_pending =>
      subst h_label
      left
      refine ⟨?_, fun w => approvedSum_submitted w h_get h_pending⟩
      rw [Label.approves, h_op]
      rfl
  | @approve c i m h_label h_op h_get h_submitted _ _ h_paid =>
      subst h_label
      right
      refine ⟨m, List.mem_of_getElem? h_get, ?_, h_paid,
        fun w => approvedSum_approved w h_get h_submitted⟩
      rw [Label.approves, h_op]
      rfl
  | release h_label h_op =>
      subst h_label
      left
      refine ⟨?_, fun _ => rfl⟩
      rw [Label.approves, h_op]
      rfl
  | refund h_label h_op =>
      subst h_label
      left
      refine ⟨?_, fun _ => rfl⟩
      rcases h_op with ⟨h_op, -⟩ | ⟨h_op, -⟩ <;> rw [Label.approves, h_op] <;> rfl

/-! ## Whole runs -/

/-- Statuses that record the history so far keep recording it. -/
theorem Run.recorded {s s' : State H} {d : EscrowData Address} {tr : List (Entry H)}
    (h : Run s tr s') (h_stored : s.storage.escrow = some d) (h_wf : WellFormed d)
    (h_init : Recorded (H := H) [] d) : ∃ d', s'.storage.escrow = some d' ∧ Recorded tr d' := by
  have h_hist := h.dealHistory (P := fun tr _ d => WellFormed d ∧ Recorded tr d) h_stored
    ⟨h_wf, h_init⟩ ?_
  · obtain ⟨d', h_d', -, h_rec⟩ := h_hist
    exact ⟨d', h_d', h_rec⟩
  · intro tr e d₁ d₂ h_d₁ h_move ⟨h_wf₁, h_rec⟩
    exact ⟨h_move.wellFormed h_wf₁, h_move.recorded h_wf₁.sound h_d₁ h_rec⟩

/-- **Approval rule.**  When an approval of amount `x` costs `w x` and every other step nothing, the
    sum of `w` over the approved amounts grows by the cost of the run. -/
theorem Run.approvedSum_eq {s s' : State H} {d d' : EscrowData Address} {tr : List (Entry H)}
    (h : Run s tr s') (h_stored : s.storage.escrow = some d)
    (h_stored' : s'.storage.escrow = some d') (h_sound : Sound d)
    (w : Int → Int) (cost : Entry H → Int)
    (h_other : ∀ e ∈ tr, e.label.approves = false → cost e = 0)
    (h_paid : ∀ e ∈ tr, ∀ f gross, e.label.approves = true → 0 ≤ gross →
      Paid e.pre e.post d.token f gross → cost e = w gross) :
    approvedSum w d'.milestones = approvedSum w d.milestones + (tr.map cost).sum := by
  let sum (t : State H) : Int :=
    (t.storage.escrow.map fun d => approvedSum w d.milestones).getD 0
  have h_sum {t : State H} {d : EscrowData Address} (h_d : t.storage.escrow = some d) :
      sum t = approvedSum w d.milestones := by
    show (t.storage.escrow.map _).getD 0 = _
    rw [h_d, Option.map_some, Option.getD_some]
  rw [← h_sum h_stored', ← h_sum h_stored]
  refine h.sum_eq fun e h_e => ?_
  obtain ⟨d₁, d₂, h_d₁, h_d₂, h_desc, h_move⟩ := h.moves h_stored e h_e
  rw [h_sum h_d₁, h_sum h_d₂]
  rcases h_move.approval with ⟨h_not, h_same⟩ | ⟨m, h_mem, h_app, h_pay, h_more⟩
  · rw [h_same, h_other e h_e h_not, Int.add_zero]
  · have h_pos := (h_desc.sound h_sound).positive m h_mem
    rw [h_desc.token] at h_pay
    rw [h_more, h_paid e h_e _ _ h_app h_pos.le h_pay]

/-- The released amount grows by what approvals pay. -/
theorem Run.releasedAmount {s s' : State H} {d : EscrowData Address} {tr : List (Entry H)}
    (h : Run s tr s') (h_stored : s.storage.escrow = some d) (h_wf : WellFormed d) :
    releasedAmount s' = releasedAmount s + (tr.map (approvalPaid d.token)).sum := by
  obtain ⟨d', h_stored', -⟩ := h.descends h_stored
  rw [releasedAmount_eq h_stored, releasedAmount_eq h_stored', ← approvedSum_id, ← approvedSum_id]
  refine h.approvedSum_eq h_stored h_stored' h_wf.sound _ _ ?_ ?_
  · intro e _ h_not
    rw [approvalPaid, h_not, if_neg Bool.false_ne_true]
  · intro e _ f gross h_approves h_nonneg h_paid
    have h_out := h_paid.paidOut h_nonneg
    rw [approvalPaid, if_pos h_approves]
    omega

/-- **Milestone statuses record real events** in every run after `create`, and the released amount
    is what approvals paid, exactly when all milestones were created `Pending`. -/
theorem recorded_iff_pending {s₁ s₂ : State H} {c : Call Address} {a : CreateArgs Address}
    (h_created : Created s₁ c a s₂) :
    (∀ tr s₃, Run s₂ tr s₃ → ∃ d, s₃.storage.escrow = some d ∧ Recorded tr d ∧
        approvedTotal d.milestones = (tr.map (approvalPaid a.token)).sum) ↔
      ∀ m ∈ a.milestones, m.status = .pending := by
  constructor
  · intro h_all m h_mem
    obtain ⟨d, h_d, h_rec, -⟩ := h_all [] s₂ .refl
    obtain rfl : a.stored c.timestamp = d := Option.some.inj (h_created.stored.symm.trans h_d)
    obtain ⟨i, h_get⟩ := List.getElem?_of_mem h_mem
    obtain ⟨h_sub, h_app⟩ := h_rec i m h_get
    -- nothing happened yet, so neither status can be recorded
    cases h_status : m.status with
    | pending => rfl
    | submitted =>
        obtain ⟨e, h_e, -⟩ := h_sub h_status
        exact absurd h_e List.not_mem_nil
    | approved =>
        obtain ⟨e, e', h_order, -⟩ := h_app h_status
        exact absurd h_order.length_le (by simp)
  · intro h_pending tr s₃ h_run
    have h_wf := h_created.wellFormed
    have h_init : Recorded (H := H) [] (a.stored c.timestamp) := by
      intro i m h_get
      have h_status := h_pending m (List.mem_of_getElem? h_get)
      constructor <;>
      · intro h_other
        rw [h_status] at h_other
        cases h_other
    obtain ⟨d, h_d, h_rec⟩ := h_run.recorded h_created.stored h_wf h_init
    have h_sum := h_run.releasedAmount h_created.stored h_wf
    have h_none : ∀ m ∈ (a.stored c.timestamp).milestones, m.status ≠ .approved := by
      intro m h_mem h_approved
      rw [h_pending m h_mem] at h_approved
      cases h_approved
    -- the sum starts at zero, because nothing was created approved
    rw [releasedAmount_eq h_d, releasedAmount_eq h_created.stored, approvedTotal_of_none h_none,
      Int.zero_add] at h_sum
    exact ⟨d, h_d, h_rec, h_sum⟩

theorem recorded_iff_pending_twoParts :
    (∀ tr s₃, Run (Sample.opened 100 0 Sample.twoParts) tr s₃ → ∃ d,
        s₃.storage.escrow = some d ∧ Recorded tr d ∧
        approvedTotal d.milestones = (tr.map (approvalPaid 9)).sum) ↔
      ∀ m ∈ Sample.twoParts.milestones, m.status = .pending :=
  recorded_iff_pending (Sample.opened_created (by decide))

/-- Right after a `create` with an `Approved` milestone of 60, the released amount is 60 although
    nothing was submitted, approved or paid. -/
theorem created_approved :
    ∃ (s₁ s₂ : State Sample.host) (c : Call Nat) (a : CreateArgs Nat) (d : EscrowData Nat),
      Reachable s₁ ∧ Created s₁ c a s₂ ∧ s₂.storage.escrow = some d ∧
      approvedTotal d.milestones = 60 ∧ s₂.paidOut 9 = 0 ∧ ¬Recorded (H := Sample.host) [] d :=
  ⟨Sample.start 100 0, _, _, Sample.deal [⟨"", 60, .approved⟩, ⟨"", 40, .pending⟩] 0 0, _,
    Sample.start_reachable 100 0, Sample.opened_created (by decide), rfl, by decide, by decide,
    fun h_rec => by
      obtain ⟨e, e', h_order, -⟩ := (h_rec 0 ⟨"", 60, .approved⟩ rfl).2 rfl
      exact absurd h_order.length_le (by simp)⟩

end StarEscrow.Escrow
