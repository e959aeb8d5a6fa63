/-
  StarEscrow.Escrow.Commute

  Work on different milestones commutes.

  `submit_work` and `approve` read and write the whole record, but what they
  need of it and what they change is one milestone, apart from two things they
  share: the balance the approvals draw on, and the status the last approval
  sets.  An operation that is ready on one milestone finds it unapproved, so an
  operation on another milestone cannot complete the escrow before it; and the
  balance covers both amounts in one order exactly when it does in the other.
-/

import StarEscrow.Lib.Reorder
import StarEscrow.Escrow.Fee

namespace StarEscrow.Escrow

open Exec Reorder

/-- The two operations on a milestone. -/
inductive Work
  | submit
  | approve
  deriving DecidableEq, Repr

variable {Address : Type}

namespace Work

def op (w : Work) (i : Nat) : Op Address :=
  match w with
  | submit => .submitWork i
  | approve => .approve i

/-- The status the operation asks the milestone to have. -/
def source : Work → MilestoneStatus
  | submit => .pending
  | approve => .submitted

/-- The status it gives the milestone. -/
def target : Work → MilestoneStatus
  | submit => .submitted
  | approve => .approved

/-- Who has to authorise it. -/
def party (w : Work) (d : EscrowData Address) : Address :=
  match w with
  | submit => d.freelancer
  | approve => d.payer

/-- The record it leaves. -/
def result (w : Work) (d : EscrowData Address) (i : Nat) (m : Milestone) : EscrowData Address :=
  match w with
  | submit => d.withSubmitted i m
  | approve => d.withApproved i m

/-- What it draws from the contract's balance. -/
def cost (w : Work) (m : Milestone) : Int :=
  match w with
  | submit => 0
  | approve => m.amount

end Work

/-! ## The records -/

section Records

variable {d : EscrowData Address} {v w : Work} {i j : Nat} {m m' : Milestone}

@[simp] theorem Work.result_milestones :
    (w.result d i m).milestones = d.milestones.set i { m with status := w.target } := by
  cases w <;> rfl

@[simp] theorem Work.result_freelancer : (w.result d i m).freelancer = d.freelancer := by
  cases w <;> rfl

@[simp] theorem Work.result_token : (w.result d i m).token = d.token := by
  cases w <;> rfl

@[simp] theorem Work.party_result : v.party (w.result d i m) = v.party d := by
  cases v <;> cases w <;> rfl

theorem Work.descends (h_get : d.milestones[i]? = some m) : Descends d (w.result d i m) := by
  cases w with
  | submit => exact .of_set h_get rfl
  | approve => exact .of_set h_get rfl

theorem Work.source_ne : w.source ≠ .approved := by
  cases w <;> decide

theorem Work.result_get_ne (h_ne : i ≠ j) :
    (w.result d i m).milestones[j]? = d.milestones[j]? := by
  rw [result_milestones, List.getElem?_set_ne h_ne]

/-- An operation that does not approve the last milestone keeps the status. -/
theorem Work.result_status_of_not (h : ¬AllApproved (w.result d i m).milestones) :
    (w.result d i m).status = d.status := by
  cases w with
  | submit => rfl
  | approve => exact withApproved_status h

/-- A milestone that some operation is ready for keeps the escrow from completing. -/
theorem Work.result_status (h_ne : i ≠ j) (h_get : d.milestones[j]? = some m')
    (h_source : m'.status = v.source) : (w.result d i m).status = d.status := by
  apply result_status_of_not
  intro h_all
  have h_approved := h_all m' (List.mem_of_getElem? ((result_get_ne h_ne).trans h_get))
  rw [h_source] at h_approved
  exact v.source_ne h_approved

/-- A list of approved milestones was not left by a submission. -/
theorem Work.eq_approve {ms : List Milestone} (h_all : AllApproved ms)
    (h_get : ms[i]? = some { m with status := w.target }) : w = .approve := by
  have h_target := h_all _ (List.mem_of_getElem? h_get)
  cases w with
  | submit => cases h_target
  | approve => rfl

/-- Two operations write the milestones and the status. -/
theorem Work.result_result : v.result (w.result d i m) j m' =
    { d with
      milestones := (v.result (w.result d i m) j m').milestones
      status := (v.result (w.result d i m) j m').status } := by
  cases v <;> cases w <;> rfl

/-- **The records agree.**  Both milestones are marked; if that completes the escrow, both
    operations were approvals, and otherwise neither changed the status. -/
theorem Work.result_comm (h_ne : i ≠ j) (h_i : d.milestones[i]? = some m)
    (h_j : d.milestones[j]? = some m') (h_m : m.status = w.source) (h_m' : m'.status = v.source) :
    v.result (w.result d i m) j m' = w.result (v.result d j m') i m := by
  have h_list : (v.result (w.result d i m) j m').milestones =
      (w.result (v.result d j m') i m).milestones := by
    simp only [result_milestones]
    exact List.set_comm _ _ h_ne
  have h_status : (v.result (w.result d i m) j m').status =
      (w.result (v.result d j m') i m).status := by
    by_cases h_all : AllApproved (w.result (v.result d j m') i m).milestones
    · obtain ⟨h_lt, -⟩ := List.getElem?_eq_some_iff.mp h_i
      obtain ⟨h_lt', -⟩ := List.getElem?_eq_some_iff.mp h_j
      have h_v : v = .approve := by
        apply eq_approve (i := j) (m := m') h_all
        rw [result_get_ne h_ne, result_milestones, List.getElem?_set_self h_lt']
      have h_w : w = .approve := by
        apply eq_approve (i := i) (m := m) h_all
        rw [← h_list, result_get_ne h_ne.symm, result_milestones, List.getElem?_set_self h_lt]
      subst h_v h_w
      have h_all' :
          AllApproved (Work.result .approve (Work.result .approve d i m) j m').milestones := by
        rw [h_list]
        exact h_all
      exact (withApproved_completed h_all').trans (withApproved_completed h_all).symm
    · rw [result_status_of_not h_all, result_status_of_not (by rw [h_list]; exact h_all),
        result_status h_ne h_j h_m', result_status h_ne.symm h_i h_m]
  rw [result_result, h_list, h_status, ← result_result]

end Records

/-! ## The balances -/

variable [DecidableEq Address] {H : Host Address} {s s' : State H} {env : Env Address}

/-- What a list of transfers adds to the balances. -/
def movements : List (Transfer Address) → Address → Address → Int
  | [] => 0
  | t :: ts => movedBalance 0 t.token t.src t.dst t.amount + movements ts

theorem movements_append (ts ts' : List (Transfer Address)) :
    movements (ts ++ ts') = movements ts + movements ts' := by
  induction ts with
  | nil => rw [List.nil_append, movements, zero_add]
  | cons t ts ih => rw [List.cons_append, movements, movements, ih, add_assoc]

theorem transfer_balance {token src dst : Address} {x : Int} {u : Unit}
    (h : transfer token src dst x env s = .ok (u, s')) :
    H.balance s'.world = H.balance s.world + movements [⟨token, src, dst, x⟩] := by
  obtain ⟨w, h_w, rfl⟩ := transfer_ok.mp h
  rw [movements, movements, add_zero]
  exact H.balance_add h_w

/-- A payment adds its payouts to the balances. -/
theorem payFreelancer_balance {token freelancer : Address} {gross net : Int}
    (h : payFreelancer token freelancer gross env s = .ok (net, s')) :
    H.balance s'.world = H.balance s.world +
      movements (payouts H s.storage.config token freelancer gross) := by
  obtain ⟨-, -, s₁, h_fee, h_rest⟩ := payFreelancer_steps h
  obtain ⟨h_zero, rfl⟩ | ⟨c, h_config, h_pos, h_take⟩ := h_fee
  · rw [payouts_of_free h_zero]
    exact transfer_balance h_rest
  · rw [payouts_of_fee h_config h_pos, transfer_balance h_rest, transfer_balance h_take, add_assoc,
      ← movements_append]
    rfl

/-! ## One call -/

/-- An operation on a milestone, and who authorises it. -/
structure Job (Address : Type) where
  auth : Address → Bool
  work : Work
  idx : Nat

/-- The call of the job at a given time. -/
def Job.call (job : Job Address) (t : UInt64) : Call Address := ⟨t, job.auth, job.work.op job.idx⟩

/-- Amounts are sound, and everybody the contract pays is somebody else. -/
structure PaysOutside (s : State H) : Prop where
  sound : ∀ d ∈ s.storage.escrow, Sound d
  freelancer : ∀ d ∈ s.storage.escrow, d.freelancer ≠ H.currentContract
  collector : ∀ c ∈ s.storage.config, c.feeCollector ≠ H.currentContract

/-- The job finds its milestone `m` in the state it asks for, and an approval can be paid. -/
structure Job.Ready (job : Job Address) (s : State H) (d : EscrowData Address) (m : Milestone) :
    Prop where
  running : s.paused = false
  stored : s.storage.escrow = some d
  get : d.milestones[job.idx]? = some m
  source : m.status = job.work.source
  authorized : job.auth (job.work.party d) = true
  active : job.work = .submit → d.status = .active
  paid : job.work = .approve → FeeFits s.storage.config m.amount ∧ m.amount ≤ s.funds d.token

/-- What the operation adds to the balances. -/
def Work.movement (w : Work) (H : Host Address) (config : Option (ProtocolConfig Address))
    (d : EscrowData Address) (m : Milestone) : Address → Address → Int :=
  match w with
  | submit => 0
  | approve => movements (payouts H config d.token d.freelancer m.amount)

/-- What the job does to the state. -/
structure Job.Done (job : Job Address) (s : State H) (d : EscrowData Address) (m : Milestone)
    (s' : State H) : Prop where
  config : s'.storage.config = s.storage.config
  escrow : s'.storage.escrow = some (job.work.result d job.idx m)
  balance : H.balance s'.world =
    H.balance s.world + job.work.movement H s.storage.config d m
  funds : s'.funds d.token = s.funds d.token - job.work.cost m

variable {job : Job Address} {t : UInt64} {d : EscrowData Address} {m : Milestone}

theorem Job.run_ok (h_out : PaysOutside s) (h : (job.call t).run s = .ok s') :
    ∃ d m, job.Ready s d m ∧ job.Done s d m s' := by
  obtain ⟨auth, w, i⟩ := job
  cases w with
  | submit =>
      obtain ⟨h_run, d, h_d, h_active, m, h_get, h_pending, h_auth, rfl⟩ :=
        submitWork_ok.mp (Call.run_ok.mp h)
      refine ⟨d, m, ⟨h_run, h_d, h_get, h_pending, h_auth, fun _ => h_active, ?_⟩,
        ⟨rfl, rfl, (add_zero _).symm, (Int.sub_zero _).symm⟩⟩
      intro h_work
      cases h_work
  | approve =>
      obtain ⟨h_run, d, h_d, m, h_get, h_submitted, h_auth, net, s₁, h_ok, rfl⟩ :=
        approve_ok.mp (Call.run_ok.mp h)
      have h_pos := (h_out.sound d h_d).positive m (List.mem_of_getElem? h_get)
      have h_pay := (payFreelancer_payment h_ok).of_atTime
      have h_config : s₁.storage.config = s.storage.config := congrArg Storage.config h_pay.storage
      have h_balance := payFreelancer_balance h_ok
      have h_fits := payFreelancer_fits h_pos.le h_ok
      obtain ⟨h_covered, h_funds⟩ := h_pay.funds h_pos.le (h_out.freelancer d h_d) h_out.collector
      refine ⟨d, m, ⟨h_run, h_d, h_get, h_submitted, h_auth, ?_, fun _ => ⟨h_fits, h_covered⟩⟩,
        ⟨h_config, rfl, h_balance, h_funds⟩⟩
      intro h_work
      cases h_work

theorem Job.Ready.returns (h_live : H.Live) (h_out : PaysOutside s) (h : job.Ready s d m)
    (t : UInt64) : ∃ s', (job.call t).run s = .ok s' := by
  obtain ⟨auth, w, i⟩ := job
  cases w with
  | submit =>
      exact ⟨_, Call.run_ok.mpr (submitWork_ok.mpr ⟨h.running, d, h.stored, h.active rfl, m, h.get,
        h.source, h.authorized, rfl⟩)⟩
  | approve =>
      obtain ⟨h_fits, h_covered⟩ := h.paid rfl
      have h_due : ApprovalDue s (Job.call ⟨auth, .approve, i⟩ t) i d m :=
        ⟨rfl, h.running, h.stored, h.get, h.source, h.authorized⟩
      exact (h_due.returns_iff h_live (h_out.sound d h.stored) h_covered).mpr h_fits

theorem Job.Done.paysOutside (h_out : PaysOutside s) (h_ready : job.Ready s d m)
    (h : job.Done s d m s') : PaysOutside s' where
  sound := by
    intro d' h_d'
    obtain rfl := Option.some.inj (h.escrow.symm.trans h_d')
    exact (Work.descends h_ready.get).sound (h_out.sound d h_ready.stored)
  freelancer := by
    intro d' h_d'
    obtain rfl := Option.some.inj (h.escrow.symm.trans h_d')
    rw [Work.result_freelancer]
    exact h_out.freelancer d h_ready.stored
  collector := by
    rw [h.config]
    exact h_out.collector

/-! ## Two calls -/

/-- The states store the same and hold the same balances. -/
structure Agree (s s' : State H) : Prop where
  config : s'.storage.config = s.storage.config
  escrow : s'.storage.escrow = s.storage.escrow
  balance : H.balance s'.world = H.balance s.world

theorem Agree.funds (h : Agree s s') (token : Address) : s'.funds token = s.funds token :=
  congrFun (congrFun h.balance token) H.currentContract

theorem paused_congr (h : s'.storage.config = s.storage.config) : s'.paused = s.paused := by
  rw [State.paused, State.paused, h]

theorem Job.Ready.congr (h : job.Ready s d m) (h_agree : Agree s s') : job.Ready s' d m where
  running := (paused_congr h_agree.config).trans h.running
  stored := h_agree.escrow.trans h.stored
  get := h.get
  source := h.source
  authorized := h.authorized
  active := h.active
  paid := by
    rw [h_agree.config, h_agree.funds]
    exact h.paid

variable {job' : Job Address} {m' : Milestone}

/-- A job is as ready after a job on another milestone as before it, but for the funds. -/
theorem Job.Ready.after (h : job.Ready s d m) (h' : job'.Ready s d m') (h_done : job.Done s d m s')
    (h_ne : job.idx ≠ job'.idx)
    (h_funds : job'.work = .approve → job.work.cost m + m'.amount ≤ s.funds d.token) :
    job'.Ready s' (job.work.result d job.idx m) m' where
  running := (paused_congr h_done.config).trans h.running
  stored := h_done.escrow
  get := (Work.result_get_ne h_ne).trans h'.get
  source := h'.source
  authorized := by
    rw [Work.party_result]
    exact h'.authorized
  active := by
    intro h_work
    rw [Work.result_status h_ne h'.get h'.source]
    exact h'.active h_work
  paid := by
    intro h_work
    have h_covered := h_funds h_work
    rw [h_done.config, Work.result_token, h_done.funds]
    exact ⟨(h'.paid h_work).1, by omega⟩

/-- A job that is ready after another one was ready before it. -/
theorem Job.Ready.before (h_out : PaysOutside s) (h : job.Ready s d m) (h_done : job.Done s d m s')
    (h_ne : job.idx ≠ job'.idx) (h' : job'.Ready s' (job.work.result d job.idx m) m') :
    job'.Ready s d m' ∧
      (job'.work = .approve → job.work.cost m + m'.amount ≤ s.funds d.token) := by
  have h_get := (Work.result_get_ne h_ne).symm.trans h'.get
  have h_cost : 0 ≤ job.work.cost m := by
    cases job.work with
    | submit => exact Int.le_refl 0
    | approve => exact ((h_out.sound d h.stored).positive m (List.mem_of_getElem? h.get)).le
  have h_paid (h_work : job'.work = .approve) :
      FeeFits s.storage.config m'.amount ∧ m'.amount ≤ s.funds d.token - job.work.cost m := by
    have h_after := h'.paid h_work
    rw [h_done.config, Work.result_token, h_done.funds] at h_after
    exact h_after
  constructor
  · refine ⟨h.running, h.stored, h_get, h'.source, ?_, fun h_work => ?_, fun h_work => ?_⟩
    · rw [← Work.party_result (v := job'.work) (w := job.work) (i := job.idx) (m := m)]
      exact h'.authorized
    · rw [← Work.result_status (w := job.work) (m := m) h_ne h_get h'.source]
      exact h'.active h_work
    · obtain ⟨h_fits, h_covered⟩ := h_paid h_work
      exact ⟨h_fits, by omega⟩
  · intro h_work
    have h_covered := (h_paid h_work).2
    omega

/-- What an operation adds to the balances does not depend on the other milestones. -/
theorem Work.movement_result (v w : Work) (config : Option (ProtocolConfig Address)) (i : Nat)
    (m m' : Milestone) : v.movement H config (w.result d i m) m' = v.movement H config d m' := by
  cases v with
  | submit => rfl
  | approve => rw [movement, movement, result_token, result_freelancer]

/-- **Swapping two jobs.**  If two jobs on different milestones succeed, so do they in the other
    order, at whatever times, and the end is the same. -/
theorem Job.swap (h_live : H.Live) {s₁ s₂ : State H} {t t' : UInt64} (h_out : PaysOutside s)
    (h_ne : job.idx ≠ job'.idx) (h_first : (job.call t).run s = .ok s₁)
    (h_second : (job'.call t').run s₁ = .ok s₂) (u u' : UInt64) :
    ∃ s₁' s₂', (job'.call u').run s = .ok s₁' ∧ (job.call u).run s₁' = .ok s₂' ∧ Agree s₂ s₂' := by
  obtain ⟨d, m, h_ready, h_done⟩ := Job.run_ok h_out h_first
  obtain ⟨d₁, m', h_ready', h_done'⟩ := Job.run_ok (h_done.paysOutside h_out h_ready) h_second
  obtain rfl := Option.some.inj (h_done.escrow.symm.trans h_ready'.stored)
  -- both were ready at the start, and the funds cover both
  obtain ⟨h_before, h_funds⟩ := h_ready.before h_out h_done h_ne h_ready'
  obtain ⟨s₁', h_run₁⟩ := h_before.returns h_live h_out u'
  obtain ⟨d', n', h_ready₁, h_done₁⟩ := Job.run_ok h_out h_run₁
  obtain rfl := Option.some.inj (h_before.stored.symm.trans h_ready₁.stored)
  obtain rfl := Option.some.inj (h_before.get.symm.trans h_ready₁.get)
  have h_out₁ := h_done₁.paysOutside h_out h_ready₁
  have h_after : job.Ready s₁' (job'.work.result d job'.idx m') m := by
    apply h_before.after h_ready h_done₁ h_ne.symm
    intro h_work
    cases h_work' : job'.work with
    | submit =>
        have h_covered := (h_ready.paid h_work).2
        rw [Work.cost, Int.zero_add]
        exact h_covered
    | approve =>
        have h_covered := h_funds h_work'
        rw [h_work] at h_covered
        simp only [Work.cost] at h_covered ⊢
        omega
  obtain ⟨s₂', h_run₂⟩ := h_after.returns h_live h_out₁ u
  obtain ⟨d₂, n, h_ready₂, h_done₂⟩ := Job.run_ok h_out₁ h_run₂
  obtain rfl := Option.some.inj (h_after.stored.symm.trans h_ready₂.stored)
  obtain rfl := Option.some.inj (h_after.get.symm.trans h_ready₂.get)
  refine ⟨s₁', s₂', h_run₁, h_run₂, ?_, ?_, ?_⟩
  · rw [h_done₂.config, h_done₁.config, h_done'.config, h_done.config]
  · rw [h_done₂.escrow, h_done'.escrow,
      Work.result_comm h_ne h_ready.get h_before.get h_ready.source h_before.source]
  · rw [h_done₂.balance, h_done₁.balance, h_done'.balance, h_done.balance, h_done₁.config,
      h_done.config, Work.movement_result, Work.movement_result, add_right_comm]

/-! ## Any number of calls -/

theorem Agree.refl (s : State H) : Agree s s := ⟨rfl, rfl, rfl⟩

theorem Agree.trans {s'' : State H} (h : Agree s s') (h' : Agree s' s'') : Agree s s'' :=
  ⟨h'.config.trans h.config, h'.escrow.trans h.escrow, h'.balance.trans h.balance⟩

theorem PaysOutside.congr (h : PaysOutside s) (h_agree : Agree s s') : PaysOutside s' where
  sound := by rw [h_agree.escrow]; exact h.sound
  freelancer := by rw [h_agree.escrow]; exact h.freelancer
  collector := by rw [h_agree.config]; exact h.collector

/-- A job that succeeds in a state succeeds, at any time, in one that agrees with it. -/
theorem Job.congr (h_live : H.Live) {s₁ : State H} {t : UInt64} (h_out : PaysOutside s)
    (h_agree : Agree s s') (h_run : (job.call t).run s = .ok s₁) (u : UInt64) :
    ∃ s₁', (job.call u).run s' = .ok s₁' ∧ Agree s₁ s₁' := by
  obtain ⟨d, m, h_ready, h_done⟩ := Job.run_ok h_out h_run
  have h_out' := h_out.congr h_agree
  have h_ready' := h_ready.congr h_agree
  obtain ⟨s₁', h_run'⟩ := h_ready'.returns h_live h_out' u
  obtain ⟨d', m', h_ready₁, h_done'⟩ := Job.run_ok h_out' h_run'
  obtain rfl := Option.some.inj (h_ready'.stored.symm.trans h_ready₁.stored)
  obtain rfl := Option.some.inj (h_ready'.get.symm.trans h_ready₁.get)
  refine ⟨s₁', h_run', ?_, ?_, ?_⟩
  · rw [h_done'.config, h_agree.config, h_done.config]
  · rw [h_done'.escrow, h_done.escrow]
  · rw [h_done'.balance, h_agree.balance, h_agree.config, h_done.balance]

/-- A job at a given time succeeds. -/
def JobStep (b : UInt64 × Job Address) (s s' : State H) : Prop :=
  (b.2.call b.1).run s = .ok s'

theorem jobs_commuting (h_live : H.Live) :
    Commuting (σ := State H) JobStep Prod.snd Job.idx PaysOutside Agree where
  refl := Agree.refl
  trans := Agree.trans
  keeps := by
    intro b s s' h_out h_step
    obtain ⟨d, m, h_ready, h_done⟩ := Job.run_ok h_out h_step
    exact h_done.paysOutside h_out h_ready
  transfer := PaysOutside.congr
  congr := by
    rintro ⟨t, job⟩ ⟨u, job'⟩ s s' s₁ h_out h_agree h_lab h_step
    obtain rfl : job = job' := h_lab
    exact Job.congr h_live h_out h_agree h_step u
  swap := by
    rintro ⟨t, job⟩ ⟨t', job'⟩ s s₁ s₂ h_out h_ne h_first h_second
    exact Job.swap h_live h_out h_ne h_first h_second t t'

/-- **Work on different milestones commutes.**  In every reachable state in which the contract pays
    others, two successful operations on different milestones succeed in the other order as well,
    and leave the same record and the same balances; and so does every list of successful
    operations in every order that keeps the order of the operations on each milestone. -/
theorem milestone_work_commutes (h_live : H.Live) (h_reach : Reachable s)
    (h_free : ∀ d ∈ s.storage.escrow, d.freelancer ≠ H.currentContract)
    (h_coll : ∀ c ∈ s.storage.config, c.feeCollector ≠ H.currentContract) :
    (∀ (i j : Nat) (w v : Work) (auth auth' : Address → Bool) (t t' u u' : UInt64)
        (s₁ s₂ : State H), i ≠ j →
      (⟨t, auth, w.op i⟩ : Call Address).run s = .ok s₁ →
      (⟨t', auth', v.op j⟩ : Call Address).run s₁ = .ok s₂ →
      ∃ s₁' s₂', (⟨u', auth', v.op j⟩ : Call Address).run s = .ok s₁' ∧
        (⟨u, auth, w.op i⟩ : Call Address).run s₁' = .ok s₂' ∧
        s₂'.storage.escrow = s₂.storage.escrow ∧ H.balance s₂'.world = H.balance s₂.world) ∧
    (∀ (l l' : List (UInt64 × Job Address)) (s₁ : State H),
      (∀ i, (l.map Prod.snd).filter (·.idx = i) = (l'.map Prod.snd).filter (·.idx = i)) →
      Steps JobStep l s s₁ →
      ∃ s₁', Steps JobStep l' s s₁' ∧
        s₁'.storage.escrow = s₁.storage.escrow ∧ H.balance s₁'.world = H.balance s₁.world) := by
  have h_out : PaysOutside s := ⟨fun d h_d => (h_reach.wellFormed h_d).sound, h_free, h_coll⟩
  constructor
  · intro i j w v auth auth' t t' u u' s₁ s₂ h_ne h_first h_second
    have h_idx : (Job.mk auth w i).idx ≠ (Job.mk auth' v j).idx := h_ne
    obtain ⟨s₁', s₂', h_first', h_second', h_agree⟩ :=
      Job.swap h_live h_out h_idx h_first h_second u u'
    exact ⟨s₁', s₂', h_first', h_second', h_agree.escrow, h_agree.balance⟩
  · intro l l' s₁ h_order h_steps
    obtain ⟨s₁', h_steps', h_agree⟩ := (jobs_commuting h_live).reorder h_out h_order h_steps
    exact ⟨s₁', h_steps', h_agree.escrow, h_agree.balance⟩

namespace Sample

/-- Two milestones under a rate of 25 %, the first submitted. -/
def oneSubmitted : State host :=
  play [call 1 (.init 4 2500 3), call 1 (.create twoParts), call 2 (.submitWork 0)] (start 100 0)

end Sample

/-- At this state the first milestone is approved and the second submitted, in either order. -/
theorem milestone_work_commutes_oneSubmitted :
    let s := Sample.oneSubmitted
    (∀ (i j : Nat) (w v : Work) (auth auth' : Nat → Bool) (t t' u u' : UInt64)
        (s₁ s₂ : State Sample.host), i ≠ j →
      (⟨t, auth, w.op i⟩ : Call Nat).run s = .ok s₁ →
      (⟨t', auth', v.op j⟩ : Call Nat).run s₁ = .ok s₂ →
      ∃ s₁' s₂', (⟨u', auth', v.op j⟩ : Call Nat).run s = .ok s₁' ∧
        (⟨u, auth, w.op i⟩ : Call Nat).run s₁' = .ok s₂' ∧
        s₂'.storage.escrow = s₂.storage.escrow ∧
        Sample.host.balance s₂'.world = Sample.host.balance s₂.world) ∧
    (∀ (l l' : List (UInt64 × Job Nat)) (s₁ : State Sample.host),
      (∀ i, (l.map Prod.snd).filter (·.idx = i) = (l'.map Prod.snd).filter (·.idx = i)) →
      Steps JobStep l s s₁ →
      ∃ s₁', Steps JobStep l' s s₁' ∧ s₁'.storage.escrow = s₁.storage.escrow ∧
        Sample.host.balance s₁'.world = Sample.host.balance s₁.world) :=
  milestone_work_commutes Sep41.ledger_live
    ⟨_, _, Sample.start_initial 100 0, run_play (by decide)⟩ (by decide) (by decide)

end StarEscrow.Escrow
