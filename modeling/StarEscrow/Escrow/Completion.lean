/-
  StarEscrow.Escrow.Completion

  A deal that is on can be brought to its end.

  `neededOps` lists what is still to be called of a milestone list: a pending
  milestone needs a submission and an approval, a submitted one an approval.
  While a plain escrow is `Active` its contract holds the rest, so nothing but
  the fee can stop an approval (`ApprovalDue.returns_iff`).  If the fees fit,
  the calls all return, one after the other, and complete the escrow
  (`deal_can_complete`).  If one does not fit, no run completes it
  (`completes_iff`); the way out that remains is a refund.
-/

import StarEscrow.Escrow.Custody
import StarEscrow.Escrow.Fee

namespace StarEscrow.Escrow

open Exec

variable {Address : Type}

/-! ## What is left to do -/

def Milestone.approve (m : Milestone) : Milestone := { m with status := .approved }

theorem Milestone.approve_of_approved {m : Milestone} (h : m.status = .approved) :
    m.approve = m := by
  obtain ⟨description, amount, status⟩ := m
  obtain rfl : status = .approved := h
  rfl

/-- What milestone `i` still needs. -/
def MilestoneStatus.neededOps (i : Nat) : MilestoneStatus → List (Op Address)
  | .pending => [.submitWork i, .approve i]
  | .submitted => [.approve i]
  | .approved => []

/-- What the milestones from number `i` on still need. -/
def neededOps : Nat → List Milestone → List (Op Address)
  | _, [] => []
  | i, m :: ms => m.status.neededOps i ++ neededOps (i + 1) ms

variable [DecidableEq Address] {H : Host Address}

/-- What they still cost. -/
def neededPayouts (H : Host Address) (config : Option (ProtocolConfig Address))
    (token freelancer : Address) (ms : List Milestone) : List (Transfer Address) :=
  ms.flatMap fun m =>
    if m.status = .approved then [] else payouts H config token freelancer m.amount

/-! ## Calls that all return -/

theorem Call.perform_time (c : Call Address) (s : State H) : (c.perform s).time = c.timestamp := by
  unfold Call.perform
  cases h : c.run s with
  | ok s' => exact Call.run_time h
  | error f => rfl

/-- Calls at one time are in order. -/
theorem inOrder_map {t : UInt64} {auth : Address → Bool} {ops : List (Op Address)} {s : State H}
    (h : s.time ≤ t) : InOrder (ops.map (Call.mk t auth)) s = true := by
  induction ops generalizing s with
  | nil => rfl
  | cons op ops ih =>
      rw [InOrder, List.map_cons, Mealy.Machine.All, Bool.and_eq_true, decide_eq_true_eq]
      refine ⟨h, ih ?_⟩
      show (Call.perform _ s).time ≤ t
      rw [Call.perform_time]
      exact UInt64.le_refl t

/-! ## One milestone -/

/-- The deal is on: running, with a sound record whose rest the contract holds. -/
structure Open (s : State H) (d : EscrowData Address) : Prop where
  running : s.paused = false
  stored : s.storage.escrow = some d
  sound : Sound d
  covered : d.rest ≤ s.funds d.token

/-- `cs` all return from `s`, transfer `ts`, and leave the deal on with the record `d`. -/
structure Leads (cs : List (Call Address)) (s : State H) (ts : List (Transfer Address))
    (d : EscrowData Address) : Prop where
  returns : AllReturn cs s = true
  isOpen : Open (play cs s) d
  config : (play cs s).storage.config = s.storage.config
  transfers : (play cs s).transfers = s.transfers ++ ts

namespace Leads

variable {cs cs' : List (Call Address)} {s s' : State H} {ts ts' : List (Transfer Address)}
  {d d' : EscrowData Address}

theorem nil (h : Open s d) : Leads [] s [] d := ⟨rfl, h, rfl, (List.append_nil _).symm⟩

theorem append (h : Leads cs s ts d) (h' : Leads cs' (play cs s) ts' d') :
    Leads (cs ++ cs') s (ts ++ ts') d' where
  returns := by
    rw [AllReturn, Mealy.all_append, Bool.and_eq_true]
    exact ⟨h.returns, h'.returns⟩
  isOpen := by
    rw [play, Mealy.final_append]
    exact h'.isOpen
  config := by
    rw [play, Mealy.final_append, ← h.config]
    exact h'.config
  transfers := by
    rw [play, Mealy.final_append, ← List.append_assoc, ← h.transfers]
    exact h'.transfers

theorem of_run {c : Call Address} (h_run : c.run s = .ok s') (h_open : Open s' d)
    (h_config : s'.storage.config = s.storage.config)
    (h_transfers : s'.transfers = s.transfers ++ ts) :
    Leads [c] s ts d := by
  obtain ⟨h_returns, rfl⟩ := Call.perform_of_run h_run
  refine ⟨?_, h_open, h_config, h_transfers⟩
  rw [AllReturn, Mealy.all_singleton, h_returns]

end Leads

section Parties

variable {s : State H} {d : EscrowData Address} {i : Nat} {m : Milestone} {t : UInt64}
  {auth : Address → Bool}

/-- The freelancer submits a pending milestone. -/
theorem Open.submit (h : Open s d) (h_active : d.status = .active)
    (h_get : d.milestones[i]? = some m) (h_pending : m.status = .pending)
    (h_auth : auth d.freelancer = true) :
    Leads [⟨t, auth, .submitWork i⟩] s [] (d.withSubmitted i m) := by
  have h_run : (Call.mk t auth (.submitWork i)).run s = .ok _ := Call.run_ok.mpr
    (submitWork_ok.mpr ⟨h.running, d, h.stored, h_active, m, h_get, h_pending, h_auth, rfl⟩)
  have h_desc : Descends d (d.withSubmitted i m) := Descends.of_set h_get rfl
  refine .of_run h_run ⟨h.running, rfl, h_desc.sound h.sound, ?_⟩ rfl ?_
  · rw [EscrowData.rest, approvedTotal_withSubmitted h_get h_pending]
    exact h.covered
  · rw [List.append_nil]
    exact State.transfers_publish s [_]

/-- The payer approves a submitted milestone whose fee fits. -/
theorem Open.approve (h_live : H.Live) (h : Open s d) (h_get : d.milestones[i]? = some m)
    (h_submitted : m.status = .submitted) (h_fits : FeeFits s.storage.config m.amount)
    (h_auth : auth d.payer = true) :
    Leads [⟨t, auth, .approve i⟩] s (payouts H s.storage.config d.token d.freelancer m.amount)
      (d.withApproved i m) := by
  have h_due : ApprovalDue s ⟨t, auth, .approve i⟩ i d m :=
    ⟨rfl, h.running, h.stored, h_get, h_submitted, h_auth⟩
  have h_pos := h.sound.positive m (List.mem_of_getElem? h_get)
  -- the rest includes this milestone
  have h_desc : Descends d (d.withApproved i m) := Descends.of_set h_get rfl
  have h_sound := h_desc.sound h.sound
  have h_approved := approvedTotal_withApproved h_get h_submitted
  have h_le := h_sound.approved_le
  have h_covered := h.covered
  rw [withApproved_totalAmount] at h_le
  unfold EscrowData.rest at h_covered
  obtain ⟨s', h_run⟩ := (h_due.returns_iff h_live h.sound (by omega)).mpr h_fits
  have h_funds := Call.approve_funds h_run rfl h.stored h_get h_pos.le
  cases Call.change h_run with
  | @approve j d₀ m₀ s₁ h_op _ h_stored h_get₀ _ _ h_pay h_stores =>
      obtain rfl : i = j := Op.approve.inj h_op
      obtain rfl := Option.some.inj (h.stored.symm.trans h_stored)
      obtain rfl := Option.some.inj (h_get.symm.trans h_get₀)
      have h_config : s'.storage.config = s.storage.config :=
        h_stores.config.trans (congrArg Storage.config h_pay.storage)
      refine .of_run h_run ⟨?_, h_stores.escrow, h_sound, ?_⟩ h_config (h_due.transfers h_run)
      · rw [State.paused, h_config]
        exact h.running
      · show d.totalAmount - approvedTotal (d.withApproved i m).milestones ≤ s'.funds d.token
        omega
  | pausing h_op => exact absurd h_op (by split <;> simp)
  | refund h_op => rcases h_op with ⟨h_op, -⟩ | ⟨h_op, -⟩ <;> cases h_op
  | init h_op | create h_op | submit h_op | release h_op | transferFreelancer h_op
  | transferPayer h_op | extendDeadline h_op => cases h_op

omit [DecidableEq Address] in
theorem withSubmitted_withApproved :
    (d.withSubmitted i m).withApproved i { m with status := .submitted } = d.withApproved i m := by
  simp [EscrowData.withSubmitted, EscrowData.withApproved]

/-- A milestone that is not approved yet is brought to its approval. -/
theorem Open.settle (h_live : H.Live) (h : Open s d) (h_active : d.status = .active)
    (h_get : d.milestones[i]? = some m) (h_open : m.status ≠ .approved)
    (h_fits : FeeFits s.storage.config m.amount) (h_payer : auth d.payer = true)
    (h_freelancer : auth d.freelancer = true) :
    Leads ((m.status.neededOps i).map (Call.mk t auth)) s
      (payouts H s.storage.config d.token d.freelancer m.amount) (d.withApproved i m) := by
  obtain ⟨h_lt, -⟩ := List.getElem?_eq_some_iff.mp h_get
  cases h_status : m.status with
  | approved => exact absurd h_status h_open
  | submitted => exact h.approve h_live h_get h_status h_fits h_payer
  | pending =>
      have h_submit : Leads [⟨t, auth, .submitWork i⟩] s [] (d.withSubmitted i m) :=
        h.submit h_active h_get h_status h_freelancer
      have h_get' : (d.withSubmitted i m).milestones[i]? = some { m with status := .submitted } :=
        List.getElem?_set_self h_lt
      have h_approve := h_submit.isOpen.approve h_live (t := t) h_get' rfl
        (h_submit.config ▸ h_fits) h_payer
      rw [withSubmitted_withApproved, h_submit.config] at h_approve
      exact h_submit.append h_approve

end Parties

/-! ## The whole list -/

theorem map_approve {ms : List Milestone} (h : AllApproved ms) : ms.map Milestone.approve = ms := by
  rw [List.map_congr_left fun m h_m => Milestone.approve_of_approved (h m h_m), List.map_id']

theorem allApproved_append {ms ms' : List Milestone} :
    AllApproved (ms ++ ms') ↔ AllApproved ms ∧ AllApproved ms' := List.forall_mem_append

theorem allApproved_cons {m : Milestone} {ms : List Milestone} :
    AllApproved (m :: ms) ↔ m.status = .approved ∧ AllApproved ms := List.forall_mem_cons

/-- The record once all milestones are approved. -/
def EscrowData.settled (d : EscrowData Address) (ms : List Milestone) : EscrowData Address :=
  { d with milestones := ms.map Milestone.approve, status := .completed }

/-- By induction on the milestones that are left; those before them are approved. -/
theorem Open.settle_rest (h_live : H.Live) {t : UInt64} {auth : Address → Bool}
    (ms : List Milestone) {done : List Milestone} {s : State H} {d : EscrowData Address}
    (h : Open s d) (h_ms : d.milestones = done ++ ms) (h_done : AllApproved done)
    (h_status : d.status = if AllApproved ms then .completed else .active)
    (h_fits : ∀ m ∈ ms, m.status ≠ .approved → FeeFits s.storage.config m.amount)
    (h_payer : auth d.payer = true) (h_freelancer : auth d.freelancer = true) :
    Leads ((neededOps done.length ms).map (Call.mk t auth)) s
      (neededPayouts H s.storage.config d.token d.freelancer ms) (d.settled (done ++ ms)) := by
  induction ms generalizing done s d with
  | nil =>
      have h_settled : d.settled (done ++ []) = d := by
        have h_completed : d.status = .completed := h_status
        rw [List.append_nil] at h_ms ⊢
        rw [EscrowData.settled, map_approve h_done, ← h_ms, ← h_completed]
      rw [h_settled]
      exact .nil h
  | cons m ms ih =>
      have h_fits_rest : ∀ m' ∈ ms, m'.status ≠ .approved → FeeFits s.storage.config m'.amount :=
        fun m' h_m' => h_fits m' (List.mem_cons_of_mem _ h_m')
      by_cases h_m : m.status = .approved
      · -- nothing to do for `m`
        have h_ms₁ : d.milestones = (done ++ [m]) ++ ms := by
          rw [h_ms, List.append_assoc, List.singleton_append]
        have h_done₁ : AllApproved (done ++ [m]) :=
          allApproved_append.mpr ⟨h_done, by simpa [AllApproved] using h_m⟩
        have h_rest := ih h h_ms₁ h_done₁
          (by simpa only [allApproved_cons, h_m, true_and] using h_status) h_fits_rest h_payer
          h_freelancer
        rw [List.length_append, List.length_singleton, List.append_assoc, List.singleton_append]
          at h_rest
        rw [neededOps, h_m, neededPayouts, List.flatMap_cons, if_pos h_m]
        exact h_rest
      · have h_active : d.status = .active := by
          rw [h_status, if_neg fun h_all => h_m (allApproved_cons.mp h_all).1]
        have h_get : d.milestones[done.length]? = some m := by
          rw [h_ms, List.getElem?_append_right (Nat.le_refl _), Nat.sub_self]
          rfl
        have h_first := h.settle h_live (t := t) h_active h_get h_m
          (h_fits m List.mem_cons_self h_m) h_payer h_freelancer
        -- the record after it, with `m` among those that are done
        have h_ms₁ : (d.withApproved done.length m).milestones = (done ++ [m.approve]) ++ ms := by
          rw [withApproved_milestones, h_ms, List.set_append_right _ _ (Nat.le_refl _), Nat.sub_self,
            List.append_assoc]
          rfl
        have h_done₁ : AllApproved (done ++ [m.approve]) :=
          allApproved_append.mpr ⟨h_done, by simp [AllApproved, Milestone.approve]⟩
        have h_status₁ : (d.withApproved done.length m).status =
            if AllApproved ms then .completed else .active := by
          by_cases h_all : AllApproved ms
          · rw [if_pos h_all, withApproved_completed]
            rw [h_ms₁]
            exact allApproved_append.mpr ⟨h_done₁, h_all⟩
          · rw [if_neg h_all, withApproved_status, h_active]
            rw [h_ms₁]
            exact fun h_both => h_all (allApproved_append.mp h_both).2
        have h_rest := ih h_first.isOpen h_ms₁ h_done₁ h_status₁ (h_first.config ▸ h_fits_rest)
          h_payer h_freelancer
        have h_settled : (d.withApproved done.length m).settled ((done ++ [m.approve]) ++ ms) =
            d.settled (done ++ m :: ms) := by
          simp [EscrowData.settled, EscrowData.withApproved, Milestone.approve]
        rw [h_settled, h_first.config, List.length_append, List.length_singleton] at h_rest
        have h_both := h_first.append h_rest
        rw [neededOps, List.map_append, neededPayouts, List.flatMap_cons, if_neg h_m]
        exact h_both

/-! ## Runs -/

theorem Backed.isOpen {s : State H} {d : EscrowData Address} (h : Backed s)
    (h_stored : s.storage.escrow = some d) (h_plain : d.Plain) (h_active : d.status = .active)
    (h_free : s.paused = false) : Open s d :=
  ⟨h_free, h_stored, (h.wellFormed d h_stored).sound, h.covered d h_stored h_plain h_active⟩

/-- **The deal can always be completed.**  In every state that a run from empty storage reaches, if
    a plain escrow is `Active`, the contract runs and the fees of the milestones that are not
    approved fit, then the calls that are still needed all return at any time, one after the other,
    when both parties sign them.  They pay each open milestone in full and complete the escrow. -/
theorem deal_can_complete (h_live : H.Live) {s₀ s : State H} {tr : List (Entry H)}
    {d : EscrowData Address} (h_init : s₀.Initial) (h_funds : ∀ token, 0 ≤ s₀.funds token)
    (h_run : Run s₀ tr s) (h_signs : ∀ e ∈ tr, Silent H.currentContract e)
    (h_stored : s.storage.escrow = some d) (h_plain : d.Plain) (h_active : d.status = .active)
    (h_free : s.paused = false) (h_open : ¬ AllApproved d.milestones)
    (h_fits : ∀ m ∈ d.milestones, m.status ≠ .approved → FeeFits s.storage.config m.amount)
    {t : UInt64} (h_time : s.time ≤ t) {auth : Address → Bool} (h_payer : auth d.payer = true)
    (h_freelancer : auth d.freelancer = true) :
    let calls := (neededOps 0 d.milestones).map (Call.mk t auth)
    InOrder calls s = true ∧ AllReturn calls s = true ∧
      (play calls s).storage.escrow = some (d.settled d.milestones) ∧
      (play calls s).transfers = s.transfers ++
        neededPayouts H s.storage.config d.token d.freelancer d.milestones := by
  have h_backed := h_run.backed h_signs (h_init.backed h_funds)
  have h_status : d.status = if AllApproved d.milestones then .completed else .active := by
    rw [if_neg h_open, h_active]
  have h_leads := (h_backed.isOpen h_stored h_plain h_active h_free).settle_rest h_live (t := t)
    d.milestones (List.nil_append _).symm (fun _ h_m => by cases h_m) h_status h_fits h_payer
    h_freelancer
  exact ⟨inOrder_map h_time, h_leads.returns, h_leads.isOpen.stored, h_leads.transfers⟩

namespace Sample

/-- What is still needed of `twoParts` once its first milestone is paid. -/
def restOfTwoParts : List (Call Nat) :=
  (neededOps 0 ((play firstPaid (start 100 0)).storage.escrow.get rfl).milestones).map
    (Call.mk 4 fun a => a ≠ 0)

end Sample

example : Sample.restOfTwoParts.map (·.op) = [.submitWork 1, .approve 1] := by decide

theorem deal_can_complete_firstPaid :
    let s := play Sample.firstPaid (Sample.start 100 0)
    let d := s.storage.escrow.get rfl
    InOrder Sample.restOfTwoParts s = true ∧ AllReturn Sample.restOfTwoParts s = true ∧
      (play Sample.restOfTwoParts s).storage.escrow = some (d.settled d.milestones) ∧
      (play Sample.restOfTwoParts s).transfers = s.transfers ++
        neededPayouts Sample.host s.storage.config d.token d.freelancer d.milestones :=
  deal_can_complete Sep41.ledger_live (Sample.start_initial 100 0)
    (fun token => show (0 : Int) ≤ if 0 = 1 then 100 else if 0 = 0 then 0 else 0 by decide)
    (run_play (by decide)) (by decide) (Option.some_get _).symm ⟨rfl, rfl⟩ (by decide) (by decide)
    (by decide) (by decide) (by decide) (by decide) (by decide)

/-! ## When no run completes it -/

theorem feeFits_of_feeTerms {s s' : State H} {x : Int} (h : feeTerms s' = feeTerms s) :
    FeeFits s'.storage.config x ↔ FeeFits s.storage.config x := by
  unfold feeTerms at h
  unfold FeeFits
  cases h_c : s.storage.config with
  | none =>
      cases h_c' : s'.storage.config with
      | none => rfl
      | some c' => simp [h_c, h_c'] at h
  | some c =>
      cases h_c' : s'.storage.config with
      | none => simp [h_c, h_c'] at h
      | some c' =>
          rw [h_c, h_c', Prod.mk.injEq] at h
          simp [h.1]

/-- An approval that returned had a fee that fits. -/
theorem Call.approve_fits {c : Call Address} {s s' : State H} {i : Nat} {d : EscrowData Address}
    {m : Milestone} (h : c.run s = .ok s') (h_op : c.op = .approve i)
    (h_stored : s.storage.escrow = some d) (h_get : d.milestones[i]? = some m)
    (h_amount : 0 ≤ m.amount) : FeeFits s.storage.config m.amount := by
  rw [Call.run_ok, h_op] at h
  obtain ⟨-, d', h_d', m', h_get', -, -, net, s₁, h_pay, -⟩ := approve_ok.mp h
  obtain rfl := Option.some.inj (h_stored.symm.trans h_d')
  obtain rfl := Option.some.inj (h_get.symm.trans h_get')
  have h_fits := payFreelancer_fits h_amount h_pay
  exact h_fits

/-- What later records `d'` of a deal, so far `d`, show: a completed one is approved throughout, and
    what was approved since had a fee that fits. -/
structure Progressed (config : Option (ProtocolConfig Address)) (d d' : EscrowData Address) :
    Prop where
  descends : Descends d d'
  completed : d'.status = .completed → AllApproved d'.milestones
  fits : ∀ (i : Nat) (m m' : Milestone), d.milestones[i]? = some m → d'.milestones[i]? = some m' →
    m.status ≠ .approved → m'.status = .approved → FeeFits config m.amount

theorem Progressed.step {s s' : State H} {l : Label Address} {d d₁ d₂ : EscrowData Address}
    (h : Step s l s') (h_stored : s.storage.escrow = some d₁) (h_move : Move s l s' d₁ d₂)
    (h_sound : Sound d) (h_once : d.recurrenceCount = 0)
    (h_before : Progressed s.storage.config d d₁) : Progressed s.storage.config d d₂ where
  descends := h_before.descends.trans h_move.descends
  completed := by
    intro h_completed
    cases h_move with
    | quiet => exact h_before.completed h_completed
    | submit _ _ h_active =>
        have h_kept : d₁.status = .completed := h_completed
        rw [h_active] at h_kept
        cases h_kept
    | approve =>
        by_contra h_not
        rw [withApproved_status h_not] at h_completed
        -- an approved milestone list stays approved, whichever milestone is set
        have h_all := h_before.completed h_completed
        refine h_not fun m' h_m' => ?_
        rcases List.mem_or_eq_of_mem_set h_m' with h_old | rfl
        · exact h_all m' h_old
        · rfl
    | release _ _ h_count => exact absurd (h_before.descends.recurrenceCount.trans h_once) h_count
    | refund _ h_op =>
        rcases h_op with ⟨-, rfl⟩ | ⟨-, rfl⟩ <;> cases h_completed
  fits := by
    intro i m m₂ h_get h_get₂ h_open h_approved
    obtain ⟨h_lt, -⟩ := List.getElem?_eq_some_iff.mp h_get
    rw [← h_before.descends.length_eq] at h_lt
    obtain ⟨m₂', h_get₂', h_m⟩ := h_move.milestone (List.getElem?_eq_getElem h_lt)
    obtain rfl := Option.some.inj (h_get₂.symm.trans h_get₂')
    have h_fits := h_before.fits i m _ h_get (List.getElem?_eq_getElem h_lt) h_open
    generalize h_m₁ : d₁.milestones[i] = m₁ at h_m h_fits
    have h_get₁ : d₁.milestones[i]? = some m₁ := h_m₁ ▸ List.getElem?_eq_getElem h_lt
    cases h_m with
    | same => exact h_fits h_approved
    | submitted => cases h_approved
    | @approved c h_label h_op =>
        subst h_label
        have h_amount : m₁.amount = m.amount := by
          have h_both := congrArg (fun l => l[i]?) h_before.descends.amounts
          simp only [List.getElem?_map, h_get₁, h_get, Option.map_some, Option.some.injEq] at h_both
          exact h_both
        have h_pos := h_sound.positive m (List.mem_of_getElem? h_get)
        cases h with
        | returned _ h_run =>
            rw [← h_amount]
            exact Call.approve_fits h_run h_op h_stored h_get₁ (h_amount ▸ h_pos.le)

theorem Run.progressed {s s' : State H} {tr : List (Entry H)} {d : EscrowData Address}
    (h_run : Run s tr s') (h_config : s.storage.config.isSome)
    (h_stored : s.storage.escrow = some d) (h_sound : Sound d) (h_once : d.recurrenceCount = 0)
    (h_active : d.status = .active) :
    ∃ d', s'.storage.escrow = some d' ∧ Progressed s.storage.config d d' := by
  have h_terms := (h_run.feeTerms h_config).1
  refine h_run.invariant (O := fun e => Escrow.feeTerms e.pre = Escrow.feeTerms s)
    (I := fun t => ∃ d', t.storage.escrow = some d' ∧ Progressed s.storage.config d d') h_terms ?_ ?_
  · rintro e h_e h_step ⟨d₁, h_d₁, h_prog⟩
    obtain ⟨d₂, h_d₂, h_move⟩ := h_step.move h_d₁
    have h_pre : Progressed e.pre.storage.config d d₁ := ⟨h_prog.descends, h_prog.completed,
      fun i m m' h_m h_m' h_open h_approved => (feeFits_of_feeTerms h_e).mpr
        (h_prog.fits i m m' h_m h_m' h_open h_approved)⟩
    have h_post := h_pre.step h_step h_d₁ h_move h_sound h_once
    exact ⟨d₂, h_d₂, h_post.descends, h_post.completed,
      fun i m m' h_m h_m' h_open h_approved => (feeFits_of_feeTerms h_e).mp
        (h_post.fits i m m' h_m h_m' h_open h_approved)⟩
  · refine ⟨d, h_stored, .refl d, fun h_completed => ?_, fun i m m' h_m h_m' h_open h_approved => ?_⟩
    · rw [h_active] at h_completed
      cases h_completed
    · obtain rfl := Option.some.inj (h_m.symm.trans h_m')
      exact absurd h_approved h_open

/-- All approved, no recurrence, not completed. -/
def Stuck (d : EscrowData Address) : Prop :=
  d.recurrenceCount = 0 ∧ AllApproved d.milestones ∧ d.status ≠ .completed

theorem Move.stuck {s s' : State H} {l : Label Address} {d d' : EscrowData Address}
    (h : Move s l s' d d') (h_stuck : Stuck d) : Stuck d' := by
  obtain ⟨h_zero, h_approved, h_not⟩ := h_stuck
  -- there is no pending and no submitted milestone left to move
  cases h with
  | quiet => exact ⟨h_zero, h_approved, h_not⟩
  | submit _ _ _ h_get h_pending =>
      rw [h_approved _ (List.mem_of_getElem? h_get)] at h_pending
      cases h_pending
  | approve _ _ h_get h_submitted =>
      rw [h_approved _ (List.mem_of_getElem? h_get)] at h_submitted
      cases h_submitted
  | release _ _ h_count => exact absurd h_zero h_count
  | refund _ h_op =>
      refine ⟨h_zero, h_approved, ?_⟩
      rcases h_op with ⟨-, rfl⟩ | ⟨-, rfl⟩ <;> exact EscrowStatus.noConfusion

/-- Nothing completes a plain escrow whose milestones are approved from the start. -/
theorem Run.never_completed {s s' : State H} {tr : List (Entry H)} {d : EscrowData Address}
    (h_run : Run s tr s') (h_stored : s.storage.escrow = some d) (h_once : d.recurrenceCount = 0)
    (h_active : d.status = .active) (h_all : AllApproved d.milestones) :
    ∃ d', s'.storage.escrow = some d' ∧ d'.status ≠ .completed := by
  have h_start : Stuck d := ⟨h_once, h_all, fun h_completed => by
    rw [h_active] at h_completed
    cases h_completed⟩
  obtain ⟨d', h_d', -, -, h_not⟩ : ∃ d', s'.storage.escrow = some d' ∧ Stuck d' := by
    refine h_run.deal (O := fun _ => True) (I := fun _ => Stuck) (fun _ _ => trivial) h_stored
      h_start fun _ _ _ h_move h_d₁ => h_move.stuck h_d₁
  exact ⟨d', h_d', h_not⟩

/-- **What decides whether a deal can be completed is the fee alone.**  From a state that a run from
    empty storage reaches, with a plain escrow `Active` and the contract running, some run leads to
    `Completed` exactly when some milestone is not approved yet and the fees of all such fit. -/
theorem completes_iff (h_live : H.Live) {s₀ s : State H} {tr : List (Entry H)}
    {d : EscrowData Address} (h_init : s₀.Initial) (h_funds : ∀ token, 0 ≤ s₀.funds token)
    (h_run : Run s₀ tr s) (h_signs : ∀ e ∈ tr, Silent H.currentContract e)
    (h_stored : s.storage.escrow = some d) (h_plain : d.Plain) (h_active : d.status = .active)
    (h_free : s.paused = false) :
    (∃ tr' s' d', Run s tr' s' ∧ s'.storage.escrow = some d' ∧ d'.status = .completed) ↔
      ¬ AllApproved d.milestones ∧
        ∀ m ∈ d.milestones, m.status ≠ .approved → FeeFits s.storage.config m.amount := by
  have h_wf := (h_run.backed h_signs (h_init.backed h_funds)).wellFormed d h_stored
  constructor
  · rintro ⟨tr', s', d', h_run', h_d', h_completed⟩
    constructor
    · intro h_all
      obtain ⟨d'', h_d'', h_not⟩ := h_run'.never_completed h_stored h_plain.1 h_active h_all
      obtain rfl := Option.some.inj (h_d'.symm.trans h_d'')
      exact h_not h_completed
    · intro m h_m h_open c h_c
      have h_config : s.storage.config.isSome := Option.isSome_of_mem h_c
      obtain ⟨d'', h_d'', h_prog⟩ :=
        h_run'.progressed h_config h_stored h_wf.sound h_plain.1 h_active
      obtain rfl := Option.some.inj (h_d'.symm.trans h_d'')
      obtain ⟨i, h_lt, rfl⟩ := List.mem_iff_getElem.mp h_m
      have h_lt' : i < d'.milestones.length := h_prog.descends.length_eq ▸ h_lt
      have h_all := h_prog.completed h_completed _ (List.getElem_mem h_lt')
      exact h_prog.fits i _ _ (List.getElem?_eq_getElem h_lt) (List.getElem?_eq_getElem h_lt')
        h_open h_all c h_c
  · rintro ⟨h_open, h_fits⟩
    let everybody (_ : Address) : Bool := true
    have h_everybody (a : Address) : everybody a = true := rfl
    obtain ⟨h_order, -, h_end, -⟩ := deal_can_complete h_live h_init h_funds h_run h_signs h_stored
      h_plain h_active h_free h_open h_fits (UInt64.le_refl _) (h_everybody d.payer)
      (h_everybody d.freelancer)
    exact ⟨_, _, _, run_play h_order, h_end, rfl⟩

theorem completes_iff_firstPaid :
    let s := play Sample.firstPaid (Sample.start 100 0)
    let d := s.storage.escrow.get rfl
    (∃ tr' s' d', Run s tr' s' ∧ s'.storage.escrow = some d' ∧ d'.status = .completed) ↔
      ¬ AllApproved d.milestones ∧
        ∀ m ∈ d.milestones, m.status ≠ .approved → FeeFits s.storage.config m.amount :=
  completes_iff Sep41.ledger_live (Sample.start_initial 100 0)
    (fun token => show (0 : Int) ≤ if 0 = 1 then 100 else if 0 = 0 then 0 else 0 by decide)
    (run_play (by decide)) (by decide) (Option.some_get _).symm ⟨rfl, rfl⟩ (by decide) (by decide)

end StarEscrow.Escrow
