/-
  StarEscrow.Escrow.Authority

  Who can do what.

    * Without the payer's authorisation a step is one of four (`Unattended`):
      nothing that matters, a submission, a release that is due, or the
      freelancer handing the role over; the second and the last take the
      freelancer's authorisation.
    * The config is written by `init`, once, and by `pause` and `unpause`, which
      keep the fee terms.  `create` does not ask for a config, so the terms are
      fixed from `create` on exactly when `init` came first.
-/

import StarEscrow.Escrow.Creation

namespace StarEscrow.Escrow

variable {Address : Type}

/-- What the payer can rely on: the later record `d'` against `d`. -/
structure Kept (d d' : EscrowData Address) : Prop where
  payer : d'.payer = d.payer
  deadline : d'.deadline = d.deadline
  approved : ∀ (i : Nat) (m : Milestone), d'.milestones[i]? = some m → m.status = .approved →
    ∃ m₀ : Milestone, d.milestones[i]? = some m₀ ∧ m₀.status = .approved
  status : d'.status = .cancelled ∨ d'.status = .expired → d'.status = d.status

theorem Kept.refl (d : EscrowData Address) : Kept d d :=
  ⟨rfl, rfl, fun _ m h_get h_status => ⟨m, h_get, h_status⟩, fun _ => rfl⟩

theorem Kept.trans {d d' d'' : EscrowData Address} (h : Kept d d') (h' : Kept d' d'') :
    Kept d d'' where
  payer := h'.payer.trans h.payer
  deadline := h'.deadline.trans h.deadline
  approved := by
    intro i m h_get h_status
    obtain ⟨m₁, h_get₁, h_status₁⟩ := h'.approved i m h_get h_status
    exact h.approved i m₁ h_get₁ h_status₁
  status := by
    intro h_back
    have h_last := h'.status h_back
    rw [h_last] at h_back ⊢
    exact h.status h_back

variable [DecidableEq Address] {H : Host Address}

/-! ## Steps the payer does not authorise -/

/-- `p` authorises nothing in the step. -/
def Silent (p : Address) (e : Entry H) : Prop := ∀ c ∈ e.label.call?, c.auth p = false

instance (p : Address) (e : Entry H) : Decidable (Silent p e) := by
  unfold Silent
  infer_instance

/-- What a step does to the record `d` without its payer. -/
inductive Unattended (s : State H) (l : Label Address) (s' : State H) (d : EscrowData Address) :
    EscrowData Address → Prop
  | idle (h_transfers : s'.transfers = s.transfers) : Unattended s l s' d d
  | submit {c : Call Address} {i : Nat} {m : Milestone} (h_label : l = .returned c)
      (h_get : d.milestones[i]? = some m) (h_pending : m.status = .pending)
      (h_auth : c.auth d.freelancer = true) (h_transfers : s'.transfers = s.transfers) :
      Unattended s l s' d (d.withSubmitted i m)
  | release {c : Call Address} {k : UInt32} (h_label : l = .returned c)
      (h_op : c.op = .releaseRecurring) : Unattended s l s' d (d.withRelease k c.timestamp)
  | handOver {c : Call Address} {f : Address} (h_label : l = .returned c)
      (h_auth : c.auth d.freelancer = true) (h_transfers : s'.transfers = s.transfers) :
      Unattended s l s' d { d with freelancer := f }

theorem Change.unattended {s s' : State H} {c : Call Address} {d : EscrowData Address}
    (h : Change s c s') (h_stored : s.storage.escrow = some d) (h_silent : c.auth d.payer = false) :
    ∃ d', s'.storage.escrow = some d' ∧ Unattended s (.returned c) s' d d' := by
  have h_same {d' : EscrowData Address} (h' : s.storage.escrow = some d') : d = d' :=
    Option.some.inj (h_stored.symm.trans h')
  -- an operation that asks for the payer cannot have returned
  have h_payer {P : Prop} {d' : EscrowData Address} (h' : s.storage.escrow = some d')
      (h_auth : c.auth d'.payer = true) : P := by
    rw [← h_same h', h_silent] at h_auth
    cases h_auth
  cases h with
  | init _ _ _ _ h_deal | pausing _ _ _ _ h_deal =>
      exact ⟨d, h_deal.escrow.trans h_stored, .idle h_deal.events.transfers⟩
  | create _ _ h_new =>
      rw [h_new] at h_stored
      cases h_stored
  | submit _ _ h_d _ h_get h_pending h_auth h_stores =>
      obtain rfl := h_same h_d
      exact ⟨_, h_stores.escrow, .submit rfl h_get h_pending h_auth h_stores.events.transfers⟩
  | approve _ _ h_d _ _ h_auth => exact h_payer h_d h_auth
  | release h_op _ h_d _ _ _ _ _ _ _ h_stores =>
      obtain rfl := h_same h_d
      exact ⟨_, h_stores.escrow, .release rfl h_op⟩
  | refund _ _ h_d _ h_auth => exact h_payer h_d h_auth
  | transferFreelancer _ _ h_d h_auth h_stores =>
      obtain rfl := h_same h_d
      exact ⟨_, h_stores.escrow, .handOver rfl h_auth h_stores.events.transfers⟩
  | transferPayer _ _ h_d h_auth => exact h_payer h_d h_auth
  | extendDeadline _ _ h_d h_auth => exact h_payer h_d h_auth

theorem Step.unattended {s s' : State H} {l : Label Address} {d : EscrowData Address}
    (h : Step s l s') (h_stored : s.storage.escrow = some d)
    (h_silent : Silent d.payer ⟨s, l, s'⟩) :
    ∃ d', s'.storage.escrow = some d' ∧ Unattended s l s' d d' := by
  cases h with
  | returned _ h_run => exact (Call.change h_run).unattended h_stored (h_silent _ rfl)
  | aborted => exact ⟨d, h_stored, .idle rfl⟩
  | outside => exact ⟨d, h_stored, .idle rfl⟩

theorem Unattended.kept {s s' : State H} {l : Label Address} {d d' : EscrowData Address}
    (h : Unattended s l s' d d') : Kept d d' := by
  cases h with
  | idle => exact .refl d
  | @submit c i m _ h_get =>
      refine ⟨rfl, rfl, ?_, fun _ => rfl⟩
      intro j m' h_get' h_status
      -- the milestone just submitted is not approved, the others are as they were
      obtain ⟨h_lt, -⟩ := List.getElem?_eq_some_iff.mp h_get
      rw [withSubmitted_milestones] at h_get'
      by_cases h_ij : i = j
      · subst h_ij
        rw [List.getElem?_set_self h_lt, Option.some.injEq] at h_get'
        subst h_get'
        cases h_status
      · rw [List.getElem?_set_ne h_ij] at h_get'
        exact ⟨m', h_get', h_status⟩
  | @release c k =>
      refine ⟨rfl, rfl, fun _ m h_get h_status => ⟨m, h_get, h_status⟩, ?_⟩
      intro h_back
      simp only [EscrowData.withRelease] at h_back ⊢
      -- a release can only complete the escrow
      by_cases h_last : d.recurrenceCount ≤ k
      · simp [h_last] at h_back
      · rw [if_neg h_last]
  | handOver => exact ⟨rfl, rfl, fun _ m h_get h_status => ⟨m, h_get, h_status⟩, fun _ => rfl⟩

/-- The state stores a record that keeps what the payer of `d` can rely on. -/
def StoresKept (d : EscrowData Address) (s : State H) : Prop :=
  ∃ d', s.storage.escrow = some d' ∧ Kept d d'

theorem StoresKept.step {d : EscrowData Address} (e : Entry H) (h_silent : Silent d.payer e)
    (h : Step e.pre e.label e.post) (h_pre : StoresKept d e.pre) : StoresKept d e.post := by
  obtain ⟨d₁, h_d₁, h_kept⟩ := h_pre
  rw [← h_kept.payer] at h_silent
  obtain ⟨d₂, h_d₂, h_un⟩ := h.unattended h_d₁ h_silent
  exact ⟨d₂, h_d₂, h_kept.trans h_un.kept⟩

namespace Sample

end Sample

/-- The rate and the collector that payments use; rate 0 without a config. -/
def feeTerms (s : State H) : UInt32 × Option Address :=
  match s.storage.config with
  | none => (0, none)
  | some c => (c.feeBps, some c.feeCollector)

/-- Payments depend on the config through the fee terms only. -/
theorem payouts_of_feeTerms {s s' : State H} (h : feeTerms s' = feeTerms s)
    (token freelancer : Address) (gross : Int) :
    payouts H s'.storage.config token freelancer gross =
      payouts H s.storage.config token freelancer gross := by
  unfold feeTerms at h
  cases h_c : s.storage.config with
  | none =>
      cases h_c' : s'.storage.config with
      | none => rfl
      | some c' =>
          rw [h_c, h_c', Prod.mk.injEq] at h
          cases h.2
  | some c =>
      cases h_c' : s'.storage.config with
      | none =>
          rw [h_c, h_c', Prod.mk.injEq] at h
          cases h.2
      | some c' =>
          rw [h_c, h_c', Prod.mk.injEq, Option.some.injEq] at h
          obtain ⟨h_bps, h_coll⟩ := h
          rw [payouts, payouts, feeOf, feeOf, h_bps, h_coll]

/-- What a returned call does to the config. -/
theorem Change.config {s s' : State H} {c : Call Address} (h : Change s c s') :
    s'.storage.config = s.storage.config ∨ s.storage.config = none ∨
      ∃ cfg b, s.storage.config = some cfg ∧
        s'.storage.config = some { cfg with paused := b } := by
  cases h with
  | init _ h_none => exact .inr (.inl h_none)
  | pausing _ h_stored _ h_config => exact .inr (.inr ⟨_, _, h_stored, h_config⟩)
  | create _ _ _ _ _ _ _ h_config _ _ h_stores => exact .inl (h_stores.config.trans h_config)
  | submit _ _ _ _ _ _ _ h_stores => exact .inl h_stores.config
  | approve _ _ _ _ _ _ h_pay h_stores =>
      exact .inl (h_stores.config.trans (congrArg Storage.config h_pay.storage))
  | release _ _ _ _ _ _ _ _ h_pay _ h_stores =>
      exact .inl (h_stores.config.trans (congrArg Storage.config h_pay.storage))
  | refund _ _ _ _ _ _ h_storage _ h_stores =>
      exact .inl (h_stores.config.trans (congrArg Storage.config h_storage))
  | transferFreelancer _ _ _ _ h_stores => exact .inl h_stores.config
  | transferPayer _ _ _ _ h_stores => exact .inl h_stores.config
  | extendDeadline _ _ _ _ _ _ h_stores => exact .inl h_stores.config

/-- Once a config is stored, no step changes the fee terms. -/
theorem Step.feeTerms {s s' : State H} {l : Label Address} (h : Step s l s')
    (h_config : s.storage.config.isSome) :
    s'.storage.config.isSome ∧ feeTerms s' = Escrow.feeTerms s := by
  cases h with
  | aborted => exact ⟨h_config, rfl⟩
  | outside => exact ⟨h_config, rfl⟩
  | returned _ h_run =>
      -- a returned `init` found no config, `pause` and `unpause` write the flag only
      rcases (Call.change h_run).config with h_same | h_none | ⟨cfg, b, h_old, h_new⟩
      · rw [Escrow.feeTerms, Escrow.feeTerms, h_same]
        exact ⟨h_config, rfl⟩
      · rw [h_none] at h_config
        cases h_config
      · rw [Escrow.feeTerms, Escrow.feeTerms, h_old, h_new]
        exact ⟨rfl, rfl⟩

/-- Over a run that starts with a config stored, they are the same in every state. -/
theorem Run.feeTerms {s s' : State H} {tr : List (Entry H)} (h : Run s tr s')
    (h_config : s.storage.config.isSome) :
    (∀ e ∈ tr, Escrow.feeTerms e.pre = Escrow.feeTerms s) ∧
      Escrow.feeTerms s' = Escrow.feeTerms s := by
  let I (t : State H) : Prop :=
    t.storage.config.isSome ∧ Escrow.feeTerms t = Escrow.feeTerms s
  have h_step (e : Entry H) (_ : True) (h_step : Step e.pre e.label e.post) (h_pre : I e.pre) :
      I e.post := by
    obtain ⟨h_some, h_terms⟩ := h_pre
    obtain ⟨h_some', h_terms'⟩ := h_step.feeTerms h_some
    exact ⟨h_some', h_terms'.trans h_terms⟩
  constructor
  · intro e h_e
    exact (h.invariant_pre (fun _ _ => trivial) h_step ⟨h_config, rfl⟩ e h_e).2
  · exact (h.invariant (fun _ _ => trivial) h_step ⟨h_config, rfl⟩).2

/-- **Fee terms are fixed** for the life of the escrow, over every run, exactly when a config was
    stored before `create`. -/
theorem feeTerms_fixed_iff {s₁ s₂ : State H} {c : Call Address} {a : CreateArgs Address}
    (h_created : Created s₁ c a s₂) :
    (∀ tr s₃, Run s₂ tr s₃ → feeTerms s₃ = feeTerms s₂) ↔ s₁.storage.config.isSome := by
  rw [← h_created.config]
  constructor
  · intro h_fixed
    by_contra h_none
    have h_none : s₂.storage.config = none := by simpa using h_none
    -- anybody may still call `init` and set a rate of 2.5 %
    let late : Call Address := ⟨s₂.time, fun _ => true, .init a.payer 250 a.payer⟩
    have h_run : late.run s₂ = .ok _ := Call.run_ok.mpr (init_ok.mpr ⟨h_none, rfl, rfl⟩)
    have h_late := h_fixed _ _ (.single (.returned (UInt64.le_refl _) h_run))
    rw [feeTerms, feeTerms, h_none, Prod.mk.injEq] at h_late
    have h_rate : (250 : UInt32) = 0 := h_late.1
    exact absurd h_rate (by decide)
  · intro h_config tr s₃ h_run
    exact (h_run.feeTerms h_config).2

theorem feeTerms_fixed_iff_twoParts :
    (∀ tr s₃, Run (Sample.opened 100 0 Sample.twoParts) tr s₃ →
        feeTerms s₃ = feeTerms (Sample.opened 100 0 Sample.twoParts)) ↔
      (Sample.start 100 0).storage.config.isSome :=
  feeTerms_fixed_iff (Sample.opened_created (by decide))

/-- An `init` after `create` sends half of the first milestone to the collector. -/
theorem init_after_create :
    ∃ (s₁ s₂ s₃ : State Sample.host) (c : Call Nat) (a : CreateArgs Nat)
      (tr : List (Entry Sample.host)), Reachable s₁ ∧ Created s₁ c a s₂ ∧ Run s₂ tr s₃ ∧
      feeTerms s₂ = (0, none) ∧ feeTerms s₃ = (5000, some 3) ∧
      s₃.transfers = s₂.transfers ++ [⟨9, 0, 3, 30⟩, ⟨9, 0, 2, 30⟩] :=
  ⟨_, Sample.opened 100 0 Sample.twoParts, _, _, _, _, Sample.start_reachable 100 0,
    Sample.opened_created (by decide),
    run_play (l := [Sample.call 2 (.init 4 5000 3), Sample.call 3 (.submitWork 0),
      Sample.call 4 (.approve 0)]) (by decide), by decide, by decide, by decide⟩

end StarEscrow.Escrow
