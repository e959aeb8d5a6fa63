/-
  StarEscrow.Escrow.Pause

  The pause flag.

  Every operation on the deal checks the flag first, `init` refuses a second
  config, and `pause` and `unpause` ask for the admin, whom nothing replaces.
  So while the contract is paused and its admin authorises nothing, no call
  returns at all.
-/

import StarEscrow.Escrow.Authority

namespace StarEscrow.Escrow

variable {Address : Type} [DecidableEq Address] {H : Host Address}

/-- On a paused contract only the admin's calls return. -/
theorem Change.authorized_of_paused {s s' : State H} {c : Call Address}
    {cfg : ProtocolConfig Address} (h : Change s c s') (h_config : s.storage.config = some cfg)
    (h_paused : cfg.paused = true) : c.auth cfg.admin = true := by
  have h_flag : s.paused = true := by rw [State.paused, h_config, Option.any_some, h_paused]
  -- an operation that checks the flag cannot have returned
  have h_blocked {P : Prop} (h_run : s.paused = false) : P := by
    rw [h_flag] at h_run
    cases h_run
  cases h with
  | init _ h_none =>
      rw [h_config] at h_none
      cases h_none
  | pausing _ h_stored h_auth =>
      obtain rfl := Option.some.inj (h_config.symm.trans h_stored)
      exact h_auth
  | create _ h_run => exact h_blocked h_run
  | submit _ h_run => exact h_blocked h_run
  | approve _ h_run => exact h_blocked h_run
  | release _ h_run => exact h_blocked h_run
  | refund _ h_run => exact h_blocked h_run
  | transferFreelancer _ h_run => exact h_blocked h_run
  | transferPayer _ h_run => exact h_blocked h_run
  | extendDeadline _ h_run => exact h_blocked h_run

/-- A paused contract in `s'` is as it was in `s`, apart from its clock, its time to live and the
    contracts around it. -/
structure Frozen (s s' : State H) : Prop where
  config : s'.storage.config = s.storage.config
  escrow : s'.storage.escrow = s.storage.escrow
  log : s'.log = s.log

/-- Without the admin, a step from a paused state changes nothing. -/
theorem Step.frozen {s s' : State H} {l : Label Address} {cfg : ProtocolConfig Address}
    (h : Step s l s') (h_config : s.storage.config = some cfg) (h_paused : cfg.paused = true)
    (h_silent : Silent cfg.admin ⟨s, l, s'⟩) : Frozen s s' := by
  cases h with
  | aborted => exact ⟨rfl, rfl, rfl⟩
  | outside => exact ⟨rfl, rfl, rfl⟩
  | @returned _ c _ h_run =>
      have h_auth := (Call.change h_run).authorized_of_paused h_config h_paused
      rw [h_silent c rfl] at h_auth
      cases h_auth

/-- Nothing replaces the stored admin. -/
theorem Step.admin {s s' : State H} {l : Label Address} {cfg : ProtocolConfig Address}
    (h : Step s l s') (h_config : s.storage.config = some cfg) :
    ∃ cfg', s'.storage.config = some cfg' ∧ cfg'.admin = cfg.admin := by
  cases h with
  | aborted => exact ⟨cfg, h_config, rfl⟩
  | outside => exact ⟨cfg, h_config, rfl⟩
  | returned _ h_run =>
      rcases (Call.change h_run).config with h_same | h_none | ⟨cfg₁, b, h_old, h_new⟩
      · exact ⟨cfg, h_same.trans h_config, rfl⟩
      · rw [h_config] at h_none
        cases h_none
      · obtain rfl := Option.some.inj (h_config.symm.trans h_old)
        exact ⟨_, h_new, rfl⟩

/-- **Pause freezes everything until the admin lifts it.**  From every state with a stored config
    the admin stays the same over every run; and if the config is paused, runs in which the admin
    authorises nothing leave the config, the record and everything the contract has done outside
    its storage as they were. -/
theorem paused_frozen {s s' : State H} {cfg : ProtocolConfig Address} {tr : List (Entry H)}
    (h_config : s.storage.config = some cfg) (h_run : Run s tr s') :
    (∃ cfg', s'.storage.config = some cfg' ∧ cfg'.admin = cfg.admin) ∧
    (cfg.paused = true → (∀ e ∈ tr, Silent cfg.admin e) →
      s'.storage.config = some cfg ∧ s'.storage.escrow = s.storage.escrow ∧ s'.log = s.log ∧
      s'.transfers = s.transfers ∧ s'.withdrawals = s.withdrawals) := by
  constructor
  · refine h_run.invariant (O := fun _ => True)
      (I := fun t => ∃ cfg', t.storage.config = some cfg' ∧ cfg'.admin = cfg.admin)
      (fun _ _ => trivial) ?_ ⟨cfg, h_config, rfl⟩
    rintro e - h_step ⟨cfg₁, h_config₁, h_admin⟩
    obtain ⟨cfg₂, h_config₂, h_same⟩ := h_step.admin h_config₁
    exact ⟨cfg₂, h_config₂, h_same.trans h_admin⟩
  · intro h_paused h_silent
    have h_frozen : Frozen s s' := by
      refine h_run.invariant (I := fun t => Frozen s t) h_silent ?_ ⟨rfl, rfl, rfl⟩
      intro e h_e h_step h_pre
      have h_next := h_step.frozen (h_pre.config.trans h_config) h_paused h_e
      exact ⟨h_next.config.trans h_pre.config, h_next.escrow.trans h_pre.escrow,
        h_next.log.trans h_pre.log⟩
    refine ⟨h_frozen.config.trans h_config, h_frozen.escrow, h_frozen.log, ?_, ?_⟩
    · exact State.transfers_congr h_frozen.log
    · rw [State.withdrawals, h_frozen.log, State.withdrawals]

namespace Sample

/-- Two milestones under a config; then the admin, who sits at 4, pauses the contract. -/
def pausedDeal : State host :=
  play [call 1 (.init 4 250 3), call 1 (.create twoParts), call 2 .pause] (start 100 0)

/-- A call that everybody but the admin authorises. -/
def callWithoutAdmin (t : UInt64) (op : Op Nat) : Call Nat := ⟨t, fun a => a ≠ 4, op⟩

def withoutAdmin : List (Call Nat) :=
  [callWithoutAdmin 3 .unpause, callWithoutAdmin 4 (.init 1 0 1), callWithoutAdmin 5 (.submitWork 0),
    callWithoutAdmin 6 .cancel, callWithoutAdmin 60 .expire]

end Sample

theorem paused_frozen_withoutAdmin :
    let s' := play Sample.withoutAdmin Sample.pausedDeal
    (∃ cfg', s'.storage.config = some cfg' ∧ cfg'.admin = 4) ∧
      s'.storage.config = some ⟨4, true, 250, 3⟩ ∧
      s'.storage.escrow = Sample.pausedDeal.storage.escrow ∧ s'.log = Sample.pausedDeal.log ∧
      s'.transfers = Sample.pausedDeal.transfers ∧ s'.withdrawals = Sample.pausedDeal.withdrawals :=
  have h_config : Sample.pausedDeal.storage.config = some ⟨4, true, 250, 3⟩ := rfl
  have h_both := paused_frozen h_config (run_play (l := Sample.withoutAdmin) (by decide))
  ⟨h_both.1, h_both.2 rfl (by decide)⟩

end StarEscrow.Escrow
