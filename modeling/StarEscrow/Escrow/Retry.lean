/-
  StarEscrow.Escrow.Retry

  Sending a call again after it has returned.

  A client that does not learn whether its transaction went through sends it
  once more, and anybody may replay an operation that needs no signature.  The
  guards make this harmless: what a call writes either shuts its own guard (a
  status, a counter, a stored record), or is what the second call would write
  again (a role, the pause flag).  `release_recurring` shuts its guard until
  the interval has passed.
-/

import StarEscrow.Escrow.Creation

namespace StarEscrow.Escrow

open Exec

variable {Address : Type} [DecidableEq Address] {H : Host Address}

/-- `s'` stores and paid what `s` did; the events and the time to live aside. -/
structure Unmoved (s s' : State H) : Prop where
  config : s'.storage.config = s.storage.config
  escrow : s'.storage.escrow = s.storage.escrow
  world : s'.world = s.world
  transfers : s'.transfers = s.transfers

/-- The same operation, no sooner than a release is due again. -/
structure Repeats (s : State H) (c c' : Call Address) : Prop where
  op : c'.op = c.op
  early : c.op = .releaseRecurring → ∀ d ∈ s.storage.escrow,
    c'.timestamp.toNat < c.timestamp.toNat + d.interval.toNat

section

variable {s s' s'' : State H} {c c' : Call Address}

/-- A call that finds a record stored is no `create`. -/
theorem Call.create_refused {a : CreateArgs Address} (h_op : c.op = .create a)
    (h_stored : s.storage.escrow.isSome) : ∀ s', c.run s ≠ .ok s' := by
  intro s' h_run
  rw [Call.run_ok, h_op] at h_run
  obtain ⟨-, h_none, -⟩ := create_ok.mp h_run
  rw [State.atTime_storage] at h_none
  rw [h_none] at h_stored
  cases h_stored

/-- A call that finds the escrow closed is no refund and no release. -/
theorem Call.closed_refused {d : EscrowData Address}
    (h_op : c.op = .cancel ∨ c.op = .expire ∨ c.op = .releaseRecurring)
    (h_stored : s.storage.escrow = some d) (h_closed : d.status ≠ .active) :
    ∀ s', c.run s ≠ .ok s' := by
  intro s' h_run
  have h_active : d.status = .active := by
    rw [Call.run_ok] at h_run
    rcases h_op with h_op | h_op | h_op <;> rw [h_op] at h_run
    · obtain ⟨-, d', h_d', h_active, -⟩ := cancel_ok.mp h_run
      obtain rfl := Option.some.inj (h_stored.symm.trans h_d')
      exact h_active
    · obtain ⟨-, d', h_d', h_active, -⟩ := expire_ok.mp h_run
      obtain rfl := Option.some.inj (h_stored.symm.trans h_d')
      exact h_active
    · obtain ⟨-, d', h_d', -, -, h_active, -⟩ := releaseRecurring_ok.mp h_run
      obtain rfl := Option.some.inj (h_stored.symm.trans h_d')
      exact h_active
  exact h_closed h_active

/-- If both calls return, the second one writes what is there already. -/
theorem Call.again (h : c.run s = .ok s') (h' : c'.run s' = .ok s'') (h_rep : Repeats s c c') :
    Unmoved s' s'' := by
  have h_ret := Call.run_ok.mp h'
  rw [h_rep.op] at h_ret
  cases Call.change h with
  | @init admin feeCollector feeBps h_op _ _ h_config =>
      rw [h_op] at h_ret
      obtain ⟨h_none, -⟩ := init_ok.mp h_ret
      rw [State.atTime_storage, h_config] at h_none
      cases h_none
  | @pausing cfg b h_op _ _ h_config =>
      -- the flag already has the value it is given
      rw [h_op] at h_ret
      cases b with
      | true =>
          obtain ⟨cfg', h_cfg', -, rfl⟩ := pause_ok.mp h_ret
          obtain rfl := Option.some.inj (h_config.symm.trans h_cfg')
          exact ⟨h_config.symm, rfl, rfl, State.transfers_push_event _ _⟩
      | false =>
          obtain ⟨cfg', h_cfg', -, rfl⟩ := unpause_ok.mp h_ret
          obtain rfl := Option.some.inj (h_config.symm.trans h_cfg')
          exact ⟨h_config.symm, rfl, rfl, State.transfers_push_event _ _⟩
  | @create a s₁ w h_op _ _ _ _ _ _ _ _ _ h_stores =>
      refine absurd h' (Call.create_refused (h_rep.op.trans h_op) ?_ s'')
      rw [h_stores.escrow]
      rfl
  | @submit i d m h_op _ _ _ h_get _ _ h_stores =>
      rw [h_op] at h_ret
      obtain ⟨-, d', h_d', -, m', h_get', h_pending, -⟩ := submitWork_ok.mp h_ret
      obtain rfl := Option.some.inj (h_stores.escrow.symm.trans h_d')
      obtain ⟨h_lt, -⟩ := List.getElem?_eq_some_iff.mp h_get
      rw [withSubmitted_milestones, List.getElem?_set_self h_lt] at h_get'
      obtain rfl := Option.some.inj h_get'
      cases h_pending
  | @approve i d m s₁ h_op _ _ h_get _ _ _ h_stores =>
      rw [h_op] at h_ret
      obtain ⟨-, d', h_d', m', h_get', h_submitted, -⟩ := approve_ok.mp h_ret
      obtain rfl := Option.some.inj (h_stores.escrow.symm.trans h_d')
      obtain ⟨h_lt, -⟩ := List.getElem?_eq_some_iff.mp h_get
      rw [withApproved_milestones, List.getElem?_set_self h_lt] at h_get'
      obtain rfl := Option.some.inj h_get'
      cases h_submitted
  | @release d k s₁ h_op _ h_stored _ _ _ _ _ _ _ h_stores =>
      -- the next release is one interval away
      rw [h_op] at h_ret
      obtain ⟨-, d', h_d', -, -, -, -, h_due, -⟩ := releaseRecurring_ok.mp h_ret
      obtain rfl := Option.some.inj (h_stores.escrow.symm.trans h_d')
      have h_early := h_rep.early h_op d h_stored
      have h_due : c.timestamp.toNat + d.interval.toNat ≤ c'.timestamp.toNat := h_due
      omega
  | @refund d st s₁ h_op _ _ _ _ _ _ _ h_stores =>
      have h_closed : st ≠ .active := by rcases h_op with ⟨-, rfl⟩ | ⟨-, rfl, -⟩ <;> decide
      refine absurd h' (Call.closed_refused ?_ h_stores.escrow h_closed s'')
      rw [h_rep.op]
      rcases h_op with ⟨h_cancel, -⟩ | ⟨h_expire, -⟩
      · exact .inl h_cancel
      · exact .inr (.inl h_expire)
  | @transferFreelancer d f h_op _ _ _ h_stores =>
      rw [h_op] at h_ret
      obtain ⟨-, d', h_d', -, rfl⟩ := transferFreelancer_ok.mp h_ret
      obtain rfl := Option.some.inj (h_stores.escrow.symm.trans h_d')
      exact ⟨rfl, h_stores.escrow.symm, rfl, State.transfers_push_event _ _⟩
  | @transferPayer d p h_op _ _ _ h_stores =>
      rw [h_op] at h_ret
      obtain ⟨-, d', h_d', -, rfl⟩ := transferPayer_ok.mp h_ret
      obtain rfl := Option.some.inj (h_stores.escrow.symm.trans h_d')
      exact ⟨rfl, h_stores.escrow.symm, rfl, State.transfers_push_event _ _⟩
  | @extendDeadline d t t' h_op _ _ _ _ _ h_stores =>
      rw [h_op] at h_ret
      obtain ⟨-, d', h_d', -, dl, h_dl, h_later, -⟩ := extendDeadline_ok.mp h_ret
      obtain rfl := Option.some.inj (h_stores.escrow.symm.trans h_d')
      obtain rfl := Option.some.inj h_dl
      exact absurd h_later (UInt64.lt_irrefl _)

/-- **A retry is harmless.**  After any call that returned, the same operation, whoever signs it and
    at whatever time (for a release, before the next one is due), leaves the config, the record,
    every token and the list of payments as they are, whether it returns or not. -/
theorem retry_harmless (h_run : c.run s = .ok s') (h_rep : Repeats s c c') :
    (c'.perform s').storage.config = s'.storage.config ∧
      (c'.perform s').storage.escrow = s'.storage.escrow ∧
      (c'.perform s').world = s'.world ∧ (c'.perform s').transfers = s'.transfers := by
  unfold Call.perform
  cases h_again : c'.run s' with
  | ok s'' =>
      obtain ⟨h_config, h_escrow, h_world, h_transfers⟩ := Call.again h_run h_again h_rep
      exact ⟨h_config, h_escrow, h_world, h_transfers⟩
  | error f => exact ⟨rfl, rfl, rfl, rfl⟩

end

/-- The first release of `twice`, sent again a second later. -/
theorem retry_harmless_release :
    let s' := (Sample.call 11 .releaseRecurring).perform (Sample.opened 100 0 Sample.twice)
    let c' := Sample.call 12 .releaseRecurring
    (c'.perform s').storage.config = s'.storage.config ∧
      (c'.perform s').storage.escrow = s'.storage.escrow ∧
      (c'.perform s').world = s'.world ∧ (c'.perform s').transfers = s'.transfers :=
  retry_harmless (Call.run_perform (by decide))
    ⟨rfl, fun _ d h_d => by obtain rfl := Option.some.inj h_d; decide⟩

end StarEscrow.Escrow
