/-
  StarEscrow.Escrow.Ttl

  The remaining time to live of the instance storage.

  Between calls it only shrinks (`Step.outside`), and `extend_ttl` is the only
  thing that raises it.  Eleven of the twelve operations end with it; a release
  leaves the storage with the time it found.
-/

import StarEscrow.Escrow.Creation

namespace StarEscrow.Escrow

variable {Address : Type} [DecidableEq Address] {H : Host Address} {s s' : State H}

/-- After `extend_ttl` the storage lives for at least the threshold. -/
theorem State.le_touch (s : State H) : ttlMinLedgers ≤ s.touch.storage.ttl := by
  show ttlMinLedgers ≤ if s.storage.ttl < ttlMinLedgers then ttlMaxLedgers else s.storage.ttl
  split
  · decide
  · omega

/-- A release leaves the time to live as it finds it. -/
theorem Call.released_ttl {c : Call Address} (h_run : c.run s = .ok s')
    (h_op : c.op = .releaseRecurring) : s'.storage.ttl = s.storage.ttl := by
  obtain ⟨t, auth, op⟩ := c
  obtain rfl : op = .releaseRecurring := h_op
  obtain ⟨-, d, -, -, -, -, -, -, net, s₁, k, h_pay, -, rfl⟩ :=
    releaseRecurring_ok.mp (Call.run_ok.mp h_run)
  have h_storage := (payFreelancer_payment h_pay).storage
  show s₁.storage.ttl = s.storage.ttl
  rw [h_storage]
  rfl

/-- Every other operation extends it. -/
theorem Call.extended_ttl {c : Call Address} (h_run : c.run s = .ok s')
    (h_op : c.op ≠ .releaseRecurring) : ttlMinLedgers ≤ s'.storage.ttl := by
  obtain ⟨t, auth, op⟩ := c
  rw [Call.run_ok] at h_run
  -- each of them ends with `extend_ttl`, so the state it leaves is a touched one
  cases op with
  | init admin feeBps feeCollector =>
      obtain ⟨-, -, rfl⟩ := init_ok.mp h_run
      apply State.le_touch
  | pause =>
      obtain ⟨c, -, -, rfl⟩ := pause_ok.mp h_run
      apply State.le_touch
  | unpause =>
      obtain ⟨c, -, -, rfl⟩ := unpause_ok.mp h_run
      apply State.le_touch
  | create a =>
      obtain ⟨-, -, -, -, -, -, -, w, -, d, s₁, -, rfl⟩ := create_ok.mp h_run
      apply State.le_touch
  | submitWork i =>
      obtain ⟨-, d, -, -, m, -, -, -, rfl⟩ := submitWork_ok.mp h_run
      apply State.le_touch
  | approve i =>
      obtain ⟨-, d, -, m, -, -, -, net, s₁, -, rfl⟩ := approve_ok.mp h_run
      apply State.le_touch
  | releaseRecurring => exact absurd rfl h_op
  | cancel =>
      obtain ⟨-, d, -, -, -, x, -, w, -, rfl⟩ := cancel_ok.mp h_run
      apply State.le_touch
  | expire =>
      obtain ⟨-, d, -, -, dl, -, -, -, x, -, w, -, rfl⟩ := expire_ok.mp h_run
      apply State.le_touch
  | transferFreelancer f =>
      obtain ⟨-, d, -, -, rfl⟩ := transferFreelancer_ok.mp h_run
      apply State.le_touch
  | transferPayer p =>
      obtain ⟨-, d, -, -, rfl⟩ := transferPayer_ok.mp h_run
      apply State.le_touch
  | extendDeadline t' =>
      obtain ⟨-, d, -, -, dl, -, -, rfl⟩ := extendDeadline_ok.mp h_run
      apply State.le_touch

/-- **A successful call keeps the storage alive** for at least `TTL_MIN_LEDGERS`, in every run,
    exactly when it is no release, or a release that finds it so. -/
theorem alive_after_call_iff {s₀ : State H} {tr : List (Entry H)} (h_run : Run s₀ tr s)
    {e : Entry H} (h_mem : e ∈ tr) {c : Call Address}
    (h_label : e.label = .returned c) :
    ttlMinLedgers ≤ e.post.storage.ttl ↔
      (c.op = .releaseRecurring → ttlMinLedgers ≤ e.pre.storage.ttl) := by
  have h_step := h_run.step_of_mem e h_mem
  rw [h_label] at h_step
  cases h_step with
  | returned _ h_ok =>
      by_cases h_op : c.op = .releaseRecurring
      · rw [Call.released_ttl h_ok h_op]
        exact ⟨fun h_alive _ => h_alive, fun h_alive => h_alive h_op⟩
      · have h_alive := Call.extended_ttl h_ok h_op
        exact ⟨fun _ h_release => absurd h_release h_op, fun _ => h_alive⟩

namespace Sample

/-- A recurring escrow whose storage has 100 ledgers left. -/
def fading : State host := (opened 100 0 twice).putTtl 100

def fadingRelease : Call Nat := call 11 .releaseRecurring

/-- It was created, and then time went by. -/
theorem fading_run : Run (start 100 0)
    [⟨start 100 0, .returned (call 1 (.create twice)), opened 100 0 twice⟩,
      ⟨opened 100 0 twice, .outside, fading⟩] fading :=
  .tail (.single (opened_created (by decide)).step) (.outside (fun _ => Int.le_refl _) (by decide))

theorem fading_release :
    Step fading (.returned fadingRelease) (fadingRelease.perform fading) :=
  .returned (by decide) (Call.run_perform (by decide))

end Sample

theorem alive_after_call_iff_release :
    ttlMinLedgers ≤ (Sample.fadingRelease.perform Sample.fading).storage.ttl ↔
      (Sample.fadingRelease.op = .releaseRecurring →
        ttlMinLedgers ≤ Sample.fading.storage.ttl) :=
  alive_after_call_iff (.tail Sample.fading_run Sample.fading_release)
    (List.mem_append_right _ (List.mem_singleton_self _)) rfl

/-- A recurring escrow whose storage has 100 ledgers left: the release is paid, and the storage
    still has 100 ledgers left. -/
theorem release_leaves_ttl :
    ∃ (s s' : State Sample.host) (c : Call Nat), Reachable s ∧ s.storage.ttl = 100 ∧
      c.op = .releaseRecurring ∧ Step s (.returned c) s' ∧
      s'.storage.escrow ≠ s.storage.escrow ∧ ¬ttlMinLedgers ≤ s'.storage.ttl :=
  ⟨Sample.fading, _, Sample.fadingRelease, ⟨_, _, Sample.start_initial 100 0, Sample.fading_run⟩,
    rfl, rfl, Sample.fading_release, by decide, by decide⟩

end StarEscrow.Escrow
