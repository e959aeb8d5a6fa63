/-
  StarEscrow.Escrow.Releases

  When recurring releases happen.

  Anybody may call `release_recurring` at any time, and every other operation
  may run in between.  Only a release writes the counter and the time of the
  last release, so both are functions of the releases made so far
  (`OnSchedule`): the counter is their number, the stored time is the last of
  their times, and these are at least one interval apart.
-/

import StarEscrow.Lib.Times
import StarEscrow.Escrow.Creation

namespace StarEscrow.Escrow

open Times

variable {Address : Type}

/-- The time of a successful release. -/
def Label.releasedAt? : Label Address → Option Nat
  | .returned ⟨t, _, .releaseRecurring⟩ => some t.toNat
  | _ => none

theorem Label.releasedAt?_returned {c : Call Address} (h_op : c.op = .releaseRecurring) :
    (Label.returned c).releasedAt? = some c.timestamp.toNat := by
  obtain ⟨t, auth, op⟩ := c
  obtain rfl : op = .releaseRecurring := h_op
  rfl

theorem Label.releasedAt?_eq_none {l : Label Address}
    (h : ∀ c, l = .returned c → c.op ≠ .releaseRecurring) : l.releasedAt? = none := by
  unfold releasedAt?
  split
  · exact absurd rfl (h _ rfl)
  · rfl

theorem Label.releasedAt?_of_ne {c : Call Address} (h_op : c.op ≠ .releaseRecurring) :
    (Label.returned c).releasedAt? = none := by
  apply releasedAt?_eq_none
  intro c' h_c'
  obtain rfl := Label.returned.inj h_c'
  exact h_op

variable [DecidableEq Address] {H : Host Address}

/-- The times of the successful releases of a history, oldest first. -/
def releaseTimes (tr : List (Entry H)) : List Nat := tr.filterMap (·.label.releasedAt?)

theorem releaseTimes_snoc (tr : List (Entry H)) (e : Entry H) :
    releaseTimes (tr ++ [e]) = releaseTimes tr ++ e.label.releasedAt?.toList := by
  rw [releaseTimes, List.filterMap_append, ← releaseTimes]
  cases h : e.label.releasedAt? <;> simp [h]

/-- The record `d` against the record `d₂` that was created, after releases at the times `ts`. -/
structure OnSchedule (d₂ : EscrowData Address) (ts : List Nat) (d : EscrowData Address) : Prop where
  descends : Descends d₂ d
  counted : d.releasesMade.toNat = ts.length
  bounded : ts.length ≤ d₂.recurrenceCount.toNat
  last : d.lastReleaseTime.toNat = ts.getLastD d₂.lastReleaseTime.toNat
  spaced : Spaced d₂.interval.toNat d₂.lastReleaseTime.toNat ts
  enabled : ts ≠ [] → d₂.interval ≠ 0 ∧ d₂.recurrenceCount ≠ 0

theorem Created.onSchedule {s₁ s₂ : State H} {c : Call Address} {a : CreateArgs Address}
    (_ : Created s₁ c a s₂) : OnSchedule (a.stored c.timestamp) [] (a.stored c.timestamp) where
  descends := .refl _
  counted := rfl
  bounded := Nat.zero_le _
  last := rfl
  spaced := trivial
  enabled := fun h => absurd rfl h

/-- A step is a release of an `Active` escrow that is due, or keeps the schedule's two fields. -/
theorem Move.released {s s' : State H} {l : Label Address} {d d' : EscrowData Address}
    (h : Move s l s' d d') :
    (l.releasedAt? = none ∧ d'.releasesMade = d.releasesMade ∧
        d'.lastReleaseTime = d.lastReleaseTime) ∨
      ∃ t, l.releasedAt? = some t ∧ d.status = .active ∧ d.interval ≠ 0 ∧
        d.recurrenceCount ≠ 0 ∧ d.releasesMade.toNat < d.recurrenceCount.toNat ∧
        d.lastReleaseTime.toNat + d.interval.toNat ≤ t ∧
        d'.releasesMade.toNat = d.releasesMade.toNat + 1 ∧ d'.lastReleaseTime.toNat = t := by
  cases h with
  | quiet h_quiet =>
      refine .inl ⟨Label.releasedAt?_eq_none fun c h_c h_op => ?_, rfl, rfl⟩
      have h_off := h_quiet c h_c
      rw [h_op] at h_off
      cases h_off
  | submit h_label h_op | approve h_label h_op =>
      rw [h_label]
      exact .inl ⟨Label.releasedAt?_of_ne (by simp [h_op]), rfl, rfl⟩
  | @release c k h_label h_op h_count h_active h_left h_due h_admitted _ h_next =>
      have h_interval : d.interval ≠ 0 := by
        have h_checks := h_admitted.2
        rw [h_op] at h_checks
        exact h_checks.1
      rw [h_label]
      exact .inr ⟨_, Label.releasedAt?_returned h_op, h_active, h_interval, h_count,
        UInt32.lt_iff_toNat_lt.mp h_left, h_due, h_next, rfl⟩
  | refund h_label h_op =>
      rw [h_label]
      refine .inl ⟨Label.releasedAt?_of_ne ?_, rfl, rfl⟩
      rcases h_op with ⟨h_op, -⟩ | ⟨h_op, -⟩ <;> simp [h_op]

/-- A step keeps the schedule, with its own release added if it is one. -/
theorem Move.onSchedule {s s' : State H} {l : Label Address} {d₂ d d' : EscrowData Address}
    {ts : List Nat} (h : Move s l s' d d') (h_inv : OnSchedule d₂ ts d) :
    OnSchedule d₂ (ts ++ l.releasedAt?.toList) d' := by
  have h_desc := h_inv.descends.trans h.descends
  have h_made := h_inv.counted
  have h_last := h_inv.last
  rcases h.released with ⟨h_none, h_k, h_t⟩ |
    ⟨t, h_at, -, h_interval, h_count, h_left, h_due, h_k, h_t⟩
  · rw [h_none, Option.toList_none, List.append_nil]
    exact ⟨h_desc, h_k ▸ h_made, h_inv.bounded, h_t ▸ h_last, h_inv.spaced, h_inv.enabled⟩
  · rw [h_inv.descends.interval] at h_interval h_due
    rw [h_inv.descends.recurrenceCount] at h_count h_left
    rw [h_last] at h_due
    rw [h_at, Option.toList_some]
    refine ⟨h_desc, ?_, ?_, ?_, h_inv.spaced.snoc h_due, fun _ => ⟨h_interval, h_count⟩⟩
    · rw [h_k, h_made, List.length_append, List.length_singleton]
    · rw [List.length_append, List.length_singleton]
      omega
    · rw [h_t, List.getLastD_concat]

/-- The schedule along a run from the creation. -/
theorem Created.run_onSchedule {s₁ s₂ s₃ : State H} {c : Call Address} {a : CreateArgs Address}
    {tr : List (Entry H)} (h : Created s₁ c a s₂) (h_run : Run s₂ tr s₃) :
    ∃ d, s₃.storage.escrow = some d ∧ OnSchedule (a.stored c.timestamp) (releaseTimes tr) d := by
  refine h_run.dealHistory (P := fun tr _ d => OnSchedule _ (releaseTimes tr) d) h.stored
    h.onSchedule ?_
  intro tr e d d' _ h_move h_inv
  rw [releaseTimes_snoc]
  exact h_move.onSchedule h_inv

/-- No release succeeds any more once the escrow is not `Active`. -/
theorem Run.no_release {s s' : State H} {tr : List (Entry H)} {d : EscrowData Address}
    (h_run : Run s tr s') (h_stored : s.storage.escrow = some d) (h_status : d.status ≠ .active) :
    releaseTimes tr = [] := by
  have h_end := h_run.dealHistory (P := fun tr _ d => d.status ≠ .active ∧ releaseTimes tr = [])
    h_stored ⟨h_status, rfl⟩ ?_
  · obtain ⟨d', -, -, h_none⟩ := h_end
    exact h_none
  · intro tr e d₁ d₂ _ h_move ⟨h_over, h_none⟩
    refine ⟨fun h_active => h_over (h_move.active h_active), ?_⟩
    rw [releaseTimes_snoc, h_none]
    rcases h_move.released with ⟨h_no, -⟩ | ⟨t, -, h_active, -⟩
    · rw [h_no]
      rfl
    · exact absurd h_active h_over

/-- A failed call leaves everything but the clock. -/
theorem Step.of_aborted {s s' : State H} {c : Call Address} (h : Step s (.aborted c) s') :
    s' = s.atTime c.timestamp := by
  cases h with
  | aborted => rfl

/-- **Releases keep to the schedule.**  After a creation at time `T₀`, over every run: the counter
    is the number of releases made, at most `recurrence_count`; the `k`-th release (from zero) comes
    at least `k + 1` intervals after `T₀`, and each release at least one after the one before; the
    stored time is the last one's; no release follows once the escrow is not `Active`, and none ever
    succeeds with an interval or a count of zero; and a failed call changes nothing stored. -/
theorem releases_on_schedule {s₁ s₂ s₃ : State H} {c : Call Address} {a : CreateArgs Address}
    {tr : List (Entry H)} (h_created : Created s₁ c a s₂) (h_run : Run s₂ tr s₃) :
    ∃ d, s₃.storage.escrow = some d ∧
      d.releasesMade.toNat = (releaseTimes tr).length ∧
      (releaseTimes tr).length ≤ a.recurrenceCount.toNat ∧
      (∀ (k t : Nat), (releaseTimes tr)[k]? = some t →
        c.timestamp.toNat + (k + 1) * a.interval.toNat ≤ t) ∧
      (∀ (k t t' : Nat), (releaseTimes tr)[k]? = some t → (releaseTimes tr)[k + 1]? = some t' →
        t + a.interval.toNat ≤ t') ∧
      d.lastReleaseTime.toNat = (releaseTimes tr).getLastD c.timestamp.toNat ∧
      (d.status ≠ .active → ∀ tr' s₄, Run s₃ tr' s₄ → releaseTimes tr' = []) ∧
      (a.interval = 0 ∨ a.recurrenceCount = 0 → releaseTimes tr = []) ∧
      (∀ e ∈ tr, ∀ c', e.label = .aborted c' →
        e.post.storage = e.pre.storage ∧ e.post.world = e.pre.world ∧ e.post.log = e.pre.log) := by
  obtain ⟨d, h_d, h_inv⟩ := h_created.run_onSchedule h_run
  refine ⟨d, h_d, h_inv.counted, h_inv.bounded, ?_, ?_, h_inv.last, ?_, ?_, ?_⟩
  · intro k t h_get
    exact h_inv.spaced.le_get h_get
  · intro k t t' h_get h_next
    exact h_inv.spaced.gap_le h_get h_next
  · intro h_over tr' s₄ h_more
    exact h_more.no_release h_d h_over
  · intro h_zero
    by_contra h_some
    obtain ⟨h_interval, h_count⟩ := h_inv.enabled h_some
    rcases h_zero with h_zero | h_zero
    · exact h_interval h_zero
    · exact h_count h_zero
  · intro e h_e c' h_label
    have h_step := h_run.step_of_mem e h_e
    rw [h_label] at h_step
    rw [h_step.of_aborted]
    exact ⟨rfl, rfl, rfl⟩

namespace Sample

/-- An early call, the first release, and a call that is early for the second. -/
def releaseCalls : List (Call Nat) :=
  [call 10 .releaseRecurring, call 11 .releaseRecurring, call 20 .releaseRecurring]

end Sample

theorem releases_on_schedule_twice :
    let tr := playTrace Sample.releaseCalls (Sample.opened 100 0 Sample.twice)
    ∃ d, (play Sample.releaseCalls (Sample.opened 100 0 Sample.twice)).storage.escrow = some d ∧
      d.releasesMade.toNat = (releaseTimes tr).length ∧
      (releaseTimes tr).length ≤ 2 ∧
      (∀ (k t : Nat), (releaseTimes tr)[k]? = some t → 1 + (k + 1) * 10 ≤ t) ∧
      (∀ (k t t' : Nat), (releaseTimes tr)[k]? = some t → (releaseTimes tr)[k + 1]? = some t' →
        t + 10 ≤ t') ∧
      d.lastReleaseTime.toNat = (releaseTimes tr).getLastD 1 ∧
      (d.status ≠ .active → ∀ tr' s₄,
        Run (play Sample.releaseCalls (Sample.opened 100 0 Sample.twice)) tr' s₄ →
          releaseTimes tr' = []) ∧
      (Sample.twice.interval = 0 ∨ Sample.twice.recurrenceCount = 0 → releaseTimes tr = []) ∧
      (∀ e ∈ tr, ∀ c', e.label = .aborted c' →
        e.post.storage = e.pre.storage ∧ e.post.world = e.pre.world ∧ e.post.log = e.pre.log) :=
  releases_on_schedule (Sample.opened_created (by decide)) (run_play (by decide))

end StarEscrow.Escrow
