/-
  StarEscrow.Escrow.Deadline

  The deadline the freelancer was promised.

  `extend_deadline` is the only operation that writes the deadline, it asks for
  the payer, and it only accepts a later one.  So every deadline the escrow has
  had is at most the one `expire` compares the clock with.
-/

import StarEscrow.Escrow.Creation

namespace StarEscrow.Escrow

open Lts.Run (visited)

variable {Address : Type}

/-- `d'` is a later record than `d`: its deadline is at least that of `d`, it has none if `d` has
    none, and it is not `Active` unless `d` is. -/
structure Outlasts (d d' : EscrowData Address) : Prop where
  none : d.deadline = none → d'.deadline = none
  le : ∀ t ∈ d.deadline, ∃ t' ∈ d'.deadline, t ≤ t'
  active : d'.status = .active → d.status = .active

theorem Outlasts.refl (d : EscrowData Address) : Outlasts d d :=
  ⟨id, fun t h_t => ⟨t, h_t, UInt64.le_refl t⟩, id⟩

theorem Outlasts.trans {d d' d'' : EscrowData Address} (h : Outlasts d d') (h' : Outlasts d' d'') :
    Outlasts d d'' where
  none := fun h_none => h'.none (h.none h_none)
  le := by
    intro t h_t
    obtain ⟨t₁, h_t₁, h_le₁⟩ := h.le t h_t
    obtain ⟨t₂, h_t₂, h_le₂⟩ := h'.le t₁ h_t₁
    exact ⟨t₂, h_t₂, UInt64.le_trans h_le₁ h_le₂⟩
  active := fun h_active => h.active (h'.active h_active)

/-- The deadline stays as it is, or the payer of `d` moves it to a later time in the call `l`. -/
def DeadlineMove (l : Label Address) (d d' : EscrowData Address) : Prop :=
  d'.deadline = d.deadline ∨
    ∃ c t t', l = .returned c ∧ c.auth d.payer = true ∧ d.deadline = some t ∧
      d'.deadline = some t' ∧ t < t'

theorem DeadlineMove.outlasts {l : Label Address} {d d' : EscrowData Address}
    (h : DeadlineMove l d d') (h_active : d'.status = .active → d.status = .active) :
    Outlasts d d' := by
  rcases h with h_same | ⟨c, t₁, t₂, -, -, h_old, h_new, h_lt⟩
  · refine ⟨fun h_none => h_same.trans h_none, fun t h_t => ⟨t, ?_, UInt64.le_refl t⟩, h_active⟩
    rw [h_same]
    exact h_t
  · refine ⟨fun h_none => ?_, fun t h_t => ⟨t₂, h_new, ?_⟩, h_active⟩
    · rw [h_old] at h_none
      cases h_none
    · obtain rfl := Option.some.inj (h_old.symm.trans h_t)
      exact UInt64.le_of_lt h_lt

variable [DecidableEq Address] {H : Host Address}

/-! ## Steps -/

theorem Change.deadline {s s' : State H} {c : Call Address} {d : EscrowData Address}
    (h : Change s c s') (h_stored : s.storage.escrow = some d) :
    ∃ d', s'.storage.escrow = some d' ∧ DeadlineMove (.returned c) d d' := by
  have h_same {d' : EscrowData Address} (h' : s.storage.escrow = some d') : d = d' :=
    Option.some.inj (h_stored.symm.trans h')
  cases h with
  | init _ _ _ _ h_deal | pausing _ _ _ _ h_deal =>
      exact ⟨d, h_deal.escrow.trans h_stored, .inl rfl⟩
  | create _ _ h_new =>
      rw [h_new] at h_stored
      cases h_stored
  | submit _ _ h_d _ _ _ _ h_stores | approve _ _ h_d _ _ _ _ h_stores
  | release _ _ h_d _ _ _ _ _ _ _ h_stores | refund _ _ h_d _ _ _ _ _ h_stores
  | transferFreelancer _ _ h_d _ h_stores | transferPayer _ _ h_d _ h_stores =>
      obtain rfl := h_same h_d
      exact ⟨_, h_stores.escrow, .inl rfl⟩
  | extendDeadline _ _ h_d h_auth h_deadline h_later h_stores =>
      obtain rfl := h_same h_d
      exact ⟨_, h_stores.escrow, .inr ⟨c, _, _, rfl, h_auth, h_deadline, rfl, h_later⟩⟩

theorem Step.deadline {s s' : State H} {l : Label Address} {d : EscrowData Address}
    (h : Step s l s') (h_stored : s.storage.escrow = some d) :
    ∃ d', s'.storage.escrow = some d' ∧ DeadlineMove l d d' ∧ Outlasts d d' := by
  obtain ⟨d₂, h_d₂, h_move⟩ := h.move h_stored
  have h_deadline : ∃ d', s'.storage.escrow = some d' ∧ DeadlineMove l d d' := by
    cases h with
    | returned _ h_run => exact (Call.change h_run).deadline h_stored
    | aborted => exact ⟨d, h_stored, .inl rfl⟩
    | outside => exact ⟨d, h_stored, .inl rfl⟩
  obtain ⟨d', h_d', h_moved⟩ := h_deadline
  obtain rfl := Option.some.inj (h_d'.symm.trans h_d₂)
  exact ⟨d', h_d', h_moved, h_moved.outlasts h_move.active⟩

/-- What a returned `expire` found. -/
theorem Call.expired {c : Call Address} {s s' : State H} {d : EscrowData Address}
    (h_run : c.run s = .ok s') (h_op : c.op = .expire) (h_stored : s.storage.escrow = some d) :
    d.status = .active ∧ ∃ t ∈ d.deadline, t < c.timestamp := by
  obtain ⟨t, auth, op⟩ := c
  obtain rfl : op = .expire := h_op
  obtain ⟨-, d', h_d', h_active, t', h_t', h_late, -⟩ := expire_ok.mp (Call.run_ok.mp h_run)
  obtain rfl := Option.some.inj (h_stored.symm.trans h_d')
  exact ⟨h_active, t', h_t', h_late⟩

/-! ## Runs -/

/-- Later records outlast earlier ones. -/
theorem Run.outlasts {s s' : State H} {tr : List (Entry H)} {d : EscrowData Address}
    (h : Run s tr s') (h_stored : s.storage.escrow = some d) :
    ∃ d', s'.storage.escrow = some d' ∧ Outlasts d d' := by
  refine h.invariant (O := fun _ => True)
    (I := fun t => ∃ d', t.storage.escrow = some d' ∧ Outlasts d d') (fun _ _ => trivial) ?_
    ⟨d, h_stored, .refl d⟩
  intro e _ h_step ⟨d₁, h_d₁, h_out⟩
  obtain ⟨d₂, h_d₂, -, h_out'⟩ := h_step.deadline h_d₁
  exact ⟨d₂, h_d₂, h_out.trans h_out'⟩

/-- So every record a run has stored is outlasted by the last one, and outlasts the first. -/
theorem Run.outlasts_visited {s s' u : State H} {tr : List (Entry H)} {d : EscrowData Address}
    (h : Run s tr s') (h_stored : s.storage.escrow = some d) (h_u : u ∈ visited s tr) :
    ∃ d₁ d', u.storage.escrow = some d₁ ∧ s'.storage.escrow = some d' ∧ Outlasts d d₁ ∧
      Outlasts d₁ d' := by
  obtain ⟨tr₁, tr₂, -, (h_first : Run s tr₁ u), (h_second : Run u tr₂ s')⟩ := h.through h_u
  obtain ⟨d₁, h_d₁, h_out₁⟩ := h_first.outlasts h_stored
  obtain ⟨d', h_d', h_out'⟩ := h_second.outlasts h_d₁
  exact ⟨d₁, d', h_d₁, h_d', h_out₁, h_out'⟩

/-- When `expire` returns, the escrow has been `Active` so far and has never had a deadline that
    has not passed. -/
theorem Run.expired {s s' : State H} {tr₁ tr₂ : List (Entry H)} {e : Entry H} {c : Call Address}
    {d : EscrowData Address} (h : Run s (tr₁ ++ e :: tr₂) s') (h_stored : s.storage.escrow = some d)
    (h_label : e.label = .returned c) (h_op : c.op = .expire) :
    ∀ u ∈ visited s tr₁, ∃ d₁, u.storage.escrow = some d₁ ∧ d₁.status = .active ∧
      d₁.deadline ≠ none ∧ ∀ t ∈ d₁.deadline, t < c.timestamp := by
  intro u h_u
  obtain ⟨t, (h_first : Run s tr₁ t), h_rest⟩ := h.split
  obtain ⟨rfl, h_step, -⟩ := h_rest.uncons
  rw [h_label] at h_step
  obtain ⟨d₁, d₂, h_d₁, h_d₂, -, h_out⟩ := h_first.outlasts_visited h_stored h_u
  obtain ⟨h_active, t₂, h_t₂, h_late⟩ :
      d₂.status = .active ∧ ∃ t ∈ d₂.deadline, t < c.timestamp := by
    cases h_step with
    | returned _ h_run => exact Call.expired h_run h_op h_d₂
  refine ⟨d₁, h_d₁, h_out.active h_active, fun h_none => ?_, fun t₁ h_t₁ => ?_⟩
  · rw [h_out.none h_none] at h_t₂
    cases h_t₂
  · -- the deadline `expire` checked is at least this one
    obtain ⟨t', h_t', h_le⟩ := h_out.le t₁ h_t₁
    obtain rfl := Option.some.inj (h_t'.symm.trans h_t₂)
    exact UInt64.lt_of_le_of_lt h_le h_late

/-- **The freelancer keeps the deadline once promised.**  Over every run after `create`: without a
    deadline there never is one, and `expire` never succeeds; a step changes the deadline only to a
    later one and with the authorisation of the payer it finds, so no state of the run has a later
    deadline than the last; and when `expire` succeeds, the escrow has been `Active` in every state
    since `create`, and its time is later than the deadline of every such state. -/
theorem deadline_promised {s₁ s₂ s₃ : State H} {c : Call Address} {a : CreateArgs Address}
    {tr : List (Entry H)} (h_created : Created s₁ c a s₂) (h_run : Run s₂ tr s₃) :
    (a.deadline = none →
      (∀ u ∈ visited s₂ tr, ∃ d, u.storage.escrow = some d ∧ d.deadline = none) ∧
        ∀ e ∈ tr, ∀ c', e.label = .returned c' → c'.op ≠ .expire) ∧
    (∀ e ∈ tr, ∃ d d', e.pre.storage.escrow = some d ∧ e.post.storage.escrow = some d' ∧
      DeadlineMove e.label d d') ∧
    (∀ u ∈ visited s₂ tr, ∃ d d', u.storage.escrow = some d ∧ s₃.storage.escrow = some d' ∧
      ∀ t ∈ d.deadline, ∃ t' ∈ d'.deadline, t ≤ t') ∧
    (∀ tr₁ e tr₂ c', tr = tr₁ ++ e :: tr₂ → e.label = .returned c' → c'.op = .expire →
      ∀ u ∈ visited s₂ tr₁, ∃ d, u.storage.escrow = some d ∧ d.status = .active ∧
        d.deadline ≠ none ∧ ∀ t ∈ d.deadline, t < c'.timestamp) := by
  refine ⟨fun h_none => ⟨fun u h_u => ?_, fun e h_e c' h_label h_op => ?_⟩, fun e h_e => ?_,
    fun u h_u => ?_, ?_⟩
  · obtain ⟨d₁, -, h_d₁, -, h_out, -⟩ := h_run.outlasts_visited h_created.stored h_u
    exact ⟨d₁, h_d₁, h_out.none h_none⟩
  · -- the record `create` stored has no deadline, so `expire` cannot have returned
    obtain ⟨tr₁, tr₂, rfl⟩ := List.append_of_mem h_e
    obtain ⟨d, h_d, -, h_some, -⟩ := h_run.expired h_created.stored h_label h_op s₂
      List.mem_cons_self
    obtain rfl := Option.some.inj (h_created.stored.symm.trans h_d)
    exact h_some h_none
  · obtain ⟨d, -, h_d, -⟩ := h_run.moves h_created.stored e h_e
    obtain ⟨d', h_d', h_moved, -⟩ := (h_run.step_of_mem e h_e).deadline h_d
    exact ⟨d, d', h_d, h_d', h_moved⟩
  · obtain ⟨d₁, d', h_d₁, h_d', -, h_out⟩ := h_run.outlasts_visited h_created.stored h_u
    exact ⟨d₁, d', h_d₁, h_d', h_out.le⟩
  · rintro tr₁ e tr₂ c' rfl h_label h_op
    exact h_run.expired h_created.stored h_label h_op

namespace Sample

/-- The payer role moves, the new payer extends the deadline from 50 to 80, the old deadline
    passes, and the escrow expires after the new one. -/
def extendedDeadline : List (Call Nat) :=
  [call 2 (.transferPayer 6), call 3 (.extendDeadline 80), call 60 .expire, call 81 .expire]

end Sample

theorem deadline_promised_extended :
    let s₂ := Sample.opened 100 0 Sample.twoParts
    let s₃ := play Sample.extendedDeadline s₂
    let tr := playTrace Sample.extendedDeadline s₂
    (Sample.twoParts.deadline = none →
      (∀ u ∈ visited s₂ tr, ∃ d, u.storage.escrow = some d ∧ d.deadline = none) ∧
        ∀ e ∈ tr, ∀ c', e.label = .returned c' → c'.op ≠ .expire) ∧
    (∀ e ∈ tr, ∃ d d', e.pre.storage.escrow = some d ∧ e.post.storage.escrow = some d' ∧
      DeadlineMove e.label d d') ∧
    (∀ u ∈ visited s₂ tr, ∃ d d', u.storage.escrow = some d ∧ s₃.storage.escrow = some d' ∧
      ∀ t ∈ d.deadline, ∃ t' ∈ d'.deadline, t ≤ t') ∧
    (∀ tr₁ e tr₂ c', tr = tr₁ ++ e :: tr₂ → e.label = .returned c' → c'.op = .expire →
      ∀ u ∈ visited s₂ tr₁, ∃ d, u.storage.escrow = some d ∧ d.status = .active ∧
        d.deadline ≠ none ∧ ∀ t ∈ d.deadline, t < c'.timestamp) :=
  deadline_promised (Sample.opened_created (by decide)) (run_play (by decide))

end StarEscrow.Escrow
