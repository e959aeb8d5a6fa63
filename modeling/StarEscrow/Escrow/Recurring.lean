/-
  StarEscrow.Escrow.Recurring

  Recurring schedules that are left alone: the only calls are releases, and the
  contract receives tokens from nowhere but `create`.

  `create` locks one total, and every release draws one total.  So the first
  release empties the contract, and no second one can be paid
  (`Schedule`).  A schedule is fully funded exactly when a second release never
  falls due: because it has one release only, or because the second due time
  does not fit into 64 bits.
-/

import StarEscrow.Escrow.Creation

namespace StarEscrow.Escrow

variable {Address : Type} [DecidableEq Address] {H : Host Address}

/-- The step is a release, or brings the contract none of the token. -/
def ReleaseOnly (token : Address) (e : Entry H) : Prop :=
  (∀ c ∈ e.label.call?, c.op = .releaseRecurring) ∧
    (e.label.isOutside = true → e.post.funds token = e.pre.funds token)

/-- A release at time `now` is due: not all were made, and the interval has elapsed. -/
def ReleaseDue (d : EscrowData Address) (now : UInt64) : Prop :=
  d.releasesMade < d.recurrenceCount ∧
    d.lastReleaseTime.toNat + d.interval.toNat ≤ now.toNat

/-- Every due release succeeds; and once all were made, the escrow is `Completed`, the contract
    holds nothing, and the releases since the state `s₂` add up to the total. -/
def FullyFunded (s₂ s : State H) (d : EscrowData Address) : Prop :=
  (∀ c : Call Address, c.op = .releaseRecurring → s.time ≤ c.timestamp →
      ReleaseDue d c.timestamp → ∃ s', c.run s = .ok s') ∧
    (d.releasesMade = d.recurrenceCount → d.status = .completed ∧ s.funds d.token = 0 ∧
      s.paidOut d.token - s₂.paidOut d.token = d.totalAmount)

/-- The terms under which a fee never stops a release of `d` and all payees are outsiders. -/
structure FairTerms (s : State H) (d : EscrowData Address) : Prop where
  bps : ∀ c ∈ s.storage.config, c.feeBps.toNat ≤ 10000
  product : ∀ c ∈ s.storage.config, Checked.InI128 (d.totalAmount * c.feeBps.toNat)
  collector : ∀ c ∈ s.storage.config, c.feeCollector ≠ H.currentContract
  freelancer : d.freelancer ≠ H.currentContract

/-! ## One release -/

/-- What a returned release checked, paid and stored. -/
theorem Call.released {c : Call Address} {s s' : State H} {d : EscrowData Address}
    (h_run : c.run s = .ok s') (h_op : c.op = .releaseRecurring)
    (h_stored : s.storage.escrow = some d) :
    ReleaseDue d c.timestamp ∧ Paid s s' d.token d.freelancer d.totalAmount ∧
      s'.storage.config = s.storage.config ∧ ∃ k : UInt32,
        k.toNat = d.releasesMade.toNat + 1 ∧
        s'.storage.escrow = some (d.withRelease k c.timestamp) := by
  obtain ⟨t, auth, op⟩ := c
  cases h_op
  cases Call.change h_run with
  | release _ _ h_d _ _ _ h_left h_due h_pay h_next h_stores =>
      obtain rfl := Option.some.inj (h_stored.symm.trans h_d)
      have h_config := h_stores.config.trans (congrArg Storage.config h_pay.storage)
      exact ⟨⟨h_left, h_due⟩, h_pay.paid h_stores, h_config, _, h_next, h_stores.escrow⟩
  | @pausing _ b h_op =>
      cases b <;> cases h_op
  | refund h_op =>
      rcases h_op with ⟨h_op, -⟩ | ⟨h_op, -⟩ <;> cases h_op
  | init h_op | create h_op | submit h_op | approve h_op | transferFreelancer h_op
  | transferPayer h_op | extendDeadline h_op => cases h_op

/-- On fair terms a due release of an `Active` escrow returns if the contract holds one total. -/
theorem Call.release_returns (h_live : H.Live) {c : Call Address} {s : State H}
    {d : EscrowData Address} (h_op : c.op = .releaseRecurring)
    (h_stored : s.storage.escrow = some d) (h_sound : Sound d) (h_terms : FairTerms s d)
    (h_run : s.paused = false) (h_interval : d.interval ≠ 0) (h_active : d.status = .active)
    (h_due : ReleaseDue d c.timestamp) (h_funds : d.totalAmount ≤ s.funds d.token) :
    ∃ s', c.run s = .ok s' := by
  obtain ⟨t, auth, op⟩ := c
  cases h_op
  obtain ⟨h_left, h_elapsed⟩ := h_due
  have h_le := feeOf_le h_sound.total_pos.le h_terms.bps
  obtain ⟨net, s₁, h_pay⟩ := payFreelancer_returns (s := s.atTime t) h_live
    h_sound.total_pos.le h_le h_sound.range h_terms.product h_funds
  -- the counter has room, because it is below the 32-bit number of releases
  have h_lt : d.releasesMade.toNat < d.recurrenceCount.toNat := UInt32.lt_iff_toNat_lt.mp h_left
  have h_max := d.recurrenceCount.toNat_lt
  have h_next : (UInt32.ofNat (d.releasesMade.toNat + 1)).toNat = d.releasesMade.toNat + 1 :=
    UInt32.toNat_ofNat_of_lt' (show _ < 2 ^ 32 by omega)
  have h_count : d.recurrenceCount ≠ 0 := by
    rintro h_zero
    rw [h_zero, UInt32.toNat_zero] at h_lt
    omega
  exact ⟨_, Call.run_ok.mpr (releaseRecurring_ok.mpr ⟨h_run, d, h_stored, h_interval, h_count,
    h_active, h_left, h_elapsed, net, s₁, _, h_pay, h_next, rfl⟩)⟩

/-! ## Runs of releases -/

/-- The two stages of a schedule that is left alone, `d₂` being the record as created in `s₂`:
    nothing was released, or one release has emptied the contract. -/
structure Schedule (s₂ : State H) (d₂ : EscrowData Address) (s : State H) (d : EscrowData Address) :
    Prop where
  wellFormed : WellFormed d
  descends : Descends d₂ d
  config : s.storage.config = s₂.storage.config
  freelancer : d.freelancer = d₂.freelancer
  stage :
    d.releasesMade.toNat = 0 ∧ d.status = .active ∧ d.lastReleaseTime = d₂.lastReleaseTime ∧
        s.funds d₂.token = d₂.totalAmount ∧ s.paidOut d₂.token = s₂.paidOut d₂.token ∨
      d.releasesMade.toNat = 1 ∧ (d.recurrenceCount.toNat ≤ 1 → d.status = .completed) ∧
        d₂.lastReleaseTime.toNat + d₂.interval.toNat ≤ d.lastReleaseTime.toNat ∧
        s.funds d₂.token = 0 ∧ s.paidOut d₂.token - s₂.paidOut d₂.token = d₂.totalAmount

section Runs

variable {s₂ s s' : State H} {d₂ d : EscrowData Address}

theorem Schedule.fairTerms (h : Schedule s₂ d₂ s d) (h_terms : FairTerms s₂ d₂) :
    FairTerms s d where
  bps := by rw [h.config]; exact h_terms.bps
  product := by rw [h.config, h.descends.totalAmount]; exact h_terms.product
  collector := by rw [h.config]; exact h_terms.collector
  freelancer := by rw [h.freelancer]; exact h_terms.freelancer

theorem Schedule.paused (h : Schedule s₂ d₂ s d) : s.paused = s₂.paused := by
  rw [State.paused, State.paused, h.config]

/-- The first release has emptied the contract, so a second one is not paid. -/
theorem Schedule.no_second {c : Call Address} (h : Schedule s₂ d₂ s d) (h_terms : FairTerms s₂ d₂)
    (h_stored : s.storage.escrow = some d) (h_made : d.releasesMade.toNat = 1)
    (h_op : c.op = .releaseRecurring) : c.run s ≠ .ok s' := by
  intro h_run
  have h_terms' := h.fairTerms h_terms
  have h_pos := h.wellFormed.sound.total_pos
  -- the payment took one total, and the contract had nothing
  obtain ⟨-, h_paid, -⟩ := Call.released h_run h_op h_stored
  obtain ⟨h_covered, -⟩ := h_paid.funds h_pos.le h_terms'.freelancer h_terms'.collector
  rw [h.descends.token] at h_covered
  rcases h.stage with ⟨h_k, -⟩ | ⟨-, -, -, h_empty, -⟩
  · omega
  · omega

/-- A release leads from the first stage to the second, and from nowhere else. -/
theorem Schedule.release {c : Call Address} (h : Schedule s₂ d₂ s d) (h_terms : FairTerms s₂ d₂)
    (h_stored : s.storage.escrow = some d) (h_run : c.run s = .ok s')
    (h_op : c.op = .releaseRecurring) :
    ∃ d', s'.storage.escrow = some d' ∧ Schedule s₂ d₂ s' d' := by
  have h_terms' := h.fairTerms h_terms
  have h_pos := h.wellFormed.sound.total_pos
  have h_token := h.descends.token
  have h_total := h.descends.totalAmount
  obtain ⟨⟨h_left, h_due⟩, h_paid, h_config, k, h_next, h_new⟩ :=
    Call.released h_run h_op h_stored
  obtain ⟨d', h_d', h_move⟩ := (Call.change h_run).move h_stored
  obtain rfl : d' = d.withRelease k c.timestamp := Option.some.inj (h_d'.symm.trans h_new)
  obtain ⟨h_covered, h_funds⟩ := h_paid.funds h_pos.le h_terms'.freelancer h_terms'.collector
  have h_out := h_paid.paidOut h_pos.le
  rw [h_token] at h_covered h_funds h_out
  rcases h.stage with ⟨h_k, -, h_last, h_full, h_none⟩ | ⟨h_made, -⟩
  · refine ⟨_, h_d', h_move.wellFormed h.wellFormed, h.descends.trans h_move.descends,
      h_config.trans h.config, h.freelancer, .inr ⟨?_, ?_, ?_, ?_, ?_⟩⟩
    · rw [withRelease_releasesMade]
      omega
    · intro h_one
      refine if_pos (UInt32.le_iff_toNat_le.mpr ?_)
      have h_one' : d.recurrenceCount.toNat ≤ 1 := h_one
      omega
    · show d₂.lastReleaseTime.toNat + d₂.interval.toNat ≤ c.timestamp.toNat
      rw [← h_last, ← h.descends.interval]
      exact h_due
    · omega
    · omega
  · exact absurd h_run (h.no_second h_terms h_stored h_made h_op)

theorem Step.schedule {l : Label Address} (h_step : Step s l s') (h_terms : FairTerms s₂ d₂)
    (h_only : ReleaseOnly d₂.token ⟨s, l, s'⟩) (h_stored : s.storage.escrow = some d)
    (h : Schedule s₂ d₂ s d) : ∃ d', s'.storage.escrow = some d' ∧ Schedule s₂ d₂ s' d' := by
  cases h_step with
  | returned _ h_run => exact h.release h_terms h_stored h_run (h_only.1 _ rfl)
  | aborted => exact ⟨d, h_stored, h.wellFormed, h.descends, h.config, h.freelancer, h.stage⟩
  | @outside w ttl =>
      have h_funds : ((s.putWorld w).putTtl ttl).funds d₂.token = s.funds d₂.token := h_only.2 rfl
      refine ⟨d, h_stored, h.wellFormed, h.descends, h.config, h.freelancer, ?_⟩
      rw [h_funds]
      exact h.stage

/-- Release-only runs stay in the two stages. -/
theorem Run.schedule {tr : List (Entry H)} (h_run : Run s tr s') (h_terms : FairTerms s₂ d₂)
    (h_only : ∀ e ∈ tr, ReleaseOnly d₂.token e) (h_stored : s.storage.escrow = some d)
    (h : Schedule s₂ d₂ s d) : ∃ d', s'.storage.escrow = some d' ∧ Schedule s₂ d₂ s' d' := by
  refine h_run.invariant (I := fun t => ∃ d', t.storage.escrow = some d' ∧ Schedule s₂ d₂ t d')
    h_only ?_ ⟨d, h_stored, h⟩
  intro e h_e h_step ⟨d₁, h_d₁, h_inv⟩
  exact h_step.schedule h_terms h_e h_d₁ h_inv

end Runs

theorem Created.schedule {s₁ s₂ : State H} {c : Call Address} {a : CreateArgs Address}
    (h : Created s₁ c a s₂) (h_yield : a.yieldProtocol = none) (h_empty : s₁.funds a.token = 0)
    (h_payer : a.payer ≠ H.currentContract) :
    Schedule s₂ (a.stored c.timestamp) s₂ (a.stored c.timestamp) where
  wellFormed := h.wellFormed
  descends := .refl _
  config := rfl
  freelancer := rfl
  stage := by
    have h_funds := h.funds h_yield h_payer
    rw [h_empty, Int.zero_add] at h_funds
    exact .inl ⟨rfl, rfl, rfl, h_funds, rfl⟩

/-! ## Full funding -/

/-- A schedule whose second release never falls due is fully funded in both stages. -/
theorem Schedule.fullyFunded (h_live : H.Live) {s₂ s : State H} {d₂ d : EscrowData Address}
    (h : Schedule s₂ d₂ s d) (h_terms : FairTerms s₂ d₂) (h_stored : s.storage.escrow = some d)
    (h_run : s₂.paused = false) (h_interval : d₂.interval ≠ 0) (h_count : 0 < d₂.recurrenceCount)
    (h_last : d₂.recurrenceCount.toNat = 1 ∨
      2 ^ 64 ≤ d₂.lastReleaseTime.toNat + 2 * d₂.interval.toNat) :
    FullyFunded s₂ s d := by
  have h_token := h.descends.token
  have h_total := h.descends.totalAmount
  have h_n : d.recurrenceCount.toNat = d₂.recurrenceCount.toNat :=
    congrArg UInt32.toNat h.descends.recurrenceCount
  have h_n_pos : 0 < d₂.recurrenceCount.toNat := UInt32.lt_iff_toNat_lt.mp h_count
  have h_i : d.interval.toNat = d₂.interval.toNat := congrArg UInt64.toNat h.descends.interval
  rcases h.stage with ⟨h_k, h_active, -, h_full, -⟩ | ⟨h_k, h_done, h_late, h_empty, h_paid⟩
  · constructor
    · intro c h_op _ h_due
      refine Call.release_returns h_live h_op h_stored h.wellFormed.sound (h.fairTerms h_terms)
        (h.paused.trans h_run) ?_ h_active h_due ?_
      · rw [h.descends.interval]
        exact h_interval
      · rw [h_token, h_full, h_total]
    · intro h_all
      have h_all' := congrArg UInt32.toNat h_all
      omega
  · constructor
    · intro c _ _ ⟨h_left, h_elapsed⟩
      have h_left' := UInt32.lt_iff_toNat_lt.mp h_left
      have h_now := c.timestamp.toNat_lt
      -- one release was made: either it was the last, or the next is beyond the 64-bit clock
      omega
    · intro h_all
      have h_all' := congrArg UInt32.toNat h_all
      rw [h_token, h_total]
      exact ⟨h_done (by omega), h_empty, h_paid⟩

/-- A release that everybody authorises, at a given time. -/
def releaseAt (Address : Type) (t : Nat) : Call Address :=
  ⟨UInt64.ofNat t, fun _ => true, .releaseRecurring⟩

theorem releaseAt_timestamp {Address : Type} {t : Nat} (h : t < 2 ^ 64) :
    (releaseAt Address t).timestamp.toNat = t :=
  UInt64.toNat_ofNat_of_lt' h

/-- When a second release can fall due, two calls at the due times refute full funding. -/
theorem Schedule.underfunded (h_live : H.Live) {s₂ : State H} {d₂ : EscrowData Address}
    (h : Schedule s₂ d₂ s₂ d₂) (h_terms : FairTerms s₂ d₂) (h_stored : s₂.storage.escrow = some d₂)
    (h_run : s₂.paused = false) (h_time : s₂.time = d₂.lastReleaseTime) (h_interval : d₂.interval ≠ 0)
    (h_zero : d₂.releasesMade.toNat = 0) (h_count : 1 < d₂.recurrenceCount.toNat)
    (h_fits : d₂.lastReleaseTime.toNat + 2 * d₂.interval.toNat < 2 ^ 64) :
    ∃ tr s₃ d, Run s₂ tr s₃ ∧ (∀ e ∈ tr, ReleaseOnly d₂.token e) ∧ s₃.storage.escrow = some d ∧
      ¬FullyFunded s₂ s₃ d := by
  have h_active : d₂.status = .active := by
    rcases h.stage with ⟨-, h_st, -⟩ | ⟨h_one, -⟩
    · exact h_st
    · omega
  have h_full : d₂.totalAmount ≤ s₂.funds d₂.token := by
    rcases h.stage with ⟨-, -, -, h_eq, -⟩ | ⟨h_one, -⟩
    · exact h_eq.ge
    · omega
  -- the first release, at its due time, is paid
  let first := releaseAt Address (d₂.lastReleaseTime.toNat + d₂.interval.toNat)
  have h_first : first.timestamp.toNat = d₂.lastReleaseTime.toNat + d₂.interval.toNat :=
    releaseAt_timestamp (by omega)
  have h_due : ReleaseDue d₂ first.timestamp :=
    ⟨UInt32.lt_iff_toNat_lt.mpr (by omega), by omega⟩
  obtain ⟨s₃, h_ret⟩ := Call.release_returns h_live (c := first) rfl h_stored
    h.wellFormed.sound h_terms h_run h_interval h_active h_due h_full
  have h_order : s₂.time ≤ first.timestamp := by
    rw [UInt64.le_iff_toNat_le, h_time]
    omega
  have h_only : ReleaseOnly d₂.token ⟨s₂, .returned first, s₃⟩ := by
    refine ⟨?_, fun h_out => ?_⟩
    · intro c h_c
      cases h_c
      rfl
    · cases h_out
  obtain ⟨-, -, -, k, h_k, h_new⟩ := Call.released h_ret rfl h_stored
  obtain ⟨d, h_d, h_next⟩ := h.release h_terms h_stored h_ret rfl
  obtain rfl : d = d₂.withRelease k first.timestamp := Option.some.inj (h_d.symm.trans h_new)
  refine ⟨_, s₃, _, .single (.returned h_order h_ret), by simpa using h_only, h_d, ?_⟩
  intro h_funded
  -- the second release, at its due time, is not
  let second := releaseAt Address (d₂.lastReleaseTime.toNat + 2 * d₂.interval.toNat)
  have h_second : second.timestamp.toNat = d₂.lastReleaseTime.toNat + 2 * d₂.interval.toNat :=
    releaseAt_timestamp h_fits
  have h_order' : s₃.time ≤ second.timestamp := by
    rw [Call.run_time h_ret, UInt64.le_iff_toNat_le]
    omega
  have h_left : k.toNat < d₂.recurrenceCount.toNat := by omega
  have h_due' : ReleaseDue (d₂.withRelease k first.timestamp) second.timestamp := by
    refine ⟨UInt32.lt_iff_toNat_lt.mpr h_left, ?_⟩
    show first.timestamp.toNat + d₂.interval.toNat ≤ second.timestamp.toNat
    omega
  obtain ⟨s₄, h_ret'⟩ := h_funded.1 second rfl h_order' h_due'
  have h_made : (d₂.withRelease k first.timestamp).releasesMade.toNat = 1 := by
    rw [withRelease_releasesMade]
    omega
  exact h_next.no_second h_terms h_d h_made rfl h_ret'

/-- **A schedule is fully funded from the start**, over every run of releases, exactly when it has
    one release only or its second due time does not fit into 64 bits. -/
theorem fullyFunded_iff (h_live : H.Live) {s₁ s₂ : State H} {c : Call Address}
    {a : CreateArgs Address} (h_created : Created s₁ c a s₂) (h_interval : 0 < a.interval)
    (h_count : 0 < a.recurrenceCount) (h_yield : a.yieldProtocol = none)
    (h_empty : s₁.funds a.token = 0) (h_payer : a.payer ≠ H.currentContract)
    (h_terms : FairTerms s₂ (a.stored c.timestamp)) :
    (∀ tr s₃, Run s₂ tr s₃ → (∀ e ∈ tr, ReleaseOnly a.token e) →
        ∃ d, s₃.storage.escrow = some d ∧ FullyFunded s₂ s₃ d) ↔
      a.recurrenceCount.toNat = 1 ∨ 2 ^ 64 ≤ c.timestamp.toNat + 2 * a.interval.toNat := by
  have h_init := h_created.schedule h_yield h_empty h_payer
  have h_run : s₂.paused = false := by
    rw [State.paused, h_created.config]
    exact h_created.notPaused
  have h_interval' : a.interval ≠ 0 := by
    rintro h_zero
    rw [h_zero] at h_interval
    exact absurd h_interval (by decide)
  constructor
  · intro h_all
    by_contra h_not
    have h_n := UInt32.lt_iff_toNat_lt.mp h_count
    rw [UInt32.toNat_zero] at h_n
    have h_more : 1 < a.recurrenceCount.toNat := by omega
    have h_fits : c.timestamp.toNat + 2 * a.interval.toNat < 2 ^ 64 := by omega
    obtain ⟨tr, s₃, d, h_tr, h_only, h_d, h_unfunded⟩ := h_init.underfunded h_live h_terms
      h_created.stored h_run h_created.time h_interval' rfl h_more h_fits
    obtain ⟨d', h_d', h_funded⟩ := h_all tr s₃ h_tr h_only
    obtain rfl : d = d' := Option.some.inj (h_d.symm.trans h_d')
    exact h_unfunded h_funded
  · intro h_last tr s₃ h_tr h_only
    obtain ⟨d, h_d, h_inv⟩ := h_tr.schedule h_terms h_only h_created.stored h_init
    exact ⟨d, h_d, h_inv.fullyFunded h_live h_terms h_d h_run h_interval' h_count h_last⟩

theorem fullyFunded_iff_twice :
    (∀ tr s₃, Run (Sample.opened 100 0 Sample.twice) tr s₃ →
        (∀ e ∈ tr, ReleaseOnly 9 e) → ∃ d, s₃.storage.escrow = some d ∧
          FullyFunded (Sample.opened 100 0 Sample.twice) s₃ d) ↔
      Sample.twice.recurrenceCount.toNat = 1 ∨ 2 ^ 64 ≤ 1 + 2 * Sample.twice.interval.toNat :=
  fullyFunded_iff Sep41.ledger_live (Sample.opened_created (by decide)) (by decide) (by decide)
    rfl (by decide) (by decide) ⟨by decide, by decide, by decide, by decide⟩

/-- The second of two releases is due and fails: the first has paid out all that was locked. -/
theorem second_release_fails :
    ∃ (s₁ s₂ s₃ : State Sample.host) (c c' : Call Nat) (a : CreateArgs Nat)
      (tr : List (Entry Sample.host)) (d : EscrowData Nat), Reachable s₁ ∧ Created s₁ c a s₂ ∧
      a.interval = 10 ∧ a.recurrenceCount = 2 ∧ a.yieldProtocol = none ∧ s₁.funds a.token = 0 ∧
      (∀ m ∈ a.milestones, m.status = .pending) ∧
      Run s₂ tr s₃ ∧ (∀ e ∈ tr, ∃ c'', e.label = .returned c'' ∧ c''.op = .releaseRecurring) ∧
      s₃.storage.escrow = some d ∧ d.releasesMade = 1 ∧ s₃.funds a.token = 0 ∧
      c'.op = .releaseRecurring ∧ s₃.time ≤ c'.timestamp ∧ ReleaseDue d c'.timestamp ∧
      c'.returns s₃ = false :=
  ⟨_, Sample.opened 100 0 Sample.twice, _, _, Sample.call 21 .releaseRecurring, _, _, _,
    Sample.start_reachable 100 0, Sample.opened_created (by decide), rfl, rfl, rfl, by decide,
    by decide, run_play (l := [Sample.call 11 .releaseRecurring]) (by decide),
    List.forall_mem_singleton.mpr ⟨_, rfl, rfl⟩, rfl, rfl, by decide, rfl, by decide,
    ⟨by decide, by decide⟩, by decide⟩

end StarEscrow.Escrow
