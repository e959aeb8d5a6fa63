/-
  StarEscrow.Reputation.Journal

  The reputation events as a journal of the statistics.

  A reader keeps the statistics of every address and accepts an event only if
  it counts one outcome more than before.  So the events of an address are as
  many as its outcomes, and the last of them is what `get_stats` answers.
-/

import StarEscrow.Lib.Journal
import StarEscrow.Reputation.Counts

namespace StarEscrow.Reputation

open Journal

variable {Address : Type} [DecidableEq Address]

/-- What a reader knows: the statistics of every address. -/
abbrev Board (Address : Type) : Type := Address → ReputationStats

def Board.empty : Board Address := fun _ => ⟨0, 0⟩

/-- The number of outcomes counted. -/
def ReputationStats.total (stats : ReputationStats) : Nat :=
  stats.completed.toNat + stats.cancelled.toNat

/-- One outcome more, and the other counter as it was. -/
def ReputationStats.Extends (old new : ReputationStats) : Prop :=
  new.completed.toNat = old.completed.toNat + 1 ∧ new.cancelled = old.cancelled ∨
    new.completed = old.completed ∧ new.cancelled.toNat = old.cancelled.toNat + 1

instance (old new : ReputationStats) : Decidable (old.Extends new) :=
  inferInstanceAs (Decidable (_ ∨ _))

def Event.address : Event Address → Address
  | .reputationUpdated a _ _ => a

/-- What the reader makes of an event; `none` when it does not continue the statistics. -/
def readEvent (v : Board Address) : Event Address → Option (Board Address)
  | .reputationUpdated a n m =>
      if (v a).Extends ⟨n, m⟩ then some fun b => if b = a then ⟨n, m⟩ else v b else none

/-! ## Reading -/

theorem ReputationStats.Extends.total {old new : ReputationStats} (h : old.Extends new) :
    new.total = old.total + 1 := by
  unfold ReputationStats.total
  rcases h with ⟨h_completed, h_cancelled⟩ | ⟨h_completed, h_cancelled⟩
  · rw [h_completed, h_cancelled]
    omega
  · rw [h_completed, h_cancelled]
    omega

/-- Every event that is accepted counts one outcome of its address. -/
theorem replay_total {es : List (Event Address)} {v v' : Board Address}
    (h : replay readEvent v es = some v') (a : Address) :
    (v' a).total = (v a).total + es.countP (·.address = a) := by
  induction es generalizing v with
  | nil =>
      rw [replay_nil, Option.some.injEq] at h
      rw [h, List.countP_nil, Nat.add_zero]
  | cons e es ih =>
      obtain ⟨v₁, h_read, h_rest⟩ := replay_cons.mp h
      obtain ⟨b, n, m⟩ := e
      rw [ih h_rest, List.countP_cons]
      rw [readEvent] at h_read
      split at h_read
      · rename_i h_extends
        obtain rfl := Option.some.inj h_read
        by_cases h_a : a = b
        · subst h_a
          have h_total := h_extends.total
          simp only [if_true, Event.address, decide_true]
          omega
        · have h_other : decide ((Event.reputationUpdated b n m).address = a) = false :=
            decide_eq_false fun h => h_a h.symm
          simp only [if_neg h_a, h_other, Bool.false_eq_true, if_false, Nat.add_zero]
      · cases h_read

/-! ## Writing -/

theorem Outcome.bump_extends {o : Outcome} {stats stats' : ReputationStats}
    (h : o.bump stats = some stats') : stats.Extends stats' := by
  cases o with
  | completion =>
      obtain ⟨n, h_n, rfl⟩ := Option.map_eq_some_iff.mp h
      exact .inl ⟨Checked.succU32_eq_some.mp h_n, rfl⟩
  | cancellation =>
      obtain ⟨n, h_n, rfl⟩ := Option.map_eq_some_iff.mp h
      exact .inr ⟨rfl, Checked.succU32_eq_some.mp h_n⟩

/-- A call as a step. -/
def Performs (s : State Address) (c : Call Address) (s' : State Address) : Prop := s' = c.perform s

theorem run_play (calls : List (Call Address)) :
    ∃ tr, Lts.Run Performs (.empty : State Address) tr (play calls) := by
  induction calls using List.reverseRecOn with
  | nil => exact ⟨[], .refl⟩
  | append_singleton calls c ih =>
      obtain ⟨tr, h_run⟩ := ih
      exact ⟨_, h_run.tail (play_snoc calls c)⟩

/-- The board is right about the state. -/
def Shows (s : State Address) (v : Board Address) : Prop := ∀ a, v a = getStats a s

/-- The reader of the events keeps up with the contract. -/
theorem tracks_events :
    Tracks Performs (fun s : State Address => s.events) readEvent Shows where
  step := by
    intro s s' c v h_step h_v
    obtain rfl : s' = c.perform s := h_step
    have h_quiet {t : State Address} (h_events : t.events = s.events)
        (h_stats : t.storage.stats = s.storage.stats) :
        ∃ es v', t.events = s.events ++ es ∧ replay readEvent v es = some v' ∧ Shows t v' := by
      refine ⟨[], v, by rw [h_events, List.append_nil], rfl, fun a => ?_⟩
      rw [h_v a, getStats, getStats, loadStats, loadStats, h_stats]
    unfold Call.perform
    cases h_run : c.run s with
    | error f => exact h_quiet rfl rfl
    | ok t =>
        obtain ⟨auth, op⟩ := c
        cases op with
        | init admin =>
            obtain ⟨-, rfl⟩ := init_ok.mp h_run
            exact h_quiet rfl rfl
        | registerCaller caller =>
            obtain ⟨-, rfl⟩ := registerCaller_ok.mp h_run
            exact h_quiet rfl rfl
        | record o caller address =>
            obtain ⟨-, -, stats, h_bump, rfl⟩ := Outcome.exec_ok.mp h_run
            have h_extends := Outcome.bump_extends h_bump
            rw [← h_v address] at h_extends
            refine ⟨_, _, rfl, replay_one.trans (if_pos h_extends), fun a => ?_⟩
            rw [getStats_recorded, ← h_v a]

/-- **The reputation events tell the statistics.**  After any calls no event contradicts those
    before it, together they tell the statistics of every address, and an address has as many
    events as outcomes. -/
theorem reputation_events_replay (calls : List (Call Address)) :
    ∃ v, replay readEvent .empty (play calls).events = some v ∧
      ∀ a, v a = getStats a (play calls) ∧
        (play calls).events.countP (·.address = a) = (getStats a (play calls)).total := by
  obtain ⟨tr, h_run⟩ := run_play calls
  obtain ⟨v, h_replay, h_v⟩ := tracks_events.run h_run rfl (v := .empty) fun _ => rfl
  refine ⟨v, h_replay, fun a => ⟨h_v a, ?_⟩⟩
  have h_total := replay_total h_replay a
  have h_none : (Board.empty a : ReputationStats).total = 0 := rfl
  rw [← h_v a]
  omega

end StarEscrow.Reputation
