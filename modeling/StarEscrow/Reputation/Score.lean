/-
  StarEscrow.Reputation.Score

  The reputation score over all histories.

  `get_reputation` multiplies each counter in `u32` before it subtracts, and
  only the subtraction saturates.  So the score is `10 c - 5 x`, cut off at
  zero, as long as both products fit; from 429496730 completions or 858993460
  cancellations on it cannot be read, whatever the difference is.
-/

import StarEscrow.Reputation.Counts

namespace StarEscrow.Reputation

open Invoke Positions

variable {Address : Type} {a : Address} {s : State Address} {r : UInt32}

/-- The counter of an outcome, as a number. -/
def recorded (o : Outcome) (a : Address) (s : State Address) : Nat := (o.count (getStats a s)).toNat

/-- Both products of `get_reputation` fit into `u32`. -/
def ScoreFits (a : Address) (s : State Address) : Prop :=
  10 * recorded .completion a s < 2 ^ 32 ∧ 5 * recorded .cancellation a s < 2 ^ 32

/-- The score in unbounded integers. -/
def exactScore (a : Address) (s : State Address) : Int :=
  max 0 (10 * recorded .completion a s - 5 * recorded .cancellation a s)

theorem getReputation_ok : getReputation a s = .ok r ↔
    ∃ p n : UInt32, p.toNat = recorded .completion a s * 10 ∧
      n.toNat = recorded .cancellation a s * 5 ∧ r = if p < n then 0 else p - n := by
  simp only [getReputation, bind_ok, orTrap_ok, pure_ok, Checked.mulU32_eq_some]
  constructor
  · rintro ⟨p, h_p, n, h_n, rfl⟩
    exact ⟨p, n, h_p, h_n, rfl⟩
  · rintro ⟨p, n, h_p, h_n, rfl⟩
    exact ⟨p, h_p, n, h_n, rfl⟩

/-- A score that is returned is exact, and its products fit. -/
theorem getReputation_exact (h : getReputation a s = .ok r) :
    ScoreFits a s ∧ (r.toNat : Int) = exactScore a s := by
  obtain ⟨p, n, h_p, h_n, rfl⟩ := getReputation_ok.mp h
  have h_p_lt := p.toNat_lt
  have h_n_lt := n.toNat_lt
  constructor
  · constructor <;> omega
  · unfold exactScore
    by_cases h_neg : p < n
    · have h_neg' := UInt32.lt_iff_toNat_lt.mp h_neg
      rw [if_pos h_neg, UInt32.toNat_zero]
      omega
    · have h_le : n ≤ p := UInt32.not_lt.mp h_neg
      have h_le' := UInt32.le_iff_toNat_le.mp h_le
      rw [if_neg h_neg, UInt32.toNat_sub_of_le _ _ h_le]
      omega

/-- A score whose products fit is returned. -/
theorem ScoreFits.returns (h : ScoreFits a s) : ∃ r, getReputation a s = .ok r := by
  obtain ⟨h_c, h_x⟩ := h
  obtain ⟨p, h_p⟩ := Checked.mulU32_returns (a := (getStats a s).completed) (b := 10)
    (by rw [Nat.mul_comm]; exact h_c)
  obtain ⟨n, h_n⟩ := Checked.mulU32_returns (a := (getStats a s).cancelled) (b := 5)
    (by rw [Nat.mul_comm]; exact h_x)
  rw [Checked.mulU32_eq_some] at h_p h_n
  exact ⟨_, getReputation_ok.mpr ⟨p, n, h_p, h_n, rfl⟩⟩

variable [DecidableEq Address]

/-- A call moves each counter up by at most one record of its own outcome. -/
theorem recorded_perform (auth : Address → Bool) (o o' : Outcome) (caller address : Address) :
    recorded o' a s ≤ recorded o' a (Call.perform ⟨auth, .record o caller address⟩ s) ∧
      (o ≠ o' → recorded o' a (Call.perform ⟨auth, .record o caller address⟩ s) =
        recorded o' a s) := by
  have h_lt := (o'.count (getStats a s)).toNat_lt
  unfold recorded
  rw [count_perform_record]
  constructor
  · omega
  · intro h_ne
    rw [if_neg fun h => h_ne h.1.1]
    omega

/-- **The score is defined, and exact, exactly when both products fit**, for every address in every
    state that calls reach.  Where it is defined before and after one more record, a completion does
    not lower it and a cancellation does not raise it. -/
theorem score_exact_iff (calls : List (Call Address)) (a : Address) :
    ((∃ r, getReputation a (play calls) = .ok r ∧ (r.toNat : Int) = exactScore a (play calls)) ↔
      ScoreFits a (play calls)) ∧
    ∀ (auth : Address → Bool) (o : Outcome) (caller address : Address) (r r' : UInt32),
      getReputation a (play calls) = .ok r →
      getReputation a (play (calls ++ [⟨auth, .record o caller address⟩])) = .ok r' →
        (o = .completion → r ≤ r') ∧ (o = .cancellation → r' ≤ r) := by
  constructor
  · constructor
    · rintro ⟨r, h_r, -⟩
      exact (getReputation_exact h_r).1
    · intro h_fits
      obtain ⟨r, h_r⟩ := ScoreFits.returns h_fits
      exact ⟨r, h_r, (getReputation_exact h_r).2⟩
  · intro auth o caller address r r' h_r h_r'
    rw [play_snoc] at h_r'
    have h_before := (getReputation_exact h_r).2
    have h_after := (getReputation_exact h_r').2
    obtain ⟨h_c, h_c_same⟩ :=
      recorded_perform (a := a) (s := play calls) auth o .completion caller address
    obtain ⟨h_x, h_x_same⟩ :=
      recorded_perform (a := a) (s := play calls) auth o .cancellation caller address
    unfold exactScore at h_before h_after
    constructor
    · rintro rfl
      have h_x_eq := h_x_same (by decide)
      rw [UInt32.le_iff_toNat_le]
      omega
    · rintro rfl
      have h_c_eq := h_c_same (by decide)
      rw [UInt32.le_iff_toNat_le]
      omega

namespace Sample

/-- The caller at 2 records `n` completions for the address 7. -/
def completions (n : Nat) : List (Call Nat) :=
  [call (.init 1), call (.registerCaller 2)] ++ List.replicate n (call (.record .completion 2 7))

theorem completions_noRegistration (n : Nat) :
    NoRegistration [call (.init 1), call (.registerCaller 2)]
      (List.replicate n (call (.record .completion 2 7))) := by
  intro c h_c x h_op
  rw [List.eq_of_mem_replicate h_c] at h_op
  cases h_op

theorem count_completions (n : Nat) (o : Outcome) :
    countAt (records o 7) (completions n) = if o = .completion then n else 0 := by
  rw [completions, (completions_noRegistration n).countAt_records, List.countP_replicate]
  cases o with
  | completion =>
      show 0 + n = n
      omega
  | cancellation => rfl

/-- They are recorded, and too many of them make the score trap. -/
theorem completions_trap (n : Nat) (h_lt : n < 2 ^ 32) (h_large : 2 ^ 32 ≤ n * 10) :
    recorded .completion 7 (play (completions n)) = n ∧
      recorded .cancellation 7 (play (completions n)) = 0 ∧
      getReputation 7 (play (completions n)) = .error (.trap .overflow) := by
  have h_completed := count_exact (completions n) .completion 7
  have h_cancelled := count_exact (completions n) .cancellation 7
  rw [count_completions, if_pos rfl] at h_completed
  rw [count_completions, if_neg (by decide)] at h_cancelled
  refine ⟨h_completed h_lt, h_cancelled (by decide), ?_⟩
  have h_counter : (loadStats 7 (play (completions n))).completed.toNat = n := h_completed h_lt
  have h_ten : (10 : UInt32).toNat = 10 := rfl
  have h_mul : Checked.mulU32 (loadStats 7 (play (completions n))).completed 10 = none := by
    rw [Checked.mulU32, if_neg]
    rw [h_counter, h_ten]
    omega
  simp only [getReputation, h_mul]
  rfl

end Sample

/-- After 429496730 completions, and no cancellation, reading the score traps: ten times the
    counter is four more than the largest `u32`. -/
theorem score_unreadable :
    ∃ calls : List (Call Nat), recorded .completion 7 (play calls) = 429496730 ∧
      recorded .cancellation 7 (play calls) = 0 ∧
      getReputation 7 (play calls) = .error (.trap .overflow) :=
  ⟨Sample.completions 429496730, Sample.completions_trap 429496730 (by decide) (by decide)⟩

end StarEscrow.Reputation
