/-
  StarEscrow.Lib.Rounding

  Sums of rounded-down quotients.

  Dividing the terms of a sum one by one, each rounded down, loses the
  remainders.  There is one remainder for each term, each is less than the
  divisor, so what is lost against dividing the whole sum is less than the
  number of terms.  The same then holds for shares of the terms, each at the
  rate `p / q`.
-/

import Mathlib.Algebra.BigOperators.Ring.List
import Mathlib.Algebra.Order.BigOperators.Group.List
import Mathlib.Algebra.Order.Ring.Int
import Mathlib.Tactic.Linarith

namespace Rounding

variable {q : Int} {l : List Int}

/-- Quotients and remainders put the terms back together. -/
theorem mul_sum_ediv_add_sum_emod (l : List Int) (q : Int) :
    q * (l.map (· / q)).sum + (l.map (· % q)).sum = l.sum := by
  induction l with
  | nil => simp
  | cons x xs ih =>
      simp only [List.map_cons, List.sum_cons]
      have h_head := Int.mul_ediv_add_emod x q
      rw [Int.mul_add]
      omega

theorem sum_emod_nonneg (h_q : 0 < q) : 0 ≤ (l.map (· % q)).sum := by
  apply List.sum_nonneg
  intro r h_r
  obtain ⟨x, -, rfl⟩ := List.mem_map.mp h_r
  exact Int.emod_nonneg x (by omega)

/-- Each remainder is at most `q - 1`. -/
theorem sum_emod_le (h_q : 0 < q) : (l.map (· % q)).sum ≤ q * l.length - l.length := by
  induction l with
  | nil => simp
  | cons x xs ih =>
      simp only [List.map_cons, List.sum_cons, List.length_cons, Nat.cast_add, Nat.cast_one]
      have h_head := Int.emod_lt_of_pos x h_q
      rw [Int.mul_add, Int.mul_one]
      omega

/-- Rounding term by term never gains. -/
theorem sum_ediv_le (h_q : 0 < q) : (l.map (· / q)).sum ≤ l.sum / q := by
  have h_split := mul_sum_ediv_add_sum_emod l q
  have h_nonneg := sum_emod_nonneg (l := l) h_q
  apply Int.le_ediv_of_mul_le h_q
  rw [Int.mul_comm]
  omega

/-- Rounding `n` terms one by one loses at most `n - 1`. -/
theorem ediv_sum_le (h_q : 0 < q) (h_ne : l ≠ []) :
    l.sum / q ≤ (l.map (· / q)).sum + (l.length - 1) := by
  have h_split := mul_sum_ediv_add_sum_emod l q
  have h_le := sum_emod_le (l := l) h_q
  have h_len : 0 < l.length := List.length_pos_iff.mpr h_ne
  have h_lt : l.sum < ((l.map (· / q)).sum + l.length) * q := by
    rw [Int.mul_comm, Int.mul_add]
    omega
  have h_quotient := Int.ediv_lt_of_lt_mul h_q h_lt
  omega

/-! ## Shares -/

/-- Sharing term by term never gains. -/
theorem sum_share_le (h_q : 0 < q) (p : Int) :
    (l.map fun x => x * p / q).sum ≤ l.sum * p / q := by
  have h_le := sum_ediv_le (l := l.map (· * p)) h_q
  rwa [List.map_map, List.sum_map_mul_right, List.map_id'] at h_le

/-- Sharing `n` terms one by one loses at most `n - 1`. -/
theorem share_sum_le (h_q : 0 < q) (p : Int) (h_ne : l ≠ []) :
    l.sum * p / q ≤ (l.map fun x => x * p / q).sum + (l.length - 1) := by
  have h_ne' : l.map (· * p) ≠ [] := by
    intro h_nil
    exact h_ne (List.map_eq_nil_iff.mp h_nil)
  have h_le := ediv_sum_le h_q h_ne'
  rwa [List.map_map, List.sum_map_mul_right, List.map_id', List.length_map] at h_le

end Rounding
