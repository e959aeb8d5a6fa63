/-
  StarEscrow.Lib.Checked

  Fixed-width integer arithmetic that traps on overflow.

  Rust code compiled with `overflow-checks` either produces the exact result
  or stops.  Each operation here is an `Option`: `none` is the trap, `some` is
  the exact value.  128-bit signed values are `Int`s with a range predicate
  (there is no `Int128`); unsigned values are Lean's own `UInt64` / `UInt32`.
  The saturating additions stop at the largest value instead.
-/

import Mathlib.Algebra.Order.BigOperators.Group.List
import Mathlib.Algebra.Order.Ring.Int

namespace Checked

/-- The values of a 128-bit signed integer. -/
def InI128 (x : Int) : Prop := -2 ^ 127 ≤ x ∧ x < 2 ^ 127

instance : DecidablePred InI128 := fun x =>
  inferInstanceAs (Decidable (-2 ^ 127 ≤ x ∧ x < 2 ^ 127))

/-- Keep an exact 128-bit result, trap on any other. -/
def i128 (x : Int) : Option Int := if InI128 x then some x else none

theorem i128_eq_some {x y : Int} : i128 x = some y ↔ InI128 x ∧ y = x := by
  unfold i128
  split <;> simp_all [eq_comm]

theorem i128_of_inI128 {x : Int} (h : InI128 x) : i128 x = some x := if_pos h

/-- A nonnegative value below an in-range one is in range. -/
theorem inI128_of_le {x y : Int} (h_nonneg : 0 ≤ x) (h_le : x ≤ y) (h : InI128 y) : InI128 x := by
  unfold InI128 at *
  omega

theorem inI128_zero : InI128 0 := by decide

/-- `acc + x₁ + x₂ + …`, left to right, each partial sum checked. -/
def sumI128 : Int → List Int → Option Int
  | acc, [] => some acc
  | acc, x :: xs => (i128 (acc + x)).bind fun acc => sumI128 acc xs

/-- A checked sum that returns, returns the exact sum. -/
theorem sumI128_exact {xs : List Int} {acc y : Int} (h : sumI128 acc xs = some y) :
    y = acc + xs.sum := by
  induction xs generalizing acc with
  | nil => simpa [sumI128, eq_comm] using h
  | cons x xs ih =>
      obtain ⟨acc', h_acc, h_rest⟩ := Option.bind_eq_some_iff.mp h
      rw [ih h_rest, (i128_eq_some.mp h_acc).2, List.sum_cons, Int.add_assoc]

/-- Nonnegative terms whose total is in range never trap on the way. -/
theorem sumI128_of_nonneg {xs : List Int} {acc : Int} (h_acc : 0 ≤ acc)
    (h_nonneg : ∀ x ∈ xs, 0 ≤ x) (h_range : InI128 (acc + xs.sum)) :
    sumI128 acc xs = some (acc + xs.sum) := by
  induction xs generalizing acc with
  | nil => simp [sumI128]
  | cons x xs ih =>
      have hx : 0 ≤ x := h_nonneg x (by simp)
      have hxs : 0 ≤ xs.sum := List.sum_nonneg fun y hy => h_nonneg y (by simp [hy])
      rw [List.sum_cons, ← Int.add_assoc] at h_range
      have h_head : InI128 (acc + x) := inI128_of_le (by omega) (by omega) h_range
      rw [sumI128, i128_of_inI128 h_head, Option.bind_some, List.sum_cons, ← Int.add_assoc]
      exact ih (by omega) (fun y hy => h_nonneg y (by simp [hy])) h_range

/-! ## Unsigned -/

/-- `u64` addition. -/
def addU64 (a b : UInt64) : Option UInt64 :=
  if a.toNat + b.toNat < 2 ^ 64 then some (a + b) else none

theorem addU64_eq_some {a b c : UInt64} :
    addU64 a b = some c ↔ c.toNat = a.toNat + b.toNat := by
  have hc := c.toNat_lt
  unfold addU64
  split
  · rename_i h
    have h_sum : (a + b).toNat = a.toNat + b.toNat := by
      rw [UInt64.toNat_add, Nat.mod_eq_of_lt h]
    rw [Option.some.injEq, ← h_sum]
    exact ⟨fun h => h ▸ rfl, fun h => UInt64.toNat_inj.mp h.symm⟩
  · simp only [reduceCtorEq, false_iff]
    omega

/-- `u32` increment. -/
def succU32 (a : UInt32) : Option UInt32 :=
  if a.toNat + 1 < 2 ^ 32 then some (a + 1) else none

theorem succU32_eq_some {a b : UInt32} : succU32 a = some b ↔ b.toNat = a.toNat + 1 := by
  have hb := b.toNat_lt
  unfold succU32
  split
  · rename_i h
    have h_succ : (a + 1).toNat = a.toNat + 1 := by
      rw [UInt32.toNat_add, UInt32.toNat_one, Nat.mod_eq_of_lt h]
    rw [Option.some.injEq, ← h_succ]
    exact ⟨fun h => h ▸ rfl, fun h => UInt32.toNat_inj.mp h.symm⟩
  · simp only [reduceCtorEq, false_iff]
    omega

/-- `u32` multiplication. -/
def mulU32 (a b : UInt32) : Option UInt32 :=
  if a.toNat * b.toNat < 2 ^ 32 then some (a * b) else none

theorem mulU32_eq_some {a b c : UInt32} : mulU32 a b = some c ↔ c.toNat = a.toNat * b.toNat := by
  have hc := c.toNat_lt
  unfold mulU32
  split
  · rename_i h
    have h_mul : (a * b).toNat = a.toNat * b.toNat := by
      rw [UInt32.toNat_mul, Nat.mod_eq_of_lt h]
    rw [Option.some.injEq, ← h_mul]
    exact ⟨fun h => h ▸ rfl, fun h => UInt32.toNat_inj.mp h.symm⟩
  · simp only [reduceCtorEq, false_iff]
    omega

theorem mulU32_returns {a b : UInt32} (h : a.toNat * b.toNat < 2 ^ 32) :
    ∃ c, mulU32 a b = some c := ⟨a * b, if_pos h⟩

/-! ## Saturating -/

/-- `u64::saturating_add`. -/
def satAddU64 (a b : UInt64) : UInt64 :=
  if a.toNat + b.toNat < 2 ^ 64 then a + b else UInt64.ofNat (2 ^ 64 - 1)

/-- `u32::saturating_add`. -/
def satAddU32 (a b : UInt32) : UInt32 :=
  if a.toNat + b.toNat < 2 ^ 32 then a + b else UInt32.ofNat (2 ^ 32 - 1)

theorem satAddU64_toNat {a b : UInt64} (h : a.toNat + b.toNat < 2 ^ 64) :
    (satAddU64 a b).toNat = a.toNat + b.toNat := by
  rw [satAddU64, if_pos h, UInt64.toNat_add, Nat.mod_eq_of_lt h]

theorem satAddU32_toNat {a b : UInt32} (h : a.toNat + b.toNat < 2 ^ 32) :
    (satAddU32 a b).toNat = a.toNat + b.toNat := by
  rw [satAddU32, if_pos h, UInt32.toNat_add, Nat.mod_eq_of_lt h]

end Checked
