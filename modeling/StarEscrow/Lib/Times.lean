/-
  StarEscrow.Lib.Times

  Lists of event times.

  `Spaced gap t₀ ts` says that the times in `ts` follow `t₀`, and each other,
  at distances of at least `gap`.  Times are natural numbers, so no sum below
  can wrap.
-/

import Mathlib.Data.List.Basic
import Mathlib.Tactic.Linarith

namespace Times

/-- Each time comes at least `gap` after the one before it, the first after `t₀`. -/
def Spaced (gap : Nat) : Nat → List Nat → Prop
  | _, [] => True
  | t₀, t :: ts => t₀ + gap ≤ t ∧ Spaced gap t ts

namespace Spaced

variable {gap t₀ t t' k : Nat} {ts : List Nat}

/-- A time far enough after the last one extends the list. -/
theorem snoc (h : Spaced gap t₀ ts) (h_late : ts.getLastD t₀ + gap ≤ t) :
    Spaced gap t₀ (ts ++ [t]) := by
  induction ts generalizing t₀ with
  | nil => exact ⟨h_late, trivial⟩
  | cons u ts ih =>
      rw [List.getLastD_cons] at h_late
      exact ⟨h.1, ih h.2 h_late⟩

/-- The `k`-th time, counted from zero, is at least `k + 1` gaps after the start. -/
theorem le_get (h : Spaced gap t₀ ts) (h_get : ts[k]? = some t) : t₀ + (k + 1) * gap ≤ t := by
  induction ts generalizing t₀ k with
  | nil => cases h_get
  | cons u ts ih =>
      obtain ⟨h_first, h_rest⟩ := h
      cases k with
      | zero =>
          rw [List.getElem?_cons_zero, Option.some.injEq] at h_get
          omega
      | succ k =>
          have h_tail := ih h_rest h_get
          have h_split : (k + 1 + 1) * gap = (k + 1) * gap + gap := Nat.succ_mul _ _
          omega

theorem gap_le (h : Spaced gap t₀ ts) (h_get : ts[k]? = some t) (h_next : ts[k + 1]? = some t') :
    t + gap ≤ t' := by
  induction ts generalizing t₀ k with
  | nil => cases h_get
  | cons u ts ih =>
      cases k with
      | zero =>
          obtain rfl := Option.some.inj h_get
          have h_one := le_get h.2 h_next
          rw [Nat.zero_add, Nat.one_mul] at h_one
          exact h_one
      | succ k => exact ih h.2 h_get h_next

end Spaced

end Times
