/-
  StarEscrow.Lib.Positions

  Counting the entries of a list by what comes before them.

  A log is a list, oldest entry first, and whether an entry counts may depend
  on the entries before it.  `countAt P l` is the number of positions of `l`
  whose entry `x`, with the prefix `before` in front of it, satisfies
  `P before x`.
-/

import Mathlib.Data.List.Induction
import Mathlib.Data.List.Perm.Basic

namespace Positions

variable {α : Type} {P : List α → α → Bool} {l l' : List α} {x : α}

/-- The number of positions `k` with `P (l.take k) l[k]`. -/
def countAt (P : List α → α → Bool) (l : List α) : Nat :=
  (List.range l.length).countP fun k => l[k]?.any (P (l.take k))

/-- One more entry counts, or it does not. -/
theorem countAt_snoc (P : List α → α → Bool) (l : List α) (x : α) :
    countAt P (l ++ [x]) = countAt P l + if P l x then 1 else 0 := by
  have h_old : ∀ k ∈ List.range l.length,
      ((l ++ [x])[k]?.any (P ((l ++ [x]).take k)) = true ↔ l[k]?.any (P (l.take k)) = true) := by
    intro k h_k
    have h_k := List.mem_range.mp h_k
    rw [List.getElem?_append_left h_k, List.take_append_of_le_length (Nat.le_of_lt h_k)]
  have h_new : (l ++ [x])[l.length]?.any (P ((l ++ [x]).take l.length)) = P l x := by
    rw [List.take_left, List.getElem?_append_right (Nat.le_refl _), Nat.sub_self]
    rfl
  rw [countAt, List.length_append, List.length_singleton, List.range_succ, List.countP_append,
    List.countP_congr h_old, List.countP_singleton, h_new]
  rfl

/-- Entries that count or not whatever comes between them and `l` are counted one by one. -/
theorem countAt_append (h : ∀ pre x, pre <+: l' → x ∈ l' → P (l ++ pre) x = P l x) :
    countAt P (l ++ l') = countAt P l + l'.countP (P l) := by
  induction l' using List.reverseRecOn with
  | nil => rw [List.append_nil, List.countP_nil, Nat.add_zero]
  | append_singleton l' x ih =>
      have h_prefix : ∀ pre y, pre <+: l' → y ∈ l' → P (l ++ pre) y = P l y :=
        fun pre y h_pre h_y =>
          h pre y (h_pre.trans (List.prefix_append l' [x])) (List.mem_append_left _ h_y)
      have h_last : P (l ++ l') x = P l x :=
        h l' x (List.prefix_append l' [x]) (List.mem_append_right _ (List.mem_singleton_self x))
      rw [← List.append_assoc, countAt_snoc, ih h_prefix, h_last, List.countP_append,
        List.countP_singleton]
      omega

end Positions
