/-
  StarEscrow.Lib.Sep41

  The part of the SEP-41 token interface a contract relies on when it moves
  its own tokens: a balance for every token and holder, and a `transfer` that
  moves exactly the given amount, refuses negative amounts and refuses to
  overdraw the sender.

  Tokens are third-party code, so they are a structure of operations together
  with the laws that code is documented to obey.  `Sep41.ledger` is the plain
  implementation (a table of balances); `Live` is the extra promise that the
  two documented reasons to refuse are the only ones.
-/

import Mathlib.Tactic.Linarith

/-- `bal` after `x` units of `token` went from `src` to `dst`. -/
def movedBalance {Address : Type} [DecidableEq Address] (bal : Address → Address → Int)
    (token src dst : Address) (x : Int) : Address → Address → Int := fun t a =>
  bal t a - (if t = token ∧ a = src then x else 0) + (if t = token ∧ a = dst then x else 0)

/-- Token contracts: `World` is the state of all of them together. -/
structure Sep41 (Address : Type) [DecidableEq Address] where
  World : Type
  /-- `balance w token holder`. -/
  balance : World → Address → Address → Int
  /-- `transfer w token src dst amount`; `none` when the token contract traps. -/
  transfer : World → Address → Address → Address → Int → Option World
  transfer_covered : ∀ {w w' : World} {token src dst : Address} {x : Int},
    transfer w token src dst x = some w' → 0 ≤ x ∧ x ≤ balance w token src
  balance_transfer : ∀ {w w' : World} {token src dst : Address} {x : Int},
    transfer w token src dst x = some w' →
      balance w' = movedBalance (balance w) token src dst x

namespace Sep41

variable {Address : Type} [DecidableEq Address]

/-! ## Consequences of the laws -/

section Laws

variable {T : Sep41 Address} {w w' : T.World} {token src dst : Address} {x : Int}

theorem balance_src (h : T.transfer w token src dst x = some w') (h_ne : dst ≠ src) :
    T.balance w' token src = T.balance w token src - x := by
  rw [T.balance_transfer h]
  simp [movedBalance, h_ne.symm]

theorem balance_dst (h : T.transfer w token src dst x = some w') (h_ne : dst ≠ src) :
    T.balance w' token dst = T.balance w token dst + x := by
  rw [T.balance_transfer h]
  simp [movedBalance, h_ne]

/-- What a transfer does to one balance. -/
theorem balance_apply (h : T.transfer w token src dst x = some w') (t a : Address) :
    T.balance w' t a = T.balance w t a - (if t = token ∧ a = src then x else 0) +
      (if t = token ∧ a = dst then x else 0) := by
  rw [T.balance_transfer h, movedBalance]

/-- What a transfer adds to the balances, negative at the source. -/
theorem balance_add (h : T.transfer w token src dst x = some w') :
    T.balance w' = T.balance w + movedBalance 0 token src dst x := by
  funext t a
  rw [balance_apply h]
  simp only [movedBalance, Pi.add_apply, Pi.zero_apply]
  omega

/-- A transfer to oneself changes no balance. -/
theorem balance_self (h : T.transfer w token src src x = some w') :
    T.balance w' = T.balance w := by
  rw [T.balance_transfer h]
  funext t a
  simp [movedBalance]

/-- A transfer lowers a balance by at most the amount, and only in its own token. -/
theorem le_balance (h : T.transfer w token src dst x = some w') (t a : Address) :
    T.balance w t a - (if t = token then x else 0) ≤ T.balance w' t a := by
  have h_nonneg := (T.transfer_covered h).1
  rw [T.balance_apply h]
  by_cases h_t : t = token
  · simp only [h_t, true_and, if_true]
    split <;> split <;> omega
  · simp only [h_t, false_and, if_false]
    omega

end Laws

/-! ## Spared holders -/

/-- No balance of `a` is lower in `w'` than in `w`. -/
def Spares (T : Sep41 Address) (a : Address) (w w' : T.World) : Prop :=
  ∀ token, T.balance w token a ≤ T.balance w' token a

namespace Spares

variable {T : Sep41 Address} {a : Address} {w w' w'' : T.World}

theorem refl (w : T.World) : T.Spares a w w := fun _ => le_refl _

theorem trans (h : T.Spares a w w') (h' : T.Spares a w' w'') : T.Spares a w w'' :=
  fun token => (h token).trans (h' token)

/-- A transfer spares everybody but its source. -/
theorem of_transfer {token src dst : Address} {x : Int}
    (h : T.transfer w token src dst x = some w') (h_ne : a ≠ src) : T.Spares a w w' := by
  intro t
  have h_nonneg := (T.transfer_covered h).1
  rw [T.balance_apply h, if_neg fun h => h_ne h.2]
  split <;> omega

end Spares

/-- The token refuses a transfer only for a negative amount or an insufficient balance. -/
def Live (T : Sep41 Address) : Prop :=
  ∀ w token src dst x, 0 ≤ x → x ≤ T.balance w token src →
    ∃ w', T.transfer w token src dst x = some w'

/-! ## The table of balances -/

/-- Every token is a table of balances. -/
def ledger (Address : Type) [DecidableEq Address] : Sep41 Address where
  World := Address → Address → Int
  balance := id
  transfer w token src dst x :=
    if 0 ≤ x ∧ x ≤ w token src then some (movedBalance w token src dst x) else none
  transfer_covered h := by
    split at h
    · assumption
    · cases h
  balance_transfer h := by
    split at h
    · exact (Option.some.inj h).symm
    · cases h

theorem ledger_live : (ledger Address).Live := fun w token src dst x h_nonneg h_le =>
  ⟨movedBalance w token src dst x, if_pos ⟨h_nonneg, h_le⟩⟩

end Sep41
