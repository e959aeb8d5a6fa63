/-
  StarEscrow.Lib.Invoke

  Contract invocations as a host runs them.

  An invocation returns, fails with one of the contract's own errors, or
  traps; in the last two cases the host keeps nothing of it.  An entry point is
  therefore an `Except`-valued function of the state it finds, and the checks
  below are the ways in which it stops.

  `ε` is the type of the contract's own errors.
-/

import Mathlib.Logic.Basic

namespace Invoke

/-- Why the host stopped an invocation. -/
inductive Trap
  | unauthorized
  | overflow
  | unwrap
  /-- a token refused, whatever it reports -/
  | token
  deriving DecidableEq, Repr

inductive Failure (ε : Type)
  | error (e : ε)
  | trap (t : Trap)
  deriving DecidableEq, Repr

variable {ε α β Address : Type}

/-! ## Checks -/

/-- `return Err(e)` when the condition holds. -/
def errIf (c : Prop) [Decidable c] (e : ε) : Except (Failure ε) Unit :=
  if c then .error (.error e) else .ok ()

/-- The value, or `return Err(e)`. -/
def orErr (o : Option α) (e : ε) : Except (Failure ε) α :=
  match o with
  | some a => .ok a
  | none => .error (.error e)

/-- The value, or a trap. -/
def orTrap (o : Option α) (t : Trap) : Except (Failure ε) α :=
  match o with
  | some a => .ok a
  | none => .error (.trap t)

/-- `a.require_auth()`, `auth` being the addresses that authorise the invocation. -/
def requireAuth (auth : Address → Bool) (a : Address) : Except (Failure ε) Unit :=
  if auth a then .ok () else .error (.trap .unauthorized)

/-! ## When an invocation returns -/

@[simp] theorem bind_ok {x : Except ε α} {f : α → Except ε β} {b : β} :
    (x >>= f) = .ok b ↔ ∃ a, x = .ok a ∧ f a = .ok b := by
  cases x with
  | error e => simp [bind, Except.bind]
  | ok a => simp [bind, Except.bind]

@[simp] theorem map_ok {x : Except ε α} {f : α → β} {b : β} :
    (f <$> x) = .ok b ↔ ∃ a, x = .ok a ∧ f a = b := by
  cases x with
  | error e => simp [Functor.map, Except.map]
  | ok a => simp [Functor.map, Except.map]

@[simp] theorem pure_ok {a b : α} : (pure a : Except ε α) = .ok b ↔ a = b := by
  simp [pure, Except.pure]

@[simp] theorem errIf_ok {c : Prop} [Decidable c] {e : ε} {u : Unit} :
    errIf c e = .ok u ↔ ¬c := by
  unfold errIf
  split <;> simp_all

@[simp] theorem orErr_ok {o : Option α} {e : ε} {a : α} : orErr o e = .ok a ↔ o = some a := by
  cases o <;> simp [orErr]

@[simp] theorem orTrap_ok {o : Option α} {t : Trap} {a : α} :
    orTrap (ε := ε) o t = .ok a ↔ o = some a := by
  cases o <;> simp [orTrap]

@[simp] theorem requireAuth_ok {auth : Address → Bool} {a : Address} {u : Unit} :
    requireAuth (ε := ε) auth a = .ok u ↔ auth a = true := by
  unfold requireAuth
  split <;> simp_all

end Invoke
