/-
  StarEscrow.Lib.Relational

  Two computations side by side.

  A computation reads an environment, passes a state along and may fail.
  `Couples R x y`: from related states `x` and `y` fail with the same error, or
  return the same value and leave related states.  The rules follow the way
  computations are put together, so that a program is coupled to itself as soon
  as its primitives are.
-/

namespace Relational

variable {ρ σ τ ε α β γ δ : Type}

/-! ## Outcomes -/

/-- Both outcomes are the same failure, or values related by `R`. -/
inductive Agree (R : α → β → Prop) : Except ε α → Except ε β → Prop
  | ok {a : α} {b : β} (h : R a b) : Agree R (.ok a) (.ok b)
  | error (e : ε) : Agree R (.error e) (.error e)

namespace Agree

/-- An outcome agrees with itself. -/
theorem self (x : Except ε α) : Agree (fun a b => a = b ∧ x = .ok a) x x := by
  cases x with
  | ok a => exact .ok ⟨rfl, rfl⟩
  | error e => exact .error e

theorem bind {R : α → β → Prop} {Q : γ → δ → Prop} {x : Except ε α} {y : Except ε β}
    {f : α → Except ε γ} {g : β → Except ε δ} (h : Agree R x y)
    (h_rest : ∀ a b, R a b → Agree Q (f a) (g b)) : Agree Q (x >>= f) (y >>= g) := by
  cases h with
  | ok h => exact h_rest _ _ h
  | error e => exact .error e

theorem map {R : α → β → Prop} {Q : γ → δ → Prop} {x : Except ε α} {y : Except ε β} {f : α → γ}
    {g : β → δ} (h : Agree R x y) (h_rest : ∀ a b, R a b → Q (f a) (g b)) :
    Agree Q (x.map f) (y.map g) := by
  cases h with
  | ok h => exact .ok (h_rest _ _ h)
  | error e => exact .error e

end Agree

/-- What the caller learns of a transaction, and the state it leaves: the old one if it fails. -/
def conclude (x : Except ε (α × σ)) (s : σ) : Except ε α × σ :=
  match x with
  | .ok (a, s') => (.ok a, s')
  | .error e => (.error e, s)

/-- Transactions that agree are told apart neither by the caller nor by what they leave. -/
theorem Agree.conclude {R : σ → τ → Prop} {x : Except ε (α × σ)} {y : Except ε (α × τ)} {s : σ}
    {t : τ} (h : Agree (fun p q => p.1 = q.1 ∧ R p.2 q.2) x y) (h_st : R s t) :
    (Relational.conclude x s).1 = (Relational.conclude y t).1 ∧
      R (Relational.conclude x s).2 (Relational.conclude y t).2 := by
  cases h with
  | ok h_next => exact ⟨congrArg Except.ok h_next.1, h_next.2⟩
  | error e => exact ⟨rfl, h_st⟩

/-! ## Computations -/

def Couples (R : σ → τ → Prop) (x : ReaderT ρ (StateT σ (Except ε)) α)
    (y : ReaderT ρ (StateT τ (Except ε)) α) : Prop :=
  ∀ env s t, R s t → Agree (fun p q => p.1 = q.1 ∧ R p.2 q.2) (x env s) (y env t)

namespace Couples

variable {R : σ → τ → Prop} {x x' : ReaderT ρ (StateT σ (Except ε)) α}
  {y y' : ReaderT ρ (StateT τ (Except ε)) α}

theorem pure (a : α) : Couples R (Pure.pure a : ReaderT ρ (StateT σ (Except ε)) α)
    (Pure.pure a : ReaderT ρ (StateT τ (Except ε)) α) := fun _ _ _ h => .ok ⟨rfl, h⟩

/-- **Sequencing rule.**  What follows sees the same value. -/
theorem bind {f : α → ReaderT ρ (StateT σ (Except ε)) β}
    {g : α → ReaderT ρ (StateT τ (Except ε)) β} (h : Couples R x y)
    (h_rest : ∀ a, Couples R (f a) (g a)) : Couples R (x >>= f) (y >>= g) := by
  intro env s t h_st
  refine Agree.bind (h env s t h_st) ?_
  rintro ⟨a, s'⟩ ⟨_, t'⟩ ⟨rfl, h_next⟩
  exact h_rest a env s' t' h_next

theorem map {f : α → β} (h : Couples R x y) : Couples R (f <$> x) (f <$> y) := by
  rw [← bind_pure_comp, ← bind_pure_comp]
  exact h.bind fun a => .pure (f a)

/-- **Branching rule.**  Both take the same branch. -/
theorem ite {c : Prop} [Decidable c] (h : Couples R x y) (h' : Couples R x' y') :
    Couples R (if c then x else x') (if c then y else y') := by
  by_cases h_c : c
  · rw [if_pos h_c, if_pos h_c]
    exact h
  · rw [if_neg h_c, if_neg h_c]
    exact h'

end Couples

end Relational
