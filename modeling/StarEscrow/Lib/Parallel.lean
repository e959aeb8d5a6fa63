/-
  StarEscrow.Lib.Parallel

  Components that share a world, composed by interleaving.

  A component has its own steps, and one kind of step, `outside`, for what
  everybody else does to the world; it relies on these to keep to `Rely`.  In
  the composition one component steps at a time and the others find the world
  it leaves.  When the steps a component takes keep to what the others rely on
  (`Compatible`), every run of the composition is, seen from each component, a
  run of that component alone (`Run.restrict`).  So what is proved of the runs
  of one component holds of it in every interleaving with the others.
-/

import StarEscrow.Lib.Lts

namespace Parallel

/-- A component of a system with the world `W`. -/
structure Component (W : Type) where
  State : Type
  Label : Type
  step : State → Label → State → Prop
  /-- The world as the component finds it. -/
  world : State → W
  /-- The component once the world is another. -/
  meet : State → W → State
  /-- The label of what the others do. -/
  outside : Label
  /-- The changes of the world that may happen outside. -/
  Rely : W → W → Prop
  world_meet : ∀ s w, world (meet s w) = w
  step_meet : ∀ s w, Rely (world s) w → step s outside (meet s w)

variable {W ι : Type}

/-- The components' states. -/
abbrev States (C : ι → Component W) : Type := ∀ i, (C i).State

/-- Who steps: a component, or none of them. -/
inductive Label (C : ι → Component W)
  | own (i : ι) (l : (C i).Label)
  | outside

/-- One component steps and the others find its world, or the world changes for all of them. -/
inductive Step (C : ι → Component W) (s : States C) : Label C → States C → Prop
  | own {t : States C} {i : ι} {l : (C i).Label} (h_own : l ≠ (C i).outside)
      (h_step : (C i).step (s i) l (t i))
      (h_others : ∀ j, j ≠ i → t j = (C j).meet (s j) ((C i).world (t i))) : Step C s (.own i l) t
  | outside {t : States C} {w : W} (h_steps : ∀ j, (C j).step (s j) (C j).outside (t j))
      (h_world : ∀ j, (C j).world (t j) = w) : Step C s .outside t

abbrev Entry (C : ι → Component W) : Type := Lts.Entry (States C) (Label C)

abbrev Run (C : ι → Component W) (s : States C) (tr : List (Entry C)) (t : States C) : Prop :=
  Lts.Run (Step C) s tr t

variable {C : ι → Component W}

/-- All components find the same world. -/
def Synced (s : States C) : Prop := ∃ w, ∀ i, (C i).world (s i) = w

/-- The entry belongs to a component's own step that meets `O`, or to no component. -/
def Admitted (O : ∀ i, Lts.Entry (C i).State (C i).Label → Prop) (e : Entry C) : Prop :=
  ∀ i l, e.label = .own i l → O i ⟨e.pre i, l, e.post i⟩

/-- The steps of a component that meet `O` keep to what the other components rely on. -/
def Compatible (O : ∀ i, Lts.Entry (C i).State (C i).Label → Prop) : Prop :=
  ∀ i j, j ≠ i → ∀ e, O i e → e.label ≠ (C i).outside → (C i).step e.pre e.label e.post →
    (C j).Rely ((C i).world e.pre) ((C i).world e.post)

theorem Step.synced {s t : States C} {l : Label C} (h : Step C s l t) : Synced t := by
  cases h with
  | @own _ i l _ _ h_others =>
      refine ⟨(C i).world (t i), fun j => ?_⟩
      by_cases h_ij : j = i
      · rw [h_ij]
      · rw [h_others j h_ij, (C j).world_meet]
  | outside _ h_world => exact ⟨_, h_world⟩

section Project

variable [DecidableEq ι]

/-! ## Stepping -/

/-- The states after component `i` has gone to `x`. -/
def advance (s : States C) (i : ι) (x : (C i).State) : States C := fun j =>
  if h : i = j then h ▸ x else (C j).meet (s j) ((C i).world x)

theorem advance_self (s : States C) (i : ι) (x : (C i).State) : advance s i x i = x := dif_pos rfl

theorem Step.advance {s : States C} {i : ι} {l : (C i).Label} {x : (C i).State}
    (h_own : l ≠ (C i).outside) (h_step : (C i).step (s i) l x) :
    Step C s (.own i l) (advance s i x) := by
  refine .own h_own ?_ fun j h_j => ?_
  · rw [advance_self]
    exact h_step
  · rw [advance_self]
    exact dif_neg (Ne.symm h_j)

/-! ## One component's view -/

/-- The label of the step as component `j` sees it. -/
def Label.view (j : ι) : Label C → (C j).Label
  | .own i l => if h : i = j then h ▸ l else (C j).outside
  | .outside => (C j).outside

/-- The entry as component `j` sees it. -/
def view (j : ι) (e : Entry C) : Lts.Entry (C j).State (C j).Label :=
  ⟨e.pre j, e.label.view j, e.post j⟩

theorem Label.view_own (j : ι) (l : (C j).Label) : (Label.own j l : Label C).view j = l :=
  dif_pos rfl

theorem Label.view_other {i j : ι} (h : i ≠ j) (l : (C i).Label) :
    (Label.own i l : Label C).view j = (C j).outside :=
  dif_neg h

/-- What holds of a component's own admitted steps and of outside steps holds of all it sees. -/
theorem forall_view {O : ∀ i, Lts.Entry (C i).State (C i).Label → Prop} {tr : List (Entry C)}
    {j : ι} {P : Lts.Entry (C j).State (C j).Label → Prop} (h_ok : ∀ e ∈ tr, Admitted O e)
    (h_own : ∀ e, O j e → P e) (h_outside : ∀ a b, P ⟨a, (C j).outside, b⟩) :
    ∀ e ∈ tr.map (view j), P e := by
  intro e' h_e'
  obtain ⟨⟨a, l, b⟩, h_e, rfl⟩ := List.mem_map.mp h_e'
  cases l with
  | outside => exact h_outside _ _
  | own i l =>
      by_cases h_ij : i = j
      · subst h_ij
        have h_o := h_own _ (h_ok _ h_e i l rfl)
        rwa [view, Label.view_own]
      · rw [view, Label.view_other h_ij]
        exact h_outside _ _

/-- **Projection.**  A run of compatible components is, for each of them, a run of its own in
    which the others are the outside. -/
theorem Run.restrict {O : ∀ i, Lts.Entry (C i).State (C i).Label → Prop} (h_compat : Compatible O)
    {s t : States C} {tr : List (Entry C)} (h_run : Run C s tr t) (h_sync : Synced s)
    (h_ok : ∀ e ∈ tr, Admitted O e) (j : ι) :
    Synced t ∧ Lts.Run (C j).step (s j) (tr.map (view j)) (t j) := by
  induction h_run with
  | refl => exact ⟨h_sync, .refl⟩
  | @tail t u tr l _ h_step ih =>
      obtain ⟨⟨w, h_w⟩, h_before⟩ := ih fun e h_e => h_ok e (List.mem_append_left _ h_e)
      have h_last := h_ok _ (List.mem_append_right _ (List.mem_singleton_self _))
      refine ⟨h_step.synced, ?_⟩
      rw [List.map_append, List.map_singleton]
      refine .tail h_before ?_
      cases h_step with
      | outside h_steps => exact h_steps j
      | @own _ i l h_own h_step h_others =>
          by_cases h_ij : i = j
          · subst h_ij
            rw [Label.view_own]
            exact h_step
          · -- the others find a world that keeps to what they rely on
            have h_rely := h_compat i j (Ne.symm h_ij) _ (h_last i l rfl) h_own h_step
            rw [h_w i, ← h_w j] at h_rely
            rw [Label.view_other h_ij]
            show (C j).step (t j) (C j).outside (u j)
            rw [h_others j (Ne.symm h_ij)]
            exact (C j).step_meet _ _ h_rely

end Project

end Parallel
