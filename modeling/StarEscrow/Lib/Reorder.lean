/-
  StarEscrow.Lib.Reorder

  Reordering events that do not interfere.

  Every event has a label, and every label a key.  Events with different keys
  commute, up to a relation `R` on states that no later event can tell apart
  (`Commuting`).  Then any two sequences in which the events of each key occur
  in the same order succeed together and end in related states
  (`Commuting.reorder`).
-/

import Mathlib.Data.List.Basic

namespace Reorder

variable {σ β α κ : Type} {step : β → σ → σ → Prop}

/-- All events of the list happen, one after the other. -/
def Steps (step : β → σ → σ → Prop) : List β → σ → σ → Prop
  | [], s, t => s = t
  | b :: bs, s, t => ∃ s₁, step b s s₁ ∧ Steps step bs s₁ t

/-- What reordering needs of a system: `I` is an invariant that `R` respects, `R` is respected by
    the events, which are told apart by their labels only, and neighbours with different keys can be
    swapped. -/
structure Commuting (step : β → σ → σ → Prop) (lab : β → α) (key : α → κ) (I : σ → Prop)
    (R : σ → σ → Prop) : Prop where
  refl : ∀ s, R s s
  trans : ∀ {s t u}, R s t → R t u → R s u
  keeps : ∀ {b s t}, I s → step b s t → I t
  transfer : ∀ {s s'}, I s → R s s' → I s'
  congr : ∀ {b b' s s' t}, I s → R s s' → lab b = lab b' → step b s t →
    ∃ t', step b' s' t' ∧ R t t'
  swap : ∀ {a b s t u}, I s → key (lab a) ≠ key (lab b) → step a s t → step b t u →
    ∃ t' u', step b s t' ∧ step a t' u' ∧ R u u'

namespace Commuting

variable {lab : β → α} {key : α → κ} {I : σ → Prop} {R : σ → σ → Prop} {s s' s₁ t : σ}

theorem steps_congr (h : Commuting step lab key I R) {l : List β} (h_inv : I s) (h_rel : R s s')
    (h_steps : Steps step l s t) : ∃ t', Steps step l s' t' ∧ R t t' := by
  induction l generalizing s s' with
  | nil =>
      obtain rfl : s = t := h_steps
      exact ⟨s', rfl, h_rel⟩
  | cons b l ih =>
      obtain ⟨s₁, h_first, h_rest⟩ := h_steps
      obtain ⟨s₁', h_first', h_rel₁⟩ := h.congr h_inv h_rel rfl h_first
      obtain ⟨t', h_rest', h_rel'⟩ := ih (h.keeps h_inv h_first) h_rel₁ h_rest
      exact ⟨t', ⟨s₁', h_first', h_rest'⟩, h_rel'⟩

/-- An event can be put off until after events with other keys. -/
theorem postpone (h : Commuting step lab key I R) {a a' : β} (h_lab : lab a = lab a') {p q : List β}
    (h_other : ∀ b ∈ p, key (lab a) ≠ key (lab b)) (h_inv : I s) (h_first : step a s s₁)
    (h_rest : Steps step (p ++ q) s₁ t) : ∃ t', Steps step (p ++ a' :: q) s t' ∧ R t t' := by
  induction p generalizing s s₁ t with
  | nil =>
      obtain ⟨s₁', h_first', h_rel₁⟩ := h.congr h_inv (h.refl s) h_lab h_first
      obtain ⟨t', h_rest', h_rel⟩ := h.steps_congr (h.keeps h_inv h_first) h_rel₁ h_rest
      exact ⟨t', ⟨s₁', h_first', h_rest'⟩, h_rel⟩
  | cons b p ih =>
      obtain ⟨s₂, h_second, h_rest⟩ := h_rest
      obtain ⟨h_ab, h_other⟩ := List.forall_mem_cons.mp h_other
      -- `b` goes first; what follows `a` starts from a related state
      obtain ⟨s₁', s₂', h_b, h_a, h_rel₂⟩ := h.swap h_inv h_ab h_first h_second
      have h_inv₂ := h.keeps (h.keeps h_inv h_first) h_second
      obtain ⟨t₁, h_rest₁, h_rel₁⟩ := h.steps_congr h_inv₂ h_rel₂ h_rest
      obtain ⟨t', h_rest', h_rel'⟩ := ih h_other (h.keeps h_inv h_b) h_a h_rest₁
      exact ⟨t', ⟨s₁', h_b, h_rest'⟩, h.trans h_rel₁ h_rel'⟩

/-- **Reordering.**  Sequences in which the labels of each key occur in the same order succeed
    together, and end in related states. -/
theorem reorder [DecidableEq κ] (h : Commuting step lab key I R) {l l' : List β} (h_inv : I s)
    (h_order : ∀ k, (l.map lab).filter (key · = k) = (l'.map lab).filter (key · = k))
    (h_steps : Steps step l s t) : ∃ t', Steps step l' s t' ∧ R t t' := by
  induction l generalizing l' s t with
  | nil =>
      have h_none : l' = [] := by
        rw [List.eq_nil_iff_forall_not_mem]
        intro b h_b
        have h_mem : lab b ∈ (l'.map lab).filter (key · = key (lab b)) :=
          List.mem_filter.mpr ⟨List.mem_map_of_mem h_b, decide_eq_true rfl⟩
        rw [← h_order] at h_mem
        cases h_mem
      exact ⟨t, by rw [h_none]; exact h_steps, h.refl t⟩
  | cons a l ih =>
      obtain ⟨s₁, h_first, h_rest⟩ := h_steps
      -- the first event of the other list with the key of `a` has its label
      have h_head := h_order (key (lab a))
      rw [List.map_cons, List.filter_cons_of_pos (by simp)] at h_head
      obtain ⟨ps, qs, h_split, h_no, -, -⟩ := List.filter_eq_cons_iff.mp h_head.symm
      obtain ⟨p, q', rfl, rfl, h_q'⟩ := List.map_eq_append_iff.mp h_split
      obtain ⟨a', q, rfl, h_lab, rfl⟩ := List.map_eq_cons_iff.mp h_q'
      have h_other : ∀ b ∈ p, key (lab a) ≠ key (lab b) := by
        intro b h_b h_eq
        exact h_no (lab b) (List.mem_map_of_mem h_b) (decide_eq_true h_eq.symm)
      have h_order' (k : κ) :
          (l.map lab).filter (key · = k) = ((p ++ q).map lab).filter (key · = k) := by
        have h_k := h_order k
        simp only [List.map_cons, List.map_append, List.filter_append, h_lab] at h_k ⊢
        by_cases h_key : key (lab a) = k
        · have h_p : (p.map lab).filter (key · = k) = [] := by
            rw [List.filter_eq_nil_iff]
            intro x h_x
            rw [← h_key]
            exact h_no x h_x
          rw [h_p, List.nil_append, List.filter_cons_of_pos (by simpa using h_key),
            List.filter_cons_of_pos (by simpa using h_key)] at h_k
          rw [h_p, List.nil_append]
          exact (List.cons.inj h_k).2
        · rw [List.filter_cons_of_neg (by simpa using h_key),
            List.filter_cons_of_neg (by simpa using h_key)] at h_k
          exact h_k
      obtain ⟨t₁, h_rest₁, h_rel₁⟩ := ih (h.keeps h_inv h_first) h_order' h_rest
      obtain ⟨t', h_all, h_rel'⟩ := h.postpone h_lab.symm h_other h_inv h_first h_rest₁
      exact ⟨t', h_all, h.trans h_rel₁ h_rel'⟩

end Commuting

end Reorder
