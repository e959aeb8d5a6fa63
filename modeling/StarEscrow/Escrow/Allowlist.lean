/-
  StarEscrow.Escrow.Allowlist

  The token allowlist: how it is edited and what `create` makes of it.

  `create` takes an empty list for no list at all, and `remove_from_allowlist`
  stores whatever remains.  So removing a token keeps it, and every token that
  was refused before, out of `create` exactly when another token remains;
  removing the last one admits every token.
-/

import StarEscrow.Escrow.Failures

namespace StarEscrow.Escrow

open Exec

/-- An edit of the allowlist. -/
inductive AllowOp (Address : Type)
  | add (token : Address)
  | remove (token : Address)
  deriving DecidableEq, Repr

variable {Address : Type} [DecidableEq Address] {H : Host Address}

/-- The list `create` reads. -/
def State.tokens (s : State H) : List Address := s.storage.allowedTokens.getD []

namespace AllowOp

def exec : AllowOp Address → Exec H Bool
  | add token => addToAllowlist token
  | remove token => removeFromAllowlist token

/-- What an edit makes of the list. -/
def apply (op : AllowOp Address) (tokens : List Address) : List Address :=
  match op with
  | add token => if token ∈ tokens then tokens else tokens ++ [token]
  | remove token => tokens.filter (· ≠ token)

/-- The state an edit leaves. -/
def perform (op : AllowOp Address) (env : Env Address) (s : State H) : State H :=
  match op.exec env s with
  | .ok (_, s') => s'
  | .error _ => s

end AllowOp

/-- The edits, each with the environment of its invocation, one after the other. -/
def edit (edits : List (Env Address × AllowOp Address)) (s : State H) : State H :=
  edits.foldl (fun s e => e.2.perform e.1 s) s

/-! ## One edit -/

/-- The list is `tokens`, and the rest is as it was. -/
structure Relisted (s : State H) (tokens : List Address) (s' : State H) : Prop where
  tokens : s'.tokens = tokens
  escrow : s'.storage.escrow = s.storage.escrow
  config : s'.storage.config = s.storage.config

theorem addToAllowlist_relists (token : Address) (env : Env Address) (s : State H) :
    ∃ b s', addToAllowlist token env s = .ok (b, s') ∧
      Relisted s (if token ∈ s.tokens then s.tokens else s.tokens ++ [token]) s' := by
  by_cases h_mem : token ∈ s.tokens
  · rw [if_pos h_mem]
    refine ⟨false, s, ?_, rfl, rfl, rfl⟩
    exact bind_ok.mpr ⟨s.tokens, s, rfl, by rw [if_pos h_mem]; rfl⟩
  · rw [if_neg h_mem]
    refine ⟨true, s.putAllowedTokens (s.tokens ++ [token]), ?_, rfl, rfl, rfl⟩
    exact bind_ok.mpr ⟨s.tokens, s, rfl, by rw [if_neg h_mem]; rfl⟩

theorem removeFromAllowlist_relists (token : Address) (env : Env Address) (s : State H) :
    ∃ b s', removeFromAllowlist token env s = .ok (b, s') ∧
      Relisted s (s.tokens.filter (· ≠ token)) s' := by
  by_cases h_less : (s.tokens.filter (· ≠ token)).length < s.tokens.length
  · refine ⟨true, s.putAllowedTokens (s.tokens.filter (· ≠ token)), ?_, rfl, rfl, rfl⟩
    exact bind_ok.mpr ⟨s.tokens, s, rfl, by rw [if_pos h_less]; rfl⟩
  · -- nothing was dropped, so the list is as it was
    have h_length : (s.tokens.filter (· ≠ token)).length = s.tokens.length :=
      Nat.le_antisymm (List.length_filter_le _ _) (Nat.le_of_not_lt h_less)
    have h_same : s.tokens.filter (· ≠ token) = s.tokens :=
      List.filter_eq_self.mpr (List.length_filter_eq_length_iff.mp h_length)
    refine ⟨false, s, ?_, h_same.symm, rfl, rfl⟩
    exact bind_ok.mpr ⟨s.tokens, s, rfl, by rw [if_neg h_less]; rfl⟩

/-- An edit never fails, and edits the list only. -/
theorem AllowOp.relists (op : AllowOp Address) (env : Env Address) (s : State H) :
    Relisted s (op.apply s.tokens) (op.perform env s) := by
  have h_exec : ∃ b s', op.exec env s = .ok (b, s') ∧ Relisted s (op.apply s.tokens) s' := by
    cases op with
    | add token => exact addToAllowlist_relists token env s
    | remove token => exact removeFromAllowlist_relists token env s
  obtain ⟨b, s', h_ok, h_relisted⟩ := h_exec
  rw [perform, h_ok]
  exact h_relisted

/-! ## Any number of edits -/

/-- What the edits make of the list. -/
def editList (edits : List (Env Address × AllowOp Address)) (tokens : List Address) :
    List Address :=
  edits.foldl (fun l e => e.2.apply l) tokens

theorem edit_relists (edits : List (Env Address × AllowOp Address)) (s : State H) :
    Relisted s (editList edits s.tokens) (edit edits s) := by
  induction edits generalizing s with
  | nil => exact ⟨rfl, rfl, rfl⟩
  | cons e edits ih =>
      -- the escrow and the config come through every edit unchanged
      have h_first := e.2.relists e.1 s
      have h_rest := ih (e.2.perform e.1 s)
      rw [h_first.tokens] at h_rest
      exact ⟨h_rest.tokens, h_rest.escrow.trans h_first.escrow, h_rest.config.trans h_first.config⟩

/-- No token is listed twice. -/
theorem AllowOp.nodup (op : AllowOp Address) {tokens : List Address} (h : tokens.Nodup) :
    (op.apply tokens).Nodup := by
  cases op with
  | add token =>
      show (if token ∈ tokens then tokens else tokens ++ [token]).Nodup
      split
      · exact h
      · rename_i h_new
        rw [List.nodup_append]
        refine ⟨h, List.pairwise_singleton _ token, fun a h_a b h_b h_eq => ?_⟩
        obtain rfl := List.mem_singleton.mp h_b
        exact h_new (h_eq ▸ h_a)
  | remove token => exact h.filter _

theorem editList_nodup (edits : List (Env Address × AllowOp Address)) {tokens : List Address}
    (h : tokens.Nodup) : (editList edits tokens).Nodup := by
  induction edits generalizing tokens with
  | nil => exact h
  | cons e edits ih => exact ih (e.2.nodup h)

/-! ## What `create` makes of the list -/

/-- What follows the check of the token in `create`. -/
def createAllowed (a : CreateArgs Address) (totalAmount : Int) : Exec H Unit := do
  requireAuth a.payer
  transfer a.token a.payer H.currentContract totalAmount
  let now ← timestamp
  let data ← depositYield (a.record totalAmount now)
  saveEscrow data
  emit (.escrowCreated a.payer a.freelancer totalAmount a.milestones)
  extendTtl

/-- It returns no error of the contract. -/
theorem errs_createAllowed {a : CreateArgs Address} {totalAmount : Int} {env : Env Address}
    {s : State H} {e : EscrowError} :
    ¬ (createAllowed (H := H) a totalAmount).Fails env s (.error e) := by
  simp [createAllowed]

/-- With accepted milestones, no escrow stored and no pause, only the list stands between the call
    and the payment. -/
theorem create_eq {a : CreateArgs Address} {env : Env Address} {s : State H} (h : a.Accepted)
    (h_run : s.paused = false) (h_new : s.storage.escrow = none) :
    create a env s = if s.tokens ≠ [] ∧ a.token ∉ s.tokens then .error (.error .tokenNotAllowed)
      else createAllowed a (milestoneTotal a.milestones) env s := by
  have h_total := milestoneTotal_pos h.nonempty h.positive
  have h_sum : sumMilestones 0 a.milestones env s =
      .ok (0 + milestoneTotal a.milestones, s) := by
    refine (sumMilestones_ok (Int.le_refl 0) Checked.inI128_zero).mpr ⟨h.positive, ?_, rfl, rfl⟩
    rw [Int.zero_add]
    exact h.range
  rw [Int.zero_add] at h_sum
  unfold create
  -- none of the checks before the list rejects
  rw [bind_of_ok (assertNotPaused_ok (u := ()).mpr ⟨h_run, rfl⟩),
    bind_of_ok (hasEscrow_ok.mpr ⟨rfl, rfl⟩),
    bind_of_ok (errIf_ok (u := ()).mpr ⟨by simp [h_new], rfl⟩),
    bind_of_ok (errIf_ok (u := ()).mpr ⟨by simpa using h.nonempty, rfl⟩), bind_of_ok h_sum,
    bind_of_ok (errIf_ok (u := ()).mpr ⟨by omega, rfl⟩),
    bind_of_ok (readAllowedTokens_ok.mpr ⟨rfl, rfl⟩)]
  show (errIf (s.tokens ≠ [] ∧ a.token ∉ s.tokens) .tokenNotAllowed >>= fun _ =>
    createAllowed a (milestoneTotal a.milestones)) env s = _
  by_cases h_refused : s.tokens ≠ [] ∧ a.token ∉ s.tokens
  · rw [if_pos h_refused]
    show (errIf (H := H) _ _ env s >>= _) = _
    rw [errIf, if_pos h_refused]
    rfl
  · rw [if_neg h_refused, bind_of_ok (errIf_ok (u := ()).mpr ⟨h_refused, rfl⟩)]

/-- `create` rejects the token, whatever else it is called with. -/
def Rejects (t : Address) (s : State H) : Prop :=
  ∀ (env : Env Address) (a : CreateArgs Address), a.Accepted → a.token = t →
    create a env s = .error (.error .tokenNotAllowed)

/-- A deal in `t` that `create` has nothing against. -/
def plainDeal (t : Address) : CreateArgs Address where
  payer := t
  freelancer := t
  token := t
  milestones := [⟨"", 1, .pending⟩]
  deadline := none
  yieldProtocol := none
  yieldRecipient := .payer
  interval := 0
  recurrenceCount := 0

omit [DecidableEq Address] in
theorem plainDeal_accepted (t : Address) : (plainDeal t).Accepted where
  nonempty := List.cons_ne_nil _ _
  positive := by
    intro m h_m
    obtain rfl := List.mem_singleton.mp h_m
    exact Int.one_pos
  range := (by decide : Checked.InI128 1)

theorem rejects_iff {s : State H} (t : Address) (h_run : s.paused = false)
    (h_new : s.storage.escrow = none) : Rejects t s ↔ s.tokens ≠ [] ∧ t ∉ s.tokens := by
  constructor
  · intro h
    by_contra h_admitted
    have env : Env Address := ⟨0, fun _ => true⟩
    have h_error := h env (plainDeal t) (plainDeal_accepted t) rfl
    have h_token : (plainDeal t).token = t := rfl
    rw [create_eq (plainDeal_accepted t) h_run h_new, h_token, if_neg h_admitted] at h_error
    exact errs_createAllowed h_error
  · rintro h env a h_accepted rfl
    rw [create_eq h_accepted h_run h_new, if_pos h]

/-! ## Runs of edits that leave a token -/

/-- None of the edits removes the only token on the list. -/
def KeepsOne (edits : List (Env Address × AllowOp Address)) (s : State H) : Prop :=
  ∀ pre env u post, edits = pre ++ (env, .remove u) :: post → (edit pre s).tokens ≠ [u]

/-- Only the removal of the only token empties a list. -/
theorem AllowOp.apply_eq_nil {op : AllowOp Address} {tokens : List Address} (h : tokens.Nodup)
    (h_some : tokens ≠ []) : op.apply tokens = [] ↔ ∃ u, op = .remove u ∧ tokens = [u] := by
  cases op with
  | add token =>
      have h_apply : (add token).apply tokens ≠ [] := by
        show (if token ∈ tokens then tokens else tokens ++ [token]) ≠ []
        split
        · exact h_some
        · simp
      simp [h_apply]
  | remove token =>
      show tokens.filter (· ≠ token) = [] ↔ _
      constructor
      · intro h_nil
        have h_all : ∀ a ∈ tokens, a = token := by simpa using h_nil
        refine ⟨token, rfl, ?_⟩
        -- a list without duplicates, all of whose members are `token`
        match tokens, h_some with
        | [a], _ => rw [h_all a (by simp)]
        | a :: b :: rest, _ =>
            have h_a := h_all a (by simp)
            have h_b := h_all b (by simp)
            simp [h_a, h_b] at h
      · rintro ⟨u, h_op, rfl⟩
        obtain rfl := AllowOp.remove.inj h_op
        simp

theorem edit_nodup {s : State H} (edits : List (Env Address × AllowOp Address))
    (h : s.tokens.Nodup) : (edit edits s).tokens.Nodup := by
  rw [(edit_relists edits s).tokens]
  exact editList_nodup edits h

theorem keepsOne_cons {s : State H} {e : Env Address × AllowOp Address}
    {edits : List (Env Address × AllowOp Address)} :
    KeepsOne (e :: edits) s ↔
      (∀ u, e.2 = .remove u → s.tokens ≠ [u]) ∧ KeepsOne edits (edit [e] s) := by
  constructor
  · intro h
    refine ⟨fun u h_u => ?_, fun pre env u post h_edits => ?_⟩
    · apply h [] e.1 u edits
      rw [← h_u]
      rfl
    · apply h (e :: pre) env u post
      rw [h_edits]
      rfl
  · rintro ⟨h_first, h_rest⟩ pre env u post h_edits
    cases pre with
    | nil =>
        obtain ⟨rfl, rfl⟩ := List.cons.inj h_edits
        exact h_first u rfl
    | cons e' pre =>
        obtain ⟨rfl, rfl⟩ := List.cons.inj h_edits
        exact h_rest pre env u post rfl

/-- From a list with a token on it, the edits leave one at every moment exactly when none of them
    removes the only one. -/
theorem keepsOne_iff {s : State H} (edits : List (Env Address × AllowOp Address))
    (h_nodup : s.tokens.Nodup) (h_some : s.tokens ≠ []) :
    KeepsOne edits s ↔ ∀ pre, pre <+: edits → (edit pre s).tokens ≠ [] := by
  induction edits generalizing s with
  | nil =>
      refine ⟨fun _ pre h_pre => ?_, fun _ pre env u post h_edits => ?_⟩
      · obtain rfl := List.prefix_nil.mp h_pre
        exact h_some
      · simp at h_edits
  | cons e edits ih =>
      have h_first : (∀ u, e.2 = .remove u → s.tokens ≠ [u]) ↔ (edit [e] s).tokens ≠ [] := by
        rw [show (edit [e] s).tokens = e.2.apply s.tokens from (edit_relists [e] s).tokens, ne_eq,
          AllowOp.apply_eq_nil h_nodup h_some]
        push Not
        rfl
      rw [keepsOne_cons, h_first]
      constructor
      · rintro ⟨h_left, h_rest⟩ pre h_pre
        obtain rfl | ⟨pre', rfl, h_pre'⟩ := List.prefix_cons_iff.mp h_pre
        · exact h_some
        · exact (ih (edit_nodup [e] h_nodup) h_left).mp h_rest pre' h_pre'
      · intro h
        have h_left : (edit [e] s).tokens ≠ [] := h [e] ⟨edits, rfl⟩
        refine ⟨h_left, (ih (edit_nodup [e] h_nodup) h_left).mpr fun pre h_pre => ?_⟩
        exact h (e :: pre) (List.prefix_cons_iff.mpr (.inr ⟨pre, rfl, h_pre⟩))

/-- A token gets on the list by an `add` of it only. -/
theorem edit_not_mem {s : State H} {t : Address} (edits : List (Env Address × AllowOp Address))
    (h : t ∉ s.tokens) (h_edits : ∀ e ∈ edits, e.2 ≠ .add t) : t ∉ (edit edits s).tokens := by
  induction edits generalizing s with
  | nil => exact h
  | cons e edits ih =>
      refine ih ?_ fun e' h_e' => h_edits e' (List.mem_cons_of_mem e h_e')
      rw [(e.2.relists e.1 s).tokens]
      have h_e : e.2 ≠ .add t := h_edits e List.mem_cons_self
      cases h_op : e.2 with
      | add token =>
          have h_other : token ≠ t := fun h_eq => h_e (h_eq ▸ h_op)
          show t ∉ (if token ∈ s.tokens then s.tokens else s.tokens ++ [token])
          split
          · exact h
          · simp [h, Ne.symm h_other]
      | remove token => exact fun h_mem => h (List.mem_of_mem_filter h_mem)

/-- **When removing a token keeps the door shut.**  Let `s` come from a store without a list by
    edits, with `t` on the list, and let `t` be removed there and not be added by the edits after
    it.  Then `create` rejects `t` from the removal on, and every token it rejected before the
    removal still, exactly when neither this removal nor a later one removes the only token on
    the list: an empty list is taken for none. -/
theorem removal_keeps_shut_iff {s₀ : State H} (h_none : s₀.storage.allowedTokens = none)
    (h_run : s₀.paused = false) (h_new : s₀.storage.escrow = none)
    (edits later : List (Env Address × AllowOp Address)) (env : Env Address) (t : Address)
    (h_listed : t ∈ (edit edits s₀).tokens) (h_later : ∀ e ∈ later, e.2 ≠ .add t) :
    let s := edit edits s₀
    let s₁ := edit [(env, .remove t)] s
    ((∀ pre, pre <+: later → Rejects t (edit pre s₁)) ∧ ∀ u, Rejects u s → Rejects u s₁) ↔
      KeepsOne ((env, .remove t) :: later) s := by
  intro s s₁
  have h_s : Relisted s₀ (editList edits s₀.tokens) s := edit_relists edits s₀
  have h_s₁ := edit_relists [(env, AllowOp.remove t)] s
  have h_tokens : s₁.tokens = s.tokens.filter (· ≠ t) := h_s₁.tokens
  have h_nodup : s.tokens.Nodup := by
    apply edit_nodup edits
    rw [show s₀.tokens = [] by rw [State.tokens, h_none]; rfl]
    exact List.nodup_nil
  have h_some : s.tokens ≠ [] := List.ne_nil_of_mem h_listed
  have h_gone : t ∉ s₁.tokens := by simp [h_tokens]
  -- edits touch neither the escrow nor the config, so `create` looks at the list alone
  have h_rejects {s₂ : State H} {tokens : List Address} (h : Relisted s tokens s₂) (u : Address) :
      Rejects u s₂ ↔ s₂.tokens ≠ [] ∧ u ∉ s₂.tokens := by
    apply rejects_iff u
    · rw [State.paused, h.config, h_s.config]
      exact h_run
    · rw [h.escrow, h_s.escrow]
      exact h_new
  have h_after (pre : List (Env Address × AllowOp Address)) (h_pre : pre <+: later) :
      Rejects t (edit pre s₁) ↔ (edit pre s₁).tokens ≠ [] := by
    have h_not : t ∉ (edit pre s₁).tokens :=
      edit_not_mem pre h_gone fun e h_e => h_later e (h_pre.subset h_e)
    have h_edit : Relisted s _ (edit pre s₁) := edit_relists ((env, .remove t) :: pre) s
    rw [h_rejects h_edit t]
    exact and_iff_left h_not
  rw [keepsOne_iff _ h_nodup h_some]
  constructor
  · rintro ⟨h_shut, -⟩ pre h_pre
    obtain rfl | ⟨pre', rfl, h_pre'⟩ := List.prefix_cons_iff.mp h_pre
    · exact h_some
    · exact (h_after pre' h_pre').mp (h_shut pre' h_pre')
  · intro h_left
    refine ⟨fun pre h_pre => ?_, fun u h_u => ?_⟩
    · apply (h_after pre h_pre).mpr
      exact h_left (_ :: pre) (List.prefix_cons_iff.mpr (.inr ⟨pre, rfl, h_pre⟩))
    · have h_out := ((h_rejects ⟨rfl, rfl, rfl⟩ u).mp h_u).2
      rw [h_rejects h_s₁ u]
      refine ⟨h_left [_] ⟨later, rfl⟩, fun h_mem => h_out ?_⟩
      rw [h_tokens] at h_mem
      exact List.mem_of_mem_filter h_mem

namespace Sample

def edited (op : AllowOp Nat) : Env Nat × AllowOp Nat := (⟨1, fun _ => true⟩, op)

end Sample

theorem removal_keeps_shut_iff_twoTokens :
    let s := edit [Sample.edited (.add 9), Sample.edited (.add 8)] (Sample.start 100 0)
    let s₁ := edit [Sample.edited (.remove 9)] s
    ((∀ pre, pre <+: [Sample.edited (.add 7)] → Rejects 9 (edit pre s₁)) ∧
        ∀ u, Rejects u s → Rejects u s₁) ↔
      KeepsOne [Sample.edited (.remove 9), Sample.edited (.add 7)] s :=
  removal_keeps_shut_iff rfl rfl rfl [Sample.edited (.add 9), Sample.edited (.add 8)]
    [Sample.edited (.add 7)] ⟨1, fun _ => true⟩ 9 (by decide) (by decide)

/-- Removing the only token admits it, and every token that was rejected before. -/
theorem last_removal_opens :
    let s := edit [Sample.edited (.add 9)] (Sample.start 100 0)
    let s₁ := edit [Sample.edited (.remove 9)] s
    9 ∈ s.tokens ∧ (create Sample.twoParts ⟨1, fun _ => true⟩ s₁).toBool = true ∧
      Sample.twoParts.token = 9 ∧ Rejects 8 s ∧ ¬ Rejects 9 s₁ ∧ ¬ Rejects 8 s₁ := by
  intro s s₁
  have h_rejects (u : Nat) : Rejects u s ↔ s.tokens ≠ [] ∧ u ∉ s.tokens := rejects_iff u rfl rfl
  have h_admits (u : Nat) : Rejects u s₁ ↔ s₁.tokens ≠ [] ∧ u ∉ s₁.tokens := rejects_iff u rfl rfl
  rw [h_rejects, h_admits, h_admits]
  decide

end StarEscrow.Escrow
