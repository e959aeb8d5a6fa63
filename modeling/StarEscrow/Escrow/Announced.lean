/-
  StarEscrow.Escrow.Announced

  The payments the events announce, beside the payments the tokens saw.

  A client that keeps accounts reads the events only.  Here the two lists are
  compared for one recipient at a time, in order: every announced payment was
  made (`Sublist`), and nobody but the fee collector was ever paid without an
  event, which the fee is (`payments_announced`).

  `payment_released` announces nothing of its own: it repeats the last
  recurring release.
-/

import StarEscrow.Escrow.Custody
import StarEscrow.Escrow.Effects

namespace StarEscrow.Escrow

variable {Address : Type}

/-- The payment an event announces: to whom, and how much. -/
def Event.payment? : Event Address → Option (Address × Int)
  | .milestoneApproved freelancer _ _ amount => some (freelancer, amount)
  | .recurringReleased freelancer amount _ => some (freelancer, amount)
  | .escrowCancelled payer amount => some (payer, amount)
  | .escrowExpired payer amount => some (payer, amount)
  | _ => none

variable [DecidableEq Address]

/-- What the contract announced to have paid `a`, oldest first. -/
def announcedTo (a : Address) (es : List (Effect Address)) : List Int :=
  es.filterMap fun
    | .event e => e.payment?.bind fun p => if p.1 = a then some p.2 else none
    | _ => none

/-- What the contract `self` paid `a`, oldest first. -/
def paymentsTo (self a : Address) (es : List (Effect Address)) : List Int :=
  es.filterMap fun
    | .transfer t => if t.src = self ∧ t.dst = a then some t.amount else none
    | _ => none

theorem announcedTo_append (a : Address) (es es' : List (Effect Address)) :
    announcedTo a (es ++ es') = announcedTo a es ++ announcedTo a es' := List.filterMap_append

theorem paymentsTo_append (self a : Address) (es es' : List (Effect Address)) :
    paymentsTo self a (es ++ es') = paymentsTo self a es ++ paymentsTo self a es' :=
  List.filterMap_append

/-- A transfer by the contract, and the event that announces it. -/
theorem paymentsTo_announced {self a dst token : Address} {x : Int} {e : Event Address}
    (h : e.payment? = some (dst, x)) :
    paymentsTo self a [.transfer ⟨token, self, dst, x⟩, .event e] =
      announcedTo a [.transfer ⟨token, self, dst, x⟩, .event e] := by
  by_cases h_dst : dst = a <;> simp [paymentsTo, announcedTo, h, h_dst]

theorem announcedTo_transfers (a : Address) (ts : List (Transfer Address)) :
    announcedTo a (ts.map .transfer) = [] := by
  simp [announcedTo]

theorem paymentsTo_events (self a : Address) (es : List (Event Address)) :
    paymentsTo self a (es.map .event) = [] := by
  simp [paymentsTo]

/-- To `a` the effects announce payments they made, and if `a` is not the fee collector, all. -/
structure Reconciled (H : Host Address) (config : Option (ProtocolConfig Address)) (a : Address)
    (es : List (Effect Address)) : Prop where
  made : (announcedTo a es).Sublist (paymentsTo H.currentContract a es)
  told : (∀ c ∈ config, c.feeCollector ≠ a) →
    paymentsTo H.currentContract a es = announcedTo a es

section Payouts

variable {H : Host Address} {config : Option (ProtocolConfig Address)} {token f a : Address}

/-- What the transfers of a payment pay `a`: the fee, if `a` collects it, then the net amount. -/
theorem paymentsTo_payouts (gross : Int) :
    paymentsTo H.currentContract a ((payouts H config token f gross).map .transfer) =
      (if (config.any fun c => c.feeCollector = a) ∧ 0 < feeOf config gross then
        [feeOf config gross] else []) ++ if f = a then [netOf config gross] else [] := by
  have h_net : gross - feeOf config gross = netOf config gross := rfl
  cases config with
  | none => by_cases h_f : f = a <;> simp [payouts, paymentsTo, h_f, h_net]
  | some c =>
      by_cases h_fee : 0 < feeOf (some c) gross <;> by_cases h_c : c.feeCollector = a <;>
        by_cases h_f : f = a <;> simp [payouts, paymentsTo, h_fee, h_c, h_f, h_net]

/-- A payment and the event that announces its net amount. -/
theorem payouts_reconciled {gross : Int} {e : Event Address} (es : List (Event Address))
    (h : e.payment? = some (f, netOf config gross)) (h_rest : ∀ e ∈ es, e.payment? = none) :
    Reconciled H config a
      ((payouts H config token f gross).map .transfer ++ .event e :: es.map .event) := by
  let effects : List (Effect Address) :=
    (payouts H config token f gross).map .transfer ++ .event e :: es.map .event
  have h_silent : announcedTo a (es.map .event) = [] := by
    rw [announcedTo, List.filterMap_eq_nil_iff]
    intro x h_x
    obtain ⟨e', h_e', rfl⟩ := List.mem_map.mp h_x
    show (e'.payment?.bind _) = none
    rw [h_rest e' h_e', Option.bind_none]
  have h_announced : announcedTo a effects = if f = a then [netOf config gross] else [] := by
    rw [announcedTo_append, announcedTo_transfers, List.nil_append, ← List.singleton_append,
      announcedTo_append, h_silent, List.append_nil]
    by_cases h_f : f = a <;> simp [announcedTo, h, h_f]
  have h_payments : paymentsTo H.currentContract a effects =
      paymentsTo H.currentContract a ((payouts H config token f gross).map .transfer) := by
    rw [paymentsTo_append, ← List.map_cons (f := Effect.event), paymentsTo_events, List.append_nil]
  rw [paymentsTo_payouts] at h_payments
  refine ⟨?_, fun h_collector => ?_⟩
  · show (announcedTo a effects).Sublist (paymentsTo H.currentContract a effects)
    rw [h_announced, h_payments]
    exact List.sublist_append_right _ _
  show paymentsTo H.currentContract a effects = announcedTo a effects
  have h_none : ¬ (config.any fun c => c.feeCollector = a) := by
    cases config with
    | none => simp
    | some c => simpa using h_collector c rfl
  rw [h_announced, h_payments, if_neg fun h_both => h_none h_both.1, List.nil_append]

end Payouts

variable {H : Host Address}

namespace Reconciled

variable {config : Option (ProtocolConfig Address)} {a : Address} {es es' : List (Effect Address)}

theorem of_eq (h : paymentsTo H.currentContract a es = announcedTo a es) :
    Reconciled H config a es :=
  ⟨by rw [h], fun _ => h⟩

theorem append (h : Reconciled H config a es) (h' : Reconciled H config a es') :
    Reconciled H config a (es ++ es') := by
  refine ⟨?_, fun h_collector => ?_⟩
  · rw [announcedTo_append, paymentsTo_append]
    exact h.made.append h'.made
  · rw [paymentsTo_append, announcedTo_append, h.told h_collector, h'.told h_collector]

theorem event {e : Event Address} (h : e.payment? = none) : Reconciled H config a [.event e] :=
  .of_eq (by simp [paymentsTo, announcedTo, h])

/-- What happens for a stored value, if there is one. -/
theorem toList {α : Type} (o : Option α) {f : α → List (Effect Address)}
    (h : ∀ x, Reconciled H config a (f x)) : Reconciled H config a (o.toList.flatMap f) := by
  cases o with
  | none => exact .of_eq rfl
  | some x =>
      rw [Option.toList_some, List.flatMap_singleton]
      exact h x

theorem toList_map {α : Type} (o : Option α) {f : α → Effect Address}
    (h : ∀ x, Reconciled H config a [f x]) : Reconciled H config a (o.toList.map f) := by
  rw [List.map_eq_flatMap]
  exact toList o h

end Reconciled

/-! ## One operation -/

/-- Whatever an operation finds stored, its effects announce its payments; a `create` that the
    contract itself pays for aside. -/
theorem Op.reconciled (st : Storage Address) (op : Op Address) (a : Address)
    (h_payer : ∀ args, op = .create args → args.payer ≠ H.currentContract) :
    Reconciled H st.config a (op.effects H st) := by
  cases op with
  | init => exact .of_eq rfl
  | pause => exact .toList_map _ fun c => .event rfl
  | unpause => exact .toList_map _ fun c => .event rfl
  | create args =>
      have h_src := h_payer args rfl
      refine .of_eq ?_
      cases h : args.yieldProtocol <;>
        simp [Op.effects, h, h_src, paymentsTo, announcedTo, Event.payment?]
  | submitWork i => exact .toList _ fun d => .toList_map _ fun m => .event rfl
  | approve i => exact .toList _ fun d => .toList _ fun m => payouts_reconciled [] rfl (by simp)
  | releaseRecurring =>
      refine .toList _ fun d => ?_
      -- `payment_released` announces nothing more
      show Reconciled H st.config a (_ ++ _ :: ite _ _ _)
      split
      · exact payouts_reconciled [_] rfl (by simp [Event.payment?])
      · exact payouts_reconciled [] rfl (by simp)
  | cancel => exact .toList _ fun d => .of_eq (paymentsTo_announced rfl)
  | expire => exact .toList _ fun d => .of_eq (paymentsTo_announced rfl)
  | transferFreelancer f => exact .toList_map _ fun d => .event rfl
  | transferPayer p => exact .toList_map _ fun d => .event rfl
  | extendDeadline t => exact .toList _ fun d => .toList_map _ fun old => .event rfl

/-! ## Runs -/

theorem Step.reconciled {s s' : State H} {l : Label Address} {a : Address} (h : Step s l s')
    (h_signs : Silent H.currentContract ⟨s, l, s'⟩)
    (h_before : Reconciled H s.storage.config a s.log) :
    Reconciled H s'.storage.config a s'.log := by
  -- the collector cannot change, so who is none afterwards was none before
  have h_config : (∀ c ∈ s'.storage.config, c.feeCollector ≠ a) →
      ∀ c ∈ s.storage.config, c.feeCollector ≠ a := by
    intro h_after c h_c
    have h_c : s.storage.config = some c := h_c
    obtain ⟨h_some, h_terms⟩ := h.feeTerms (Option.isSome_of_mem h_c)
    obtain ⟨c', h_c'⟩ := Option.isSome_iff_exists.mp h_some
    rw [Escrow.feeTerms, Escrow.feeTerms, h_c, h_c', Prod.mk.injEq, Option.some.injEq] at h_terms
    rw [← h_terms.2]
    exact h_after c' h_c'
  have h_call : Reconciled H s.storage.config a (l.effects H s.storage) := by
    cases h with
    | aborted => exact .of_eq rfl
    | outside => exact .of_eq rfl
    | @returned _ c _ h_run =>
        refine c.op.reconciled s.storage a fun args h_op h_payer => ?_
        rw [Call.run_ok, h_op] at h_run
        obtain ⟨-, -, -, -, -, -, h_auth, -⟩ := create_ok.mp h_run
        rw [h_payer, show c.env.auth H.currentContract = false from h_signs c rfl] at h_auth
        cases h_auth
  have h_all := h_before.append h_call
  rw [h.log]
  exact ⟨h_all.made, fun h_after => h_all.told (h_config h_after)⟩

/-- **The events announce every payment.**  In every state of a run from empty storage, the payments
    announced to an address were all made to it, in that order; and unless it is the fee collector,
    it got no others. -/
theorem payments_announced {s₀ s : State H} {tr : List (Entry H)} (h_init : s₀.Initial)
    (h_run : Run s₀ tr s) (h_signs : ∀ e ∈ tr, Silent H.currentContract e) (a : Address) :
    (announcedTo a s.log).Sublist (paymentsTo H.currentContract a s.log) ∧
      ((∀ c ∈ s.storage.config, c.feeCollector ≠ a) →
        paymentsTo H.currentContract a s.log = announcedTo a s.log) := by
  obtain ⟨-, -, -, h_log⟩ := h_init
  have h_empty : Reconciled H s₀.storage.config a s₀.log := by
    rw [h_log]
    exact .of_eq rfl
  have h_all : Reconciled H s.storage.config a s.log :=
    h_run.invariant (I := fun t => Reconciled H t.storage.config a t.log) h_signs
      (fun _ h_e h_step h_inv => h_step.reconciled h_e h_inv) h_empty
  exact ⟨h_all.made, h_all.told⟩

namespace Sample

/-- Under a fee of 2.5 % for 3, the first milestone of `twoParts` is paid and the rest refunded. -/
def withFee : List (Call Nat) :=
  [signed 1 (.init 4 250 3), signed 1 (.create twoParts), signed 2 (.submitWork 0),
    signed 3 (.approve 0), signed 4 .cancel]

end Sample

theorem payments_announced_withFee :
    let s := play Sample.withFee (Sample.start 100 0)
    (announcedTo 1 s.log).Sublist (paymentsTo 0 1 s.log) ∧
      ((∀ c ∈ s.storage.config, c.feeCollector ≠ 1) → paymentsTo 0 1 s.log = announcedTo 1 s.log) :=
  payments_announced (Sample.start_initial 100 0) (run_play (by decide)) (by decide) 1

example :
    let s := play Sample.withFee (Sample.start 100 0)
    paymentsTo 0 3 s.log = [1] ∧ announcedTo 3 s.log = [] := by decide

end StarEscrow.Escrow
