/-
  StarEscrow.Escrow.Effects

  Everything a returned call does outside the storage, as a function.

  `Op.effects` lists the transfers, the deposit and the events of an operation
  in the order of the source, from nothing but the storage the call found and
  its arguments.  So the log of a run is the concatenation of what its returned
  calls did (`Run.log`), and a property of the log is a property of these lists.

  `Host.carryAll` is the other side of an effect: what the contracts around make
  of it, or the code with which one of them refuses.
-/

import StarEscrow.Escrow.Creation

namespace StarEscrow.Escrow

variable {Address : Type} [DecidableEq Address]

/-- What a gross payment leaves the freelancer. -/
def netOf (config : Option (ProtocolConfig Address)) (gross : Int) : Int :=
  gross - feeOf config gross

/-- The effects of an operation that returns, from the storage it found. -/
def Op.effects (H : Host Address) (st : Storage Address) : Op Address → List (Effect Address)
  | .init _ _ _ => []
  | .pause => st.config.toList.map fun c => .event (.contractPaused c.admin)
  | .unpause => st.config.toList.map fun c => .event (.contractUnpaused c.admin)
  | .create a =>
      let total := milestoneTotal a.milestones
      .transfer ⟨a.token, a.payer, H.currentContract, total⟩ ::
        (a.yieldProtocol.toList.flatMap fun p =>
          [.deposit p total, .event (.yieldDeposited p total)]) ++
        [.event (.escrowCreated a.payer a.freelancer total a.milestones)]
  | .submitWork i => st.escrow.toList.flatMap fun d => d.milestones[i]?.toList.map fun m =>
      .event (.milestoneSubmitted d.freelancer i m.description)
  | .approve i => st.escrow.toList.flatMap fun d => d.milestones[i]?.toList.flatMap fun m =>
      (payouts H st.config d.token d.freelancer m.amount).map .transfer ++
        [.event (.milestoneApproved d.freelancer i m.description (netOf st.config m.amount))]
  | .releaseRecurring => st.escrow.toList.flatMap fun d =>
      let net := netOf st.config d.amount
      let num := d.releasesMade + 1
      (payouts H st.config d.token d.freelancer d.amount).map .transfer ++
        .event (.recurringReleased d.freelancer net num) ::
          if d.recurrenceCount ≤ num then [.event (.paymentReleased d.freelancer net)] else []
  | .cancel => st.escrow.toList.flatMap fun d =>
      [.transfer ⟨d.token, H.currentContract, d.payer, refundOf d⟩,
        .event (.escrowCancelled d.payer (refundOf d))]
  | .expire => st.escrow.toList.flatMap fun d =>
      [.transfer ⟨d.token, H.currentContract, d.payer, refundOf d⟩,
        .event (.escrowExpired d.payer (refundOf d))]
  | .transferFreelancer f => st.escrow.toList.map fun d =>
      .event (.freelancerTransferred d.freelancer f)
  | .transferPayer p => st.escrow.toList.map fun d => .event (.payerTransferred d.payer p)
  | .extendDeadline t => st.escrow.toList.flatMap fun d => d.deadline.toList.map fun old =>
      .event (.deadlineExtended old t)

variable {H : Host Address}

/-- The effects of a step: those of the call, if one returned. -/
def Label.effects (H : Host Address) (st : Storage Address) : Label Address → List (Effect Address)
  | .returned c => c.op.effects H st
  | .aborted _ | .outside => []

/-! ## What the contracts around make of them -/

/-- The contracts around carry out an effect, or the one it is for refuses, with the code it
    reports. -/
def Host.carryOut (H : Host Address) (w : H.World) :
    Effect Address → Except (Option UInt32) H.World
  | .event _ => .ok w
  | .transfer t =>
      match H.transfer w t.token t.src t.dst t.amount with
      | some w' => .ok w'
      | none => .error (H.codes.transfer w t.token t.src t.dst t.amount)
  | .deposit p x =>
      match H.deposit w p x with
      | some w' => .ok w'
      | none => .error (H.codes.deposit w p x)
  | .withdraw r =>
      match H.withdraw w r.protocol r.requested with
      | some (w', _, _) => .ok w'
      | none => .error (H.codes.withdraw w r.protocol r.requested)

/-- One effect after the other, up to the first refusal. -/
def Host.carryAll (H : Host Address) (w : H.World) (es : List (Effect Address)) :
    Except (Option UInt32) H.World := es.foldlM H.carryOut w

section Carry

variable {w w' : H.World} {token src dst p : Address} {x : Int} {es es' : List (Effect Address)}

@[simp] theorem carryAll_nil : H.carryAll w [] = .ok w := rfl

@[simp] theorem carryAll_event (e : Event Address) :
    H.carryAll w (.event e :: es) = H.carryAll w es := rfl

theorem carryAll_transfer (h : H.transfer w token src dst x = some w') :
    H.carryAll w (.transfer ⟨token, src, dst, x⟩ :: es) = H.carryAll w' es := by
  rw [Host.carryAll, List.foldlM_cons, Host.carryOut]
  simp only [h]
  rfl

theorem carryAll_refused (h : H.transfer w token src dst x = none) :
    H.carryAll w (.transfer ⟨token, src, dst, x⟩ :: es) =
      .error (H.codes.transfer w token src dst x) := by
  rw [Host.carryAll, List.foldlM_cons, Host.carryOut]
  simp only [h]
  rfl

theorem carryAll_deposit (h : H.deposit w p x = some w') :
    H.carryAll w (.deposit p x :: es) = H.carryAll w' es := by
  rw [Host.carryAll, List.foldlM_cons, Host.carryOut, h]
  rfl

theorem carryAll_deposit_refused (h : H.deposit w p x = none) :
    H.carryAll w (.deposit p x :: es) = .error (H.codes.deposit w p x) := by
  rw [Host.carryAll, List.foldlM_cons, Host.carryOut, h]
  rfl

theorem carryAll_append_ok (h : H.carryAll w es = .ok w') :
    H.carryAll w (es ++ es') = H.carryAll w' es' := by
  rw [Host.carryAll, List.foldlM_append, ← Host.carryAll, h]
  rfl

theorem carryAll_append_error {code : Option UInt32} (h : H.carryAll w es = .error code) :
    H.carryAll w (es ++ es') = .error code := by
  rw [Host.carryAll, List.foldlM_append, ← Host.carryAll, h]
  rfl

end Carry

/-! ## One call -/

/-- A payment that goes through pays the freelancer the net amount, which is not negative. -/
theorem payFreelancer_net {env : Env Address} {s s' : State H} {token freelancer : Address}
    {gross net : Int} (h : payFreelancer token freelancer gross env s = .ok (net, s')) :
    net = netOf s.storage.config gross ∧ 0 ≤ net := by
  obtain ⟨h_net, -, s₁, -, h_rest⟩ := payFreelancer_steps h
  obtain ⟨w, h_w, -⟩ := Exec.transfer_ok.mp h_rest
  exact ⟨h_net, h_net ▸ (H.transfer_covered h_w).1⟩

/-- Its transfers have been carried out. -/
theorem payFreelancer_carried {env : Env Address} {s s' : State H} {token freelancer : Address}
    {gross net : Int} (h : payFreelancer token freelancer gross env s = .ok (net, s')) :
    H.carryAll s.world ((payouts H s.storage.config token freelancer gross).map .transfer) =
      .ok s'.world := by
  obtain ⟨-, -, s₁, h_fee, h_rest⟩ := payFreelancer_steps h
  obtain ⟨w, h_w, rfl⟩ := Exec.transfer_ok.mp h_rest
  obtain ⟨h_zero, rfl⟩ | ⟨c, h_config, h_pos, h_take⟩ := h_fee
  · rw [payouts_of_free h_zero]
    exact carryAll_transfer h_w
  · obtain ⟨w₁, h_w₁, rfl⟩ := Exec.transfer_ok.mp h_take
    rw [payouts_of_fee h_config h_pos]
    exact (carryAll_transfer h_w₁).trans (carryAll_transfer h_w)

/-- What a returned call did are exactly the effects of the operation: the log grows by them, and
    the contracts around carried them out. -/
theorem Call.did {c : Call Address} {s s' : State H} (h : c.run s = .ok s') :
    s'.log = s.log ++ c.op.effects H s.storage ∧
      H.carryAll s.world (c.op.effects H s.storage) = .ok s'.world := by
  obtain ⟨t, auth, op⟩ := c
  rw [Call.run_ok] at h
  cases op with
  | init admin feeBps feeCollector =>
      obtain ⟨-, -, rfl⟩ := init_ok.mp h
      exact ⟨(List.append_nil _).symm, rfl⟩
  | pause =>
      obtain ⟨cfg, h_stored, -, rfl⟩ := pause_ok.mp h
      rw [State.atTime_storage] at h_stored
      simp [Op.effects, h_stored]
  | unpause =>
      obtain ⟨cfg, h_stored, -, rfl⟩ := unpause_ok.mp h
      rw [State.atTime_storage] at h_stored
      simp [Op.effects, h_stored]
  | create a =>
      obtain ⟨-, -, -, -, -, -, -, w, h_w, d, s₁, h_lend, rfl⟩ := create_ok.mp h
      rw [State.atTime_world] at h_w
      rcases depositYield_ok.mp h_lend with ⟨h_no, -, rfl⟩ | ⟨p, h_p, -, w', h_w', rfl⟩
      · have h_no : a.yieldProtocol = none := h_no
        simp [Op.effects, h_no, carryAll_transfer h_w]
      · have h_p : a.yieldProtocol = some p := h_p
        have h_w' : H.deposit w p (milestoneTotal a.milestones) = some w' := h_w'
        simp [Op.effects, h_p, CreateArgs.record, carryAll_transfer h_w, carryAll_deposit h_w']
  | submitWork i =>
      obtain ⟨-, d, h_stored, -, m, h_get, -, -, rfl⟩ := submitWork_ok.mp h
      rw [State.atTime_storage] at h_stored
      simp [Op.effects, h_stored, h_get]
  | approve i =>
      obtain ⟨-, d, h_stored, m, h_get, -, -, net, s₁, h_pay, rfl⟩ := approve_ok.mp h
      rw [State.atTime_storage] at h_stored
      have h_net := (payFreelancer_net h_pay).1
      have h_log := (payFreelancer_payment h_pay).log
      have h_carried := payFreelancer_carried h_pay
      simp only [State.atTime_storage, State.atTime_log, State.atTime_world]
        at h_net h_log h_carried
      simp [Op.effects, h_stored, h_get, h_log, h_net, carryAll_append_ok h_carried]
  | releaseRecurring =>
      obtain ⟨-, d, h_stored, -, -, -, -, -, net, s₁, k, h_pay, h_next, rfl⟩ :=
        releaseRecurring_ok.mp h
      rw [State.atTime_storage] at h_stored
      have h_net := (payFreelancer_net h_pay).1
      have h_log := (payFreelancer_payment h_pay).log
      have h_carried := payFreelancer_carried h_pay
      simp only [State.atTime_storage, State.atTime_log, State.atTime_world]
        at h_net h_log h_carried
      -- the increment did not overflow, so it is the sum
      have h_k : k = d.releasesMade + 1 := by
        have h_lt := k.toNat_lt
        apply UInt32.toNat_inj.mp
        rw [h_next, UInt32.toNat_add, UInt32.toNat_one, Nat.mod_eq_of_lt (by omega)]
      by_cases h_last : d.recurrenceCount ≤ d.releasesMade + 1 <;>
        simp [Op.effects, h_stored, h_log, h_net, h_k, h_last, carryAll_append_ok h_carried]
  | cancel =>
      obtain ⟨-, d, h_stored, -, -, x, h_x, w, h_w, rfl⟩ := cancel_ok.mp h
      rw [State.atTime_storage] at h_stored
      obtain rfl := remaining_exact h_x
      rw [State.atTime_world] at h_w
      simp [Op.effects, h_stored, carryAll_transfer h_w]
  | expire =>
      obtain ⟨-, d, h_stored, -, dl, -, -, -, x, h_x, w, h_w, rfl⟩ := expire_ok.mp h
      rw [State.atTime_storage] at h_stored
      obtain rfl := remaining_exact h_x
      rw [State.atTime_world] at h_w
      simp [Op.effects, h_stored, carryAll_transfer h_w]
  | transferFreelancer f =>
      obtain ⟨-, d, h_stored, -, rfl⟩ := transferFreelancer_ok.mp h
      rw [State.atTime_storage] at h_stored
      simp [Op.effects, h_stored]
  | transferPayer p =>
      obtain ⟨-, d, h_stored, -, rfl⟩ := transferPayer_ok.mp h
      rw [State.atTime_storage] at h_stored
      simp [Op.effects, h_stored]
  | extendDeadline t' =>
      obtain ⟨-, d, h_stored, -, dl, h_dl, -, rfl⟩ := extendDeadline_ok.mp h
      rw [State.atTime_storage] at h_stored
      simp [Op.effects, h_stored, h_dl]

/-! ## Runs -/

theorem Step.log {s s' : State H} {l : Label Address} (h : Step s l s') :
    s'.log = s.log ++ l.effects H s.storage := by
  cases h with
  | returned _ h_run => exact (Call.did h_run).1
  | aborted => exact (List.append_nil _).symm
  | outside => exact (List.append_nil _).symm

/-- The log of a run is what its returned calls did, one after the other. -/
theorem Run.log {s s' : State H} {tr : List (Entry H)} (h : Run s tr s') :
    s'.log = s.log ++ tr.flatMap fun e => e.label.effects H e.pre.storage := by
  refine h.history (P := fun tr t => t.log =
    s.log ++ tr.flatMap fun e => e.label.effects H e.pre.storage) ?_ (List.append_nil _).symm
  intro tr e h_step h_before
  rw [h_step.log, h_before, List.flatMap_append, List.append_assoc]
  simp

end StarEscrow.Escrow
