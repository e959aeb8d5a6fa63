/-
  StarEscrow.Escrow.Uniform

  What the contract looks at.

  An entry point reads the config, the record, the allowlist and the contracts
  around it, never its time to live or what it has published.  So two states
  that agree on the former cannot be told apart: every call has the same answer
  and the same effects in both (`Same.perform`), and so has everything that
  follows (`Same.play`).
-/

import StarEscrow.Lib.Relational
import StarEscrow.Escrow.Run

namespace StarEscrow.Escrow

open Exec Relational

variable {Address : Type} [DecidableEq Address] {H : Host Address}

/-- The states look the same to the contract.  `l` and `l'` are what they had done before, and they
    have done the same since. -/
structure Same (l l' : List (Effect Address)) (s t : State H) : Prop where
  config : s.storage.config = t.storage.config
  escrow : s.storage.escrow = t.storage.escrow
  allowedTokens : s.storage.allowedTokens = t.storage.allowedTokens
  world : s.world = t.world
  log : ∃ es, s.log = l ++ es ∧ t.log = l' ++ es

variable {l l' : List (Effect Address)} {s t : State H}

theorem Same.refl (s : State H) : Same s.log s.log s s := ⟨rfl, rfl, rfl, rfl, [], by simp⟩

/-! ## Updates -/

namespace Same

theorem push (h : Same l l' s t) (e : Effect Address) : Same l l' (s.push e) (t.push e) := by
  obtain ⟨es, h_s, h_t⟩ := h.log
  refine ⟨h.config, h.escrow, h.allowedTokens, h.world, es ++ [e], ?_, ?_⟩
  · rw [State.push_log, h_s, List.append_assoc]
  · rw [State.push_log, h_t, List.append_assoc]

theorem putWorld (h : Same l l' s t) (w : H.World) : Same l l' (s.putWorld w) (t.putWorld w) :=
  ⟨h.config, h.escrow, h.allowedTokens, rfl, h.log⟩

theorem putConfig (h : Same l l' s t) (c : ProtocolConfig Address) :
    Same l l' (s.putConfig c) (t.putConfig c) :=
  ⟨rfl, h.escrow, h.allowedTokens, h.world, h.log⟩

theorem putEscrow (h : Same l l' s t) (d : EscrowData Address) :
    Same l l' (s.putEscrow d) (t.putEscrow d) :=
  ⟨h.config, rfl, h.allowedTokens, h.world, h.log⟩

/-- The time to live and the clock may differ. -/
theorem touch (h : Same l l' s t) : Same l l' s.touch t.touch :=
  ⟨h.config, h.escrow, h.allowedTokens, h.world, h.log⟩

theorem atTime (h : Same l l' s t) (x y : UInt64) : Same l l' (s.atTime x) (t.atTime y) :=
  ⟨h.config, h.escrow, h.allowedTokens, h.world, h.log⟩

end Same

/-! ## Primitives -/

/-- The computation cannot tell states apart that look the same. -/
def Uniform {α : Type} (x : Exec H α) : Prop := ∀ l l', Couples (Same l l') x x

namespace Uniform

variable {α β : Type}

theorem pure (a : α) : Uniform (H := H) (Pure.pure a) := fun _ _ => .pure a

theorem bind {x : Exec H α} {f : α → Exec H β} (h : Uniform x) (h_rest : ∀ a, Uniform (f a)) :
    Uniform (x >>= f) := fun l l' => (h l l').bind fun a => h_rest a l l'

theorem map {x : Exec H α} {f : α → β} (h : Uniform x) : Uniform (f <$> x) :=
  fun l l' => (h l l').map

theorem ite {c : Prop} [Decidable c] {x y : Exec H α} (h : Uniform x) (h' : Uniform y) :
    Uniform (if c then x else y) := fun l l' => (h l l').ite (h' l l')

theorem errIf (c : Prop) [Decidable c] (e : EscrowError) : Uniform (H := H) (Exec.errIf c e) := by
  intro l l' env s t h
  unfold Exec.errIf
  split
  · exact .error _
  · exact .ok ⟨rfl, h⟩

theorem orTrap (o : Option α) (x : Trap) : Uniform (H := H) (Exec.orTrap o x) := by
  intro l l' env s t h
  cases o with
  | some a => exact .ok ⟨rfl, h⟩
  | none => exact .error _

theorem orErr (o : Option α) (e : EscrowError) : Uniform (H := H) (Exec.orErr o e) := by
  intro l l' env s t h
  cases o with
  | some a => exact .ok ⟨rfl, h⟩
  | none => exact .error _

theorem requireAuth (a : Address) : Uniform (H := H) (Exec.requireAuth a) := by
  intro l l' env s t h
  unfold Exec.requireAuth
  split
  · exact .ok ⟨rfl, h⟩
  · exact .error _

theorem timestamp : Uniform (H := H) Exec.timestamp := fun _ _ _ _ _ h => .ok ⟨rfl, h⟩

/-- What is read has to look the same. -/
theorem reads {f : State H → α} (h_eq : ∀ l l' s t, Same l l' s t → f s = f t) :
    Uniform (Exec.reads f) := by
  intro l l' env s t h
  unfold Exec.reads
  rw [h_eq l l' s t h]
  exact .ok ⟨rfl, h⟩

/-- What is written has to look the same. -/
theorem update {f : State H → State H} (h_same : ∀ l l' s t, Same l l' s t → Same l l' (f s) (f t)) :
    Uniform (Exec.update f) := fun l l' _ s t h => .ok ⟨rfl, h_same l l' s t h⟩

theorem emit (e : Event Address) : Uniform (H := H) (Exec.emit e) :=
  update fun _ _ _ _ h => h.push (.event e)

theorem transfer (token src dst : Address) (x : Int) :
    Uniform (H := H) (Exec.transfer token src dst x) := by
  intro l l' env s t h
  unfold Exec.transfer
  rw [h.world]
  cases H.transfer t.world token src dst x with
  | some w => exact .ok ⟨rfl, (h.putWorld w).push _⟩
  | none => exact .error _

theorem deposit (protocol : Address) (x : Int) : Uniform (H := H) (Exec.deposit protocol x) := by
  intro l l' env s t h
  unfold Exec.deposit
  rw [h.world]
  cases H.deposit t.world protocol x with
  | some w => exact .ok ⟨rfl, (h.putWorld w).push _⟩
  | none => exact .error _

/-! ## Storage helpers -/

theorem extendTtl : Uniform (H := H) Escrow.extendTtl := update fun _ _ _ _ h => h.touch

theorem saveEscrow (d : EscrowData Address) : Uniform (H := H) (Escrow.saveEscrow d) :=
  update fun _ _ _ _ h => h.putEscrow d

theorem loadEscrow : Uniform (H := H) Escrow.loadEscrow :=
  (reads fun _ _ _ _ h => h.escrow).bind fun _ => orTrap _ _

theorem hasEscrow : Uniform (H := H) Escrow.hasEscrow :=
  reads fun _ _ _ _ h => by rw [h.escrow]

theorem readAllowedTokens : Uniform (H := H) Escrow.readAllowedTokens :=
  reads fun _ _ _ _ h => by rw [h.allowedTokens]

theorem saveConfig (c : ProtocolConfig Address) : Uniform (H := H) (Escrow.saveConfig c) :=
  update fun _ _ _ _ h => h.putConfig c

theorem loadConfig : Uniform (H := H) Escrow.loadConfig :=
  (reads fun _ _ _ _ h => h.config).bind fun _ => orTrap _ _

theorem hasConfig : Uniform (H := H) Escrow.hasConfig :=
  reads fun _ _ _ _ h => by rw [h.config]

theorem assertNotPaused : Uniform (H := H) Escrow.assertNotPaused :=
  hasConfig.bind fun _ => .ite (loadConfig.bind fun _ => errIf _ _) (.pure ())

/-! ## Entry points -/

theorem init (admin : Address) (feeBps : UInt32) (feeCollector : Address) :
    Uniform (H := H) (Escrow.init admin feeBps feeCollector) :=
  hasConfig.bind fun _ => (errIf _ _).bind fun _ => (requireAuth admin).bind fun _ =>
    (saveConfig _).bind fun _ => extendTtl

theorem pause : Uniform (H := H) Escrow.pause :=
  loadConfig.bind fun _ => (requireAuth _).bind fun _ => (emit _).bind fun _ =>
    (saveConfig _).bind fun _ => extendTtl

theorem unpause : Uniform (H := H) Escrow.unpause :=
  loadConfig.bind fun _ => (requireAuth _).bind fun _ => (emit _).bind fun _ =>
    (saveConfig _).bind fun _ => extendTtl

theorem sumMilestones (total : Int) (ms : List Milestone) :
    Uniform (H := H) (Escrow.sumMilestones total ms) := by
  induction ms generalizing total with
  | nil => exact .pure total
  | cons m ms ih => exact (errIf _ _).bind fun _ => (orTrap _ _).bind fun next => ih next

theorem depositYield (d : EscrowData Address) : Uniform (H := H) (Escrow.depositYield d) := by
  unfold Escrow.depositYield
  cases d.yieldProtocol with
  | none => exact .pure d
  | some protocol => exact (deposit _ _).bind fun _ => (emit _).bind fun _ => .pure _

theorem create (a : CreateArgs Address) : Uniform (H := H) (Escrow.create a) :=
  assertNotPaused.bind fun _ => hasEscrow.bind fun _ => (errIf _ _).bind fun _ =>
    (errIf _ _).bind fun _ => (sumMilestones 0 a.milestones).bind fun _ =>
    (errIf _ _).bind fun _ => readAllowedTokens.bind fun _ => (errIf _ _).bind fun _ =>
    (requireAuth a.payer).bind fun _ => (transfer _ _ _ _).bind fun _ =>
    timestamp.bind fun _ => (depositYield _).bind fun _ => (saveEscrow _).bind fun _ =>
    (emit _).bind fun _ => extendTtl

theorem submitWork (i : Nat) : Uniform (H := H) (Escrow.submitWork i) :=
  assertNotPaused.bind fun _ => loadEscrow.bind fun _ => (errIf _ _).bind fun _ =>
    (orErr _ _).bind fun _ => (errIf _ _).bind fun _ => (requireAuth _).bind fun _ =>
    (saveEscrow _).bind fun _ => (emit _).bind fun _ => extendTtl

theorem payFreelancer (token freelancer : Address) (amount : Int) :
    Uniform (H := H) (Escrow.payFreelancer token freelancer amount) := by
  refine .bind (hasConfig.bind fun _ => .ite ?_ (.pure amount)) fun _ =>
    (transfer _ _ _ _).bind fun _ => .pure _
  exact loadConfig.bind fun _ => (orTrap _ _).bind fun _ =>
    .bind (.ite (transfer _ _ _ _) (.pure ())) fun _ => orTrap _ _

theorem approve (i : Nat) : Uniform (H := H) (Escrow.approve i) :=
  assertNotPaused.bind fun _ => loadEscrow.bind fun _ => (orErr _ _).bind fun _ =>
    (errIf _ _).bind fun _ => (requireAuth _).bind fun _ => (payFreelancer _ _ _).bind fun _ =>
    (emit _).bind fun _ => (saveEscrow _).bind fun _ => extendTtl

theorem releaseRecurring : Uniform (H := H) Escrow.releaseRecurring :=
  assertNotPaused.bind fun _ => loadEscrow.bind fun _ => (errIf _ _).bind fun _ =>
    (errIf _ _).bind fun _ => (errIf _ _).bind fun _ => timestamp.bind fun _ =>
    (orTrap _ _).bind fun _ => (errIf _ _).bind fun _ => (payFreelancer _ _ _).bind fun _ =>
    (orTrap _ _).bind fun _ => (emit _).bind fun _ => .bind (.ite (emit _) (.pure ())) fun _ =>
    saveEscrow _

theorem cancel : Uniform (H := H) Escrow.cancel :=
  assertNotPaused.bind fun _ => loadEscrow.bind fun _ => (errIf _ _).bind fun _ =>
    (requireAuth _).bind fun _ => (orTrap _ _).bind fun _ => (transfer _ _ _ _).bind fun _ =>
    (emit _).bind fun _ => (saveEscrow _).bind fun _ => extendTtl

theorem expire : Uniform (H := H) Escrow.expire :=
  assertNotPaused.bind fun _ => loadEscrow.bind fun _ => (errIf _ _).bind fun _ =>
    (orErr _ _).bind fun _ => timestamp.bind fun _ => (errIf _ _).bind fun _ =>
    (requireAuth _).bind fun _ => (orTrap _ _).bind fun _ => (transfer _ _ _ _).bind fun _ =>
    (emit _).bind fun _ => (saveEscrow _).bind fun _ => extendTtl

theorem transferFreelancer (f : Address) : Uniform (H := H) (Escrow.transferFreelancer f) :=
  assertNotPaused.bind fun _ => loadEscrow.bind fun _ => (requireAuth _).bind fun _ =>
    (saveEscrow _).bind fun _ => (emit _).bind fun _ => extendTtl

theorem transferPayer (p : Address) : Uniform (H := H) (Escrow.transferPayer p) :=
  assertNotPaused.bind fun _ => loadEscrow.bind fun _ => (requireAuth _).bind fun _ =>
    (saveEscrow _).bind fun _ => (emit _).bind fun _ => extendTtl

theorem extendDeadline (x : UInt64) : Uniform (H := H) (Escrow.extendDeadline x) :=
  assertNotPaused.bind fun _ => loadEscrow.bind fun _ => (requireAuth _).bind fun _ =>
    (orErr _ _).bind fun _ => (errIf _ _).bind fun _ => (saveEscrow _).bind fun _ =>
    (emit _).bind fun _ => extendTtl

/-- No entry point can tell the states apart. -/
theorem exec (op : Op Address) : Uniform (H := H) op.exec := by
  cases op with
  | init admin feeBps feeCollector => exact init admin feeBps feeCollector
  | pause => exact pause
  | unpause => exact unpause
  | create a => exact create a
  | submitWork i => exact submitWork i
  | approve i => exact approve i
  | releaseRecurring => exact releaseRecurring
  | cancel => exact cancel
  | expire => exact expire
  | transferFreelancer f => exact transferFreelancer f
  | transferPayer p => exact transferPayer p
  | extendDeadline x => exact extendDeadline x

end Uniform

end StarEscrow.Escrow
