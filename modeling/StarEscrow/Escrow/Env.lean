/-
  StarEscrow.Escrow.Env

  The environment an escrow instance runs in: the host (its own address, the
  token contracts, the yield protocols), the state of one instance, and the
  monad its entry points are written in.

  A call returns, or fails with one of the contract's own errors, or with the
  error of a contract it called, or traps.  All but the first make the host
  roll the call back.
-/

import StarEscrow.Lib.Checked
import StarEscrow.Lib.Sep41
import StarEscrow.Escrow.Types

namespace StarEscrow.Escrow

/-- The error codes with which the contracts around refuse a call, from its arguments; `none` where
    they panic instead. -/
structure Codes (Address World : Type) where
  transfer : World → Address → Address → Address → Int → Option UInt32
  deposit : World → Address → Int → Option UInt32
  withdraw : World → Address → Int → Option UInt32

/-- They always panic. -/
def Codes.none (Address World : Type) : Codes Address World :=
  ⟨fun _ _ _ _ _ => .none, fun _ _ _ => .none, fun _ _ _ => .none⟩

/-- What the contract runs against.  The token contracts come with their laws; the yield
    protocols are arbitrary code behind the interface of `yield.rs`, called with the escrow
    contract as the caller. -/
structure Host (Address : Type) [DecidableEq Address] extends Sep41 Address where
  currentContract : Address
  codes : Codes Address World
  /-- `deposit w protocol amount`. -/
  deposit : World → Address → Int → Option World
  /-- `withdraw w protocol requested`, with the returned `(principal, yield)`. -/
  withdraw : World → Address → Int → Option (World × Int × Int)

/-- Tables of balances, and yield protocols that keep one asset each: `deposit` pulls it from the
    contract, `withdraw` pays the principal back together with what has accrued. -/
def Host.ledger {Address : Type} [DecidableEq Address] (currentContract : Address)
    (asset : Address → Address) (accrued : Address → Int) : Host Address where
  toSep41 := Sep41.ledger Address
  currentContract := currentContract
  codes := .none _ _
  deposit w protocol x :=
    (Sep41.ledger Address).transfer w (asset protocol) currentContract protocol x
  withdraw w protocol x :=
    ((Sep41.ledger Address).transfer w (asset protocol) protocol currentContract
      (x + accrued protocol)).map fun w' => (w', x, accrued protocol)

/-- Why a call stopped without a result. -/
inductive Trap
  | expect (msg : String)
  | unauthorized
  | overflow
  | token
  | yieldProtocol
  deriving DecidableEq, Repr

inductive Failure
  | error (e : EscrowError)
  /-- the error of a called contract, which the host hands on to the caller -/
  | passed (code : UInt32)
  | trap (t : Trap)
  deriving DecidableEq, Repr

/-- A called contract refuses: with a code of its own, or with a trap. -/
def Failure.ofCallee (code : Option UInt32) (t : Trap) : Failure := code.elim (.trap t) .passed

@[simp] theorem Failure.ofCallee_ne_error {code : Option UInt32} {t : Trap} {e : EscrowError} :
    ofCallee code t ≠ .error e := by
  cases code <;> simp [ofCallee]

@[simp] theorem Failure.ofCallee_eq_passed {code : Option UInt32} {t : Trap} {n : UInt32} :
    ofCallee code t = .passed n ↔ code = some n := by
  cases code <;> simp [ofCallee]

/-- The code the caller sees.  It does not tell whose error it is. -/
def Failure.code? : Failure → Option UInt32
  | .error e => some e.code
  | .passed n => some n
  | .trap _ => none

/-- The part of the environment that is fixed during a call: the ledger time and the
    addresses that authorised it. -/
structure Env (Address : Type) where
  timestamp : UInt64
  auth : Address → Bool

variable {Address : Type} [DecidableEq Address]

/-- An escrow instance: its storage, the state of the contracts around it, everything it has
    done outside its storage so far, and the last ledger time it has seen. -/
structure State (H : Host Address) where
  storage : Storage Address
  world : H.World
  log : List (Effect Address)
  time : UInt64

abbrev Exec (H : Host Address) : Type → Type :=
  ReaderT (Env Address) (StateT (State H) (Except Failure))

namespace State

variable {H : Host Address}

/-! ## Updates -/

def putConfig (s : State H) (c : ProtocolConfig Address) : State H :=
  { s with storage := { s.storage with config := some c } }

def putEscrow (s : State H) (d : EscrowData Address) : State H :=
  { s with storage := { s.storage with escrow := some d } }

def putAllowedTokens (s : State H) (tokens : List Address) : State H :=
  { s with storage := { s.storage with allowedTokens := some tokens } }

def putTtl (s : State H) (ttl : Nat) : State H :=
  { s with storage := { s.storage with ttl := ttl } }

def push (s : State H) (e : Effect Address) : State H :=
  { s with log := s.log ++ [e] }

def putWorld (s : State H) (w : H.World) : State H := { s with world := w }

/-- The state as a call at time `t` finds it. -/
def atTime (s : State H) (t : UInt64) : State H := { s with time := t }

/-! ## Observations -/

/-- Whether a stored config pauses the contract. -/
def paused (s : State H) : Bool := s.storage.config.any (·.paused)

/-- The transfers the contract has asked for so far. -/
def transfers (s : State H) : List (Transfer Address) := s.log.filterMap Effect.transfer?

/-- The withdrawals from yield protocols it has made so far. -/
def withdrawals (s : State H) : List (Withdrawal Address) := s.log.filterMap Effect.withdraw?

/-- The contract's own balance of a token. -/
def funds (s : State H) (token : Address) : Int := H.balance s.world token H.currentContract

/-- Total the contract has transferred out of its own balance of a token so far. -/
def paidOut (s : State H) (token : Address) : Int :=
  ((s.transfers.filter fun t => t.token = token ∧ t.src = H.currentContract).map (·.amount)).sum

section Simp

variable (s : State H) (c : ProtocolConfig Address) (d : EscrowData Address) (n : Nat)
  (e : Effect Address) (w : H.World) (t : UInt64) (token : Address)

@[simp] theorem putConfig_config : (s.putConfig c).storage.config = some c := rfl
@[simp] theorem putConfig_escrow : (s.putConfig c).storage.escrow = s.storage.escrow := rfl
@[simp] theorem putConfig_world : (s.putConfig c).world = s.world := rfl
@[simp] theorem putConfig_log : (s.putConfig c).log = s.log := rfl
@[simp] theorem putConfig_time : (s.putConfig c).time = s.time := rfl
@[simp] theorem putEscrow_config : (s.putEscrow d).storage.config = s.storage.config := rfl
@[simp] theorem putEscrow_escrow : (s.putEscrow d).storage.escrow = some d := rfl
@[simp] theorem putEscrow_world : (s.putEscrow d).world = s.world := rfl
@[simp] theorem putEscrow_log : (s.putEscrow d).log = s.log := rfl
@[simp] theorem putEscrow_time : (s.putEscrow d).time = s.time := rfl
@[simp] theorem putTtl_config : (s.putTtl n).storage.config = s.storage.config := rfl
@[simp] theorem putTtl_escrow : (s.putTtl n).storage.escrow = s.storage.escrow := rfl
@[simp] theorem putTtl_world : (s.putTtl n).world = s.world := rfl
@[simp] theorem putTtl_log : (s.putTtl n).log = s.log := rfl
@[simp] theorem putTtl_time : (s.putTtl n).time = s.time := rfl
@[simp] theorem push_storage : (s.push e).storage = s.storage := rfl
@[simp] theorem push_world : (s.push e).world = s.world := rfl
@[simp] theorem push_log : (s.push e).log = s.log ++ [e] := rfl
@[simp] theorem push_time : (s.push e).time = s.time := rfl
@[simp] theorem putWorld_storage : (s.putWorld w).storage = s.storage := rfl
@[simp] theorem putWorld_world : (s.putWorld w).world = w := rfl
@[simp] theorem putWorld_log : (s.putWorld w).log = s.log := rfl
@[simp] theorem putWorld_time : (s.putWorld w).time = s.time := rfl
@[simp] theorem atTime_storage : (s.atTime t).storage = s.storage := rfl
@[simp] theorem atTime_world : (s.atTime t).world = s.world := rfl
@[simp] theorem atTime_log : (s.atTime t).log = s.log := rfl
@[simp] theorem atTime_time : (s.atTime t).time = t := rfl
@[simp] theorem atTime_paused : (s.atTime t).paused = s.paused := rfl
@[simp] theorem atTime_transfers : (s.atTime t).transfers = s.transfers := rfl
@[simp] theorem atTime_withdrawals : (s.atTime t).withdrawals = s.withdrawals := rfl
@[simp] theorem atTime_funds : (s.atTime t).funds token = s.funds token := rfl
@[simp] theorem atTime_paidOut : (s.atTime t).paidOut token = s.paidOut token := rfl

end Simp

end State

/-! ## Primitives -/

namespace Exec

variable {H : Host Address} {α β : Type}

/-- `return Err(e)` when the condition holds. -/
def errIf (c : Prop) [Decidable c] (e : EscrowError) : Exec H Unit := fun _ s =>
  if c then .error (.error e) else .ok ((), s)

/-- The value, or a trap. -/
def orTrap (o : Option α) (t : Trap) : Exec H α := fun _ s =>
  match o with
  | some a => .ok (a, s)
  | none => .error (.trap t)

/-- The value, or `return Err(e)`. -/
def orErr (o : Option α) (e : EscrowError) : Exec H α := fun _ s =>
  match o with
  | some a => .ok (a, s)
  | none => .error (.error e)

def requireAuth (a : Address) : Exec H Unit := fun env s =>
  if env.auth a then .ok ((), s) else .error (.trap .unauthorized)

/-- `env.ledger().timestamp()`. -/
def timestamp : Exec H UInt64 := fun env s => .ok (env.timestamp, s)

/-- A value read off the state. -/
def reads (f : State H → α) : Exec H α := fun _ s => .ok (f s, s)

def update (f : State H → State H) : Exec H Unit := fun _ s => .ok ((), f s)

/-- `env.events().publish`. -/
def emit (e : Event Address) : Exec H Unit := update (·.push (.event e))

/-- `token::Client::transfer`. -/
def transfer (token src dst : Address) (amount : Int) : Exec H Unit := fun _ s =>
  match H.transfer s.world token src dst amount with
  | some w => .ok ((), (s.putWorld w).push (.transfer ⟨token, src, dst, amount⟩))
  | none => .error (.ofCallee (H.codes.transfer s.world token src dst amount) .token)

/-- `YieldProtocolClient::deposit`. -/
def deposit (protocol : Address) (amount : Int) : Exec H Unit := fun _ s =>
  match H.deposit s.world protocol amount with
  | some w => .ok ((), (s.putWorld w).push (.deposit protocol amount))
  | none => .error (.ofCallee (H.codes.deposit s.world protocol amount) .yieldProtocol)

/-- `YieldProtocolClient::withdraw`. -/
def withdraw (protocol : Address) (requested : Int) : Exec H (Int × Int) := fun _ s =>
  match H.withdraw s.world protocol requested with
  | some (w, principal, yieldAccrued) =>
      .ok ((principal, yieldAccrued),
        (s.putWorld w).push (.withdraw ⟨protocol, requested, principal, yieldAccrued⟩))
  | none => .error (.ofCallee (H.codes.withdraw s.world protocol requested) .yieldProtocol)

/-! ## When a primitive returns -/

variable {env : Env Address} {s s' : State H}

@[simp] theorem bind_ok {x : Exec H α} {f : α → Exec H β} {b : β} :
    (x >>= f) env s = .ok (b, s') ↔ ∃ a s₁, x env s = .ok (a, s₁) ∧ f a env s₁ = .ok (b, s') := by
  show (x env s >>= fun p => f p.1 env p.2) = .ok (b, s') ↔ _
  cases h : x env s with
  | error e => simp [bind, Except.bind]
  | ok p =>
      obtain ⟨a, s₁⟩ := p
      constructor
      · intro h_rest
        exact ⟨a, s₁, rfl, h_rest⟩
      · rintro ⟨_, _, h_eq, h_rest⟩
        cases h_eq
        exact h_rest

/-- A computation whose first part returned is its second part. -/
theorem bind_of_ok {x : Exec H α} {f : α → Exec H β} {a : α} (h : x env s = .ok (a, s')) :
    (x >>= f) env s = f a env s' := by
  show (x env s >>= fun p => f p.1 env p.2) = _
  rw [h]
  rfl

@[simp] theorem map_ok {x : Exec H α} {f : α → β} {b : β} :
    (f <$> x) env s = .ok (b, s') ↔ ∃ a, x env s = .ok (a, s') ∧ f a = b := by
  rw [← bind_pure_comp, bind_ok]
  constructor
  · rintro ⟨a, s₁, h, h_pure⟩
    cases h_pure
    exact ⟨a, h, rfl⟩
  · rintro ⟨a, h, rfl⟩
    exact ⟨a, s', h, rfl⟩

@[simp] theorem pure_ok {a b : α} : (pure a : Exec H α) env s = .ok (b, s') ↔ a = b ∧ s = s' := by
  show Except.ok (a, s) = .ok (b, s') ↔ _
  simp

@[simp] theorem errIf_ok {c : Prop} [Decidable c] {e : EscrowError} {u : Unit} :
    errIf (H := H) c e env s = .ok (u, s') ↔ ¬c ∧ s = s' := by
  unfold errIf
  split <;> simp_all

@[simp] theorem orTrap_ok {o : Option α} {t : Trap} {a : α} :
    orTrap (H := H) o t env s = .ok (a, s') ↔ o = some a ∧ s = s' := by
  cases o <;> simp [orTrap]

@[simp] theorem orErr_ok {o : Option α} {e : EscrowError} {a : α} :
    orErr (H := H) o e env s = .ok (a, s') ↔ o = some a ∧ s = s' := by
  cases o <;> simp [orErr]

@[simp] theorem requireAuth_ok {a : Address} {u : Unit} :
    requireAuth (H := H) a env s = .ok (u, s') ↔ env.auth a = true ∧ s = s' := by
  unfold requireAuth
  split <;> simp_all

@[simp] theorem timestamp_ok {t : UInt64} :
    timestamp (H := H) env s = .ok (t, s') ↔ env.timestamp = t ∧ s = s' := by
  simp [timestamp]

@[simp] theorem reads_ok {f : State H → α} {a : α} :
    reads f env s = .ok (a, s') ↔ f s = a ∧ s = s' := by
  simp [reads]

@[simp] theorem update_ok {f : State H → State H} {u : Unit} :
    update f env s = .ok (u, s') ↔ s' = f s := by
  simp [update, eq_comm]

@[simp] theorem emit_ok {e : Event Address} {u : Unit} :
    emit e env s = .ok (u, s') ↔ s' = s.push (.event e) := update_ok

@[simp] theorem transfer_ok {token src dst : Address} {x : Int} {u : Unit} :
    transfer (H := H) token src dst x env s = .ok (u, s') ↔
      ∃ w, H.transfer s.world token src dst x = some w ∧
        s' = (s.putWorld w).push (.transfer ⟨token, src, dst, x⟩) := by
  unfold transfer
  cases H.transfer s.world token src dst x <;> simp [eq_comm]

@[simp] theorem deposit_ok {protocol : Address} {x : Int} {u : Unit} :
    deposit (H := H) protocol x env s = .ok (u, s') ↔
      ∃ w, H.deposit s.world protocol x = some w ∧
        s' = (s.putWorld w).push (.deposit protocol x) := by
  unfold deposit
  cases H.deposit s.world protocol x <;> simp [eq_comm]

end Exec

end StarEscrow.Escrow
