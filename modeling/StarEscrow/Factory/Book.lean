/-
  StarEscrow.Factory.Book

  What the factory is for, and that it does just that.

  A book is a list of numbered records, a table of who owns what, and what was
  done outside so far.  It opens records, acts on them and looks them up; a
  party's numbers are those of its records.  The factory keeps a counter, a map
  and index lists instead and asks token contracts for the transfers, but from
  empty storage on nobody can tell it from a book (`factory_is_a_book`).
-/

import StarEscrow.Factory.Solvency
import StarEscrow.Lib.Mealy
import StarEscrow.Lib.Relational

namespace StarEscrow.Factory

open Invoke Relational

variable {Address : Type}

/-! ## The book -/

structure Book (Address : Type) where
  records : List (EscrowRecord Address)
  /-- What everybody owns of every token. -/
  balance : Address → Address → Int
  log : List (Effect Address)

/-- What an action publishes. -/
def Action.event? (id : UInt64) (r : EscrowRecord Address) : Action → Option (Event Address)
  | submitWork => none
  | approve => some (.paymentReleased id r.freelancer r.amount)
  | cancel => some (.escrowCancelled id r.payer r.amount)

instance [DecidableEq Address] (key : DataKey Address) : DecidablePred key.Lists := by
  cases key <;> exact fun _ => inferInstanceAs (Decidable (_ = _))

namespace Book

variable [DecidableEq Address]

/-- `src` pays if it can. -/
def transfer (token src dst : Address) (amount : Int) (b : Book Address) : Exec (Book Address) :=
  if amount ≤ b.balance token src then
    .ok { b with
      balance := movedBalance b.balance token src dst amount
      log := b.log ++ [.transfer ⟨token, src, dst, amount⟩] }
  else .error (.trap .token)

/-- The number of the next record.  The number after it has to exist. -/
def number (b : Book Address) : Exec UInt64 :=
  if b.records.length + 1 < 2 ^ 64 then .ok (.ofNat b.records.length)
  else .error (.trap .overflow)

/-- A new record, for what its payer pays to `factory`. -/
def create (factory : Address) (auth : Address → Bool) (a : CreateArgs Address)
    (b : Book Address) : Exec (UInt64 × Book Address) := do
  errIf (a.amount ≤ 0) .invalidAmount
  requireAuth auth a.payer
  let b ← b.transfer a.token a.payer factory a.amount
  let id ← b.number
  return (id, { b with
    records := b.records ++ [a.record id]
    log := b.log ++ [.event (.escrowCreated id a.payer a.freelancer a.amount)] })

/-- An action on a record. -/
def act (factory : Address) (auth : Address → Bool) (id : UInt64) (x : Action)
    (b : Book Address) : Exec (Book Address) := do
  let r ← x.check auth b.records[id.toNat]?
  let b ← match x.payee r with
    | none => pure b
    | some dst => b.transfer r.token factory dst r.amount
  return { b with
    records := b.records.set id.toNat (x.result r)
    log := b.log ++ (x.event? id r).toList.map .event }

/-- The numbers of a party's records. -/
def idsOf (key : DataKey Address) (b : Book Address) : List UInt64 :=
  (b.records.filter fun r => key.Lists r).map (·.id)

end Book

/-! ## Requests -/

/-- The entry points. -/
inductive Request (Address : Type)
  | createEscrow (a : CreateArgs Address)
  | act (id : UInt64) (x : Action)
  | getEscrow (id : UInt64)
  | listByPayer (payer : Address)
  | listByFreelancer (freelancer : Address)

/-- What they return. -/
inductive Answer (Address : Type)
  | created (result : Exec UInt64)
  | done (result : Exec Unit)
  | record (result : Exec (EscrowRecord Address))
  | ids (result : List UInt64)
  deriving DecidableEq

variable [DecidableEq Address] {H : Host Address}

/-- What happens: a call, or something else on the ledger that takes it to `w`. -/
inductive Input (H : Host Address)
  | call (auth : Address → Bool) (r : Request Address)
  | outside (w : H.World)

def serve (auth : Address → Bool) (s : State H) : Request Address → Answer Address × State H
  | .createEscrow a => (conclude (createEscrow auth a s) s).map .created id
  | .act i x => (conclude ((x.exec auth i s).map (Prod.mk ())) s).map .done id
  | .getEscrow i => (.record (getEscrow i s), s)
  | .listByPayer a => (.ids (listByPayer a s), s)
  | .listByFreelancer a => (.ids (listByFreelancer a s), s)

/-- The factory as a machine. -/
def factory (H : Host Address) : Mealy.Machine (Input H) (State H) (Option (Answer Address)) where
  perform
    | .call auth r, s => (serve auth s r).2
    | .outside w, s => s.putWorld w
  output
    | .call auth r, s => some (serve auth s r).1
    | .outside _, _ => none

def Book.serve (factory : Address) (auth : Address → Bool) (b : Book Address) :
    Request Address → Answer Address × Book Address
  | .createEscrow a => (conclude (b.create factory auth a) b).map .created id
  | .act i x => (conclude ((b.act factory auth i x).map (Prod.mk ())) b).map .done id
  | .getEscrow i => (.record (orErr b.records[i.toNat]? .notFound), b)
  | .listByPayer a => (.ids (b.idsOf (.payerIndex a)), b)
  | .listByFreelancer a => (.ids (b.idsOf (.freelancerIndex a)), b)

/-- The book as a machine, for the same ledger. -/
def book (H : Host Address) :
    Mealy.Machine (Input H) (Book Address) (Option (Answer Address)) where
  perform
    | .call auth r, b => (b.serve H.currentContract auth r).2
    | .outside w, b => { b with balance := H.balance w }
  output
    | .call auth r, b => some (b.serve H.currentContract auth r).1
    | .outside _, _ => none

/-! ## The factory keeps a book -/

/-- The book says what the factory stores and did, and who owns what. -/
structure Describes (b : Book Address) (s : State H) : Prop where
  records : Represents s b.records
  balance : H.balance s.world = b.balance
  log : s.log = b.log

/-- On a live token a transfer goes through exactly if the book can pay it. -/
theorem transfer_agrees (h_live : H.Live) {b : Book Address} {s : State H}
    (h_balance : H.balance s.world = b.balance) (h_log : s.log = b.log)
    (token src dst : Address) {amount : Int} (h_amount : 0 ≤ amount) :
    Agree (fun s' b' => (∃ w, s' = (s.putWorld w).push (.transfer ⟨token, src, dst, amount⟩)) ∧
        b'.records = b.records ∧ H.balance s'.world = b'.balance ∧ s'.log = b'.log)
      (transfer token src dst amount s) (b.transfer token src dst amount) := by
  unfold Book.transfer
  rw [← h_balance, ← h_log]
  split
  · rename_i h_covered
    obtain ⟨w, h_w⟩ := h_live s.world token src dst amount h_amount h_covered
    rw [transfer_ok.mpr ⟨w, h_w, rfl⟩]
    exact .ok ⟨⟨w, rfl⟩, rfl, H.balance_transfer h_w, rfl⟩
  · rename_i h_short
    have h_none : H.transfer s.world token src dst amount = none := by
      rw [Option.eq_none_iff_forall_ne_some]
      intro w h_w
      exact h_short (H.transfer_covered h_w).2
    rw [transfer, h_none]
    exact .error _

/-- The counter runs out when the numbers do. -/
theorem number_agrees {b : Book Address} {s : State H} (h_count : s.count.toNat = b.records.length) :
    Agree (fun p id => id = s.count ∧ p.1 = id ∧
        ∃ next : UInt64, next.toNat = id.toNat + 1 ∧ p.2 = s.putNextId next)
      (nextId s) b.number := by
  unfold Book.number
  rw [← h_count]
  have h_id : UInt64.ofNat s.count.toNat = s.count := UInt64.ofNat_toNat
  split
  · rename_i h_lt
    have h_next : (s.count + 1).toNat = s.count.toNat + 1 := by
      rw [UInt64.toNat_add, UInt64.toNat_one, Nat.mod_eq_of_lt h_lt]
    rw [nextId_ok.mpr ⟨rfl, s.count + 1, h_next, rfl⟩, h_id]
    exact .ok ⟨rfl, rfl, _, h_next, rfl⟩
  · rename_i h_full
    have h_none : Checked.addU64 s.count 1 = none := if_neg h_full
    rw [State.count] at h_none
    rw [nextId, h_none]
    exact .error _

namespace Describes

variable {b : Book Address} {s : State H}

theorem create (h_live : H.Live) (h : Describes b s) (auth : Address → Bool)
    (a : CreateArgs Address) :
    Agree (fun p q => p.1 = q.1 ∧ Describes q.2 p.2) (createEscrow auth a s)
      (b.create H.currentContract auth a) := by
  refine (Agree.self _).bind ?_
  rintro _ _ ⟨-, h_check⟩
  have h_pos : 0 < a.amount := Int.not_le.mp (errIf_ok.mp h_check)
  refine (Agree.self _).bind fun _ _ _ => ?_
  refine (transfer_agrees h_live h.balance h.log a.token a.payer H.currentContract h_pos.le).bind ?_
  rintro _ b₁ ⟨⟨w, rfl⟩, h_records, h_balance, h_log⟩
  have h_count : (State.count (H := H) ((s.putWorld w).push
      (.transfer ⟨a.token, a.payer, H.currentContract, a.amount⟩))).toNat = b₁.records.length := by
    rw [h_records]
    exact h.records.count
  refine (number_agrees h_count).bind ?_
  rintro ⟨_, _⟩ _ ⟨rfl, rfl, next, h_next, rfl⟩
  refine .ok ⟨rfl, ?_, h_balance, ?_⟩
  · show Represents _ (b₁.records ++ [a.record s.count])
    rw [h_records]
    exact h.records.create h_pos h_next
  · exact congrArg (· ++ _) h_log

/-- The record an action stores is filed in place of the old one. -/
theorem settled (h : Describes b s) {id : UInt64} {x : Action} {r : EscrowRecord Address}
    (h_get : b.records[id.toNat]? = some r) {s' : State H} {b' : Book Address}
    (h_storage : s'.storage = (saveEscrow (x.result r) s).storage)
    (h_records : b'.records = b.records.set id.toNat (x.result r))
    (h_balance : H.balance s'.world = b'.balance) (h_log : s'.log = b'.log) : Describes b' s' where
  records := by
    rw [h_records]
    exact h.records.act h_get h_storage
  balance := h_balance
  log := h_log

theorem act (h_live : H.Live) (h : Describes b s) (auth : Address → Bool) (id : UInt64)
    (x : Action) :
    Agree (fun s' b' => Describes b' s') (x.exec auth id s) (b.act H.currentContract auth id x) := by
  rw [Action.exec_eq, h.records.escrow]
  refine (Agree.self _).bind ?_
  rintro r _ ⟨rfl, h_check⟩
  obtain ⟨h_get, -, -⟩ := Action.check_ok.mp h_check
  have h_amount := (h.records.positive r (List.mem_of_getElem? h_get)).le
  cases x with
  | submitWork =>
      refine .ok (h.settled h_get rfl rfl h.balance ?_)
      rw [Action.event?, Option.toList_none, List.map_nil, List.append_nil]
      exact h.log
  | approve | cancel =>
      refine (transfer_agrees h_live h.balance h.log r.token H.currentContract _ h_amount).bind ?_
      rintro _ b₁ ⟨⟨w, rfl⟩, h_records, h_balance, h_log⟩
      refine .ok (h.settled h_get rfl ?_ h_balance (congrArg (· ++ _) h_log))
      rw [h_records]

/-- An index list holds the numbers of the party's records. -/
theorem idsOf (h : Describes b s) (key : DataKey Address) : getIndex key s = b.idsOf key := by
  have h_numbers : Register.Indexes b.records key.Lists ((b.idsOf key).map UInt64.toNat) := by
    rw [Book.idsOf, List.map_map]
    exact Register.Indexes.of_numbers h.records.ids
  refine List.map_injective_iff.mpr (fun _ _ => UInt64.toNat_inj.mp) ?_
  rw [(h.records.index key).eq_filter, h_numbers.eq_filter]

theorem serve (h_live : H.Live) (h : Describes b s) (auth : Address → Bool) (r : Request Address) :
    (Factory.serve auth s r).1 = (b.serve H.currentContract auth r).1 ∧
      Describes (b.serve H.currentContract auth r).2 (Factory.serve auth s r).2 := by
  cases r with
  | createEscrow a =>
      obtain ⟨h_answer, h_next⟩ := (h.create h_live auth a).conclude (R := fun s b => Describes b s) h
      exact ⟨congrArg Answer.created h_answer, h_next⟩
  | act id x =>
      have h_act := (h.act h_live auth id x).map (Q := fun p q => p.1 = q.1 ∧ Describes q.2 p.2)
        (f := Prod.mk ()) (g := Prod.mk ()) fun _ _ h_next => ⟨rfl, h_next⟩
      obtain ⟨h_answer, h_next⟩ := h_act.conclude (R := fun s b => Describes b s) h
      exact ⟨congrArg Answer.done h_answer, h_next⟩
  | getEscrow id =>
      refine ⟨congrArg Answer.record ?_, h⟩
      rw [getEscrow, loadEscrow, h.records.escrow]
  | listByPayer a => exact ⟨congrArg Answer.ids (h.idsOf (.payerIndex a)), h⟩
  | listByFreelancer a => exact ⟨congrArg Answer.ids (h.idsOf (.freelancerIndex a)), h⟩

/-- One input: the same answer, and the book still describes the factory. -/
theorem step (h_live : H.Live) (x : Input H) (s : State H) (b : Book Address)
    (h : Describes b s) :
    (factory H).output x s = (book H).output x b ∧
      Describes ((book H).perform x b) ((factory H).perform x s) := by
  cases x with
  | call auth r =>
      obtain ⟨h_answer, h_next⟩ := h.serve h_live auth r
      exact ⟨congrArg some h_answer, h_next⟩
  | outside w => exact ⟨rfl, h.records.congr rfl, rfl, h.log⟩

end Describes

/-- Nothing is written in the book yet. -/
def Book.blank (balance : Address → Address → Int) : Book Address := ⟨[], balance, []⟩

/-- **The factory is a book.**  On live tokens, whatever calls and queries come, from whomever and
    in whatever order, and whatever else happens on the ledger in between, the factory gives from
    empty storage on the answers that the blank book gives; and in the end its records, everybody's
    balances and the transfers and events are those of the book. -/
theorem factory_is_a_book (h_live : H.Live) {s₀ : State H} (h_init : s₀.Initial)
    (xs : List (Input H)) :
    let b₀ := Book.blank (H.balance s₀.world)
    (factory H).outputs s₀ xs = (book H).outputs b₀ xs ∧
    ((factory H).final s₀ xs).records = ((book H).final b₀ xs).records ∧
    H.balance ((factory H).final s₀ xs).world = ((book H).final b₀ xs).balance ∧
    ((factory H).final s₀ xs).log = ((book H).final b₀ xs).log := by
  intro b₀
  have h_start : Describes b₀ s₀ := ⟨h_init.represents, rfl, h_init.log⟩
  have h_step (x : Input H) (s : State H) (b : Book Address) (h : Describes b s) :=
    Describes.step h_live x s b h
  have h_end : Describes ((book H).final b₀ xs) ((factory H).final s₀ xs) :=
    Mealy.final_related (R := fun s b => Describes b s) h_step h_start xs
  exact ⟨Mealy.outputs_eq (R := fun s b => Describes b s) h_step h_start xs,
    h_end.records.records_eq, h_end.balance, h_end.log⟩

/-- Two escrows, one of them paid twice in vain, and what the queries say in the end. -/
def Sample.inputs : List (Input Sample.host) :=
  [.call (· = 1) (.createEscrow ⟨1, 3, 9, 60, ""⟩), .call (· = 2) (.createEscrow ⟨2, 3, 9, 50, ""⟩),
    .call (· = 1) (.createEscrow ⟨1, 3, 9, 60, ""⟩), .call (· = 3) (.act 0 .submitWork),
    .call (· = 1) (.act 0 .approve), .call (· = 1) (.act 0 .approve), .outside fun _ _ => 10,
    .call (· = 2) (.act 1 .cancel), .call (· = 4) (.listByFreelancer 3),
    .call (· = 4) (.getEscrow 2)]

theorem factory_is_a_book_inputs :
    let b₀ := Book.blank (Sample.host.balance Sample.start.world)
    (factory Sample.host).outputs Sample.start Sample.inputs =
      (book Sample.host).outputs b₀ Sample.inputs ∧
    ((factory Sample.host).final Sample.start Sample.inputs).records =
      ((book Sample.host).final b₀ Sample.inputs).records ∧
    Sample.host.balance ((factory Sample.host).final Sample.start Sample.inputs).world =
      ((book Sample.host).final b₀ Sample.inputs).balance ∧
    ((factory Sample.host).final Sample.start Sample.inputs).log =
      ((book Sample.host).final b₀ Sample.inputs).log :=
  factory_is_a_book Sep41.ledger_live Sample.start_initial Sample.inputs

example : (book Sample.host).outputs (Book.blank Sample.start.world) Sample.inputs =
    [some (.created (.ok 0)), some (.created (.ok 1)), some (.created (.error (.trap .token))),
      some (.done (.ok ())), some (.done (.ok ())), some (.done (.error (.error .workNotSubmitted))),
      none, some (.done (.error (.trap .token))), some (.ids [0, 1]),
      some (.record (.error (.error .notFound)))] := by decide

end StarEscrow.Factory
