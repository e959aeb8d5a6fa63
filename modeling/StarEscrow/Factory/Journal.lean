/-
  StarEscrow.Factory.Journal

  The factory's events as a journal of its escrows.

  A reader of the events keeps one line for every escrow: the parties, the
  amount, and where the money is.  It refuses a number out of sequence, a
  payment or refund of an escrow that is settled, and a wrong party or amount.
  Submissions are not published, so an escrow that waits for approval looks
  like an active one; everything else the two agree on, the index lists
  included.
-/

import StarEscrow.Lib.Journal
import StarEscrow.Factory.Solvency

namespace StarEscrow.Factory

open Journal

/-! ## What the events tell -/

/-- Where the amount of an escrow is. -/
inductive Standing
  | held
  | released
  | refunded
  deriving DecidableEq, Repr

def EscrowStatus.standing : EscrowStatus → Standing
  | .active | .workSubmitted => .held
  | .completed => .released
  | .cancelled => .refunded

/-- What the reader writes down for an escrow. -/
structure Line (Address : Type) where
  payer : Address
  freelancer : Address
  amount : Int
  standing : Standing
  deriving DecidableEq, Repr

variable {Address : Type}

def EscrowRecord.line (r : EscrowRecord Address) : Line Address where
  payer := r.payer
  freelancer := r.freelancer
  amount := r.amount
  standing := r.status.standing

def Effect.event? : Effect Address → Option (Event Address)
  | .event e => some e
  | .transfer _ => none

variable [DecidableEq Address]

/-- A settlement of the escrow with the number `id`, which has to be open, by `p`'s line. -/
def settleLine (lines : List (Line Address)) (id : UInt64) (st : Standing)
    (p : Line Address → Bool) : Option (List (Line Address)) :=
  lines[id.toNat]?.bind fun l =>
    if l.standing = .held ∧ p l then some (lines.set id.toNat { l with standing := st }) else none

/-- What the reader makes of an event; `none` when it contradicts the lines. -/
def readEvent (lines : List (Line Address)) : Event Address → Option (List (Line Address))
  | .escrowCreated id p f x =>
      if id.toNat = lines.length ∧ 0 < x then some (lines ++ [⟨p, f, x, .held⟩]) else none
  | .paymentReleased id f x => settleLine lines id .released fun l => l.freelancer = f ∧ l.amount = x
  | .escrowCancelled id p x => settleLine lines id .refunded fun l => l.payer = p ∧ l.amount = x

/-- The numbers of the lines with a property, in order. -/
def numbers (lines : List (Line Address)) (p : Line Address → Bool) : List Nat :=
  (List.range lines.length).filter fun i => lines[i]?.any p

variable {H : Host Address}

/-- The events the factory has published so far. -/
def State.events (s : State H) : List (Event Address) := s.log.filterMap Effect.event?

/-- The lines are right about the state. -/
def Tells (s : State H) (lines : List (Line Address)) : Prop :=
  ∃ rs, Represents s rs ∧ lines = rs.map EscrowRecord.line

/-! ## The events of a call -/

theorem events_created (s : State H) (a : CreateArgs Address) (id next : UInt64) (w : H.World) :
    (s.created a id next w).events =
      s.events ++ [.escrowCreated id a.payer a.freelancer a.amount] := by
  simp [State.created, State.events, State.push, saveEscrow, State.putEscrow, State.putNextId,
    State.putWorld, appendToIndex, State.putIndex, List.filterMap_cons, Effect.event?]

/-- The event of an action on the record `r`; a submission has none. -/
def Action.events (id : UInt64) (r : EscrowRecord Address) : Action → List (Event Address)
  | submitWork => []
  | approve => [.paymentReleased id r.freelancer r.amount]
  | cancel => [.escrowCancelled id r.payer r.amount]

theorem Action.settle_events {id : UInt64} {r : EscrowRecord Address} {x : Action} {s s' : State H}
    (h : x.settle id r s = .ok s') : s'.events = s.events ++ x.events id r := by
  cases x with
  | submitWork =>
      obtain rfl := Invoke.pure_ok.mp h
      exact (List.append_nil _).symm
  | approve | cancel =>
      simp only [Action.settle, Invoke.bind_ok, transfer_ok, Invoke.pure_ok] at h
      obtain ⟨_, ⟨w, h_w, rfl⟩, rfl⟩ := h
      simp [State.events, State.push, saveEscrow, State.putEscrow, State.putWorld,
        List.filterMap_cons, Effect.event?, Action.events]

/-! ## The reader -/

/-- The reader follows an action on a record with the status it asks for. -/
theorem read_action {lines : List (Line Address)} {id : UInt64} {r : EscrowRecord Address}
    {x : Action} (h_get : lines[id.toNat]? = some r.line) (h_status : r.status = x.source) :
    replay readEvent lines (x.events id r) =
      some (lines.set id.toNat (x.result r).line) := by
  cases x with
  | submitWork =>
      -- nothing is published, and the line stays as it is
      have h_line : (Action.submitWork.result r).line = r.line := by
        rw [EscrowRecord.line, EscrowRecord.line, h_status]
        rfl
      obtain ⟨h_lt, h_eq⟩ := List.getElem?_eq_some_iff.mp h_get
      rw [h_line, ← h_eq, List.set_getElem_self]
      rfl
  | approve =>
      have h_held : r.line.standing = .held := by rw [EscrowRecord.line, h_status]; rfl
      rw [Action.events, replay_one, readEvent, settleLine, h_get, Option.bind_some]
      exact if_pos ⟨h_held, by simp [EscrowRecord.line]⟩
  | cancel =>
      have h_held : r.line.standing = .held := by rw [EscrowRecord.line, h_status]; rfl
      rw [Action.events, replay_one, readEvent, settleLine, h_get, Option.bind_some]
      exact if_pos ⟨h_held, by simp [EscrowRecord.line]⟩

/-- The reader of the events keeps up with the factory. -/
theorem tracks_events (H : Host Address) : Tracks Step (State.events (H := H)) readEvent Tells where
  step := by
    intro s s' l lines h_step ⟨rs, h_rep, h_lines⟩
    subst h_lines
    cases h_step with
    | aborted => exact ⟨[], _, (List.append_nil _).symm, rfl, rs, h_rep, rfl⟩
    | outside => exact ⟨[], _, (List.append_nil _).symm, rfl, rs, h_rep.congr rfl, rfl⟩
    | @returned _ c h_run =>
        obtain ⟨auth, op⟩ := c
        cases op with
        | createEscrow a =>
            obtain ⟨⟨id, s₁⟩, h_create, rfl⟩ := Invoke.map_ok.mp h_run
            obtain ⟨h_pos, -, w, -, rfl, next, h_next, rfl⟩ := createEscrow_ok.mp h_create
            refine ⟨_, _, events_created s a _ next w, ?_, _, h_rep.create h_pos h_next, rfl⟩
            have h_id : s.count.toNat = (rs.map EscrowRecord.line).length := by
              rw [List.length_map, h_rep.count]
            rw [replay_one, List.map_append]
            exact if_pos ⟨h_id, h_pos⟩
        | act id x =>
            have h_exec : x.exec auth id s = .ok s' := h_run
            rw [Action.exec_eq, Invoke.bind_ok] at h_exec
            obtain ⟨r, h_check, h_settle⟩ := h_exec
            obtain ⟨h_r, h_status, -⟩ := Action.check_ok.mp h_check
            have h_get : rs[id.toNat]? = some r := by rw [← h_rep.escrow, h_r]
            refine ⟨_, _, Action.settle_events h_settle, read_action ?_ h_status,
              _, h_rep.act h_get (Action.settle_ok h_settle).1, List.map_set.symm⟩
            rw [List.getElem?_map, h_get, Option.map_some]

theorem Tells.numbers {s : State H} {lines : List (Line Address)} (h : Tells s lines)
    (key : DataKey Address) {p : Line Address → Bool}
    (h_p : ∀ r : EscrowRecord Address, p r.line = true ↔ key.Lists r) :
    (getIndex key s).map UInt64.toNat = Factory.numbers lines p := by
  obtain ⟨rs, h_rep, rfl⟩ := h
  have h_dec : DecidablePred key.Lists := fun r => decidable_of_iff _ (h_p r)
  rw [(h_rep.index key).eq_filter, Factory.numbers, List.length_map]
  refine List.filter_congr fun i _ => ?_
  rw [List.getElem?_map, Option.any_map]
  congr 1
  funext r
  rw [Bool.eq_iff_iff, decide_eq_true_iff, h_p]

/-- **The factory's events tell its escrows.**  In a run from empty storage no event contradicts
    those before it, and together they tell every escrow's parties and amount, whether it was
    paid, refunded or neither, and both index lists. -/
theorem factory_events_replay {s₀ s : State H} {tr : List (Entry H)} (h_init : s₀.Initial)
    (h_run : Run s₀ tr s) :
    ∃ lines, replay readEvent [] s.events = some lines ∧
      (∀ id, (s.storage.escrow id).map EscrowRecord.line = lines[id.toNat]?) ∧
      (∀ a, (listByPayer a s).map UInt64.toNat = numbers lines (·.payer = a)) ∧
      ∀ a, (listByFreelancer a s).map UInt64.toNat = numbers lines (·.freelancer = a) := by
  have h_empty : s₀.events = [] := by rw [State.events, h_init.log]; rfl
  obtain ⟨lines, h_replay, h_tells⟩ :=
    (tracks_events H).run h_run h_empty ⟨[], h_init.represents, rfl⟩
  refine ⟨lines, h_replay, ?_, fun a => h_tells.numbers (.payerIndex a) ?_,
    fun a => h_tells.numbers (.freelancerIndex a) ?_⟩
  · obtain ⟨rs, h_rep, rfl⟩ := h_tells
    intro id
    rw [List.getElem?_map, h_rep.escrow]
  · intro r
    exact decide_eq_true_iff
  · intro r
    exact decide_eq_true_iff

theorem factory_events_replay_mixed :
    let s := play Sample.mixed Sample.start
    ∃ lines, replay readEvent [] s.events = some lines ∧
      (∀ id, (s.storage.escrow id).map EscrowRecord.line = lines[id.toNat]?) ∧
      (∀ a, (listByPayer a s).map UInt64.toNat = numbers lines (·.payer = a)) ∧
      ∀ a, (listByFreelancer a s).map UInt64.toNat = numbers lines (·.freelancer = a) :=
  factory_events_replay Sample.start_initial (run_play Sample.mixed Sample.start)

end StarEscrow.Factory
