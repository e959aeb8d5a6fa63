/-
  StarEscrow.Factory.Registry

  The factory's storage as a register of records.

  `create_escrow` writes the counter, the map and two index lists one after
  the other, and the other operations rewrite single records.  Together the
  four are one list, the register: the counter is its length, the map its
  entries, and each index list the positions of one party's entries
  (`Represents`).  A step adds an entry, replaces one, or leaves the register
  alone (`Move`), and keeps the representation (`Step.move`).
-/

import StarEscrow.Lib.Register
import StarEscrow.Factory.Run

namespace StarEscrow.Factory

/-- The records an index list is about. -/
def DataKey.Lists {Address : Type} (key : DataKey Address) (r : EscrowRecord Address) : Prop :=
  match key with
  | .payerIndex a => r.payer = a
  | .freelancerIndex a => r.freelancer = a

variable {Address : Type} [DecidableEq Address] {H : Host Address}

/-- The number the next escrow gets. -/
def State.count (s : State H) : UInt64 := s.storage.nextId.getD 0

/-- The storage of `s` is the register `rs`. -/
structure Represents (s : State H) (rs : List (EscrowRecord Address)) : Prop where
  count : s.count.toNat = rs.length
  escrow : ∀ id, s.storage.escrow id = rs[id.toNat]?
  ids : ∀ (i : Nat) (r : EscrowRecord Address), rs[i]? = some r → r.id.toNat = i
  positive : ∀ r ∈ rs, 0 < r.amount
  index : ∀ key : DataKey Address,
    Register.Indexes rs key.Lists ((getIndex key s).map UInt64.toNat)

theorem State.Initial.represents {s : State H} (h : s.Initial) : Represents s [] where
  count := by
    rw [State.count, h.nextId]
    rfl
  escrow := by simp [h.escrow]
  ids := by simp
  positive := by simp
  index := by
    intro key
    have h_none : getIndex key s = [] := by rw [getIndex, h.index, Option.getD_none]
    rw [h_none, List.map_nil]
    exact .nil

/-- Only the storage is represented. -/
theorem Represents.congr {s s' : State H} {rs : List (EscrowRecord Address)} (h : Represents s rs)
    (h_storage : s'.storage = s.storage) : Represents s' rs where
  count := by rw [State.count, h_storage, ← h.count, State.count]
  escrow := by rw [h_storage]; exact h.escrow
  ids := h.ids
  positive := h.positive
  index := by
    intro key
    rw [getIndex, h_storage]
    exact h.index key

/-- The index lists after `create_escrow`: the new number goes to the payer's and to the
    freelancer's. -/
theorem getIndex_created (s : State H) (a : CreateArgs Address) (id next : UInt64) (w : H.World)
    (key : DataKey Address) :
    (key.Lists (a.record id) → getIndex key (s.created a id next w) = getIndex key s ++ [id]) ∧
      (¬key.Lists (a.record id) → getIndex key (s.created a id next w) = getIndex key s) := by
  cases key with
  | payerIndex b =>
      constructor
      · intro h_b
        obtain rfl : a.payer = b := h_b
        simp [State.created, getIndex, appendToIndex, State.putIndex, State.push, saveEscrow,
          State.putEscrow, State.putNextId, State.putWorld]
      · intro h_b
        have h_b : b ≠ a.payer := fun h => h_b h.symm
        simp [State.created, getIndex, appendToIndex, State.putIndex, State.push, saveEscrow,
          State.putEscrow, State.putNextId, State.putWorld, h_b]
  | freelancerIndex b =>
      constructor
      · intro h_b
        obtain rfl : a.freelancer = b := h_b
        simp [State.created, getIndex, appendToIndex, State.putIndex, State.push, saveEscrow,
          State.putEscrow, State.putNextId, State.putWorld]
      · intro h_b
        have h_b : b ≠ a.freelancer := fun h => h_b h.symm
        simp [State.created, getIndex, appendToIndex, State.putIndex, State.push, saveEscrow,
          State.putEscrow, State.putNextId, State.putWorld, h_b]

/-- `create_escrow` adds one entry at the end of the register. -/
theorem Represents.create {s : State H} {rs : List (EscrowRecord Address)} (h : Represents s rs)
    {a : CreateArgs Address} {next : UInt64} {w : H.World} (h_pos : 0 < a.amount)
    (h_next : next.toNat = s.count.toNat + 1) :
    Represents (s.created a s.count next w) (rs ++ [a.record s.count]) where
  count := by
    rw [List.length_append, List.length_singleton, ← h.count]
    exact h_next
  escrow := by
    intro id
    have h_id : id = s.count ↔ id.toNat = rs.length := by rw [← h.count, UInt64.toNat_inj]
    rw [Register.getElem?_snoc, ← h.escrow]
    show (if id = s.count then some (a.record s.count) else s.storage.escrow id) = _
    simp only [h_id]
  ids := by
    intro i r h_get
    rw [Register.getElem?_snoc] at h_get
    split at h_get
    · cases h_get
      rw [‹i = rs.length›, ← h.count]
      rfl
    · exact h.ids i r h_get
  positive := by
    rw [List.forall_mem_append, List.forall_mem_singleton]
    exact ⟨h.positive, h_pos⟩
  index := by
    intro key
    obtain ⟨h_in, h_out⟩ := getIndex_created s a s.count next w key
    by_cases h_lists : key.Lists (a.record s.count)
    · rw [h_in h_lists, List.map_append, List.map_singleton, h.count]
      exact (h.index key).snoc h_lists
    · rw [h_out h_lists]
      exact (h.index key).snoc_of_not h_lists

/-- An action replaces one entry of the register. -/
theorem Represents.act {s s' : State H} {rs : List (EscrowRecord Address)} (h : Represents s rs)
    {id : UInt64} {x : Action} {r : EscrowRecord Address} (h_get : rs[id.toNat]? = some r)
    (h_storage : s'.storage = (saveEscrow (x.result r) s).storage) :
    Represents s' (rs.set id.toNat (x.result r)) := by
  have h_saved : Represents (saveEscrow (x.result r) s) (rs.set id.toNat (x.result r)) := by
    -- the record is stored back under its own number
    have h_id : r.id = id := UInt64.toNat_inj.mp (h.ids _ r h_get)
    refine ⟨?_, ?_, ?_, ?_, ?_⟩
    · rw [List.length_set]
      exact h.count
    · intro j
      have h_j : j = r.id ↔ j.toNat = id.toNat := by rw [h_id, UInt64.toNat_inj]
      rw [Register.getElem?_replace h_get, ← h.escrow]
      show (if j = r.id then some (x.result r) else s.storage.escrow j) = _
      simp only [h_j]
    · intro i r' h_get'
      rw [Register.getElem?_replace h_get] at h_get'
      split at h_get'
      · cases h_get'
        rw [‹i = id.toNat›]
        exact h.ids _ r h_get
      · exact h.ids i r' h_get'
    · exact Register.forall_replace h.positive (h.positive r (List.mem_of_getElem? h_get))
    · intro key
      have h_same : key.Lists (x.result r) ↔ key.Lists r := by cases key <;> exact Iff.rfl
      exact (h.index key).replace h_get h_same
  exact h_saved.congr h_storage

/-! ## Steps of the register -/

/-- What a step does to the register. -/
inductive Move (s : State H) (l : Label Address) (s' : State H) (rs : List (EscrowRecord Address)) :
    List (EscrowRecord Address) → Prop
  | quiet (h_label : ∀ c, l ≠ .returned c) (h_transfers : s'.transfers = s.transfers)
      (h_keeps : ∀ token, s.funds token ≤ s'.funds token)
      (h_world : l ≠ .outside → s'.world = s.world) : Move s l s' rs rs
  | create {c : Call Address} {a : CreateArgs Address} (h_label : l = .returned c)
      (h_op : c.op = .createEscrow a) (h_auth : c.auth a.payer = true) (h_pos : 0 < a.amount)
      (h_lock : H.transfer s.world a.token a.payer H.currentContract a.amount = some s'.world) :
      Move s l s' rs (rs ++ [a.record s.count])
  | act {c : Call Address} {id : UInt64} {x : Action} {r : EscrowRecord Address}
      (h_label : l = .returned c) (h_op : c.op = .act id x) (h_get : rs[id.toNat]? = some r)
      (h_status : r.status = x.source) (h_auth : c.auth (x.caller r) = true)
      (h_pays : Pays s s' r.token r.amount (x.payee r)) :
      Move s l s' rs (rs.set id.toNat (x.result r))

/-- Every step from a represented state is one of the three. -/
theorem Step.move {s s' : State H} {l : Label Address} {rs : List (EscrowRecord Address)}
    (h : Step s l s') (h_rep : Represents s rs) :
    ∃ rs', Represents s' rs' ∧ Move s l s' rs rs' := by
  cases h with
  | aborted =>
      exact ⟨rs, h_rep, .quiet (by simp) rfl (fun _ => le_refl _) fun _ => rfl⟩
  | outside h_keeps =>
      exact ⟨rs, h_rep.congr rfl, .quiet (by simp) rfl h_keeps (by simp)⟩
  | @returned _ c h_run =>
      obtain ⟨auth, op⟩ := c
      cases op with
      | createEscrow a =>
          obtain ⟨⟨id, s₁⟩, h_create, rfl⟩ := Invoke.map_ok.mp h_run
          obtain ⟨h_pos, h_auth, w, h_w, rfl, next, h_next, rfl⟩ := createEscrow_ok.mp h_create
          exact ⟨_, h_rep.create h_pos h_next, .create rfl rfl h_auth h_pos h_w⟩
      | act id x =>
          obtain ⟨r, h_check, h_storage, h_pays⟩ := Action.exec_ok h_run
          obtain ⟨h_r, h_status, h_auth⟩ := Action.check_ok.mp h_check
          have h_get : rs[id.toNat]? = some r := by rw [← h_rep.escrow, h_r]
          exact ⟨_, h_rep.act h_get h_storage, .act rfl rfl h_get h_status h_auth h_pays⟩

/-- A property of the state and its register that every admitted step keeps, a run keeps. -/
theorem Run.register {O : Entry H → Prop} {I : State H → List (EscrowRecord Address) → Prop}
    {s s' : State H} {tr : List (Entry H)} {rs : List (EscrowRecord Address)} (h : Run s tr s')
    (h_ok : ∀ e ∈ tr, O e) (h_rep : Represents s rs) (h_init : I s rs)
    (h_step : ∀ {e : Entry H} {rs rs' : List (EscrowRecord Address)}, O e → Represents e.pre rs →
      Move e.pre e.label e.post rs rs' → I e.pre rs → I e.post rs') :
    ∃ rs', Represents s' rs' ∧ I s' rs' := by
  refine h.invariant (I := fun s => ∃ rs, Represents s rs ∧ I s rs) h_ok ?_ ⟨rs, h_rep, h_init⟩
  intro e h_e h_s ⟨rs₁, h_rep₁, h_inv⟩
  obtain ⟨rs₂, h_rep₂, h_move⟩ := h_s.move h_rep₁
  exact ⟨rs₂, h_rep₂, h_step h_e h_rep₁ h_move h_inv⟩

/-- Every state of a run from empty storage is a register. -/
theorem Run.represents {s₀ s : State H} {tr : List (Entry H)} (h_run : Run s₀ tr s)
    (h_init : s₀.Initial) : ∃ rs, Represents s rs := by
  obtain ⟨rs, h_rep, -⟩ := h_run.register (O := fun _ => True) (I := fun _ _ => True)
    (fun _ _ => trivial) h_init.represents trivial fun _ _ _ _ => trivial
  exact ⟨rs, h_rep⟩

/-! ## Ids and index lists -/

theorem Represents.stored_iff {s : State H} {rs : List (EscrowRecord Address)}
    (h : Represents s rs) (id : UInt64) :
    (∃ r, s.storage.escrow id = some r) ↔ id < s.count := by
  rw [h.escrow, UInt64.lt_iff_toNat_lt, h.count]
  constructor
  · rintro ⟨r, h_r⟩
    exact (List.getElem?_eq_some_iff.mp h_r).1
  · intro h_lt
    exact ⟨_, List.getElem?_eq_getElem h_lt⟩

/-- An index list holds the ids of its party, each once, in increasing order. -/
theorem Represents.index_exact {s : State H} {rs : List (EscrowRecord Address)}
    (h : Represents s rs) (key : DataKey Address) :
    (getIndex key s).Pairwise (· < ·) ∧ ∀ id, id ∈ getIndex key s ↔
      id < s.count ∧ ∃ r, s.storage.escrow id = some r ∧ key.Lists r := by
  have h_index := h.index key
  constructor
  · refine (List.pairwise_map.mp h_index.sorted).imp fun h_lt => ?_
    exact UInt64.lt_iff_toNat_lt.mpr h_lt
  · intro id
    have h_mem : id ∈ getIndex key s ↔ id.toNat ∈ (getIndex key s).map UInt64.toNat :=
      (List.mem_map_of_injective fun _ _ => UInt64.toNat_inj.mp).symm
    rw [h_mem, h_index.mem_iff, ← h.escrow]
    constructor
    · rintro ⟨r, h_r, h_lists⟩
      exact ⟨(h.stored_iff id).mp ⟨r, h_r⟩, r, h_r, h_lists⟩
    · rintro ⟨-, h_r⟩
      exact h_r

/-- **Ids and indices are exact** in every state that runs from empty storage reach. -/
theorem ids_and_indices_exact {s₀ s : State H} {tr : List (Entry H)} (h_init : s₀.Initial)
    (h_run : Run s₀ tr s) :
    (∀ id, (∃ r, s.storage.escrow id = some r) ↔ id < s.count) ∧
    (∀ id r, s.storage.escrow id = some r → r.id = id) ∧
    (∀ a, (listByPayer a s).Pairwise (· < ·) ∧ ∀ id, id ∈ listByPayer a s ↔
      id < s.count ∧ ∃ r, s.storage.escrow id = some r ∧ r.payer = a) ∧
    ∀ a, (listByFreelancer a s).Pairwise (· < ·) ∧ ∀ id, id ∈ listByFreelancer a s ↔
      id < s.count ∧ ∃ r, s.storage.escrow id = some r ∧ r.freelancer = a := by
  obtain ⟨rs, h_rep⟩ := h_run.represents h_init
  refine ⟨h_rep.stored_iff, ?_, fun a => h_rep.index_exact (.payerIndex a),
    fun a => h_rep.index_exact (.freelancerIndex a)⟩
  intro id r h_r
  rw [h_rep.escrow] at h_r
  exact UInt64.toNat_inj.mp (h_rep.ids _ r h_r)

/-! ## A concrete factory

The factory at address 0, two payers at 1 and 2, a freelancer at 3 and one token at 9.  Everybody
authorises every call. -/

namespace Sample

def host : Host Nat := { Sep41.ledger Nat with currentContract := 0 }

/-- Empty storage; both payers own 100. -/
def start : State host where
  storage := ⟨none, fun _ => none, fun _ => none⟩
  world := fun _ holder => if holder = 1 ∨ holder = 2 then 100 else 0
  log := []

theorem start_initial : start.Initial := ⟨rfl, fun _ => rfl, fun _ => rfl, rfl⟩

theorem start_funds (token : Nat) : start.funds token = 0 := rfl

def call (op : Op Nat) : Call Nat := ⟨fun _ => true, op⟩

def create (payer freelancer : Nat) (amount : Int) : Call Nat :=
  call (.createEscrow ⟨payer, freelancer, 9, amount, ""⟩)

/-- Three escrows; the first is paid, the second cancelled, the third submitted. -/
def mixed : List (Call Nat) :=
  [create 1 3 60, create 2 3 50, create 1 1 40, call (.act 0 .submitWork), call (.act 1 .cancel),
    call (.act 0 .approve), call (.act 2 .submitWork)]

end Sample

theorem ids_and_indices_exact_mixed :
    let s := play Sample.mixed Sample.start
    (∀ id, (∃ r, s.storage.escrow id = some r) ↔ id < s.count) ∧
    (∀ id r, s.storage.escrow id = some r → r.id = id) ∧
    (∀ a, (listByPayer a s).Pairwise (· < ·) ∧ ∀ id, id ∈ listByPayer a s ↔
      id < s.count ∧ ∃ r, s.storage.escrow id = some r ∧ r.payer = a) ∧
    ∀ a, (listByFreelancer a s).Pairwise (· < ·) ∧ ∀ id, id ∈ listByFreelancer a s ↔
      id < s.count ∧ ∃ r, s.storage.escrow id = some r ∧ r.freelancer = a :=
  ids_and_indices_exact Sample.start_initial (run_play Sample.mixed Sample.start)

example : listByPayer 1 (play Sample.mixed Sample.start) = [0, 2] := by decide

end StarEscrow.Factory
