/-
  StarEscrow.Reputation.Counts

  The counters against the calls that were made.

  What counts is read off the list of calls alone: the admin is the address of
  the first `init` it authorised, a caller is registered once that admin
  authorised it, and a record counts when its caller authorised it and was
  registered by then.  The storage keeps up with the list (`Reflects`), so the
  counters are the counts, and reordering what comes after the registrations
  changes none of them.
-/

import StarEscrow.Lib.Positions
import StarEscrow.Reputation.Contract

namespace StarEscrow.Reputation

open Invoke Positions

/-! ## Calls -/

/-- The two things a caller records. -/
inductive Outcome
  | completion
  | cancellation
  deriving DecidableEq, Repr

/-- The counter of an outcome. -/
def Outcome.count : Outcome → ReputationStats → UInt32
  | completion => ReputationStats.completed
  | cancellation => ReputationStats.cancelled

inductive Op (Address : Type)
  | init (admin : Address)
  | registerCaller (caller : Address)
  | record (o : Outcome) (caller address : Address)
  deriving DecidableEq, Repr

/-- A call: who authorises it, and what it asks for. -/
structure Call (Address : Type) where
  auth : Address → Bool
  op : Op Address

variable {Address : Type} [DecidableEq Address]

def Outcome.exec (auth : Address → Bool) (caller address : Address) (s : State Address) :
    Outcome → Exec (State Address)
  | completion => recordCompletion auth caller address s
  | cancellation => recordCancellation auth caller address s

/-- The state a call leaves, or why it fails. -/
def Call.run (c : Call Address) (s : State Address) : Exec (State Address) :=
  match c.op with
  | .init admin => Reputation.init c.auth admin s
  | .registerCaller caller => Reputation.registerCaller c.auth caller s
  | .record o caller address => o.exec c.auth caller address s

/-- The state after a call, whether it returns or not. -/
def Call.perform (c : Call Address) (s : State Address) : State Address :=
  match c.run s with
  | .ok s' => s'
  | .error _ => s

def play (calls : List (Call Address)) : State Address :=
  calls.foldl (fun s c => c.perform s) .empty

theorem play_snoc (calls : List (Call Address)) (c : Call Address) :
    play (calls ++ [c]) = c.perform (play calls) := by
  rw [play, List.foldl_append]
  rfl

/-! ## What counts -/

/-- The admin an `init` sets up, if its admin authorises it. -/
def Call.init? (c : Call Address) : Option Address :=
  match c.op with
  | .init admin => if c.auth admin then some admin else none
  | _ => none

/-- The admin of the first such `init`. -/
def adminOf (calls : List (Call Address)) : Option Address := calls.findSome? Call.init?

/-- The call registers the caller, with the authorisation of the admin of the calls before it. -/
def registers (caller : Address) (before : List (Call Address)) (c : Call Address) : Bool :=
  decide (c.op = .registerCaller caller) && (adminOf before).any c.auth

/-- One of the calls registered the caller. -/
def registered (caller : Address) (calls : List (Call Address)) : Bool :=
  decide (0 < countAt (registers caller) calls)

/-- The call records the outcome for the address, authorised by a caller registered before it. -/
def records (o : Outcome) (a : Address) (before : List (Call Address)) (c : Call Address) : Bool :=
  match c.op with
  | .record o' caller address =>
      decide (o' = o ∧ address = a) && (c.auth caller && registered caller before)
  | _ => false

omit [DecidableEq Address] in
theorem adminOf_snoc (calls : List (Call Address)) (c : Call Address) :
    adminOf (calls ++ [c]) = (adminOf calls).or c.init? := by
  rw [adminOf, List.findSome?_append]
  congr 1
  cases h : c.init? <;> simp [List.findSome?, h]

theorem registered_snoc (caller : Address) (calls : List (Call Address)) (c : Call Address) :
    registered caller (calls ++ [c]) = (registered caller calls || registers caller calls c) := by
  rw [registered, countAt_snoc, registered]
  cases registers caller calls c <;> simp

/-! ## When calls return -/

/-- A call with one way to return does just that when it can. -/
theorem Call.perform_eq {c : Call Address} {s t : State Address} {P : Prop} [Decidable P]
    (h : ∀ s', c.run s = .ok s' ↔ P ∧ s' = t) : c.perform s = if P then t else s := by
  unfold Call.perform
  cases h_run : c.run s with
  | ok s' =>
      obtain ⟨h_p, rfl⟩ := (h s').mp h_run
      rw [if_pos h_p]
  | error f =>
      rw [if_neg]
      intro h_p
      cases h_run.symm.trans ((h t).mpr ⟨h_p, rfl⟩)

omit [DecidableEq Address] in
theorem init_ok {auth : Address → Bool} {admin : Address} {s s' : State Address} :
    init auth admin s = .ok s' ↔
      (s.storage.admin = none ∧ auth admin = true) ∧ s' = s.putAdmin admin := by
  simp only [init, bind_ok, errIf_ok, requireAuth_ok, pure_ok, Option.not_isSome_iff_eq_none]
  constructor
  · rintro ⟨-, h_none, -, h_auth, rfl⟩
    exact ⟨⟨h_none, h_auth⟩, rfl⟩
  · rintro ⟨⟨h_none, h_auth⟩, rfl⟩
    exact ⟨(), h_none, (), h_auth, rfl⟩

theorem registerCaller_ok {auth : Address → Bool} {caller : Address} {s s' : State Address} :
    registerCaller auth caller s = .ok s' ↔
      s.storage.admin.any auth = true ∧ s' = s.putCaller caller true := by
  simp only [registerCaller, bind_ok, orTrap_ok, requireAuth_ok, pure_ok, Option.any_eq_true]
  constructor
  · rintro ⟨admin, h_admin, -, h_auth, rfl⟩
    exact ⟨⟨admin, h_admin, h_auth⟩, rfl⟩
  · rintro ⟨⟨admin, h_admin, h_auth⟩, rfl⟩
    exact ⟨admin, h_admin, (), h_auth, rfl⟩

/-- The state a record leaves. -/
def State.recorded (s : State Address) (address : Address) (stats : ReputationStats) :
    State Address :=
  (saveStats address stats s).push (.reputationUpdated address stats.completed stats.cancelled)

/-- The `+= 1` of an outcome. -/
def Outcome.bump (o : Outcome) (stats : ReputationStats) : Option ReputationStats :=
  match o with
  | .completion =>
      (Checked.succU32 stats.completed).map fun n => { stats with completed := n }
  | .cancellation =>
      (Checked.succU32 stats.cancelled).map fun n => { stats with cancelled := n }

theorem Outcome.exec_ok {o : Outcome} {auth : Address → Bool} {caller address : Address}
    {s s' : State Address} : o.exec auth caller address s = .ok s' ↔
      auth caller = true ∧ (s.storage.caller caller).isSome = true ∧
        ∃ stats, o.bump (getStats address s) = some stats ∧ s' = s.recorded address stats := by
  have h_exec : o.exec auth caller address s = record o.bump auth caller address s := by
    cases o <;> rfl
  simp only [h_exec, record, bind_ok, requireAuth_ok, errIf_ok, orTrap_ok, pure_ok,
    Bool.not_eq_true, Option.isNone_eq_false_iff]
  constructor
  · rintro ⟨-, h_auth, -, h_caller, stats, h_bump, rfl⟩
    exact ⟨h_auth, h_caller, stats, h_bump, rfl⟩
  · rintro ⟨h_auth, h_caller, stats, h_bump, rfl⟩
    exact ⟨(), h_auth, (), h_caller, stats, h_bump, rfl⟩

/-- One outcome more, and the other counter as it was. -/
theorem Outcome.count_bump {o : Outcome} {stats stats' : ReputationStats}
    (h : o.bump stats = some stats') (o' : Outcome) :
    (o'.count stats').toNat = (o'.count stats).toNat + if o = o' then 1 else 0 := by
  cases o with
  | completion =>
      obtain ⟨n, h_n, rfl⟩ := Option.map_eq_some_iff.mp h
      rw [Checked.succU32_eq_some] at h_n
      cases o' with
      | completion => exact h_n
      | cancellation => rfl
  | cancellation =>
      obtain ⟨n, h_n, rfl⟩ := Option.map_eq_some_iff.mp h
      rw [Checked.succU32_eq_some] at h_n
      cases o' with
      | completion => rfl
      | cancellation => exact h_n

/-- A counter that cannot go up is full. -/
theorem Outcome.full_of_bump {o : Outcome} {stats : ReputationStats} (h : o.bump stats = none) :
    2 ^ 32 ≤ (o.count stats).toNat + 1 := by
  by_contra h_lt
  rw [Nat.not_le] at h_lt
  cases o with
  | completion =>
      have h_succ : Checked.succU32 stats.completed = some _ := if_pos h_lt
      rw [Outcome.bump, h_succ] at h
      cases h
  | cancellation =>
      have h_succ : Checked.succU32 stats.cancelled = some _ := if_pos h_lt
      rw [Outcome.bump, h_succ] at h
      cases h

theorem getStats_recorded (s : State Address) (address a : Address) (stats : ReputationStats) :
    getStats a (s.recorded address stats) = if a = address then stats else getStats a s := by
  by_cases h_a : a = address <;>
    simp [getStats, loadStats, State.recorded, State.push, saveStats, State.putStats, h_a]

section Record

variable {s : State Address} {auth : Address → Bool} {o : Outcome} {caller address : Address}

/-- With its counter full, a record traps if it is not refused before. -/
theorem Call.perform_record_full (h : o.bump (getStats address s) = none) :
    Call.perform ⟨auth, .record o caller address⟩ s = s := by
  have h_perform : Call.perform ⟨auth, .record o caller address⟩ s = if False then s else s := by
    refine Call.perform_eq fun s' => ?_
    show o.exec auth caller address s = .ok s' ↔ _
    rw [Outcome.exec_ok, h]
    simp
  rw [h_perform, if_neg not_false]

theorem Call.perform_record {stats : ReputationStats}
    (h : o.bump (getStats address s) = some stats) :
    Call.perform ⟨auth, .record o caller address⟩ s =
      if auth caller = true ∧ (s.storage.caller caller).isSome = true then
        s.recorded address stats
      else s := by
  refine Call.perform_eq fun s' => ?_
  show o.exec auth caller address s = .ok s' ↔ _
  rw [Outcome.exec_ok, h]
  simp [and_assoc]

variable (s auth o caller address) in
/-- A record writes statistics or nothing. -/
theorem Call.perform_record_cases : Call.perform ⟨auth, .record o caller address⟩ s = s ∨
    ∃ stats, Call.perform ⟨auth, .record o caller address⟩ s = s.recorded address stats := by
  cases h_bump : o.bump (getStats address s) with
  | none => exact .inl (Call.perform_record_full h_bump)
  | some stats =>
      rw [Call.perform_record h_bump]
      split
      · exact .inr ⟨stats, rfl⟩
      · exact .inl rfl

/-- A record that counts moves its counter by one, unless that is full, and no other counter. -/
theorem count_perform_record (o' : Outcome) (a : Address) :
    (o'.count (getStats a (Call.perform ⟨auth, .record o caller address⟩ s))).toNat =
      min ((o'.count (getStats a s)).toNat +
        if (o = o' ∧ address = a) ∧ auth caller = true ∧ (s.storage.caller caller).isSome = true
        then 1 else 0) (2 ^ 32 - 1) := by
  have h_old := (o'.count (getStats a s)).toNat_lt
  cases h_bump : o.bump (getStats address s) with
  | none =>
      have h_full := Outcome.full_of_bump h_bump
      rw [Call.perform_record_full h_bump]
      by_cases h_counter : o = o' ∧ address = a
      · obtain ⟨rfl, rfl⟩ := h_counter
        split <;> omega
      · rw [if_neg fun h => h_counter h.1]
        omega
  | some stats =>
      have h_count := Outcome.count_bump h_bump o'
      have h_new := (o'.count stats).toNat_lt
      rw [Call.perform_record h_bump]
      by_cases h_valid : auth caller = true ∧ (s.storage.caller caller).isSome = true
      · rw [if_pos h_valid, getStats_recorded]
        by_cases h_a : a = address
        · subst h_a
          rw [if_pos rfl]
          by_cases h_o : o = o'
          · rw [if_pos h_o] at h_count
            rw [if_pos ⟨⟨h_o, rfl⟩, h_valid⟩]
            omega
          · rw [if_neg h_o] at h_count
            rw [if_neg fun h => h_o h.1.1]
            omega
        · rw [if_neg h_a, if_neg fun h => h_a h.1.2.symm]
          omega
      · rw [if_neg h_valid, if_neg fun h => h_valid h.2]
        omega

end Record

/-! ## The storage reflects the calls -/

/-- What the storage holds after the calls. -/
structure Reflects (calls : List (Call Address)) (s : State Address) : Prop where
  admin : s.storage.admin = adminOf calls
  caller : ∀ x, (s.storage.caller x).isSome = registered x calls
  /-- A full counter stays full. -/
  stats : ∀ o a, (o.count (getStats a s)).toNat = min (countAt (records o a) calls) (2 ^ 32 - 1)

theorem reflects_empty : Reflects [] (.empty : State Address) where
  admin := rfl
  caller := fun _ => rfl
  stats := by
    intro o a
    cases o <;> rfl

/-- The storage reflects one more call when each part of it moves as the call says. -/
theorem Reflects.extend {calls : List (Call Address)} {s s' : State Address} {c : Call Address}
    (h : Reflects calls s) (h_admin : s'.storage.admin = s.storage.admin.or c.init?)
    (h_caller : ∀ x, (s'.storage.caller x).isSome =
      ((s.storage.caller x).isSome || registers x calls c))
    (h_stats : ∀ o a, (o.count (getStats a s')).toNat =
      min ((o.count (getStats a s)).toNat + if records o a calls c then 1 else 0) (2 ^ 32 - 1)) :
    Reflects (calls ++ [c]) s' where
  admin := by rw [adminOf_snoc, ← h.admin, h_admin]
  caller := by
    intro x
    rw [registered_snoc, ← h.caller, h_caller]
  stats := by
    intro o a
    have h_old := h.stats o a
    rw [countAt_snoc, h_stats]
    omega

/-- A call that is no record leaves the counters as they are. -/
theorem stats_of_not_records {calls : List (Call Address)} {s s' : State Address} {c : Call Address}
    (h_stats : s'.storage.stats = s.storage.stats) (h_not : ∀ o a, records o a calls c = false)
    (o : Outcome) (a : Address) : (o.count (getStats a s')).toNat =
      min ((o.count (getStats a s)).toNat + if records o a calls c then 1 else 0) (2 ^ 32 - 1) := by
  have h_lt := (o.count (getStats a s)).toNat_lt
  have h_same : getStats a s' = getStats a s := by
    rw [getStats, getStats, loadStats, loadStats, h_stats]
  rw [h_not, if_neg Bool.false_ne_true, h_same]
  omega

theorem Reflects.init {calls : List (Call Address)} {s : State Address} (h : Reflects calls s)
    (auth : Address → Bool) (admin : Address) :
    Reflects (calls ++ [⟨auth, .init admin⟩]) (Call.perform ⟨auth, .init admin⟩ s) := by
  have h_perform : Call.perform ⟨auth, .init admin⟩ s =
      if s.storage.admin = none ∧ auth admin = true then s.putAdmin admin else s :=
    Call.perform_eq fun s' => init_ok
  rw [h_perform]
  refine h.extend ?_ (fun x => ?_) (stats_of_not_records ?_ fun _ _ => rfl)
  · cases h_admin : s.storage.admin with
    | none => cases h_auth : auth admin <;> simp [Call.init?, h_auth, h_admin, State.putAdmin]
    | some old => simp [h_admin]
  · have h_not : registers x calls ⟨auth, .init admin⟩ = false := rfl
    rw [h_not, Bool.or_false]
    split <;> rfl
  · split <;> rfl

theorem Reflects.registerCaller {calls : List (Call Address)} {s : State Address}
    (h : Reflects calls s) (auth : Address → Bool) (caller : Address) :
    Reflects (calls ++ [⟨auth, .registerCaller caller⟩])
      (Call.perform ⟨auth, .registerCaller caller⟩ s) := by
  have h_perform : Call.perform ⟨auth, .registerCaller caller⟩ s =
      if s.storage.admin.any auth = true then s.putCaller caller true else s :=
    Call.perform_eq fun s' => registerCaller_ok
  rw [h_perform]
  refine h.extend ?_ (fun x => ?_) (stats_of_not_records ?_ fun _ _ => rfl)
  · have h_not : Call.init? (⟨auth, .registerCaller caller⟩ : Call Address) = none := rfl
    rw [h_not, Option.or_none]
    split <;> rfl
  · have h_registers : registers x calls ⟨auth, .registerCaller caller⟩ =
        (decide (caller = x) && s.storage.admin.any auth) := by
      simp [registers, h.admin]
    rw [h_registers]
    by_cases h_auth : s.storage.admin.any auth = true
    · rw [if_pos h_auth, h_auth]
      by_cases h_x : x = caller
      · simp [State.putCaller, h_x]
      · simp [State.putCaller, h_x, Ne.symm h_x]
    · rw [if_neg h_auth, Bool.eq_false_iff.mpr h_auth]
      simp
  · split <;> rfl

theorem Reflects.record {calls : List (Call Address)} {s : State Address} (h : Reflects calls s)
    (auth : Address → Bool) (o : Outcome) (caller address : Address) :
    Reflects (calls ++ [⟨auth, .record o caller address⟩])
      (Call.perform ⟨auth, .record o caller address⟩ s) := by
  have h_init : Call.init? (⟨auth, .record o caller address⟩ : Call Address) = none := rfl
  have h_registers (x : Address) : registers x calls ⟨auth, .record o caller address⟩ = false := rfl
  have h_cases := Call.perform_record_cases s auth o caller address
  refine h.extend ?_ (fun x => ?_) fun o' a => ?_
  · rw [h_init, Option.or_none]
    rcases h_cases with h_same | ⟨stats, h_new⟩
    · rw [h_same]
    · rw [h_new]
      rfl
  · rw [h_registers, Bool.or_false]
    rcases h_cases with h_same | ⟨stats, h_new⟩
    · rw [h_same]
    · rw [h_new]
      rfl
  · rw [count_perform_record, h.caller]
    congr 2
    simp only [records, Bool.and_eq_true, decide_eq_true_eq]

/-- One more call, and the storage reflects it too. -/
theorem Reflects.snoc {calls : List (Call Address)} {s : State Address} (h : Reflects calls s)
    (c : Call Address) : Reflects (calls ++ [c]) (c.perform s) := by
  obtain ⟨auth, op⟩ := c
  cases op with
  | init admin => exact h.init auth admin
  | registerCaller caller => exact h.registerCaller auth caller
  | record o caller address => exact h.record auth o caller address

theorem reflects_play (calls : List (Call Address)) : Reflects calls (play calls) := by
  induction calls using List.reverseRecOn with
  | nil => exact reflects_empty
  | append_singleton calls c ih =>
      rw [play_snoc]
      exact ih.snoc c

/-! ## Counters and counts -/

/-- The registrations are over: what calls of `calls'` still ask for one, the admin of `calls` did
    not authorise. -/
def NoRegistration (calls calls' : List (Call Address)) : Prop :=
  ∀ c ∈ calls', ∀ x, c.op = .registerCaller x → ∃ admin, adminOf calls = some admin ∧
    c.auth admin = false

theorem NoRegistration.registers {calls calls' : List (Call Address)}
    (h : NoRegistration calls calls') (pre : List (Call Address)) {c : Call Address}
    (h_c : c ∈ calls') (x : Address) : registers x (calls ++ pre) c = false := by
  by_cases h_op : c.op = .registerCaller x
  · obtain ⟨admin, h_admin, h_auth⟩ := h c h_c x h_op
    rw [Reputation.registers, adminOf, List.findSome?_append, ← adminOf, h_admin]
    simp [h_auth]
  · rw [Reputation.registers, decide_eq_false h_op, Bool.false_and]

/-- After the registrations nobody new is registered. -/
theorem NoRegistration.registered {calls calls' : List (Call Address)}
    (h : NoRegistration calls calls') (x : Address) :
    registered x (calls ++ calls') = Reputation.registered x calls := by
  have h_stable : ∀ pre c, pre <+: calls' → c ∈ calls' →
      Reputation.registers x (calls ++ pre) c = Reputation.registers x calls c := by
    intro pre c _ h_c
    have h_first := h.registers [] h_c x
    rw [List.append_nil] at h_first
    rw [h.registers pre h_c, h_first]
  have h_none : calls'.countP (Reputation.registers x calls) = 0 := by
    rw [List.countP_eq_zero]
    intro c h_c
    rw [← h_stable [] c List.nil_prefix h_c, h.registers [] h_c]
    exact Bool.false_ne_true
  rw [Reputation.registered, countAt_append h_stable, h_none, Nat.add_zero, Reputation.registered]

/-- After the registrations, records are counted one by one. -/
theorem NoRegistration.countAt_records {calls calls' : List (Call Address)}
    (h : NoRegistration calls calls') (o : Outcome) (a : Address) :
    countAt (records o a) (calls ++ calls') =
      countAt (records o a) calls + calls'.countP (records o a calls) := by
  apply countAt_append
  intro pre c h_pre _
  have h_none : NoRegistration calls pre := fun c' h_c' => h c' (h_pre.subset h_c')
  obtain ⟨auth, op⟩ := c
  cases op with
  | init admin => rfl
  | registerCaller caller => rfl
  | record o' caller address => simp only [records, h_none.registered]

/-- A counter that is not full is the count. -/
theorem count_exact (calls : List (Call Address)) (o : Outcome) (a : Address)
    (h : countAt (records o a) calls < 2 ^ 32) :
    (o.count (getStats a (play calls))).toNat = countAt (records o a) calls := by
  have h_stats := (reflects_play calls).stats o a
  omega

/-- **Reputation counts exactly the authorised records.**  As long as both counts of an address fit
    its counters, these are the numbers of completions and of cancellations that registered callers
    authorised for it; and no reordering of the calls after the registrations changes them. -/
theorem stats_exact (calls : List (Call Address)) (a : Address)
    (h_completed : countAt (records .completion a) calls < 2 ^ 32)
    (h_cancelled : countAt (records .cancellation a) calls < 2 ^ 32) :
    (getStats a (play calls)).completed.toNat = countAt (records .completion a) calls ∧
    (getStats a (play calls)).cancelled.toNat = countAt (records .cancellation a) calls ∧
    ∀ calls₁ calls₂ calls₂', calls = calls₁ ++ calls₂ → NoRegistration calls₁ calls₂ →
      calls₂.Perm calls₂' → getStats a (play (calls₁ ++ calls₂')) = getStats a (play calls) := by
  have h_one := count_exact calls .completion a h_completed
  have h_two := count_exact calls .cancellation a h_cancelled
  refine ⟨h_one, h_two, ?_⟩
  rintro calls₁ calls₂ calls₂' rfl h_none h_perm
  have h_none' : NoRegistration calls₁ calls₂' := fun c h_c => h_none c (h_perm.mem_iff.mpr h_c)
  have h_same (o : Outcome) :
      countAt (records o a) (calls₁ ++ calls₂') = countAt (records o a) (calls₁ ++ calls₂) := by
    rw [h_none.countAt_records, h_none'.countAt_records, h_perm.countP_eq]
  have h_one' := count_exact (calls₁ ++ calls₂') .completion a (by rw [h_same]; exact h_completed)
  have h_two' := count_exact (calls₁ ++ calls₂') .cancellation a (by rw [h_same]; exact h_cancelled)
  rw [h_same, ← h_one] at h_one'
  rw [h_same, ← h_two] at h_two'
  exact ReputationStats.ext (UInt32.toNat_inj.mp h_one') (UInt32.toNat_inj.mp h_two')

namespace Sample

def call (op : Op Nat) : Call Nat := ⟨fun _ => true, op⟩

/-- The admin at 1 registers the caller at 2 after its first record; the caller at 3 is never
    registered. -/
def mixed : List (Call Nat) :=
  [call (.init 1), call (.record .completion 2 7), call (.registerCaller 2),
    call (.record .completion 2 7), call (.record .cancellation 2 7), call (.record .completion 3 7),
    call (.record .completion 2 8), call (.record .completion 2 7)]

end Sample

theorem stats_exact_mixed :
    (getStats 7 (play Sample.mixed)).completed.toNat =
        countAt (records .completion 7) Sample.mixed ∧
      (getStats 7 (play Sample.mixed)).cancelled.toNat =
        countAt (records .cancellation 7) Sample.mixed ∧
      ∀ calls₁ calls₂ calls₂', Sample.mixed = calls₁ ++ calls₂ → NoRegistration calls₁ calls₂ →
        calls₂.Perm calls₂' →
          getStats 7 (play (calls₁ ++ calls₂')) = getStats 7 (play Sample.mixed) :=
  stats_exact Sample.mixed 7 (by decide) (by decide)

example : getStats 7 (play Sample.mixed) = ⟨2, 1⟩ := by decide

end StarEscrow.Reputation
