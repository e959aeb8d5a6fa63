/-
  StarEscrow.Escrow.Interference

  Whose calls matter.

  Once a config and a record are stored, only the admin, the payer and the
  freelancer have calls that do something, `release_recurring` apart, which
  anybody may send.  So all calls of others can be taken out of a run, and
  neither the answers to the calls that remain nor what the contract stores and
  does will show it (`strangers_do_not_interfere`).  A pause is a delay in the
  same sense: what comes after it goes as if the contract had never been paused
  (`pause_is_a_delay`).
-/

import StarEscrow.Escrow.Pause
import StarEscrow.Escrow.Uniform

namespace StarEscrow.Escrow

open Exec Relational

variable {Address : Type} [DecidableEq Address] {H : Host Address}

/-! ## Answers -/

/-- What the caller is told. -/
def Call.answer (c : Call Address) (s : State H) : Except Failure Unit := (c.run s).map fun _ => ()

/-- What happens next: a call, or something else on the ledger that takes it to `w`. -/
inductive Turn (H : Host Address)
  | call (c : Call Address)
  | outside (w : H.World)

def Turn.perform : Turn H → State H → State H
  | .call c, s => c.perform s
  | .outside w, s => s.putWorld w

def playTurns : List (Turn H) → State H → State H
  | [], s => s
  | x :: xs, s => playTurns xs (x.perform s)

/-- The answers to the calls, in order. -/
def answers : List (Turn H) → State H → List (Except Failure Unit)
  | [], _ => []
  | .call c :: xs, s => c.answer s :: answers xs (c.perform s)
  | .outside w :: xs, s => answers xs (s.putWorld w)

theorem playTurns_append (xs ys : List (Turn H)) (s : State H) :
    playTurns (xs ++ ys) s = playTurns ys (playTurns xs s) := by
  induction xs generalizing s with
  | nil => rfl
  | cons x xs ih => exact ih (x.perform s)

theorem Call.answer_of_refused {c : Call Address} {s : State H} (h : ∀ s', c.run s ≠ .ok s') :
    ∃ f, c.answer s = .error f := by
  unfold Call.answer
  cases h_run : c.run s with
  | ok s' => exact absurd h_run (h s')
  | error f => exact ⟨f, rfl⟩

namespace Same

variable {l l' : List (Effect Address)} {s t : State H}

/-- A call cannot tell the states apart. -/
theorem perform (h : Same l l' s t) (c : Call Address) :
    c.answer s = c.answer t ∧ Same l l' (c.perform s) (c.perform t) := by
  have h_exec := Uniform.exec c.op l l' c.env _ _ (h.atTime c.timestamp c.timestamp)
  unfold Call.answer Call.perform Call.run
  generalize c.op.exec c.env (s.atTime c.timestamp) = o at h_exec
  generalize c.op.exec c.env (t.atTime c.timestamp) = o' at h_exec
  cases h_exec with
  | ok h_next => exact ⟨rfl, h_next.2⟩
  | error _ => exact ⟨rfl, h.atTime _ _⟩

/-- And so cannot whatever follows. -/
theorem turns (h : Same l l' s t) (xs : List (Turn H)) :
    answers xs s = answers xs t ∧ Same l l' (playTurns xs s) (playTurns xs t) := by
  induction xs generalizing s t with
  | nil => exact ⟨rfl, h⟩
  | cons x xs ih =>
      cases x with
      | call c =>
          obtain ⟨h_answer, h_next⟩ := h.perform c
          obtain ⟨h_answers, h_end⟩ := ih h_next
          rw [answers, answers, h_answer, h_answers]
          exact ⟨rfl, h_end⟩
      | outside w => exact ih (h.putWorld w)

end Same

/-! ## Strangers -/

/-- Nobody in `A` authorises the call, and it is not a release, which nobody has to authorise. -/
structure Call.Foreign (A : Address → Prop) (c : Call Address) : Prop where
  op : c.op ≠ .releaseRecurring
  unsigned : ∀ a, A a → c.auth a = false

/-- Everybody with a role is in `A`. -/
structure Inside (A : Address → Prop) (s : State H) : Prop where
  admin : ∃ cfg, s.storage.config = some cfg ∧ A cfg.admin
  parties : ∃ d, s.storage.escrow = some d ∧ A d.payer ∧ A d.freelancer

/-- Who gets a role. -/
def Op.heir? : Op Address → Option Address
  | .transferFreelancer a => some a
  | .transferPayer a => some a
  | _ => none

section

variable {A : Address → Prop} {s s' : State H} {c : Call Address}

theorem Inside.refuses (h : Inside A s) (h_c : c.Foreign A) (s' : State H) : c.run s ≠ .ok s' := by
  intro h_run
  obtain ⟨cfg, h_cfg, h_admin⟩ := h.admin
  obtain ⟨d, h_d, h_payer, h_freelancer⟩ := h.parties
  have h_silent {a : Address} (h_a : A a) (h_auth : c.auth a = true) : False := by
    rw [h_c.unsigned a h_a] at h_auth
    cases h_auth
  have h_same {d' : EscrowData Address} (h_d' : s.storage.escrow = some d') : d = d' :=
    Option.some.inj (h_d.symm.trans h_d')
  cases Call.change h_run with
  | init _ h_none =>
      rw [h_cfg] at h_none
      cases h_none
  | pausing _ h_stored h_auth =>
      obtain rfl := Option.some.inj (h_cfg.symm.trans h_stored)
      exact h_silent h_admin h_auth
  | create _ _ h_new =>
      rw [h_d] at h_new
      cases h_new
  | submit _ _ h_stored _ _ _ h_auth | transferFreelancer _ _ h_stored h_auth =>
      obtain rfl := h_same h_stored
      exact h_silent h_freelancer h_auth
  | approve _ _ h_stored _ _ h_auth | refund _ _ h_stored _ h_auth
  | transferPayer _ _ h_stored h_auth | extendDeadline _ _ h_stored h_auth =>
      obtain rfl := h_same h_stored
      exact h_silent h_payer h_auth
  | release h_op => exact h_c.op h_op

/-- Roles stay inside if they are handed on inside. -/
theorem Inside.perform (h : Inside A s) (h_heir : ∀ a ∈ c.op.heir?, A a) :
    Inside A (c.perform s) := by
  unfold Call.perform
  cases h_run : c.run s with
  | error f => exact ⟨h.admin, h.parties⟩
  | ok s' =>
      have h_change := Call.change h_run
      obtain ⟨cfg, h_cfg, h_admin⟩ := h.admin
      obtain ⟨d, h_d, h_payer, h_freelancer⟩ := h.parties
      have h_same {d' : EscrowData Address} (h_d' : s.storage.escrow = some d') : d = d' :=
        Option.some.inj (h_d.symm.trans h_d')
      refine ⟨?_, ?_⟩
      · rcases h_change.config with h_config | h_none | ⟨cfg', b, h_cfg', h_config⟩
        · exact ⟨cfg, h_config.trans h_cfg, h_admin⟩
        · rw [h_cfg] at h_none
          cases h_none
        · obtain rfl := Option.some.inj (h_cfg.symm.trans h_cfg')
          exact ⟨_, h_config, h_admin⟩
      · cases h_change with
        | init _ _ _ _ h_deal | pausing _ _ _ _ h_deal =>
            exact ⟨d, h_deal.escrow.trans h_d, h_payer, h_freelancer⟩
        | create _ _ h_new =>
            rw [h_d] at h_new
            cases h_new
        | submit _ _ h_stored _ _ _ _ h_stores | approve _ _ h_stored _ _ _ _ h_stores
        | release _ _ h_stored _ _ _ _ _ _ _ h_stores
        | refund _ _ h_stored _ _ _ _ _ h_stores | extendDeadline _ _ h_stored _ _ _ h_stores =>
            obtain rfl := h_same h_stored
            exact ⟨_, h_stores.escrow, h_payer, h_freelancer⟩
        | transferFreelancer h_op _ h_stored _ h_stores =>
            obtain rfl := h_same h_stored
            rw [h_op] at h_heir
            exact ⟨_, h_stores.escrow, h_payer, h_heir _ rfl⟩
        | transferPayer h_op _ h_stored _ h_stores =>
            obtain rfl := h_same h_stored
            rw [h_op] at h_heir
            exact ⟨_, h_stores.escrow, h_heir _ rfl, h_freelancer⟩

end

/-! ## Taking calls out -/

def Turn.kept (drop : Call Address → Bool) : Turn H → Bool
  | .call c => !drop c
  | .outside _ => true

/-- A call that is dropped is foreign to `A`, and one that is kept hands roles on inside `A`. -/
def Turn.Respects (A : Address → Prop) (drop : Call Address → Bool) : Turn H → Prop
  | .call c => if drop c then c.Foreign A else ∀ a ∈ c.op.heir?, A a
  | .outside _ => True

/-- The answers to the calls that are kept, in a run of all of them. -/
def keptAnswers (drop : Call Address → Bool) : List (Turn H) → State H → List (Except Failure Unit)
  | [], _ => []
  | .call c :: xs, s =>
      if drop c then keptAnswers drop xs (c.perform s)
      else c.answer s :: keptAnswers drop xs (c.perform s)
  | .outside w :: xs, s => keptAnswers drop xs (s.putWorld w)

section

variable {A : Address → Prop} {l : List (Effect Address)} {s t : State H}
  {drop : Call Address → Bool}

/-- By induction on the turns: the two runs stay indistinguishable. -/
theorem Same.purge (h : Same l l s t) (h_in : Inside A s) {xs : List (Turn H)}
    (h_xs : ∀ x ∈ xs, x.Respects A drop) :
    keptAnswers drop xs s = answers (xs.filter (Turn.kept drop)) t ∧
      Same l l (playTurns xs s) (playTurns (xs.filter (Turn.kept drop)) t) := by
  induction xs generalizing s t with
  | nil => exact ⟨rfl, h⟩
  | cons x xs ih =>
      have h_rest : ∀ x ∈ xs, x.Respects A drop := fun x h_x => h_xs x (List.mem_cons_of_mem _ h_x)
      have h_x := h_xs x List.mem_cons_self
      cases x with
      | outside w => exact ih (h.putWorld w) ⟨h_in.admin, h_in.parties⟩ h_rest
      | call c =>
          rw [Turn.Respects] at h_x
          cases h_c : drop c with
          | true =>
              -- the dropped call is refused, and only the clock shows it
              rw [if_pos h_c] at h_x
              have h_refused := (Call.perform_of_refused (h_in.refuses h_x)).2
              have h_same : Same l l (c.perform s) t := by
                rw [h_refused]
                exact h.atTime c.timestamp t.time
              have h_in' : Inside A (c.perform s) := by
                rw [h_refused]
                exact ⟨h_in.admin, h_in.parties⟩
              rw [keptAnswers, if_pos h_c, List.filter_cons_of_neg (by simp [Turn.kept, h_c])]
              exact ih h_same h_in' h_rest
          | false =>
              rw [if_neg (by simp [h_c])] at h_x
              obtain ⟨h_answer, h_next⟩ := h.perform c
              obtain ⟨h_answers, h_end⟩ := ih h_next (h_in.perform h_x) h_rest
              rw [keptAnswers, if_neg (by simp [h_c]),
                List.filter_cons_of_pos (by simp [Turn.kept, h_c]), answers, h_answer, h_answers]
              exact ⟨rfl, h_end⟩

/-- **Strangers do not interfere.**  Let a config and a record be stored, let `A` hold everybody who
    has a role or is handed one, and take out of any interleaving of calls and other events any
    calls that nobody in `A` authorises, releases apart.  All other calls have the same answers, and
    the config, the record, the world and the log end up the same. -/
theorem strangers_do_not_interfere (h_in : Inside A s) {xs : List (Turn H)}
    (h_xs : ∀ x ∈ xs, x.Respects A drop) :
    keptAnswers drop xs s = answers (xs.filter (Turn.kept drop)) s ∧
      Same s.log s.log (playTurns xs s) (playTurns (xs.filter (Turn.kept drop)) s) :=
  (Same.refl s).purge h_in h_xs

end

namespace Sample

/-- Two milestones under a config of the admin at 4. -/
def configured : State host := play [call 1 (.init 4 250 3), call 1 (.create twoParts)] (start 100 0)

/-- A call that one address authorises. -/
def callBy (who : Nat) (t : UInt64) (op : Op Nat) : Call Nat := ⟨t, fun a => a = who, op⟩

/-- The deal goes on while somebody at 7 tries to cancel it and to get the work paid. -/
def meddled : List (Turn host) :=
  [.call (callBy 7 2 .cancel), .call (callBy 2 2 (.submitWork 0)), .call (callBy 7 3 (.approve 0)),
    .outside fun _ _ => 500, .call (callBy 1 4 (.approve 0)), .call (callBy 1 5 .cancel)]

end Sample

theorem strangers_do_not_interfere_meddled :
    let drop : Call Nat → Bool := fun c => c.auth 7
    let s := Sample.configured
    keptAnswers drop Sample.meddled s = answers (Sample.meddled.filter (Turn.kept drop)) s ∧
      Same s.log s.log (playTurns Sample.meddled s)
        (playTurns (Sample.meddled.filter (Turn.kept drop)) s) :=
  strangers_do_not_interfere (A := fun a => a = 1 ∨ a = 2 ∨ a = 4)
    ⟨⟨_, rfl, by decide⟩, ⟨_, rfl, by decide, by decide⟩⟩ (by
      simp only [Sample.meddled, List.forall_mem_cons, Turn.Respects, Sample.callBy]
      refine ⟨⟨by decide, ?_⟩, by simp [Op.heir?], ⟨by decide, ?_⟩, trivial, by simp [Op.heir?],
        by simp [Op.heir?], by simp⟩ <;> rintro a (rfl | rfl | rfl) <;> rfl)

/-! ## Pauses -/

/-- What happens outside while the calls are refused. -/
def Turn.isOutside : Turn H → Bool
  | .call _ => false
  | .outside _ => true

/-- `u` is paused and `v` is not, and they have the same deal in the same world. -/
structure Suspended (cfg : ProtocolConfig Address) (l l' : List (Effect Address)) (u v : State H) :
    Prop where
  paused : u.storage.config = some { cfg with paused := true }
  running : v.storage.config = some { cfg with paused := false }
  escrow : u.storage.escrow = v.storage.escrow
  allowedTokens : u.storage.allowedTokens = v.storage.allowedTokens
  world : u.world = v.world
  log : u.log = l ∧ v.log = l'

section

variable {cfg : ProtocolConfig Address} {l l' : List (Effect Address)} {s u v : State H}

/-- While the admin does not sign, all calls are refused. -/
theorem Suspended.turns (h : Suspended cfg l l' u v) {xs : List (Turn H)}
    (h_silent : ∀ c, .call c ∈ xs → c.auth cfg.admin = false) :
    (∀ o ∈ answers xs u, ∃ f, o = .error f) ∧
      Suspended cfg l l' (playTurns xs u) (playTurns (xs.filter Turn.isOutside) v) := by
  induction xs generalizing u v with
  | nil => exact ⟨nofun, h⟩
  | cons x xs ih =>
      have h_rest : ∀ c, .call c ∈ xs → c.auth cfg.admin = false :=
        fun c h_c => h_silent c (List.mem_cons_of_mem _ h_c)
      cases x with
      | outside w =>
          exact ih ⟨h.paused, h.running, h.escrow, h.allowedTokens, rfl, h.log⟩ h_rest
      | call c =>
          have h_refused : ∀ u', c.run u ≠ .ok u' := by
            intro u' h_run
            have h_auth := (Call.change h_run).authorized_of_paused h.paused rfl
            rw [h_silent c List.mem_cons_self] at h_auth
            cases h_auth
          have h_next : Suspended cfg l l' (c.perform u) v := by
            rw [(Call.perform_of_refused h_refused).2]
            exact ⟨h.paused, h.running, h.escrow, h.allowedTokens, h.world, h.log⟩
          obtain ⟨h_answers, h_end⟩ := ih h_next h_rest
          exact ⟨List.forall_mem_cons.mpr ⟨Call.answer_of_refused h_refused, h_answers⟩, h_end⟩

/-- **A pause is a delay.**  The admin pauses a running contract and unpauses it later; between the
    two every call the admin does not sign is refused.  Whatever calls follow, they have the
    answers, effects and results they would have had if none of this had been sent; only the two
    events stay in the log. -/
theorem pause_is_a_delay (h_config : s.storage.config = some cfg) (h_running : cfg.paused = false)
    {c c' : Call Address} (h_pause : c.op = .pause ∧ c.auth cfg.admin = true)
    (h_unpause : c'.op = .unpause ∧ c'.auth cfg.admin = true) {during : List (Turn H)}
    (h_silent : ∀ x, .call x ∈ during → x.auth cfg.admin = false) (after : List (Turn H)) :
    let paused := c.perform s
    let resumed := playTurns (during ++ [.call c']) paused
    let calm := playTurns (during.filter Turn.isOutside) s
    (∀ o ∈ answers during paused, ∃ f, o = .error f) ∧
      answers after resumed = answers after calm ∧
      Same (s.log ++ [.event (.contractPaused cfg.admin), .event (.contractUnpaused cfg.admin)])
        s.log (playTurns after resumed) (playTurns after calm) := by
  intro paused resumed calm
  let l := s.log ++ [.event (.contractPaused cfg.admin)]
  have h_cfg : { cfg with paused := false } = cfg := by rw [← h_running]
  have h_paused : Suspended cfg l s.log paused s := by
    have h_run : c.run s = .ok _ := Call.run_ok.mpr (by
      rw [h_pause.1]
      exact pause_ok.mpr ⟨cfg, h_config, h_pause.2, rfl⟩)
    have h_perform : paused = _ := (Call.perform_of_run h_run).2
    rw [h_perform]
    exact ⟨rfl, by rw [h_cfg, h_config], rfl, rfl, rfl, rfl, rfl⟩
  obtain ⟨h_answers, h_end⟩ := h_paused.turns h_silent
  have h_same : Same (s.log ++ [.event (.contractPaused cfg.admin),
      .event (.contractUnpaused cfg.admin)]) s.log resumed calm := by
    have h_run : c'.run (playTurns during paused) = .ok _ := Call.run_ok.mpr (by
      rw [h_unpause.1]
      exact unpause_ok.mpr ⟨_, h_end.paused, h_unpause.2, rfl⟩)
    have h_perform : resumed = _ :=
      (playTurns_append during [.call c'] paused).trans (Call.perform_of_run h_run).2
    rw [h_perform]
    refine ⟨h_end.running.symm, h_end.escrow, h_end.allowedTokens, h_end.world, [], ?_, ?_⟩
    · show (playTurns during paused).log ++ _ = _
      rw [h_end.log.1, List.append_assoc, List.append_nil]
      rfl
    · rw [h_end.log.2, List.append_nil]
  obtain ⟨h_later, h_final⟩ := h_same.turns after
  exact ⟨h_answers, h_later, h_final⟩

end

namespace Sample

/-- The work that is handed in during a pause is refused. -/
def tooEarly : List (Turn host) := [.call (callBy 2 3 (.submitWork 0)), .outside fun _ _ => 500]

def handedIn : List (Turn host) :=
  [.call (callBy 2 6 (.submitWork 0)), .call (callBy 1 7 (.approve 0))]

end Sample

theorem pause_is_a_delay_tooEarly :
    let s := Sample.configured
    let paused := (Sample.callBy 4 2 .pause).perform s
    let resumed := playTurns (Sample.tooEarly ++ [.call (Sample.callBy 4 5 .unpause)]) paused
    let calm := playTurns (Sample.tooEarly.filter Turn.isOutside) s
    (∀ o ∈ answers Sample.tooEarly paused, ∃ f, o = .error f) ∧
      answers Sample.handedIn resumed = answers Sample.handedIn calm ∧
      Same (s.log ++ [.event (.contractPaused 4), .event (.contractUnpaused 4)]) s.log
        (playTurns Sample.handedIn resumed) (playTurns Sample.handedIn calm) :=
  have h_config : Sample.configured.storage.config = some ⟨4, false, 250, 3⟩ := rfl
  pause_is_a_delay h_config rfl ⟨rfl, rfl⟩ ⟨rfl, rfl⟩
    (by simp [Sample.tooEarly, Sample.callBy]) _

/-- After the pause the work is accepted and paid. -/
example :
    let paused := (Sample.callBy 4 2 .pause).perform Sample.configured
    let resumed := playTurns (Sample.tooEarly ++ [.call (Sample.callBy 4 5 .unpause)]) paused
    answers Sample.handedIn resumed = [.ok (), .ok ()] := by decide

end StarEscrow.Escrow
