/-
  StarEscrow.Escrow.RateLimit

  The payer rate limiter of `storage.rs`.

  `check_and_update_rate_limit` keeps one window for each payer.  For one payer
  it is the limiter of `FixedWindow`, and it reads and writes the statistics of
  that payer only, so the bounds of the limiter hold of each payer's calls in
  any mix of calls.
-/

import Mathlib.Logic.Function.Basic
import StarEscrow.Lib.Checked
import StarEscrow.Lib.Window

namespace StarEscrow.Escrow

open FixedWindow

/-! ## `storage.rs` -/

/-- The part of the configuration the limiter reads. -/
structure RateLimitConfig where
  maxPerWindow : UInt32
  windowDuration : UInt64
  deriving DecidableEq, Repr

structure PayerStats where
  windowStart : UInt64
  count : UInt32
  deriving DecidableEq, Repr

/-- The statistics in the instance storage, by payer. -/
abbrev RateStore (Address : Type) : Type := Address → Option PayerStats

variable {Address : Type}

def readPayerStats (s : RateStore Address) (payer : Address) : Option PayerStats := s payer

variable [DecidableEq Address]

def writePayerStats (s : RateStore Address) (payer : Address) (stats : PayerStats) :
    RateStore Address :=
  Function.update s payer (some stats)

/-- `Err(())` writes nothing; `Ok(())` leaves the store with the call counted. -/
def checkAndUpdateRateLimit (currentTime : UInt64) (payer : Address) (config : RateLimitConfig)
    (s : RateStore Address) : Except Unit (RateStore Address) :=
  let stats := (readPayerStats s payer).getD { windowStart := currentTime, count := 0 }
  let stats := if Checked.satAddU64 stats.windowStart config.windowDuration ≤ currentTime then
      { stats with windowStart := currentTime, count := 0 }
    else stats
  if config.maxPerWindow ≤ stats.count then
    .error ()
  else
    .ok (writePayerStats s payer { stats with count := Checked.satAddU32 stats.count 1 })

/-! ## Sequences of calls -/

/-- A call of the limiter: when, and for whom. -/
structure RateCheck (Address : Type) where
  time : UInt64
  payer : Address
  deriving DecidableEq, Repr

/-- The calls, each with whether it returned `Ok`. -/
def rateOutcomes (config : RateLimitConfig) :
    RateStore Address → List (RateCheck Address) → List (RateCheck Address × Bool)
  | _, [] => []
  | s, c :: cs =>
      match checkAndUpdateRateLimit c.time c.payer config s with
      | .ok s' => (c, true) :: rateOutcomes config s' cs
      | .error _ => (c, false) :: rateOutcomes config s cs

/-! ## One payer at a time -/

/-- The statistics a call counts in: those stored, or a new window. -/
def currentStats (config : RateLimitConfig) (currentTime : UInt64) (o : Option PayerStats) :
    PayerStats :=
  let stats := o.getD ⟨currentTime, 0⟩
  if Checked.satAddU64 stats.windowStart config.windowDuration ≤ currentTime then
    ⟨currentTime, 0⟩
  else stats

/-- The statistics after a call that returns `Ok`, from those before. -/
def nextStats (config : RateLimitConfig) (currentTime : UInt64) (o : Option PayerStats) :
    Option PayerStats :=
  let stats := currentStats config currentTime o
  if config.maxPerWindow ≤ stats.count then none
  else some { stats with count := Checked.satAddU32 stats.count 1 }

variable {config : RateLimitConfig} {s s' : RateStore Address} {c : RateCheck Address}
  {cs : List (RateCheck Address)} {p : Address}

theorem check_eq (config : RateLimitConfig) (t : UInt64) (p : Address) (s : RateStore Address) :
    checkAndUpdateRateLimit t p config s =
      match nextStats config t (s p) with
      | some stats => .ok (writePayerStats s p stats)
      | none => .error () := by
  unfold nextStats
  by_cases h_full : config.maxPerWindow ≤ (currentStats config t (s p)).count
  · have h_error : checkAndUpdateRateLimit t p config s = .error () := if_pos h_full
    rw [h_error, if_pos h_full]
  · have h_ok : checkAndUpdateRateLimit t p config s = .ok _ := if_neg h_full
    rw [h_ok, if_neg h_full]
    rfl

theorem rateOutcomes_cons_some {stats : PayerStats}
    (h : nextStats config c.time (s c.payer) = some stats) :
    rateOutcomes config s (c :: cs) =
      (c, true) :: rateOutcomes config (writePayerStats s c.payer stats) cs := by
  rw [rateOutcomes, check_eq, h]

theorem rateOutcomes_cons_none (h : nextStats config c.time (s c.payer) = none) :
    rateOutcomes config s (c :: cs) = (c, false) :: rateOutcomes config s cs := by
  rw [rateOutcomes, check_eq, h]

/-- The results of one payer depend on the statistics of that payer only. -/
theorem rateOutcomes_filter (h_same : s p = s' p) (cs : List (RateCheck Address)) :
    (rateOutcomes config s cs).filter (·.1.payer = p) =
      rateOutcomes config s' (cs.filter (·.payer = p)) := by
  induction cs generalizing s s' with
  | nil => rfl
  | cons c cs ih =>
      by_cases h_p : c.payer = p
      · subst h_p
        rw [List.filter_cons_of_pos (by simp)]
        cases h_next : nextStats config c.time (s c.payer) with
        | some stats =>
            have h_written : writePayerStats s c.payer stats c.payer =
                writePayerStats s' c.payer stats c.payer := by
              rw [writePayerStats, writePayerStats, Function.update_self, Function.update_self]
            rw [rateOutcomes_cons_some h_next, List.filter_cons_of_pos (by simp), ih h_written,
              rateOutcomes_cons_some (h_same ▸ h_next)]
        | none =>
            rw [rateOutcomes_cons_none h_next, List.filter_cons_of_pos (by simp), ih h_same,
              rateOutcomes_cons_none (h_same ▸ h_next)]
      · rw [List.filter_cons_of_neg (by simpa using h_p)]
        cases h_next : nextStats config c.time (s c.payer) with
        | some stats =>
            have h_written : writePayerStats s c.payer stats p = s' p := by
              rw [writePayerStats, Function.update_of_ne (Ne.symm h_p), h_same]
            rw [rateOutcomes_cons_some h_next, List.filter_cons_of_neg (by simpa using h_p),
              ih h_written]
        | none =>
            rw [rateOutcomes_cons_none h_next, List.filter_cons_of_neg (by simpa using h_p),
              ih h_same]

/-! ## The limiter -/

/-- The statistics as a window of the limiter. -/
def PayerStats.window (stats : PayerStats) : FixedWindow.Window :=
  ⟨stats.windowStart.toNat, stats.count.toNat⟩

/-- The end of the window fits into `u64`. -/
def PayerStats.Fits (config : RateLimitConfig) (stats : PayerStats) : Prop :=
  stats.windowStart.toNat + config.windowDuration.toNat < 2 ^ 64

section Limiter

variable {t : UInt64} {o : Option PayerStats}

/-- Away from the end of the clock, a call counts in the limiter's window. -/
theorem currentStats_window (h_t : t.toNat + config.windowDuration.toNat < 2 ^ 64)
    (h_o : ∀ stats ∈ o, stats.Fits config) :
    (currentStats config t o).window =
        current config.windowDuration.toNat t.toNat (o.map PayerStats.window) ∧
      (currentStats config t o).Fits config := by
  have h_some (stats : PayerStats) (h_fits : stats.Fits config) :
      Checked.satAddU64 stats.windowStart config.windowDuration ≤ t ↔
        stats.windowStart.toNat + config.windowDuration.toNat ≤ t.toNat := by
    rw [UInt64.le_iff_toNat_le, Checked.satAddU64_toNat h_fits]
  cases o with
  | none =>
      have h_new : currentStats config t none = ⟨t, 0⟩ := ite_self _
      have h_new' : current config.windowDuration.toNat t.toNat none = ⟨t.toNat, 0⟩ := ite_self _
      rw [h_new]
      exact ⟨h_new'.symm, h_t⟩
  | some stats =>
      have h_fits := h_o stats rfl
      by_cases h_over : Checked.satAddU64 stats.windowStart config.windowDuration ≤ t
      · have h_cur : currentStats config t (some stats) = ⟨t, 0⟩ := if_pos h_over
        rw [h_cur]
        exact ⟨(if_pos ((h_some stats h_fits).mp h_over)).symm, h_t⟩
      · have h_cur : currentStats config t (some stats) = stats := if_neg h_over
        rw [h_cur]
        exact ⟨(if_neg fun h => h_over ((h_some stats h_fits).mpr h)).symm, h_fits⟩

/-- So it is a step of the limiter. -/
theorem nextStats_enter (h_t : t.toNat + config.windowDuration.toNat < 2 ^ 64)
    (h_o : ∀ stats ∈ o, stats.Fits config) :
    (nextStats config t o).map PayerStats.window =
        enter config.maxPerWindow.toNat config.windowDuration.toNat t.toNat
          (o.map PayerStats.window) ∧
      ∀ stats ∈ nextStats config t o, stats.Fits config := by
  obtain ⟨h_window, h_fits⟩ := currentStats_window h_t h_o
  unfold nextStats enter
  rw [← h_window]
  by_cases h_full : config.maxPerWindow ≤ (currentStats config t o).count
  · have h_full' : config.maxPerWindow.toNat ≤ (currentStats config t o).window.count :=
      UInt32.le_iff_toNat_le.mp h_full
    rw [if_pos h_full, if_pos h_full']
    exact ⟨rfl, by simp⟩
  · have h_full' : ¬config.maxPerWindow.toNat ≤ (currentStats config t o).window.count :=
      fun h => h_full (UInt32.le_iff_toNat_le.mpr h)
    have h_room : (currentStats config t o).count.toNat < config.maxPerWindow.toNat :=
      Nat.lt_of_not_le h_full'
    -- the counter is below the 32-bit limit, so it does not saturate
    have h_max := config.maxPerWindow.toNat_lt
    have h_one : (1 : UInt32).toNat = 1 := rfl
    have h_count : (Checked.satAddU32 (currentStats config t o).count 1).toNat =
        (currentStats config t o).count.toNat + 1 :=
      Checked.satAddU32_toNat (by rw [h_one]; omega)
    rw [if_neg h_full, if_neg h_full']
    constructor
    · rw [Option.map_some, PayerStats.window, h_count]
      rfl
    · intro stats h_stats
      obtain rfl := Option.some.inj h_stats
      exact h_fits

/-- The results of one payer's calls are those of the limiter. -/
theorem rateOutcomes_results (h_store : ∀ stats ∈ s p, stats.Fits config)
    (h_payer : ∀ c ∈ cs, c.payer = p)
    (h_fits : ∀ c ∈ cs, c.time.toNat + config.windowDuration.toNat < 2 ^ 64) :
    (rateOutcomes config s cs).map (fun o => (o.1.time.toNat, o.2)) =
      results config.maxPerWindow.toNat config.windowDuration.toNat
        ((s p).map PayerStats.window) (cs.map (·.time.toNat)) := by
  induction cs generalizing s with
  | nil => rfl
  | cons c cs ih =>
      obtain ⟨h_c, h_payer⟩ := List.forall_mem_cons.mp h_payer
      obtain ⟨h_t, h_fits⟩ := List.forall_mem_cons.mp h_fits
      subst h_c
      -- one step of the code is one of the limiter, and the stored window fits again
      obtain ⟨h_enter, h_next_fits⟩ := nextStats_enter h_t h_store
      rw [List.map_cons, results, ← h_enter]
      cases h_next : nextStats config c.time (s c.payer) with
      | some stats =>
          have h_written : writePayerStats s c.payer stats c.payer = some stats :=
            Function.update_self _ _ _
          rw [rateOutcomes_cons_some h_next, List.map_cons, Option.map_some]
          rw [h_next] at h_next_fits
          have h_rest := ih (s := writePayerStats s c.payer stats)
            (by rw [h_written]; exact h_next_fits)
            h_payer h_fits
          rw [h_rest, h_written]
          rfl
      | none =>
          rw [rateOutcomes_cons_none h_next, List.map_cons, ih h_store h_payer h_fits]
          rfl

end Limiter

/-! ## Every payer -/

/-- How many of a payer's calls returned `Ok` at times that satisfy `q`. -/
def okCount (p : Address) (q : Nat → Bool) (os : List (RateCheck Address × Bool)) : Nat :=
  os.countP fun o => o.1.payer = p ∧ o.2 = true ∧ q o.1.time.toNat

theorem okCount_eq (p : Address) (q : Nat → Bool) (os : List (RateCheck Address × Bool)) :
    okCount p q os =
      (admitted ((os.filter (·.1.payer = p)).map fun o => (o.1.time.toNat, o.2))).countP q := by
  rw [okCount, admitted, List.countP_map, List.countP_filter, List.countP_map, List.countP_filter]
  apply List.countP_congr
  intro o _
  simp only [Function.comp_apply, decide_eq_true_eq, Bool.and_eq_true]
  tauto

/-- The results of one payer's calls, in any mix of calls. -/
theorem rateOutcomes_payer (p : Address)
    (h_fits : ∀ c ∈ cs, c.time.toNat + config.windowDuration.toNat < 2 ^ 64) :
    ((rateOutcomes config (fun _ => none) cs).filter (·.1.payer = p)).map
        (fun o => (o.1.time.toNat, o.2)) =
      results config.maxPerWindow.toNat config.windowDuration.toNat none
        ((cs.filter (·.payer = p)).map (·.time.toNat)) := by
  have h_own : (rateOutcomes config (fun _ => none) cs).filter (·.1.payer = p) =
      rateOutcomes config (fun _ => none) (cs.filter (·.payer = p)) := rateOutcomes_filter rfl cs
  rw [h_own]
  apply rateOutcomes_results
  · simp
  · intro c h_c
    exact of_decide_eq_true (List.mem_filter.mp h_c).2
  · intro c h_c
    exact h_fits c (List.mem_filter.mp h_c).1

/-- **The rate limiter bounds bursts and never rejects without cause.**  With no statistics stored,
    and calls at non-decreasing times away from the end of the clock: a payer has at most twice the
    limit of successful calls in any half-open interval of the window's length; a call is rejected
    only if the limit of that payer's earlier calls was accepted less than the window's length
    before; and the results of one payer are those without the others. -/
theorem rate_limit_bounds (config : RateLimitConfig) (h_window : 0 < config.windowDuration)
    (calls : List (RateCheck Address)) (h_order : calls.Pairwise fun c c' => c.time ≤ c'.time)
    (h_fits : ∀ c ∈ calls, c.time.toNat + config.windowDuration.toNat < 2 ^ 64) :
    (∀ (p : Address) (s : Nat),
      okCount p (fun t => s ≤ t ∧ t < s + config.windowDuration.toNat)
        (rateOutcomes config (fun _ => none) calls) ≤ 2 * config.maxPerWindow.toNat) ∧
    (∀ pre c post, rateOutcomes config (fun _ => none) calls = pre ++ (c, false) :: post →
      config.maxPerWindow.toNat ≤ okCount c.payer
        (fun t => c.time.toNat < t + config.windowDuration.toNat ∧ t ≤ c.time.toNat) pre) ∧
    (∀ p : Address, (rateOutcomes config (fun _ => none) calls).filter (·.1.payer = p) =
      rateOutcomes config (fun _ => none) (calls.filter (·.payer = p))) := by
  have h_d : 0 < config.windowDuration.toNat := UInt64.lt_iff_toNat_lt.mp h_window
  have h_none :
      FixedWindow.Kept config.maxPerWindow.toNat config.windowDuration.toNat [] none := rfl
  have h_past (ts : List Nat) : ∀ x ∈ ([] : List Nat), ∀ u ∈ ts, x ≤ u := by simp
  have h_sorted (p : Address) :
      ((calls.filter (·.payer = p)).map (·.time.toNat)).Pairwise (· ≤ ·) := by
    rw [List.pairwise_map]
    exact (h_order.filter _).imp UInt64.le_iff_toNat_le.mp
  refine ⟨fun p s => ?_, fun pre c post h_at => ?_, fun p => rateOutcomes_filter rfl calls⟩
  · rw [okCount_eq, rateOutcomes_payer p h_fits]
    exact h_none.results_countIn h_d (h_past _) (h_sorted p) s
  · have h_payer := rateOutcomes_payer c.payer h_fits
    rw [h_at, List.filter_append, List.filter_cons_of_pos (by simp), List.map_append,
      List.map_cons] at h_payer
    rw [okCount_eq]
    exact h_none.results_refused h_d (h_past _) (h_sorted c.payer) h_payer.symm

namespace Sample

/-- Two calls in each window of 10 seconds. -/
def rateConfig : RateLimitConfig := ⟨2, 10⟩

/-- The payer at 1 calls at 8, 9, 9, 18 and 19, the payer at 2 at 9. -/
def rateChecks : List (RateCheck Nat) :=
  [⟨8, 1⟩, ⟨9, 1⟩, ⟨9, 2⟩, ⟨9, 1⟩, ⟨18, 1⟩, ⟨19, 1⟩]

end Sample

theorem rate_limit_bounds_twoPayers :
    let os := rateOutcomes Sample.rateConfig (fun _ => none) Sample.rateChecks
    (∀ p s : Nat, okCount p (fun t => s ≤ t ∧ t < s + 10) os ≤ 2 * 2) ∧
    (∀ pre c post, os = pre ++ (c, false) :: post →
      2 ≤ okCount c.payer (fun t => c.time.toNat < t + 10 ∧ t ≤ c.time.toNat) pre) ∧
    (∀ p : Nat, os.filter (·.1.payer = p) =
      rateOutcomes Sample.rateConfig (fun _ => none) (Sample.rateChecks.filter (·.payer = p))) :=
  rate_limit_bounds Sample.rateConfig (by decide) Sample.rateChecks (by decide) (by decide)

/-- The third call of the first window is rejected, and the window is over at 18. -/
example : (rateOutcomes Sample.rateConfig (fun _ => none) Sample.rateChecks).map (·.2) =
    [true, true, true, false, true, true] := by decide

end StarEscrow.Escrow
