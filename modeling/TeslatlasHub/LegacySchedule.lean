import TeslatlasHub.LegacyRestart
import TeslatlasHub.TextScan

namespace TeslatlasHub.Credentials

def lifetimeFallbackSeconds : ℤ := 28800

def scheduleCeilingSeconds : ℤ := 86400

def minStoredSpanSeconds : ℤ := 2

def shortLifetimeSeconds : ℤ := 120

def skewAllowanceSeconds : ℤ := 300

def dueGapSeconds : ℤ := scheduleCeilingSeconds+skewAllowanceSeconds

inductive ExpiresIn where
  | unsigned (seconds : ℕ)
  | text (value : List Char)
  | other
  deriving DecidableEq

def expiresInSeconds (value : ExpiresIn) : Option ℤ :=
  let seconds : Option ℤ := match value with
    | .unsigned seconds => some seconds
    | .text text =>
      if text.isEmpty || !text.all Char.isDigit then none else some (TextScan.digitsToNat text)
    | .other => none
  seconds.filter fun s => decide (1 ≤ s)

structure Schedule where
  (usableUntil expiresAt nextRefreshAt : ℤ)
  deriving DecidableEq

namespace Schedule

def isShort (schedule : Schedule) (tS : ℤ) : Bool :=
  decide (schedule.usableUntil-tS < shortLifetimeSeconds)

def ofUsable (tS usableUntil : ℤ) : Schedule :=
  let expiresAt := max usableUntil (tS+minStoredSpanSeconds)
  { usableUntil, expiresAt, nextRefreshAt := expiresAt-max ((expiresAt-tS)/4) 1 }

theorem ofUsable_ordered {tS u : ℤ} (hu : u ≤ tS+scheduleCeilingSeconds) :
    tS < (ofUsable tS u).nextRefreshAt ∧ (ofUsable tS u).nextRefreshAt < (ofUsable tS u).expiresAt ∧
    (ofUsable tS u).expiresAt ≤ tS+scheduleCeilingSeconds ∧ (ofUsable tS u).usableUntil ≤
    (ofUsable tS u).expiresAt := by
  unfold ofUsable minStoredSpanSeconds
  unfold scheduleCeilingSeconds at *
  dsimp only
  omega

end Schedule

open FixedWidth

def refreshedFormDue (expiresAt nextRefreshAt now : ℤ) : Bool :=
  decide (nextRefreshAt ≤ now) || decide (saturatingAdd now dueGapSeconds < expiresAt)

namespace Schedule

def lifetimeSecondsI64 (expiresIn : Option ExpiresIn) (jwtExp : Option ℤ) (tS : ℤ) : ℤ :=
  match expiresIn.bind expiresInSeconds, jwtExp with
  | some seconds, _ => min seconds i64Max
  | none, some exp => saturatingSub (saturatingSub exp skewAllowanceSeconds) tS
  | none, none => lifetimeFallbackSeconds

/-- The schedule of a successor whose request was sent at `tS`; `exp` is the one its access token
shows and `none` is an overflow. -/
def afterSendI64 (tS : ℤ) (expiresIn : Option ExpiresIn) (exp : Option ℤ) : Option Schedule := do
  let lifetime := min (lifetimeSecondsI64 expiresIn exp tS) scheduleCeilingSeconds
  let sent := saturatingAdd tS lifetime
  let usableUntil := exp.elim sent fun exp => min sent (saturatingSub exp skewAllowanceSeconds)
  let expiresAt := max usableUntil (saturatingAdd tS minStoredSpanSeconds)
  let span ← checkedI64 (expiresAt-tS)
  let nextRefreshAt ← checkedI64 (expiresAt-max (span.tdiv 4) 1)
  return { usableUntil, expiresAt, nextRefreshAt }

def refreshedFormDueI64 (schedule : Schedule) (now : ℤ) : Bool :=
  refreshedFormDue schedule.expiresAt schedule.nextRefreshAt now

variable {tS : ℤ}

theorem afterSendI64_eq (hmin : 0 ≤ tS) (hmax : tS+minStoredSpanSeconds ≤ i64Max)
    (expiresIn : Option ExpiresIn) (exp : Option ℤ) :
    ∃ usableUntil ≤ tS+scheduleCeilingSeconds, usableUntil ≤ i64Max ∧ afterSendI64 tS expiresIn
    exp = some (ofUsable tS usableUntil) := by
  have hceiling := min_le_right (lifetimeSecondsI64 expiresIn exp tS) scheduleCeilingSeconds
  unfold afterSendI64
  dsimp only
  generalize min (lifetimeSecondsI64 expiresIn exp tS) scheduleCeilingSeconds =
    lifetime at hceiling ⊢
  have hsent : saturatingAdd tS lifetime ≤ tS+scheduleCeilingSeconds := by
    unfold saturatingAdd clampI64 i64Min i64Max scheduleCeilingSeconds at *
    split_ifs <;> omega
  have husable : exp.elim (saturatingAdd tS lifetime)
      (fun exp => min (saturatingAdd tS lifetime) (saturatingSub exp skewAllowanceSeconds)) ≤
        saturatingAdd tS lifetime := by
    cases exp with
    | none => exact le_refl _
    | some exp => exact min_le_left _ _
  have hmost := husable.trans (clampI64_range (tS+lifetime)).2
  refine ⟨_, husable.trans hsent, hmost, ?_⟩
  have hstored : saturatingAdd tS minStoredSpanSeconds = tS+minStoredSpanSeconds :=
    clampI64_eq (by unfold minStoredSpanSeconds i64Min; omega) hmax
  have hchecked {x : ℤ} (hx : 0 ≤ x) (hx' : x ≤ i64Max) : checkedI64 x = some x :=
    if_pos ⟨by unfold i64Min; omega, hx'⟩
  generalize exp.elim (saturatingAdd tS lifetime) _ = u at hmost ⊢
  unfold ofUsable
  rw [hstored]
  unfold minStoredSpanSeconds at *
  have hspan := @hchecked (max u (tS+2)-tS) (by omega) (by omega)
  have hnext := @hchecked (max u (tS+2)-max ((max u (tS+2)-tS)/4) 1) (by omega) (by omega)
  rw [hspan]
  change (checkedI64 (max u (tS+2)-max ((max u (tS+2)-tS).tdiv 4) 1) >>= _) = _
  rw [Int.tdiv_eq_ediv_of_nonneg (by omega), hnext]
  rfl

/-- Every answer gives an ordered schedule within a day of its send, which is due exactly from its
refresh time on. -/
theorem schedule_is_due_exactly_from_its_refresh (tS : ℤ) (hclock : clockIsValid tS = true)
    (htop : tS+minStoredSpanSeconds ≤ i64Max) (expiresIn : Option ExpiresIn) (exp : Option I64) :
    ∃ schedule, afterSendI64 tS expiresIn (exp.map (·.1)) = some schedule ∧
      tS < schedule.nextRefreshAt ∧ schedule.nextRefreshAt < schedule.expiresAt ∧
      schedule.expiresAt ≤ tS+scheduleCeilingSeconds ∧ schedule.usableUntil ≤ schedule.expiresAt ∧
      ∀ now : I64, tS-skewAllowanceSeconds ≤ now.1 →
        (schedule.refreshedFormDueI64 now.1 = true ↔ schedule.nextRefreshAt ≤ now.1) := by
  have hfloor : 0 ≤ tS := le_trans (by decide) (of_decide_eq_true hclock)
  obtain ⟨u, hu, hmost, heq⟩ := afterSendI64_eq hfloor htop expiresIn (exp.map (·.1))
  obtain ⟨hnext, hlead, hexpires, husable⟩ := ofUsable_ordered hu
  refine ⟨_, heq, hnext, hlead, hexpires, husable, fun now hnow => ?_⟩
  have hrange : (ofUsable tS u).expiresAt ≤ i64Max := max_le hmost htop
  -- the gap rule never applies: the expiry is at most the ceiling and the allowance ahead
  have hgap : ¬saturatingAdd now.1 dueGapSeconds < (ofUsable tS u).expiresAt := by
    unfold saturatingAdd clampI64 dueGapSeconds
    unfold scheduleCeilingSeconds skewAllowanceSeconds at *
    split_ifs <;> omega
  unfold refreshedFormDueI64 refreshedFormDue
  rw [Bool.or_eq_true, decide_eq_true_eq, decide_eq_true_eq]
  exact or_iff_left hgap

theorem schedule_is_due_exactly_from_its_refresh_zero :
    ∃ schedule, afterSendI64 1700000000 (some (.text ['0'])) (some 0) = some schedule ∧
      1700000000 < schedule.nextRefreshAt := by
  obtain ⟨schedule, heq, hnext, -⟩ := schedule_is_due_exactly_from_its_refresh 1700000000
      (by decide) (by decide)
    (some (.text ['0'])) (some ⟨0, by decide⟩)
  exact ⟨schedule, heq, hnext⟩

/-- At the very end of `i64` the stored span saturates, and the refresh is put before the send. -/
theorem schedule_of_the_last_second :
    clockIsValid i64Max = true ∧ (afterSendI64 i64Max none none).any
    (fun schedule => schedule.nextRefreshAt < i64Max) = true := by
  decide

end Schedule

def retryBaseSeconds : ℤ := minRefreshIntervalSeconds
def retryCapSeconds : ℤ := 300
def retryStepLimit : ℕ := 3
def retryAfterMinSeconds : ℤ := 60
def retryAfterMaxSeconds : ℤ := 3600
def slowRetrySeconds : ℤ := 3600
def clientCheckSeconds : ℤ := 60

def clientRefusalLimit : ℕ := 2

inductive RetryPlan where
  | backoff
  | retryAfter (seconds : ℤ)
  | slow
  | clientCheck
  deriving DecidableEq

def retrySpread (base : ℤ) (spreadUnit : Option ℚ) : ℤ :=
  let unit : ℚ := max 0 (min 1 (spreadUnit.getD 0))
  ⌊(base : ℚ)*10/100*unit⌋

def retryDelay (plan : RetryPlan) (step : ℕ) (spreadUnit : Option ℚ) : ℤ × ℕ :=
  match plan with
  | .backoff =>
    let step := min step retryStepLimit
    let base := min (retryBaseSeconds*2^step) retryCapSeconds
    (base+retrySpread base spreadUnit, min (step+1) retryStepLimit)
  | .retryAfter seconds =>
    (min (max seconds retryAfterMinSeconds) retryAfterMaxSeconds, min (step+1) retryStepLimit)
  | .slow => (slowRetrySeconds, step)
  | .clientCheck => (clientCheckSeconds, step)

def planForReason : RetryReason → RetryPlan
  | .refreshRequestRejected | .tokenEndpointMisrouted => .slow
  | .clientCheck => .clientCheck
  | .network | .sensitiveAccess | .teslaUnavailable | .refreshBlocked | .shortTokenLifetime
      | .clockSkew
  | .refreshNotRenewed | .storeUnavailable => .backoff

theorem retrySpread_nonneg {base : ℤ} (h : 0 ≤ base) (spreadUnit : Option ℚ) :
    0 ≤ retrySpread base spreadUnit := by
  have hbase : (0 : ℚ) ≤ (base : ℚ)*10/100 := by positivity
  exact Int.floor_nonneg.mpr (mul_nonneg hbase (le_max_left _ _))

theorem retryDelay_ge (plan : RetryPlan) (step : ℕ) (spreadUnit : Option ℚ) :
    minRefreshIntervalSeconds ≤ (retryDelay plan step spreadUnit).1 := by
  cases plan with
  | backoff =>
    have hpow : (1 : ℤ) ≤ 2^(min step retryStepLimit) := one_le_pow₀ (by norm_num)
    have hbase : minRefreshIntervalSeconds ≤ min (retryBaseSeconds*2^(min step retryStepLimit))
        retryCapSeconds := by
      unfold retryBaseSeconds retryCapSeconds minRefreshIntervalSeconds
      omega
    have hspread := retrySpread_nonneg
      ((by unfold minRefreshIntervalSeconds; norm_num : (0 : ℤ) ≤ minRefreshIntervalSeconds).trans
        hbase)
      spreadUnit
    exact hbase.trans (le_add_of_nonneg_right hspread)
  | retryAfter seconds => exact le_min (le_max_right _ _) (by decide)
  | slow => exact (by decide : minRefreshIntervalSeconds ≤ slowRetrySeconds)
  | clientCheck => exact le_refl _

end TeslatlasHub.Credentials
