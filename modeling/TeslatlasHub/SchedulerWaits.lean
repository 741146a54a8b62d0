import TeslatlasHub.RunRules
import TeslatlasHub.SchedulerFrames

namespace TeslatlasHub.Collector

open VehicleScheduler

/-! ### What an event may do to the account's one wait -/

def WaitEnds (w w' : Option (Instant × WaitReason)) : Prop :=
  w' = w ∨ w' = none ∧ ∀ u, w ≠ some (u, .rateLimited)

theorem WaitEnds.refl (w : Option (Instant × WaitReason)) : WaitEnds w w := .inl rfl

variable {w w' w'' : Option (Instant × WaitReason)} {u : Instant} {b : AccountRecord}
  {mode : CollectorMode}

theorem WaitEnds.trans (h : WaitEnds w w') (h' : WaitEnds w' w'') : WaitEnds w w'' := by
  rcases h with rfl | ⟨rfl, hw⟩
  · exact h'
  · rcases h' with rfl | ⟨rfl, _⟩ <;> exact .inr ⟨rfl, hw⟩

theorem WaitEnds.keeps_rateLimited (h : WaitEnds w w') (hw : w = some (u, .rateLimited)) :
    w' = some (u, .rateLimited) := by
  rcases h with rfl | ⟨_, hne⟩
  · exact hw
  · exact absurd hw (hne u)

namespace AccountRecord

variable (a : AccountRecord)

theorem endWait_ends {r : WaitReason} (hr : r ≠ .rateLimited) :
    WaitEnds a.wait (a.endWait r).wait := by
  unfold endWait
  split_ifs with h
  · refine .inr ⟨rfl, fun u hu => ?_⟩
    rw [hu] at h
    simp only [Option.any_some, decide_eq_true_eq] at h
    exact hr h.symm
  · exact .inl rfl

theorem noteAnswered_ends : WaitEnds a.wait a.noteAnswered.wait := by
  unfold noteAnswered
  split
  · exact WaitEnds.refl _
  · exact endWait_ends _ (by decide)

theorem noteSuccess_ends : WaitEnds a.wait a.noteSuccess.wait :=
    WaitEnds.trans (noteAnswered_ends a)
    (endWait_ends { a.noteAnswered with consecutive429 := 0, authFailures := 0 } (by decide))

theorem endAuthWait_ends (now : Instant) : WaitEnds a.wait (a.endAuthWait now).wait := by
  have h := endWait_ends a (by decide : WaitReason.authWait ≠ .rateLimited)
  unfold endWait at h
  unfold endAuthWait
  split_ifs with ha
  · rw [if_pos ha] at h
    exact h
  · exact WaitEnds.refl _

theorem storeRecovered_ends : WaitEnds a.wait a.storeRecovered.wait := by
  unfold storeRecovered
  split
  · exact WaitEnds.refl _
  · exact endWait_ends _ (by decide)

/-! The functions that move the account between its states leave its wait alone. -/

variable (wallMs : ℤ)

@[simp]
theorem enterCredentialStop_wait : (a.enterCredentialStop wallMs).wait = a.wait := by
  unfold enterCredentialStop; split <;> rfl

@[simp]
theorem enterFleetRefreshStopAtStart_wait :
    (a.enterFleetRefreshStopAtStart wallMs).wait = a.wait := by
  unfold enterFleetRefreshStopAtStart; split <;> rfl

@[simp]
theorem clearCredentialStop_wait (now : Instant) (wallMs : ℤ) :
    (a.clearCredentialStop now wallMs).wait = a.wait := by
  unfold clearCredentialStop; split <;> rfl

@[simp]
theorem enterAccountState_wait (state : AccountState) (reason : Reason) (now : Instant)
    (wallMs : ℤ) : (a.enterAccountState state reason now wallMs).wait = a.wait := by
  unfold enterAccountState; repeat' split
  all_goals rfl

@[simp]
theorem resumeFromBilling_wait : (a.resumeFromBilling wallMs).wait = a.wait := by
  unfold resumeFromBilling; split <;> rfl

@[simp]
theorem noteNewMonth_wait (now : Instant) : (a.noteNewMonth now).wait = a.wait := by
  unfold noteNewMonth; split <;> rfl

@[simp]
theorem enterCapReached_wait : (a.enterCapReached wallMs).wait = a.wait := by
  unfold enterCapReached; split <;> rfl

theorem Answered.ends {a : AccountRecord} (h : a.Answered b) : WaitEnds a.wait b.wait := by
  cases h with
  | silent => exact WaitEnds.refl _
  | answer => exact noteAnswered_ends a
  | success => exact noteSuccess_ends a
  | ready now => exact endAuthWait_ends a now

end AccountRecord

/-- Where no request failed and the owner retries nothing, the moves of an input leave the wait as
it is. -/
theorem AccountMove.wait_eq {i : Input} {a : AccountRecord} (h : AccountMove mode i a b)
    (hfailed : i.failure = none) (hretry : i.retriesCollection = false) : b.wait = a.wait := by
  cases h with
  | keep _ hwait => exact hwait hfailed
  | retry hretries => rw [hretry] at hretries; cases hretries
  | leaveCap _ => rfl
  | armProbe _ => rfl
  | _ => simp

namespace VehicleScheduler

variable (s : VehicleScheduler)

theorem moves_wait_eq {s s' : VehicleScheduler} {i : Input} {a : AccountRecord}
    (h : Relation.ReflTransGen (AccountMove s.mode i) a s'.account) (hfailed : i.failure = none)
    (hretry : i.retriesCollection = false) : s'.account.wait = a.wait := by
  generalize s'.account = b at h ⊢
  induction h with
  | refl => rfl
  | tail _ hmove ih => exact (hmove.wait_eq hfailed hretry).trans ih

theorem Lasts.wait_eq {s s' : VehicleScheduler} (h : Lasts .clock s s') :
    s'.account.wait = s.account.wait :=
  moves_wait_eq h.account rfl rfl

/-- An input without a failure ends waits at most, and never a rate-limit wait. -/
theorem react_ends (m : Moment) (i : Input) (hfailed : i.failure = none)
    (hretry : i.retriesCollection = false) :
    WaitEnds s.account.wait (s.react m i).account.wait := by
  by_cases hi : i = .beginTick
  · rw [hi]
    exact .refl _
  · obtain ⟨a, hanswered, hmoves⟩ := (s.react_moves m i hi).account
    rw [moves_wait_eq hmoves hfailed hretry]
    exact hanswered.ends

theorem commitSucceeded_ends (tick : PendingTick) (now : Instant) :
    WaitEnds s.account.wait (s.commitSucceeded tick now).account.wait :=
  AccountRecord.storeRecovered_ends { s.account with probeTimeOfTheTick := none }

/-- The end of the wait that a failure of the account's asks for, if its reason is not a 429. -/
def askedWait (cls : ErrorClass) (error : CollectorError) (m : Moment) : Option Instant :=
  let backoff (failures : ℕ) : Duration := backoffDelay (failures+1) s.timing.maxBackoff
      (s.jitter 0)
  match cls with
  | .unreachable => some (deadlineAfter m.now (backoff s.account.consecutiveUnreachable))
  | .auth | .authWait =>
    let credentialRetry :=
      match error with
      | .fleetCredential error => fleetRefreshRetryDelay error
      | error => legacyAuthRetryAfter error (s.wallOrLast m)
    some (deadlineAfter m.now (credentialRetry.getD (backoff s.account.authFailures)))
  | _ => none

/-- What the credential unit says of a failed list or read comes before the failure's class. -/
def failedWait (error : CollectorError) (request : RequestKind) (m : Moment) : Option Instant :=
  match if request = .list || request = .read then credentialOutcomeFor error (s.wallOrLast m)
    else none with
  | some (.authUnavailable retryAfter) => some (deadlineAfter m.now retryAfter)
  | some _ => none
  | none => s.askedWait (classify error request s.mode) error m

end VehicleScheduler

namespace AccountRecord

variable {a : AccountRecord} {now : Instant}

def LimitedUntil (a : AccountRecord) (u : Instant) : Prop :=
  ∃ u', a.wait = some (u', .rateLimited) ∧ u ≤ u'

theorem limitedUntil_of_wait (h : a.wait = some (u, .rateLimited)) : a.LimitedUntil u :=
  ⟨u, h, le_refl u⟩

theorem extendWait_shorter {u' : Instant} (h : a.wait = some (u, .rateLimited)) (hle : u' ≤ u)
    (r : WaitReason) : (a.extendWait u' r).wait = some (u, .rateLimited) := by
  unfold extendWait
  rw [h]
  dsimp only
  rw [if_pos hle, h]

theorem extendWait_rateLimited (h : ∀ w ∈ a.wait, w.2 ≠ .rateLimited → w.1 < u) :
    (a.extendWait u .rateLimited).LimitedUntil u := by
  unfold extendWait
  cases hwait : a.wait with
  | none => exact ⟨u, rfl, le_refl u⟩
  | some w =>
    obtain ⟨current, reason⟩ := w
    dsimp only
    split_ifs with hle
    · have hr : reason = .rateLimited := by
        by_contra hne
        exact absurd (h _ hwait hne) (Nat.not_lt.mpr hle)
      exact ⟨current, hr ▸ hwait, hle⟩
    · exact ⟨u, rfl, le_refl u⟩

theorem rateLimited_limitedUntil (t : Timing) (seconds : ℕ) (j : ℚ)
    (h : a.wait = some (u, .rateLimited)) : (a.rateLimited t seconds j now).LimitedUntil u := by
  unfold rateLimited
  dsimp only
  generalize (if a.waitRunning .rateLimited now then a.consecutive429 else a.consecutive429+1) =
    count
  unfold extendWait
  dsimp only
  split
  · rename_i hwait
    cases h.symm.trans hwait
    split_ifs with hle
    · exact ⟨u, h, le_refl u⟩
    · exact ⟨_, rfl, Nat.le_of_not_le hle⟩
  · rename_i hwait
    cases h.symm.trans hwait

theorem unreachable_shorter (t : Timing) (j : ℚ) (h : a.wait = some (u, .rateLimited))
    (hle : deadlineAfter now (backoffDelay (a.consecutiveUnreachable+1) t.maxBackoff j) ≤ u) :
    (a.unreachable t j now).wait = some (u, .rateLimited) := by
  unfold unreachable
  split
  · exact h
  · exact extendWait_shorter (a := { a with consecutiveUnreachable := a.consecutiveUnreachable+1 })
      h hle _

theorem authFailed_shorter (t : Timing) (retry : Option Duration) (j : ℚ)
    (h : a.wait = some (u, .rateLimited))
    (hle : deadlineAfter now (retry.getD (backoffDelay (a.authFailures+1) t.maxBackoff j)) ≤ u) :
    (a.authFailed t retry j now).wait = some (u, .rateLimited) := by
  unfold authFailed
  split
  · exact h
  · exact extendWait_shorter (a := { a with authFailures := a.authFailures+1 }) h hle _

end AccountRecord

namespace VehicleScheduler

variable {s : VehicleScheduler} {cls : ErrorClass} {error : CollectorError} {m : Moment}
  {id : VehicleId}

theorem accountFailed_limitedUntil (hwait : s.account.wait = some (u, .rateLimited))
    (hasked : ∀ x ∈ s.askedWait cls error m, x ≤ u) :
    (s.accountFailed cls error m).1.account.LimitedUntil u := by
  have hkept {b : AccountRecord} (hb : b.wait = s.account.wait) : b.LimitedUntil u :=
    AccountRecord.limitedUntil_of_wait (hb.trans hwait)
  unfold accountFailed
  cases cls with
  | rateLimited => exact AccountRecord.rateLimited_limitedUntil _ _ _ hwait
  | unreachable =>
    exact AccountRecord.limitedUntil_of_wait (AccountRecord.unreachable_shorter _ _ hwait
      (hasked _ rfl))
  | auth | authWait =>
    exact AccountRecord.limitedUntil_of_wait (AccountRecord.authFailed_shorter _ _ _ hwait
      (hasked _ rfl))
  | credentialStop => exact hkept (AccountRecord.enterCredentialStop_wait ..)
  | ownerApiRefusal | providerRefusal | fleetAccess | billing | config | locked =>
    exact hkept (AccountRecord.enterAccountState_wait ..)
  | _ => exact hkept rfl

theorem askedWait_answered (c : Prop) [Decidable c] (hc : cls = .unreachable → c) :
    (if c then s else s.noteAnswered).askedWait cls error m = s.askedWait cls error m := by
  have hfailures : s.account.noteAnswered.authFailures = s.account.authFailures := by
    unfold AccountRecord.noteAnswered AccountRecord.endWait
    repeat' split
    all_goals rfl
  split_ifs with h
  · rfl
  · cases cls with
    | unreachable => exact absurd (hc rfl) h
    | auth | authWait =>
      unfold askedWait noteAnswered
      dsimp only
      rw [hfailures]
      rfl
    | _ => rfl

/-- The failure of a request in the account's own classes, once its answer is noted. -/
theorem answered_limitedUntil (c : Prop) [Decidable c] (hc : cls = .unreachable → c)
    (hwait : s.account.wait = some (u, .rateLimited))
    (hasked : ∀ x ∈ s.askedWait cls error m, x ≤ u) :
    ((if c then s else s.noteAnswered).accountFailed cls error m).1.account.LimitedUntil u := by
  rw [← askedWait_answered c hc] at hasked
  refine accountFailed_limitedUntil ?_ hasked
  split
  · exact hwait
  · exact s.account.noteAnswered_ends.keeps_rateLimited hwait

theorem Lasts.limitedUntil {s' : VehicleScheduler} (h : Lasts .clock s s')
    (hs : s.account.LimitedUntil u) : s'.account.LimitedUntil u := by
  unfold AccountRecord.LimitedUntil
  rw [h.wait_eq]
  exact hs

theorem credentialOutcome_limitedUntil (id : Option VehicleId) {outcome : CredentialOutcome}
    (hwait : s.account.wait = some (u, .rateLimited))
    (hasked : ∀ retryAfter, outcome = .authUnavailable retryAfter →
    deadlineAfter m.now retryAfter ≤ u) :
    (s.credentialOutcome id outcome m).1.account.LimitedUntil u := by
  have hanswered : s.noteAnswered.account.LimitedUntil u :=
    AccountRecord.limitedUntil_of_wait (s.account.noteAnswered_ends.keeps_rateLimited hwait)
  have hrelease {s' : VehicleScheduler} (h : s'.account.LimitedUntil u) (cls : ErrorClass) :
      (id.elim s' (s'.releaseAfterAccountFailure · cls m)).account.LimitedUntil u := by
    cases id <;> exact h
  cases outcome with
  | authUnavailable retryAfter =>
    exact hrelease (AccountRecord.limitedUntil_of_wait
      (AccountRecord.authFailed_shorter _ (some retryAfter) _ hwait (hasked _ rfl))) _
  | ownerApiRefused refusal => exact hrelease ((enterRefusal_lasts ..).limitedUntil hanswered) _
  | vehicleAccessRejected =>
    cases id with
    | none => exact hanswered
    | some id => exact (vehicleClassFailure_lasts ..).limitedUntil hanswered
  | terminalStop =>
    exact hrelease (AccountRecord.limitedUntil_of_wait
      ((AccountRecord.enterCredentialStop_wait ..).trans hwait)) _

variable {request : RequestKind}

theorem credential_of_failedWait (hasked : ∀ x ∈ s.failedWait error request m, x ≤ u)
    (hrequest : request = .list ∨ request = .read) {outcome : CredentialOutcome}
    (h : credentialOutcomeFor error (s.wallOrLast m) = some outcome) (retryAfter : Duration)
    (houtcome : outcome = .authUnavailable retryAfter) : deadlineAfter m.now retryAfter ≤ u := by
  subst houtcome
  refine hasked _ ?_
  unfold failedWait
  rw [if_pos (by simpa using hrequest), h]
  rfl

theorem asked_of_failedWait (hasked : ∀ x ∈ s.failedWait error request m, x ≤ u)
    (h
    :
    (if request = .list || request = .read then credentialOutcomeFor error
    (s.wallOrLast m) else none) = none) :
    ∀ x ∈ s.askedWait (classify error request s.mode) error m, x ≤ u := by
  unfold failedWait at hasked
  rw [h] at hasked
  exact hasked

theorem discoveryFailed_limitedUntil (hwait : s.account.wait = some (u, .rateLimited))
    (hasked : ∀ x ∈ s.failedWait error .list m, x ≤ u) :
    (s.discoveryFailedForError error m).1.account.LimitedUntil u := by
  unfold discoveryFailedForError
  dsimp only
  rw [apply_ite Prod.fst, ite_self]
  split
  · rename_i heq
    exact credentialOutcome_limitedUntil none hwait (credential_of_failedWait hasked (.inl rfl) heq)
  · rename_i hnone
    have h := answered_limitedUntil (classify error .list s.mode = .unreachable) id hwait
      (asked_of_failedWait hasked hnone)
    split <;> (rename_i heq; rw [heq] at h; exact h)

theorem vehicleFailed_limitedUntil (hwait : s.account.wait = some (u, .rateLimited))
    (hasked : ∀ x ∈ s.failedWait error .read m, x ≤ u) :
    (s.vehicleFailedForError id error m).1.account.LimitedUntil u := by
  unfold vehicleFailedForError
  split
  · rename_i heq
    exact credentialOutcome_limitedUntil (some id) hwait (credential_of_failedWait hasked (.inr rfl)
      heq)
  rename_i hnone
  dsimp only
  split
  · exact AccountRecord.limitedUntil_of_wait hwait
  have h := answered_limitedUntil (classify error .read s.mode = .unreachable) (fun hc => hc) hwait
    (asked_of_failedWait hasked hnone)
  split <;> (rename_i heq; rw [heq] at h)
  · exact h
  · exact ((checkRefusal_lasts ..).trans (vehicleClassFailure_lasts ..)).limitedUntil h

theorem recordFailed_limitedUntil (hwait : s.account.wait = some (u, .rateLimited))
    (hasked : ∀ x ∈ s.failedWait error .record m, x ≤ u) :
    (s.offlineStateFailedForError id error m).account.LimitedUntil u := by
  have h := answered_limitedUntil
    ((classify error .record s.mode = .unreachable || classify error .record s.mode =
      .gateNotConfirmed))
    (fun hc => by simp [hc]) hwait (asked_of_failedWait hasked rfl)
  unfold offlineStateFailedForError
  dsimp only
  split <;> (rename_i failed heq; rw [heq] at h)
  · exact h
  · have hended {s' : VehicleScheduler} (h' : Lasts .clock (failed.checkRefusal error m.now) s') :
        (s'.modifyCar id (·.endHeldCheck)).account.LimitedUntil u :=
      ((checkRefusal_lasts failed error m.now).trans h').limitedUntil h
    split
    · exact hended (vehicleNotFound_lasts ..)
    · exact hended (pauseVehicle_lasts _ id .mobileAccessDisabled _ m)
    · exact hended (pauseVehicle_lasts _ id .legalPrivacy _ m)
    · exact hended (pauseVehicle_lasts _ id .accessRefused _ m)
    all_goals exact hended (.same rfl rfl)

theorem probeFailed_limitedUntil (hwait : s.account.wait = some (u, .rateLimited))
    (hasked : ∀ x ∈ s.failedWait error .probe m, x ≤ u) :
    (s.probeFailed id error m).1.account.LimitedUntil u := by
  have h := answered_limitedUntil (classify error .probe s.mode = .unreachable) (fun hc => hc) hwait
    (asked_of_failedWait hasked rfl)
  unfold probeFailed
  dsimp only
  split <;> (rename_i failed heq; rw [heq] at h)
  · exact h
  · have hchecked := (checkRefusal_lasts failed error m.now).limitedUntil h
    split
    · exact (pauseVehicle_lasts _ id .mobileAccessDisabled _ m).limitedUntil hchecked
    · exact (pauseVehicle_lasts _ id .legalPrivacy _ m).limitedUntil hchecked
    · exact (pauseVehicle_lasts _ id .accessRefused _ m).limitedUntil hchecked
    · exact (vehicleNotFound_lasts ..).limitedUntil hchecked
    · split <;> exact hchecked
    · exact hchecked

/-- A running rate-limit wait survives every input whose own wait, if it asks for one, ends no
later. -/
theorem react_limitedUntil (i : Input) (hretry : i.retriesCollection = false)
    (hwait : s.account.wait = some (u, .rateLimited))
    (hasked : ∀ error request, i.failure = some (error, request) →
    ∀ x ∈ s.failedWait error request m, x ≤ u) : (s.react m i).account.LimitedUntil u := by
  cases hfailed : i.failure with
  | none =>
    exact AccountRecord.limitedUntil_of_wait
      ((s.react_ends m i hfailed hretry).keeps_rateLimited hwait)
  | some failure =>
    unfold Input.failure at hfailed
    split at hfailed <;> cases hfailed
    · exact discoveryFailed_limitedUntil hwait (hasked _ _ rfl)
    · exact recordFailed_limitedUntil hwait (hasked _ _ rfl)
    · exact vehicleFailed_limitedUntil hwait (hasked _ _ rfl)
    · rename_i id error
      exact probeFailed_limitedUntil (s := s.modifyCar id ({ · with inFlight := false })) hwait
        (hasked _ _ rfl)

theorem commitFailed_limitedUntil (tick : PendingTick) (now : Instant)
    (hwait : s.account.wait = some (u, .rateLimited))
    (hle : deadlineAfter now
    (backoffDelay (s.account.storeFailures+1) s.timing.maxBackoff (s.jitter 0)) ≤ u) :
    (s.commitFailed tick now).account.LimitedUntil u := by
  have hback : ((s.rollBack.account.retainStop s.account).retainProbe).wait = s.account.wait ∧
      ((s.rollBack.account.retainStop s.account).retainProbe).storeFailures =
        s.account.storeFailures := by
    rw [rollBack_account]
    unfold AccountRecord.retainProbe AccountRecord.retainStop
    cases s.baseline <;> (repeat' split) <;> exact ⟨rfl, rfl⟩
  rw [commitFailed_account]
  refine AccountRecord.limitedUntil_of_wait (AccountRecord.extendWait_shorter ?_ ?_ _)
  · exact hback.1.trans hwait
  · rw [hback.2]
    exact hle

theorem Committed.limitedUntil {outcome : TickOutcome} {out : VehicleScheduler × PendingTick}
    (h : s.Committed m outcome out) (hwait : s.account.wait = some (u, .rateLimited))
    (hle : outcome = .failed →
    deadlineAfter m.now
    (backoffDelay (s.account.storeFailures+1) s.timing.maxBackoff (s.jitter 0)) ≤ u) :
    out.1.account.LimitedUntil u := by
  cases h with
  | idle => exact AccountRecord.limitedUntil_of_wait hwait
  | failed otherWrites =>
    exact commitFailed_limitedUntil (s := (s.takeTick m).1) _ _ hwait (hle rfl)
  | succeeded otherWrites =>
    exact AccountRecord.limitedUntil_of_wait
      ((commitSucceeded_ends (s.takeTick m).1 _ _).keeps_rateLimited hwait)
  | renewed => exact AccountRecord.limitedUntil_of_wait hwait

end VehicleScheduler

theorem credentialOutcomeFor_of_rateLimited {error : CollectorError} {request : RequestKind}
    (h : classify error request mode = .rateLimited) (wallMs : ℤ) :
    credentialOutcomeFor error wallMs = none := by
  have hany := classifyAny_eq_of_classify h (by decide) (by decide)
  have hlegacy : legacyAuthErrorOf error = none := by
    cases hof : legacyAuthErrorOf error with
    | none => rfl
    | some legacy =>
      exfalso
      have hne (provider : Bool) : classifyLegacyAuth legacy provider ≠ .rateLimited :=
        fun heq => by
        have hmem := classifyLegacyAuth_mem legacy provider
        rw [heq] at hmem
        revert hmem
        decide
      unfold legacyAuthErrorOf at hof
      split at hof
      case h_4 => cases hof
      case h_1 =>
        cases hof
        exact hne _ hany
      all_goals
        cases hof
        simp only [classifyAny] at hany
        split at hany
        · cases hany
        · exact hne _ hany
  unfold credentialOutcomeFor
  rw [hlegacy]

def Happening.failure : Happening → Option (CollectorError × RequestKind)
  | .input i => i.failure
  | _ => none

def Happening.retriesCollection : Happening → Bool
  | .input i => i.retriesCollection
  | _ => false

def Happening.startsProcess : Happening → Bool
  | .start _ => true
  | _ => false

namespace Hub

variable (hub : Hub)

/-- The wait an event sets when it handles a 429: the named delay up to its maximum, or the back-off
when none is named and no rate-limit wait runs. -/
def rateLimitSet (e : Event) : Option Duration :=
  e.what.failure.bind fun failed =>
    if classify failed.1 failed.2 hub.scheduler.mode = .rateLimited then
      some (hub.scheduler.account.noteAnswered.rateLimitDelay hub.scheduler.timing
        ((rateLimitRetryAfterSeconds failed.1).getD 0) (hub.scheduler.jitter 0) e.time.now)
    else none

/-- The end of the wait of another reason that an event asks for: a failed request's, or that of a
store that fails. -/
def otherWait (e : Event) : Option Instant :=
  match e.what with
  | .commit needsStore transaction =>
    if hub.scheduler.tickOutcome needsStore transaction e.time = .failed then
      some (deadlineAfter e.time.now (backoffDelay (hub.scheduler.account.storeFailures+1)
        hub.scheduler.timing.maxBackoff (hub.scheduler.jitter 0)))
    else none
  | what => what.failure.bind fun failed => hub.scheduler.failedWait failed.1 failed.2 e.time

/-- A running rate-limit wait meets an event that asks for a longer wait of another reason, or a 429
is handled while such a wait is in the slot. -/
def hidesRateLimit (e : Event) : Bool :=
  (hub.scheduler.account.wait.any fun wait => wait.2 = .rateLimited && e.time.now < wait.1 &&
    (hub.otherWait e).any (wait.1 < ·)) ||
  (hub.rateLimitSet e).any fun d => hub.scheduler.account.noteAnswered.wait.any fun wait =>
    wait.2 ≠ .rateLimited && deadlineAfter e.time.now d ≤ wait.1

variable {e : Event}

variable {d : Duration}

theorem step_of_rateLimitSet (h : hub.rateLimitSet e = some d) :
    ∃ seconds, d = hub.scheduler.account.noteAnswered.rateLimitDelay hub.scheduler.timing seconds
        (hub.scheduler.jitter 0) e.time.now ∧
      (hub.step e).scheduler.account.wait = (hub.scheduler.account.noteAnswered.rateLimited
        hub.scheduler.timing seconds (hub.scheduler.jitter 0) e.time.now).wait := by
  obtain ⟨time, what⟩ := e
  obtain ⟨⟨error, kind⟩, hfailure, hset⟩ := Option.bind_eq_some_iff.mp h
  dsimp only at hset hfailure
  split at hset
  case isFalse => cases hset
  rename_i hclass
  cases hset
  refine ⟨_, rfl, ?_⟩
  obtain ⟨i, rfl, hinput⟩ : ∃ i, what = .input i ∧ i.failure = some (error, kind) := by
    cases what with
    | input i => exact ⟨i, rfl, hfailure⟩
    | _ => cases hfailure
  unfold Input.failure at hinput
  have hnone := credentialOutcomeFor_of_rateLimited hclass (hub.scheduler.wallOrLast time)
  split at hinput <;> cases hinput
  · simp only [step, react, discoveryFailedForError, hnone, hclass]
    rw [apply_ite Prod.fst, ite_self]
    rfl
  · simp only [step, react, offlineStateFailedForError, hclass]
    rfl
  · simp only [step, react, vehicleFailedForError, hnone, hclass]
    rfl
  · have hclass' : classify error .probe
        (hub.scheduler.modifyCar ‹VehicleId› ({ · with inFlight := false })).mode = .rateLimited :=
          hclass
    simp only [step, react, probeFinished, probeFailed, hclass']
    rfl

/-- A 429 that is not hidden leaves its own wait in the slot. -/
theorem rateLimitSet_wait (h : hub.rateLimitSet e = some d)
    (hshown : hub.hidesRateLimit e = false) :
    (hub.step e).scheduler.account.LimitedUntil (e.time.now+d) := by
  obtain ⟨seconds, hd, hwait⟩ := hub.step_of_rateLimitSet h
  have hfree : ∀ w ∈ hub.scheduler.account.noteAnswered.wait, w.2 ≠ .rateLimited →
      w.1 < e.time.now+d := by
    intro w hw hne
    by_contra hle
    have hlong := (Bool.or_eq_false_iff.mp hshown).2
    rw [h, Option.mem_def.mp hw] at hlong
    simp [hne, deadlineAfter, Nat.not_lt.mp hle] at hlong
  unfold AccountRecord.LimitedUntil
  rw [hwait, hd]
  rw [hd] at hfree
  exact AccountRecord.extendWait_rateLimited
    (a := { hub.scheduler.account.noteAnswered with consecutive429 := _ }) hfree

/-- A rate-limit wait outlasts every event that does not hide it. -/
theorem step_keeps_rateLimit (hwait : hub.scheduler.account.wait = some (u, .rateLimited))
    (htime : e.time.now < u) (hretry : e.what.retriesCollection = false)
    (hstart : e.what.startsProcess = false) (hshown : hub.hidesRateLimit e = false) :
    (hub.step e).scheduler.account.LimitedUntil u := by
  have hasked : ∀ x ∈ hub.otherWait e, x ≤ u := by
    intro x hx
    have hlong := (Bool.or_eq_false_iff.mp hshown).1
    rw [hwait, Option.mem_def.mp hx] at hlong
    simpa [htime] using hlong
  unfold otherWait at hasked
  obtain ⟨time, what⟩ := e
  cases what with
  | input i =>
    refine react_limitedUntil i hretry hwait fun error request hfailed x hx => hasked x ?_
    exact Option.mem_def.mpr (Option.bind_eq_some_iff.mpr ⟨(error, request), hfailed, hx⟩)
  | commit needsStore transaction =>
    refine (hub.scheduler.commitTick_committed needsStore transaction time).limitedUntil
      hwait fun hfailed => ?_
    exact hasked _ (Option.mem_def.mpr (if_pos hfailed))
  | stop recorded =>
    refine (hub.scheduler.finishRun_committed recorded time).limitedUntil hwait fun hfailed => ?_
    cases recorded <;> cases hfailed
  | start process => cases hstart

/-- After a 429 handled at `t` that set a wait of `d`, no request is allowed before `t+d`, as long
as no longer wait of another reason meets it in the slot. -/
theorem no_request_before_rateLimit_ends (e : Event) (d : Duration) (es : List Event)
    (now : Instant) (hset : hub.rateLimitSet e = some d)
    (hevents : ∀ x ∈ es, x.what.retriesCollection = false ∧ x.what.startsProcess = false ∧
    x.time.now ≤ now) (hnow : now < e.time.now+d)
    (hshown : RunRules.Along Hub.step (fun hub x => hub.hidesRateLimit x = false) hub (e :: es)) :
    (hub.run (e :: es)).scheduler.requestsAllowed now = false := by
  have hrun := RunRules.foldl_invariant
    (I := fun hub : Hub => hub.scheduler.account.LimitedUntil (e.time.now+d))
    (by
      rintro hub x ⟨u, hu, hle⟩ ⟨⟨hretry, hstart, htime⟩, hshow⟩
      have hbefore : x.time.now < u := lt_of_lt_of_le (lt_of_le_of_lt htime hnow) hle
      obtain ⟨u', hu', hle'⟩ := hub.step_keeps_rateLimit hu hbefore hretry hstart hshow
      exact ⟨u', hu', hle.trans hle'⟩)
    (hub.rateLimitSet_wait hset hshown.1) (RunRules.Along.of_forall hevents hshown.2)
  obtain ⟨u, hu, hle⟩ := hrun
  change (es.foldl step (hub.step e)).scheduler.requestsAllowed now = false
  have hlt : ¬ u ≤ now := Nat.not_le.mpr (lt_of_lt_of_le hnow hle)
  simp [requestsAllowed, AccountRecord.requestsAllowed, hu, hlt]

def threeReads : Hub :=
  (Hub.first (.default .legacy []) (.atSecond 0)).run
    [Input.atSecond 1 (.list [.reported 1 .online, .reported 2 .online, .reported 3 .online]),
      Input.atSecond 1 .dueReads]

def firstIsRateLimited : Event := Input.atSecond 2 (.readFailed 1 (.ownerApi (.rateLimited 5)))

theorem no_request_before_rateLimit_ends_threeReads :
    (threeReads.run [firstIsRateLimited, Input.atSecond 3 (.readSucceeded 2 .online false)]
      ).scheduler.requestsAllowed (secs 4) = false :=
  no_request_before_rateLimit_ends threeReads firstIsRateLimited (secs 5)
    [Input.atSecond 3 (.readSucceeded 2 .online false)] (secs 4) (by decide +kernel)
    (by decide +kernel) (by decide +kernel) (by decide +kernel)

/-- When the second read gets no answer, its longer back-off takes the rate-limit wait over, and the
third read's success ends it. -/
theorem rateLimit_cut_short_by_a_longer_wait :
    threeReads.rateLimitSet firstIsRateLimited = some (secs 5) ∧
    (threeReads.run [firstIsRateLimited, Input.atSecond 3 (.readFailed 2 (.ownerApi .transport)),
    Input.atSecond 4 (.readSucceeded 3 .online false)]).scheduler.requestsAllowed (secs 5) =
    true := by
  decide +kernel

end Hub

end TeslatlasHub.Collector
