import TeslatlasHub.LegacyAuthority

namespace TeslatlasHub.Credentials

inductive BeginFailure where
  | externalWrite | ownOutput | unresolved | store
  deriving DecidableEq

inductive ExchangeKind where
  | notSent (reason : RetryReason)
  | aborted
  | rowChanged (failure : BeginFailure)
  | persisted (successor : ScheduledSuccessor)
  | pending (successor : ScheduledSuccessor)
  | external
  | failed (kind : AttemptClass) (error : AuthError) (status : Option ℕ) (retryAfter : Option ℤ)
  deriving DecidableEq

structure ExchangeResult where
  kind : ExchangeKind
  finishedAt : ℤ
  serverDate : Option ℤ := none
  pendingClose : Option PendingClose := none
  deriving DecidableEq

inductive Applied where
  | done (error : Option AuthError)
  | adopt (external : Bool)
  deriving DecidableEq

namespace LegacyAuth

open FixedWidth

variable (auth : LegacyAuth)

def scheduleRetry (reason : RetryReason) (plan : RetryPlan) (now : ℤ) (spreadUnit : Option ℚ) :
    LegacyAuth :=
  let (delay, nextStep) := retryDelay plan auth.retryStep spreadUnit
  { auth with
    retryAt := some (saturatingAdd now delay), retryReason := some reason, retryStep := nextStep }

def clearRetry : LegacyAuth :=
  { auth with retryAt := none, retryReason := none, retryStep := 0 }

def applyPersisted (successor : ScheduledSuccessor) (now : ℤ) (spreadUnit : Option ℚ) :
    LegacyAuth :=
  let auth : LegacyAuth :=
    { auth with
      accessToken := successor.accessToken
      refreshToken := successor.refreshToken
      expiresAt := successor.schedule.expiresAt
      nextRefreshAt := successor.schedule.nextRefreshAt
      usableUntil := some successor.schedule.usableUntil
      lastSuccessAt := some successor.sentAt
      startupRefreshPending := false
      clientRefusals := 0
      pendingSuccessor := none
      persistFailures := 0
      persistRetryAt := none }
  if successor.schedule.isShort successor.sentAt then
    let reason : RetryReason := if auth.clockSkew then .clockSkew else .shortTokenLifetime
    auth.scheduleRetry reason (planForReason reason) now spreadUnit
  else auth.clearRetry

def notePersistFailure (now : ℤ) : LegacyAuth :=
  { auth with
    persistRetryAt := some (saturatingAdd now (persistenceRetryDelay auth.persistFailures))
    persistFailures := auth.persistFailures+1 }

def holdSuccessor (successor : ScheduledSuccessor) (now : ℤ) : LegacyAuth :=
  LegacyAuth.notePersistFailure { auth with pendingSuccessor := some successor } now

def noteCloseFailure (now : ℤ) : LegacyAuth :=
  { auth with
    closeRetryAt := some (saturatingAdd now (persistenceRetryDelay auth.closeFailures))
    closeFailures := auth.closeFailures+1 }

def holdClose (pending : PendingClose) (now : ℤ) : LegacyAuth :=
  LegacyAuth.noteCloseFailure { auth with pendingClose := some pending } now

def clearClose : LegacyAuth :=
  { auth with pendingClose := none, closeFailures := 0, closeRetryAt := none }

def closeRetryDue (now : ℤ) : Bool :=
  auth.pendingClose.isSome && auth.closeRetryAt.all fun u => decide (u ≤ now)

def persistRetryDue (now : ℤ) : Bool :=
  auth.pendingSuccessor.isSome && auth.persistRetryAt.all fun u => decide (u ≤ now)

def setStop (stop : AuthStop) : LegacyAuth :=
  { auth with stop := some stop, retryAt := none, retryReason := none }

def storeUnavailable (now : ℤ) (spreadUnit : Option ℚ) : LegacyAuth :=
  LegacyAuth.scheduleRetry { auth with clientRefusals := 0 } .storeUnavailable
    (planForReason .storeUnavailable) now spreadUnit

def applyFailure (kind : AttemptClass) (error : AuthError) (status : Option ℕ)
    (retryAfter : Option ℤ) (now : ℤ) (spreadUnit : Option ℚ) : LegacyAuth × AuthError :=
  let auth : LegacyAuth := if kind = .clientRefused then auth else { auth with clientRefusals := 0 }
  match kind with
  | .consumedWithoutSuccessor => (auth.setStop (.signInRequired .refreshResponseUnusable), error)
  | .unknown => (auth.setStop (.signInRequired .refreshOutcomeUnknown), error)
  | .dead => (auth.setStop (.signInRequired .refreshTokenRejected), error)
  | .clientRefused =>
    let refusals := auth.clientRefusals+1
    let counted : LegacyAuth := { auth with clientRefusals := refusals }
    if clientRefusalLimit ≤ refusals then
      (counted.setStop (.apiRefused .client), .ownerApiRefused .client)
    else (counted.scheduleRetry .clientCheck .clientCheck now spreadUnit, error)
  | .refused => (auth.setStop (.apiRefused .ownerApi), error)
  | .requestRejected => (auth.scheduleRetry .refreshRequestRejected .slow now spreadUnit, error)
  | .misrouted => (auth.scheduleRetry .tokenEndpointMisrouted .slow now spreadUnit, error)
  | .blocked => (auth.scheduleRetry .refreshBlocked .backoff now spreadUnit, error)
  | .transient =>
    let plan : RetryPlan := match status, retryAfter with
      | some status, some seconds =>
        if status = 429 ∨ status = 503 then .retryAfter seconds else .backoff
      | _, _ => .backoff
    (auth.scheduleRetry .teslaUnavailable plan now spreadUnit, error)
  | .notRenewed => (auth.scheduleRetry .refreshNotRenewed .backoff now spreadUnit, error)
  -- these classes never reach a failure
  | .notSent | .rotated | .notRotated => (auth, error)

def noted (result : ExchangeResult) : LegacyAuth :=
  let auth : LegacyAuth :=
    { auth with clockSkew := skewAfterAnswer auth.clockSkew result.serverDate result.finishedAt }
  match result.pendingClose with
  | some pending => auth.holdClose pending result.finishedAt
  | none => auth

def applyResult (result : ExchangeResult) (spreadUnit : Option ℚ) : LegacyAuth × Applied :=
  let now := result.finishedAt
  let auth := auth.noted result
  match result.kind with
  | .notSent reason =>
    (LegacyAuth.scheduleRetry { auth with clientRefusals := 0 } reason (planForReason reason) now
      spreadUnit, .done (some
        (if reason = .sensitiveAccess then .sensitiveAccessUnavailable else .transport)))
  | .aborted => (auth, .done (some .refreshDeferred))
  | .rowChanged .externalWrite | .external => (auth, .adopt true)
  | .rowChanged .ownOutput => (auth, .adopt false)
  | .rowChanged .unresolved =>
    (auth.setStop (.signedOut .refreshOutcomeUnknown),
      .done (some (.signedOut .refreshOutcomeUnknown)))
  | .rowChanged .store =>
    let waiting := auth.storeUnavailable now spreadUnit
    (waiting, .done (some (.authUnavailable waiting.retryAt)))
  | .persisted successor => (auth.applyPersisted successor now spreadUnit, .done none)
  | .pending successor => (auth.holdSuccessor successor now, .done none)
  | .failed kind error status retryAfter =>
    let (auth, error) := auth.applyFailure kind error status retryAfter now spreadUnit
    (auth, .done (some error))

end LegacyAuth

end TeslatlasHub.Credentials
