import TeslatlasHub.SchedulerErrors

namespace TeslatlasHub.Collector

namespace AccountRecord

variable (a : AccountRecord)

variable (now : Instant)

def requestsAllowed : Bool := a.state = .collecting && a.wait.all (·.1 ≤ now)

def afterWait (due : Instant) : Instant := a.wait.elim due fun wait => max due wait.1

def waitRunning (reason : WaitReason) (now : Instant) : Bool :=
  a.wait.any fun wait => wait.2 = reason && now < wait.1

def extendWait (waitUntil : Instant) (reason : WaitReason) : AccountRecord :=
  match a.wait with
  | some (current, _) =>
    if waitUntil ≤ current then a else { a with wait := some (waitUntil, reason) }
  | none => { a with wait := some (waitUntil, reason) }

def waitRemaining : Duration := a.wait.elim 0 (·.1-now)

def endWait (reason : WaitReason) : AccountRecord :=
  if a.wait.any (·.2 = reason) then { a with wait := none } else a

variable (t : Timing)

def rateLimitDelay (retryAfterSeconds : ℕ) (u : ℚ) (now : Instant) : Duration :=
  let named := min (secs retryAfterSeconds) kRetryAfterMax
  if named ≠ 0 then named
  else if a.waitRunning .rateLimited now then 0
  else max k429Default (backoffDelay (a.consecutive429+1) t.maxBackoff u)

def rateLimited (retryAfterSeconds : ℕ) (u : ℚ) (now : Instant) : AccountRecord :=
  let delay := a.rateLimitDelay t retryAfterSeconds u now
  let consecutive429 := if a.waitRunning .rateLimited now then a.consecutive429 else
      a.consecutive429+1
  { a with consecutive429 }.extendWait (deadlineAfter now delay) .rateLimited

def unreachable (u : ℚ) (now : Instant) : AccountRecord :=
  if a.waitRunning .teslaUnreachable now then a
  else
    let delay := backoffDelay (a.consecutiveUnreachable+1) t.maxBackoff u
    { a with consecutiveUnreachable := a.consecutiveUnreachable+1 }.extendWait
      (deadlineAfter now delay) .teslaUnreachable

def authFailed (credentialRetry : Option Duration) (u : ℚ) (now : Instant) : AccountRecord :=
  if a.waitRunning .authWait now then a
  else
    let delay := credentialRetry.getD (backoffDelay (a.authFailures+1) t.maxBackoff u)
    { a with authFailures := a.authFailures+1 }.extendWait (deadlineAfter now delay) .authWait

def endAuthWait : AccountRecord :=
  if a.wait.any (·.2 = .authWait) then { a with wait := none, listWanted := some now } else a

def noteAnswered : AccountRecord :=
  if a.consecutiveUnreachable = 0 then a
  else { a with consecutiveUnreachable := 0 }.endWait .teslaUnreachable

def noteSuccess : AccountRecord :=
  { a.noteAnswered with consecutive429 := 0, authFailures := 0 }.endWait .authWait

def storeFailed (u : ℚ) (now : Instant) : AccountRecord :=
  let delay := backoffDelay (a.storeFailures+1) t.maxBackoff u
  { a with storeFailures := a.storeFailures+1 }.extendWait (deadlineAfter now delay) .store

def storeRecovered : AccountRecord :=
  if a.storeFailures = 0 then a else { a with storeFailures := 0 }.endWait .store

variable (wallMs : ℤ)

def enterCredentialStop : AccountRecord :=
  if a.state = .collecting then
    { a with state := .credentialStop, stateReason := .authTerminal, stateSinceMs := wallMs }
  else a

def enterFleetRefreshStopAtStart : AccountRecord :=
  if a.state = .credentialStop then a
  else { a with state := .credentialStop, stateReason := .authTerminal, stateSinceMs := wallMs }

def clearCredentialStop (wallMs : ℤ) : AccountRecord :=
  if a.state = .credentialStop then
    { a with
      state := .collecting
      stateReason := .collecting
      stateSinceMs := wallMs
      listWanted := some now }
  else a

def enterAccountState (state : AccountState) (reason : Reason) (now : Instant) (wallMs : ℤ) :
    AccountRecord :=
  if a.state = state ∧ a.stateReason = reason then
    if state = .billingSuspended then
      { a with nextBillingProbe := some (deadlineAfter now kBillingProbe) }
    else a
  else if a.state = .collecting then
    { a with
      state
      stateReason := reason
      stateSinceMs := wallMs
      nextBillingProbe :=
        if state = .billingSuspended then some (deadlineAfter now kBillingProbe) else none
      listWanted := none
      listFloor := none }
  else a

def resumeFromBilling : AccountRecord :=
  if a.state = .billingSuspended then
    { a with
      state := .collecting
      stateReason := .billingResumed
      stateSinceMs := wallMs
      nextBillingProbe := none
      probeTimeOfTheTick := none
      telemetryCheckDue := true }
  else a

def noteNewMonth : AccountRecord :=
  if a.state = .billingSuspended then { a with nextBillingProbe := some now } else a

def resumeFromCap (wallMs : ℤ) : AccountRecord :=
  { a with
    state := .collecting
    stateReason := .capCleared
    stateSinceMs := wallMs
    listWanted := some now }

def enterCapReached : AccountRecord :=
  if a.state = .collecting then
    { a with
      state := .capReached
      stateReason := .capReached
      stateSinceMs := wallMs
      listWanted := none
      listFloor := none }
  else a

def accountStateFailed (mode : CollectorMode) (cls : ErrorClass) (error : CollectorError)
    (now : Instant)
    (wallMs : ℤ) : AccountRecord × Duration :=
  let status := httpStatusOf error
  match cls with
  | .ownerApiRefusal | .providerRefusal =>
    let cause :=
      match legacyAuthErrorOf error with
      | some (.ownerApiRefused reason) => reason.cause
      | _ =>
        if status = some 402 then .paymentRequired
        else if status = some 410 then .gone
        else .forbidden
    let refusal := refusalFor mode cause
    (a.enterAccountState refusal.1 refusal.2 now wallMs, controlSettingsRefresh)
  | .fleetAccess =>
    (a.enterAccountState .fleetAccessRefused .fleetAccessRefused now wallMs, controlSettingsRefresh)
  | .billing => (a.enterAccountState .billingSuspended .billingSuspended now wallMs, kBillingProbe)
  | .config =>
    let reason : Reason := if status = some 421 then .configWrongRegion else
        .configPartnerUnregistered
    (a.enterAccountState .configError reason now wallMs, controlSettingsRefresh)
  | .locked =>
    (a.enterAccountState .accountLocked .accountLocked now wallMs, controlSettingsRefresh)
  | _ => (a, controlSettingsRefresh)

def ownerRetry (mode : CollectorMode) (now : Instant) (wallMs : ℤ) : AccountRecord :=
  let fleetStop := a.state = .credentialStop ∧ mode = .fleetPolling
  let a :=
    if fleetStop ∨ (a.state ≠ .collecting ∧ a.state ≠ .credentialStop) then
      { a with
        state := .collecting
        stateReason := .ownerRetry
        stateSinceMs := wallMs
        nextBillingProbe := none }
    else a
  { a with wait := none, listWanted := some now, listFloor := none }

end AccountRecord

end TeslatlasHub.Collector
