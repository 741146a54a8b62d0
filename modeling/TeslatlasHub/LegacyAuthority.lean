import TeslatlasHub.LegacyExchange
import TeslatlasHub.LegacyRecorder
import TeslatlasHub.LegacySchedule

namespace TeslatlasHub.Credentials

open AuthStatus FixedWidth

inductive HolderKind where
  | managed | observer | accessTokenOnly
  deriving DecidableEq

structure ScheduledSuccessor extends SuccessorPair where
  schedule : Schedule
  sentAt : ℤ
  deriving DecidableEq

structure LegacyAuth where
  (accessToken refreshToken : List Char)
  (expiresAt nextRefreshAt : ℤ)
  tokenEndpoint : Option (List Char)
  usableUntil : Option ℤ
  startupRefreshPending : Bool
  retryAt : Option ℤ := none
  retryStep : ℕ := 0
  retryReason : Option RetryReason := none
  lastSuccessAt : Option ℤ := none
  clientRefusals : ℕ := 0
  stop : Option AuthStop := none
  clockSkew : Bool := false
  pendingSuccessor : Option ScheduledSuccessor := none
  persistFailures : ℕ := 0
  persistRetryAt : Option ℤ := none
  pendingClose : Option PendingClose := none
  closeFailures : ℕ := 0
  closeRetryAt : Option ℤ := none
  tokenRequestsNotBefore : ℤ := 0
  holdUntil : Option ℤ := none
  (forcedAfterHold observerRejected : Bool := false)
  deriving DecidableEq

inductive AuthError where
  | authUnavailable (retryAt : Option ℤ)
  | ownerApiRefused (reason : RefusalReason)
  | refreshNotPossible
  | accessTokenRejected
  | providerTokenRejected
  | providerTokenExpired
  | signedOut (reason : SignOutReason)
  | sensitiveAccessUnavailable
  | transport
  | refreshDeferred
  | exchange (error : LegacyAuthError)
  | rotationOutcomeUnknown (sensitive : Bool)
  | refreshNotRenewed
  | retryNotPossible (reason : SignOutReason)
  deriving DecidableEq

inductive Block where
  | inFlight | successorPending | closePending | stopped | noRefreshPath | clockInvalid
  | until (time : ℤ)
  deriving DecidableEq

def clockRecheckSeconds : ℤ := 60

def stopError : AuthStop → AuthError
  | .apiRefused reason => .ownerApiRefused reason
  | .signInRequired _ => .refreshNotPossible
  | .signedOut .accessTokenRejected => .accessTokenRejected
  | .signedOut .providerTokenRejected => .providerTokenRejected
  | .signedOut .providerTokenExpired => .providerTokenExpired
  | .signedOut reason => .signedOut reason

def skewAfterAnswer (current : Bool) (serverDate : Option ℤ) (receivedAt : ℤ) : Bool :=
  match serverDate with
  | none => current
  | some server => decide (skewAllowanceSeconds < |server-receivedAt|)

namespace LegacyAuth

variable (auth : LegacyAuth)

def isUsable (now : ℤ) : Bool := auth.usableUntil.all fun u => decide (now < u)

def effectiveStop (now : ℤ) : Option AuthStop :=
  match auth.stop with
  | some (.signInRequired reason) =>
    if auth.isUsable now then auth.stop else some (.signedOut reason)
  | none =>
    if auth.tokenEndpoint.isNone && !auth.isUsable now then
      some (.signedOut .providerTokenExpired) else none
  | stop => stop

def settleStop (now : ℤ) : LegacyAuth :=
  match auth.effectiveStop now with
  | some stop => { auth with stop := some stop }
  | none => auth

def remedyPending : Bool :=
  auth.retryAt.isSome || auth.startupRefreshPending || auth.pendingSuccessor.isSome

def timeGates : List ℤ :=
  [auth.retryAt, auth.lastSuccessAt.map (saturatingAdd · minRefreshIntervalSeconds),
    some auth.tokenRequestsNotBefore, auth.holdUntil].reduceOption

def gate (now : ℤ) (inFlight : Bool) : Option Block :=
  if inFlight then some .inFlight
  else if auth.pendingSuccessor.isSome then some .successorPending
  else if auth.pendingClose.isSome then some .closePending
  else if (auth.effectiveStop now).isSome then some .stopped
  else if auth.tokenEndpoint.isNone then some .noRefreshPath
  else if !clockIsValid now then some .clockInvalid
  else ((auth.timeGates.filter fun u => decide (now < u)).max?).map .until

def isDue (now : ℤ) : Bool :=
  auth.startupRefreshPending || auth.retryAt.isSome || (auth.tokenEndpoint.isSome &&
    !auth.isUsable now) ||
    (decide (0 < auth.expiresAt) && refreshedFormDue auth.expiresAt auth.nextRefreshAt now)

def tokenAvailable (now : ℤ) : Except AuthError Unit :=
  if auth.accessToken.isEmpty then .error (.authUnavailable none)
  else
    match (auth.effectiveStop now).filter AuthStop.blocksRequests with
    | some stop => .error (stopError stop)
    | none =>
      if !clockIsValid now then
        .error (.authUnavailable (some (saturatingAdd now clockRecheckSeconds)))
      else
        match auth.holdUntil.filter fun u => decide (now < u) with
        | some u => .error (.authUnavailable (some u))
        | none =>
          if auth.observerRejected then .error (.authUnavailable none)
          else if !auth.isUsable now then
            .error (.authUnavailable (auth.persistRetryAt.or auth.retryAt))
          else .ok ()

def deriveStatus (now : ℤ) (generation : Uuid) (mode : StoppedMode) (inFlight : Bool)
    (fuse : FuseSnapshot) : AuthStatus :=
  let usable := clockIsValid now && auth.isUsable now
  match auth.effectiveStop now with
  | some stop => AuthStatus.stopped stop generation mode usable fuse auth.clockSkew
  | none =>
    let idle (state : AuthState) (reason : Option StatusReason) : AuthStatus :=
      AuthStatus.idle state reason fuse auth.clockSkew
    if !clockIsValid now then idle .clockInvalid none
    else if auth.pendingSuccessor.isSome then (idle .persistencePending none).withUsability usable
    else if inFlight then { idle .refreshing none with collecting := true }
    else
      match auth.retryReason, auth.retryAt with
      | some reason, some retryAt =>
        AuthStatus.withUsability { idle .retrying (some
          (.retry reason)) with retryAt := some retryAt } usable
      | _, _ => AuthStatus.ready fuse auth.clockSkew

def observerReason (now : ℤ) : Option ObserverReason :=
  if auth.observerRejected then some .tokenRejected
  else if !auth.isUsable now then some (if auth.clockSkew then .clockSkew else .tokenExpired)
  else none

def deriveFullStatus (now : ℤ) (generation : Uuid) (mode : StoppedMode)
    (inFlight : Bool) (fuse : FuseSnapshot) (holder : HolderKind) : AuthStatus :=
  let base := auth.deriveStatus now generation mode inFlight fuse
  match base.state with
  | .signedOut | .signInRequired | .apiRefused | .clockInvalid => base
  | _ =>
    if holder = .observer then
      match auth.observerReason now with
      | some reason => AuthStatus.observerWaiting reason fuse auth.clockSkew
      | none => base
    else if auth.holdUntil.any fun u => decide (now < u) then
      AuthStatus.awaitingConfirmation fuse auth.clockSkew
    else base

variable {auth}

theorem tokenAvailable_eq_ok {now : ℤ} (h : auth.tokenAvailable now = .ok ()) :
    (auth.effectiveStop now).any AuthStop.blocksRequests = false ∧ clockIsValid now ∧
    (auth.holdUntil.any fun u => decide (now < u)) = false ∧ auth.observerRejected = false ∧
    auth.isUsable now := by
  have hany {α : Type} {p : α → Bool} {o : Option α} (h : o.filter p = none) : o.any p = false := by
    cases o with
    | none => rfl
    | some a =>
      cases hp : p a with
      | false => exact hp
      | true =>
        rw [Option.filter_some, if_pos hp] at h
        cases h
  unfold tokenAvailable at h
  split at h
  · cases h
  split at h
  · cases h
  rename_i hstop
  split at h
  · cases h
  rename_i hclock
  split at h
  · cases h
  rename_i hhold
  split at h
  · cases h
  rename_i hobserver
  split at h
  · cases h
  rename_i husable
  rw [Bool.not_eq_true, Bool.not_eq_false'] at hclock husable
  exact ⟨hany hstop, hclock, hany hhold, Bool.eq_false_iff.mpr hobserver, husable⟩

theorem effectiveStop_admitted {now : ℤ} {stop : AuthStop}
    (hstop : ∀ s, auth.stop = some s → s.admitted) (h : auth.effectiveStop now = some stop) :
    stop.admitted := by
  unfold effectiveStop at h
  split at h
  · split at h
    · exact hstop stop h
    · cases h
      rfl
  · split at h
    · cases h
      rfl
    · cases h
  · exact hstop stop h

theorem deriveStatus_isConsistent (now : ℤ) (generation : Uuid) (mode : StoppedMode)
    (inFlight : Bool) {fuse : FuseSnapshot} (hfuse : fuse.isConsistent)
    (hstop : ∀ s, auth.stop = some s → s.admitted) :
    (auth.deriveStatus now generation mode inFlight fuse).isConsistent := by
  unfold deriveStatus
  split
  · rename_i stop hstop'
    exact stopped_isConsistent _ _ _ _ _ _ (effectiveStop_admitted hstop hstop') hfuse
  · split_ifs
    · exact idle_isConsistent _ _ rfl rfl rfl rfl hfuse
    · exact (isConsistent_iff _).mpr
        ⟨rfl, rfl, rfl, hfuse, fun h => (nomatch h), fun h => (nomatch h), .inr rfl⟩
    · exact (isConsistent_iff _).mpr
        ⟨rfl, rfl, rfl, hfuse, fun _ => rfl, fun h => (nomatch h), .inr rfl⟩
    · split
      · exact (isConsistent_iff _).mpr
          ⟨rfl, rfl, rfl, hfuse, fun h => (nomatch h), fun h => (nomatch h), .inl rfl⟩
      · exact ready_isConsistent _ _ hfuse

theorem deriveFullStatus_isConsistent (now : ℤ) (generation : Uuid)
    (mode : StoppedMode) (inFlight : Bool) (holder : HolderKind) {fuse : FuseSnapshot}
    (hfuse : fuse.isConsistent) (hstop : ∀ s, auth.stop = some s → s.admitted) :
    (auth.deriveFullStatus now generation mode inFlight fuse holder).isConsistent := by
  have hbase := auth.deriveStatus_isConsistent now generation mode inFlight hfuse hstop
  unfold deriveFullStatus
  dsimp only
  split
  any_goals exact hbase
  split_ifs
  · split
    · exact idle_isConsistent _ _ rfl rfl rfl rfl hfuse
    · exact hbase
  · exact idle_isConsistent _ _ rfl rfl rfl rfl hfuse
  · exact hbase

theorem deriveStatus_collecting {now : ℤ} (h : auth.tokenAvailable now = .ok ())
    (generation : Uuid) (mode : StoppedMode) (inFlight : Bool) (fuse : FuseSnapshot) :
    (auth.deriveStatus now generation mode inFlight fuse).collecting := by
  obtain ⟨hblocks, hclock, -, -, husable⟩ := tokenAvailable_eq_ok h
  unfold deriveStatus
  split
  · rename_i stop hstop
    rw [hstop, Option.any_some] at hblocks
    cases stop with
    | signInRequired reason =>
      rw [hclock, husable]
      rfl
    | signedOut reason => cases hblocks
    | apiRefused reason => cases hblocks
  · rw [hclock, husable]
    split_ifs with hinvalid
    · cases hinvalid
    · rfl
    · rfl
    · split <;> rfl

theorem deriveFullStatus_collecting {now : ℤ} (h : auth.tokenAvailable now = .ok ())
    (generation : Uuid) (mode : StoppedMode) (inFlight : Bool) (fuse : FuseSnapshot)
    (holder : HolderKind) :
    (auth.deriveFullStatus now generation mode inFlight fuse holder).collecting := by
  have hbase := deriveStatus_collecting h generation mode inFlight fuse
  obtain ⟨-, -, hhold, hobserver, husable⟩ := tokenAvailable_eq_ok h
  have hreason : auth.observerReason now = none := by
    unfold observerReason
    rw [hobserver, husable]
    rfl
  unfold deriveFullStatus
  dsimp only
  rw [hreason, hhold]
  split
  any_goals exact hbase
  split_ifs
  · exact hbase
  · contradiction
  · exact hbase

theorem tokenAvailable_of_not_collecting {now : ℤ} {generation : Uuid} {mode : StoppedMode}
    {inFlight : Bool} {fuse : FuseSnapshot} {holder : HolderKind}
    (h : (auth.deriveFullStatus now generation mode inFlight fuse holder).collecting = false) :
    ∃ error, auth.tokenAvailable now = .error error := by
  cases htoken : auth.tokenAvailable now with
  | error error => exact ⟨error, rfl⟩
  | ok token =>
    have hcollecting := deriveFullStatus_collecting htoken generation mode inFlight fuse holder
    rw [h] at hcollecting
    cases hcollecting

def inUse (usableUntil : Option ℤ) (stop : Option AuthStop) : LegacyAuth :=
  { accessToken := "a".toList, refreshToken := "r".toList, expiresAt := 0, nextRefreshAt := 0
    tokenEndpoint := some "t".toList, usableUntil, startupRefreshPending := false, stop }

end LegacyAuth

end TeslatlasHub.Credentials
