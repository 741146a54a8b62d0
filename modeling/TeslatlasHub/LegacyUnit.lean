import TeslatlasHub.LegacyAttempt
import TeslatlasHub.LegacyRejection
import TeslatlasHub.LegacySystem

namespace TeslatlasHub.Credentials

class TokenClaims extends TokenReading where
  accessDigest : List Char → Uuid
  expiry : List Char → Option ℤ

/-! ### The detached exchange -/

inductive ExchangePhase where
  | reserving
  | reserved (attempt : Attempt)
  | sent (attempt : Attempt) (sentAt : ℤ)
  deriving DecidableEq

inductive Flight where
  | idle
  | running (input : ExchangeInput) (phase : ExchangePhase)
  | finished (result : ExchangeResult)
  deriving DecidableEq

def Flight.isRunning : Flight → Bool
  | .running .. => true
  | .idle | .finished _ => false

inductive Unsent where
  | unprepared | refused | shutdown
  deriving DecidableEq

def Unsent.kind : Unsent → ExchangeKind
  | .unprepared => .notSent .network
  | .refused => .notSent .sensitiveAccess
  | .shutdown => .aborted

inductive PersistStep where
  | done | pending | external
  deriving DecidableEq

def persistStep (successor : ScheduledSuccessor) (reread : Option PersistReread)
    (guard written : Bool) :
    PersistStep :=
  let write : PersistStep := if guard && written then .done else .pending
  match reread with
  | some .alreadyPersisted =>
    if successor.kind = .rotated ∨ successor.output ≠ successor.attempt.input then .done else write
  | some .closedForThisAttempt => .done
  | some .external => .external
  | some .stillInput | some .missing | none => write

structure ExchangeAnswer where
  exchange : Exchange
  expiresIn : Option ExpiresIn := none
  serverDate : Option ℤ := none
  (guard closed written : Bool := true)
  deriving DecidableEq

def panicked (now : ℤ) : ExchangeResult :=
  { kind := .failed .unknown (.rotationOutcomeUnknown false) none none, finishedAt := now }

def runAnswer [TokenClaims] (attempt : Attempt) (input : ExchangeInput) (sentAt now : ℤ)
    (answer : ExchangeAnswer) : ExchangeResult :=
  let close (closing : Closing) : Option PendingClose :=
    if answer.closed then none else some (.close attempt closing)
  match answer.exchange with
  | .notSent =>
    { kind := .notSent .network, finishedAt := now, pendingClose := close ⟨.transportError, none,
      none, true⟩ }
  | .connectTimedOut =>
    { kind := .notSent .network, finishedAt := now, pendingClose := close ⟨.timeout, none, none,
      true⟩ }
  | .unknown =>
    { kind := .failed .unknown (.rotationOutcomeUnknown
      !answer.guard) none none, finishedAt := now }
  | .answer raw =>
    match classifyAnswer raw input.accessToken input.refreshToken input.pinnedIssuer with
    | .error failed =>
      { kind := .failed failed.kind (.exchange failed.error) (some raw.status) raw.retryAfter
        finishedAt := now, serverDate := answer.serverDate
        pendingClose := (closingFor failed.kind raw.status raw.retryAfter).bind close }
    | .ok accepted =>
      if accepted.kind = .notRenewed then
        { kind := .failed .notRenewed .refreshNotRenewed (some raw.status) none
          finishedAt := now, serverDate := answer.serverDate
          pendingClose := (closingFor .notRenewed raw.status none).bind close }
      else
        match successorOf accepted attempt with
        | none =>
          { kind := .failed .consumedWithoutSuccessor (.exchange .invalidResponse) (some
            raw.status) none
            finishedAt := now, serverDate := answer.serverDate }
        | some pair =>
          match Schedule.afterSendI64 sentAt answer.expiresIn (TokenClaims.expiry
            pair.accessToken) with
          -- an overflow ends the task as any panic does
          | none => panicked now
          | some schedule =>
            let successor : ScheduledSuccessor := { pair with schedule, sentAt }
            let kind : ExchangeKind :=
              match persistStep successor none answer.guard answer.written with
              | .done => .persisted successor
              | .pending => .pending successor
              | .external => .external
            { kind, finishedAt := now, serverDate := answer.serverDate }

structure LoadedPair where
  (accessToken refreshToken : List Char)
  (expiresAt nextRefreshAt : ℤ := 0)
  tokenEndpoint : Option (List Char)
  usableUntil : Option ℤ := none
  startupRefreshPending : Bool := false
  deriving DecidableEq

def LoadedPair.auth (pair : LoadedPair) : LegacyAuth :=
  { accessToken := pair.accessToken, refreshToken := pair.refreshToken, expiresAt := pair.expiresAt
    nextRefreshAt := pair.nextRefreshAt, tokenEndpoint := pair.tokenEndpoint, usableUntil :=
      pair.usableUntil
    startupRefreshPending := pair.startupRefreshPending }

inductive Adoption where
  | failed (lost : Bool)
  | loaded (generation : Uuid) (pair : LoadedPair)
  | misconfigured (generation : Uuid) (reason : ConfigurationReason)
  | invalid (generation : Uuid)
  deriving DecidableEq

inductive StoredPairRelation where
  | current | ownOutput | external | missing
  deriving DecidableEq

structure LegacyAuthManager where
  auth : LegacyAuth
  generation : Uuid
  observer : Bool := false
  flight : Flight := .idle
  fuse : FuseSnapshot := {}
  configError : Option ConfigurationReason := none
  lastStoredCheck : ℤ := 0
  adopted : Bool := false
  fuseHandoff : Option FuseSnapshot := none
  (fuseResetPending fusePauseSpent : Bool := false)
  owedRefreshNotBefore : ℤ := 0
  shutdown : Bool := false
  deriving DecidableEq

structure StoreAnswers where
  spread : Option ℚ := none
  relation : Option StoredPairRelation := some .current
  adoption : Adoption := .failed false
  closed : Bool := true
  reread : PersistReread := .stillInput
  (guard written : Bool := true)
  deriving DecidableEq

def externalWriteRecheckSeconds : ℤ := 60

namespace LegacyAuthManager

variable (m : LegacyAuthManager)

def holder : HolderKind :=
  if m.observer then .observer
  else if m.auth.tokenEndpoint.isNone then .accessTokenOnly else .managed

def adoptStoredPair (external : Bool) (now : ℤ) (adoption : Adoption) : LegacyAuthManager × Bool :=
  match adoption with
  | .failed _ => (m, false)
  | .loaded generation pair =>
    let fresh : LegacyAuth :=
      { pair.auth with
        clockSkew := m.auth.clockSkew
        lastSuccessAt := m.auth.lastSuccessAt
        tokenRequestsNotBefore := m.auth.tokenRequestsNotBefore }
    let m : LegacyAuthManager :=
      if external then
        { m with
          auth := { fresh with stop := m.auth.stop.filter fun stop => !stop.liftedByExternalWrite }
          fuse := {}, fuseResetPending := true }
      else
        { m with
          auth := { fresh with
            stop := m.auth.stop, holdUntil := m.auth.holdUntil, forcedAfterHold :=
              m.auth.forcedAfterHold } }
    ({ m with generation, configError := none, lastStoredCheck := now, adopted := true }, true)
  | .misconfigured generation reason =>
    let auth := if external && m.auth.stop.any AuthStop.liftedByExternalWrite then
        LegacyAuth.clearRetry { m.auth with stop := none }
      else m.auth
    ({ m with
        auth, generation, fuse := {}, fuseResetPending := true, configError := some reason
        lastStoredCheck := now, adopted := true }, true)
  | .invalid generation =>
    ({ m with
        auth := m.auth.setStop (.signedOut .storedPairInvalid), generation, fuse := {}
        fuseResetPending := true, configError := none, lastStoredCheck := now, adopted := true },
          true)

def adoptIfStoredPairChanged (now : ℤ) (store : StoreAnswers) : LegacyAuthManager × Bool :=
  match store.relation with
  | some .external => m.adoptStoredPair true now store.adoption
  | some .ownOutput => m.adoptStoredPair false now store.adoption
  | some .current | some .missing | none => (m, false)

def applyFlightResult (result : ExchangeResult) (now : ℤ) (store : StoreAnswers) :
    LegacyAuthManager :=
  let (auth, applied) := m.auth.applyResult result store.spread
  let m : LegacyAuthManager := { m with auth }
  match applied with
  | .done _ =>
    match result.kind with
    | .persisted successor => { m with generation := successor.output }
    | _ => m
  | .adopt external =>
    let (adopting, ok) := m.adoptStoredPair external now store.adoption
    if ok || store.adoption == .failed true then adopting
    else { adopting with auth := adopting.auth.storeUnavailable now store.spread }

def retryPendingClose (now : ℤ) (store : StoreAnswers) : LegacyAuthManager :=
  if m.auth.closeRetryDue now then
    { m with auth := if store.closed then m.auth.clearClose else m.auth.noteCloseFailure now }
  else m

def retryPendingSuccessor (now : ℤ) (store : StoreAnswers) : LegacyAuthManager :=
  match m.auth.pendingSuccessor with
  | none => m
  | some successor =>
    if m.auth.persistRetryDue now then
      match persistStep successor (some store.reread) store.guard store.written with
      | .done =>
        { m with
          auth := m.auth.applyPersisted successor now store.spread, generation := successor.output }
      | .pending => { m with auth := m.auth.notePersistFailure now }
      | .external =>
        (LegacyAuthManager.adoptStoredPair
          { m with auth := { m.auth with pendingSuccessor := none } } true now
          store.adoption).1
    else m

def takeResult (now : ℤ) (store : StoreAnswers) : LegacyAuthManager :=
  match m.flight with
  | .finished result =>
    LegacyAuthManager.applyFlightResult { m with flight := .idle } result now store
  | .idle | .running .. => m

def settle (now : ℤ) (store : StoreAnswers) : LegacyAuthManager :=
  let m := ((m.takeResult now store).retryPendingClose now store).retryPendingSuccessor now store
  { m with auth := m.auth.settleStop now }

def recheckWaitingObserver (now : ℤ) (store : StoreAnswers) : LegacyAuthManager :=
  if (m.auth.observerRejected || !m.auth.isUsable now) &&
      decide (externalWriteRecheckSeconds ≤ now-m.lastStoredCheck) then
    let (adopting, changed) :=
      LegacyAuthManager.adoptIfStoredPairChanged { m with lastStoredCheck := now } now store
    if changed then adopting.settle now store else adopting
  else m

def gateAfterWait (now : ℤ) (forced : Bool) (later : ℤ) : ℤ × Option Block :=
  match m.auth.gate now m.flight.isRunning with
  | some (.until time) =>
    if forced && decide (time-now ≤ minRefreshIntervalSeconds) then
      (later, m.auth.gate later m.flight.isRunning)
    else (now, some (.until time))
  | block => (now, block)

def startExchange (now : ℤ) (pinnedIssuer : Option (List Char)) : LegacyAuthManager :=
  match m.flight with
  | .idle =>
    let owedAfterPause := m.auth.forcedAfterHold && m.auth.holdUntil.all fun u => decide (u ≤ now)
    let started : LegacyAuthManager :=
      { m with
        flight := .running
          { accessToken := m.auth.accessToken, refreshToken := m.auth.refreshToken, pinnedIssuer }
          .reserving }
    if owedAfterPause then
      { started with
        auth := { started.auth with forcedAfterHold := false }, fusePauseSpent := true }
    else started
  | .running .. | .finished _ => m

def refreshPermitted (now : ℤ) (forced : Bool) (store : StoreAnswers)
    (pinnedIssuer : Option (List Char)) : LegacyAuthManager :=
  let owedAfterPause := m.auth.forcedAfterHold && m.auth.holdUntil.all fun u => decide (u ≤ now)
  if !forced && !owedAfterPause && !m.auth.isDue now then m
  else
    let (adopting, changed) := m.adoptIfStoredPairChanged now store
    if changed then adopting.settle now store
    else if m.shutdown || !store.guard || m.auth.tokenEndpoint.isNone then adopting
    else adopting.startExchange now pinnedIssuer

def recheckStopped (now : ℤ) (store : StoreAnswers) : LegacyAuthManager :=
  if externalWriteRecheckSeconds ≤ now-m.lastStoredCheck then
    let (adopting, changed) :=
      LegacyAuthManager.adoptIfStoredPairChanged { m with lastStoredCheck := now } now store
    if changed then adopting.settle now store else adopting
  else m

def refresh (now : ℤ) (forced : Bool) (later : ℤ) (first second : StoreAnswers)
    (pinnedIssuer : Option (List Char)) : LegacyAuthManager :=
  let m := LegacyAuthManager.settle { m with adopted := false } now first
  if m.flight.isRunning || m.adopted then m
  else if m.observer then m.recheckWaitingObserver now second
  else if m.configError.isSome then m
  else
    match m.gateAfterWait now forced later with
    | (now, none) => m.refreshPermitted now forced second pinnedIssuer
    | (now, some .stopped) => m.recheckStopped now second
    | (_, some _) => m

def stopView (now : ℤ) : Bool :=
  (m.configError.isSome && m.auth.stop.isNone) || (m.auth.effectiveStop now).any
    AuthStop.blocksRequests

def ownerRetry (now : ℤ) (unresolved : Bool) : LegacyAuthManager :=
  let auth := m.auth.settleStop now
  if auth.stop.any AuthStop.liftedByOwnerRetry then
    let lifted : LegacyAuth :=
      LegacyAuth.clearRetry
        { auth with
          stop := none, clientRefusals := 0, holdUntil := none, forcedAfterHold := false
          observerRejected := false }
    { m with
      auth := if unresolved then lifted.setStop (.signedOut .refreshOutcomeUnknown) else lifted
      fuse := {}, fuseResetPending := true }
  else { m with auth }

end LegacyAuthManager

inductive Evidence where
  | counted (generation : Uuid) (time : ℤ) (action : RejectionAction)
  | cleared
  deriving DecidableEq

structure CredentialUnit where
  now : ℤ
  manager : LegacyAuthManager
  fuse : LegacyAuthFuse := {}
  sent : List ℤ := []
  evidence : List Evidence := []

structure Carried where
  generation : Uuid
  accessToken : List Char
  deriving DecidableEq

inductive ReadAnswer where
  | success | unauthorised | other
  deriving DecidableEq

def RejectionAction.counts : RejectionAction → Bool
  | .forceRefreshThenRetry | .pauseThenRefresh _ | .pauseThenConfirm _ | .stop _ | .observerWait =>
    true
  | .retryWithCurrent | .notCounted | .coalesced | .vehicleRejected _ | .confirm => false

namespace CredentialUnit

variable (u : CredentialUnit)

def auth : LegacyAuth := u.manager.auth

def setAuth (auth : LegacyAuth) : CredentialUnit :=
  { u with manager := { u.manager with auth } }

def syncFuse : CredentialUnit :=
  let u : CredentialUnit :=
    if u.manager.fuseResetPending then
      { u with
        fuse := u.fuse.reset
        manager := { u.manager with fuseResetPending := false, fuseHandoff := none, fuse := {} }
        evidence := .cleared :: u.evidence }
    else u
  let u : CredentialUnit :=
    match u.manager.fuseHandoff with
    | none => u
    | some restored =>
      { u with
        fuse := if u.fuse.snapshot = {} then LegacyAuthFuse.fromSnapshot restored else u.fuse
        manager := { u.manager with fuseHandoff := none } }
  let u : CredentialUnit :=
    if u.manager.fusePauseSpent then
      { u with fuse := u.fuse.clearPause, manager := { u.manager with fusePauseSpent := false } }
    else u
  let fuse := u.fuse.noteStop u.auth.stop.isSome
  let snapshot := fuse.snapshot
  -- a pause that begins now owes the forced refresh that follows it
  let begins : Bool := snapshot.pauseUntil.isSome && snapshot.pauseUntil !=
      u.manager.fuse.pauseUntil &&
    u.manager.holder == .managed
  let forcedAfterHold := u.auth.forcedAfterHold || begins
  let owedHold : Option ℤ := if forcedAfterHold && decide (0 < u.manager.owedRefreshNotBefore) then
      some u.manager.owedRefreshNotBefore else none
  let holdUntil : Option ℤ := match snapshot.pauseUntil, owedHold with
    | some pause, some owed => some (max pause owed)
    | pause, owed => pause.or owed
  { u with fuse, manager := { u.manager with
      auth := { u.auth with forcedAfterHold, holdUntil }, fuse := snapshot } }

def isCurrent (carried : Carried) : Bool :=
  u.manager.generation == carried.generation && u.auth.accessToken == carried.accessToken

def carried : Carried := ⟨u.manager.generation, u.auth.accessToken⟩

def signIn : Option SignOutReason :=
  match u.auth.stop with
  | some (.signInRequired reason) => some reason
  | _ => none

def rejectionContext [TokenClaims] (u : CredentialUnit) (scope : RequestScope) (generation : Uuid) :
    RejectionContext :=
  { scope, generation
    current := u.manager.generation
    tokenUsable := clockIsValid u.now && u.auth.isUsable u.now
    remedyPending := u.manager.holder != .observer &&
      (u.auth.remedyPending || u.manager.flight.isRunning)
    holder := u.manager.holder
    accessDigest := TokenClaims.accessDigest u.auth.accessToken
    signIn := u.signIn }

def stopAccount (reason : SignOutReason) : CredentialUnit :=
  u.setAuth { u.auth.setStop (.signedOut reason) with holdUntil := none, forcedAfterHold := false }

def carryOut : RejectionAction → CredentialUnit
  | .stop reason => (u.stopAccount reason).syncFuse
  | .observerWait =>
    syncFuse { u with manager := { u.manager with
      auth := { u.auth with observerRejected := true }, lastStoredCheck := u.now } }
  | .retryWithCurrent | .notCounted | .coalesced | .vehicleRejected
      _ | .confirm | .forceRefreshThenRetry
  | .pauseThenRefresh _ | .pauseThenConfirm _ => u

def judged (generation : Uuid) (decision : LegacyAuthFuse × RejectionAction) : CredentialUnit :=
  syncFuse
    { u with
      fuse := decision.1
      evidence := if decision.2.counts then .counted generation u.now decision.2 :: u.evidence else
        u.evidence }

def noteSuccess (scope : RequestScope) (carried : Carried) : CredentialUnit :=
  if u.isCurrent carried then
    syncFuse { u with fuse := u.fuse.recordSuccess scope, evidence := .cleared :: u.evidence }
  else u.syncFuse

def confirmationRead (carried : Carried) (read : ReadAnswer) (later : ℤ) :
    CredentialUnit × Option ReadAnswer :=
  match u.fuse.beginConfirmation u.now with
  | none => (u, none)
  | some fuse =>
    if u.manager.configError.isSome || !(u.auth.tokenAvailable u.now).isOk then
      ({ u with fuse := fuse.finishConfirmation }, none)
    else
      let answered : CredentialUnit := { u with fuse, now := later }
      let noted := if read = .success then answered.noteSuccess .account carried else
          answered.syncFuse
      ({ noted with fuse := noted.fuse.finishConfirmation }, some read)

def countConfirmed [TokenClaims] (u : CredentialUnit) (carried : Carried) : CredentialUnit :=
  let decision := u.fuse.countRejection u.now (u.rejectionContext .account carried.generation)
  (u.judged carried.generation decision).carryOut decision.2

def handleUnauthorised [TokenClaims] (u : CredentialUnit) (scope : RequestScope) (carried : Carried)
    (read : ReadAnswer) (later : ℤ) : CredentialUnit :=
  let decision : LegacyAuthFuse × RejectionAction :=
    if u.isCurrent carried then
      u.fuse.recordRejection u.now (u.rejectionContext scope carried.generation)
    else (u.fuse, .retryWithCurrent)
  let judged := u.judged carried.generation decision
  if decision.2 = .confirm then
    match judged.confirmationRead carried read later with
    | (found, some .success) =>
      match scope.vehicle? with
      | some id =>
        syncFuse { found with fuse := found.fuse.markVehicleRejected id carried.generation }
      | none => found.syncFuse
    | (found, some .unauthorised) => found.countConfirmed carried
    | (found, _) => found
  else judged.carryOut decision.2

def confirmStreamRejection [TokenClaims] (u : CredentialUnit) (read : ReadAnswer) (later : ℤ) :
    CredentialUnit :=
  let u := u.syncFuse
  let carried := u.carried
  if u.fuse.blown || u.fuse.streamClearedGeneration == some carried.generation then u
  else
    match u.confirmationRead carried read later with
    | (found, some .success) =>
      { found with fuse := found.fuse.noteStreamCleared carried.generation }
    | (found, some .unauthorised) => found.countConfirmed carried
    | (found, _) => found

end CredentialUnit

inductive UnitAction where
  | clock (now : ℤ)
  | dated (serverDate : Option ℤ)
  | sync
  | service (store : StoreAnswers)
  | refresh (forced : Bool) (later : ℤ) (first second : StoreAnswers)
      (pinnedIssuer : Option (List Char))
  | recheck (store : StoreAnswers)
  | begin (outcome : Except BeginFailure ℤ)
  | cancel (why : Unsent) (closed : Bool)
  | send
  | answer (answer : ExchangeAnswer)
  | panic
  | unauthorised (scope : RequestScope) (carried : Carried) (read : ReadAnswer) (later : ℤ)
  | streamRejected (read : ReadAnswer) (later : ℤ)
  | succeeded (scope : RequestScope) (carried : Carried)
  | ownerRetry (unresolved : Bool)
  | shutdown

namespace CredentialUnit

def publish (u : CredentialUnit) (result : ExchangeResult) : CredentialUnit :=
  { u with manager := { u.manager with flight := .finished result } }

def setPhase (u : CredentialUnit) (input : ExchangeInput) (phase : ExchangePhase) :
    CredentialUnit :=
  { u with manager := { u.manager with flight := .running input phase } }

def exchangeStep [TokenClaims] (u : CredentialUnit) (action : UnitAction) : CredentialUnit :=
  match u.manager.flight, action with
  | .running input .reserving, .begin (.ok receipt) =>
    u.setPhase input (.reserved ⟨receipt, u.manager.generation⟩)
  | .running _ .reserving, .begin (.error failure) =>
    u.publish { kind := .rowChanged failure, finishedAt := u.now }
  | .running _ (.reserved attempt), .cancel why closed =>
    u.publish
      { kind := why.kind, finishedAt := u.now
        pendingClose := if closed then none else some (.cancel attempt) }
  | .running input (.reserved attempt), .send =>
    if u.manager.shutdown then u
    else { u.setPhase input (.sent attempt u.now) with sent := u.now :: u.sent }
  | .running input (.sent attempt sentAt), .answer answer =>
    u.publish (runAnswer attempt input sentAt u.now answer)
  | .running _ _, .panic => u.publish (panicked u.now)
  | _, _ => u

def step [TokenClaims] (u : CredentialUnit) (action : UnitAction) : CredentialUnit :=
  match action with
  | .clock now => { u with now }
  | .dated serverDate =>
    u.setAuth { u.auth with clockSkew := skewAfterAnswer u.auth.clockSkew serverDate u.now }
  | .sync => u.syncFuse
  | .service store => { u with manager := u.manager.settle u.now store }
  | .refresh forced later first second pinnedIssuer =>
    { u with
      now := later, manager := u.manager.refresh u.now forced later first second pinnedIssuer }
  | .recheck store =>
    if u.manager.stopView u.now then { u with manager := u.manager.recheckStopped u.now store } else
      u
  | .unauthorised scope carried read later => u.handleUnauthorised scope carried read later
  | .streamRejected read later => u.confirmStreamRejection read later
  | .succeeded scope carried => u.noteSuccess scope carried
  | .ownerRetry unresolved => { u with manager := u.manager.ownerRetry u.now unresolved }
  | .shutdown => { u with manager := { u.manager with shutdown := true } }
  | .begin _ | .cancel .. | .send | .answer _ | .panic => u.exchangeStep action

abbrev opaqueTokens : TokenClaims :=
  { issuer := fun _ => none, generation := fun token => BitVec.ofNat 128 token.length
    accessDigest := fun token => BitVec.ofNat 128 token.length, expiry := fun _ => none }

def managedUnit (generation : Uuid) : CredentialUnit :=
  { now := validNow, manager := { auth := LegacyAuth.inUse none none, generation } }

end CredentialUnit

end TeslatlasHub.Credentials
