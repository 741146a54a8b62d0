import TeslatlasHub.SchedulerAccount
import TeslatlasHub.SchedulerCar
import TeslatlasHub.SchedulerLedger

namespace TeslatlasHub.Collector

/-! ### The durable state the scheduler keeps beside the store (C3 R4 to R8) -/

inductive GapKind where
  | hostSuspended | rateLimited | teslaUnreachable | vehiclePaused | authTerminal | ownerApiRefused
  | providerRefused | fleetAccessRefused | billingSuspended | capReached | configError
      | accountLocked
  deriving DecidableEq

def GapKind.ofAccountState : AccountState → Option GapKind
  | .collecting => none
  | .ownerApiRefused => some .ownerApiRefused
  | .providerRefused => some .providerRefused
  | .fleetAccessRefused => some .fleetAccessRefused
  | .billingSuspended => some .billingSuspended
  | .capReached => some .capReached
  | .configError => some .configError
  | .accountLocked => some .accountLocked
  | .credentialStop => some .authTerminal

instance : LinearOrder GapKind :=
  LinearOrder.lift' GapKind.ctorIdx (by
    intro a b h
    cases a <;> cases b <;> first | rfl | cases h)

structure GapKey where
  kind : GapKind
  vehicle : Option VehicleId
  deriving DecidableEq

instance : LinearOrder GapKey :=
  LinearOrder.lift' (fun key : GapKey => toLex (key.kind, key.vehicle.elim 0 (·+1))) (by
    rintro ⟨k, v⟩ ⟨k', v'⟩ h
    obtain ⟨rfl, hv⟩ := Prod.mk.inj (toLex.injective h)
    cases v <;> cases v' <;> simp_all)

structure OpenGap where
  startedMs : ℤ
  alert : Bool
  hubId : Option Uuid
  deriving DecidableEq

structure GapRecord where
  kind : GapKind
  (startedMs endedMs : ℤ)
  alert : Bool
  deriving DecidableEq

structure GapOpen where
  key : GapKey
  hubId : Option Uuid
  startedMs : ℤ
  alert : Bool
  deriving DecidableEq

structure GapClose where
  key : GapKey
  hubId : Option Uuid
  (endedMs alertAtOrOverMs : ℤ)
  deriving DecidableEq

structure AccountView where
  state : AccountState
  reason : Reason
  sinceMs : ℤ
  (rateLimitedUntil nextProbe : Option Instant)
  deriving DecidableEq

structure VehicleView where
  phase : PollPhase
  hold : VehicleHold
  reason : Reason
  phaseSinceMs : ℤ
  (suspendedUntil nextProbe lastWakeRead : Option Instant)
  deriving DecidableEq

structure CollectorAccountRow where
  mode : CollectorMode
  configFingerprint : String
  state : AccountState
  reasonCode : Reason
  sinceMs : ℤ
  (rateLimitedUntilMs nextProbeMs : Option ℤ)
  deriving DecidableEq

structure AccountWrite where
  view : AccountView
  row : CollectorAccountRow
  deriving DecidableEq

structure VehicleWrite where
  id : VehicleId
  view : VehicleView
  row : CollectorVehicleRow
  deriving DecidableEq

abbrev ActionId := ℤ

inductive OwnerActionKind where
  | retryCollection | resumeVehicle
  deriving DecidableEq

structure OwnerActionRow where
  id : ActionId
  kind : OwnerActionKind
  vehicle : Option Uuid
  deriving DecidableEq

structure PendingTick where
  gaps : List GapRecord := []
  account : Option AccountWrite := none
  vehicles : List VehicleWrite := []
  gapOpens : List GapOpen := []
  gapCloses : List GapClose := []
  counters : List CollectorCounterRow := []
  appliedActions : List ActionId := []
  deriving DecidableEq

structure VehicleBaseline where
  state : ReportedState
  phase : PollPhase
  phaseSince : Instant × ℤ
  hold : VehicleHold
  reason : Reason
  reportedState : Option ReportedState
  (nextReadDue nextCheckDue nextProbeDue suspendAt suspendedUntil lastInUse : Option Instant)
  lastSuccess : Option (Instant × ℤ)
  offlineFromSession : Bool
  consecutiveFailures : ℕ
  firstFailure : Option Instant
  lastError : Option ErrorClass
  missingLists : ℕ
  missingLast : Option Instant
  (notFoundCheck placeholder : Bool)
  deriving DecidableEq

structure AccountBaseline where
  state : AccountState
  stateReason : Reason
  stateSinceMs : ℤ
  (lastDiscovery listFloor listWanted : Option Instant)
  discoveryFailures : ℕ
  nextBillingProbe : Option Instant
  telemetryCheckDue : Bool
  deriving DecidableEq

structure TickBaseline where
  vehicles : OrderedMap VehicleId VehicleBaseline
  account : AccountBaseline

structure VehicleScheduler where
  mode : CollectorMode
  timing : Timing
  /-- The draws still to come from the jitter source (C3 R44). -/
  jitter : ℕ → ℚ
  vehicles : OrderedMap VehicleId ScheduledVehicle := .empty
  account : AccountRecord
  createdAt : Instant
  /-- The last pair of clock readings seen by the clock watch (R2). -/
  clockWatch : Instant × ℤ
  ledger : LedgerState
  pending : PendingTick := {}
  persistedAccount : AccountView
  persistedVehicles : OrderedMap VehicleId VehicleView := .empty
  openGaps : OrderedMap GapKey OpenGap := .empty
  gapEpisodes : OrderedMap GapKind (Instant × ℤ) := .empty
  configFingerprint : String
  /-- Stored rows of cars no list has named yet (C3 R7 step 2). -/
  restored : OrderedMap VehicleId RestoredVehicle := .empty
  baseline : Option TickBaseline := none
  streamDelivery : Bool
  /-- The cars whose stream power gate the loop must revoke (C3 R36). -/
  gateRevocations : Finset VehicleId := ∅

structure ListedVehicle where
  id : VehicleId
  vehicle : Vehicle
  deriving DecidableEq

def noFingerprint : String := "0000000000000000000000000000000000000000000000000000000000000000"

def AccountRecord.view (a : AccountRecord) : AccountView :=
  ⟨a.state, a.stateReason, a.stateSinceMs, none, a.nextBillingProbe⟩

namespace VehicleScheduler

def newWith (cadence : CollectorCadence) (mode : CollectorMode) (fleet : FleetPolicy) (m : Moment)
    (jitter : ℕ → ℚ) : VehicleScheduler :=
  let wallMs := m.wall.getD 0
  let account : AccountRecord := { stateSinceMs := wallMs }
  { mode
    timing := Timing.new cadence mode fleet
    jitter
    account
    createdAt := m.now
    clockWatch := (m.now, wallMs)
    ledger := LedgerState.new mode fleet m
    persistedAccount := account.view
    configFingerprint := noFingerprint
    streamDelivery := mode = .legacy }

variable (s : VehicleScheduler)

variable (m : Moment)

def wallOrLast : ℤ := m.wall.getD s.clockWatch.2

def jitterTail : ℕ → ℚ := fun n => s.jitter (n+1)

def modifyCar (id : VehicleId) (f : ScheduledVehicle → ScheduledVehicle) : VehicleScheduler :=
  { s with vehicles := s.vehicles.modify id f }

def modifyCarRevoking (id : VehicleId) (f : ScheduledVehicle → ScheduledVehicle × Bool) :
    VehicleScheduler :=
  { s with
    vehicles := s.vehicles.modify id fun v => (f v).1
    gateRevocations :=
      if (s.vehicles.get? id).any fun v => (f v).2 then insert id s.gateRevocations
      else s.gateRevocations }

def anyCarAwake (only : Option VehicleId) : Bool :=
  s.vehicles.entries.any fun entry =>
    only.all (· = entry.1) && !entry.2.isInactive &&
      (entry.2.phase.isReadPhase || (entry.2.phase = .suspended && entry.2.reportedOnline))

/-! ### Waits and states of the account -/

variable (now : Instant)

def requestsAllowed : Bool := s.account.requestsAllowed now

def rateLimited (retryAfterSeconds : ℕ) (now : Instant) : VehicleScheduler × Duration :=
  let draws := retryAfterSeconds = 0 && !s.account.waitRunning .rateLimited now
  let account := s.account.rateLimited s.timing retryAfterSeconds (s.jitter 0) now
  ({ s with account, jitter := if draws then s.jitterTail else s.jitter },
    account.waitRemaining now)

def unreachable : VehicleScheduler × Duration :=
  let draws := !s.account.waitRunning .teslaUnreachable now
  let account := s.account.unreachable s.timing (s.jitter 0) now
  ({ s with account, jitter := if draws then s.jitterTail else s.jitter },
    account.waitRemaining now)

def authFailed (credentialRetry : Option Duration) (now : Instant) : VehicleScheduler × Duration :=
  let draws := !s.account.waitRunning .authWait now
  let account := s.account.authFailed s.timing credentialRetry (s.jitter 0) now
  ({ s with account, jitter := if draws then s.jitterTail else s.jitter },
    account.waitRemaining now)

def noteAnswered : VehicleScheduler := { s with account := s.account.noteAnswered }

def noteSuccess : VehicleScheduler := { s with account := s.account.noteSuccess }

def endAuthWait : VehicleScheduler := { s with account := s.account.endAuthWait now }

def enterCredentialStop : VehicleScheduler :=
  { s with account := s.account.enterCredentialStop (s.wallOrLast m) }

def enterFleetRefreshStopAtStart : VehicleScheduler :=
  { s with account := s.account.enterFleetRefreshStopAtStart (s.wallOrLast m) }

def clearCredentialStop : VehicleScheduler :=
  { s with account := s.account.clearCredentialStop m.now (s.wallOrLast m) }

def enterAccountState (state : AccountState) (reason : Reason) (m : Moment) : VehicleScheduler :=
  { s with account := s.account.enterAccountState state reason m.now (s.wallOrLast m) }

def enterRefusal (cause : RefusalCause) (m : Moment) : VehicleScheduler :=
  let refusal := refusalFor s.mode cause
  s.enterAccountState refusal.1 refusal.2 m

def accountFailed (cls : ErrorClass) (error : CollectorError) (m : Moment) :
    VehicleScheduler × Option Duration :=
  if cls.isAccountStateClass then
    let failed := s.account.accountStateFailed s.mode cls error m.now (s.wallOrLast m)
    ({ s with account := failed.1 }, some failed.2)
  else if !cls.isAccountWaitClass then (s, none)
  else
    match cls with
    | .rateLimited =>
      let failed := s.rateLimited ((rateLimitRetryAfterSeconds error).getD 0) m.now
      (failed.1, some failed.2)
    | .unreachable =>
      let failed := s.unreachable m.now
      (failed.1, some failed.2)
    | .credentialStop => (s.enterCredentialStop m, some controlSettingsRefresh)
    | _ =>
      let credentialRetry :=
        match error with
        | .fleetCredential error => fleetRefreshRetryDelay error
        | error => legacyAuthRetryAfter error (s.wallOrLast m)
      let failed := s.authFailed credentialRetry m.now
      (failed.1, some failed.2)

def checkEveryVehicleRefused : VehicleScheduler :=
  let collected := s.vehicles.values.filter (!·.isInactive)
  if s.mode.isOwnerWire && s.account.state = .collecting && !collected.isEmpty &&
      collected.all (·.hold = .paused .accessRefused) then
    s.enterRefusal .forbidden m
  else s

/-! ### The account list -/

def listInterval : Duration :=
  let intervals := (s.vehicles.values.filter (·.needsStateCheck)).map
      (s.timing.stateInterval ·.phase)
  max (intervals.min?.getD s.timing.inventory) kLoopFloor

def listDueAt : Option Instant :=
  let a := s.account
  if a.state = .credentialStop then none
  else if a.state ≠ .collecting then a.nextBillingProbe.map a.afterWait
  else
    let routine := a.lastDiscovery.elim s.createdAt (deadlineAfter · s.listInterval)
    let due := a.listWanted.elim routine (min routine ·)
    some (a.afterWait (a.listFloor.elim due (max due ·)))

def discoveryDue : Bool := s.listDueAt.any (· ≤ now)

def discoveryFailed : VehicleScheduler × Duration :=
  let failures := s.account.discoveryFailures+1
  let delay := max s.listInterval (backoffDelay failures s.timing.maxBackoff (s.jitter 0))
  ({ s with
      account := { s.account with
        discoveryFailures := failures, listFloor := some (deadlineAfter now delay) }
      jitter := s.jitterTail },
    delay)

/-! ### Failures of a car's requests (C3 R22, R46, R51 to R53) -/

def pauseVehicle (id : VehicleId) (reason : PauseReason) (cls : ErrorClass) (m : Moment) :
    VehicleScheduler :=
  let paused := s.modifyCar id (·.pause reason cls m.now)
  if reason = .accessRefused && (s.vehicles.get? id).any (!·.isInactive) then
    paused.checkEveryVehicleRefused m
  else paused

def countVehicleFailure (id : VehicleId) (cls : ErrorClass) (m : Moment) : VehicleScheduler :=
  { s with
    vehicles := s.vehicles.modify id fun v =>
      (v.countFailure s.timing cls (s.jitter 0) m.now).pauseIfPersistent m.now
    jitter := s.jitterTail }

def scheduleOfflineStateFetch (id : VehicleId) (now : Instant) : VehicleScheduler :=
  if (s.vehicles.get? id).all (·.isInactive) then s
  else if s.mode.isOwnerWire then s.modifyCar id ({ · with nextCheckDue := some now })
  else { s with account := { s.account with listWanted := some now } }

def readUnavailable (id : VehicleId) (now : Instant) : VehicleScheduler :=
  (s.modifyCar id (·.readUnavailable s.timing now)).scheduleOfflineStateFetch id now

def vehicleNotFound (id : VehicleId) (now : Instant) : VehicleScheduler :=
  if s.vehicles.contains id then
    { s.modifyCar id (·.notFound s.timing now) with
      account := { s.account with listWanted := some now } }
  else s

def requestRefusalCheck : VehicleScheduler :=
  { s with account := { s.account with listWanted := some now } }

def checkRefusal (error : CollectorError) (now : Instant) : VehicleScheduler :=
  if s.mode.isOwnerWire && isOwnerWireForbidden error then s.requestRefusalCheck now else s

def releaseAfterAccountFailure (id : VehicleId) (cls : ErrorClass) (m : Moment) :
    VehicleScheduler :=
  s.modifyCar id (·.releaseAfterAccountFailure s.timing cls (s.account.wait.map (·.1)) m.now
    (s.wallOrLast m))

def vehicleClassFailure (id : VehicleId) (cls : ErrorClass) (m : Moment) :
    VehicleScheduler × Bool :=
  match s.vehicles.get? id with
  | none => (s, false)
  | some v =>
    if v.phase = .updating && cls = .unavailable then
      (s.modifyCar id (·.installUnavailable s.timing m.now), false)
    else
      let failed := s.modifyCar id (·.readFailed s.timing m.now (s.wallOrLast m))
      match cls with
      | .unavailable => (failed.readUnavailable id m.now, false)
      | .notFound => (failed.vehicleNotFound id m.now, false)
      | .inService =>
        (failed.modifyCar id fun v => (v.enterServiceMode m.now).1,
          (v.readFailed s.timing m.now (s.wallOrLast m)).enterServiceMode m.now |>.2)
      | .mobileAccessDisabled => (failed.pauseVehicle id .mobileAccessDisabled cls m, false)
      | .legalPrivacy => (failed.pauseVehicle id .legalPrivacy cls m, false)
      | .accessRefused => (failed.pauseVehicle id .accessRefused cls m, false)
      | _ => (failed.countVehicleFailure id cls m, false)

def credentialOutcome (id : Option VehicleId) (outcome : CredentialOutcome) (m : Moment) :
    VehicleScheduler × Duration :=
  let release (s : VehicleScheduler) (cls : ErrorClass) : VehicleScheduler :=
    id.elim s (s.releaseAfterAccountFailure · cls m)
  match outcome with
  | .authUnavailable retryAfter =>
    let failed := s.authFailed (some retryAfter) m.now
    (release failed.1 .authWait, failed.2)
  | .ownerApiRefused refusal =>
    (release (s.noteAnswered.enterRefusal refusal.cause m) (ownerRefusal (s.mode = .provider)),
      controlSettingsRefresh)
  | .vehicleAccessRejected =>
    (id.elim s.noteAnswered fun id => (s.noteAnswered.vehicleClassFailure id .clientError m).1, 0)
  | .terminalStop => (release (s.enterCredentialStop m) .credentialStop, controlSettingsRefresh)

def discoveryFailedForError (error : CollectorError) (m : Moment) : VehicleScheduler × Duration :=
  let failed :=
    match credentialOutcomeFor error (s.wallOrLast m) with
    | some outcome => s.credentialOutcome none outcome m
    | none =>
      let cls := classify error .list s.mode
      let answered := if cls = .unreachable then s else s.noteAnswered
      match answered.accountFailed cls error m with
      | (failed, some delay) => (failed, delay)
      | (failed, none) => failed.discoveryFailed m.now
  if failed.1.account.state = .collecting then failed
  else (failed.1, min failed.2 controlSettingsRefresh)

def listRefusedAfterCheck : VehicleScheduler × Duration :=
  (s.noteAnswered.enterRefusal .forbidden m, controlSettingsRefresh)

def vehicleFailedForError (id : VehicleId) (error : CollectorError) (m : Moment) :
    VehicleScheduler × Bool :=
  match credentialOutcomeFor error (s.wallOrLast m) with
  | some outcome => ((s.credentialOutcome (some id) outcome m).1, false)
  | none =>
    let cls := classify error .read s.mode
    if cls = .gateNotConfirmed then (s.modifyCar id (·.gateNotConfirmed), false)
    else
      let answered := if cls = .unreachable then s else s.noteAnswered
      match answered.accountFailed cls error m with
      | (failed, some _) => (failed.releaseAfterAccountFailure id cls m, false)
      | (failed, none) => (failed.checkRefusal error m.now).vehicleClassFailure id cls m

def offlineStateFailedForError (id : VehicleId) (error : CollectorError) (m : Moment) :
    VehicleScheduler :=
  let cls := classify error .record s.mode
  let answered := if cls = .unreachable || cls = .gateNotConfirmed then s else s.noteAnswered
  match answered.accountFailed cls error m with
  | (failed, some _) => failed
  | (failed, none) =>
    let s := failed.checkRefusal error m.now
    let s :=
      match cls with
      | .notFound => s.vehicleNotFound id m.now
      | .mobileAccessDisabled => s.pauseVehicle id .mobileAccessDisabled cls m
      | .legalPrivacy => s.pauseVehicle id .legalPrivacy cls m
      | .accessRefused => s.pauseVehicle id .accessRefused cls m
      | .transient | .protocol | .clientError =>
        s.modifyCar id fun v => (v.retryCheck s.timing cls true m.now).pauseIfPersistent m.now
      | _ => s.modifyCar id (·.retryCheck s.timing cls false m.now)
    s.modifyCar id (·.endHeldCheck)

/-! ### Lists and records -/

end VehicleScheduler

variable (v : ScheduledVehicle)

def ScheduledVehicle.acceptListed (t : Timing) (restored : Option RestoredVehicle)
    (state : ReportedState) (now : Instant) (wallMs : ℤ) : ScheduledVehicle × Bool × Bool :=
  let v :=
    if v.placeholder then
      let v := { v with placeholder := false }
      restored.elim v (v.applyRestored · now wallMs)
    else v
  let v := { v with vehicle := { v.vehicle with state } }
  let reported := (v.noteListed now wallMs).applyReportedState t state now wallMs
  let settled := reported.1.settleUnavailable state
  (settled.1, reported.2, settled.2)

namespace VehicleScheduler

variable (s : VehicleScheduler)

def listedCar (incoming : ListedVehicle) (m : Moment) : ScheduledVehicle :=
  let fresh := ScheduledVehicle.new incoming.vehicle m.now (s.wallOrLast m)
  (s.vehicles.get? incoming.id).getD
    ((s.restored.get? incoming.id).elim fresh (fresh.applyRestored · m.now (s.wallOrLast m)))

def acceptEntry (m : Moment) (incoming : ListedVehicle) : VehicleScheduler × Bool :=
  let listed := (s.listedCar incoming m).acceptListed s.timing (s.restored.get? incoming.id)
    incoming.vehicle.state m.now (s.wallOrLast m)
  ({ s with
      vehicles := s.vehicles.insert incoming.id listed.1
      gateRevocations :=
        if listed.2.1 then insert incoming.id s.gateRevocations else s.gateRevocations },
    listed.2.2)

def acceptEntries (m : Moment) :
    VehicleScheduler → List ListedVehicle → VehicleScheduler × List VehicleId
  | s, [] => (s, [])
  | s, incoming :: rest =>
    let entry := s.acceptEntry m incoming
    let tail := acceptEntries m entry.1 rest
    (tail.1, if entry.2 then incoming.id :: tail.2 else tail.2)

def noteUnlisted (present : List VehicleId) (now : Instant) : VehicleScheduler :=
  { s with
    vehicles := s.vehicles.map fun id v => if id ∈ present then v else v.noteUnlisted s.timing now }

def acceptDiscovery (vehicles : List ListedVehicle) (m : Moment) : VehicleScheduler :=
  let accepted := acceptEntries m s vehicles
  let s := accepted.2.foldl (fun s id => s.countVehicleFailure id .transient m) accepted.1
  let s := (s.noteUnlisted (vehicles.map (·.id)) m.now).noteSuccess
  let account := s.account.resumeFromBilling (s.wallOrLast m)
  { s with
    account := { account with
      lastDiscovery := some m.now
      listFloor := none
      listWanted := none
      discoveryFailures := 0 } }

def acceptVehicleState (id : VehicleId) (state : ReportedState) (m : Moment) : VehicleScheduler :=
  match s.vehicles.get? id with
  | none => s
  | some v =>
    let wallMs := s.wallOrLast m
    let reported (v : ScheduledVehicle) : ScheduledVehicle × Bool :=
      let v : ScheduledVehicle := { v with nextCheckDue := none }
      (v.noteListed m.now wallMs).applyReportedState s.timing state m.now wallMs
    let s := s.modifyCarRevoking id fun v => (((reported v).1.settleUnavailable state).1,
        (reported v).2)
    let s :=
      if ((reported v).1.settleUnavailable state).2 then s.countVehicleFailure id .transient m else
        s
    s.noteSuccess

/-! ### Reads and probes -/

def advanceTimers (m : Moment) : VehicleScheduler :=
  let wallMs := s.wallOrLast m
  { s with
    vehicles := s.vehicles.map fun _ v => (v.advanceTimers s.timing m.now wallMs).1
    gateRevocations := s.gateRevocations ∪
      ((s.vehicles.entries.filter fun e => (e.2.advanceTimers s.timing m.now wallMs).2).map
        (·.1)).toFinset }

def dueBefore (a b : Instant × VehicleId) : Prop := a.1 < b.1 ∨ a.1 = b.1 ∧ a.2 ≤ b.2

instance : DecidableRel dueBefore :=
  fun a b => inferInstanceAs (Decidable (a.1 < b.1 ∨ a.1 = b.1 ∧ a.2 ≤ b.2))

def inFlightCount : ℕ := (s.vehicles.values.filter (·.inFlight)).length

def takeDue (dueAt : ScheduledVehicle → Option Instant) (capacity : ℕ) (now : Instant) :
    List VehicleId :=
  let due := s.vehicles.entries.filterMap fun e => ((dueAt e.2).filter (· ≤ now)).map (·, e.1)
  ((due.insertionSort dueBefore).take capacity).map (·.2)

def markInFlight (ids : List VehicleId) : VehicleScheduler :=
  { s with
    vehicles := s.vehicles.map fun id v => if id ∈ ids then { v with inFlight := true } else v }

end VehicleScheduler

def ScheduledVehicle.readDueAt : Option Instant :=
  if v.hold = .none && !v.inFlight then v.nextReadDue else none

def ScheduledVehicle.checkDueAt : Option Instant :=
  if v.isInactive then none else v.nextCheckDue

namespace VehicleScheduler

variable (s : VehicleScheduler)

variable (m : Moment)

def dueVehicles : VehicleScheduler × List VehicleId :=
  let s := s.advanceTimers m
  if !s.requestsAllowed m.now then (s, [])
  else
    let due := s.takeDue (·.readDueAt) (kMaxInFlight-s.inFlightCount) m.now
    (s.markInFlight due, due)

variable (now : Instant)

def dueOfflineStateVehicles : List VehicleId :=
  if !s.mode.isOwnerWire || !s.requestsAllowed now then []
  else s.takeDue (·.checkDueAt) kMaxInFlight now

def dueProbeVehicles : VehicleScheduler × List (VehicleId × ProbeKind) :=
  if !s.requestsAllowed now then (s, [])
  else
    let ownerWire := s.mode.isOwnerWire
    let due := s.takeDue (fun v => if v.inFlight then none else v.probeDueAt ownerWire)
      (kMaxInFlight-s.inFlightCount) now
    let kind (id : VehicleId) : ProbeKind :=
      if (s.vehicles.get? id).any (·.hold = .service) && ownerWire then .serviceRecord else .read
    (s.markInFlight due, due.map fun id => (id, kind id))

def releaseInFlight : VehicleScheduler :=
  { s with vehicles := s.vehicles.map fun _ v => { v with inFlight := false } }

def requestWithheld (id : VehicleId) : VehicleScheduler :=
  s.modifyCar id ({ · with inFlight := false })

def vehicleSucceeded (id : VehicleId) (phase : PollPhase) (sleepEligible : Bool) (m : Moment) :
    VehicleScheduler :=
  s.noteSuccess.modifyCarRevoking id (·.succeeded s.timing phase sleepEligible m.now
    (s.wallOrLast m))

def releaseHold (id : VehicleId) (reason : Reason) (m : Moment) : VehicleScheduler :=
  s.modifyCar id (·.releaseHold reason m.now (s.wallOrLast m))

inductive ProbeOutcome where
  | inService (still : Bool)
  | read (phase : SnapshotPhase) (sleepEligible : Bool)
  | failed (error : CollectorError)

def probeFailed (id : VehicleId) (error : CollectorError) (m : Moment) : VehicleScheduler × Bool :=
  let cls := classify error .probe s.mode
  let answered := if cls = .unreachable then s else s.noteAnswered
  match answered.accountFailed cls error m with
  | (failed, some _) => (failed, false)
  | (failed, none) =>
    let s := failed.checkRefusal error m.now
    let inService := (s.vehicles.get? id).any (·.hold = .service)
    match cls with
    | .mobileAccessDisabled => (s.pauseVehicle id .mobileAccessDisabled cls m, false)
    | .legalPrivacy => (s.pauseVehicle id .legalPrivacy cls m, false)
    | .accessRefused => (s.pauseVehicle id .accessRefused cls m, false)
    | .notFound => ((s.vehicleNotFound id m.now).modifyCar id (·.rearmProbe cls m.now), false)
    | .inService =>
      if inService then (s.modifyCar id (·.rearmProbe cls m.now), false)
      else
        (s.modifyCar id fun v => (v.enterServiceMode m.now).1,
          (s.vehicles.get? id).any fun v => (v.enterServiceMode m.now).2)
    | _ => (s.modifyCar id (·.rearmProbe cls m.now), false)

def probeFinished (id : VehicleId) (outcome : ProbeOutcome) (m : Moment) :
    VehicleScheduler × Bool :=
  let s := s.modifyCar id ({ · with inFlight := false })
  match outcome with
  | .inService true =>
    (s.noteSuccess.modifyCar id fun v =>
        if v.hold = .service then
          { v with nextProbeDue := some (deadlineAfter m.now kServiceProbe) }
        else v,
      false)
  | .inService false =>
    (s.noteSuccess.modifyCar id fun v =>
        let released := v.releaseHold .serviceExited m.now (s.wallOrLast m)
        if v.isHeld && v.reportedOnline then { released with nextReadDue := some m.now } else
          released,
      false)
  | .read phase sleepEligible =>
    match (s.vehicles.get? id).map ScheduledVehicle.hold with
    | some .service =>
      ((s.releaseHold id .serviceExited m).vehicleSucceeded id phase.phase sleepEligible m, false)
    | some (.paused _) =>
      ((s.noteSuccess.releaseHold id .resumed m).modifyCar id fun v =>
          { v with lastRead := some m.now, lastSuccess := some (m.now, s.wallOrLast m) },
        false)
    | _ => (s.vehicleSucceeded id phase.phase sleepEligible m, false)
  | .failed error => s.probeFailed id error m

/-! ### Stream and lifecycle events -/

def scheduleStreamEvidence (id : VehicleId) (shiftState : Option String) (speed : Option ℚ)
    (power : Option ℤ) (m : Moment) : VehicleScheduler :=
  s.modifyCar id (·.applyFrameEvidence s.timing (FrameEvidence.fromStream shiftState speed power)
    m.now
    (s.wallOrLast m))

def requiresLiveStreamPowerGate (id : VehicleId) : Bool :=
  (s.vehicles.get? id).any fun v => v.gatedRead.isSome && v.phase = .suspended

def revokeGate (id : VehicleId) : VehicleScheduler :=
  if s.vehicles.contains id then { s with gateRevocations := insert id s.gateRevocations } else s

def shouldStartStream (v : ScheduledVehicle) (now : Instant) : Bool :=
  s.streamDelivery && v.settings.useStreamingApi && s.account.state = .collecting &&
    v.stream.restartNotBefore.all (· ≤ now) &&
    match v.hold with
    | .none => v.phase.isReadPhase || v.phase = .suspended
    | .paused _ | .service => v.reportedOnline
    | .disabled | .removed => false

def streamsToStop : VehicleScheduler × List VehicleId :=
  ({ s with
      vehicles := s.vehicles.map fun _ v => v.setStreamWanted (s.shouldStartStream v now) now },
    (s.vehicles.entries.filter fun e => e.2.streamWanted && !s.shouldStartStream e.2 now).map (·.1))

def silentDriveStreams : List VehicleId :=
  (s.vehicles.entries.filter fun e =>
    !e.2.isInactive && e.2.phase = .driving && e.2.stream.connected && !e.2.stream.outageReported &&
      e.2.stream.lastFrame.any (kDriveFrameSilence ≤ now-·)).map (·.1)

def dueLifecycleEvents (wallNowMs : ℤ) : List VehicleId :=
  (s.vehicles.entries.filter fun e => (e.2.noDataDeadlineMs s.timing).any (· < wallNowMs)).map (·.1)

/-! ### Owner actions and the credential unit (C3 R47, R65) -/

def ownerRetry : VehicleScheduler :=
  { s with
    account := s.account.ownerRetry s.mode m.now (s.wallOrLast m)
    vehicles := s.vehicles.map fun _ v =>
      if v.hold.isPaused then v.releaseHold .ownerRetry m.now (s.wallOrLast m) else v
    restored := s.restored.filter fun _ restored => restored.row.hold ≠ .paused }

def ownerResume (hubId : Option Uuid) (m : Moment) : VehicleScheduler :=
  match hubId with
  | none => s
  | some hubId =>
    match s.vehicles.entries.find? fun e => e.2.hubId = some hubId with
    | some (id, v) => if v.hold.isPaused then s.releaseHold id .ownerResume m else s
    | none =>
      { s with
        restored := s.restored.filter fun _ restored =>
          !(restored.row.vehicleId = hubId && restored.row.hold = .paused) }

def applyOwnerAction (action : OwnerActionRow) : VehicleScheduler :=
  if action.id ∈ s.pending.appliedActions then s
  else
    let s :=
      match action.kind with
      | .retryCollection => s.ownerRetry m
      | .resumeVehicle => s.ownerResume action.vehicle m
    { s with pending := { s.pending with appliedActions := s.pending.appliedActions++[action.id] } }

def applyOwnerActions (actions : List OwnerActionRow) (m : Moment) : VehicleScheduler :=
  actions.foldl (fun s action => s.applyOwnerAction m action) s

def credentialStateSeen (seen : CredentialStateSeen) (m : Moment) : VehicleScheduler :=
  match seen with
  | .ready => s.clearCredentialStop m
  | .terminalStop => s.enterCredentialStop m
  | .apiRefused refusal => s.enterRefusal refusal.cause m

/-! ### Settings (C3 R62) -/

def targets (configured : List ConfiguredCar) : OrderedMap VehicleId ConfiguredCar :=
  configured.foldl
    (fun targets car => (VehicleId.tryFromI64 car.teslaId).elim targets (targets.insert · car))
      .empty

def placeholderFor (id : VehicleId) (car : ConfiguredCar) (m : Moment) : ScheduledVehicle :=
  let v := ScheduledVehicle.configuredOnly car.hubId car.settings m.now (s.wallOrLast m)
  match s.restored.get? id with
  | some restored =>
    if restored.row.hold = .removed || restored.row.hold = .paused || restored.row.hold =
      .service then
      v.applyRestored restored m.now (s.wallOrLast m)
    else v
  | none => v

def applyControlSettings (configured : List ConfiguredCar) (m : Moment) : VehicleScheduler :=
  let wallMs := s.wallOrLast m
  let targets := targets configured
  let known := targets.map fun id car => (s.vehicles.get? id).getD (s.placeholderFor id car m)
  let reenabled := targets.entries.any fun e =>
    (known.get? e.1).any (·.reenabledBy e.2.settings)
  { s with
    vehicles := known.map fun id v =>
      (targets.get? id).elim v fun car => v.applySettings s.timing car.hubId car.settings m.now
        wallMs
    account := { s.account with
      listWanted := if reenabled then some m.now else s.account.listWanted } }

/-! ### The request counter (C3 R25 to R27) -/

def refreshMonth : VehicleScheduler :=
  let refreshed := s.ledger.refresh m
  let s := { s with ledger := refreshed.1 }
  match refreshed.2 with
  | .unchanged => s
  | .rolled =>
    let account := s.account.noteNewMonth m.now
    { s with
      account :=
        if account.state = .capReached then account.resumeFromCap m.now (s.wallOrLast m) else
          account }

variable (category : RequestCategory)

def billingProbeAdmissible (now : Instant) : Bool :=
  s.mode = .fleetPolling && s.account.state = .billingSuspended && category = .state &&
    s.account.wait.all (·.1 ≤ now) && s.account.nextBillingProbe.any (· ≤ now)

def admitRequest (m : Moment) : VehicleScheduler × Admission :=
  let s := s.refreshMonth m
  let probe := s.billingProbeAdmissible category m.now
  if !(s.requestsAllowed m.now || probe) then (s, .withheld .account)
  else
    let started := s.ledger.start category
    let s := { s with ledger := started.1 }
    let armed := some (deadlineAfter m.now kBillingProbe)
    let account :=
      match started.2, probe with
      | .admitted, true => { s.account with nextBillingProbe := armed, probeTimeOfTheTick := armed }
      | .withheld .cap, true => { s.account with nextBillingProbe := armed }
      | .withheld .cap, false => s.account.enterCapReached (s.wallOrLast m)
      | _, _ => s.account
    ({ s with account }, started.2)

def planReservation (requests : List (RequestCategory × ℕ)) (m : Moment) :
    VehicleScheduler × Bool :=
  let s := s.refreshMonth m
  if s.requestsAllowed m.now || requests.any fun r => s.billingProbeAdmissible r.1 m.now then
    let planned := s.ledger.plan requests
    ({ s with ledger := planned.1 }, planned.2)
  else (s, false)

def resendWithheld (m : Moment) : VehicleScheduler :=
  (s.planReservation [(category, 1)] m).1

def listResendWithheld : VehicleScheduler :=
  let account :=
    if s.account.state = .billingSuspended then
      { s.account with nextBillingProbe := some m.now, probeTimeOfTheTick := some m.now }
    else s.account
  { s with account }.resendWithheld .state m

/-! ### Clocks and waiting (C3 R2, R11) -/

def observeClockDrift : VehicleScheduler :=
  match m.wall with
  | none => s
  | some wallMs =>
    let wallDelta := wallMs-s.clockWatch.2
    let drift := wallDelta-asMillis (m.now-s.clockWatch.1)
    let watched := { s with clockWatch := (m.now, wallMs) }
    if kClockDivergenceMs < drift then
      let alert := s.anyCarAwake none || asMillis s.timing.offlineDriveTimeout ≤ wallDelta
      { watched with
        ledger := { s.ledger with frozen := true }
        pending := { s.pending with
          gaps := s.pending.gaps++[⟨.hostSuspended, s.clockWatch.2, wallMs, alert⟩] } }
    else watched

def observeClock : VehicleScheduler := (s.observeClockDrift m).refreshMonth m

def carDueInstants (v : ScheduledVehicle) (m : Moment) : List Instant :=
  let requests : List (Option Instant) :=
    if s.account.state = .collecting then
      [v.readDueAt, v.checkDueAt, v.probeDueAt s.mode.isOwnerWire].map (·.map s.account.afterWait)
    else []
  let timers : List (Option Instant) :=
    if v.isInactive then []
    else
      (if v.hold = .none then [v.suspendAt, v.suspendedUntil] else [])++
        [v.stream.restartNotBefore.filter (m.now < ·), v.silenceDeadline, v.updateStaleDeadline]
  let noData : Option Instant := (v.noDataDeadlineMs s.timing).map fun deadlineMs =>
    deadlineAfter m.now (millis (max 0 (deadlineMs-s.wallOrLast m+1)).toNat)
  (requests++timers++[noData]).filterMap id

def dueInstants : List Instant :=
  s.vehicles.values.flatMap (s.carDueInstants · m)++s.listDueAt.toList++
    ((s.account.wait.map (·.1)).filter (m.now < ·)).toList

def delayUntilNextAction : Duration :=
  min (((s.dueInstants m).min?.map (·-m.now)).getD kMaxIdleWait) kMaxIdleWait

end VehicleScheduler

end TeslatlasHub.Collector
