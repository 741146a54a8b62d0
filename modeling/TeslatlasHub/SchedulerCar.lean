import TeslatlasHub.SchedulerErrors
import TeslatlasHub.LifecycleEvidence

namespace TeslatlasHub.Collector

structure CollectorVehicleRow where
  vehicleId : Uuid
  phase : PollPhase
  hold : HoldCode
  reasonCode : Reason
  phaseSinceMs : ℤ
  (suspendedUntilMs nextProbeMs lastWakeReadAtMs : Option ℤ)
  deriving DecidableEq

structure RestoredVehicle where
  teslaId : VehicleId
  row : CollectorVehicleRow
  suspend : Duration
  deriving DecidableEq

structure ConfiguredCar where
  hubId : Uuid
  teslaId : ℤ
  settings : CarSettings
  deriving DecidableEq

def pauseReasonCode : PauseReason → Reason
  | .persistentFailure => .pausedPersistentFailure
  | .mobileAccessDisabled => .pausedMobileAccessDisabled
  | .legalPrivacy => .pausedLegalPrivacy
  | .accessRefused => .pausedAccessRefused

def pauseReasonFromCode : Reason → PauseReason
  | .pausedMobileAccessDisabled => .mobileAccessDisabled
  | .pausedLegalPrivacy => .legalPrivacy
  | .pausedAccessRefused => .accessRefused
  | _ => .persistentFailure

structure FrameEvidence where
  (motion parkedGear wantsRead : Bool)
  deriving DecidableEq

def FrameEvidence.fromStream (shiftState : Option String) (speed : Option ℚ) (power : Option ℤ) :
    FrameEvidence :=
  let gear := Lifecycle.gearOf shiftState
  let motion :=
    match gear with
    | some .p => false
    | some _ => true
    | none => speed.any (0 < ·)
  { motion
    parkedGear := gear = some .p
    wantsRead := !motion && power.any (kStreamPowerKw ≤ ·.natAbs) }

namespace ScheduledVehicle

variable (v : ScheduledVehicle)

def new (vehicle : Vehicle) (now : Instant) (wallMs : ℤ) : ScheduledVehicle where
  vehicle
  settings := EffectiveSettings.fromCar vehicle.settings
  phaseSince := (now, wallMs)
  hold := if vehicle.settings.enabled then .none else .disabled
  reason := if vehicle.settings.enabled then .collecting else .vehicleDisabled

def configuredOnly (hubId : Uuid) (settings : CarSettings) (now : Instant) (wallMs : ℤ) :
    ScheduledVehicle :=
  { new { state := .other "unknown", settings } now wallMs with
    hubId := some hubId, placeholder := true }

def isInactive : Bool := v.hold = .disabled || v.hold = .removed

def streamHealthyIn (phase : PollPhase) (now : Instant) : Bool :=
  v.stream.connected && (phase ≠ .driving || v.stream.lastFrame.any (now-· < kDriveFrameSilence))

variable (now : Instant)

def streamHealthyForCadence : Bool := v.streamHealthyIn v.phase now

variable (t : Timing)

def interval (now : Instant) : Duration :=
  (t.readInterval v.phase (v.streamHealthyForCadence now)).getD (t.stateInterval v.phase)

def needsStateCheck : Bool :=
  match v.hold with
  | .disabled | .removed => false
  | .service | .paused _ => !v.placeholder
  | .none => !v.placeholder && !v.phase.isReadPhase

def reportedOnline : Bool := v.reportedState = some .online

def shownReason : Reason :=
  match v.hold with
  | .paused reason => pauseReasonCode reason
  | .service => .serviceEntered
  | .removed => .vehicleRemoved
  | .disabled => .vehicleDisabled
  | .none => if v.stream.auditFailed then .streamAuditFailed else v.reason

def readDueIn (new : PollPhase) (now : Instant) : Option Instant :=
  match new with
  | .asleep | .offline | .suspended => none
  | new =>
    match t.readInterval new (v.streamHealthyIn new now) with
    | none => v.nextReadDue
    | some interval => v.nextReadDue.map (min · (deadlineAfter now interval))

def enterPhase (new : PollPhase) (now : Instant) (wallMs : ℤ) (reason : Reason) :
    ScheduledVehicle :=
  if v.phase = new then v
  else
    { v with
      phase := new
      phaseSince := (now, wallMs)
      reason
      nextReadDue := v.readDueIn t new now
      suspendAt := if new = .online then v.suspendAt else none
      suspendedUntil := if new = .suspended then v.suspendedUntil else none }

def clearPendingReads : ScheduledVehicle :=
  { v with
    nextReadDue := none, wakeReadPending := false, gatedRead := none, suspensionRead := false }

def beginSuspension (now : Instant) (wallMs : ℤ) (suspendUntil : Instant)
    (reason : Reason) : ScheduledVehicle :=
  { v.enterPhase t .suspended now wallMs reason with
    suspendedUntil := some suspendUntil, suspendAt := none, nextReadDue := none, gatedRead := none }

def stopTimers : ScheduledVehicle :=
  { v with
    nextReadDue := none
    nextCheckDue := none
    suspendAt := none
    suspendedUntil := none
    gatedRead := none
    wakeReadPending := false
    suspensionRead := false
    unavailableCheck := false }

def noteListed (wallMs : ℤ) : ScheduledVehicle :=
  let v : ScheduledVehicle :=
    { v with missingLists := 0, missingLast := none, notFoundCheck := false }
  if v.hold = .removed then
    { v with
      hold := .none
      phase := .unknown
      phaseSince := (now, wallMs)
      reason := .vehicleReappeared }
  else v

def onlineAfterSleep (now : Instant) (wallMs : ℤ) : ScheduledVehicle × Bool :=
  if v.phase = .offline && v.offlineFromSession then
    ({ v with nextReadDue := some now, reason := .sessionReturn }, false)
  else if v.lastWakeRead.all (v.settings.suspend ≤ now-·) then
    ({ v with
        lastWakeRead := some now
        wakeReadPending := true
        nextReadDue := some now
        reason := .wakeRead },
      false)
  else
    let suspendUntil := v.lastWakeRead.elim now (deadlineAfter · v.settings.suspend)
    (v.beginSuspension t now wallMs suspendUntil .wakeReadLimited, true)

def probeOnReport (state : ReportedState) (now : Instant) : Option Instant :=
  if state = .online && v.hold.isPaused && v.hold ≠ .paused .accessRefused &&
      v.reportedState.any (· ≠ .online) then
    some now
  else v.nextProbeDue

def applyReportedState (state : ReportedState) (now : Instant) (wallMs : ℤ) :
    ScheduledVehicle × Bool :=
  let previouslyOnline := v.reportedOnline
  let v : ScheduledVehicle := { v with
    nextProbeDue := v.probeOnReport state now
    vehicle := { v.vehicle with state }
    reportedState := some state }
  if v.isInactive then (v, false)
  else
    match state with
    | .asleep => ((v.enterPhase t .asleep now wallMs .reportedAsleep).clearPendingReads, false)
    | .offline =>
      match v.phase with
      -- an install that reports offline is not changed
      | .updating | .offline => (v, false)
      | _ =>
        let v : ScheduledVehicle := { v with
          offlineFromSession := v.offlineFromSession || v.phase = .driving || v.phase = .charging }
        ((v.enterPhase t .offline now wallMs .reportedOffline).clearPendingReads, false)
    | .online =>
      if v.phase = .unknown && v.hold = .none && !v.inFlight && v.nextReadDue = none then
        ({ v with nextReadDue := some now, reason := .firstContactRead }, false)
      else if !previouslyOnline && v.hold = .none && !v.inFlight &&
          (v.phase = .asleep || v.phase = .offline) then
        v.onlineAfterSleep t now wallMs
      else (v, false)
    | .other _ => (v, false)

def settleUnavailable (state : ReportedState) : ScheduledVehicle × Bool :=
  ({ v with unavailableCheck := false }, v.unavailableCheck && state = .online)

def noteUnlisted (now : Instant) : ScheduledVehicle :=
  if v.isInactive then v
  else
    let spaced := v.notFoundCheck || v.missingLast.all (t.inventory ≤ now-·)
    let v : ScheduledVehicle := { v with notFoundCheck := false }
    if !spaced then v
    else
      let v : ScheduledVehicle :=
        { v with missingLists := v.missingLists+1, missingLast := some now }
      if v.missingLists < kRemoveLists then v
      else { v.stopTimers with hold := .removed, reason := .vehicleRemoved, nextProbeDue := none }

def pause (reason : PauseReason) (cls : ErrorClass) (now : Instant) : ScheduledVehicle :=
  let v : ScheduledVehicle := { v with inFlight := false, lastError := some cls }
  if v.isInactive then v
  else
    { v.stopTimers with
      hold := .paused reason
      reason := pauseReasonCode reason
      nextProbeDue := if reason = .accessRefused then none else some (deadlineAfter now kPauseProbe)
        }

def pauseIfPersistent : ScheduledVehicle :=
  if v.hold ≠ .none || v.consecutiveFailures < kPauseFailures then v
  else if v.firstFailure.any (kPauseMinAge ≤ now-·) then
    v.pause .persistentFailure (v.lastError.getD .transient) now
  else v

def isHeld : Bool := v.hold = .service || v.hold.isPaused

def releaseHold (reason : Reason) (now : Instant) (wallMs : ℤ) : ScheduledVehicle :=
  if v.isHeld then
    { v.stopTimers with
      hold := .none
      nextProbeDue := none
      inFlight := false
      consecutiveFailures := 0
      firstFailure := none
      lastError := none
      offlineFromSession := false
      phase := .unknown
      phaseSince := (now, wallMs)
      reason }
  else v

def notFound (now : Instant) : ScheduledVehicle :=
  { v with
    inFlight := false
    lastError := some .notFound
    notFoundCheck := true
    nextReadDue :=
      if v.hold = .none && !(v.phase = .suspended && !v.suspensionRead) && v.nextReadDue.isSome then
        some (deadlineAfter now (v.interval t now))
      else v.nextReadDue
    nextCheckDue :=
      if v.nextCheckDue.isSome then some (deadlineAfter now (t.stateInterval v.phase))
      else v.nextCheckDue }

def enterServiceMode : ScheduledVehicle × Bool :=
  let v : ScheduledVehicle := { v with inFlight := false }
  if v.isInactive || v.hold = .service then (v, false)
  else
    ({ v.stopTimers with
        hold := .service
        reason := .serviceEntered
        nextProbeDue := some (deadlineAfter now kServiceProbe)
        consecutiveFailures := 0
        firstFailure := none
        lastError := some .inService },
      true)

def probeDueAt (ownerWire : Bool) : Option Instant :=
  match v.hold with
  | .service => if ownerWire || v.reportedOnline then v.nextProbeDue else none
  | .paused .accessRefused => none
  | .paused _ => if v.reportedOnline then v.nextProbeDue else none
  | .none | .disabled | .removed => none

def rearmProbe (cls : ErrorClass) (now : Instant) : ScheduledVehicle :=
  { v with
    nextProbeDue :=
      if v.isHeld && v.hold ≠ .paused .accessRefused then
        some (deadlineAfter now (if v.hold = .service then kServiceProbe else kPauseProbe))
      else v.nextProbeDue
    lastError := some cls }

def succeeded (phase : PollPhase) (sleepEligible : Bool) (now : Instant) (wallMs : ℤ) :
    ScheduledVehicle × Bool :=
  let previous := v.phase
  let gated := v.gatedRead.isSome
  let wakeRead := v.wakeReadPending
  let v : ScheduledVehicle := { v with
    gatedRead := none
    wakeReadPending := false
    suspensionRead := false
    inFlight := false
    lastRead := some now
    lastSuccess := some (now, wallMs)
    consecutiveFailures := 0
    firstFailure := none
    lastError := none
    unavailableCheck := false
    offlineFromSession := false
    lastInUse := if sleepEligible then v.lastInUse else some now }
  -- use evidence of the snapshot moves the phase; without it a Suspended car starts a new period
  let suspendAgain := !phase.isSession && sleepEligible && previous = .suspended
  let v :=
    if phase.isSession then
      v.enterPhase t phase now wallMs (if gated then .useEvidenceStream else .useEvidenceSnapshot)
    else if !sleepEligible then
      let reason : Reason :=
        if gated then .useEvidenceStream
        else if previous = .suspended then .useEvidenceSnapshot
        else if wakeRead then .wakeRead
        else .reportedOnline
      { v.enterPhase t phase now wallMs reason with suspendAt := none }
    else if previous = .suspended then v
    else
      let v := v.enterPhase t phase now wallMs (if wakeRead then .wakeRead else .reportedOnline)
      if wakeRead then
        { v with suspendAt := some (if v.stream.connected then now else deadlineAfter
          now kWakeWatch) }
      else if v.suspendAt = none then
        { v with suspendAt := some (deadlineAfter (v.lastInUse.getD now)
          v.settings.suspendAfterIdle) }
      else v
  let v :=
    match t.readInterval v.phase (v.streamHealthyForCadence now) with
    | some interval => { v with nextReadDue := some (deadlineAfter now interval) }
    | none => v
  let suspendUntil := deadlineAfter now v.settings.suspend
  if suspendAgain || (v.hold = .none && v.phase = .online && v.suspendAt.any (· ≤ now)) then
    (v.beginSuspension t now wallMs suspendUntil .suspendedIdle, true)
  else (v, false)

def evidenceReadTime (now : Instant) : Instant :=
  v.lastRead.elim now fun last => max now (deadlineAfter last t.minReadSpacing)

def gateNotConfirmed : ScheduledVehicle :=
  { v with
    inFlight := false
    gatedRead := none
    nextReadDue := if v.phase = .suspended && !v.suspensionRead then none else v.nextReadDue }

def releaseAfterAccountFailure (cls : ErrorClass) (waitUntil : Option Instant)
    (now : Instant) (wallMs : ℤ) : ScheduledVehicle :=
  let v : ScheduledVehicle := { v with inFlight := false, lastError := some cls }
  let v :=
    if v.gatedRead = some .motion && v.phase = .suspended then
      { v with gatedRead := none }.enterPhase t .driving now wallMs .useEvidenceStream
    else v
  if v.phase = .suspended && !v.suspensionRead then v
  else
    let due := v.nextReadDue.getD now
    { v with nextReadDue := some (waitUntil.elim due (max due ·)) }

def countFailure (cls : ErrorClass) (u : ℚ) (now : Instant) : ScheduledVehicle :=
  let v : ScheduledVehicle := { v with
    consecutiveFailures := v.consecutiveFailures+1
    firstFailure := some (v.firstFailure.getD now)
    lastError := some cls }
  let delay := max (v.interval t now) (backoffDelay v.consecutiveFailures t.maxBackoff u)
  { v with
    nextReadDue :=
      if v.phase = .suspended && !v.suspensionRead then none else some (deadlineAfter now delay) }

def readUnavailable (now : Instant) : ScheduledVehicle :=
  { v with
    unavailableCheck := true
    nextReadDue :=
      if v.phase = .suspended && !v.suspensionRead then none
      else some (deadlineAfter now (v.interval t now)) }

def readFailed (now : Instant) (wallMs : ℤ) : ScheduledVehicle :=
  let gated := v.gatedRead
  let v : ScheduledVehicle := { v with gatedRead := none, inFlight := false }
  if gated = some .motion && v.phase = .suspended then
    v.enterPhase t .driving now wallMs .useEvidenceStream
  else v

def installUnavailable (now : Instant) : ScheduledVehicle :=
  { v with
    gatedRead := none
    inFlight := false
    nextReadDue := some (deadlineAfter now (v.interval t now)) }

def retryCheck (cls : ErrorClass) (counts : Bool) (now : Instant) : ScheduledVehicle :=
  { v with
    consecutiveFailures := if counts then v.consecutiveFailures+1 else v.consecutiveFailures
    firstFailure := if counts then some (v.firstFailure.getD now) else v.firstFailure
    lastError := some cls
    nextCheckDue := some (deadlineAfter now (t.stateInterval v.phase)) }

def endHeldCheck : ScheduledVehicle :=
  if v.hold ≠ .none then { v with nextCheckDue := none } else v

def silenceDeadline : Option Instant :=
  if v.phase ≠ .driving || !v.stream.connected || v.stream.outageReported then none
  else v.stream.lastFrame.map (deadlineAfter · kDriveFrameSilence)

def updateStaleDeadline : Option Instant :=
  if v.phase ≠ .updating || v.hold ≠ .none then none
  else
    let anchor := v.lastSuccess.elim v.phaseSince.1 fun read => max read.1 v.phaseSince.1
    some (deadlineAfter anchor kUpdateStale)

def advanceTimers (now : Instant) (wallMs : ℤ) : ScheduledVehicle × Bool :=
  if v.hold ≠ .none then (v, false)
  else
    let suspendUntil := deadlineAfter now v.settings.suspend
    match v.phase with
    | .online =>
      if v.suspendAt.any (· ≤ now) then
        (v.beginSuspension t now wallMs suspendUntil .suspendedIdle, true)
      else (v, false)
    | .suspended =>
      if v.suspendedUntil.any (· ≤ now) then
        if v.reportedOnline then
          ({ v with
              suspendedUntil := none
              suspensionRead := true
              gatedRead := none
              nextReadDue := some now
              reason := .suspensionEndedStillOnline },
            false)
        else (v.beginSuspension t now wallMs suspendUntil .suspendedIdle, true)
      else (v, false)
    | .updating =>
      if v.updateStaleDeadline.any (· ≤ now) then
        ((v.enterPhase t .offline now wallMs .updateStale).clearPendingReads, false)
      else (v, false)
    | _ => (v, false)

def makeReadDue (now : Instant) : ScheduledVehicle :=
  let time := v.evidenceReadTime t now
  { v with nextReadDue := some (v.nextReadDue.elim time (min · time)) }

def applyFrameEvidence (evidence : FrameEvidence) (now : Instant) (wallMs : ℤ) : ScheduledVehicle :=
  if v.isInactive then v
  else if evidence.motion then
    let v : ScheduledVehicle := { v with lastInUse := some now }
    match v.phase with
    | .driving => v
    | .suspended =>
      -- the car stays Suspended until the gated read is sent
      if v.hold = .none then { v with gatedRead := some .motion }.makeReadDue t now else v
    | _ =>
      let v := v.enterPhase t .driving now wallMs .useEvidenceStream
      if v.hold = .none then v.makeReadDue t now else v
  else if v.hold ≠ .none then v
  else if evidence.parkedGear && v.phase = .driving then v.makeReadDue t now
  else if evidence.wantsRead && !v.phase.isSession &&
      v.lastPowerTrigger.all (t.online ≤ now-·) then
    let v : ScheduledVehicle := { v with
      lastPowerTrigger := some now
      gatedRead := if v.phase = .suspended then some (v.gatedRead.getD .power) else v.gatedRead }
    v.makeReadDue t now
  else v

def streamHealthy : ScheduledVehicle :=
  { v with
    stream := { v.stream with
      connected := true
      lastFrame := some now
      taskFailures := 0
      auditFailed := false
      outageReported := false
      outageStarted := if v.stream.outageReported then none else v.stream.outageStarted
      outageFailures := if v.stream.outageReported then 0 else v.stream.outageFailures }
    reason := if v.stream.outageReported || v.stream.auditFailed then .streamRecovered else v.reason
      }

def streamUnhealthy (now : Instant) : ScheduledVehicle :=
  let reported := v.stream.outageReported
  let v : ScheduledVehicle := { v with
    stream := { v.stream with connected := false, outageFailures := v.stream.outageFailures+1 } }
  if reported then v
  else
    let fallbackDue := v.lastRead.elim now fun last => max now (deadlineAfter last t.driving)
    { v with
      stream := { v.stream with outageReported := true, outageStarted := some now }
      reason := .streamOutage
      nextReadDue :=
        if v.phase = .driving && v.hold = .none then v.nextReadDue.map (min · fallbackDue)
        else v.nextReadDue }

def frameArrived : ScheduledVehicle :=
  { v with stream := { v.stream with connected := true, lastFrame := some now } }

def setStreamWanted (wanted : Bool) (now : Instant) : ScheduledVehicle :=
  let waiting := v.stream.restartNotBefore.any (now < ·)
  { v with
    streamWanted := wanted
    stream :=
      if wanted then v.stream
      else if waiting then { v.stream with connected := false }
      else { v.stream with
        connected := false, outageReported := false, outageStarted := none, outageFailures := 0 } }

def streamTaskEnded : ScheduledVehicle :=
  let failures := v.stream.taskFailures+1
  let delay := min (kStreamRestartBase*2^min (failures-1) 4) kStreamRestartMax
  { v with
    stream := { v.stream with
      connected := false
      taskFailures := failures
      restartNotBefore := some (deadlineAfter now delay) }
    reason := .streamRestartDelayed }

def streamAuditFailed : ScheduledVehicle :=
  { v with stream := { v.stream with auditFailed := true } }

def noDataDeadlineMs : Option ℤ :=
  if v.forceClosedAtGap || !v.lifecycle.any (·.driveOpen) then none
  else v.lastStoredObsMs.map (·+asMillis t.offlineDriveTimeout)

def setLifecycleView (view : LifecycleView) (lastStoredObsMs : Option ℤ) : ScheduledVehicle :=
  { v with lifecycle := some view, lifecycleStale := false, lastStoredObsMs }

def noteForceClosed : ScheduledVehicle :=
  { v with forceClosedAtGap := true, lifecycleStale := true }

def noteObservationStored (receivedAtMs : ℤ) : ScheduledVehicle :=
  { v with
    lastStoredObsMs := some (v.lastStoredObsMs.elim receivedAtMs (max · receivedAtMs))
    forceClosedAtGap := false
    lifecycleStale := true }

def applySettings (hubId : Uuid) (settings : CarSettings) (now : Instant) (wallMs : ℤ) :
    ScheduledVehicle :=
  let old := v.vehicle.settings
  let v : ScheduledVehicle := { v with hubId := some hubId }
  if old = settings then v
  else
    let v : ScheduledVehicle := { v with
      vehicle := { v.vehicle with settings }
      settings := EffectiveSettings.fromCar settings }
    let v :=
      if old.enabled && !settings.enabled then
        { v with
          hold := .disabled
          nextReadDue := none
          nextCheckDue := none
          nextProbeDue := none
          suspendAt := none
          suspendedUntil := none
          reason := .vehicleDisabled }
      else if !old.enabled && settings.enabled && v.hold = .disabled then
        { v with hold := .none, nextReadDue := none }.enterPhase t .unknown now wallMs
          .vehicleEnabled
      else v
    let v :=
      match v.suspendAt, v.lastInUse with
      | some _, some anchor =>
        if old.suspendAfterIdleMin ≠ settings.suspendAfterIdleMin then
          { v with suspendAt := some (deadlineAfter anchor v.settings.suspendAfterIdle) }
        else v
      | _, _ => v
    if old.suspendMin ≠ settings.suspendMin && v.phase = .suspended then
      { v with suspendedUntil := some (max (deadlineAfter v.phaseSince.1 v.settings.suspend) now) }
    else v

def reenabledBy (settings : CarSettings) : Bool :=
  !v.vehicle.settings.enabled && settings.enabled && v.hold = .disabled

def applyRestored (restored : RestoredVehicle) (now : Instant) (wall : ℤ) : ScheduledVehicle :=
  let row := restored.row
  let v : ScheduledVehicle := { v with
    hubId := some row.vehicleId
    lastWakeRead := row.lastWakeReadAtMs.bind (pastInstantFromWall now wall · restored.suspend) }
  if v.hold = .disabled then v
  else
    let probe (bound : Duration) : Instant :=
      row.nextProbeMs.elim (deadlineAfter now bound) (deadlineFromWall now wall · bound)
    match row.hold with
    | .removed =>
      { v with phaseSince := (now, row.phaseSinceMs), hold := .removed, reason := row.reasonCode }
    | .paused =>
      let pause := pauseReasonFromCode row.reasonCode
      { v with
        phaseSince := (now, row.phaseSinceMs)
        hold := .paused pause
        nextProbeDue := if pause ≠ .accessRefused then some (probe kPauseProbe) else none
        reason := row.reasonCode }
    | .service =>
      { v with
        phaseSince := (now, row.phaseSinceMs)
        hold := .service
        nextProbeDue := some (probe kServiceProbe)
        reason := row.reasonCode }
    | .none | .disabled =>
      match row.suspendedUntilMs with
      | some untilMs =>
        if row.phase = PollPhase.suspended && wall < untilMs then
          { v with
            phase := .suspended
            suspendedUntil := some (deadlineFromWall now wall untilMs restored.suspend)
            phaseSince :=
              ((pastInstantFromWall now wall row.phaseSinceMs restored.suspend).getD now,
                row.phaseSinceMs)
            reportedState := some .online
            reason := row.reasonCode }
        else v
      | none => v

end ScheduledVehicle

end TeslatlasHub.Collector
