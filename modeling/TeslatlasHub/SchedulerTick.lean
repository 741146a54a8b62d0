import TeslatlasHub.SchedulerCore

namespace TeslatlasHub.Collector

/-! ### The baseline of a tick (C3 R6) -/

variable (v : ScheduledVehicle)

def ScheduledVehicle.baseline : VehicleBaseline where
  state := v.vehicle.state
  phase := v.phase
  phaseSince := v.phaseSince
  hold := v.hold
  reason := v.reason
  reportedState := v.reportedState
  nextReadDue := v.nextReadDue
  nextCheckDue := v.nextCheckDue
  nextProbeDue := v.nextProbeDue
  suspendAt := v.suspendAt
  suspendedUntil := v.suspendedUntil
  lastInUse := v.lastInUse
  lastSuccess := v.lastSuccess
  offlineFromSession := v.offlineFromSession
  consecutiveFailures := v.consecutiveFailures
  firstFailure := v.firstFailure
  lastError := v.lastError
  missingLists := v.missingLists
  missingLast := v.missingLast
  notFoundCheck := v.notFoundCheck
  placeholder := v.placeholder

def ScheduledVehicle.restoreBaseline (base : VehicleBaseline) : ScheduledVehicle :=
  { v with
    vehicle := { v.vehicle with state := base.state }
    phase := base.phase
    phaseSince := base.phaseSince
    hold := base.hold
    reason := base.reason
    reportedState := base.reportedState
    nextReadDue := base.nextReadDue
    nextCheckDue := base.nextCheckDue
    nextProbeDue := base.nextProbeDue
    suspendAt := base.suspendAt
    suspendedUntil := base.suspendedUntil
    lastInUse := base.lastInUse
    lastSuccess := base.lastSuccess
    offlineFromSession := base.offlineFromSession
    consecutiveFailures := base.consecutiveFailures
    firstFailure := base.firstFailure
    lastError := base.lastError
    missingLists := base.missingLists
    missingLast := base.missingLast
    notFoundCheck := base.notFoundCheck
    placeholder := base.placeholder
    gatedRead := none
    wakeReadPending := false
    suspensionRead := false }

variable (a : AccountRecord)

def AccountRecord.baseline : AccountBaseline where
  state := a.state
  stateReason := a.stateReason
  stateSinceMs := a.stateSinceMs
  lastDiscovery := a.lastDiscovery
  listFloor := a.listFloor
  listWanted := a.listWanted
  discoveryFailures := a.discoveryFailures
  nextBillingProbe := a.nextBillingProbe
  telemetryCheckDue := a.telemetryCheckDue

def AccountRecord.restoreBaseline (base : AccountBaseline) : AccountRecord :=
  { a with
    state := base.state
    stateReason := base.stateReason
    stateSinceMs := base.stateSinceMs
    lastDiscovery := base.lastDiscovery
    listFloor := base.listFloor
    listWanted := base.listWanted
    discoveryFailures := base.discoveryFailures
    nextBillingProbe := base.nextBillingProbe
    telemetryCheckDue := base.telemetryCheckDue }

def AccountRecord.retainStop (a entered : AccountRecord) : AccountRecord :=
  if entered.state = .credentialStop then
    { a with
      state := .credentialStop
      stateReason := entered.stateReason
      stateSinceMs := entered.stateSinceMs }
  else a

def AccountRecord.retainProbe : AccountRecord :=
  match a.probeTimeOfTheTick with
  | some armed =>
    { a with
      probeTimeOfTheTick := none
      nextBillingProbe := if a.state = .billingSuspended then some armed else a.nextBillingProbe }
  | none => a

namespace VehicleScheduler

variable (s : VehicleScheduler)

def captureBaseline : TickBaseline := ⟨s.vehicles.map fun _ v => v.baseline, s.account.baseline⟩

def beginTick : VehicleScheduler :=
  { s with
    account := { s.account with probeTimeOfTheTick := none }
    baseline := some s.captureBaseline }

def renewBaseline : VehicleScheduler := { s with baseline := some s.captureBaseline }

def restoreBaseline (base : TickBaseline) : VehicleScheduler :=
  { s with
    vehicles := (s.vehicles.filter fun id _ => base.vehicles.contains id).map fun id v =>
      (base.vehicles.get? id).elim v v.restoreBaseline
    account := s.account.restoreBaseline base.account }

def accountView : AccountView :=
  if s.account.state = .credentialStop then s.persistedAccount
  else
    { state := s.account.state
      reason := s.account.stateReason
      sinceMs := s.account.stateSinceMs
      rateLimitedUntil := (s.account.wait.filter (·.2 = .rateLimited)).map (·.1)
      nextProbe := s.account.nextBillingProbe }

def accountRow (view : AccountView) (m : Moment) : CollectorAccountRow where
  mode := s.mode
  configFingerprint := s.configFingerprint
  state := view.state
  reasonCode := view.reason
  sinceMs := max view.sinceMs 0
  rateLimitedUntilMs := view.rateLimitedUntil.map (wallOfInstant m.now (s.wallOrLast m))
  nextProbeMs := view.nextProbe.map (wallOfInstant m.now (s.wallOrLast m))

end VehicleScheduler

def ScheduledVehicle.view : VehicleView where
  phase := v.phase
  hold := v.hold
  reason := v.shownReason
  phaseSinceMs := v.phaseSince.2
  suspendedUntil := if v.phase = .suspended then v.suspendedUntil else none
  nextProbe := if v.isHeld then v.nextProbeDue else none
  lastWakeRead := v.lastWakeRead

def VehicleView.isInitial (view : VehicleView) : Bool :=
  view.phase = .unknown && view.hold = .none && view.reason = .collecting &&
    view.suspendedUntil = none && view.nextProbe = none && view.lastWakeRead = none

namespace VehicleScheduler

variable (s : VehicleScheduler)

def vehicleRow (hubId : Uuid) (view : VehicleView) (m : Moment) : CollectorVehicleRow where
  vehicleId := hubId
  phase := view.phase
  hold := view.hold.code
  reasonCode := view.reason
  phaseSinceMs := max view.phaseSinceMs 0
  suspendedUntilMs := view.suspendedUntil.map (wallOfInstant m.now (s.wallOrLast m))
  nextProbeMs := view.nextProbe.map (wallOfInstant m.now (s.wallOrLast m))
  lastWakeReadAtMs := view.lastWakeRead.map (wallOfInstant m.now (s.wallOrLast m))

variable (m : Moment)

def vehicleWrite (id : VehicleId) (v : ScheduledVehicle) : Option VehicleWrite :=
  match v.hubId with
  | none => none
  | some hubId =>
    let persisted := s.persistedVehicles.get? id
    if v.placeholder && persisted.all (·.hold = v.hold) then none
    else if persisted.elim (!v.view.isInitial) (· ≠ v.view) then
      some ⟨id, v.view, s.vehicleRow hubId v.view m⟩
    else none

def gapEpisode (kind : GapKind) (active : Bool) (m : Moment) : Option (Instant × ℤ) :=
  if active then some ((s.gapEpisodes.get? kind).getD (m.now, s.wallOrLast m)) else none

def waitEpisodes : List (GapKind × Option (Instant × ℤ)) :=
  [(.rateLimited, s.gapEpisode .rateLimited (0 < s.account.consecutive429) m),
    (.teslaUnreachable, s.gapEpisode .teslaUnreachable (0 < s.account.consecutiveUnreachable) m)]

def wantedGaps : OrderedMap GapKey ℤ :=
  let wall := s.wallOrLast m
  let stop := s.account.state = .credentialStop
  let ofAccount := (GapKind.ofAccountState s.account.state).toList.map fun kind =>
    (GapKey.mk kind none, if stop then s.account.stateSinceMs else wall)
  -- a credential stop over a retained account stop leaves that stop's gap alone
  let retained :=
    if stop then
      (GapKind.ofAccountState s.persistedAccount.state).toList.map fun kind => (GapKey.mk kind none,
        wall)
    else []
  let paused := (s.vehicles.entries.filter fun e => e.2.hold.isPaused && e.2.hubId.isSome).map
      fun e =>
    (GapKey.mk .vehiclePaused (some e.1), wall)
  let waits := (s.waitEpisodes m).filterMap fun episode =>
    (episode.2.filter fun began => kGapMin ≤ m.now-began.1).map fun began =>
      (GapKey.mk episode.1 none, began.2)
  (ofAccount++retained++paused++waits).foldl (fun wanted gap => wanted.insert gap.1 gap.2) .empty

def gapOpens : List GapOpen :=
  ((s.wantedGaps m).entries.filter fun e => !s.openGaps.contains e.1).map fun e =>
    { key := e.1
      hubId := e.1.vehicle.bind fun id => (s.vehicles.get? id).bind (·.hubId)
      startedMs := e.2
      alert := s.anyCarAwake e.1.vehicle }

def gapCloses : List GapClose :=
  (s.openGaps.entries.filter fun e => !(s.wantedGaps m).contains e.1).map fun e =>
    { key := e.1
      hubId := e.2.hubId
      endedMs := s.wallOrLast m
      alertAtOrOverMs := asMillis s.timing.offlineDriveTimeout }

def setEpisodes : VehicleScheduler :=
  { s with
    gapEpisodes := (s.waitEpisodes m).foldl
      (fun episodes e => e.2.elim (episodes.erase e.1) (episodes.insert e.1)) s.gapEpisodes }

def takeTick : VehicleScheduler × PendingTick :=
  let tick : PendingTick := { s.pending with
    account :=
      if s.accountView = s.persistedAccount then s.pending.account
      else some ⟨s.accountView, s.accountRow s.accountView m⟩
    vehicles :=
      s.pending.vehicles++s.vehicles.entries.filterMap fun e => s.vehicleWrite m e.1 e.2
    gapOpens := s.pending.gapOpens++s.gapOpens m
    gapCloses := s.pending.gapCloses++s.gapCloses m }
  ({ s with pending := {} }.setEpisodes m, tick)

variable (tick : PendingTick)

def attachCounters (otherWrites : Bool) (now : Instant) : PendingTick :=
  let flushDue := kCounterFlush ≤ now-s.ledger.lastFlush
  let rows := s.ledger.rows
  if s.ledger.dirty && (s.mode = .fleetPolling || otherWrites || flushDue) then
    { tick with counters := (tick.counters.filter fun old => rows.all (!old.sameKey ·))++rows }
  else tick

def putViews (views : OrderedMap VehicleId VehicleView) (writes : List VehicleWrite) :
    OrderedMap VehicleId VehicleView :=
  writes.foldl (fun views write => views.insert write.id write.view) views

def putGaps (gaps : OrderedMap GapKey OpenGap) (tick : PendingTick) : OrderedMap GapKey OpenGap :=
  let opened := tick.gapOpens.foldl
    (fun gaps gap => gaps.insert gap.key ⟨gap.startedMs, gap.alert, gap.hubId⟩) gaps
  tick.gapCloses.foldl (fun gaps close => gaps.erase close.key) opened

def commitSucceeded (now : Instant) : VehicleScheduler :=
  let s : VehicleScheduler := { s with
    account := { s.account with probeTimeOfTheTick := none }.storeRecovered
    ledger := s.ledger.markPersisted tick.counters now
    persistedAccount := tick.account.elim s.persistedAccount (·.view)
    persistedVehicles := putViews s.persistedVehicles tick.vehicles
    openGaps := putGaps s.openGaps tick
    restored := s.restored.filter fun id _ => (s.vehicles.get? id).all (·.placeholder) }
  s.renewBaseline

def rollBack : VehicleScheduler := { s.baseline.elim s s.restoreBaseline with baseline := none }

def commitFailed (now : Instant) : VehicleScheduler :=
  let entered := s.account
  let s := { s with pending := { s.pending with gaps := tick.gaps++s.pending.gaps } }.rollBack
  { s with
    account := ((s.account.retainStop entered).retainProbe).storeFailed s.timing (s.jitter 0) now
    jitter := s.jitterTail }

end VehicleScheduler

structure StoredGap where
  kind : GapKind
  vehicleId : Option Uuid
  startedAtMs : ℤ
  alert : Bool
  deriving DecidableEq

structure CollectorStore where
  account : Option CollectorAccountRow := none
  vehicles : List CollectorVehicleRow := []
  counters : List CollectorCounterRow := []
  openGaps : List StoredGap := []
  deriving DecidableEq

namespace CollectorStore

variable (store : CollectorStore)

def putVehicle (row : CollectorVehicleRow) : CollectorStore :=
  { store with vehicles := store.vehicles.filter (·.vehicleId ≠ row.vehicleId)++[row] }

def putCounter (row : CollectorCounterRow) : CollectorStore :=
  { store with counters := store.counters.filter (!·.sameKey row)++[row] }

def closeGap (kind : GapKind) (vehicleId : Option Uuid) : CollectorStore :=
  { store with openGaps := store.openGaps.filter fun gap => (gap.kind, gap.vehicleId) ≠ (kind,
    vehicleId) }

def openGap (gap : StoredGap) : CollectorStore :=
  if store.openGaps.any fun old => (old.kind, old.vehicleId) = (gap.kind, gap.vehicleId) then store
  else { store with openGaps := store.openGaps++[gap] }

def write (tick : PendingTick) : CollectorStore :=
  let store := { store with account := (tick.account.map (·.row)).or store.account }
  let store := tick.vehicles.foldl (fun store write => store.putVehicle write.row) store
  let store := tick.counters.foldl (fun store row => store.putCounter row) store
  let store := tick.gapCloses.foldl (fun store close => store.closeGap close.key.kind close.hubId)
      store
  tick.gapOpens.foldl
    (fun store gap => store.openGap ⟨gap.key.kind, gap.hubId, gap.startedMs, gap.alert⟩) store

def beginRun (mode : CollectorMode) (fingerprint : String) (startMs : ℤ) : CollectorStore :=
  match store.account with
  | none => store
  | some row =>
    if row.mode = mode ∧ row.configFingerprint = fingerprint then store
    else
      let reset :=
        if row.state = .collecting then row
        else
          { row with
            state := .collecting
            reasonCode := .configChanged
            sinceMs := startMs
            rateLimitedUntilMs := none
            nextProbeMs := none }
      let refused (row : CollectorVehicleRow) : Bool :=
        row.hold = .paused && row.reasonCode = .pausedAccessRefused
      { store with
        account := some { reset with mode, configFingerprint := fingerprint }
        vehicles := store.vehicles.map fun row =>
          if refused row then
            { row with
              phase := .unknown
              hold := .none
              reasonCode := .configChanged
              phaseSinceMs := startMs
              suspendedUntilMs := none
              nextProbeMs := none }
          else row
        openGaps := store.openGaps.filter fun gap =>
          !(row.state ≠ .collecting && gap.vehicleId = none &&
              [GapKind.ownerApiRefused, .providerRefused, .fleetAccessRefused, .billingSuspended,
                .capReached, .configError, .accountLocked].contains gap.kind) &&
            !(gap.kind = .vehiclePaused &&
              (store.vehicles.filter refused).any fun row => gap.vehicleId = some row.vehicleId) }

end CollectorStore

structure CollectorStateSnapshot where
  account : Option CollectorAccountRow
  vehicles : List RestoredVehicle
  counters : List CollectorCounterRow
  openGaps : List StoredGap
  vehicleIds : List (Uuid × VehicleId)
  configFingerprint : String

def CollectorStateSnapshot.fromRows (rows : CollectorStore) (configFingerprint : String)
    (configured : List ConfiguredCar) : CollectorStateSnapshot :=
  let known := configured.filterMap fun car =>
    (VehicleId.tryFromI64 car.teslaId).map fun id => (car.hubId, id,
      EffectiveSettings.fromCar car.settings)
  -- a later row of the configuration stands
  let joined := known.reverse
  { account := rows.account
    vehicles := rows.vehicles.filterMap fun row =>
      (joined.find? (·.1 = row.vehicleId)).map fun car => ⟨car.2.1, row, car.2.2.suspend⟩
    counters := rows.counters
    openGaps := rows.openGaps
    vehicleIds := joined.map fun car => (car.1, car.2.1)
    configFingerprint }

def accountStateFromCode : AccountState → AccountState
  | .credentialStop => .collecting
  | state => state

def RestoredVehicle.view (restored : RestoredVehicle) (now : Instant) (wall : ℤ) : VehicleView :=
  let row := restored.row
  { phase := row.phase
    hold :=
      match row.hold with
      | .disabled => .disabled
      | .service => .service
      | .paused => .paused (pauseReasonFromCode row.reasonCode)
      | .removed => .removed
      | .none => .none
    reason := row.reasonCode
    phaseSinceMs := row.phaseSinceMs
    suspendedUntil := row.suspendedUntilMs.map (deadlineFromWall now wall · restored.suspend)
    nextProbe := row.nextProbeMs.map
      (deadlineFromWall now wall · (if row.hold = .service then kServiceProbe else kPauseProbe))
    lastWakeRead := row.lastWakeReadAtMs.bind (pastInstantFromWall now wall · restored.suspend) }

namespace VehicleScheduler

variable (s : VehicleScheduler)

def loadAccount (row : CollectorAccountRow) (fingerprint : String) (m : Moment) :
    VehicleScheduler :=
  let wall := s.wallOrLast m
  let state := accountStateFromCode row.state
  let rateLimitedUntil := row.rateLimitedUntilMs.map (deadlineFromWall m.now wall · kRetryAfterMax)
  let nextProbe := row.nextProbeMs.map (deadlineFromWall m.now wall · kBillingProbe)
  { s with
    persistedAccount := ⟨state, row.reasonCode, row.sinceMs, rateLimitedUntil, nextProbe⟩
    account :=
      if row.mode = s.mode ∧ row.configFingerprint = fingerprint then
        { s.account with
          state
          stateReason := row.reasonCode
          stateSinceMs := row.sinceMs
          wait := (rateLimitedUntil.filter (m.now < ·)).map (·, .rateLimited)
          nextBillingProbe := nextProbe }
      else if state ≠ .collecting then
        { s.account with state := .collecting, stateReason := .configChanged, stateSinceMs := wall }
      else s.account }

def loadVehicle (m : Moment) (restored : RestoredVehicle) : VehicleScheduler :=
  let wall := s.wallOrLast m
  let s := { s with
    persistedVehicles := s.persistedVehicles.insert restored.teslaId (restored.view m.now wall) }
  if s.vehicles.contains restored.teslaId then
    s.modifyCar restored.teslaId (·.applyRestored restored m.now wall)
  else { s with restored := s.restored.insert restored.teslaId restored }

def loadGap (vehicleIds : List (Uuid × VehicleId)) (gap : StoredGap) : VehicleScheduler :=
  let put (vehicle : Option VehicleId) : VehicleScheduler :=
    { s with
      openGaps := s.openGaps.insert ⟨gap.kind, vehicle⟩ ⟨gap.startedAtMs, gap.alert, gap.vehicleId⟩
        }
  match gap.vehicleId with
  | none => put none
  | some hubId => (vehicleIds.lookup hubId).elim s fun id => put (some id)

def loadCounters (rows : List CollectorCounterRow) (m : Moment) : VehicleScheduler :=
  let s := { s with ledger := s.ledger.load rows m }
  let a :=
    if s.account.state = .capReached && s.ledger.capAllowsOneMore then
      s.account.resumeFromCap m.now (s.wallOrLast m)
    else s.account
  let counted := ((rows.filter (·.mode = s.mode)).map (·.month)).max?
  let lastCounted := counted.or (Month.containing a.stateSinceMs)
  { s with account := if lastCounted.any (· < s.ledger.span) then a.noteNewMonth m.now else a }

def load (snapshot : CollectorStateSnapshot) (m : Moment) : VehicleScheduler :=
  let s := { s with configFingerprint := snapshot.configFingerprint }
  let s := snapshot.account.elim s fun row => s.loadAccount row snapshot.configFingerprint m
  let s := snapshot.vehicles.foldl (fun s restored => s.loadVehicle m restored) s
  let s := snapshot.openGaps.foldl (fun s gap => s.loadGap snapshot.vehicleIds gap) s
  s.loadCounters snapshot.counters m

end VehicleScheduler

end TeslatlasHub.Collector
