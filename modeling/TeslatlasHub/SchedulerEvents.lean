import TeslatlasHub.SchedulerTick

namespace TeslatlasHub.Collector

open VehicleScheduler (ProbeOutcome)

inductive Input where
  | settings (configured : List ConfiguredCar)
  | clock
  | beginTick
  | ownerActions (actions : List OwnerActionRow)
  | list (vehicles : List ListedVehicle)
  | listFailed (error : CollectorError)
  | listRefused
  | listResendWithheld
  | record (id : VehicleId) (state : ReportedState)
  | recordFailed (id : VehicleId) (error : CollectorError)
  | dueReads
  | dueProbes
  | readSucceeded (id : VehicleId) (phase : SnapshotPhase) (sleepEligible : Bool)
  | readFailed (id : VehicleId) (error : CollectorError)
  | probeFinished (id : VehicleId) (outcome : ProbeOutcome)
  | requestWithheld (id : VehicleId)
  | resendWithheld (category : RequestCategory)
  | releaseInFlight
  | admitRequest (category : RequestCategory)
  | plan (requests : List (RequestCategory × ℕ))
  | reservationCommitted
  | requestCompleted (category : RequestCategory) (billable : Bool)
  | requestUnstarted (category : RequestCategory)
  | requestRecorded (category : RequestCategory) (billable : Bool)
  | frameStored (id : VehicleId)
  | frame (id : VehicleId) (shiftState : Option String) (speed : Option ℚ) (power : Option ℤ)
  | streamHealthy (id : VehicleId)
  | streamUnhealthy (id : VehicleId)
  | streamOffline (id : VehicleId)
  | streamsToStop
  | streamTaskEnded (id : VehicleId)
  | streamAuditFailed (id : VehicleId)
  | streamDelivery (delivers : Bool)
  | gateRevoked (id : VehicleId)
  | gatesTaken
  | lifecycleRead (id : VehicleId) (view : LifecycleView) (lastStoredObsMs : Option ℤ)
  | lifecycleChanged (id : VehicleId)
  | forceClosed (id : VehicleId)
  | observationStored (id : VehicleId) (receivedAtMs : ℤ)
  | credentialSeen (seen : CredentialStateSeen)
  | authReady
  | credentialStop
  | refreshStopAtStart

def CollectorError.isFleet : CollectorError → Bool
  | .fleetApi _ | .fleetCredential _ => true
  | _ => false

def Input.sentIn (mode : CollectorMode) : Input → Bool
  | .listFailed error | .recordFailed _ error | .readFailed _ error | .probeFinished _
      (.failed error) =>
    !error.isFleet || mode = .fleetPolling
  | .credentialSeen _ | .authReady => mode.isOwnerWire
  | .refreshStopAtStart => mode = .fleetPolling
  | _ => true

inductive TransactionEnd where
  | failed
  | ran (batchWrote : Bool)
  deriving DecidableEq

inductive TickOutcome where
  | idle
  | failed
  | committed (wrote : Bool)
  deriving DecidableEq

structure ProcessStart where
  cadence : CollectorCadence
  mode : CollectorMode
  fleet : FleetPolicy
  jitter : ℕ → ℚ
  fingerprint : String
  configured : List ConfiguredCar

inductive Happening where
  | input (input : Input)
  | commit (batchNeedsStore : Bool) (transaction : TransactionEnd)
  | stop (recorded : Bool)
  | start (start : ProcessStart)

structure Event where
  time : Moment
  what : Happening

namespace VehicleScheduler

variable (s : VehicleScheduler)

def react (m : Moment) : Input → VehicleScheduler
  | .settings configured => s.applyControlSettings configured m
  | .clock => s.observeClock m
  | .beginTick => s.beginTick
  | .ownerActions actions => s.applyOwnerActions actions m
  | .list vehicles => s.acceptDiscovery vehicles m
  | .listFailed error => (s.discoveryFailedForError error m).1
  | .listRefused => (s.listRefusedAfterCheck m).1
  | .listResendWithheld => s.listResendWithheld m
  | .record id state => s.acceptVehicleState id state m
  | .recordFailed id error => s.offlineStateFailedForError id error m
  | .dueReads => (s.dueVehicles m).1
  | .dueProbes => (s.dueProbeVehicles m.now).1
  | .readSucceeded id phase sleepEligible => s.vehicleSucceeded id phase.phase sleepEligible m
  | .readFailed id error => (s.vehicleFailedForError id error m).1
  | .probeFinished id outcome => (s.probeFinished id outcome m).1
  | .requestWithheld id => s.requestWithheld id
  | .resendWithheld category => s.resendWithheld category m
  | .releaseInFlight => s.releaseInFlight
  | .admitRequest category => (s.admitRequest category m).1
  | .plan requests => (s.planReservation requests m).1
  | .reservationCommitted =>
    { s with account := { s.account with reservationCommits := s.account.reservationCommits+1 } }
  | .requestCompleted category billable => { s with ledger := s.ledger.complete category billable }
  | .requestUnstarted category => { s with ledger := s.ledger.unstart category }
  | .requestRecorded category billable =>
    { s with ledger := s.ledger.recordCompleted category billable }
  | .frameStored id => s.modifyCar id (·.frameArrived m.now)
  | .frame id shiftState speed power => s.scheduleStreamEvidence id shiftState speed power m
  | .streamHealthy id => s.modifyCar id (·.streamHealthy m.now)
  | .streamUnhealthy id => s.modifyCar id (·.streamUnhealthy s.timing m.now)
  | .streamOffline id => s.scheduleOfflineStateFetch id m.now
  | .streamsToStop => (s.streamsToStop m.now).1
  | .streamTaskEnded id => s.modifyCar id (·.streamTaskEnded m.now)
  | .streamAuditFailed id => s.modifyCar id (·.streamAuditFailed)
  | .streamDelivery delivers => { s with streamDelivery := delivers }
  | .gateRevoked id => s.revokeGate id
  | .gatesTaken => { s with gateRevocations := ∅ }
  | .lifecycleRead id view lastStoredObsMs =>
    s.modifyCar id (·.setLifecycleView view lastStoredObsMs)
  | .lifecycleChanged id => s.modifyCar id ({ · with lifecycleStale := true })
  | .forceClosed id => s.modifyCar id (·.noteForceClosed)
  | .observationStored id receivedAtMs => s.modifyCar id (·.noteObservationStored receivedAtMs)
  | .credentialSeen seen => s.credentialStateSeen seen m
  | .authReady => s.endAuthWait m.now
  | .credentialStop => s.enterCredentialStop m
  | .refreshStopAtStart => s.enterFleetRefreshStopAtStart m

def handedTick (otherWrites : Bool) (m : Moment) : PendingTick :=
  (s.takeTick m).1.attachCounters (s.takeTick m).2 otherWrites m.now

def tickOutcome (batchNeedsStore : Bool) (transaction : TransactionEnd) (m : Moment) :
    TickOutcome :=
  let otherWrites := batchNeedsStore || (s.takeTick m).2 ≠ {}
  let tick := s.handedTick otherWrites m
  if !otherWrites && tick.counters = [] then .idle
  else
    match transaction with
    | .failed => .failed
    | .ran batchWrote => .committed (tick ≠ {} || batchWrote)

def commitTick (batchNeedsStore : Bool) (transaction : TransactionEnd) (m : Moment) :
    VehicleScheduler × PendingTick :=
  let taken := (s.takeTick m).1
  let tick := s.handedTick (batchNeedsStore || (s.takeTick m).2 ≠ {}) m
  match s.tickOutcome batchNeedsStore transaction m with
  | .idle => (taken, {})
  | .failed => (taken.commitFailed tick m.now, {})
  | .committed true => (taken.commitSucceeded tick m.now, tick)
  | .committed false => (taken.renewBaseline, {})

def finishRun (recorded : Bool) (m : Moment) : VehicleScheduler × PendingTick :=
  let taken := (s.takeTick m).1
  let tick := s.handedTick true m
  if recorded then (taken.commitSucceeded tick m.now, tick) else (taken, {})

end VehicleScheduler

structure Hub where
  store : CollectorStore
  scheduler : VehicleScheduler

namespace Hub

def start (store : CollectorStore) (process : ProcessStart) (m : Moment) : Hub :=
  let store := store.beginRun process.mode process.fingerprint (m.wall.getD 0)
  let snapshot := CollectorStateSnapshot.fromRows store process.fingerprint process.configured
  let fresh := VehicleScheduler.newWith process.cadence process.mode process.fleet m process.jitter
  { store, scheduler := fresh.load snapshot m }

def step (hub : Hub) (e : Event) : Hub :=
  match e.what with
  | .input input => { hub with scheduler := hub.scheduler.react e.time input }
  | .commit batchNeedsStore transaction =>
    let committed := hub.scheduler.commitTick batchNeedsStore transaction e.time
    { store := hub.store.write committed.2, scheduler := committed.1 }
  | .stop recorded =>
    let finished := hub.scheduler.finishRun recorded e.time
    { store := hub.store.write finished.2, scheduler := finished.1 }
  | .start process => start hub.store process e.time

def run (hub : Hub) (es : List Event) : Hub := es.foldl step hub

def sends (hub : Hub) (e : Event) : Bool :=
  match e.what with
  | .input i => i.sentIn hub.scheduler.mode
  | _ => true

def first (process : ProcessStart) (m : Moment) : Hub := start {} process m

end Hub

def CollectorCadence.default : CollectorCadence where
  driving := millis 10000
  drivingStream := secs 60
  charging := secs 30
  online := secs 60
  sleeping := secs 30
  offlineDriveTimeout := secs 600
  suspended := secs 30
  updating := secs 120
  inventory := secs 300
  maximumBackoff := secs 300

def FleetPolicy.default : FleetPolicy where
  intervals :=
    { driving := secs 30
      charging := secs 120
      updating := secs 300
      online := secs 120
      stateCheck := secs 600
      inventory := secs 3600 }
  monthlyCapCents := 1000
  pricing := ⟨500, some 500, 50, 1000⟩

def CarSettings.newLive : CarSettings := ⟨true, true, 15, 30⟩

def ProcessStart.default (mode : CollectorMode) (configured : List ConfiguredCar) :
    ProcessStart where
  cadence := .default
  mode
  fleet := .default
  jitter := fun _ => 1/2
  fingerprint := noFingerprint
  configured

def Moment.atSecond (seconds : ℕ) : Moment := ⟨secs seconds, some (1000*seconds)⟩

def Input.atSecond (seconds : ℕ) (i : Input) : Event := ⟨.atSecond seconds, .input i⟩

def Hub.failedCommit (seconds : ℕ) : Event := ⟨.atSecond seconds, .commit true .failed⟩

def ListedVehicle.reported (id : VehicleId) (state : ReportedState) : ListedVehicle :=
  ⟨id, { state, settings := .newLive }⟩

end TeslatlasHub.Collector
