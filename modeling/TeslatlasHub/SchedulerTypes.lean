import TeslatlasHub.OrderedMap
import TeslatlasHub.LegacyStore

namespace TeslatlasHub.Collector

abbrev Instant := ℕ

abbrev Duration := ℕ

structure Moment where
  now : Instant
  wall : Option ℤ
  deriving DecidableEq

def secs (n : ℕ) : Duration := n*1000000000

def millis (n : ℕ) : Duration := n*1000000

def asMillis (d : Duration) : ℤ := (d/1000000 : ℕ)

def controlSettingsRefresh : Duration := secs 5
def kMaxIdleWait : Duration := secs 60
def kLoopFloor : Duration := millis 100
def kMaxInFlight : ℕ := 4
def kClockDivergenceMs : ℤ := 60000
def kGapMin : Duration := secs 65
def kRetryAfterMax : Duration := secs 3600
def kBillingProbe : Duration := secs 21600
def kPauseProbe : Duration := secs 3600
def kServiceProbe : Duration := secs 900
def kBackoffBase : Duration := secs 10
def kDriveFrameSilence : Duration := secs 30
def settingMinMinutes : ℤ := 1
def settingMaxMinutes : ℤ := 1440
def kWakeWatch : Duration := secs 300
def kUpdateStale : Duration := secs 7200
def kStreamPowerKw : ℕ := 1
def kStreamRestartBase : Duration := secs 30
def kStreamRestartMax : Duration := secs 300
def k429Default : Duration := secs 60
def fleetRefreshRequestNotSentRetry : Duration := secs 300
def kPauseFailures : ℕ := 12
def kPauseMinAge : Duration := secs 3600
def kRemoveLists : ℕ := 2

def deadlineAfter (now : Instant) (delay : Duration) : Instant := now+delay

def backoffDelay (failures : ℕ) (maximum : Duration) (u : ℚ) : Duration :=
  let exponent := min (failures-1) 31
  let nominal := min (kBackoffBase*2^exponent) maximum
  let u := max 0 (min u 1)
  nominal/2+((nominal : ℚ)*u+1/2).floor.toNat/2

variable (monoNow : Instant)

def deadlineFromWall (wallNowMs deadlineMs : ℤ) (bound : Duration) : Instant :=
  let remainingMs := max 0 (min (deadlineMs-wallNowMs) (asMillis bound))
  deadlineAfter monoNow (millis remainingMs.toNat)

def pastInstantFromWall (wallNowMs persistedMs : ℤ) (bound : Duration) : Option Instant :=
  let ageMs := max 0 (min (wallNowMs-persistedMs) (asMillis bound))
  if asMillis bound ≤ ageMs then none
  else
    let age := millis ageMs.toNat
    some (if age ≤ monoNow then monoNow-age else monoNow)

def wallOfInstant (wallNowMs : ℤ) (instant : Instant) : ℤ :=
  let delta := if monoNow ≤ instant then asMillis (instant-monoNow) else -asMillis (monoNow-instant)
  max 0 (wallNowMs+delta)

abbrev VehicleId := ℕ

def VehicleId.tryFromI64 (value : ℤ) : Option VehicleId :=
  if 0 < value then some value.toNat else none

inductive CollectorMode where
  | legacy | provider | fleetPolling
  deriving DecidableEq

def CollectorMode.isOwnerWire : CollectorMode → Bool
  | legacy | provider => true
  | fleetPolling => false

inductive PollPhase where
  | unknown | asleep | offline | online | suspended | driving | charging | updating
  deriving DecidableEq

def PollPhase.isSession : PollPhase → Bool
  | driving | charging | updating => true
  | _ => false

def PollPhase.isReadPhase (phase : PollPhase) : Bool := phase = .online || phase.isSession

inductive SnapshotPhase where
  | driving | updating | charging | online
  deriving DecidableEq

def SnapshotPhase.phase : SnapshotPhase → PollPhase
  | driving => .driving
  | updating => .updating
  | charging => .charging
  | online => .online

inductive PauseReason where
  | persistentFailure | mobileAccessDisabled | legalPrivacy | accessRefused
  deriving DecidableEq

inductive VehicleHold where
  | none
  | disabled
  | service
  | paused (reason : PauseReason)
  | removed
  deriving DecidableEq

inductive HoldCode where
  | none | disabled | service | paused | removed
  deriving DecidableEq

def VehicleHold.code : VehicleHold → HoldCode
  | none => .none
  | disabled => .disabled
  | service => .service
  | paused _ => .paused
  | removed => .removed

def VehicleHold.isPaused (hold : VehicleHold) : Bool := hold.code = .paused

inductive AccountState where
  | collecting | ownerApiRefused | providerRefused | fleetAccessRefused | billingSuspended
  | capReached | configError | accountLocked | credentialStop
  deriving DecidableEq

inductive WaitReason where
  | rateLimited | teslaUnreachable | authWait | store
  deriving DecidableEq

inductive ErrorClass where
  | auth | authWait | credentialStop | unavailable | rateLimited | unreachable | transient
      | protocol
  | notFound | inService | ownerApiRefusal | providerRefusal | fleetAccess | accessRefused | billing
  | config | locked | mobileAccessDisabled | legalPrivacy | clientError | gateNotConfirmed
  deriving DecidableEq

inductive RequestKind where
  | list | record | read | probe
  deriving DecidableEq

inductive ProbeKind where
  | serviceRecord | read
  deriving DecidableEq

inductive Reason where
  | collecting | vehicleDisabled | vehicleEnabled | firstContactRead | wakeRead | wakeReadLimited
  | sessionReturn | useEvidenceSnapshot | useEvidenceStream | suspendedIdle
  | suspensionEndedStillOnline | reportedAsleep | reportedOffline | reportedOnline | updateStale
  | streamOutage | streamRecovered | streamRestartDelayed | streamAuditFailed
  | pausedPersistentFailure | pausedMobileAccessDisabled | pausedLegalPrivacy | pausedAccessRefused
  | resumed | serviceEntered | serviceExited | authTerminal | ownerApiRefused
  | ownerApiClientRefused | ownerApiGone | providerPaymentRequired | providerGone
      | providerForbidden
  | providerClientRefused | fleetAccessRefused | billingSuspended | billingResumed
  | configPartnerUnregistered | configWrongRegion | accountLocked | capReached | capCleared
  | vehicleRemoved | vehicleReappeared | ownerRetry | ownerResume | configChanged
  deriving DecidableEq

inductive ReportedState where
  | online
  | asleep
  | offline
  | other (text : String)
  deriving DecidableEq

inductive GatedEvidence where
  | motion | power
  deriving DecidableEq

structure CarSettings where
  (enabled useStreamingApi : Bool)
  (suspendAfterIdleMin suspendMin : ℤ)
  deriving DecidableEq

structure EffectiveSettings where
  (enabled useStreamingApi : Bool)
  (suspendAfterIdle suspend : Duration)
  deriving DecidableEq

def settingMinutes (value : ℤ) : Duration :=
  secs ((max settingMinMinutes (min value settingMaxMinutes)).toNat*60)

def EffectiveSettings.fromCar (settings : CarSettings) : EffectiveSettings where
  enabled := settings.enabled
  useStreamingApi := settings.useStreamingApi
  suspendAfterIdle := settingMinutes settings.suspendAfterIdleMin
  suspend := settingMinutes settings.suspendMin

theorem settingMinutes_pos (value : ℤ) : 0 < settingMinutes value := by
  have h : (1 : ℤ) ≤ max settingMinMinutes (min value settingMaxMinutes) := le_max_left _ _
  have hn : 0 < (max settingMinMinutes (min value settingMaxMinutes)).toNat := by omega
  exact Nat.mul_pos (Nat.mul_pos hn (by decide)) (by decide)

structure CollectorCadence where
  (driving drivingStream charging online sleeping offlineDriveTimeout suspended updating inventory
    maximumBackoff : Duration)

structure FleetIntervals where
  (driving charging updating online stateCheck inventory : Duration)

structure FleetPricing where
  data : ℕ
  state : Option ℕ
  (wake command : ℕ)
  deriving DecidableEq

structure FleetPolicy where
  intervals : FleetIntervals
  monthlyCapCents : ℕ
  pricing : FleetPricing

structure Timing where
  driving : Duration
  drivingStream : Option Duration
  (charging online updating stateSuspended stateOther inventory maxBackoff minReadSpacing
    offlineDriveTimeout : Duration)
  deriving DecidableEq

namespace Timing

def new (cadence : CollectorCadence) (mode : CollectorMode) (fleet : FleetPolicy) : Timing :=
  let timing : Timing :=
    if mode.isOwnerWire then
      { driving := cadence.driving
        drivingStream := some cadence.drivingStream
        charging := cadence.charging
        online := cadence.online
        updating := cadence.updating
        stateSuspended := cadence.suspended
        stateOther := cadence.sleeping
        inventory := cadence.inventory
        maxBackoff := cadence.maximumBackoff
        minReadSpacing := 0
        offlineDriveTimeout := cadence.offlineDriveTimeout }
    else
      { driving := fleet.intervals.driving
        drivingStream := none
        charging := fleet.intervals.charging
        online := fleet.intervals.online
        updating := fleet.intervals.updating
        stateSuspended := fleet.intervals.stateCheck
        stateOther := fleet.intervals.stateCheck
        inventory := fleet.intervals.inventory
        maxBackoff := cadence.maximumBackoff
        minReadSpacing := 0
        offlineDriveTimeout := cadence.offlineDriveTimeout }
  { timing with minReadSpacing := min timing.driving (timing.drivingStream.getD timing.driving) }

def readInterval (t : Timing) (phase : PollPhase) (streamHealthy : Bool) : Option Duration :=
  match phase with
  | .driving =>
    match streamHealthy, t.drivingStream with
    | true, some interval => some interval
    | _, _ => some t.driving
  | .charging => some t.charging
  | .updating => some t.updating
  | .online => some t.online
  | .unknown | .asleep | .offline | .suspended => none

def stateInterval (t : Timing) (phase : PollPhase) : Duration :=
  if phase = .suspended then t.stateSuspended else t.stateOther

end Timing

structure StreamView where
  connected : Bool := false
  lastFrame : Option Instant := none
  outageReported : Bool := false
  taskFailures : ℕ := 0
  (restartNotBefore outageStarted : Option Instant := none)
  outageFailures : ℕ := 0
  auditFailed : Bool := false
  deriving DecidableEq

structure LifecycleView where
  driveOpen : Bool
  deriving DecidableEq

structure Vehicle where
  state : ReportedState
  settings : CarSettings
  deriving DecidableEq

structure ScheduledVehicle where
  vehicle : Vehicle
  hubId : Option Uuid := none
  settings : EffectiveSettings
  phase : PollPhase := .unknown
  phaseSince : Instant × ℤ
  hold : VehicleHold
  reason : Reason
  reportedState : Option ReportedState := none
  (nextReadDue nextCheckDue nextProbeDue : Option Instant := none)
  /-- Online only: when the idle window ends and the suspension begins (R31). -/
  suspendAt : Option Instant := none
  /-- Suspended only: when the suspension ends (R32, R33). -/
  (suspendedUntil lastInUse lastRead lastWakeRead : Option Instant := none)
  lastSuccess : Option (Instant × ℤ) := none
  offlineFromSession : Bool := false
  consecutiveFailures : ℕ := 0
  firstFailure : Option Instant := none
  lastError : Option ErrorClass := none
  stream : StreamView := {}
  missingLists : ℕ := 0
  missingLast : Option Instant := none
  notFoundCheck : Bool := false
  lifecycle : Option LifecycleView := none
  lifecycleStale : Bool := true
  lastStoredObsMs : Option ℤ := none
  (forceClosedAtGap inFlight : Bool := false)
  /-- Made from the owner's configuration alone; no list has named the car yet. -/
  placeholder : Bool := false
  /-- The due or running read was made due by stream evidence while the car was Suspended (R36). -/
  gatedRead : Option GatedEvidence := none
  wakeReadPending : Bool := false
  /-- The read at the end of a suspension (R33) is due or running. -/
  suspensionRead : Bool := false
  lastPowerTrigger : Option Instant := none
  (streamWanted unavailableCheck : Bool := false)

structure AccountRecord where
  state : AccountState := .collecting
  stateReason : Reason := .collecting
  stateSinceMs : ℤ
  /-- While it is in the future no request is sent (R43, R45, R47). -/
  wait : Option (Instant × WaitReason) := none
  (consecutive429 consecutiveUnreachable authFailures storeFailures discoveryFailures : ℕ := 0)
  (lastDiscovery listFloor listWanted nextBillingProbe : Option Instant := none)
  /-- What the running tick left as the probe's time; a failed commit puts it back. -/
  probeTimeOfTheTick : Option Instant := none
  reservationCommits : ℕ := 0
  telemetryCheckDue : Bool := false
  deriving DecidableEq

end TeslatlasHub.Collector
