import TeslatlasHub.LifecycleParse

namespace TeslatlasHub.Lifecycle

open FixedWidth TextScan JsonValue

inductive Reach where
  | online | asleep | offline
  deriving DecidableEq

def Reach.fromText (text : String) : Option Reach :=
  if text = "online" then some .online
  else if text = "asleep" then some .asleep
  else if text = "offline" then some .offline
  else none

def Reach.asStr : Reach → String
  | online => "online"
  | asleep => "asleep"
  | offline => "offline"

inductive UpdateStatusClass where
  | installing | offered | idle | noInfo
  deriving DecidableEq

def updateStatusClass : Option String → UpdateStatusClass
  | none => .noInfo
  | some status =>
    let text := toAsciiLowercase (trim status)
    if text = "installing" then .installing
    else if text ∈ ["available", "scheduled", "downloading", "downloading_wifi_wait",
      "wifi_wait"] then
      .offered
    else if text = "" then .idle
    else .noInfo

def maxVersionTextChars : ℕ := 255

def versionComponent (part : List Char) : Option ℕ :=
  if 1 ≤ part.length ∧ part.length ≤ 9 ∧ part.all Char.isDigit then some (digitsToNat part) else
    none

def versionKey (text : String) : Option (List ℕ) :=
  let text := trim text
  if maxVersionTextChars < text.toList.length then none
  else
    (firstToken text).bind fun token =>
      ((token.splitOn '.').mapM versionComponent).filter (2 ≤ ·.length)

def compareVersionKeys : List ℕ → List ℕ → Ordering
  | [], [] => .eq
  | a :: left, [] => (compare a 0).then (compareVersionKeys left [])
  | [], b :: right => (compare 0 b).then (compareVersionKeys [] right)
  | a :: left, b :: right => (compare a b).then (compareVersionKeys left right)

inductive EnumName where
  | p | r | n | d | charging | starting | stopped | noPower | complete | disconnected
  | unknown | invalid | sna
  deriving DecidableEq

def canonicalEnumNames : List (EnumName × String) :=
  [(.p, "P"), (.r, "R"), (.n, "N"), (.d, "D"), (.charging, "Charging"), (.starting, "Starting"),
    (.stopped, "Stopped"), (.noPower, "NoPower"), (.complete, "Complete"),
    (.disconnected, "Disconnected"), (.unknown, "Unknown"), (.invalid, "Invalid"), (.sna, "SNA")]

def enumTypePrefixes : List String := ["DetailedChargeState", "ChargeState", "ShiftState"]

def normaliseEnumText (text : String) : Option EnumName :=
  let trimmed := trim text
  let rest := (enumTypePrefixes.findSome? (stripHeadIgnoreAsciiCase trimmed ·)).getD trimmed
  (canonicalEnumNames.find? fun entry => eqIgnoreAsciiCase entry.2 rest).map (·.1)

def gearOf (shiftState : Option String) : Option EnumName :=
  (shiftState.bind normaliseEnumText).filter fun name =>
    name == .p || name == .r || name == .n || name == .d

inductive DriveEvidence where
  | motion | park | noInfo
  deriving DecidableEq

variable (parsed : ParsedSample)

def classifyDrive (motionFresh : Bool) : DriveEvidence :=
  if !motionFresh then .noInfo
  else
    match gearOf parsed.shiftState with
    | some .p => .park
    | some _ => .motion
    | none =>
      if parsed.speed.any (0 < ·) then .motion
      else if parsed.kind == .full && parsed.shiftStateKeyPresent && parsed.speed.all (· == 0) then
        .park
      else .noInfo

inductive ChargeEvidence where
  | active | hold | complete | disconnected | none
  deriving DecidableEq

def ChargeEvidence.isPlugged : ChargeEvidence → Bool
  | active | hold | complete => true
  | disconnected | none => false

def ChargeEvidence.isEnd : ChargeEvidence → Bool
  | complete | disconnected => true
  | active | hold | none => false

def classifyCharge (chargeSessionFresh : Bool) : ChargeEvidence :=
  if !chargeSessionFresh then .none
  else
    match parsed.chargingState.bind normaliseEnumText with
    | some .charging => .active
    | some .starting => .hold
    | some .stopped => .hold
    | some .noPower => .hold
    | some .complete => .complete
    | some .disconnected => .disconnected
    | _ => .none

def laterThan (factMs : ℤ) (watermark : Option ℤ) : Bool := watermark.all (· < factMs)

variable (state : OpenSessionState)

def freshFamilies (parsed : ParsedSample) : Families :=
  let carried := parsed.carried
  let marks := state.marks
  let driveGate := laterThan parsed.driveTimestampMs marks.importedDriveWatermarkMs
  let chargeGate := laterThan parsed.chargeTimestampMs marks.importedChargeWatermarkMs
  { motion := carried.motion && driveGate &&
      laterThan parsed.driveTimestampMs marks.lastDriveTimestampMs
    position := carried.position && driveGate &&
      laterThan parsed.driveTimestampMs (marks.lastPositionFactMs.or marks.lastDriveTimestampMs)
    battery := carried.battery &&
      laterThan parsed.chargeTimestampMs (marks.lastBatteryFactMs.or marks.lastChargeTimestampMs)
    chargeSession := carried.chargeSession && chargeGate &&
      laterThan parsed.chargeTimestampMs marks.lastChargeTimestampMs
    climate := carried.climate && laterThan parsed.climateTimestampMs marks.lastClimateFactMs
    odometer := carried.odometer &&
      laterThan parsed.vehicleTimestampMs (marks.lastOdometerFactMs.or marks.lastVehicleTimestampMs)
    vehicleStatus := carried.vehicleStatus &&
      laterThan parsed.vehicleTimestampMs marks.lastVehicleTimestampMs }

def carryCache {α : Type} (row cache : Option α) (familyFresh : Bool) : Option α :=
  if familyFresh then row.or cache else cache

def carryForwardMemory (memory : PositionMemory) (parsed : ParsedSample) (fresh : Families) :
    PositionMemory where
  batteryHeater := carryCache parsed.batteryHeater memory.batteryHeater fresh.climate
  batteryHeaterOn := carryCache parsed.batteryHeaterOn memory.batteryHeaterOn fresh.chargeSession
  batteryHeaterNoPower :=
    carryCache parsed.batteryHeaterNoPower memory.batteryHeaterNoPower fresh.climate
  estBatteryRangeKm := carryCache parsed.estRangeKm memory.estBatteryRangeKm fresh.battery
  fanStatus := carryCache parsed.fanStatus memory.fanStatus fresh.climate
  driverTempSetting := carryCache parsed.driverTempSetting memory.driverTempSetting fresh.climate
  passengerTempSetting :=
    carryCache parsed.passengerTempSetting memory.passengerTempSetting fresh.climate
  isRearDefrosterOn := carryCache parsed.isRearDefrosterOn memory.isRearDefrosterOn fresh.climate
  isFrontDefrosterOn := carryCache parsed.isFrontDefrosterOn memory.isFrontDefrosterOn fresh.climate
  tpmsPressureFl := carryCache parsed.tpmsPressureFl memory.tpmsPressureFl fresh.vehicleStatus
  tpmsPressureFr := carryCache parsed.tpmsPressureFr memory.tpmsPressureFr fresh.vehicleStatus
  tpmsPressureRl := carryCache parsed.tpmsPressureRl memory.tpmsPressureRl fresh.vehicleStatus
  tpmsPressureRr := carryCache parsed.tpmsPressureRr memory.tpmsPressureRr fresh.vehicleStatus

def carryForwardRow (memory : PositionMemory) (parsed : ParsedSample) : ParsedSample :=
  { parsed with
    batteryHeater := parsed.batteryHeater.or memory.batteryHeater
    batteryHeaterOn := parsed.batteryHeaterOn.or memory.batteryHeaterOn
    batteryHeaterNoPower := parsed.batteryHeaterNoPower.or memory.batteryHeaterNoPower
    estRangeKm := parsed.estRangeKm.or memory.estBatteryRangeKm
    fanStatus := parsed.fanStatus.or memory.fanStatus
    driverTempSetting := parsed.driverTempSetting.or memory.driverTempSetting
    passengerTempSetting := parsed.passengerTempSetting.or memory.passengerTempSetting
    isRearDefrosterOn := parsed.isRearDefrosterOn.or memory.isRearDefrosterOn
    isFrontDefrosterOn := parsed.isFrontDefrosterOn.or memory.isFrontDefrosterOn
    tpmsPressureFl := parsed.tpmsPressureFl.or memory.tpmsPressureFl
    tpmsPressureFr := parsed.tpmsPressureFr.or memory.tpmsPressureFr
    tpmsPressureRl := parsed.tpmsPressureRl.or memory.tpmsPressureRl
    tpmsPressureRr := parsed.tpmsPressureRr.or memory.tpmsPressureRr }

def carryForward (parsed : ParsedSample) (fresh : Families) : OpenSessionState × ParsedSample :=
  ({ state with lastPosition := carryForwardMemory state.lastPosition parsed fresh },
    carryForwardRow state.lastPosition parsed)

def acceptedReach (parsed : ParsedSample) (envelopeState : String) (fresh : Families) :
    Option Reach :=
  if parsed.kind = .hubEvent then none
  else
    let notOlder := state.marks.lastObservedAtMs.all (· ≤ parsed.observedAtMs)
    let afterImport := laterThan parsed.observedAtMs state.marks.importedStateWatermarkMs
    if !(notOlder && afterImport) then none
    else if parsed.kind.hasVehicleData && fresh.any then some .online
    else Reach.fromText envelopeState

def resolveConflicts (drive : DriveEvidence) (charge : ChargeEvidence)
    (status : UpdateStatusClass) : DriveEvidence × ChargeEvidence × UpdateStatusClass :=
  let (drive, charge) :=
    if drive = .motion ∧ charge.isPlugged then
      if parsed.chargeTimestampMs ≤ parsed.driveTimestampMs then (drive, ChargeEvidence.none)
      else (DriveEvidence.noInfo, charge)
    else (drive, charge)
  (drive, charge, if status = .installing ∧ drive = .motion then .noInfo else status)

structure Observation where
  parsed : ParsedSample
  (carId tGapMs : ℤ)
  reach : Option Reach
  fresh : Families
  drive : DriveEvidence
  charge : ChargeEvidence
  status : UpdateStatusClass

def Observation.tObs (o : Observation) : ℤ := o.parsed.observedAtMs
def Observation.event (o : Observation) : Option HubEventKind := o.parsed.hubEvent

def observe (carId tGapMs : ℤ) (envelopeState : String)
    (parsed : ParsedSample) : OpenSessionState × Observation :=
  let fresh := freshFamilies state parsed
  let (state, parsed) := carryForward state parsed fresh
  let reach := acceptedReach state parsed envelopeState fresh
  let status :=
    if fresh.vehicleStatus && parsed.kind.hasVehicleData then
      updateStatusClass parsed.softwareUpdateStatus
    else .noInfo
  let (drive, charge, status) := resolveConflicts parsed (classifyDrive parsed fresh.motion)
    (classifyCharge parsed fresh.chargeSession) status
  (state, { parsed, carId, tGapMs, reach, fresh, drive, charge, status })

end TeslatlasHub.Lifecycle
