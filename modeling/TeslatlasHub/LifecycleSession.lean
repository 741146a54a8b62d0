import TeslatlasHub.LifecycleModels

namespace TeslatlasHub.Lifecycle

structure ParkedSnapshot where
  atMs : Option ℤ := none
  seenAtMs : ℤ := 0
  batteryLevel : Option ℤ := none
  (idealRangeKm ratedRangeKm odometerKm : Option ℚ := none)
  odometerCoarse : Bool := false
  (latitude longitude energyAddedKwh : Option ℚ := none)
  (afterDrive unplugged : Bool := false)

structure GainedRangeChargeSeed where
  startDateMs : ℤ
  startBatteryLevel : Option ℤ
  (startIdealRangeKm startRatedRangeKm startLatitude startLongitude : Option ℚ)
  firstEnergyAdded : ℚ

structure ImportedOpenSessionRefs where
  (sourceId contentSha256 : String)
  driveSourceRowId : Option ℤ
  drivePositionCount : ℕ
  chargeSourceRowId : Option ℤ
  chargeSampleCount : ℕ
  stateSourceRowId : Option ℤ
  standalonePositionCount : ℕ

structure DetachedDrive where
  (id carId startDateMs : ℤ)
  (startLatitude startLongitude : Option ℚ := none)
  startSoc : Option ℤ := none
  startRatedRangeKm : Option ℚ := none
  speedMax : Option ℤ := none
  outsideTempSum : ℚ := 0
  (outsideTempCount positionCount : ℕ := 0)
  lastPositionDateMs : Option ℤ := none
  (lastLatitude lastLongitude : Option ℚ := none)
  lastSoc : Option ℤ := none
  (lastRatedRangeKm lastOdometer firstOdometer powerMax powerMin : Option ℚ := none)
  insideTempSum : ℚ := 0
  insideTempCount : ℕ := 0
  (startIdealRangeKm endIdealRangeKm : Option ℚ := none)
  (elevationAscent elevationDescent : ℤ := 0)
  lastElevation : Option ℤ := none
  sawOffline : Bool := false
  (lastChargeEnergyAdded lastIdealRangeKm : Option ℚ := none)
  (lastFoldedAtMs lastMotionAtMs : Option ℤ := none)
  maxDisplacementM : ℚ := 0
  elevationCount : ℕ := 0
  odometerCoarse : Bool := false

structure LeadCheckpoint where
  cutMs : ℤ
  drive : DetachedDrive

structure OpenDrive extends DetachedDrive where
  stillCheckpoint : Option DetachedDrive := none
  leadCheckpoints : List LeadCheckpoint := []
  positions : List ProjectionPosition := []

namespace DetachedDrive

variable (drive : DetachedDrive)

def effectiveLastFoldedMs : ℤ :=
  (drive.lastFoldedAtMs.or drive.lastPositionDateMs).getD drive.startDateMs

def effectiveLastMotionMs : ℤ :=
  (drive.lastMotionAtMs.or drive.lastPositionDateMs).getD drive.startDateMs

def effectiveElevationCount : ℕ :=
  if drive.elevationCount = 0 ∧ drive.lastElevation.isSome then 1 else drive.elevationCount

end DetachedDrive

structure OpenCharge where
  (id carId startDateMs : ℤ)
  startBatteryLevel : Option ℤ := none
  (startIdealRangeKm startRatedRangeKm startLatitude startLongitude : Option ℚ := none)
  isDc : Option Bool := none
  fastChargerType : Option String := none
  maxChargerPowerKw : Option ℚ := none
  outsideTempSum : ℚ := 0
  outsideTempCount : ℕ := 0
  (firstEnergyAdded maxEnergyAdded lastEnergyAdded : Option ℚ := none)
  lastBatteryLevel : Option ℤ := none
  (lastIdealRangeKm lastRatedRangeKm : Option ℚ := none)
  sampleCount : ℕ := 0
  energyUsedKwh : Option ℚ := none
  lastSampleTimestampMs : Option ℤ := none
  lastSamplePowerKw : Option ℚ := none
  energyAddedCarryKwh : ℚ := 0
  prevEnergyAddedKwh : Option ℚ := none
  (ratioUsedKwh ratioAddedKwh : ℚ := 0)
  fullyPowered : Bool := false
  preSampleKwh : Option ℚ := none
  phaseCount : Option ℤ := none
  lastOdometerKm : Option ℚ := none
  lastOdometerCoarse : Option Bool := none
  samples : List ProjectionChargeSample := []

structure OpenState where
  (id carId : ℤ)
  state : String
  startDateMs : ℤ

structure OpenUpdate where
  (id carId startDateMs : ℤ)

structure IdCursors where
  (nextDriveId nextPositionId nextChargeId nextChargeSampleId nextStateId nextUpdateId : ℤ := 1)

structure Watermarks where
  (lastObservedAtMs lastDriveTimestampMs lastChargeTimestampMs lastVehicleTimestampMs
    importedDriveWatermarkMs importedChargeWatermarkMs importedStateWatermarkMs lastPositionFactMs
    lastBatteryFactMs lastClimateFactMs lastOdometerFactMs : Option ℤ := none)

structure PositionMemory where
  (batteryHeater batteryHeaterOn batteryHeaterNoPower : Option Bool := none)
  estBatteryRangeKm : Option ℚ := none
  fanStatus : Option ℤ := none
  (driverTempSetting passengerTempSetting : Option ℚ := none)
  (isRearDefrosterOn isFrontDefrosterOn : Option Bool := none)
  (tpmsPressureFl tpmsPressureFr tpmsPressureRl tpmsPressureRr : Option ℚ := none)

structure OpenSessionState where
  lastObservationId : ℤ := 0
  marks : Watermarks := {}
  ids : IdCursors := {}
  lastStationaryPositionAtMs : Option ℤ := none
  phase : VehiclePhase := .unknown
  openDrive : Option OpenDrive := none
  pendingGainedRangeCharge : Option GainedRangeChargeSeed := none
  openCharge : Option OpenCharge := none
  openState : Option OpenState := none
  openUpdate : Option OpenUpdate := none
  importedOpen : Option ImportedOpenSessionRefs := none
  serviceMode : Option Bool := none
  carMetadata : Option ProjectionCarPatch := none
  lastPosition : PositionMemory := {}
  parkedSnapshot : Option ParkedSnapshot := none
  lastCarVersion : Option String := none
  lastCarVersionAtMs : Option ℤ := none
  (lastStandaloneLatitude lastStandaloneLongitude : Option ℚ := none)
  lastReach : Option String := none
  serviceModeRefused : Bool := false

def OpenSessionState.new : OpenSessionState := {}

structure LifecycleDelta where
  drives : List ProjectionDrive := []
  discardedDriveIds : List ℤ := []
  positions : List ProjectionPosition := []
  charges : List ProjectionCharge := []
  chargeSamples : List ProjectionChargeSample := []
  states : List ProjectionState := []
  updates : List ProjectionUpdate := []
  chargeStartCoordinates : List (ℤ × ℚ × ℚ) := []
  openDrivePositions : List ProjectionPosition := []
  openChargeSamples : List ProjectionChargeSample := []

structure LifecycleStep where
  state : OpenSessionState
  delta : LifecycleDelta
  quarantined : Bool

end TeslatlasHub.Lifecycle
