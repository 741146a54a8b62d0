import TeslatlasHub.JsonValue

namespace TeslatlasHub.Lifecycle

structure LifecycleSample where
  (observationId observedAtMs : ℤ)
  vehicleState : String
  payload : JsonValue.Value

inductive LifecycleError where
  | invalidCarId
  | invalidOfflineDriveTimeout
  | invalidPayload
  | invalidCoordinates
  | invalidTimeline
  | identifierExhausted
  deriving DecidableEq

inductive VehiclePhase where
  | unknown | online | asleep | offline | suspended | driving | charging | updating
  deriving DecidableEq

structure ProjectionCarPatch where
  (name model vin trimBadging marketingName exteriorColor wheelType spoilerType
    firmwareVersion : Option String := none)
  deriving DecidableEq

structure ProjectionPosition where
  id : ℤ
  driveId : Option ℤ
  (carId dateMs : ℤ)
  (latitude longitude : ℚ)
  speed : Option ℤ
  power : Option ℚ
  (batteryLevel usableBatteryLevel elevation : Option ℤ)
  (odometer idealBatteryRangeKm estBatteryRangeKm ratedBatteryRangeKm : Option ℚ)
  fanStatus : Option ℤ
  (driverTempSetting passengerTempSetting : Option ℚ)
  (isClimateOn isRearDefrosterOn isFrontDefrosterOn : Option Bool)
  (insideTemp outsideTemp : Option ℚ)
  (batteryHeater batteryHeaterOn batteryHeaterNoPower : Option Bool)
  (tpmsPressureFl tpmsPressureFr tpmsPressureRl tpmsPressureRr : Option ℚ)

structure ProjectionDrive where
  (id carId : ℤ)
  optimizedAtMs : Option ℤ
  (startDateMs endDateMs : ℤ)
  distanceKm : Option ℚ
  durationMin : Option ℤ
  (efficiency outsideTempAvg insideTempAvg : Option ℚ)
  speedMax : Option ℤ
  (powerMax powerMin startIdealRangeKm endIdealRangeKm : Option ℚ)
  (startAddress endAddress startGeofence endGeofence : Option String)
  (startLatitude startLongitude endLatitude endLongitude : Option ℚ)
  (startSoc endSoc : Option ℤ)
  (startRatedRangeKm endRatedRangeKm : Option ℚ)
  (ascent descent : Option ℤ)

structure ProjectionChargeSample where
  (id chargeProcessId timestampMs : ℤ)
  (batteryLevel usableBatteryLevel : Option ℤ)
  (chargeEnergyAddedKwh chargerPowerKw chargerVoltage chargerActualCurrent
    chargerPilotCurrent : Option ℚ)
  chargerPhases : Option ℤ
  (idealRangeKm ratedRangeKm outsideTempC : Option ℚ)
  (batteryHeaterOn batteryHeater batteryHeaterNoPower notEnoughPowerToHeat
    fastChargerPresent : Option Bool)
  (fastChargerBrand fastChargerType chargeCable : Option String)

inductive GeofenceBillingType where
  | perKwh | perMinute
  deriving DecidableEq

structure ProjectionCharge where
  (id carId startDateMs : ℤ)
  endDateMs : Option ℤ
  (chargeEnergyAdded chargeEnergyUsedKwh startIdealRangeKm endIdealRangeKm cost : Option ℚ)
  fastChargerType : Option String
  billingType : Option GeofenceBillingType
  (costPerUnit sessionFee startLatitude startLongitude : Option ℚ)
  (startBatteryLevel endBatteryLevel durationMin : Option ℤ)
  (address locationName geofence : Option String)
  isDc : Option Bool
  (chargeRateKmPerHour maxChargerPowerKw outsideTempAvg startRatedRangeKm endRatedRangeKm : Option
    ℚ)

structure ProjectionState where
  (id carId : ℤ)
  state : String
  startDateMs : ℤ
  endDateMs : Option ℤ

structure ProjectionUpdate where
  (id carId startDateMs endDateMs : ℤ)
  version : String

end TeslatlasHub.Lifecycle
