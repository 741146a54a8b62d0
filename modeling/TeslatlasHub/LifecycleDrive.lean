import TeslatlasHub.LifecycleEvidence

namespace TeslatlasHub.Lifecycle

open FixedWidth

structure Wgs84Point where
  (latitude longitude : ℚ)
  latitude_mem : -90 ≤ latitude ∧ latitude ≤ 90
  longitude_mem : -180 ≤ longitude ∧ longitude ≤ 180

def Wgs84Point.new (latitude longitude : ℚ) : Option Wgs84Point :=
  if hlat : -90 ≤ latitude ∧ latitude ≤ 90 then
    if hlon : -180 ≤ longitude ∧ longitude ≤ 180 then some ⟨latitude, longitude, hlat, hlon⟩ else
      none
  else none

class Geodesy where
  greatCircleDistanceM : Wgs84Point → Wgs84Point → ℚ

def kDminKm : ℚ := 1/10

def kParkIntervalMs : ℤ := 15*60*1000

def kElevBand : ℤ := 2
def kElevMin : ℤ := -1000
def kElevMax : ℤ := 9000

def kLeadCheckpoints : ℕ := 4

structure DrivePoint where
  atMs : ℤ
  coordinates : Option (ℚ × ℚ)
  speed : Option ℤ
  power : Option ℚ
  batteryLevel : Option ℤ
  (idealRangeKm ratedRangeKm odometerKm : Option ℚ)
  odometerCoarse : Bool
  (outsideTemp insideTemp chargeEnergyAdded : Option ℚ)
  evidence : DriveEvidence

structure ElevationWalk where
  referenceM : Option ℤ := none
  count : ℕ := 0
  (ascentM descentM : ℤ := 0)

namespace ElevationWalk

def step (walk : ElevationWalk) (elevationM : Option ℤ) : ElevationWalk :=
  match elevationM.filter fun value => decide (kElevMin ≤ value ∧ value ≤ kElevMax) with
  | none => walk
  | some elevation =>
    let walk := { walk with count := saturatingSucc32 walk.count }
    match walk.referenceM with
    | none => { walk with referenceM := some elevation }
    | some reference =>
      let change := saturatingSub elevation reference
      if kElevBand ≤ change then
        { walk with ascentM := saturatingAdd walk.ascentM change, referenceM := some elevation }
      else if kElevBand ≤ saturatingNeg change then
        { walk with
          descentM := saturatingAdd walk.descentM (saturatingNeg change)
          referenceM := some elevation }
      else walk

def totals (walk : ElevationWalk) : Option ℤ × Option ℤ :=
  if walk.count < 2 then (none, none)
  else (some (min walk.ascentM kSmallintMax), some (min walk.descentM kSmallintMax))

end ElevationWalk

def elevationTotals (elevations : List (Option ℤ)) : Option ℤ × Option ℤ :=
  (elevations.foldl ElevationWalk.step {}).totals

namespace DetachedDrive

variable (drive : DetachedDrive)

def elevationWalk : ElevationWalk where
  referenceM := drive.lastElevation
  count := drive.effectiveElevationCount
  ascentM := drive.elevationAscent
  descentM := drive.elevationDescent

def foldEmitted : Option ProjectionPosition → DetachedDrive
  | none => drive
  | some position =>
    let walk := drive.elevationWalk.step position.elevation
    { drive with
      positionCount := saturatingSucc32 drive.positionCount
      lastPositionDateMs := some position.dateMs
      lastLatitude := some position.latitude
      lastLongitude := some position.longitude
      lastElevation := walk.referenceM
      elevationCount := walk.count
      elevationAscent := walk.ascentM
      elevationDescent := walk.descentM }

def foldCoordinates [Geodesy] (drive : DetachedDrive) : Option (ℚ × ℚ) → DetachedDrive
  | none => drive
  | some (latitude, longitude) =>
    let drive :=
      if drive.startLatitude.isNone || drive.startLongitude.isNone then
        { drive with startLatitude := some latitude, startLongitude := some longitude }
      else drive
    match drive.startLatitude, drive.startLongitude with
    | some startLatitude, some startLongitude =>
      match Wgs84Point.new startLatitude startLongitude, Wgs84Point.new latitude longitude with
      | some origin, some point =>
        { drive with
          maxDisplacementM :=
            max drive.maxDisplacementM (Geodesy.greatCircleDistanceM origin point) }
      | _, _ => drive
    | _, _ => drive

def foldOdometer (coarse : Bool) : Option ℚ → DetachedDrive
  | none => drive
  | some odometer =>
    let first := drive.firstOdometer.getD odometer
    { drive with
      firstOdometer := some first
      lastOdometer := some (max ((drive.lastOdometer.map (max · odometer)).getD odometer) first)
      odometerCoarse := drive.odometerCoarse || coarse }

def foldBattery (point : DrivePoint) : DetachedDrive :=
  { drive with
    startSoc := drive.startSoc.or point.batteryLevel
    lastSoc := point.batteryLevel.or drive.lastSoc
    startIdealRangeKm := drive.startIdealRangeKm.or point.idealRangeKm
    endIdealRangeKm := point.idealRangeKm.or drive.endIdealRangeKm
    lastIdealRangeKm := point.idealRangeKm.or drive.lastIdealRangeKm
    startRatedRangeKm := drive.startRatedRangeKm.or point.ratedRangeKm
    lastRatedRangeKm := point.ratedRangeKm.or drive.lastRatedRangeKm }

def pick {α : Type} (choose : α → α → α) : Option α → Option α → Option α
  | some held, some value => some (choose held value)
  | held, value => held.or value

def foldMotion (point : DrivePoint) : DetachedDrive :=
  { drive with
    speedMax := pick max drive.speedMax point.speed
    powerMax := pick max drive.powerMax point.power
    powerMin := pick min drive.powerMin point.power }

def foldTemperatures (point : DrivePoint) : DetachedDrive :=
  { drive with
    outsideTempSum := drive.outsideTempSum+point.outsideTemp.getD 0
    outsideTempCount := if point.outsideTemp.isSome then saturatingSucc32 drive.outsideTempCount
      else drive.outsideTempCount
    insideTempSum := drive.insideTempSum+point.insideTemp.getD 0
    insideTempCount := if point.insideTemp.isSome then saturatingSucc32 drive.insideTempCount
      else drive.insideTempCount }

def foldDrivePoint [Geodesy] (drive : DetachedDrive) (point : DrivePoint)
    (emitted : Option ProjectionPosition) : DetachedDrive :=
  let drive := { drive with
    lastFoldedAtMs := some ((drive.lastFoldedAtMs.map (max · point.atMs)).getD point.atMs) }
  let drive := drive.foldEmitted emitted
  let drive := drive.foldCoordinates point.coordinates
  let drive := drive.foldOdometer point.odometerCoarse point.odometerKm
  let drive := ((drive.foldBattery point).foldMotion point).foldTemperatures point
  let drive := { drive with
    lastChargeEnergyAdded := point.chargeEnergyAdded.or drive.lastChargeEnergyAdded }
  if point.evidence = .motion then { drive with lastMotionAtMs := some point.atMs } else drive

end DetachedDrive

end TeslatlasHub.Lifecycle
