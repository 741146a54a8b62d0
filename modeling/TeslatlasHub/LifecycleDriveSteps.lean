import TeslatlasHub.LifecycleDrive

namespace TeslatlasHub.Lifecycle

open FixedWidth

variable [Geodesy]

variable (drive : OpenDrive)

def observeDrivePoint (point : DrivePoint) (emitted : Option ProjectionPosition) : OpenDrive :=
  let folded := drive.toDetachedDrive.foldDrivePoint point emitted
  { drive with
    toDetachedDrive := folded
    stillCheckpoint := match point.evidence with
      | .motion => none
      | .noInfo => drive.stillCheckpoint.or (some folded)
      | .park => drive.stillCheckpoint }

def finalizeDrive (drive : DetachedDrive) (alwaysKeep : Bool) (explicitEnd : Option ℤ) :
    Option ProjectionDrive :=
  let folded := drive.effectiveLastFoldedMs
  let endDateMs := max ((explicitEnd.map (max · folded)).getD folded) drive.startDateMs
  -- R46: odometer-based only; GPS path length is never substituted.
  let distanceKm := drive.firstOdometer.bind fun first =>
    drive.lastOdometer.map fun last => max (last-first) 0
  let kept := alwaysKeep || distanceKm.any (kDminKm ≤ ·) ||
    ((distanceKm.isNone || drive.odometerCoarse) && decide (kDminKm*1000 ≤ drive.maxDisplacementM))
  if !kept then none
  else
    let durationMin := min (roundHalfAway ((endDateMs-drive.startDateMs : ℤ)/60000 : ℚ))
        kSmallintMax
    let mean := fun (sum : ℚ) (count : ℕ) =>
      if 0 < count then some (roundToPrecision (sum/count) 1) else none
    some
      { id := drive.id
        carId := drive.carId
        optimizedAtMs := none
        startDateMs := drive.startDateMs
        endDateMs
        distanceKm
        durationMin := some durationMin
        efficiency := none
        outsideTempAvg := mean drive.outsideTempSum drive.outsideTempCount
        insideTempAvg := mean drive.insideTempSum drive.insideTempCount
        speedMax := drive.speedMax
        powerMax := drive.powerMax
        powerMin := drive.powerMin
        startIdealRangeKm := drive.startIdealRangeKm.map (roundToPrecision · 2)
        endIdealRangeKm := drive.endIdealRangeKm.map (roundToPrecision · 2)
        startAddress := none
        endAddress := none
        startGeofence := none
        endGeofence := none
        startLatitude := drive.startLatitude.map (roundToPrecision · 6)
        startLongitude := drive.startLongitude.map (roundToPrecision · 6)
        endLatitude := drive.lastLatitude.map (roundToPrecision · 6)
        endLongitude := drive.lastLongitude.map (roundToPrecision · 6)
        startSoc := drive.startSoc
        endSoc := drive.lastSoc
        startRatedRangeKm := drive.startRatedRangeKm.map (roundToPrecision · 2)
        endRatedRangeKm := drive.lastRatedRangeKm.map (roundToPrecision · 2)
        ascent := drive.elevationWalk.totals.1
        descent := drive.elevationWalk.totals.2 }

def positionFromSample (positionId : ℤ) (driveId : Option ℤ) (carId : ℤ) (sample : ParsedSample) :
    Except LifecycleError (Option ProjectionPosition) :=
  match validCoordinates sample.latitude sample.longitude with
  | none =>
    if sample.latitude.isSome || sample.longitude.isSome then .error .invalidCoordinates
    else .ok none
  | some (latitude, longitude) => .ok (some
      { id := positionId
        driveId
        carId
        dateMs := sample.driveTimestampMs
        latitude
        longitude
        speed := sample.speed
        power := sample.power
        batteryLevel := sample.batteryLevel
        usableBatteryLevel := sample.usableBatteryLevel
        elevation := sample.elevation
        odometer := sample.odometer
        idealBatteryRangeKm := sample.idealRangeKm
        estBatteryRangeKm := sample.estRangeKm
        ratedBatteryRangeKm := sample.ratedRangeKm
        fanStatus := sample.fanStatus
        driverTempSetting := sample.driverTempSetting
        passengerTempSetting := sample.passengerTempSetting
        isClimateOn := sample.isClimateOn
        isRearDefrosterOn := sample.isRearDefrosterOn
        isFrontDefrosterOn := sample.isFrontDefrosterOn
        insideTemp := sample.insideTemp
        outsideTemp := sample.outsideTemp
        batteryHeater := sample.batteryHeater
        batteryHeaterOn := sample.batteryHeaterOn
        batteryHeaterNoPower := sample.batteryHeaterNoPower
        tpmsPressureFl := sample.tpmsPressureFl
        tpmsPressureFr := sample.tpmsPressureFr
        tpmsPressureRl := sample.tpmsPressureRl
        tpmsPressureRr := sample.tpmsPressureRr })

def hasFreshDriveFacts (o : Observation) : Bool := o.fresh.motion || o.fresh.position

def allocate (cursor : ℤ) : Except LifecycleError (ℤ × ℤ) :=
  match checkedSucc cursor with
  | some next => .ok (cursor, next)
  | none => .error .identifierExhausted

variable (state : OpenSessionState)

def nextPositionId : Except LifecycleError (ℤ × OpenSessionState) := do
  let (id, next) ← allocate state.ids.nextPositionId
  pure (id, { state with ids := { state.ids with nextPositionId := next } })

def drivePoint (o : Observation) : DrivePoint :=
  let p := o.parsed
  let f := o.fresh
  { atMs := p.driveTimestampMs
    coordinates := if f.position then
      p.latitude.bind fun latitude => p.longitude.map fun longitude => (latitude, longitude) else
        none
    speed := if f.motion then p.speed else none
    power := if f.motion then p.power else none
    batteryLevel := if f.battery then p.batteryLevel else none
    idealRangeKm := if f.battery then p.idealRangeKm else none
    ratedRangeKm := if f.battery then p.ratedRangeKm else none
    odometerKm := if f.odometer then p.odometer else none
    odometerCoarse := p.kind != .full
    outsideTemp := if f.climate then p.outsideTemp else none
    insideTemp := if f.climate then p.insideTemp else none
    chargeEnergyAdded := if f.chargeSession then p.chargeEnergyAdded else none
    evidence := o.drive }

def isLeadFold (marks : Watermarks) (o : Observation) : Bool :=
  o.fresh.position && !o.fresh.motion &&
    laterThan o.parsed.driveTimestampMs marks.lastDriveTimestampMs

def insertLead (lead : LeadCheckpoint) : List LeadCheckpoint → List LeadCheckpoint
  | [] => [lead]
  | head :: tail =>
    if head.cutMs ≤ lead.cutMs then head :: insertLead lead tail else lead :: head :: tail

def leadsBeforeFold (marks : Watermarks) (o : Observation) : List LeadCheckpoint :=
  let t := o.parsed.driveTimestampMs
  let leads :=
    if o.fresh.motion then drive.leadCheckpoints.filter (t < ·.cutMs) else drive.leadCheckpoints
  if isLeadFold marks o then
    let leads := if kLeadCheckpoints ≤ leads.length then leads.drop 1 else leads
    insertLead { cutMs := t, drive := drive.toDetachedDrive } leads
  else leads

def foldObservation (marks : Watermarks) (o : Observation)
    (position : Option ProjectionPosition) : OpenDrive :=
  let point := drivePoint o
  let leads := leadsBeforeFold drive marks o
  { observeDrivePoint drive point position with
    leadCheckpoints := leads.map fun lead =>
      if point.atMs < lead.cutMs then { lead with drive := lead.drive.foldDrivePoint point none }
      else lead }

def storesPosition (o : Observation) : Bool :=
  o.fresh.position && o.parsed.latitude.isSome && o.parsed.longitude.isSome &&
    drive.lastPositionDateMs.all (· < o.parsed.driveTimestampMs)

def storedPosition (drive : OpenDrive) (o : Observation) :
    Except LifecycleError (OpenSessionState × Option ProjectionPosition) :=
  if storesPosition drive o then do
    let (id, state) ← nextPositionId state
    let position ← positionFromSample id (some drive.id) o.carId o.parsed
    pure (state, position)
  else .ok (state, none)

def foldIntoOpenDrive (o : Observation) :
    Except LifecycleError (OpenSessionState × Option ProjectionPosition) :=
  match state.openDrive with
  | none => .ok (state, none)
  | some drive => do
    let (state, position) ← storedPosition state drive o
    pure ({ state with openDrive := some (foldObservation drive state.marks o position) }, position)

def recordDriveCloseReferences (drive : OpenDrive) : OpenSessionState :=
  let state := match drive.lastPositionDateMs, drive.lastLatitude, drive.lastLongitude with
    | some atMs, some latitude, some longitude =>
      { state with
        lastStationaryPositionAtMs := some atMs
        lastStandaloneLatitude := some latitude
        lastStandaloneLongitude := some longitude }
    | _, _, _ => state
  let foldedAt := drive.effectiveLastFoldedMs
  { state with
    parkedSnapshot := some
      { atMs := some foldedAt
        seenAtMs := foldedAt
        batteryLevel := drive.lastSoc
        idealRangeKm := drive.endIdealRangeKm
        ratedRangeKm := drive.lastRatedRangeKm
        odometerKm := drive.lastOdometer
        odometerCoarse := drive.odometerCoarse
        latitude := drive.lastLatitude.or drive.startLatitude
        longitude := drive.lastLongitude.or drive.startLongitude
        energyAddedKwh := drive.lastChargeEnergyAdded
        afterDrive := true
        unplugged := false } }

def endSource (loeEnd : Bool) (explicitEnd : Option ℤ) : DetachedDrive × List ProjectionPosition :=
  if loeEnd then
    match drive.stillCheckpoint with
    | some checkpoint => (checkpoint, [])
    | none => (drive.toDetachedDrive, drive.positions)
  else
    match explicitEnd.bind fun end' => drive.leadCheckpoints.find? (end' < ·.cutMs) with
    | some lead => (lead.drive, drive.positions)
    | none => (drive.toDetachedDrive, drive.positions)

def closeOpenDrive (delta : LifecycleDelta) (loeEnd : Bool)
    (closingPosition : Option ProjectionPosition) (explicitEnd : Option ℤ) :
    OpenSessionState × LifecycleDelta :=
  match state.openDrive with
  | none => (state, delta)
  | some drive =>
    let imported := (state.importedOpen.bind (·.driveSourceRowId)) == some drive.id
    let state := recordDriveCloseReferences { state with openDrive := none } drive
    let (source, buffered) := endSource drive loeEnd explicitEnd
    match finalizeDrive source imported explicitEnd with
    | some row =>
      (state, { delta with
        drives := delta.drives++[row]
        openDrivePositions := delta.openDrivePositions++buffered++closingPosition.toList })
    | none =>
      (state, { delta with
        discardedDriveIds := delta.discardedDriveIds++[drive.id]
        positions := delta.positions++
          (buffered++closingPosition.toList).map ({ · with driveId := none }) })

def losesDriveEvidence (drive : OpenDrive) (o : Observation) : Bool :=
  let driveFacts := hasFreshDriveFacts o
  let tDrive := o.parsed.driveTimestampMs
  let lastFolded := drive.effectiveLastFoldedMs
  let lastMotion := drive.effectiveLastMotionMs
  o.reach == some .asleep || state.serviceMode == some true ||
    (driveFacts && decide (o.tGapMs < saturatingSub tDrive lastFolded)) ||
    (!driveFacts && decide (o.tGapMs < saturatingSub o.tObs lastFolded)) ||
    o.event == some .noData ||
    (driveFacts && o.drive == .noInfo && decide (o.tGapMs < saturatingSub tDrive lastMotion))

def driveCloseStep (o : Observation) (delta : LifecycleDelta) :
    Except LifecycleError (OpenSessionState × LifecycleDelta) :=
  match state.openDrive with
  | none => .ok (state, delta)
  | some drive =>
    if losesDriveEvidence state drive o then .ok (closeOpenDrive state delta true none none)
    else if o.drive == .park || o.charge.isPlugged then
      let tDrive := o.parsed.driveTimestampMs
      -- R87 point 6: a late position alone cannot end the drive at its own time.
      let canEndHere := o.fresh.motion ||
        (o.fresh.position && decide (drive.effectiveLastFoldedMs ≤ tDrive))
      if canEndHere then do
        let (state, position) ← foldIntoOpenDrive state o
        pure (closeOpenDrive state delta false position (some tDrive))
      else .ok (closeOpenDrive state delta true none none)
    else .ok (state, delta)

def afterClosed (delta : LifecycleDelta) : Option ℤ :=
  (delta.drives.map (·.endDateMs)++delta.charges.filterMap (·.endDateMs)).max?

def openedDrive (id carId start tDrive tGapMs : ℤ) (snapshot : Option ParkedSnapshot) : OpenDrive :=
  let empty : OpenDrive := { id, carId, startDateMs := start }
  match snapshot with
  | none => empty
  | some snapshot =>
    if saturatingSub tDrive snapshot.seenAtMs ≤ tGapMs then
      let located := snapshot.latitude.isSome && snapshot.longitude.isSome
      { empty with
        firstOdometer := snapshot.odometerKm
        lastOdometer := snapshot.odometerKm
        odometerCoarse := snapshot.odometerKm.isSome && snapshot.odometerCoarse
        startLatitude := if located then snapshot.latitude else none
        startLongitude := if located then snapshot.longitude else none
        startSoc := snapshot.batteryLevel
        startIdealRangeKm := snapshot.idealRangeKm
        startRatedRangeKm := snapshot.ratedRangeKm }
    else empty

def driveOpenStep (o : Observation) (delta : LifecycleDelta) :
    Except LifecycleError OpenSessionState :=
  if o.drive ≠ .motion ∨ state.openDrive.isSome ∨ state.serviceMode = some true then .ok state
  else do
    let tDrive := o.parsed.driveTimestampMs
    let start := ((afterClosed delta).map (max · tDrive)).getD tDrive
    let (id, next) ← allocate state.ids.nextDriveId
    pure { state with
      ids := { state.ids with nextDriveId := next }
      parkedSnapshot := none
      openDrive := some (openedDrive id o.carId start tDrive o.tGapMs state.parkedSnapshot) }

def driveFoldStep (o : Observation) (delta : LifecycleDelta) :
    Except LifecycleError (OpenSessionState × LifecycleDelta) :=
  if state.openDrive.isNone || !hasFreshDriveFacts o then .ok (state, delta)
  else do
    let (state, position) ← foldIntoOpenDrive state o
    pure (state, { delta with
      openDrivePositions := delta.openDrivePositions++position.toList })

def movedFromStandalone (latitude longitude : ℚ) : Bool :=
  match state.lastStandaloneLatitude, state.lastStandaloneLongitude with
  | some lastLatitude, some lastLongitude =>
    match Wgs84Point.new lastLatitude lastLongitude, Wgs84Point.new latitude longitude with
    | some origin, some point => decide (kDminKm*1000 ≤ Geodesy.greatCircleDistanceM origin point)
    | _, _ => false
  | _, _ => false

def standalonePositionStep (o : Observation) (delta : LifecycleDelta) :
    Except LifecycleError (OpenSessionState × LifecycleDelta) :=
  if state.openDrive.isSome || !o.fresh.position then .ok (state, delta)
  else
    match o.parsed.latitude, o.parsed.longitude with
    | some latitude, some longitude =>
      let tDrive := o.parsed.driveTimestampMs
      if state.lastStationaryPositionAtMs.any (tDrive ≤ ·) ||
          state.marks.importedDriveWatermarkMs.any (tDrive ≤ ·) then .ok (state, delta)
      else
        let intervalElapsed := state.lastStationaryPositionAtMs.all
          fun last => decide (kParkIntervalMs ≤ saturatingSub tDrive last)
        let serviceMotion := state.serviceMode == some true && o.drive == .motion
        if intervalElapsed || movedFromStandalone state latitude longitude || serviceMotion then do
          let (id, state) ← nextPositionId state
          match ← positionFromSample id none o.carId o.parsed with
          | none => pure (state, delta)
          | some position =>
            pure ({ state with
                lastStationaryPositionAtMs := some tDrive
                lastStandaloneLatitude := some latitude
                lastStandaloneLongitude := some longitude },
              { delta with positions := delta.positions++[position] })
        else .ok (state, delta)
    | _, _ => .ok (state, delta)

end TeslatlasHub.Lifecycle
