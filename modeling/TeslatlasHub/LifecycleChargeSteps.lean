import TeslatlasHub.LifecycleCharge

namespace TeslatlasHub.Lifecycle

open FixedWidth

inductive Movement where
  | moved | unmoved | unknown
  deriving DecidableEq

def movementBetween (earlierKm laterKm : Option ℚ) : Movement :=
  match earlierKm, laterKm with
  | some earlier, some later => if kDminKm ≤ later-earlier then .moved else .unmoved
  | _, _ => .unknown

variable (snapshot : Option ParkedSnapshot)

def chargeEnergyBaseline (counterKwh odometerKm : Option ℚ) : ℚ :=
  match snapshot with
  | none => 0
  | some snapshot =>
    match snapshot.energyAddedKwh with
    | none => 0
    | some known =>
      let restarted := counterKwh.any (counterRestarted known ·)
      let moved := movementBetween snapshot.odometerKm odometerKm == .moved
      if restarted || snapshot.afterDrive || snapshot.unplugged || moved then 0 else known

structure AfterGapCharge where
  startMs : ℤ
  unmoved : Bool

def afterGapCharge (snapshot : ParkedSnapshot) (parsed : ParsedSample) (charge : ChargeEvidence) :
    Option AfterGapCharge :=
  snapshot.atMs.bind fun startMs =>
    snapshot.energyAddedKwh.bind fun known =>
      let unmoved := movementBetween snapshot.odometerKm parsed.odometer == .unmoved
      let classFits := match charge with
        | .hold => true
        | .complete => true
        | .disconnected => unmoved
        | .active => false
        | .none => false
      let counterNew := parsed.chargeEnergyAdded.any fun now =>
        decide (0 < now) && (counterRestarted now known || counterRestarted known now)
      let levelHigher := match parsed.batteryLevel, snapshot.batteryLevel with
        | some now, some before => decide (before < now)
        | _, _ =>
          match parsed.ratedRangeKm, snapshot.ratedRangeKm with
          | some now, some before => decide (before < now)
          | _, _ => false
      if classFits && counterNew && levelHigher then some { startMs, unmoved } else none

variable (charge : OpenCharge)

def snapshotAfterCharge (endMs : ℤ) (unplugged : Bool) : ParkedSnapshot where
  atMs := some endMs
  seenAtMs := endMs
  batteryLevel := charge.lastBatteryLevel
  idealRangeKm := charge.lastIdealRangeKm
  ratedRangeKm := charge.lastRatedRangeKm
  odometerKm := charge.lastOdometerKm
  odometerCoarse := charge.lastOdometerKm.isSome && charge.lastOdometerCoarse.getD true
  latitude := charge.startLatitude
  longitude := charge.startLongitude
  energyAddedKwh := charge.lastEnergyAdded
  afterDrive := false
  unplugged := unplugged

def OpenCharge.lastEvidenceMs : ℤ :=
  max (charge.lastSampleTimestampMs.getD charge.startDateMs) charge.startDateMs

def statesCharge (o : Observation) : Bool :=
  o.fresh.chargeSession && (o.parsed.chargingState.isSome || o.parsed.chargeEnergyAdded.isSome)

variable (state : OpenSessionState)

def anchorsChargeSample (o : Observation) : Bool :=
  let tCharge := o.parsed.chargeTimestampMs
  statesCharge o && laterThan tCharge state.marks.importedChargeWatermarkMs &&
    laterThan tCharge (state.openCharge.bind (·.lastSampleTimestampMs))

def chargeContinuesAcrossGap (o : Observation) : Bool :=
  let counterHeld := match o.parsed.chargeEnergyAdded, charge.lastEnergyAdded with
    | some now, some last => !counterRestarted last now
    | _, _ => false
  o.charge != .none && counterHeld &&
    movementBetween charge.lastOdometerKm o.parsed.odometer == .unmoved

def closeOpenCharge (delta : LifecycleDelta) (endMs : ℤ)
    (unplugged : Bool) : Except LifecycleError (OpenSessionState × LifecycleDelta) :=
  match state.openCharge with
  | none => .ok (state, delta)
  | some charge => do
    let endMs := max endMs charge.startDateMs
    let (row, samples) ← finalizeCharge charge (some endMs)
    let coordinates := charge.startLatitude.bind fun latitude =>
      charge.startLongitude.map fun longitude => (charge.id, latitude, longitude)
    pure ({ state with
        openCharge := none
        parkedSnapshot := some (snapshotAfterCharge charge endMs unplugged) },
      { delta with
        charges := delta.charges++[row]
        chargeStartCoordinates := delta.chargeStartCoordinates++coordinates.toList
        openChargeSamples := delta.openChargeSamples++samples })

def losesChargeEvidence (charge : OpenCharge) (o : Observation) : Bool :=
  let lostEvidence := o.reach == some .asleep || state.serviceMode == some true || o.drive ==
      .motion
  let counterFell := match o.parsed.chargeEnergyAdded, charge.lastEnergyAdded with
    | some now, some last => counterRestarted last now
    | _, _ => false
  let gap := decide (o.tGapMs < saturatingSub o.parsed.chargeTimestampMs charge.lastEvidenceMs)
  lostEvidence || (anchorsChargeSample state o &&
    (counterFell || (gap && !chargeContinuesAcrossGap charge o)))

def chargeCloseStep (o : Observation) (delta : LifecycleDelta) :
    Except LifecycleError (OpenSessionState × LifecycleDelta) :=
  match state.openCharge with
  | none => .ok (state, delta)
  | some charge =>
    if losesChargeEvidence state charge o then
      closeOpenCharge state delta charge.lastEvidenceMs false
    else .ok (state, delta)

structure ChargeStart where
  startMs : ℤ
  batteryLevel : Option ℤ := none
  (idealRangeKm ratedRangeKm : Option ℚ := none)

def chargeStart (o : Observation) : Option ChargeStart :=
  let parsed := o.parsed
  let tCharge := parsed.chargeTimestampMs
  match o.charge with
  | .active => some
      { startMs := tCharge
        batteryLevel := parsed.batteryLevel
        idealRangeKm := parsed.idealRangeKm
        ratedRangeKm := parsed.ratedRangeKm }
  | .none => none
  | charge =>
    snapshot.bind fun snapshot =>
      (afterGapCharge snapshot parsed charge).map fun afterGap =>
        let startMs := min afterGap.startMs tCharge
        if afterGap.unmoved then
          { startMs
            batteryLevel := snapshot.batteryLevel
            idealRangeKm := snapshot.idealRangeKm
            ratedRangeKm := snapshot.ratedRangeKm }
        else { startMs }

def chargeCoordinates (parsed : ParsedSample) : Option (ℚ × ℚ) :=
  let fromSnapshot := (snapshot.filter fun snapshot =>
      movementBetween snapshot.odometerKm parsed.odometer == .unmoved).bind
    fun snapshot => validCoordinates snapshot.latitude snapshot.longitude
  (validCoordinates parsed.latitude parsed.longitude).or fromSnapshot

def openedCharge (id start : ℤ) (o : Observation) (opening : ChargeStart)
    (snapshot : Option ParkedSnapshot) : OpenCharge where
  id := id
  carId := o.carId
  startDateMs := start
  startBatteryLevel := opening.batteryLevel
  startIdealRangeKm := opening.idealRangeKm
  startRatedRangeKm := opening.ratedRangeKm
  startLatitude := (chargeCoordinates snapshot o.parsed).map (·.1)
  startLongitude := (chargeCoordinates snapshot o.parsed).map (·.2)
  lastOdometerKm := o.parsed.odometer
  lastOdometerCoarse := o.parsed.odometer.map fun _ => o.parsed.kind != .full
  firstEnergyAdded := some (chargeEnergyBaseline snapshot
    o.parsed.chargeEnergyAdded o.parsed.odometer)

def chargeOpenStep (o : Observation) (delta : LifecycleDelta) :
    Except LifecycleError OpenSessionState :=
  if state.openCharge.isSome || state.openDrive.isSome || state.serviceMode == some true ||
      !anchorsChargeSample state o then .ok state
  else
    match chargeStart state.parkedSnapshot o with
    | none => .ok state
    | some opening => do
      let start := ((afterClosed delta).map (max · opening.startMs)).getD opening.startMs
      let (id, next) ← allocate state.ids.nextChargeId
      pure { state with
        ids := { state.ids with nextChargeId := next }
        openCharge := some (openedCharge id start o opening state.parkedSnapshot) }

def chargeSampleFrom (id chargeId : ℤ) (parsed : ParsedSample) : ProjectionChargeSample where
  id := id
  chargeProcessId := chargeId
  timestampMs := parsed.chargeTimestampMs
  batteryLevel := parsed.batteryLevel
  usableBatteryLevel := parsed.usableBatteryLevel
  chargeEnergyAddedKwh := parsed.chargeEnergyAdded
  chargerPowerKw := parsed.chargerPowerKw
  chargerVoltage := parsed.chargerVoltage
  chargerActualCurrent := parsed.chargerActualCurrent
  chargerPilotCurrent := parsed.chargerPilotCurrent
  chargerPhases := parsed.chargerPhases
  idealRangeKm := parsed.idealRangeKm
  ratedRangeKm := parsed.ratedRangeKm
  outsideTempC := parsed.outsideTemp
  batteryHeaterOn := parsed.batteryHeaterOn
  batteryHeater := parsed.batteryHeater
  batteryHeaterNoPower := parsed.batteryHeaterNoPower
  notEnoughPowerToHeat := parsed.notEnoughPowerToHeat
  fastChargerPresent := parsed.fastChargerPresent
  fastChargerBrand := parsed.fastChargerBrand
  fastChargerType := parsed.fastChargerType
  chargeCable := parsed.chargeCable

def refreshOdometer (o : Observation) : OpenCharge :=
  if o.fresh.odometer && o.parsed.odometer.isSome then
    { charge with
      lastOdometerKm := o.parsed.odometer
      lastOdometerCoarse := some (o.parsed.kind != .full) }
  else charge

def chargeSampleStep (o : Observation) (delta : LifecycleDelta) :
    Except LifecycleError (OpenSessionState × LifecycleDelta) :=
  match state.openCharge with
  | none => .ok (state, delta)
  | some charge =>
    if anchorsChargeSample state o then do
      let (id, next) ← allocate state.ids.nextChargeSampleId
      let sample := chargeSampleFrom id charge.id o.parsed
      let charge := refreshOdometer
        (observeChargeSample (observeChargeAggregate charge sample) sample) o
      let state := { state with
        ids := { state.ids with nextChargeSampleId := next }
        openCharge := some charge }
      let delta := { delta with openChargeSamples := delta.openChargeSamples++[sample] }
      if o.charge.isEnd then
        closeOpenCharge state delta o.parsed.chargeTimestampMs (o.charge == .disconnected)
      else pure (state, delta)
    else .ok ({ state with openCharge := some (refreshOdometer charge o) }, delta)

def refreshedSnapshot (snapshot : ParkedSnapshot) (o : Observation) : ParkedSnapshot :=
  let p := o.parsed
  let f := o.fresh
  let seen := snapshot.seenAtMs
  let seen := if f.battery || f.chargeSession then max seen p.chargeTimestampMs else seen
  let seen := if f.odometer then max seen p.vehicleTimestampMs else seen
  let seen := if f.position then max seen p.driveTimestampMs else seen
  let located := f.position && p.latitude.isSome && p.longitude.isSome
  { atMs := if statesCharge o then
      some ((snapshot.atMs.map (max · p.chargeTimestampMs)).getD p.chargeTimestampMs)
      else snapshot.atMs
    seenAtMs := seen
    batteryLevel := if f.battery then p.batteryLevel.or snapshot.batteryLevel
      else snapshot.batteryLevel
    idealRangeKm := if f.battery then p.idealRangeKm.or snapshot.idealRangeKm
      else snapshot.idealRangeKm
    ratedRangeKm := if f.battery then p.ratedRangeKm.or snapshot.ratedRangeKm
      else snapshot.ratedRangeKm
    odometerKm := if f.odometer then p.odometer.or snapshot.odometerKm else snapshot.odometerKm
    odometerCoarse := if f.odometer && p.odometer.isSome then p.kind != .full
      else snapshot.odometerCoarse
    latitude := if located then p.latitude else snapshot.latitude
    longitude := if located then p.longitude else snapshot.longitude
    energyAddedKwh := if f.chargeSession then p.chargeEnergyAdded.or snapshot.energyAddedKwh
      else snapshot.energyAddedKwh
    afterDrive := snapshot.afterDrive
    unplugged := snapshot.unplugged || (f.chargeSession && o.charge == .disconnected) }

def parkedSnapshotStep (o : Observation) : OpenSessionState :=
  let f := o.fresh
  if state.openDrive.isSome || state.openCharge.isSome ||
      !(f.battery || f.odometer || f.position || f.chargeSession) then state
  else
    let snapshot := state.parkedSnapshot.getD { seenAtMs := i64Min }
    { state with parkedSnapshot := some (refreshedSnapshot snapshot o) }

end TeslatlasHub.Lifecycle
