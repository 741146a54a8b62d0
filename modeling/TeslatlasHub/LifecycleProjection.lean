import TeslatlasHub.LifecycleChargeSteps
import TeslatlasHub.RunRules

namespace TeslatlasHub.Lifecycle

open FixedWidth TextScan

variable (state : OpenSessionState)

def convertPendingSeed : OpenSessionState :=
  match state.pendingGainedRangeCharge with
  | none => state
  | some seed =>
    let state := { state with pendingGainedRangeCharge := none }
    if state.openDrive.isSome || state.parkedSnapshot.isSome then state
    else
      { state with
        parkedSnapshot := some
          { atMs := some seed.startDateMs
            seenAtMs := seed.startDateMs
            batteryLevel := seed.startBatteryLevel
            idealRangeKm := seed.startIdealRangeKm
            ratedRangeKm := seed.startRatedRangeKm
            latitude := seed.startLatitude
            longitude := seed.startLongitude
            energyAddedKwh := some seed.firstEnergyAdded } }

def mergeCarMetadata (o : Observation) : OpenSessionState :=
  match o.parsed.carMetadata with
  | none => state
  | some newer =>
    { state with carMetadata := some ((state.carMetadata.getD {}).mergeNewer newer) }

def applyServiceMode (o : Observation) : OpenSessionState :=
  let parsed := o.parsed
  let statusFresh := o.fresh.vehicleStatus && parsed.kind.hasVehicleData
  let cleared := { state with serviceMode := none, serviceModeRefused := false }
  if o.event = some .serviceRefused then
    { state with serviceMode := some true, serviceModeRefused := true }
  else
    match parsed.serviceMode, statusFresh with
    | some stated, true => { state with serviceMode := some stated, serviceModeRefused := false }
    | _, _ =>
      if parsed.kind = .full ∧ statusFresh then cleared
      else if state.serviceModeRefused ∧ parsed.kind = .full ∧ o.fresh.any then cleared
      else state

def endingUpdate : Except LifecycleError (ℤ × Option ℤ × OpenSessionState) :=
  match state.openUpdate with
  | some update => .ok (update.id, some update.startDateMs, { state with openUpdate := none })
  | none => do
    let (id, next) ← allocate state.ids.nextUpdateId
    pure (id, none, { state with ids := { state.ids with nextUpdateId := next } })

def applyVersionFacts (o : Observation) (delta : LifecycleDelta) :
    Except LifecycleError (OpenSessionState × LifecycleDelta) :=
  let parsed := o.parsed
  if parsed.kind ≠ .full ∨ !o.fresh.vehicleStatus then .ok (state, delta)
  else
    match parsed.carVersion.map trim with
    | none => .ok (state, delta)
    | some text =>
      match versionKey text with
      | none => .ok (state, delta)
      | some key =>
        let tVehicle := parsed.vehicleTimestampMs
        match state.lastCarVersion.bind versionKey with
        | none =>
          .ok ({ state with lastCarVersion := some text, lastCarVersionAtMs := some tVehicle },
            delta)
        | some knownKey =>
          match compareVersionKeys key knownKey with
          | .gt => do
            let (id, installStart, state) ← endingUpdate state
            let start := min ((installStart.or state.lastCarVersionAtMs).getD tVehicle) tVehicle
            pure ({ state with lastCarVersion := some text, lastCarVersionAtMs := some tVehicle },
              { delta with
                updates := delta.updates++
                  [{ id, carId := o.carId, startDateMs := start, endDateMs := tVehicle,
                     version := text }] })
          | .eq => .ok ({ state with lastCarVersionAtMs := some tVehicle }, delta)
          | .lt => .ok (state, delta)

def applyUpdateStatus (o : Observation) : Except LifecycleError OpenSessionState :=
  if o.drive = .motion ∧ state.openUpdate.isSome then .ok { state with openUpdate := none }
  else
    match o.status with
    | .installing =>
      if state.openUpdate.isNone ∧ state.openDrive.isNone then do
        let (id, next) ← allocate state.ids.nextUpdateId
        pure { state with
          ids := { state.ids with nextUpdateId := next }
          openUpdate := some
            { id, carId := o.carId, startDateMs := o.parsed.vehicleTimestampMs } }
      else .ok state
    | .offered => .ok { state with openUpdate := none }
    | .idle => .ok { state with openUpdate := none }
    | .noInfo => .ok state

def markOffline (o : Observation) : OpenSessionState :=
  if o.reach = some .offline then
    { state with openDrive := state.openDrive.map ({ · with sawOffline := true }) }
  else state

def VehiclePhase.effective : VehiclePhase → VehiclePhase
  | suspended => online
  | phase => phase

def derivePhase (o : Observation) : VehiclePhase :=
  match o.reach.or (state.lastReach.bind Reach.fromText) with
  | some .asleep => .asleep
  | some .offline => .offline
  | lastReach =>
    if state.openDrive.isSome then .driving
    else if state.openUpdate.isSome then .updating
    else if state.openCharge.isSome then .charging
    else if lastReach = some .online then .online
    else state.phase.effective

def logicalState : VehiclePhase → Option String
  | .asleep => some "asleep"
  | .offline => some "offline"
  | .unknown => none
  | .online | .driving | .charging | .updating | .suspended => some "online"

def updateStateInterval (carId : ℤ) (phase : VehiclePhase) (atMs : ℤ)
    (delta : LifecycleDelta) : Except LifecycleError (OpenSessionState × LifecycleDelta) :=
  match logicalState phase with
  | none => .ok (state, delta)
  | some target =>
    if state.openState.any (·.state == target) then .ok (state, delta)
    else do
      let closed := state.openState.map fun interval =>
        { id := interval.id, carId, state := interval.state, startDateMs := interval.startDateMs,
          endDateMs := some (max atMs interval.startDateMs) : ProjectionState }
      let (id, next) ← allocate state.ids.nextStateId
      pure ({ state with
          ids := { state.ids with nextStateId := next }
          openState := some { id, carId, state := target, startDateMs := atMs } },
        { delta with
          states := delta.states++closed.toList++
            [{ id, carId, state := target, startDateMs := atMs, endDateMs := none }] })

def phaseStep (o : Observation) (delta : LifecycleDelta) :
    Except LifecycleError (OpenSessionState × LifecycleDelta) :=
  let phase := derivePhase state o
  let state := { state with phase }
  if o.reach.isSome then updateStateInterval state o.carId phase o.tObs delta
  else .ok (state, delta)

def applyLifecycleSteps [Geodesy] (state : OpenSessionState) (o : Observation)
    (delta : LifecycleDelta) : Except LifecycleError (OpenSessionState × LifecycleDelta) := do
  -- Step 3: vehicle facts.
  let state := applyServiceMode (mergeCarMetadata state o) o
  let (state, delta) ← applyVersionFacts state o delta
  -- Step 4: closes, drive then charge.
  let (state, delta) ← driveCloseStep state o delta
  let (state, delta) ← chargeCloseStep state o delta
  let state := markOffline state o
  -- Step 5: update status.
  let state ← applyUpdateStatus state o
  -- Step 6: opens, drive then charge.
  let state ← driveOpenStep state o delta
  let state ← chargeOpenStep state o delta
  -- Step 7: extends.
  let (state, delta) ← driveFoldStep state o delta
  let (state, delta) ← chargeSampleStep state o delta
  -- Step 8: standalone position, parked snapshot.
  let (state, delta) ← standalonePositionStep state o delta
  let state := parkedSnapshotStep state o
  -- Step 9: phase and state interval.
  phaseStep state o delta

def raise (watermark : Option ℤ) (factMs : ℤ) : Option ℤ :=
  some ((watermark.map (max · factMs)).getD factMs)

def advanceMarks (marks : Watermarks) (o : Observation) : Watermarks :=
  let p := o.parsed
  let f := o.fresh
  let drive := if f.motion then raise marks.lastDriveTimestampMs p.driveTimestampMs
    else marks.lastDriveTimestampMs
  -- The battery fallback reads the charge watermark before it moves, the odometer fallback the
  -- vehicle watermark before it moves; the position fallback reads the moved motion watermark.
  { marks with
    lastDriveTimestampMs := drive
    lastPositionFactMs := if f.position then
      raise (marks.lastPositionFactMs.or drive) p.driveTimestampMs else marks.lastPositionFactMs
    lastBatteryFactMs := if f.battery then
      raise (marks.lastBatteryFactMs.or marks.lastChargeTimestampMs) p.chargeTimestampMs
      else marks.lastBatteryFactMs
    lastChargeTimestampMs := if f.chargeSession then
      raise marks.lastChargeTimestampMs p.chargeTimestampMs else marks.lastChargeTimestampMs
    lastClimateFactMs := if f.climate then raise marks.lastClimateFactMs p.climateTimestampMs
      else marks.lastClimateFactMs
    lastOdometerFactMs := if f.odometer then
      raise (marks.lastOdometerFactMs.or marks.lastVehicleTimestampMs) p.vehicleTimestampMs
      else marks.lastOdometerFactMs
    lastVehicleTimestampMs := if f.vehicleStatus then
      raise marks.lastVehicleTimestampMs p.vehicleTimestampMs else marks.lastVehicleTimestampMs
    lastObservedAtMs := if p.kind ≠ .hubEvent then raise marks.lastObservedAtMs p.observedAtMs
      else marks.lastObservedAtMs }

def advanceWatermarks (o : Observation) : OpenSessionState :=
  { state with
    marks := advanceMarks state.marks o
    lastReach := (o.reach.map Reach.asStr).or state.lastReach }

def applySampleWithOfflineDriveTimeout [Geodesy] (state : OpenSessionState) (carId : ℤ)
    (sample : LifecycleSample) (offlineDriveTimeoutMs : ℕ) : Except LifecycleError LifecycleStep :=
  if carId ≤ 0 then .error .invalidCarId
  else if offlineDriveTimeoutMs = 0 ∨ i64Max < offlineDriveTimeoutMs then
    .error .invalidOfflineDriveTimeout
  -- R2: a re-delivered observation is a no-op.
  else if sample.observationId ≤ state.lastObservationId then
    .ok { state, delta := {}, quarantined := false }
  else
    let state := convertPendingSeed state
    let skipped := { state with lastObservationId := sample.observationId }
    match parseSample sample with
    | .error .invalidPayload => .ok { state := skipped, delta := {}, quarantined := true }
    | .error error => .error error
    | .ok parsed =>
      if parsed.kind = .unknown ∨ (parsed.kind = .hubEvent ∧ parsed.hubEvent = none) then
        .ok { state := skipped, delta := {}, quarantined := false }
      else
        let (state, o) := observe state carId offlineDriveTimeoutMs sample.vehicleState parsed
        do
          let (state, delta) ← applyLifecycleSteps state o {}
          let state := advanceWatermarks state o
          pure { state := { state with lastObservationId := sample.observationId }, delta,
                 quarantined := false }

def defaultOfflineDriveTimeoutMs : ℕ := 10*60*1000

def becomesStandalone (step : LifecycleDelta) (position : ProjectionPosition) : Bool :=
  position.driveId.any fun driveId =>
    step.discardedDriveIds.contains driveId ||
      step.drives.any fun drive => drive.id == driveId && decide (drive.endDateMs < position.dateMs)

def mergeStepDelta (total step : LifecycleDelta) : LifecycleDelta :=
  let children := total.openDrivePositions++step.openDrivePositions
  let placed := children.filter (becomesStandalone step ·)
  { drives := total.drives++step.drives
    discardedDriveIds := total.discardedDriveIds++step.discardedDriveIds
    positions := total.positions++placed.map ({ · with driveId := none })++step.positions
    charges := total.charges++step.charges
    chargeSamples := total.chargeSamples++step.chargeSamples
    states := total.states++step.states
    updates := total.updates++step.updates
    chargeStartCoordinates := total.chargeStartCoordinates++step.chargeStartCoordinates
    openDrivePositions := children.filter (!becomesStandalone step ·)
    openChargeSamples := total.openChargeSamples++step.openChargeSamples }

def batchStep [Geodesy] (carId : ℤ) (offlineDriveTimeoutMs : ℕ) (batch : LifecycleStep)
    (sample : LifecycleSample) : Except LifecycleError LifecycleStep := do
  let step ← applySampleWithOfflineDriveTimeout batch.state carId sample offlineDriveTimeoutMs
  pure { state := step.state
         delta := mergeStepDelta batch.delta step.delta
         quarantined := batch.quarantined || step.quarantined }

def applySamplesWith [Geodesy] (state : OpenSessionState) (carId : ℤ)
    (samples : List LifecycleSample) (offlineDriveTimeoutMs : ℕ) :
    Except LifecycleError LifecycleStep :=
  RunRules.run (batchStep carId offlineDriveTimeoutMs)
    { state, delta := {}, quarantined := false } samples

end TeslatlasHub.Lifecycle
