import TeslatlasHub.LifecycleFields

namespace TeslatlasHub.Lifecycle

open FixedWidth TextScan JsonValue

inductive SourceKind where
  | full | sparse | stream | discovery | hubEvent | unknown
  deriving DecidableEq

def SourceKind.hasVehicleData : SourceKind → Bool
  | full | sparse | stream => true
  | discovery | hubEvent | unknown => false

inductive HubEventKind where
  | noData | serviceRefused
  deriving DecidableEq

structure Families where
  (motion position battery chargeSession climate odometer vehicleStatus : Bool := false)
  deriving DecidableEq

def Families.any (f : Families) : Bool :=
  f.motion || f.position || f.battery || f.chargeSession || f.climate || f.odometer ||
    f.vehicleStatus

structure ParsedSample where
  kind : SourceKind := .unknown
  hubEvent : Option HubEventKind := none
  (observedAtMs driveTimestampMs chargeTimestampMs climateTimestampMs vehicleTimestampMs : ℤ)
  carried : Families := {}
  serviceMode : Option Bool := none
  carVersion : Option String := none
  carMetadata : Option ProjectionCarPatch := none
  shiftState : Option String := none
  shiftStateKeyPresent : Bool := false
  speed : Option ℤ := none
  (latitude longitude power : Option ℚ := none)
  (batteryLevel usableBatteryLevel : Option ℤ := none)
  (ratedRangeKm idealRangeKm estRangeKm odometer : Option ℚ := none)
  elevation : Option ℤ := none
  isClimateOn : Option Bool := none
  (insideTemp outsideTemp : Option ℚ := none)
  fanStatus : Option ℤ := none
  (driverTempSetting passengerTempSetting : Option ℚ := none)
  (isRearDefrosterOn isFrontDefrosterOn : Option Bool := none)
  (tpmsPressureFl tpmsPressureFr tpmsPressureRl tpmsPressureRr : Option ℚ := none)
  (chargingState softwareUpdateStatus : Option String := none)
  (chargeEnergyAdded chargerPowerKw chargerVoltage chargerActualCurrent chargerPilotCurrent : Option
    ℚ := none)
  chargerPhases : Option ℤ := none
  fastChargerPresent : Option Bool := none
  (fastChargerBrand fastChargerType chargeCable : Option String := none)
  (batteryHeaterOn batteryHeater batteryHeaterNoPower notEnoughPowerToHeat : Option Bool := none)

def ParsedSample.bare (kind : SourceKind) (hubEvent : Option HubEventKind) (observedAtMs : ℤ) :
    ParsedSample where
  kind := kind
  hubEvent := hubEvent
  observedAtMs := observedAtMs
  driveTimestampMs := observedAtMs
  chargeTimestampMs := observedAtMs
  climateTimestampMs := observedAtMs
  vehicleTimestampMs := observedAtMs

variable (root : Map)

def vehicleDataObject : Except LifecycleError Map :=
  let providerResponse := (objectField root "provider_raw_json").bind (·.get "response")
  match (providerResponse.or (root.get "vehicle_data")).bind Value.asObject with
  | some data => .ok data
  | none => .error .invalidPayload

def groupObject (data : Option Map) (key : String) : Except LifecycleError (Option Map) :=
  match data.bind (·.get key) with
  | none => .ok none
  | some .null => .ok none
  | some (.object group) => .ok (some group)
  | some _ => .error .invalidPayload

def recordKind : Except LifecycleError (SourceKind × Option HubEventKind × Option Map) :=
  match (root.get "record_type").bind Value.asStr with
  | some "owner_api_vehicle_data_v1" => do pure (.full, none, some (← vehicleDataObject root))
  | some "fleet_api_vehicle_data_v1" => do
    let kind := if (textField (some root) "provider_feed").isSome then .sparse else .full
    pure (kind, none, some (← vehicleDataObject root))
  | some "owner_api_discovery_v1" => .ok (.discovery, none, none)
  | some "fleet_api_discovery_v1" => .ok (.discovery, none, none)
  | some "tesla_stream_update_v1" =>
    match objectField root "fields" with
    | some fields => .ok (.stream, none, some fields)
    | none => .error .invalidPayload
  | some "hub_lifecycle_event_v1" =>
    let event := match (root.get "event").bind Value.asStr with
      | some "no_data" => some .noData
      | some "service_refused" => some .serviceRefused
      | _ => none
    .ok (.hubEvent, event, none)
  | _ => .ok (.unknown, none, none)

structure Groups where
  (drive charge climate vehicleState vehicleConfig : Option Map)

def readGroups (data : Option Map) : Except LifecycleError Groups := do
  let drive ← groupObject data "drive_state"
  let charge ← groupObject data "charge_state"
  let climate ← groupObject data "climate_state"
  let vehicleState ← groupObject data "vehicle_state"
  let vehicleConfig ← groupObject data "vehicle_config"
  pure { drive, charge, climate, vehicleState, vehicleConfig }

def readCarMetadata (data : Option Map) (groups : Groups) (kind : SourceKind)
    (envelope : String) : Option ProjectionCarPatch :=
  if eqIgnoreAsciiCase envelope "online" && data.isSome && groups.vehicleState.isSome then
    let rawCarType := textField groups.vehicleConfig "car_type"
    let model := rawCarType.map normalizeTeslaModelCode
    let trimBadging := (textField groups.vehicleConfig "trim_badging").map normalizeTeslaTrim
    let vin := (textField (some root) "vin").or (textField data "vin")
    let marketingName := rawCarType.bind fun raw => model.bind fun model =>
      deriveTeslaMarketingName model trimBadging (some raw) vin
    -- A sparse source's `car_version` can be an available, not installed, version (R32).
    let firmwareVersion :=
      if kind = .sparse then none else textField groups.vehicleState "car_version"
    let patch : ProjectionCarPatch :=
      { name := ((textField (some root) "display_name").or (textField data "display_name")).or
          (textField groups.vehicleState "vehicle_name")
        model, vin, trimBadging, marketingName
        exteriorColor := textField groups.vehicleConfig "exterior_color"
        wheelType := textField groups.vehicleConfig "wheel_type"
        spoilerType := textField groups.vehicleConfig "spoiler_type"
        firmwareVersion }
    if patch.isEmpty then none else some patch
  else none

def readCoordinates (drive : Option Map) : Option (ℚ × ℚ) :=
  drive.bind fun fields =>
    validCoordinates ((floatField fields "latitude").map (roundToPrecision · 6))
      ((floatField fields "longitude").map (roundToPrecision · 6))

def readDriveGroup (drive : Option Map) (parsed : ParsedSample) : ParsedSample :=
  { parsed with
    shiftState := textField drive "shift_state"
    shiftStateKeyPresent := match drive.bind (·.get "shift_state") with
      | some .null => true
      | _ => false
    speed := ((drive.bind (floatField · "speed")).map mphToKmh).filter
      fun speed => decide (0 ≤ speed ∧ speed ≤ kSmallintMax)
    power := scaledField drive "power" 0 smallintMin kSmallintMax
    latitude := (readCoordinates drive).map (·.1)
    longitude := (readCoordinates drive).map (·.2)
    elevation := (rangedIntField drive "elevation" smallintMin kSmallintMax).or
      (rangedIntField drive "native_location_elevation" smallintMin kSmallintMax) }

def readChargeGroup (charge : Option Map) (parsed : ParsedSample) : ParsedSample :=
  let smallint := fun key => scaledField charge key 0 smallintMin kSmallintMax
  { parsed with
    chargingState := textField charge "charging_state"
    batteryLevel := rangedIntField charge "battery_level" 0 100
    usableBatteryLevel := rangedIntField charge "usable_battery_level" 0 100
    ratedRangeKm := milesField charge "battery_range" 2 0 (999999/100)
    idealRangeKm := milesField charge "ideal_battery_range" 2 0 (999999/100)
    estRangeKm := milesField charge "est_battery_range" 2 0 (999999/100)
    chargeEnergyAdded := scaledField charge "charge_energy_added" 2 0 (99999999/100)
    chargerPowerKw := smallint "charger_power"
    chargerVoltage := smallint "charger_voltage"
    chargerActualCurrent := smallint "charger_actual_current"
    chargerPilotCurrent := smallint "charger_pilot_current"
    chargerPhases := rangedIntField charge "charger_phases" smallintMin kSmallintMax
    fastChargerPresent := charge.bind (boolField · "fast_charger_present")
    fastChargerBrand := boundedTextField charge "fast_charger_brand"
    fastChargerType := boundedTextField charge "fast_charger_type"
    chargeCable := boundedTextField charge "conn_charge_cable"
    batteryHeaterOn := charge.bind (boolField · "battery_heater_on")
    notEnoughPowerToHeat := charge.bind (boolField · "not_enough_power_to_heat") }

def readClimateGroup (climate : Option Map) (parsed : ParsedSample) : ParsedSample :=
  let temperature := fun key => scaledField climate key 1 (-9999/10) (9999/10)
  { parsed with
    insideTemp := temperature "inside_temp"
    outsideTemp := temperature "outside_temp"
    driverTempSetting := temperature "driver_temp_setting"
    passengerTempSetting := temperature "passenger_temp_setting"
    fanStatus := rangedIntField climate "fan_status" (-2^31) (2^31-1)
    isClimateOn := climate.bind (boolField · "is_climate_on")
    isRearDefrosterOn := climate.bind (boolField · "is_rear_defroster_on")
    isFrontDefrosterOn := climate.bind (boolField · "is_front_defroster_on")
    batteryHeater := climate.bind (boolField · "battery_heater")
    batteryHeaterNoPower := climate.bind (boolField · "battery_heater_no_power") }

def readVehicleGroup (vehicle : Option Map) (parsed : ParsedSample) : ParsedSample :=
  let pressure := fun key => scaledField vehicle key 1 0 (9999/10)
  { parsed with
    serviceMode := vehicle.bind (boolField · "service_mode")
    carVersion := textField vehicle "car_version"
    softwareUpdateStatus := (((vehicle.bind (objectField · "software_update")).bind
      (·.get "status")).bind Value.asStr).map trim
    odometer := ((vehicle.bind (floatField · "odometer")).map milesToKm).filter (0 ≤ ·)
    tpmsPressureFl := pressure "tpms_pressure_fl"
    tpmsPressureFr := pressure "tpms_pressure_fr"
    tpmsPressureRl := pressure "tpms_pressure_rl"
    tpmsPressureRr := pressure "tpms_pressure_rr" }

def carriedFamilies (p : ParsedSample) : Families where
  motion := p.shiftState.isSome || p.speed.isSome || p.power.isSome ||
    (p.kind == .full && p.shiftStateKeyPresent)
  position := p.latitude.isSome && p.longitude.isSome
  battery := p.batteryLevel.isSome || p.usableBatteryLevel.isSome || p.ratedRangeKm.isSome ||
    p.idealRangeKm.isSome || p.estRangeKm.isSome
  chargeSession := p.chargingState.isSome || p.chargeEnergyAdded.isSome ||
    p.chargerPowerKw.isSome || p.chargerVoltage.isSome || p.chargerActualCurrent.isSome ||
    p.chargerPilotCurrent.isSome || p.chargerPhases.isSome || p.fastChargerPresent.isSome ||
    p.fastChargerBrand.isSome || p.fastChargerType.isSome || p.chargeCable.isSome ||
    p.batteryHeaterOn.isSome || p.notEnoughPowerToHeat.isSome
  climate := p.isClimateOn.isSome || p.insideTemp.isSome || p.outsideTemp.isSome ||
    p.fanStatus.isSome || p.driverTempSetting.isSome || p.passengerTempSetting.isSome ||
    p.isRearDefrosterOn.isSome || p.isFrontDefrosterOn.isSome || p.batteryHeater.isSome ||
    p.batteryHeaterNoPower.isSome
  odometer := p.odometer.isSome
  vehicleStatus := p.serviceMode.isSome || p.carVersion.isSome ||
    p.softwareUpdateStatus.isSome || p.tpmsPressureFl.isSome || p.tpmsPressureFr.isSome ||
    p.tpmsPressureRl.isSome || p.tpmsPressureRr.isSome

def readValues (data : Option Map) (groups : Groups) (kind : SourceKind)
    (sample : LifecycleSample) : ParsedSample :=
  readVehicleGroup groups.vehicleState (readClimateGroup groups.climate
    (readChargeGroup groups.charge (readDriveGroup groups.drive
      { ParsedSample.bare kind none sample.observedAtMs with
        driveTimestampMs := groupTime groups.drive sample.observedAtMs
        chargeTimestampMs := groupTime groups.charge sample.observedAtMs
        climateTimestampMs := groupTime groups.climate sample.observedAtMs
        vehicleTimestampMs := groupTime groups.vehicleState sample.observedAtMs
        carMetadata := readCarMetadata root data groups kind sample.vehicleState })))

def parseSample (sample : LifecycleSample) : Except LifecycleError ParsedSample :=
  match sample.payload.asObject with
  | none => .error .invalidPayload
  | some root => do
    let (kind, hubEvent, data) ← recordKind root
    if kind = .unknown ∨ kind = .hubEvent then
      pure (ParsedSample.bare kind hubEvent sample.observedAtMs)
    else
      let groups ← readGroups data
      let parsed := readValues root data groups kind sample
      pure { parsed with carried := carriedFamilies parsed }

end TeslatlasHub.Lifecycle
