import TeslatlasHub.LifecycleDriveSteps

namespace TeslatlasHub.Lifecycle

open FixedWidth TextScan

inductive FastChargerKind where
  | supercharger | otherDc | teslaAc | noInformation | unrecognised
  deriving DecidableEq

def fastChargerKind : Option String → FastChargerKind
  | none => .noInformation
  | some text =>
    let text := trim text
    let rest := (stripHeadIgnoreAsciiCase text "FastCharger").getD text
    let is := fun name => eqIgnoreAsciiCase rest name
    if is "Supercharger" then .supercharger
    else if is "CHAdeMO" || is "GB" || is "Combo" then .otherDc
    else if is "ACSingleWireCAN" || is "MCSingleWireCAN" then .teslaAc
    else if rest == "" || is "<invalid>" || is "Unknown" || is "SNA" || is "Other" ||
      is "Tesla" then
      .noInformation
    else .unrecognised

def kIntMaxMs : ℤ := 600000

def kEnergyEpsKwh : ℚ := 5/1000

def kCounterDipKwh : ℚ := 5/100

def kPreSampleKwh : ℚ := 4/100
def kRatioMinKwh : ℚ := 1
def kAcFloor : ℚ := 95/100
def msPerHour : ℚ := 3600000
def kVMin : ℚ := 90
def kVMax : ℚ := 305
def kIMax : ℚ := 80
def kAcMaxKw : ℚ := 57645/1000
def kPhaseAbsKw : ℚ := 1
def kPhaseRel : ℚ := 1/10
def kAcEvidenceMinKw : ℚ := 1

def counterRestarted (previousKwh currentKwh : ℚ) : Bool :=
  decide (kCounterDipKwh+kEnergyEpsKwh < previousKwh-currentKwh)

def round2 (value : ℚ) : ℚ := roundToPrecision value 2

variable (sample : ProjectionChargeSample)

def usableEnergyCounter : Option ℚ :=
  sample.chargeEnergyAddedKwh.filter (0 ≤ ·)

variable (charge : OpenCharge)

def foldEnergyCounter (counter : ℚ) : OpenCharge :=
  let baseline := charge.firstEnergyAdded.getD 0
  match charge.maxEnergyAdded with
  | none =>
    if counterRestarted baseline counter then
      { charge with
        firstEnergyAdded := some 0, maxEnergyAdded := some counter, lastEnergyAdded :=
          some counter }
    else
      { charge with
        firstEnergyAdded := some baseline
        maxEnergyAdded := some (max baseline counter)
        lastEnergyAdded := some counter }
  | some maximum =>
    if maximum ≤ counter then
      { charge with
        firstEnergyAdded := some baseline
        maxEnergyAdded := some counter
        lastEnergyAdded := some counter }
    else if counterRestarted (charge.lastEnergyAdded.getD maximum) counter then
      { charge with
        energyAddedCarryKwh := charge.energyAddedCarryKwh+(maximum-baseline)
        firstEnergyAdded := some 0
        maxEnergyAdded := some counter
        lastEnergyAdded := some counter }
    else
      { charge with firstEnergyAdded := some baseline, lastEnergyAdded := some counter }

def foldChargeInterval (dtMs : ℤ) (powerKw counter : Option ℚ) : OpenCharge :=
  if dtMs ≤ 0 then charge
  else
    match charge.lastSamplePowerKw, powerKw with
    | some before, some now =>
      if dtMs ≤ kIntMaxMs then
        let used := (before+now)/2*dtMs/msPerHour
        let charge := { charge with energyUsedKwh := some (charge.energyUsedKwh.getD 0+used) }
        match charge.prevEnergyAddedKwh, counter with
        | some previous, some counter =>
          if counterRestarted previous counter then charge
          else
            { charge with
              ratioUsedKwh := charge.ratioUsedKwh+used
              ratioAddedKwh := charge.ratioAddedKwh+(counter-previous) }
        | _, _ => charge
      else { charge with fullyPowered := false }
    | _, _ => { charge with fullyPowered := false }

def usableChargerPowerKw : Option ℚ :=
  sample.chargerPowerKw.filter (0 ≤ ·)

def perPhaseAcInputs : Option (ℚ × ℚ) :=
  sample.chargerVoltage.bind fun voltage =>
    sample.chargerActualCurrent.bind fun current =>
      if kVMin ≤ voltage ∧ voltage ≤ kVMax ∧ 0 < current ∧ current ≤ kIMax then
        some (voltage, current)
      else none

def phasePowerKw (phases : ℤ) (voltage current : ℚ) : ℚ := phases*voltage*current/1000

def phaseConsistencySet : Option (List ℤ) :=
  (usableChargerPowerKw sample).bind fun reportedKw =>
    (perPhaseAcInputs sample).map fun (voltage, current) =>
      [1, 2, 3].filter fun phases =>
        let predicted := phasePowerKw phases voltage current
        decide (|predicted-reportedKw| ≤ kPhaseAbsKw+kPhaseRel*predicted)

def onlyPhase : List ℤ → Option ℤ
  | [phases] => some phases
  | _ => none

def sampleKindEvidence : Option Bool :=
  let kind := fastChargerKind sample.fastChargerType
  let power := sample.chargerPowerKw
  let dc := kind == .supercharger || kind == .otherDc ||
    (sample.fastChargerPresent == some true && kind != .teslaAc) || power.any (kAcMaxKw < ·)
  if dc then some true
  else
    let flow := power.any (kAcEvidenceMinKw ≤ ·)
    let ac := kind == .teslaAc || (sample.fastChargerPresent == some false && flow) ||
      (flow && (phaseConsistencySet sample).any fun set => (onlyPhase set).isSome)
    if ac then some false else none

def sessionKindAfter (isDc evidence : Option Bool) : Option Bool :=
  match isDc, evidence with
  | some true, _ => some true
  | _, some true => some true
  | none, some false => some false
  | current, _ => current

def sessionChargerTypeAfter (current : Option String) (sample : ProjectionChargeSample) :
    Option String :=
  current.or (sample.fastChargerType.bind fun text =>
    if fastChargerKind (some text) = .noInformation then none else some (trim text))

structure SamplePower where
  powerKw : Option ℚ
  phaseCount : Option ℤ

def sampleGridPowerKw (sessionIsDc : Option Bool) (sessionPhaseCount : Option ℤ) : SamplePower :=
  let reported := usableChargerPowerKw sample
  let reportedOnly : SamplePower := { powerKw := reported, phaseCount := none }
  if sessionIsDc = some true then reportedOnly
  else
    match perPhaseAcInputs sample with
    | none => reportedOnly
    | some (voltage, current) =>
      let inRange := fun phases : ℤ => decide (1 ≤ phases ∧ phases ≤ 3)
      let label := sample.chargerPhases.filter inRange
      let session := sessionPhaseCount.filter inRange
      -- The count, and whether the sample itself fixed it.
      let chosen : Option (ℤ × Bool) := match reported with
        | some _ => (phaseConsistencySet sample).bind fun consistent =>
          match onlyPhase consistent, label.filter (consistent.contains ·) with
          | some only, _ => some (only, true)
          | none, some label => some (label, true)
          | none, none => (session.filter (consistent.contains ·)).map fun count => (count, false)
        | none =>
          (label.map fun count => (count, true)).or (session.map fun count => (count, false))
      match chosen with
      | some (phases, fixedBySample) =>
        { powerKw := some (phasePowerKw phases voltage current)
          phaseCount := if fixedBySample then some phases else none }
      | none => reportedOnly

def observeChargeAggregate (sample : ProjectionChargeSample) : OpenCharge :=
  { charge with
    lastBatteryLevel := sample.batteryLevel.or charge.lastBatteryLevel
    lastIdealRangeKm := sample.idealRangeKm.or charge.lastIdealRangeKm
    lastRatedRangeKm := sample.ratedRangeKm.or charge.lastRatedRangeKm
    maxChargerPowerKw :=
      DetachedDrive.pick max charge.maxChargerPowerKw (usableChargerPowerKw sample)
    outsideTempSum := charge.outsideTempSum+sample.outsideTempC.getD 0
    outsideTempCount := if sample.outsideTempC.isSome then saturatingSucc32 charge.outsideTempCount
      else charge.outsideTempCount }

def observeChargeInterval (first : Bool) (timestampMs : ℤ) (powerKw counter : Option ℚ) :
    OpenCharge :=
  if first then
    { charge with
      energyUsedKwh := some 0
      fullyPowered := true
      preSampleKwh := counter.bind fun _ =>
        charge.maxEnergyAdded.map (·-charge.firstEnergyAdded.getD 0) }
  else
    match charge.lastSampleTimestampMs with
    | some previousMs =>
      foldChargeInterval charge (saturatingSub timestampMs previousMs) powerKw counter
    | none => { charge with fullyPowered := false }

def observeChargeSample (sample : ProjectionChargeSample) : OpenCharge :=
  let first := charge.sampleCount == 0 && charge.lastSampleTimestampMs.isNone
  let counter := usableEnergyCounter sample
  let charge := (counter.map (foldEnergyCounter charge)).getD charge
  let charge := { charge with
    isDc := sessionKindAfter charge.isDc (sampleKindEvidence sample)
    fastChargerType := sessionChargerTypeAfter charge.fastChargerType sample }
  let power := sampleGridPowerKw sample charge.isDc charge.phaseCount
  let charge := observeChargeInterval charge first sample.timestampMs power.powerKw counter
  { charge with
    prevEnergyAddedKwh := counter
    lastSamplePowerKw := power.powerKw
    lastSampleTimestampMs := some sample.timestampMs
    phaseCount := power.phaseCount.or charge.phaseCount
    sampleCount := saturatingSucc32 charge.sampleCount }

structure ChargeEnergyTotals where
  (addedKwh usedKwh : Option ℚ)

def OpenCharge.energyAdded : Option ℚ :=
  charge.maxEnergyAdded.map fun maximum =>
    charge.energyAddedCarryKwh+(maximum-charge.firstEnergyAdded.getD 0)

def OpenCharge.energyUsed : Option ℚ :=
  let samples := charge.sampleCount
  let integral := charge.energyUsedKwh
  let gapFree := charge.fullyPowered
  match charge.energyAdded with
  | none => if 2 ≤ samples ∧ gapFree then integral else none
  | some energy =>
    if energy < kEnergyEpsKwh then
      if samples ≤ 1 then some 0 else if gapFree then integral else none
    else
      match charge.preSampleKwh.filter (· ≤ kPreSampleKwh), gapFree && decide (2 ≤ samples) with
      | some before, true => integral.map (·+before)
      | _, _ =>
        let net := charge.energyAddedCarryKwh+
          ((charge.lastEnergyAdded.or charge.maxEnergyAdded).getD 0-charge.firstEnergyAdded.getD 0)
        if kRatioMinKwh ≤ charge.ratioAddedKwh ∧ 0 < net then
          some (net*charge.ratioUsedKwh/charge.ratioAddedKwh)
        else none

def chargeEnergyTotals : ChargeEnergyTotals :=
  let energy := charge.energyAdded
  let belowAcFloor := fun used : ℚ =>
    charge.isDc == some false &&
      energy.any fun energy => decide (kRatioMinKwh ≤ energy ∧ used < kAcFloor*energy)
  { addedKwh := energy.map fun energy => round2 (max energy 0)
    usedKwh := (charge.energyUsed.filter fun used => !belowAcFloor used).map round2 }

def finalizeCharge (endDateMs : Option ℤ) :
    Except LifecycleError (ProjectionCharge × List ProjectionChargeSample) :=
  let endDateMs := endDateMs.getD charge.startDateMs
  if endDateMs < charge.startDateMs then .error .invalidTimeline
  else
    let totals := chargeEnergyTotals charge
    .ok
      ({ id := charge.id
         carId := charge.carId
         startDateMs := charge.startDateMs
         endDateMs := some endDateMs
         chargeEnergyAdded := totals.addedKwh
         chargeEnergyUsedKwh := totals.usedKwh
         startIdealRangeKm := charge.startIdealRangeKm
         endIdealRangeKm := charge.lastIdealRangeKm
         cost := none
         fastChargerType := charge.fastChargerType
         billingType := none
         costPerUnit := none
         sessionFee := none
         startLatitude := charge.startLatitude
         startLongitude := charge.startLongitude
         startBatteryLevel := charge.startBatteryLevel
         endBatteryLevel := charge.lastBatteryLevel
         durationMin := some (max ((endDateMs-charge.startDateMs).tdiv 60000) 0)
         address := none
         locationName := none
         geofence := none
         isDc := charge.isDc
         chargeRateKmPerHour := none
         maxChargerPowerKw := charge.maxChargerPowerKw
         outsideTempAvg := if 0 < charge.outsideTempCount then
           some (charge.outsideTempSum/charge.outsideTempCount) else none
         startRatedRangeKm := charge.startRatedRangeKm
         endRatedRangeKm := charge.lastRatedRangeKm }, charge.samples)

end TeslatlasHub.Lifecycle
