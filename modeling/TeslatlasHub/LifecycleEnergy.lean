import TeslatlasHub.LifecycleDriveLog

namespace TeslatlasHub.Lifecycle

open FixedWidth RunRules List Option

variable {s s' : OpenSessionState} {o : Observation} {d d' total : LifecycleDelta} {carId : ℤ}
  {T : ℕ}
  {x : LifecycleSample}

def largest (readings : List ℚ) : ℚ := readings.foldl max 0

theorem largest_concat (readings : List ℚ) (a : ℚ) :
    largest (readings++[a]) = max (largest readings) a :=
  foldl_concat ..

theorem largest_le_of_subset {readings others : List ℚ} (h : ∀ a ∈ readings, a ∈ others) :
    largest readings ≤ largest others :=
  (List.max_le_iff (cons_ne_nil 0 readings)).mpr fun _ ha => le_max_of_mem (cons_subset_cons 0 h ha)

def counterOf (o : Observation) : Option ℚ :=
  if o.fresh.chargeSession then o.parsed.chargeEnergyAdded else none

def counters (observations : List Observation) : List ℚ := observations.filterMap counterOf

def odometers (observations : List Observation) : List ℚ :=
  observations.filterMap (·.parsed.odometer)

/-- One Tesla session: no motion, never disconnected, the odometer stands still and the counter
never restarts. -/
structure PlainSession (observations : List Observation) : Prop where
  still : ∀ o ∈ observations, o.drive ≠ .motion
  plugged : ∀ o ∈ observations, o.charge ≠ .disconnected
  unmoved : (odometers observations).Pairwise fun earlier later => later-earlier < kDminKm
  unrestarted : (counters observations).IsChain fun previous current =>
    counterRestarted previous current = false

def nextObserved (carId : ℤ) (T : ℕ) (s : OpenSessionState) (x : LifecycleSample)
    (_ : OpenSessionState)
    (seen : List Observation) : List Observation :=
  seen++(observationOf s carId T x).toList

def observed [Geodesy] (carId : ℤ) (T : ℕ) (xs : List LifecycleSample) : List Observation :=
  history (batchStep carId T) (fun b x b' seen => nextObserved carId T b.state x b'.state seen)
    { state := .new, delta := {}, quarantined := false } [] xs

def recorded (samples : List ProjectionChargeSample) : List ℚ :=
  samples.filterMap (·.chargeEnergyAddedKwh)

def closedEnergy (rows : List ProjectionCharge) : ℚ := (rows.filterMap (·.chargeEnergyAdded)).sum

def totalEnergy (b : LifecycleStep) : ℚ :=
  closedEnergy b.delta.charges+(b.state.openCharge.bind (·.energyAdded)).getD 0

def openingSnapshot (s : OpenSessionState) : Option ParkedSnapshot :=
  match s.openCharge with
  | none => s.parkedSnapshot
  | some charge =>
    some (snapshotAfterCharge charge (max charge.lastEvidenceMs charge.startDateMs) false)

def opensCharge (s : OpenSessionState) (o : Observation) : Bool :=
  s.openCharge.all (losesChargeEvidence (applyServiceMode s o) · o) &&
    (applyServiceMode s o).serviceMode != some true &&
    anchorsChargeSample { s with openCharge := none } o &&
      (chargeStart (openingSnapshot s) o).isSome

/-- A charge that opens knows a counter that is not below any an earlier charge has sampled. -/
def countsOnward (carId : ℤ) (T : ℕ) (s : OpenSessionState) (total : LifecycleDelta)
    (x : LifecycleSample) : Bool :=
  (observationOf s carId T x).all fun o => !opensCharge s o ||
    decide (largest (recorded total.openChargeSamples) ≤
      ((openingSnapshot s).bind (·.energyAddedKwh)).getD 0)

structure SameCounter (a b : OpenCharge) : Prop where
  carry : a.energyAddedCarryKwh = b.energyAddedCarryKwh
  first : a.firstEnergyAdded = b.firstEnergyAdded
  maximum : a.maxEnergyAdded = b.maxEnergyAdded
  last : a.lastEnergyAdded = b.lastEnergyAdded
  odometer : a.lastOdometerKm = b.lastOdometerKm

theorem foldChargeInterval_counter (charge : OpenCharge) (dtMs : ℤ) (powerKw counter : Option ℚ) :
    SameCounter (foldChargeInterval charge dtMs powerKw counter) charge := by
  unfold foldChargeInterval
  split
  · exact ⟨rfl, rfl, rfl, rfl, rfl⟩
  split
  · split
    · simp only
      split
      · split <;> exact ⟨rfl, rfl, rfl, rfl, rfl⟩
      · exact ⟨rfl, rfl, rfl, rfl, rfl⟩
    · exact ⟨rfl, rfl, rfl, rfl, rfl⟩
  · exact ⟨rfl, rfl, rfl, rfl, rfl⟩

theorem observeChargeInterval_counter (charge : OpenCharge) (first : Bool) (timestampMs : ℤ)
    (powerKw counter : Option ℚ) :
    SameCounter (observeChargeInterval charge first timestampMs powerKw counter) charge := by
  unfold observeChargeInterval
  split
  · exact ⟨rfl, rfl, rfl, rfl, rfl⟩
  · split
    · exact foldChargeInterval_counter charge _ powerKw counter
    · exact ⟨rfl, rfl, rfl, rfl, rfl⟩

theorem observeChargeSample_counter (charge : OpenCharge) (sample : ProjectionChargeSample) :
    SameCounter (observeChargeSample charge sample)
      (((usableEnergyCounter sample).map (foldEnergyCounter charge)).getD charge) := by
  have h (a : OpenCharge) (power : SamplePower) (first : Bool) :
      SameCounter
        { observeChargeInterval a first sample.timestampMs power.powerKw (usableEnergyCounter
          sample) with
          prevEnergyAddedKwh := usableEnergyCounter sample
          lastSamplePowerKw := power.powerKw
          lastSampleTimestampMs := some sample.timestampMs
          phaseCount := power.phaseCount.or (observeChargeInterval a first sample.timestampMs
            power.powerKw (usableEnergyCounter sample)).phaseCount
          sampleCount := saturatingSucc32 (observeChargeInterval a first sample.timestampMs
            power.powerKw (usableEnergyCounter sample)).sampleCount } a := by
    have hi := observeChargeInterval_counter a first sample.timestampMs power.powerKw
      (usableEnergyCounter sample)
    exact ⟨hi.carry, hi.first, hi.maximum, hi.last, hi.odometer⟩
  set folded := ((usableEnergyCounter sample).map (foldEnergyCounter charge)).getD charge
  have hk := h { folded with
    isDc := sessionKindAfter folded.isDc (sampleKindEvidence sample)
    fastChargerType := sessionChargerTypeAfter folded.fastChargerType sample }
    (sampleGridPowerKw sample (sessionKindAfter folded.isDc (sampleKindEvidence sample))
      folded.phaseCount) (charge.sampleCount == 0 && charge.lastSampleTimestampMs.isNone)
  exact ⟨hk.carry, hk.first, hk.maximum, hk.last, hk.odometer⟩

structure OpenCount (charge : OpenCharge) (closed peak : ℚ) (last : Option ℚ) (kms : List ℚ) :
    Prop where
  carry : charge.energyAddedCarryKwh = 0
  odometer : ∀ km, charge.lastOdometerKm = some km → km ∈ kms
  reading : ∀ e, charge.lastEnergyAdded = some e → last = some e
  baseline : ∃ b, charge.firstEnergyAdded = some b ∧ 0 ≤ b ∧ round2 b = b ∧ closed ≤ b ∧
    (charge.maxEnergyAdded = none → charge.lastEnergyAdded = none ∧ (b = 0 ∨ last = some b)) ∧
    ∀ m, charge.maxEnergyAdded = some m →
      round2 m = m ∧ b ≤ m ∧ m ≤ max b peak ∧ charge.lastEnergyAdded.isSome

variable {charge : OpenCharge} {last : Option ℚ} {kms : List ℚ}

theorem OpenCount.congr {a : OpenCharge} {closed peak : ℚ}
    (h : OpenCount charge closed peak last kms) (hs : SameCounter a charge) :
    OpenCount a closed peak last kms := by
  obtain ⟨b, hb⟩ := h.baseline
  refine ⟨hs.carry.trans h.carry, ?_, ?_, b, ?_⟩
  · rw [hs.odometer]
    exact h.odometer
  · rw [hs.last]
    exact h.reading
  · rw [hs.first, hs.maximum, hs.last]
    exact hb

theorem OpenCount.added_le {closed peak : ℚ} (h : OpenCount charge closed peak last kms)
    (hclosed : closed ≤ peak) :
    closed+charge.energyAdded.getD 0 ≤ peak ∧ ∀ e, charge.energyAdded = some e → 0 ≤ e ∧
    round2 e = e := by
  obtain ⟨b, hfirst, hb, hbr, hcb, -, hmax⟩ := h.baseline
  unfold OpenCharge.energyAdded
  cases hm : charge.maxEnergyAdded with
  | none =>
    refine ⟨?_, fun e he => absurd he.symm (some_ne_none e)⟩
    rw [map_none, getD_none, add_zero]
    exact hclosed
  | some m =>
    obtain ⟨hmr, hbm, hpeak, -⟩ := hmax m hm
    rw [map_some, getD_some, h.carry, hfirst, getD_some, zero_add]
    refine ⟨?_, ?_⟩
    · rcases le_max_iff.mp hpeak with hle | hle
      · linarith
      · linarith
    · intro e he
      cases he
      exact ⟨by linarith, roundToPrecision_sub hmr hbr⟩

theorem OpenCount.fold {closed peak c : ℚ} (h : OpenCount charge closed peak last kms)
    (hc : 0 ≤ c) (hcr : round2 c = c) (hchain : ∀ e, last = some e → counterRestarted e c = false) :
    OpenCount (foldEnergyCounter charge c) closed (max peak c) (some c) kms := by
  obtain ⟨b, hfirst, hb, hbr, hcb, hnone, hmax⟩ := h.baseline
  unfold foldEnergyCounter
  rw [hfirst, getD_some]
  cases hm : charge.maxEnergyAdded with
  | none =>
    obtain ⟨-, hbase⟩ := hnone hm
    have hno : counterRestarted b c = false := by
      rcases hbase with rfl | hlast
      · refine decide_eq_false ?_
        unfold kCounterDipKwh kEnergyEpsKwh
        linarith
      · exact hchain b hlast
    simp only [hno, Bool.false_eq_true, if_false]
    refine ⟨h.carry, h.odometer, fun e he => he, b, rfl, hb, hbr, hcb,
        fun hx => absurd hx (some_ne_none _), ?_⟩
    intro m he
    cases he
    refine ⟨?_, le_max_left b c, max_le_max (le_refl b) (le_max_right peak c), rfl⟩
    rcases le_total b c with hle | hle
    · rw [max_eq_right hle, hcr]
    · rw [max_eq_left hle, hbr]
  | some m =>
    obtain ⟨hmr, hbm, hpeak, hsome⟩ := hmax m hm
    obtain ⟨e, he⟩ := isSome_iff_exists.mp hsome
    have hno : counterRestarted (charge.lastEnergyAdded.getD m) c = false := by
      rw [he, getD_some]
      exact hchain e (h.reading e he)
    simp only
    split
    · rename_i hle
      refine ⟨h.carry, h.odometer, fun e he => he, b, rfl, hb, hbr, hcb,
        fun hx => absurd hx (some_ne_none _), ?_⟩
      intro m' hm'
      cases hm'
      exact ⟨hcr, hbm.trans hle, le_max_of_le_right (le_max_right peak c), rfl⟩
    · rw [hno, if_neg Bool.false_ne_true]
      refine ⟨h.carry, h.odometer, fun e he => he, b, rfl, hb, hbr, hcb,
        fun hx => absurd hx (some_ne_none _), ?_⟩
      · intro m' hm'
        cases hm'
        exact ⟨hmr, hbm, hpeak.trans (max_le_max (le_refl b) (le_max_left peak c)), rfl⟩

structure ChargeCount (charge : Option OpenCharge) (snapshot : Option ParkedSnapshot)
    (closed peak : ℚ)
    (last : Option ℚ) (kms : List ℚ) : Prop where
  settled : closed ≤ peak
  parked : ∀ k, snapshot = some k → k.afterDrive = false ∧ k.unplugged = false ∧
    ∀ km, k.odometerKm = some km → km ∈ kms
  standing : charge = none → ∀ k e, snapshot = some k → k.energyAddedKwh = some e → last = some e
  openCharge : ∀ c, charge = some c → OpenCount c closed peak last kms

section

variable {charge : OpenCharge} {snapshot : Option ParkedSnapshot} {closed peak : ℚ}
  {last : Option ℚ}
  {kms : List ℚ}

theorem OpenCount.row_eq (h : OpenCount charge closed peak last kms) (hclosed : closed ≤ peak) :
    (chargeEnergyTotals charge).addedKwh = charge.energyAdded := by
  have hexact := (h.added_le hclosed).2
  change charge.energyAdded.map (fun energy => round2 (max energy 0)) = charge.energyAdded
  cases he : charge.energyAdded with
  | none => rfl
  | some e =>
    obtain ⟨hpos, hround⟩ := hexact e he
    rw [map_some, max_eq_left hpos, hround]

theorem ChargeCount.close (h : ChargeCount (some charge) snapshot closed peak last kms)
    (endMs : ℤ) :
    ChargeCount none (some (snapshotAfterCharge charge endMs false))
      (closed+charge.energyAdded.getD 0) peak last kms := by
  have hc := h.openCharge charge rfl
  refine ⟨(hc.added_le h.settled).1, ?_, ?_, fun c hx => absurd hx.symm (some_ne_none c)⟩
  · intro k hk
    cases hk
    exact ⟨rfl, rfl, hc.odometer⟩
  · intro _ k e hk he
    cases hk
    exact hc.reading e he

theorem ChargeCount.baseline (h : ChargeCount none snapshot closed peak last kms)
    (hkm : ∀ km ∈ kms, ∀ own, o.parsed.odometer = some own → own-km < kDminKm)
    (hchain : ∀ e c, last = some e → o.parsed.chargeEnergyAdded = some c → counterRestarted e c =
    false) :
    chargeEnergyBaseline snapshot o.parsed.chargeEnergyAdded o.parsed.odometer =
      (snapshot.bind (·.energyAddedKwh)).getD 0 := by
  unfold chargeEnergyBaseline
  cases hs : snapshot with
  | none => rfl
  | some k =>
    rw [bind_some]
    simp only
    cases he : k.energyAddedKwh with
    | none => rfl
    | some known =>
      obtain ⟨hafter, hplug, hodo⟩ := h.parked k hs
      have hlast := h.standing rfl k known hs he
      have hrestart : o.parsed.chargeEnergyAdded.any (counterRestarted known ·) = false := by
        cases hc : o.parsed.chargeEnergyAdded with
        | none => rfl
        | some c => exact hchain known c hlast hc
      have hmoved : (movementBetween k.odometerKm o.parsed.odometer == .moved) = false := by
        unfold movementBetween
        split
        · rename_i earlier later hk ho
          rw [if_neg (not_le.mpr (hkm earlier (hodo earlier hk) later ho))]
          rfl
        · rfl
      simp only [hrestart, hafter, hplug, hmoved, Bool.or_false, Bool.false_eq_true, if_false,
        getD_some]

theorem ChargeCount.opened (h : ChargeCount none snapshot closed peak last kms)
    (hpeak : peak ≤ (snapshot.bind (·.energyAddedKwh)).getD 0)
    (hown : ∀ own, o.parsed.odometer = some own → own ∈ kms)
    (hkm : ∀ km ∈ kms, ∀ own, o.parsed.odometer = some own → own-km < kDminKm)
    (hchain : ∀ e c, last = some e → o.parsed.chargeEnergyAdded = some c → counterRestarted e c =
    false) (hlast : ∀ e, last = some e → 0 ≤ e ∧ round2 e = e) (id start : ℤ)
    (opening : ChargeStart) :
    ChargeCount (some (openedCharge id start o opening snapshot)) snapshot closed peak last
    kms := by
  have hbase := h.baseline hkm hchain
  refine ⟨h.settled, h.parked, fun hx => absurd hx (some_ne_none _), ?_⟩
  intro c hc
  cases hc
  refine ⟨rfl, hown, fun e he => absurd he.symm (some_ne_none e),
    (snapshot.bind (·.energyAddedKwh)).getD 0, congrArg some hbase, ?_, ?_, h.settled.trans hpeak,
      ?_,
    fun m hm => absurd hm.symm (some_ne_none m)⟩
  · cases hs : snapshot.bind (·.energyAddedKwh) with
    | none => exact le_refl 0
    | some e =>
      obtain ⟨k, hk, he⟩ := bind_eq_some_iff.mp hs
      exact (hlast e (h.standing rfl k e hk he)).1
  · cases hs : snapshot.bind (·.energyAddedKwh) with
    | none =>
      have hzero := roundToPrecision_intCast 0 2
      rw [Int.cast_zero, zero_div] at hzero
      exact hzero
    | some e =>
      obtain ⟨k, hk, he⟩ := bind_eq_some_iff.mp hs
      exact (hlast e (h.standing rfl k e hk he)).2
  · intro _
    refine ⟨rfl, ?_⟩
    cases hs : snapshot.bind (·.energyAddedKwh) with
    | none => exact .inl rfl
    | some e =>
      obtain ⟨k, hk, he⟩ := bind_eq_some_iff.mp hs
      exact .inr (h.standing rfl k e hk he)

theorem OpenCount.refreshed (h : OpenCount charge closed peak last kms)
    (hown : ∀ own, o.parsed.odometer = some own → own ∈ kms) :
    OpenCount (refreshOdometer charge o) closed peak last kms := by
  unfold refreshOdometer
  split
  · exact ⟨h.carry, hown, h.reading, h.baseline⟩
  · exact h

theorem OpenCount.sampled (h : OpenCount charge closed peak last kms)
    (hs : ∀ c, o.parsed.chargeEnergyAdded = some c → 0 ≤ c ∧ round2 c = c)
    (hchain : ∀ e c, last = some e → o.parsed.chargeEnergyAdded = some c → counterRestarted e c =
    false) (hown : ∀ own, o.parsed.odometer = some own → own ∈ kms) :
    OpenCount (sampledCharge s charge o) closed
    ((o.parsed.chargeEnergyAdded.map (max peak)).getD peak) (o.parsed.chargeEnergyAdded.or last)
    kms := by
  refine OpenCount.refreshed ?_ hown
  refine OpenCount.congr ?_ (observeChargeSample_counter _ _)
  have hagg : OpenCount (observeChargeAggregate charge (sampleOf s charge o)) closed peak last
      kms :=
    h.congr ⟨rfl, rfl, rfl, rfl, rfl⟩
  have husable : usableEnergyCounter (sampleOf s charge o) = o.parsed.chargeEnergyAdded := by
    change o.parsed.chargeEnergyAdded.filter (0 ≤ ·) = o.parsed.chargeEnergyAdded
    cases hc : o.parsed.chargeEnergyAdded with
    | none => rfl
    | some c => exact filter_some_pos (decide_eq_true (hs c hc).1)
  rw [husable]
  cases hc : o.parsed.chargeEnergyAdded with
  | none => exact hagg
  | some c =>
    obtain ⟨hpos, hround⟩ := hs c hc
    exact hagg.fold hpos hround fun e he => hchain e c he hc

end

theorem closedEnergy_concat (rows : List ProjectionCharge) (row : ProjectionCharge) :
    closedEnergy (rows++[row]) = closedEnergy rows+row.chargeEnergyAdded.getD 0 := by
  have happend : (rows++[row]).filterMap (·.chargeEnergyAdded) =
      rows.filterMap (·.chargeEnergyAdded)++row.chargeEnergyAdded.toList := filterMap_append
  unfold closedEnergy
  rw [happend, sum_append]
  cases row.chargeEnergyAdded with
  | none => rfl
  | some e => exact congrArg (_+·) sum_singleton

theorem recorded_concat (samples : List ProjectionChargeSample) (sample : ProjectionChargeSample) :
    recorded (samples++[sample]) = recorded samples++sample.chargeEnergyAddedKwh.toList :=
  filterMap_append

theorem largest_recorded_concat (samples : List ProjectionChargeSample)
    (sample : ProjectionChargeSample) :
    largest (recorded (samples++[sample])) =
    (sample.chargeEnergyAddedKwh.map (max (largest (recorded samples)))).getD
    (largest (recorded samples)) := by
  rw [recorded_concat]
  cases sample.chargeEnergyAddedKwh with
  | none =>
    rw [toList_none, append_nil]
    rfl
  | some c => exact largest_concat _ c

structure CountBook (s : OpenSessionState) (rows : List ProjectionCharge)
    (samples : List ProjectionChargeSample) (readings : List ℚ) (last : Option ℚ) (kms : List ℚ) :
    Prop where
  book : ChargeBook s rows samples
  count : ChargeCount s.openCharge s.parkedSnapshot (closedEnergy rows) (largest (recorded samples))
    last
    kms
  sampled : ∀ c ∈ recorded samples, c ∈ readings

section

variable {rows : List ProjectionCharge} {samples : List ProjectionChargeSample} {readings : List ℚ}
  {last : Option ℚ} {kms : List ℚ}

theorem CountBook.of_same {t : OpenSessionState} (h : CountBook s rows samples readings last kms)
    (hopen : t.openCharge = s.openCharge) (hnext : t.ids.nextChargeId = s.ids.nextChargeId)
    (hparked : t.parkedSnapshot = s.parkedSnapshot) :
    CountBook t rows samples readings last kms := by
  refine ⟨h.book.of_same hopen hnext, ?_, h.sampled⟩
  rw [hopen, hparked]
  exact h.count

theorem CountBook.mono {readings' kms' : List ℚ} (h : CountBook s rows samples readings last kms)
    (hr : ∀ c ∈ readings, c ∈ readings') (hk : ∀ km ∈ kms, km ∈ kms') :
    CountBook s rows samples readings' last kms' := by
  refine ⟨h.book, ⟨h.count.settled, ?_, h.count.standing, ?_⟩, fun c hc => hr c (h.sampled c hc)⟩
  · intro k hs
    obtain ⟨hafter, hplug, hkm⟩ := h.count.parked k hs
    exact ⟨hafter, hplug, fun km he => hk km (hkm km he)⟩
  · intro c hc
    have ho := h.count.openCharge c hc
    exact ⟨ho.carry, fun km he => hk km (ho.odometer km he), ho.reading, ho.baseline⟩

theorem CountBook.close {endMs : ℤ}
    (h : CountBook s (rows++d.charges) (samples++d.openChargeSamples) readings last kms)
    (hc : s.openCharge = some charge)
    (hend : ∀ x ∈ samples++d.openChargeSamples, x.chargeProcessId = charge.id →
    x.timestampMs ≤ endMs) (hclose : closeOpenCharge s d endMs false = .ok (s', d')) :
    CountBook s' (rows++d'.charges) (samples++d'.openChargeSamples) readings last kms := by
  have hbook := h.book.close hc hend hclose
  obtain ⟨row, cs, hof, he⟩ := closeOpenCharge_eq (d := d) hc
  rw [he] at hclose
  cases hclose
  have hcount := h.count
  rw [hc] at hcount
  have hrow : row.chargeEnergyAdded = charge.energyAdded :=
    hof.chargeEnergyAdded_eq.trans ((hcount.openCharge charge rfl).row_eq hcount.settled)
  have hsamples : d.openChargeSamples++charge.samples = d.openChargeSamples := by
    rw [h.book.unbuffered charge hc, append_nil]
  refine ⟨hbook, ?_, ?_⟩
  · simp only [hsamples, ← append_assoc]
    rw [closedEnergy_concat, hrow]
    exact hcount.close _
  · simp only [hsamples]
    exact h.sampled

theorem chargeCloseStep_samples (hb : ∀ charge, s.openCharge = some charge → charge.samples = [])
    (h : chargeCloseStep s o d = .ok (s', d')) : d'.openChargeSamples = d.openChargeSamples := by
  rcases chargeCloseStep_cases h with ⟨-, rfl, -⟩ | ⟨charge, hopen, -, hclose⟩
  · rfl
  · obtain ⟨row, cs, -, he⟩ := closeOpenCharge_eq (d := d) hopen
    rw [he] at hclose
    cases hclose
    rw [hb charge hopen, append_nil]

/-- The close step keeps the books of the counter: the energy leaves with the row. -/
theorem CountBook.closeStep (h : CountBook s (rows++d.charges) (samples++d.openChargeSamples)
    readings last kms) (hc : chargeCloseStep s o d = .ok (s', d')) :
    CountBook s' (rows++d'.charges) (samples++d'.openChargeSamples) readings last kms := by
  rcases chargeCloseStep_cases hc with ⟨rfl, rfl, -⟩ | ⟨charge, hopen, -, hclose⟩
  · exact h
  · exact h.close hopen (h.book.samples_le_evidence hopen) hclose

structure NextReading (o : Observation) (last : Option ℚ) (kms : List ℚ) : Prop where
  sound : ∀ c, o.parsed.chargeEnergyAdded = some c → 0 ≤ c ∧ round2 c = c
  known : ∀ e, last = some e → 0 ≤ e ∧ round2 e = e
  chain : ∀ e c, last = some e → counterOf o = some c → counterRestarted e c = false
  own : ∀ km, o.parsed.odometer = some km → km ∈ kms
  unmoved : ∀ earlier ∈ kms, ∀ km, o.parsed.odometer = some km → km-earlier < kDminKm

theorem anchorsChargeSample_counter (h : anchorsChargeSample s o) :
    counterOf o = o.parsed.chargeEnergyAdded := by
  unfold anchorsChargeSample statesCharge at h
  simp only [Bool.and_eq_true] at h
  exact if_pos h.1.1.1

/-- So does the open step where no recorded sample is above the parked counter. -/
theorem CountBook.openStep (h : CountBook s rows samples readings last kms)
    (hn : NextReading o last kms)
    (hpeak : s' ≠ s → largest (recorded samples) ≤
    (s.parkedSnapshot.bind (·.energyAddedKwh)).getD 0) (ho : chargeOpenStep s o d = .ok s') :
    CountBook s' rows samples readings last kms := by
  by_cases hs : s' = s
  · rw [hs]
    exact h
  · have hbook := h.book.opened ho
    obtain he | ⟨hnone, -, -, ha, opening, -, rfl⟩ := chargeOpenStep_cases ho
    · exact absurd he hs
    · have hcount := h.count
      rw [hnone] at hcount
      refine ⟨hbook, hcount.opened (hpeak hs) hn.own hn.unmoved ?_ hn.known _ _ opening, h.sampled⟩
      rw [← anchorsChargeSample_counter ha]
      exact hn.chain

theorem CountBook.stored (h : CountBook s (rows++d.charges) (samples++d.openChargeSamples)
    readings last kms) (hn : NextReading o last kms)
    (hread : ∀ c, counterOf o = some c → c ∈ readings) (hc : s.openCharge = some charge)
    (ha : anchorsChargeSample s o) :
    CountBook (sampledState s charge o) (rows++(sampledDelta s charge o d).charges)
    (samples++(sampledDelta s charge o d).openChargeSamples) readings ((counterOf o).or last)
    kms := by
  have hcounter := anchorsChargeSample_counter ha
  have hcount := h.count
  rw [hc] at hcount
  have hchain := hn.chain
  rw [hcounter] at hread hchain ⊢
  have hopen := (hcount.openCharge charge rfl).sampled (s := s) hn.sound hchain hn.own
  refine ⟨h.book.sampled hc ha, ?_, ?_⟩
  · change ChargeCount (some (sampledCharge s charge o)) s.parkedSnapshot
      (closedEnergy (rows++d.charges))
      (largest (recorded (samples++(d.openChargeSamples++[sampleOf s charge o])))) _ kms
    rw [← append_assoc, largest_recorded_concat]
    refine ⟨hcount.settled.trans ?_, hcount.parked, fun hx => absurd hx (some_ne_none _), ?_⟩
    · change _ ≤ (o.parsed.chargeEnergyAdded.map _).getD _
      cases o.parsed.chargeEnergyAdded with
      | none => exact le_refl _
      | some c => exact le_max_left _ _
    · intro c hx
      cases hx
      exact hopen
  · intro c hx
    change c ∈ recorded (samples++(d.openChargeSamples++[sampleOf s charge o])) at hx
    rw [← append_assoc] at hx
    rw [recorded_concat] at hx
    rcases mem_append.mp hx with hx | hx
    · exact h.sampled c hx
    · exact hread c (mem_toList.mp hx)

/-- The sample step keeps the books, with the counter it reads as the last one. -/
theorem CountBook.sampleStep (h : CountBook s (rows++d.charges) (samples++d.openChargeSamples)
    readings last kms) (hn : NextReading o last kms)
    (hread : ∀ c, counterOf o = some c → c ∈ readings) (hplug : o.charge ≠ .disconnected)
    (hanchor : s.openCharge ≠ none → anchorsChargeSample s o = false → counterOf o = none)
    (hs : chargeSampleStep s o d = .ok (s', d')) :
    ∃ mid, (mid = last ∧ s'.openCharge = none ∨ mid = (counterOf o).or last) ∧
      CountBook s' (rows++d'.charges) (samples++d'.openChargeSamples) readings mid kms := by
  have hbook := h.book.sampleStep hs
  rcases chargeSampleStep_cases hs with ⟨hc, rfl, rfl⟩ | ⟨charge, hc, ha, rfl, rfl⟩ |
    ⟨charge, hc, ha, -, rfl, rfl⟩ | ⟨charge, hc, ha, -, hclose⟩
  · exact ⟨last, .inl ⟨rfl, hc⟩, h⟩
  · refine ⟨last, .inr ?_, hbook, ?_, h.sampled⟩
    · rw [hanchor (by rw [hc]; exact some_ne_none charge) ha]
      rfl
    · have hcount := h.count
      rw [hc] at hcount
      refine ⟨hcount.settled, hcount.parked, fun hx => absurd hx (some_ne_none _), ?_⟩
      intro c hx
      cases hx
      exact (hcount.openCharge charge rfl).refreshed hn.own
  · exact ⟨_, .inr rfl, h.stored hn hread hc ha⟩
  · have hstored := h.stored hn hread hc ha
    rw [beq_false_of_ne hplug] at hclose
    exact ⟨_, .inr rfl, hstored.close rfl hstored.book.samples_le_sampled hclose⟩

theorem refreshedSnapshot_counter (k : ParkedSnapshot) (o : Observation) :
    (refreshedSnapshot k o).energyAddedKwh = (counterOf o).or k.energyAddedKwh := by
  change (if o.fresh.chargeSession then o.parsed.chargeEnergyAdded.or k.energyAddedKwh
    else k.energyAddedKwh) = _
  unfold counterOf
  split
  · rfl
  · rfl

/-- The parked snapshot keeps the last counter read. -/
theorem CountBook.parkedStep {mid : Option ℚ} (h : CountBook s rows samples readings mid kms)
    (hmid : mid = last ∧ s.openCharge = none ∨ mid = (counterOf o).or last)
    (hown : ∀ km, o.parsed.odometer = some km → km ∈ kms) (hplug : o.charge ≠ .disconnected)
    (hdrive : s.openDrive = none) :
    CountBook (parkedSnapshotStep s o) rows samples readings ((counterOf o).or last) kms := by
  have hstale (hx : o.fresh.chargeSession = false) : (counterOf o).or last = last := by
    unfold counterOf
    rw [hx]
    rfl
  unfold parkedSnapshotStep
  simp only [hdrive, isSome_none, Bool.false_or]
  split
  · -- The snapshot stays: a charge is open and took the reading, or nothing is fresh.
    rename_i hskip
    rcases hmid with ⟨rfl, hc⟩ | rfl
    · rw [hc] at hskip
      simp only [isSome_none, Bool.false_or, Bool.not_eq_true', Bool.or_eq_false_iff] at hskip
      rw [hstale hskip.2]
      exact h
    · exact h
  · rename_i hskip
    have hc : s.openCharge = none := by
      simp only [Bool.or_eq_true, not_or, not_isSome_iff_eq_none] at hskip
      exact hskip.1
    obtain ⟨hafter, hplugged, hkm, henergy⟩ :
        (s.parkedSnapshot.getD { seenAtMs := i64Min }).afterDrive = false ∧
        (s.parkedSnapshot.getD { seenAtMs := i64Min }).unplugged = false ∧
        (∀ km, (s.parkedSnapshot.getD { seenAtMs := i64Min }).odometerKm = some km → km ∈ kms) ∧
        ∀ e, (s.parkedSnapshot.getD { seenAtMs := i64Min }).energyAddedKwh = some e →
          mid = some e := by
      cases hk : s.parkedSnapshot with
      | none => exact ⟨rfl, rfl, fun km hx => absurd hx.symm (some_ne_none km),
          fun e hx => absurd hx.symm (some_ne_none e)⟩
      | some k =>
        obtain ⟨ha, hp, hkm⟩ := h.count.parked k hk
        exact ⟨ha, hp, hkm, fun e he => h.count.standing hc k e hk he⟩
    refine ⟨h.book.of_same rfl rfl, ⟨h.count.settled, ?_, ?_, ?_⟩, h.sampled⟩
    · intro k hk
      cases hk
      refine ⟨hafter, ?_, ?_⟩
      · change (_ || (o.fresh.chargeSession && o.charge == .disconnected)) = false
        rw [hplugged, beq_false_of_ne hplug, Bool.and_false]
        rfl
      · intro km hx
        change (if o.fresh.odometer then o.parsed.odometer.or _ else _) = some km at hx
        split at hx
        · rcases or_eq_some_iff.mp hx with hx | ⟨-, hx⟩
          · exact hown km hx
          · exact hkm km hx
        · exact hkm km hx
    · intro _ k e hk he
      cases hk
      rw [refreshedSnapshot_counter] at he
      rcases or_eq_some_iff.mp he with he | ⟨hnone, he⟩
      · rw [he]
        rfl
      · rw [hnone] at hmid ⊢
        have hlast : mid = last := hmid.elim (·.1) id
        exact hlast.symm.trans (henergy e he)
    · intro c hx
      rw [hc] at hx
      cases hx

end

section

variable [Geodesy]

namespace PipelineTrace

variable (t : PipelineTrace s o d s' d')

theorem still (hd : s.openDrive = none) (hm : o.drive ≠ .motion) :
    t.driveClosed = t.facts ∧ t.driveOpened = t.statused ∧ t.driveOpened.openDrive = none ∧
      t.driveFolded = t.chargeOpened ∧ t.foldedDelta = t.closedDelta ∧ s'.openDrive = none := by
  have hfacts : t.facts.openDrive = none := t.facts_same.1.openDrive.trans hd
  obtain ⟨hdc, -⟩ := driveCloseStep_none hfacts t.driveClosed_eq
  have hopened : t.driveOpened = t.statused := by
    rcases driveOpenStep_cases t.driveOpened_eq with ⟨he, -⟩ | ⟨hx, -⟩
    · exact he
    · exact absurd hx hm
  have hnone : t.driveOpened.openDrive = none := by
    rw [hopened]
    apply t.statused_none
    rw [hdc]
    exact hfacts
  have hcharge : t.chargeOpened.openDrive = none := t.chargeOpened_drive.openDrive.trans hnone
  refine ⟨hdc, hopened, hnone, ?_⟩
  rcases driveFoldStep_cases t.driveFolded_eq with ⟨he, hde, -⟩ | ⟨-, drive, p, hx, -, -⟩
  · exact ⟨he, hde, t.final_openDrive_none hcharge⟩
  · rw [hcharge] at hx
    cases hx

theorem driveFolded_newest {m : ℤ} (hc : t.driveFolded.openCharge = some charge)
    (hm : charge.lastSampleTimestampMs = some m) : s.openCharge = some charge := by
  rw [t.driveFolded_charge.openCharge] at hc
  rcases chargeOpenStep_cases t.chargeOpened_eq with he | ⟨-, -, -, -, opening, -, he⟩
  · rw [he, t.driveOpened_charge.openCharge] at hc
    rcases chargeCloseStep_cases t.chargeClosed_eq with ⟨he, -, -⟩ | ⟨old, hopen, -, hclose⟩
    · rw [he, t.driveClosed_charge.openCharge] at hc
      exact hc
    · rw [closeOpenCharge_none hopen hclose] at hc
      cases hc
  · rw [he] at hc
    cases hc
    cases hm

theorem newest (t : PipelineTrace s o d s' d') {m : ℤ} (hc : s'.openCharge = some charge)
    (hm : charge.lastSampleTimestampMs = some m) :
    (∃ old, s.openCharge = some old ∧ old.lastSampleTimestampMs = some m) ∨ o.fresh.chargeSession ∧
    m = o.parsed.chargeTimestampMs := by
  rw [t.final_charge.openCharge] at hc
  rcases chargeSampleStep_cases t.chargeSampled_eq with ⟨hx, he, -⟩ | ⟨old, hx, -, he, -⟩ |
    ⟨old, hx, ha, -, he, -⟩ | ⟨old, hx, ha, -, hclose⟩
  · rw [he, hx] at hc
    cases hc
  · rw [he] at hc
    cases hc
    rw [(refreshOdometer_same old o).2] at hm
    exact .inl ⟨old, t.driveFolded_newest hx hm, hm⟩
  · rw [he] at hc
    cases hc
    rw [(sampledCharge_same t.driveFolded old o).2] at hm
    unfold anchorsChargeSample statesCharge at ha
    simp only [Bool.and_eq_true] at ha
    exact .inr ⟨ha.1.1.1, (some.inj hm).symm⟩
  · rw [closeOpenCharge_none rfl hclose] at hc
    cases hc

omit [Geodesy] in
theorem losesChargeEvidence_congr {a c : OpenSessionState} (hmode : a.serviceMode = c.serviceMode)
    (hmarks : a.marks = c.marks) (hcharge : a.openCharge = c.openCharge) :
    losesChargeEvidence a charge o = losesChargeEvidence c charge o := by
  unfold losesChargeEvidence anchorsChargeSample
  rw [hmode, hmarks, hcharge]

theorem parked_of_closed (hd : s.openDrive = none) (hm : o.drive ≠ .motion)
    (hc : t.driveOpened.openCharge = none) :
    (∀ charge, s.openCharge = some charge → losesChargeEvidence t.facts charge o) ∧
      t.driveOpened.parkedSnapshot = openingSnapshot s := by
  obtain ⟨hdc, hopened, -⟩ := t.still hd hm
  rw [t.driveOpened_charge.openCharge] at hc
  rw [hopened, t.statused_parked]
  unfold openingSnapshot
  have hfacts := t.facts_same.2.1.openCharge
  rcases chargeCloseStep_cases t.chargeClosed_eq with ⟨he, -, -⟩ | ⟨charge, hopen, hl, hclose⟩
  · rw [he, hdc] at hc ⊢
    rw [← hfacts, hc]
    exact ⟨fun charge hx => absurd hx.symm (some_ne_none charge), t.facts_parked⟩
  · obtain ⟨row, cs, -, he⟩ := closeOpenCharge_eq (d := t.driveClosedDelta) hopen
    rw [hclose] at he
    rw [hdc] at hl hopen
    rw [← hfacts, hopen]
    refine ⟨fun charge' hx => some.inj hx ▸ hl, ?_⟩
    exact congrArg (fun p => p.1.parkedSnapshot) (Except.ok.inj he)

theorem opens_charge {s₀ : OpenSessionState} {m : PositionMemory}
    (t : PipelineTrace { s₀ with lastPosition := m } o d s' d') (hd : s₀.openDrive = none)
    (hm : o.drive ≠ .motion) (hopen : t.chargeOpened ≠ t.driveOpened) :
    opensCharge s₀ o ∧ t.driveOpened.parkedSnapshot = openingSnapshot s₀ := by
  obtain he | ⟨hc, -, hne, ha, opening, hstart, -⟩ := chargeOpenStep_cases t.chargeOpened_eq
  · exact absurd he hopen
  · obtain ⟨hloses, hparked⟩ := t.parked_of_closed hd hm hc
    have hmode : t.facts.serviceMode = (applyServiceMode s₀ o).serviceMode :=
      t.facts_same.2.2.2.2.2.2.trans (applyServiceMode_merge s₀ o m)
    have hmarks : t.facts.marks = s₀.marks := t.facts_same.2.2.1
    have hcharge : t.facts.openCharge = s₀.openCharge := t.facts_same.2.1.openCharge
    refine ⟨?_, hparked⟩
    unfold opensCharge
    have hall : s₀.openCharge.all (losesChargeEvidence (applyServiceMode s₀ o) · o) := by
      obtain ⟨mode, r, hf⟩ := applyServiceMode_frame s₀ o
      have hm' : (applyServiceMode s₀ o).marks = s₀.marks := by rw [hf]
      have hc' : (applyServiceMode s₀ o).openCharge = s₀.openCharge := by rw [hf]
      cases hx : s₀.openCharge with
      | none => rfl
      | some charge =>
        rw [all_some, losesChargeEvidence_congr hmode.symm (hm'.trans hmarks.symm)
          (hc'.trans hcharge.symm)]
        exact hloses charge hx
    have hserve : ((applyServiceMode s₀ o).serviceMode != some true) := by
      rw [← hmode, ← t.driveOpened_steady.serviceMode]
      exact bne_iff_ne.mpr hne
    have hanchor : anchorsChargeSample { s₀ with openCharge := none } o := by
      rw [← ha]
      unfold anchorsChargeSample
      rw [t.driveOpened_steady.marks, hmarks, hc]
    have hsome : (chargeStart (openingSnapshot s₀) o).isSome := by
      have hx : openingSnapshot { s₀ with lastPosition := m } = openingSnapshot s₀ := rfl
      rw [← hx, ← hparked, hstart]
      rfl
    rw [hall, hserve, hanchor, hsome]
    rfl

end PipelineTrace

section

variable {rows : List ProjectionCharge} {samples : List ProjectionChargeSample} {readings : List ℚ}
  {last : Option ℚ} {kms : List ℚ}

omit [Geodesy] in
theorem counterOf_anchors (himport : s.marks.importedChargeWatermarkMs = none)
    (hfresh : o.fresh.chargeSession → laterThan o.parsed.chargeTimestampMs
    s.marks.lastChargeTimestampMs)
    (hreach : ∀ charge m, s.openCharge = some charge → charge.lastSampleTimestampMs = some m →
    Reached s.marks.lastChargeTimestampMs m) (ha : anchorsChargeSample s o = false) :
    counterOf o = none := by
  by_contra hne
  obtain ⟨c, hc⟩ := ne_none_iff_exists'.mp hne
  obtain ⟨hsession, hcounter⟩ : o.fresh.chargeSession ∧ o.parsed.chargeEnergyAdded = some c := by
    unfold counterOf at hc
    split at hc
    · rename_i hx
      exact ⟨hx, hc⟩
    · cases hc
  have hlater : laterThan o.parsed.chargeTimestampMs (s.openCharge.bind (·.lastSampleTimestampMs)) =
      true := by
    rw [laterThan_iff]
    intro m hm
    obtain ⟨charge, hcharge, hx⟩ := bind_eq_some_iff.mp hm
    exact (hreach charge m hcharge hx).lt (hfresh hsession)
  unfold anchorsChargeSample statesCharge at ha
  simp only [hsession, hcounter, himport, hlater, isSome_some, Bool.or_true, Bool.and_true] at ha
  cases ha

theorem CountBook.passed {m : PositionMemory} (h : CountBook s rows samples readings last kms)
    (t : PipelineTrace { s with lastPosition := m } o {} s' d) (hd : s.openDrive = none)
    (hm : o.drive ≠ .motion) (hplug : o.charge ≠ .disconnected) (hn : NextReading o last kms)
    (hread : ∀ c, counterOf o = some c → c ∈ readings)
    (himport : s.marks.importedChargeWatermarkMs = none) (hfresh : FreshAt s.marks o)
    (hreach : ∀ charge m, s.openCharge = some charge → charge.lastSampleTimestampMs = some m →
      Reached s.marks.lastChargeTimestampMs m)
    (honward : opensCharge s o → largest (recorded samples) ≤
      ((openingSnapshot s).bind (·.energyAddedKwh)).getD 0) :
    CountBook s' (rows++d.charges) (samples++d.openChargeSamples) readings ((counterOf o).or last)
      kms := by
  obtain ⟨hdc, hopened, hdo, hdf, hfd, hnone⟩ := t.still hd hm
  have hstart : CountBook t.driveClosed (rows++t.driveClosedDelta.charges)
      (samples++t.driveClosedDelta.openChargeSamples) readings last kms := by
    have hsame := t.driveClosed_charge
    rw [hsame.charges, hsame.samples, append_nil, append_nil]
    refine h.of_same hsame.openCharge hsame.nextChargeId ?_
    rw [hdc]
    exact t.facts_parked
  have hclosed := hstart.closeStep t.chargeClosed_eq
  have hdrive : CountBook t.driveOpened (rows++t.closedDelta.charges)
      (samples++t.closedDelta.openChargeSamples) readings last kms := by
    refine hclosed.of_same t.driveOpened_charge.openCharge t.driveOpened_charge.nextChargeId ?_
    rw [hopened]
    exact t.statused_parked
  have hpeak : t.chargeOpened ≠ t.driveOpened →
        largest (recorded (samples++t.closedDelta.openChargeSamples)) ≤
        (t.driveOpened.parkedSnapshot.bind (·.energyAddedKwh)).getD 0 := by
    intro hne
    obtain ⟨hopens, hparked⟩ := t.opens_charge hd hm hne
    have hbuffer : ∀ charge, t.driveClosed.openCharge = some charge → charge.samples = [] :=
      hstart.book.unbuffered
    rw [chargeCloseStep_samples hbuffer t.chargeClosed_eq, t.driveClosed_charge.samples, append_nil,
      hparked]
    exact honward hopens
  have hcharge := hdrive.openStep hn hpeak t.chargeOpened_eq
  rw [← hdf, ← hfd] at hcharge
  have hmarks : t.driveFolded.marks = s.marks := t.driveFolded_steady.marks.trans t.facts_same.2.2.1
  have hanchor : anchorsChargeSample t.driveFolded o = false → counterOf o = none := by
    apply counterOf_anchors
    · rw [hmarks]
      exact himport
    · rw [hmarks]
      exact hfresh.chargeSession
    · intro charge m hc hx
      rw [hmarks]
      exact hreach charge m (t.driveFolded_newest hc hx) hx
  obtain ⟨mid, hmid, hsampled⟩ := hcharge.sampleStep hn hread hplug (fun _ => hanchor)
      t.chargeSampled_eq
  obtain ⟨n, st, la, lo, ps, hst, -, -⟩ := standalonePositionStep_frame t.standalone_eq
  have hstand : CountBook t.standalone (rows++t.sampledDelta.charges)
      (samples++t.sampledDelta.openChargeSamples) readings mid kms := by
    rw [hst]
    exact hsampled.of_same rfl rfl rfl
  have hmid' : mid = last ∧ t.standalone.openCharge = none ∨ mid = (counterOf o).or last := by
    rw [hst]
    exact hmid
  have hdrive' : t.standalone.openDrive = none := by
    have hsame := (chargeSampleStep_steady t.chargeSampled_eq).2.trans
      (standalonePositionStep_steady t.standalone_eq).2.1
    rw [hsame.openDrive, hdf, t.chargeOpened_drive.openDrive]
    exact hdo
  have hparked := hstand.parkedStep hmid' hn.own hplug hdrive'
  obtain ⟨n', i, ss, hphase, -⟩ := phaseStep_frame t.final_eq
  rw [t.final_charge.charges, t.final_charge.samples]
  exact hparked.of_same (congrArg (·.openCharge) hphase) (congrArg (·.ids.nextChargeId) hphase)
    (congrArg (·.parkedSnapshot) hphase)

end

omit [Geodesy] in
theorem counters_concat (g : List Observation) (o : Observation) :
    counters (g++[o]) = counters g++(counterOf o).toList :=
  filterMap_append

omit [Geodesy] in
theorem odometers_concat (g : List Observation) (o : Observation) :
    odometers (g++[o]) = odometers g++o.parsed.odometer.toList :=
  filterMap_append

omit [Geodesy] in
theorem counters_getLast (g : List Observation) (o : Observation) :
    (counters (g++[o])).getLast? = (counterOf o).or (counters g).getLast? := by
  rw [counters_concat]
  cases counterOf o with
  | none => rw [toList_none, append_nil]; rfl
  | some c => exact getLast?_concat

variable {g : List Observation}

omit [Geodesy] in
theorem PlainSession.before {o : Observation} (h : PlainSession (g++[o])) : PlainSession g := by
  have hkm := h.unmoved
  have hcounters := h.unrestarted
  rw [odometers_concat] at hkm
  rw [counters_concat] at hcounters
  exact ⟨fun a ha => h.still a (mem_append_left _ ha),
    fun a ha => h.plugged a (mem_append_left _ ha), (pairwise_append.mp hkm).1,
      (isChain_append.mp hcounters).1⟩

omit [Geodesy] in
theorem PlainSession.next {o : Observation} (h : PlainSession (g++[o])) (hs : o.parsed.Sound)
    (hknown : ∀ c ∈ counters g, 0 ≤ c ∧ round2 c = c) :
    NextReading o (counters g).getLast? (odometers (g++[o])) := by
  have hkm := h.unmoved
  have hcounters := h.unrestarted
  rw [odometers_concat] at hkm ⊢
  rw [counters_concat] at hcounters
  obtain ⟨-, -, hpair⟩ := pairwise_append.mp hkm
  obtain ⟨-, -, hchain⟩ := isChain_append.mp hcounters
  refine ⟨fun c hc => ⟨hs.energy_nonneg c hc, hs.energy_rounded c hc⟩,
    fun e he => hknown e (mem_of_getLast? he), ?_, ?_, ?_⟩
  · intro e c he hc
    rw [hc] at hchain
    exact hchain e he c rfl
  · intro km hx
    rw [hx]
    exact mem_append_right _ (mem_singleton.mpr rfl)
  · intro earlier hearlier km hx
    rw [hx] at hearlier hpair
    rcases mem_concat.mp hearlier with hmem | rfl
    · exact hpair earlier hmem km (mem_singleton.mpr rfl)
    · rw [sub_self]
      norm_num [kDminKm]

structure EnergyBook (s : OpenSessionState) (total : LifecycleDelta) (g : List Observation) :
    Prop where
  counts : CountBook s total.charges total.openChargeSamples (counters g) (counters g).getLast?
    (odometers g)
  noDrive : s.openDrive = none
  known : ∀ c ∈ counters g, 0 ≤ c ∧ round2 c = c
  reached : ∀ charge m, s.openCharge = some charge → charge.lastSampleTimestampMs = some m →
    Reached s.marks.lastChargeTimestampMs m

omit [Geodesy] in
theorem chargeMark_advance (marks : Watermarks) (o : Observation) {a : ℤ}
    (h : Reached marks.lastChargeTimestampMs a ∨ o.fresh.chargeSession ∧
    a ≤ o.parsed.chargeTimestampMs) : Reached (advanceMarks marks o).lastChargeTimestampMs a := by
  change Reached (if o.fresh.chargeSession then raise marks.lastChargeTimestampMs
    o.parsed.chargeTimestampMs else marks.lastChargeTimestampMs) a
  rcases h with h | ⟨hm, h⟩
  · split
    · exact reached_raise (.inl h)
    · exact h
  · rw [if_pos hm]
    exact reached_raise (.inr h)

theorem Observed.energyBook (ho : Observed carId T s x o s' d) (hl : LiveState s)
    (h : EnergyBook s total g) (hp : PlainSession (g++[o])) (hon : countsOnward carId T s total x) :
    EnergyBook s' (mergeStepDelta total d) (g++[o]) := by
  obtain ⟨s₁, ⟨t⟩, rfl⟩ := ho.passed
  have hstill : o.drive ≠ .motion := hp.still o (mem_append_right _ mem_cons_self)
  have hplug : o.charge ≠ .disconnected := hp.plugged o (mem_append_right _ mem_cons_self)
  have hn := hp.next ho.sound.parsed h.known
  have hread : ∀ c, counterOf o = some c → c ∈ counters (g++[o]) := by
    intro c hc
    rw [counters_concat, hc]
    exact mem_append_right _ mem_cons_self
  have honward (hopens : opensCharge s o) : largest (recorded total.openChargeSamples) ≤
      ((openingSnapshot s).bind (·.energyAddedKwh)).getD 0 := by
    unfold countsOnward at hon
    rw [ho.delivered, all_some, hopens, Bool.not_true, Bool.false_or] at hon
    exact of_decide_eq_true hon
  have hbefore : CountBook s total.charges total.openChargeSamples (counters (g++[o]))
      (counters g).getLast? (odometers (g++[o])) := by
    rw [counters_concat, odometers_concat]
    exact h.counts.mono (fun c hc => mem_append_left _ hc) fun km hk => mem_append_left _ hk
  have hpass := hbefore.passed t h.noDrive hstill hplug hn hread hl.noChargeMark ho.fresh h.reached
      honward
  rw [← counters_getLast] at hpass
  refine ⟨hpass.of_same rfl rfl rfl, (t.still h.noDrive hstill).2.2.2.2.2, ?_, ?_⟩
  · intro c hc
    rw [counters_concat] at hc
    rcases mem_append.mp hc with hc | hc
    · exact h.known c hc
    · apply hn.sound c
      have hx := mem_toList.mp hc
      unfold counterOf at hx
      split at hx
      · exact hx
      · cases hx
  · intro charge m hc hm
    have hmarks : s₁.marks = s.marks := t.final_steady.marks.trans t.facts_same.2.2.1
    change Reached (advanceMarks s₁.marks o).lastChargeTimestampMs m
    rw [hmarks]
    apply chargeMark_advance
    rcases t.newest hc hm with ⟨old, hold, hx⟩ | ⟨hf, hx⟩
    · exact .inl (h.reached old m hold hx)
    · exact .inr ⟨hf, hx.le⟩

omit [Geodesy] in
theorem EnergyBook.new : EnergyBook .new {} [] := by
  have hnone {α : Type} {a : α} : (none : Option α) ≠ some a := (some_ne_none a).symm
  refine ⟨⟨Accounted.new.charges, ⟨le_refl 0, fun k hk => absurd hk hnone, fun _ k e hk _ =>
    absurd hk hnone, fun c hc => absurd hc hnone⟩, fun c hc => absurd hc not_mem_nil⟩, rfl,
    fun c hc => absurd hc not_mem_nil, fun charge m hc _ => absurd hc hnone⟩

/-- The charges of a plain session together add at most the largest counter observed. -/
theorem session_energy_bounded {xs : List LifecycleSample} {b : LifecycleStep}
    (hplain : PlainSession (observed carId T xs))
    (hmeet : StepsMeet (batchStep carId T) (fun b x => countsOnward carId T b.state b.delta x =
      true)
      { state := .new, delta := {}, quarantined := false } xs)
    (hrun : applySamplesWith .new carId xs T = .ok b) :
    totalEnergy b ≤ largest (counters (observed carId T xs)) := by
  have hbook : PlainSession (observed carId T xs) → EnergyBook b.state b.delta
      (observed carId T xs) := by
    refine applySamplesWith_history (I := fun s total g => PlainSession g → EnergyBook s total g)
      (C := fun s total x => countsOnward carId T s total x = true) ?_ ?_ ?_
        (fun _ => EnergyBook.new)
      hmeet hrun
    · intro s x s' g hnone
      unfold nextObserved
      rw [hnone, toList_none, append_nil]
    · intro s total g n h hp
      obtain ⟨hc, hd, hk, hr⟩ := h hp
      exact ⟨hc.of_same rfl rfl rfl, hd, hk, hr⟩
    · intro s x o s' d total g hl h hC ho hp
      unfold nextObserved at hp ⊢
      rw [ho.delivered] at hp ⊢
      exact ho.energyBook hl (h hp.before) hp hC
  obtain ⟨hcounts, -, -, -⟩ := hbook hplain
  have hcount := hcounts.count
  calc totalEnergy b ≤ largest (recorded b.delta.openChargeSamples) := by
        unfold totalEnergy
        cases hc : b.state.openCharge with
        | none =>
          rw [bind_none, getD_none, add_zero]
          exact hcount.settled
        | some charge => exact ((hcount.openCharge charge hc).added_le hcount.settled).1
    _ ≤ largest (counters (observed carId T xs)) := largest_le_of_subset hcounts.sampled

def chargingSample (id atMs : ℤ) (state : String) (counter : Option ℚ) : LifecycleSample :=
  vehicleDataSample id atMs [("charge_state", .object (("charging_state", .string state) ::
    counter.toList.map fun c => ("charge_energy_added", .number c)))]

omit [Geodesy] in
/-- The charge is interrupted and resumed, the counter readings in order. -/
theorem session_energy_bounded_resumed :
    ∃ b, @applySamplesWith flatGeodesy .new 1 [chargingSample 1 100 "Charging" (some 5),
    chargingSample 2 200 "Complete" (some 6), chargingSample 3 300 "Charging" (some 6),
    chargingSample 4 400 "Charging" (some 8)] defaultOfflineDriveTimeoutMs = .ok b ∧
    b.delta.charges.length = 1 ∧ b.state.openCharge.isSome = true ∧ totalEnergy b = 8 ∧
    totalEnergy b ≤ largest (counters (@observed flatGeodesy 1 defaultOfflineDriveTimeoutMs
    [chargingSample 1 100 "Charging" (some 5), chargingSample 2 200 "Complete" (some 6),
    chargingSample 3 300 "Charging" (some 6), chargingSample 4 400 "Charging" (some 8)])) := by
  have hok : (@applySamplesWith flatGeodesy .new 1 [chargingSample 1 100 "Charging" (some 5),
        chargingSample 2 200 "Complete" (some 6), chargingSample 3 300 "Charging" (some 6),
        chargingSample 4 400 "Charging" (some 8)] defaultOfflineDriveTimeoutMs).toOption.any
      (fun b => b.delta.charges.length = 1 ∧ b.state.openCharge.isSome = true ∧ totalEnergy b = 8) =
      true := by decide +kernel
  obtain ⟨b, hb, hcheck⟩ := exists_ok_of_any hok
  obtain ⟨hrows, hopen, htotal⟩ := of_decide_eq_true hcheck
  refine ⟨b, hb, hrows, hopen, htotal, @session_energy_bounded _ _ flatGeodesy _ _ ?_ ?_ hb⟩
  · exact ⟨by decide +kernel, by decide +kernel, by decide +kernel, by decide +kernel⟩
  · decide +kernel

def counterlessCharge : List LifecycleSample :=
  [chargingSample 1 100 "Charging" (some 5), chargingSample 2 200 "Complete" none,
    chargingSample 3 300 "Charging" none, chargingSample 4 400 "Complete" none,
    chargingSample 5 500 "Charging" (some 5)]

omit [Geodesy] in
/-- The charge without a counter leaves a snapshot that has forgotten it, so the last charge counts
the same five kilowatt hours again. -/
theorem counterless_charge_counts_twice :
    ∃ b, @applySamplesWith flatGeodesy .new 1 counterlessCharge defaultOfflineDriveTimeoutMs =
    .ok b ∧ PlainSession (@observed flatGeodesy 1 defaultOfflineDriveTimeoutMs counterlessCharge) ∧
    largest (counters (@observed flatGeodesy 1 defaultOfflineDriveTimeoutMs counterlessCharge)) =
    5 ∧ totalEnergy b = 10 := by
  have hok : (@applySamplesWith flatGeodesy .new 1 counterlessCharge
      defaultOfflineDriveTimeoutMs).toOption.any (fun b => totalEnergy b = 10) := by
    decide +kernel
  obtain ⟨b, hb, hcheck⟩ := exists_ok_of_any hok
  refine ⟨b, hb, ?_, by decide +kernel, of_decide_eq_true hcheck⟩
  exact ⟨by decide +kernel, by decide +kernel, by decide +kernel, by decide +kernel⟩

/-- A dip within the tolerance just before the close: the snapshot has the last counter, not the
largest one. -/
example : (@applySamplesWith flatGeodesy .new 1 [chargingSample 1 100 "Charging" (some 0),
    chargingSample 2 200 "Charging" (some 10), chargingSample 3 300 "Complete" (some (199/20)),
    chargingSample 4 400 "Charging" (some (101/10))] defaultOfflineDriveTimeoutMs).toOption.any
    (fun b => totalEnergy b = 203/20) := by decide +kernel

end

end TeslatlasHub.Lifecycle
