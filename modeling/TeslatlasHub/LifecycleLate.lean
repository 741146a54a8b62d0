import TeslatlasHub.LifecycleAsleep

namespace TeslatlasHub.Lifecycle

open FixedWidth RunRules Option

variable {s s' : OpenSessionState} {o : Observation} {d d' : LifecycleDelta} {p : ParsedSample}

/-- A vehicle-data record that is late in every respect: each family it carries is dated at or
before that family's watermark, and it was observed before the newest observation. -/
structure Late (s : OpenSessionState) (p : ParsedSample) : Prop where
  vehicleData : p.kind.hasVehicleData
  motion : p.carried.motion → s.marks.lastDriveTimestampMs.any (p.driveTimestampMs ≤ ·)
  position : p.carried.position →
    (s.marks.lastPositionFactMs.or s.marks.lastDriveTimestampMs).any (p.driveTimestampMs ≤ ·)
  battery : p.carried.battery →
    (s.marks.lastBatteryFactMs.or s.marks.lastChargeTimestampMs).any (p.chargeTimestampMs ≤ ·)
  chargeSession : p.carried.chargeSession →
    s.marks.lastChargeTimestampMs.any (p.chargeTimestampMs ≤ ·)
  climate : p.carried.climate →
    s.marks.lastClimateFactMs.any (p.climateTimestampMs ≤ ·)
  odometer : p.carried.odometer →
    (s.marks.lastOdometerFactMs.or s.marks.lastVehicleTimestampMs).any (p.vehicleTimestampMs ≤ ·)
  vehicleStatus : p.carried.vehicleStatus →
    s.marks.lastVehicleTimestampMs.any (p.vehicleTimestampMs ≤ ·)
  observed : s.marks.lastObservedAtMs.any (p.observedAtMs < ·)

instance (s : OpenSessionState) (p : ParsedSample) : Decidable (Late s p) :=
  decidable_of_iff (_ ∧ _ ∧ _ ∧ _ ∧ _ ∧ _ ∧ _ ∧ _ ∧ _)
    ⟨fun ⟨a, b, c, d, e, f, g, h, i⟩ => ⟨a, b, c, d, e, f, g, h, i⟩,
      fun h => ⟨h.vehicleData, h.motion, h.position, h.battery, h.chargeSession, h.climate,
        h.odometer, h.vehicleStatus, h.observed⟩⟩

structure Inert (o : Observation) : Prop where
  fresh : o.fresh = {}
  reach : o.reach = none
  event : o.event = none
  drive : o.drive = .noInfo
  charge : o.charge = .none
  status : o.status = .noInfo

theorem Late.observed_lt (h : Late s p) :
    ∃ m, s.marks.lastObservedAtMs = some m ∧ p.observedAtMs < m := by
  obtain ⟨m, hm, hlt⟩ := (any_eq_true _ _).mp h.observed
  exact ⟨m, hm, of_decide_eq_true hlt⟩

theorem freshFamilies_late (h : Late s p) : freshFamilies s p = {} := by
  have hstale {c g : Bool} {w : Option ℤ} {t : ℤ} (hc : c → w.any (t ≤ ·)) :
      (c && g && laterThan t w) = false := by
    cases c with
    | false => rfl
    | true =>
      obtain ⟨m, rfl, hle⟩ := (any_eq_true _ _).mp (hc rfl)
      have hle := of_decide_eq_true hle
      have hn : laterThan t (some m) = false := decide_eq_false (by omega)
      rw [hn, Bool.and_false]
  have hstale' {c : Bool} {w : Option ℤ} {t : ℤ} (hc : c → w.any (t ≤ ·)) :
      (c && laterThan t w) = false := by
    have hs := hstale (g := true) hc
    rwa [Bool.and_true] at hs
  unfold freshFamilies
  simp only [hstale h.motion, hstale h.position, hstale' h.battery, hstale h.chargeSession,
    hstale' h.climate, hstale' h.odometer, hstale' h.vehicleStatus]

theorem acceptedReach_late {env : String} {f : Families} (h : Late s p) :
    acceptedReach s p env f = none := by
  by_contra hne
  obtain ⟨m, hm, hlt⟩ := h.observed_lt
  have hold := acceptedReach_notOlder hne
  rw [hm, all_some, decide_eq_true_eq] at hold
  omega

theorem observe_late (carId tGapMs : ℤ) (env : String) (hs : p.Sound) (h : Late s p) :
    (observe s carId tGapMs env p).1 = s ∧ Inert (observe s carId tGapMs env p).2 := by
  have hfresh := freshFamilies_late h
  have hreach : acceptedReach { s with lastPosition := carryForwardMemory s.lastPosition p {} }
      (carryForwardRow s.lastPosition p) env {} = none :=
    acceptedReach_late ⟨h.vehicleData, h.motion, h.position, h.battery, h.chargeSession, h.climate,
      h.odometer, h.vehicleStatus, h.observed⟩
  have hevent : p.hubEvent = none := by
    by_contra hne
    have hv := h.vehicleData
    rw [hs.hubEvent_of_event hne] at hv
    cases hv
  unfold observe
  simp only [hfresh, carryForward, hreach]
  exact ⟨rfl, rfl, rfl, hevent, rfl, rfl, rfl⟩

theorem applyServiceMode_inert (h : Inert o) : applyServiceMode s o = s := by
  have hany : Families.any {} = false := rfl
  unfold applyServiceMode
  simp only [h.event, reduceCtorEq, if_false, h.fresh, Bool.false_and, Bool.false_eq_true,
    and_false, hany]
  cases o.parsed.serviceMode with
  | none => rfl
  | some stated => rfl

theorem applyVersionFacts_inert (h : Inert o) : applyVersionFacts s o d = .ok (s, d) := by
  unfold applyVersionFacts
  simp only [h.fresh, Bool.not_false, or_true, if_true]

theorem hasFreshDriveFacts_inert (h : Inert o) : hasFreshDriveFacts o = false := by
  unfold hasFreshDriveFacts
  rw [h.fresh]
  rfl

theorem anchorsChargeSample_inert (h : Inert o) : anchorsChargeSample s o = false := by
  unfold anchorsChargeSample statesCharge
  rw [h.fresh]
  rfl

theorem losesChargeEvidence_inert {charge : OpenCharge} (h : Inert o)
    (hs : s.serviceMode ≠ some true) : losesChargeEvidence s charge o = false := by
  unfold losesChargeEvidence
  have hb : (s.serviceMode == some true) = false := beq_eq_false_iff_ne.mpr hs
  simp only [h.reach, h.drive, hb, anchorsChargeSample_inert h, Bool.false_and, Bool.or_false]
  decide

variable {drive : OpenDrive} {xs : List LifecycleSample} {b : LifecycleStep}

theorem losesDriveEvidence_inert (h : Inert o) (hs : s.serviceMode ≠ some true) :
    losesDriveEvidence s drive o = decide (o.tGapMs < saturatingSub o.tObs
    drive.effectiveLastFoldedMs) := by
  unfold losesDriveEvidence
  have hb : (s.serviceMode == some true) = false := beq_eq_false_iff_ne.mpr hs
  simp only [h.reach, h.event, hb, hasFreshDriveFacts_inert h, Bool.false_and, Bool.or_false,
    Bool.not_false, Bool.true_and]
  have hreach : (none == some Reach.asleep) = false := rfl
  have hevent : (none == some HubEventKind.noData) = false := rfl
  rw [hreach, hevent, Bool.false_or, Bool.or_false]

theorem chargeCloseStep_inert (h : Inert o)
    (hs : ∀ charge, s.openCharge = some charge → s.serviceMode ≠ some true) :
    chargeCloseStep s o d = .ok (s, d) := by
  unfold chargeCloseStep
  cases hc : s.openCharge with
  | none => rfl
  | some charge =>
    simp only
    rw [losesChargeEvidence_inert h (hs charge hc), if_neg Bool.false_ne_true]

theorem openSteps_inert (h : Inert o) :
    applyUpdateStatus (markOffline s o) o = .ok s ∧ driveOpenStep s o d = .ok s ∧
    chargeOpenStep s o d = .ok s := by
  have hmark : markOffline s o = s := by
    unfold markOffline
    rw [h.reach]
    rfl
  refine ⟨?_, ?_, ?_⟩
  · rw [hmark]
    unfold applyUpdateStatus
    simp only [h.drive, reduceCtorEq, false_and, if_false, h.status]
  · unfold driveOpenStep
    rw [if_pos (.inl (by rw [h.drive]; decide))]
  · unfold chargeOpenStep
    simp only [anchorsChargeSample_inert h, Bool.not_false, Bool.or_true, if_true]

theorem chargeSampleStep_inert (h : Inert o) : chargeSampleStep s o d = .ok (s, d) := by
  unfold chargeSampleStep
  cases hc : s.openCharge with
  | none => rfl
  | some charge =>
    have hr : refreshOdometer charge o = charge := by
      unfold refreshOdometer
      rw [h.fresh]
      rfl
    simp only [anchorsChargeSample_inert h, Bool.false_eq_true, if_false, hr]
    rw [← hc]

theorem parkedSnapshotStep_inert (h : Inert o) : parkedSnapshotStep s o = s := by
  unfold parkedSnapshotStep
  simp only [h.fresh, Bool.or_self, Bool.not_false, Bool.or_true, if_true]

theorem phaseStep_inert (h : Inert o) (hp : derivePhase s o = s.phase) :
    phaseStep s o d = .ok (s, d) := by
  unfold phaseStep
  simp only [h.reach, hp, isSome_none, Bool.false_eq_true, if_false]

theorem fromText_asStr (r : Reach) : Reach.fromText r.asStr = some r := by
  cases r <;> decide

def Settled (s : OpenSessionState) : Prop := ∀ o, o.reach = none → derivePhase s o = s.phase

theorem derivePhase_settled {pre : OpenSessionState} {o' : Observation}
    (hr : o'.reach.or (s.lastReach.bind Reach.fromText) = o.reach.or
    (pre.lastReach.bind Reach.fromText)) (hd : s.openDrive = pre.openDrive)
    (hu : s.openUpdate = pre.openUpdate) (hc : s.openCharge = pre.openCharge)
    (hp : s.phase = derivePhase pre o) : derivePhase s o' = s.phase := by
  -- Only the fallback branch reads the old phase, and reading it twice changes nothing.
  have hfall {r : Option Reach}
      (hp : s.phase = if pre.openDrive.isSome then VehiclePhase.driving
        else if pre.openUpdate.isSome then .updating
        else if pre.openCharge.isSome then .charging
        else if r = some .online then .online else pre.phase.effective) :
      (if pre.openDrive.isSome then VehiclePhase.driving
        else if pre.openUpdate.isSome then .updating
        else if pre.openCharge.isSome then .charging
        else if r = some .online then .online else s.phase.effective) = s.phase := by
    rw [hp]
    by_cases h1 : pre.openDrive.isSome
    · rw [if_pos h1, if_pos h1]
    · by_cases h2 : pre.openUpdate.isSome
      · rw [if_neg h1, if_neg h1, if_pos h2, if_pos h2]
      · by_cases h3 : pre.openCharge.isSome
        · rw [if_neg h1, if_neg h1, if_neg h2, if_neg h2, if_pos h3, if_pos h3]
        · by_cases h4 : r = some .online
          · rw [if_neg h1, if_neg h1, if_neg h2, if_neg h2, if_neg h3, if_neg h3, if_pos h4,
              if_pos h4]
          · rw [if_neg h1, if_neg h1, if_neg h2, if_neg h2, if_neg h3, if_neg h3, if_neg h4,
              if_neg h4]
            cases pre.phase <;> rfl
  unfold derivePhase at hp ⊢
  rw [hr, hd, hu, hc]
  cases hreach : o.reach.or (pre.lastReach.bind Reach.fromText) with
  | none =>
    rw [hreach] at hp
    exact hfall hp
  | some r =>
    rw [hreach] at hp
    cases r with
    | asleep => exact hp.symm
    | offline => exact hp.symm
    | online => exact hfall hp

theorem phaseStep_settled {n : ℤ} (h : phaseStep s o d = .ok (s', d')) :
    Settled { advanceWatermarks s' o with lastObservationId := n } := by
  obtain ⟨i, open', ss, rfl, -⟩ := phaseStep_frame h
  intro o' ho'
  have hreach : o'.reach.or (((o.reach.map Reach.asStr).or s.lastReach).bind Reach.fromText) =
      o.reach.or (s.lastReach.bind Reach.fromText) := by
    rw [ho']
    cases o.reach with
    | none => rfl
    | some r => exact fromText_asStr r
  exact derivePhase_settled hreach rfl rfl rfl rfl

variable [Geodesy]

theorem driveCloseStep_inert (h : Inert o)
    (hs : ∀ drive, s.openDrive = some drive → s.serviceMode ≠ some true ∧
    saturatingSub o.tObs drive.effectiveLastFoldedMs ≤ o.tGapMs) :
    driveCloseStep s o d = .ok (s, d) := by
  unfold driveCloseStep
  cases hd : s.openDrive with
  | none => rfl
  | some drive =>
    obtain ⟨hm, hgap⟩ := hs drive hd
    have hl : losesDriveEvidence s drive o = false := by
      rw [losesDriveEvidence_inert h hm]
      exact decide_eq_false (by omega)
    simp only [hl, h.drive, h.charge]
    rfl

theorem extendSteps_inert (h : Inert o) :
    driveFoldStep s o d = .ok (s, d) ∧ standalonePositionStep s o d = .ok (s, d) := by
  refine ⟨?_, ?_⟩
  · unfold driveFoldStep
    simp only [hasFreshDriveFacts_inert h, Bool.not_false, Bool.or_true, if_true]
  · unfold standalonePositionStep
    simp only [h.fresh, Bool.not_false, Bool.or_true, if_true]

/-- The whole pipeline does nothing with an inert observation whose car facts are known already,
unless the gap rule closes the open drive. -/
theorem applyLifecycleSteps_inert (h : Inert o) (hm : mergeCarMetadata s o = s) (he : Exclusive s)
    (hgap : ∀ drive, s.openDrive = some drive → saturatingSub o.tObs drive.effectiveLastFoldedMs ≤
    o.tGapMs) (hp : derivePhase s o = s.phase) : applyLifecycleSteps s o d = .ok (s, d) := by
  have hdrive (drive : OpenDrive) (hd : s.openDrive = some drive) : s.serviceMode ≠ some true := by
    intro hs
    rw [(he.service hs).1] at hd
    cases hd
  have hcharge (charge : OpenCharge) (hc : s.openCharge = some charge) :
      s.serviceMode ≠ some true := by
    intro hs
    rw [(he.service hs).2] at hc
    cases hc
  obtain ⟨hstatus, hdo, hco⟩ := openSteps_inert (s := s) (d := d) h
  obtain ⟨hdf, hsp⟩ := extendSteps_inert (s := s) (d := d) h
  unfold applyLifecycleSteps
  rw [hm, applyServiceMode_inert h]
  simp only [bind, Except.bind, applyVersionFacts_inert h,
    driveCloseStep_inert h fun drive hd => ⟨hdrive drive hd, hgap drive hd⟩,
      chargeCloseStep_inert h hcharge, hstatus, hdo, hco, hdf, chargeSampleStep_inert h, hsp,
    parkedSnapshotStep_inert h, phaseStep_inert h hp]

theorem Observed.settled {carId : ℤ} {T : ℕ} {x : LifecycleSample}
    (ho : Observed carId T s x o s' d) : Settled s' := by
  obtain ⟨s₁, ⟨t⟩, rfl⟩ := ho.passed
  exact phaseStep_settled t.final_eq

theorem applySamplesWith_settled {carId : ℤ} {T : ℕ}
    (h : applySamplesWith .new carId xs T = .ok b) : LiveState b.state ∧ Settled b.state := by
  refine applySamplesWith_always (I := fun s _ => Settled s) ?_ ?_ LiveState.new ?_ h
  · intro s total n hs o ho
    exact hs o ho
  · intro s x o s' d total _ _ ho
    exact ho.settled
  · intro o ho
    unfold derivePhase
    rw [ho]
    rfl

theorem applySamplesWith_valid {carId : ℤ} {T : ℕ} {m : ℤ}
    (h : applySamplesWith .new carId xs T = .ok b) (hm : b.state.marks.lastObservedAtMs = some m) :
    ¬carId ≤ 0 ∧ ¬(T = 0 ∨ i64Max < T) := by
  cases xs with
  | nil =>
    cases h
    cases hm
  | cons x xs =>
    obtain ⟨b', hb', -⟩ := bind_eq_ok.mp h
    obtain ⟨step, happly, -⟩ := bind_eq_ok.mp hb'
    unfold applySampleWithOfflineDriveTimeout at happly
    split at happly
    · cases happly
    · split at happly
      · cases happly
      · rename_i hc hT
        exact ⟨hc, hT⟩

theorem PipelineTrace.final_carMetadata (t : PipelineTrace s o d s' d') :
    s'.carMetadata = (mergeCarMetadata s o).carMetadata := by
  obtain ⟨mode, r, hmode⟩ := applyServiceMode_frame (mergeCarMetadata s o) o
  rw [t.final_steady.carMetadata, (applyVersionFacts_steady t.facts_eq).1.carMetadata, hmode]

theorem PipelineTrace.inert_gap_none (t : PipelineTrace s o d s' d') (h : Inert o)
    (hd : s.openDrive = some drive)
    (hgap : o.tGapMs < saturatingSub o.tObs drive.effectiveLastFoldedMs) : s'.openDrive = none := by
  have hclosed : t.driveClosed.openDrive = none := by
    rcases driveCloseStep_open t.driveClosed_eq with hn | ⟨-, drive', hd', hl⟩
    · exact hn
    · rw [t.facts_same.1.openDrive, hd] at hd'
      cases hd'
      unfold losesDriveEvidence at hl
      simp only [hasFreshDriveFacts_inert h, Bool.not_false, Bool.true_and, decide_eq_true hgap,
        Bool.or_true, Bool.true_or, Bool.true_eq_false] at hl
  apply t.final_openDrive_none
  rw [t.chargeOpened_drive.openDrive]
  rcases driveOpenStep_cases t.driveOpened_eq with ⟨he, -⟩ | ⟨hm, -⟩
  · rw [he]
    exact t.statused_none hclosed
  · rw [h.drive] at hm
    cases hm

/-- A late sample moves the cursor and nothing else exactly when it shows no gap behind the open
drive and states no car fact that differs from the held ones. -/
theorem late_sample_only_moves_cursor {carId : ℤ} {T : ℕ} {xs : List LifecycleSample}
    {b : LifecycleStep} {x : LifecycleSample} (h : applySamplesWith .new carId xs T = .ok b)
    (hid : b.state.lastObservationId < x.observationId) (hp : parseSample x = .ok p)
    (hlate : Late b.state p) :
    applySampleWithOfflineDriveTimeout b.state carId x T =
        .ok ⟨{ b.state with lastObservationId := x.observationId }, {}, false⟩ ↔
      (∀ drive, b.state.openDrive = some drive →
        saturatingSub p.observedAtMs drive.effectiveLastFoldedMs ≤ T) ∧
      ∀ newer, p.carMetadata = some newer →
        b.state.carMetadata = some ((b.state.carMetadata.getD {}).mergeNewer newer) := by
  obtain ⟨hl, hsettled⟩ := applySamplesWith_settled h
  obtain ⟨m, hm, hlt⟩ := hlate.observed_lt
  obtain ⟨hcar, hT⟩ := applySamplesWith_valid h hm
  obtain ⟨hstate, hinert⟩ := observe_late carId T x.vehicleState (parseSample_sound hp) hlate
  have hkind : ¬(p.kind = .unknown ∨ (p.kind = .hubEvent ∧ p.hubEvent = none)) := by
    have hv := hlate.vehicleData
    rintro (hk | ⟨hk, -⟩) <;> rw [hk] at hv <;> cases hv
  constructor
  · intro happly
    rcases applySample_cases hl happly with ⟨n, hnone, -⟩ | ⟨o, ho⟩
    · unfold observationOf at hnone
      simp only [if_neg (not_le.mpr hid), hp, if_neg hkind, reduceCtorEq] at hnone
    · have hoeq : o = (observe b.state carId T x.vehicleState p).2 := by
        have hdel := ho.delivered
        unfold observationOf at hdel
        simp only [if_neg (not_le.mpr hid), hp, if_neg hkind, some.injEq] at hdel
        exact hdel.symm
      rw [← hoeq] at hinert
      obtain ⟨s₁, ⟨t⟩, hfinal⟩ := ho.passed
      refine ⟨?_, ?_⟩
      · intro drive hd
        by_contra hgap
        have hopen : s₁.openDrive = b.state.openDrive :=
          (congrArg OpenSessionState.openDrive hfinal).symm
        have hgap' : o.tGapMs < saturatingSub o.tObs drive.effectiveLastFoldedMs := by
          rw [hoeq]
          exact not_le.mp hgap
        rw [t.inert_gap_none hinert hd hgap', hd] at hopen
        cases hopen
      · intro newer hn
        have hmeta : s₁.carMetadata = b.state.carMetadata :=
          (congrArg OpenSessionState.carMetadata hfinal).symm
        have hon : o.parsed.carMetadata = some newer := by
          rw [hoeq]
          exact hn
        rw [t.final_carMetadata] at hmeta
        unfold mergeCarMetadata at hmeta
        rw [hon] at hmeta
        exact hmeta.symm
  · rintro ⟨hgap, hmeta⟩
    set o := (observe b.state carId T x.vehicleState p).2 with ho
    have hmerge : mergeCarMetadata b.state o = b.state := by
      unfold mergeCarMetadata
      have hc : o.parsed.carMetadata = p.carMetadata := rfl
      rw [hc]
      cases hn : p.carMetadata with
      | none => rfl
      | some newer =>
        simp only
        rw [← hmeta newer hn]
    have hsteps : applyLifecycleSteps b.state o {} = .ok (b.state, {}) :=
      applyLifecycleSteps_inert hinert hmerge (applySamplesWith_accounted h).exclusive hgap
        (hsettled o hinert.reach)
    have hmarks : advanceWatermarks b.state o = b.state := by
      have hraise : raise b.state.marks.lastObservedAtMs o.parsed.observedAtMs =
          b.state.marks.lastObservedAtMs := by
        rw [hm]
        exact congrArg some (max_eq_left (le_of_lt hlt))
      have hhub : o.parsed.kind ≠ .hubEvent := by
        intro hk
        have hv : o.parsed.kind.hasVehicleData := hlate.vehicleData
        rw [hk] at hv
        cases hv
      unfold advanceWatermarks advanceMarks
      simp only [hinert.fresh, Bool.false_eq_true, if_false, if_pos hhub, hraise, hinert.reach]
      rfl
    have hobs : observe b.state carId T x.vehicleState p = (b.state, o) := Prod.ext hstate rfl
    unfold applySampleWithOfflineDriveTimeout
    rw [if_neg hcar, if_neg hT, if_neg (not_le.mpr hid), convertPendingSeed_of_none hl.noSeed]
    simp only [hp, if_neg hkind, hobs, hsteps, bind, Except.bind, pure, Except.pure, hmarks]

def statusSample (id atMs : ℤ) (name : String) (odometer : ℚ) : LifecycleSample :=
  vehicleDataSample id atMs
    [("vehicle_state", .object [("vehicle_name", .string name), ("odometer", .number odometer)])]

omit [Geodesy] in
theorem late_sample_only_moves_cursor_sameName :
    ∃ b p, @applySamplesWith flatGeodesy .new 1 [statusSample 1 2000 "Blue" 20]
    defaultOfflineDriveTimeoutMs = .ok b ∧ Late b.state p ∧ p.carMetadata.isSome = true ∧
    @applySampleWithOfflineDriveTimeout flatGeodesy b.state 1 (statusSample 2 1000 "Blue" 10)
    defaultOfflineDriveTimeoutMs = .ok ⟨{ b.state with lastObservationId := 2 }, {}, false⟩ := by
  have hok : (@applySamplesWith flatGeodesy .new 1 [statusSample 1 2000 "Blue" 20]
      defaultOfflineDriveTimeoutMs >>= fun b => parseSample (statusSample 2 1000 "Blue" 10) >>=
        fun p =>
        pure (b, p)).toOption.any
      (fun r => r.1.state.lastObservationId < 2 ∧ Late r.1.state r.2 ∧ r.1.state.openDrive.isNone ∧
        r.2.carMetadata.isSome ∧ ∀ newer ∈ r.2.carMetadata,
          r.1.state.carMetadata = some ((r.1.state.carMetadata.getD {}).mergeNewer newer)) := by
            decide +kernel
  obtain ⟨⟨b, p⟩, hr, hcheck⟩ := exists_ok_of_any hok
  obtain ⟨b', hb, hr⟩ := bind_eq_ok.mp hr
  obtain ⟨p', hp, hr⟩ := bind_eq_ok.mp hr
  cases hr
  obtain ⟨hid, hlate, hnone, hstated, hsame⟩ := of_decide_eq_true hcheck
  refine ⟨b, p, hb, hlate, hstated,
    (@late_sample_only_moves_cursor p flatGeodesy _ _ _ _ _ hb hid hp hlate).mpr
      ⟨fun drive hd => ?_, hsame⟩⟩
  cases (Option.isNone_iff_eq_none.mp hnone).symm.trans hd

omit [Geodesy] in
/-- A late reading overwrites the newer name of the car with the older one. -/
theorem late_sample_renames_car :
    ∃ b p step, @applySamplesWith flatGeodesy .new 1 [statusSample 1 2000 "Blue" 20]
        defaultOfflineDriveTimeoutMs = .ok b ∧
      b.state.lastObservationId < 2 ∧ parseSample (statusSample 2 1000 "Red" 10) = .ok p ∧
      Late b.state p ∧
      @applySampleWithOfflineDriveTimeout flatGeodesy b.state 1 (statusSample 2 1000 "Red" 10)
        defaultOfflineDriveTimeoutMs = .ok step ∧
      b.state.carMetadata.bind (·.name) = some "Blue" ∧
      step.state.carMetadata.bind (·.name) = some "Red" ∧
      step ≠ ⟨{ b.state with lastObservationId := 2 }, {}, false⟩ := by
  have hok : (@applySamplesWith flatGeodesy .new 1 [statusSample 1 2000 "Blue" 20]
      defaultOfflineDriveTimeoutMs >>= fun b => parseSample (statusSample 2 1000 "Red" 10) >>=
        fun p =>
        @applySampleWithOfflineDriveTimeout flatGeodesy b.state 1 (statusSample 2 1000 "Red" 10)
          defaultOfflineDriveTimeoutMs >>= fun step => pure (b, p, step)).toOption.any
      (fun r => r.1.state.lastObservationId < 2 ∧ Late r.1.state r.2.1 ∧
        r.1.state.carMetadata.bind (·.name) = some "Blue" ∧
        r.2.2.state.carMetadata.bind (·.name) = some "Red") := by decide +kernel
  obtain ⟨⟨b, p, step⟩, hr, hcheck⟩ := exists_ok_of_any hok
  obtain ⟨b', hb, hr⟩ := bind_eq_ok.mp hr
  obtain ⟨p', hp, hr⟩ := bind_eq_ok.mp hr
  obtain ⟨step', hstep, hr⟩ := bind_eq_ok.mp hr
  cases hr
  obtain ⟨hid, hlate, hblue, hred⟩ := of_decide_eq_true hcheck
  refine ⟨b, p, step, hb, hid, hp, hlate, hstep, hblue, hred, ?_⟩
  intro heq
  rw [heq] at hred
  exact absurd (hblue.symm.trans hred) (by decide)

omit [Geodesy] in
/-- The records of a batch whose id is above the cursor and above the ids of all records before
them. -/
def risingFrom : ℤ → List LifecycleSample → List LifecycleSample
  | _, [] => []
  | cursor, x :: xs =>
    if x.observationId ≤ cursor then risingFrom cursor xs else x :: risingFrom x.observationId xs

section Redelivery

variable {carId : ℤ} {T : ℕ} {b b' : LifecycleStep} {x : LifecycleSample}

/-- A record above the cursor becomes the cursor. -/
theorem batchStep_cursor (hid : ¬x.observationId ≤ b.state.lastObservationId)
    (h : batchStep carId T b x = .ok b') : b'.state.lastObservationId = x.observationId := by
  obtain ⟨step, hok, hb⟩ := bind_eq_ok.mp h
  cases hb
  unfold applySampleWithOfflineDriveTimeout at hok
  rw [if_neg hid] at hok
  split_ifs at hok
  split at hok
  · cases hok
    rfl
  · cases hok
  · split_ifs at hok
    · cases hok
      rfl
    · obtain ⟨_, -, hr⟩ := bind_eq_ok.mp hok
      cases hr
      rfl

variable (hcar : 0 < carId) (hT : ¬(T = 0 ∨ i64Max < T))
include hcar hT

/-- A record at or below the cursor changes nothing. -/
theorem batchStep_stale (hid : x.observationId ≤ b.state.lastObservationId) :
    batchStep carId T b x = .ok b := by
  unfold batchStep applySampleWithOfflineDriveTimeout
  rw [if_neg (not_le.mpr hcar), if_neg hT, if_pos hid]
  change Except.ok (⟨b.state, mergeStepDelta b.delta {}, b.quarantined || false⟩ : LifecycleStep) =
    _
  rw [mergeStepDelta_empty, Bool.or_false]

/-- Records delivered again or out of order, anywhere in a batch, do nothing: the batch gives what
its rising records give, errors included. -/
theorem batch_is_its_rising_records (xs : List LifecycleSample) (s : OpenSessionState) :
    applySamplesWith s carId xs T =
      applySamplesWith s carId (risingFrom s.lastObservationId xs) T := by
  unfold applySamplesWith
  generalize hb : LifecycleStep.mk s {} false = b
  obtain rfl : b.state = s := by rw [← hb]
  clear hb
  induction xs generalizing b with
  | nil => rfl
  | cons x xs ih =>
    rw [risingFrom, run]
    split_ifs with hid
    · rw [batchStep_stale hcar hT hid]
      exact ih b
    · rw [run]
      cases hstep : batchStep carId T b x with
      | error e => rfl
      | ok b₁ =>
        rw [← batchStep_cursor hid hstep]
        exact ih b₁

end Redelivery

omit [Geodesy] in
theorem batch_is_its_rising_records_twice :
    @applySamplesWith flatGeodesy .new 1 [statusSample 1 2000 "Blue" 20,
    statusSample 1 1000 "Red" 10] 1 = @applySamplesWith flatGeodesy .new 1
    [statusSample 1 2000 "Blue" 20] 1 :=
  @batch_is_its_rising_records flatGeodesy 1 1 (by decide) (by decide) _ .new

end TeslatlasHub.Lifecycle
