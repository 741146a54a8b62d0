import TeslatlasHub.LifecycleDriveRows
import TeslatlasHub.LifecycleChargeRows

namespace TeslatlasHub.Lifecycle

open FixedWidth RunRules

structure Exclusive (s : OpenSessionState) : Prop where
  not_both : s.openDrive = none ∨ s.openCharge = none
  service : s.serviceMode = some true → s.openDrive = none ∧ s.openCharge = none

variable [Geodesy] {s s' : OpenSessionState} {o : Observation} {d d' total : LifecycleDelta}

omit [Geodesy] in
theorem losesDriveEvidence_service {drive : OpenDrive} (h : s.serviceMode = some true) :
    losesDriveEvidence s drive o := by
  unfold losesDriveEvidence
  simp only [h, beq_self_eq_true, Bool.or_true, Bool.true_or]

omit [Geodesy] in
theorem losesChargeEvidence_of {charge : OpenCharge}
    (h : s.serviceMode = some true ∨ o.drive = .motion ∨ o.reach = some .asleep) :
    losesChargeEvidence s charge o := by
  unfold losesChargeEvidence
  rcases h with h | h | h
  · simp only [h, beq_self_eq_true, Bool.or_true, Bool.true_or]
  · simp only [h, beq_self_eq_true, Bool.or_true, Bool.true_or]
  · simp only [h, beq_self_eq_true, Bool.true_or]

theorem driveCloseStep_open (h : driveCloseStep s o d = .ok (s', d')) : s'.openDrive = none ∨
      s' = s ∧ ∃ drive, s.openDrive = some drive ∧ losesDriveEvidence s drive o = false := by
  have hclosed {t : OpenSessionState} {drive : OpenDrive} {loe : Bool}
      {p : Option ProjectionPosition} {e : Option ℤ} (ht : t.openDrive = some drive)
      (he : (s', d') = closeOpenDrive t d loe p e) : s'.openDrive = none := by
    obtain ⟨st, la, lo, k, hc⟩ := closeOpenDrive_eq d loe p e ht
    obtain ⟨rfl, -⟩ := Prod.mk.inj (he.trans hc)
    rfl
  cases hd : s.openDrive with
  | none =>
    obtain ⟨rfl, -⟩ := driveCloseStep_none hd h
    exact .inl hd
  | some drive =>
    rcases driveCloseStep_cases hd h with ⟨-, he⟩ | ⟨-, t, p, hf, he⟩ | ⟨hl, -, -, rfl, -⟩
    · exact .inl (hclosed hd he)
    · obtain ⟨n, rfl, -⟩ := foldIntoOpenDrive_ok hd hf
      exact .inl (hclosed rfl he)
    · exact .inr ⟨rfl, drive, rfl, hl⟩

omit [Geodesy] in
theorem chargeCloseStep_open (h : chargeCloseStep s o d = .ok (s', d')) : s'.openCharge = none ∨
      s' = s ∧ ∃ charge, s.openCharge = some charge ∧ losesChargeEvidence s charge o = false := by
  rcases chargeCloseStep_cases h with ⟨rfl, -, hl⟩ | ⟨charge, hc, -, hclose⟩
  · cases hc : s'.openCharge with
    | none => exact .inl rfl
    | some charge => exact .inr ⟨rfl, charge, rfl, hl charge hc⟩
  · exact .inl (closeOpenCharge_none hc hclose)

namespace PipelineTrace

variable (t : PipelineTrace s o d s' d')

theorem chargeClosed_none (h : t.facts.serviceMode = some true ∨ o.drive = .motion ∨
    o.reach = some .asleep) : t.chargeClosed.openCharge = none := by
  rcases chargeCloseStep_open t.chargeClosed_eq with hn | ⟨-, charge, -, hl⟩
  · exact hn
  · have hservice : t.driveClosed.serviceMode = some true ∨ o.drive = .motion ∨
        o.reach = some .asleep := by
      rw [t.driveClosed_steady.serviceMode]
      exact h
    rw [losesChargeEvidence_of hservice] at hl
    cases hl

theorem driveClosed_none (h : t.facts.serviceMode = some true) :
    t.driveClosed.openDrive = none := by
  rcases driveCloseStep_open t.driveClosed_eq with hn | ⟨-, drive, -, hl⟩
  · exact hn
  · rw [losesDriveEvidence_service h] at hl
    cases hl

theorem statused_none (h : t.driveClosed.openDrive = none) : t.statused.openDrive = none := by
  obtain ⟨f, hf, -⟩ := t.statused_drive
  rw [hf, h]
  rfl

theorem final_openDrive_none (h : t.chargeOpened.openDrive = none) : s'.openDrive = none := by
  rw [t.final_drive.openDrive]
  rcases driveFoldStep_cases t.driveFolded_eq with ⟨hs, -, -⟩ | ⟨-, drive, p, hd, -, -⟩
  · rw [hs]
    exact h
  · rw [h] at hd
    cases hd

theorem final_openCharge_none (h : t.chargeOpened.openCharge = none) : s'.openCharge = none := by
  have hfold : t.driveFolded.openCharge = none := t.driveFolded_charge.openCharge.trans h
  rw [t.final_charge.openCharge]
  rcases chargeSampleStep_cases t.chargeSampled_eq with ⟨-, hs, -⟩ | ⟨charge, hc, -⟩ |
    ⟨charge, hc, -⟩ | ⟨charge, hc, -⟩
  · rw [hs]
    exact hfold
  · rw [hfold] at hc
    cases hc
  · rw [hfold] at hc
    cases hc
  · rw [hfold] at hc
    cases hc

theorem driveOpened_not_both (h : s.openDrive = none ∨ s.openCharge = none) :
    t.driveOpened.openDrive = none ∨ t.driveOpened.openCharge = none := by
  rcases driveOpenStep_cases t.driveOpened_eq with ⟨hs, -⟩ | ⟨hm, -, -, -⟩
  · rcases h with hd | hc
    · left
      rw [hs]
      apply t.statused_none
      rcases driveCloseStep_open t.driveClosed_eq with hn | ⟨he, drive, hx, -⟩
      · exact hn
      · rw [t.facts_same.1.openDrive, hd] at hx
        cases hx
    · right
      rw [t.driveOpened_charge.openCharge]
      rcases chargeCloseStep_open t.chargeClosed_eq with hn | ⟨he, charge, hx, -⟩
      · exact hn
      · rw [t.driveClosed_charge.openCharge, hc] at hx
        cases hx
  · right
    rw [t.driveOpened_charge.openCharge]
    exact t.chargeClosed_none (.inr (.inl hm))

theorem exclusive (t : PipelineTrace s o d s' d') (h : Exclusive s) : Exclusive s' := by
  have hboth : t.chargeOpened.openDrive = none ∨ t.chargeOpened.openCharge = none := by
    rcases chargeOpenStep_cases t.chargeOpened_eq with hs | ⟨-, hd, -, -, opening, -, hs⟩
    · rw [hs]
      exact t.driveOpened_not_both h.not_both
    · rw [hs]
      exact .inl hd
  refine ⟨?_, ?_⟩
  · rcases hboth with hd | hc
    · exact .inl (t.final_openDrive_none hd)
    · exact .inr (t.final_openCharge_none hc)
  · intro hservice
    have hfacts : t.facts.serviceMode = some true := by
      rw [← t.final_steady.serviceMode]
      exact hservice
    have hdrive : t.driveOpened.openDrive = none := by
      rcases driveOpenStep_cases t.driveOpened_eq with ⟨hs, -⟩ | ⟨-, -, hne, -⟩
      · rw [hs]
        exact t.statused_none (t.driveClosed_none hfacts)
      · exact absurd (t.statused_steady.serviceMode.trans hfacts) hne
    have hcharge : t.driveOpened.openCharge = none := by
      rw [t.driveOpened_charge.openCharge]
      exact t.chargeClosed_none (.inl hfacts)
    rcases chargeOpenStep_cases t.chargeOpened_eq with hs | ⟨-, -, hne, -⟩
    · refine ⟨t.final_openDrive_none ?_, t.final_openCharge_none ?_⟩
      · rw [hs]
        exact hdrive
      · rw [hs]
        exact hcharge
    · exact absurd (t.driveOpened_steady.serviceMode.trans hfacts) hne

theorem chargeSamples_eq (t : PipelineTrace s o d s' d') : d'.chargeSamples = d.chargeSamples := by
  have hclose {s₁ s₂ : OpenSessionState} {d₁ d₂ : LifecycleDelta} {charge : OpenCharge} {e : ℤ}
      {u : Bool} (hc : s₁.openCharge = some charge)
      (h : closeOpenCharge s₁ d₁ e u = .ok (s₂, d₂)) : d₂.chargeSamples = d₁.chargeSamples := by
    obtain ⟨row, cs, -, he⟩ := closeOpenCharge_eq hc
    rw [he] at h
    cases h
    rfl
  have hdrive {s₁ s₂ : OpenSessionState} {d₁ d₂ : LifecycleDelta} {drive : OpenDrive} {loe : Bool}
      {p : Option ProjectionPosition} {e : Option ℤ} (hd : s₁.openDrive = some drive)
      (h : (s₂, d₂) = closeOpenDrive s₁ d₁ loe p e) : d₂.chargeSamples = d₁.chargeSamples := by
    obtain ⟨st, la, lo, k, hc⟩ := closeOpenDrive_eq d₁ loe p e hd
    obtain ⟨-, rfl⟩ := Prod.mk.inj (h.trans hc)
    unfold Lifecycle.closedDelta
    split <;> rfl
  have hfacts : t.factsDelta.chargeSamples = d.chargeSamples := by
    obtain ⟨n, u, v, a, us, -, he⟩ := applyVersionFacts_frame t.facts_eq
    rw [he]
  have hdc : t.driveClosedDelta.chargeSamples = t.factsDelta.chargeSamples := by
    have h := t.driveClosed_eq
    cases hd : t.facts.openDrive with
    | none => rw [(driveCloseStep_none hd h).2]
    | some drive =>
      rcases driveCloseStep_cases hd h with ⟨-, he⟩ | ⟨-, t', p, hf, he⟩ | ⟨-, -, -, -, he⟩
      · exact hdrive hd he
      · obtain ⟨n, rfl, -⟩ := foldIntoOpenDrive_ok hd hf
        exact hdrive rfl he
      · rw [he]
  have hcc : t.closedDelta.chargeSamples = t.driveClosedDelta.chargeSamples := by
    rcases chargeCloseStep_cases t.chargeClosed_eq with ⟨-, he, -⟩ | ⟨charge, hc, -, h⟩
    · rw [he]
    · exact hclose hc h
  have hdf : t.foldedDelta.chargeSamples = t.closedDelta.chargeSamples := by
    rcases driveFoldStep_cases t.driveFolded_eq with ⟨-, he, -⟩ | ⟨-, drive, p, -, -, he⟩
    · rw [he]
    · rw [he]
  have hcs : t.sampledDelta.chargeSamples = t.foldedDelta.chargeSamples := by
    rcases chargeSampleStep_cases t.chargeSampled_eq with ⟨-, -, he⟩ | ⟨charge, -, -, -, he⟩ |
      ⟨charge, -, -, -, -, he⟩ | ⟨charge, -, -, -, h⟩
    · rw [he]
    · rw [he]
    · rw [he]
      rfl
    · rw [hclose rfl h]
      rfl
  have hsp : t.standaloneDelta.chargeSamples = t.sampledDelta.chargeSamples := by
    obtain ⟨n, st, la, lo, ps, -, he, -⟩ := standalonePositionStep_frame t.standalone_eq
    rw [he]
  have hph : d'.chargeSamples = t.standaloneDelta.chargeSamples := by
    obtain ⟨n, i, ss, -, he⟩ := phaseStep_frame t.final_eq
    have h := congrArg LifecycleDelta.chargeSamples he
    exact h
  rw [hph, hsp, hcs, hdf, hcc, hdc, hfacts]

end PipelineTrace

structure Accounted (s : OpenSessionState) (total : LifecycleDelta) : Prop where
  exclusive : Exclusive s
  drives : DriveBook s (settledDriveIds total)
  charges : ChargeBook s total.charges total.openChargeSamples
  streamed : total.chargeSamples = []

omit [Geodesy] in
theorem Accounted.openDrive_lt {drive : OpenDrive} (h : Accounted s total)
    (hd : s.openDrive = some drive) : drive.id < s.ids.nextDriveId := by
  have hledger := h.drives.ledger
  unfold openDriveIds at hledger
  rw [hd] at hledger
  exact (hledger.mem_lt (List.mem_append_left _ List.mem_cons_self)).2

omit [Geodesy] in
theorem Accounted.new : Accounted .new {} := by
  have hdrive (drive : OpenDrive) (h : OpenSessionState.new.openDrive = some drive) :
      drive.Coherent := by cases h
  have hcharge {P : OpenCharge → Prop} (charge : OpenCharge)
      (h : OpenSessionState.new.openCharge = some charge) : P charge := by cases h
  have hservice (h : OpenSessionState.new.serviceMode = some true) :
      OpenSessionState.new.openDrive = none ∧ OpenSessionState.new.openCharge = none := by cases h
  exact ⟨⟨.inl rfl, hservice⟩, ⟨IdLedger.empty, hdrive⟩,
    ⟨IdLedger.empty, hcharge, List.forall_mem_nil _, List.Pairwise.nil, hcharge,
      List.forall_mem_nil _⟩, rfl⟩

omit [Geodesy] in
theorem Accounted.moveCursor (h : Accounted s total) (n : ℤ) :
    Accounted { s with lastObservationId := n } total :=
  ⟨⟨h.exclusive.not_both, h.exclusive.service⟩, h.drives.of_same rfl rfl, h.charges.of_same rfl rfl,
    h.streamed⟩

theorem Observed.accounted {carId : ℤ} {T : ℕ} {x : LifecycleSample}
    (ho : Observed carId T s x o s' d) (h : Accounted s total) :
    Accounted s' (mergeStepDelta total d) := by
  obtain ⟨s₁, ⟨t⟩, rfl⟩ := ho.passed
  have he := t.exclusive ⟨h.exclusive.not_both, h.exclusive.service⟩
  have hd := (h.drives.of_same (t := { s with lastPosition := carriedMemory s x }) rfl rfl).passed t
  have hc := (h.charges.of_same (t := { s with lastPosition := carriedMemory s x }) rfl rfl).passed
      t
  refine ⟨⟨he.not_both, he.service⟩, ⟨?_, hd.coherent⟩, hc.of_same rfl rfl, ?_⟩
  · apply hd.ledger.perm
    exact (settledDriveIds_merge total d).append_left _
  · change total.chargeSamples++d.chargeSamples = []
    rw [h.streamed, t.chargeSamples_eq]
    rfl

theorem applySamplesWith_accounted {carId : ℤ} {T : ℕ} {xs : List LifecycleSample}
    {b : LifecycleStep} (h : applySamplesWith .new carId xs T = .ok b) :
    Accounted b.state b.delta := by
  refine (applySamplesWith_always (I := Accounted) ?_ ?_ LiveState.new Accounted.new h).2
  · intro s total n hs
    exact hs.moveCursor n
  · intro s x o s' d total _ hs ho
    exact ho.accounted hs

/-- Drives and charges exclude one another, every allocated id is accounted for exactly once, and
the samples of a charge are in order and before its end. -/
theorem sessions_exclusive_and_accounted {carId : ℤ} {T : ℕ} {xs : List LifecycleSample}
    {b : LifecycleStep} (h : applySamplesWith .new carId xs T = .ok b) :
    ¬(b.state.openDrive.isSome ∧ b.state.openCharge.isSome) ∧
    (b.state.serviceMode = some true → b.state.openDrive = none ∧ b.state.openCharge = none) ∧
    (∀ i, ((b.state.openDrive.map (·.id)).toList++(b.delta.drives.map (·.id)++
      b.delta.discardedDriveIds)).count i = if 1 ≤ i ∧ i < b.state.ids.nextDriveId then 1 else 0) ∧
    (∀ i, ((b.state.openCharge.map (·.id)).toList++b.delta.charges.map (·.id)).count i =
      if 1 ≤ i ∧ i < b.state.ids.nextChargeId then 1 else 0) ∧
    (b.delta.chargeSamples++b.delta.openChargeSamples).Pairwise
      (fun x y => x.chargeProcessId = y.chargeProcessId → x.timestampMs < y.timestampMs) ∧
    ∀ row ∈ b.delta.charges, ∃ e, row.endDateMs = some e ∧
      ∀ x ∈ b.delta.chargeSamples++b.delta.openChargeSamples,
        x.chargeProcessId = row.id → x.timestampMs ≤ e := by
  have hb := applySamplesWith_accounted h
  rw [hb.streamed, List.nil_append]
  refine ⟨?_, hb.exclusive.service, hb.drives.ledger.count_eq, hb.charges.ledger.count_eq,
    hb.charges.increasing, ?_⟩
  · rintro ⟨hd, hc⟩
    rcases hb.exclusive.not_both with hn | hn
    · rw [hn] at hd
      cases hd
    · rw [hn] at hc
      cases hc
  · intro row hr
    obtain ⟨e, he, -, hle⟩ := hb.charges.row_end row hr
    exact ⟨e, he, hle⟩

def driveThenCharge : List LifecycleSample :=
  [vehicleDataSample 1 100 [("drive_state", .object [("shift_state", .string "D")]),
      ("vehicle_state", .object [("odometer", .number 1)])],
    vehicleDataSample 2 200 [("drive_state", .object [("shift_state", .string "P")]),
      ("vehicle_state", .object [("odometer", .number 2)])],
    vehicleDataSample 3 300 [("charge_state", .object [("charging_state", .string "Charging"),
      ("charge_energy_added", .number 1)])],
    vehicleDataSample 4 400 [("charge_state", .object [("charging_state", .string "Charging"),
      ("charge_energy_added", .number 2)])],
    vehicleDataSample 5 500 [("charge_state", .object [("charging_state", .string "Complete"),
      ("charge_energy_added", .number 3)])],
    vehicleDataSample 6 600 [("drive_state", .object [("shift_state", .string "D")])]]

omit [Geodesy] in
theorem sessions_exclusive_and_accounted_driveThenCharge :
    ∃ b, @applySamplesWith flatGeodesy .new 1 driveThenCharge defaultOfflineDriveTimeoutMs = .ok b ∧
      ((b.state.openDrive.map (·.id)).toList++(b.delta.drives.map (·.id)++
        b.delta.discardedDriveIds)).count 2 =
          if (1 : ℤ) ≤ 2 ∧ 2 < b.state.ids.nextDriveId then 1 else 0 := by
  have hok : (@applySamplesWith flatGeodesy .new 1 driveThenCharge
      defaultOfflineDriveTimeoutMs).isOk := by decide +kernel
  obtain ⟨b, hb⟩ := exists_ok_of_isOk hok
  exact ⟨b, hb, (@sessions_exclusive_and_accounted flatGeodesy _ _ _ _ hb).2.2.1 2⟩

end TeslatlasHub.Lifecycle
