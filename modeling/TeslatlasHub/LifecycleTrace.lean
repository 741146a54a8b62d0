import TeslatlasHub.LifecycleSteady
import TeslatlasHub.LifecycleObservation

namespace TeslatlasHub.Lifecycle

open FixedWidth RunRules

variable [Geodesy] {s s' : OpenSessionState} {o : Observation} {d d' : LifecycleDelta}

structure PipelineTrace (s : OpenSessionState) (o : Observation) (d : LifecycleDelta)
    (s' : OpenSessionState) (d' : LifecycleDelta) where
  facts : OpenSessionState
  factsDelta : LifecycleDelta
  facts_eq : applyVersionFacts (applyServiceMode (mergeCarMetadata s o) o) o d =
    .ok (facts, factsDelta)
  driveClosed : OpenSessionState
  driveClosedDelta : LifecycleDelta
  driveClosed_eq : driveCloseStep facts o factsDelta = .ok (driveClosed, driveClosedDelta)
  chargeClosed : OpenSessionState
  closedDelta : LifecycleDelta
  chargeClosed_eq : chargeCloseStep driveClosed o driveClosedDelta = .ok (chargeClosed, closedDelta)
  statused : OpenSessionState
  statused_eq : applyUpdateStatus (markOffline chargeClosed o) o = .ok statused
  driveOpened : OpenSessionState
  driveOpened_eq : driveOpenStep statused o closedDelta = .ok driveOpened
  chargeOpened : OpenSessionState
  chargeOpened_eq : chargeOpenStep driveOpened o closedDelta = .ok chargeOpened
  driveFolded : OpenSessionState
  foldedDelta : LifecycleDelta
  driveFolded_eq : driveFoldStep chargeOpened o closedDelta = .ok (driveFolded, foldedDelta)
  chargeSampled : OpenSessionState
  sampledDelta : LifecycleDelta
  chargeSampled_eq : chargeSampleStep driveFolded o foldedDelta = .ok (chargeSampled, sampledDelta)
  standalone : OpenSessionState
  standaloneDelta : LifecycleDelta
  standalone_eq : standalonePositionStep chargeSampled o sampledDelta =
    .ok (standalone, standaloneDelta)
  final_eq : phaseStep (parkedSnapshotStep standalone o) o standaloneDelta = .ok (s', d')

/-- A pass that succeeds is the run of its steps in their order. -/
theorem applyLifecycleSteps_trace (h : applyLifecycleSteps s o d = .ok (s', d')) :
    Nonempty (PipelineTrace s o d s' d') := by
  obtain ⟨⟨facts, factsDelta⟩, hfacts, h⟩ := bind_eq_ok.mp h
  obtain ⟨⟨driveClosed, driveClosedDelta⟩, hdc, h⟩ := bind_eq_ok.mp h
  obtain ⟨⟨chargeClosed, closedDelta⟩, hcc, h⟩ := bind_eq_ok.mp h
  obtain ⟨statused, hst, h⟩ := bind_eq_ok.mp h
  obtain ⟨driveOpened, hdo, h⟩ := bind_eq_ok.mp h
  obtain ⟨chargeOpened, hco, h⟩ := bind_eq_ok.mp h
  obtain ⟨⟨driveFolded, foldedDelta⟩, hdf, h⟩ := bind_eq_ok.mp h
  obtain ⟨⟨chargeSampled, sampledDelta⟩, hcs, h⟩ := bind_eq_ok.mp h
  obtain ⟨⟨standalone, standaloneDelta⟩, hsp, h⟩ := bind_eq_ok.mp h
  exact ⟨⟨facts, factsDelta, hfacts, driveClosed, driveClosedDelta, hdc, chargeClosed, closedDelta,
    hcc, statused, hst, driveOpened, hdo, chargeOpened, hco, driveFolded, foldedDelta, hdf,
      chargeSampled,
    sampledDelta, hcs, standalone, standaloneDelta, hsp, h⟩⟩

namespace PipelineTrace

variable (t : PipelineTrace s o d s' d')

theorem facts_same :
    DriveSame s d t.facts t.factsDelta ∧ ChargeSame s d t.facts t.factsDelta ∧
    t.facts.marks = s.marks ∧ t.facts.lastReach = s.lastReach ∧ t.facts.importedOpen =
    s.importedOpen ∧ t.facts.pendingGainedRangeCharge = s.pendingGainedRangeCharge ∧
    t.facts.serviceMode = (applyServiceMode (mergeCarMetadata s o) o).serviceMode := by
  obtain ⟨hst, hd, hc⟩ := applyVersionFacts_steady t.facts_eq
  obtain ⟨hd', hc', hm, hr, hi, hp⟩ := applyServiceMode_same s o d
  exact ⟨hd'.trans hd, hc'.trans hc, hst.marks.trans hm, hst.lastReach.trans hr,
    hst.importedOpen.trans hi, hst.pending.trans hp, hst.serviceMode⟩

theorem driveClosed_steady : Steady t.facts t.driveClosed :=
  (driveCloseStep_steady t.driveClosed_eq).1

theorem chargeClosed_steady : Steady t.facts t.chargeClosed :=
  t.driveClosed_steady.trans (chargeCloseStep_steady t.chargeClosed_eq).1

theorem statused_steady : Steady t.facts t.statused := by
  obtain ⟨f, hf⟩ := markOffline_frame t.chargeClosed o
  have h := (applyUpdateStatus_steady (d := d) t.statused_eq).1
  rw [hf] at h
  exact t.chargeClosed_steady.trans ⟨h.marks, h.lastReach, h.importedOpen, h.pending,
    h.lastPosition, h.serviceMode, h.carMetadata⟩

theorem driveOpened_steady : Steady t.facts t.driveOpened :=
  t.statused_steady.trans (driveOpenStep_steady t.driveOpened_eq).1

theorem chargeOpened_steady : Steady t.facts t.chargeOpened :=
  t.driveOpened_steady.trans (chargeOpenStep_steady t.chargeOpened_eq).1

theorem driveFolded_steady : Steady t.facts t.driveFolded :=
  t.chargeOpened_steady.trans (driveFoldStep_steady t.driveFolded_eq).1

theorem chargeSampled_steady : Steady t.facts t.chargeSampled :=
  t.driveFolded_steady.trans (chargeSampleStep_steady t.chargeSampled_eq).1

theorem final_steady : Steady t.facts s' :=
  (t.chargeSampled_steady.trans (standalonePositionStep_steady t.standalone_eq).1).trans
    (phaseStep_steady t.final_eq).1

theorem chargeClosed_drive :
    DriveSame t.driveClosed t.driveClosedDelta t.chargeClosed t.closedDelta :=
  (chargeCloseStep_steady t.chargeClosed_eq).2

theorem statused_drive : ∃ f : OpenDrive → Bool, t.statused.openDrive =
        t.driveClosed.openDrive.map (fun x => { x with sawOffline := f x }) ∧
      t.statused.ids.nextDriveId = t.driveClosed.ids.nextDriveId := by
  obtain ⟨f, hf⟩ := markOffline_frame t.chargeClosed o
  have h := (applyUpdateStatus_steady (d := d) t.statused_eq).2.1
  rw [hf] at h
  refine ⟨f, ?_, h.nextDriveId.trans t.chargeClosed_drive.nextDriveId⟩
  rw [← t.chargeClosed_drive.openDrive]
  exact h.openDrive

theorem chargeOpened_drive : DriveSame t.driveOpened t.closedDelta t.chargeOpened t.closedDelta :=
  (chargeOpenStep_steady t.chargeOpened_eq).2

theorem final_drive : DriveSame t.driveFolded t.foldedDelta s' d' :=
  ((chargeSampleStep_steady t.chargeSampled_eq).2.trans
    (standalonePositionStep_steady t.standalone_eq).2.1).trans (phaseStep_steady t.final_eq).2.1

theorem driveClosed_charge : ChargeSame s d t.driveClosed t.driveClosedDelta :=
  t.facts_same.2.1.trans (driveCloseStep_steady t.driveClosed_eq).2

theorem driveOpened_charge :
    ChargeSame t.chargeClosed t.closedDelta t.driveOpened t.closedDelta := by
  obtain ⟨f, hf⟩ := markOffline_frame t.chargeClosed o
  have h := (applyUpdateStatus_steady (d := t.closedDelta) t.statused_eq).2.2
  rw [hf] at h
  have hst : ChargeSame t.chargeClosed t.closedDelta t.statused t.closedDelta :=
    ⟨h.openCharge, h.nextChargeId, h.nextChargeSampleId, rfl, rfl⟩
  exact hst.trans (driveOpenStep_steady t.driveOpened_eq).2

theorem driveFolded_charge : ChargeSame t.chargeOpened t.closedDelta t.driveFolded t.foldedDelta :=
  (driveFoldStep_steady t.driveFolded_eq).2

theorem final_charge : ChargeSame t.chargeSampled t.sampledDelta s' d' :=
  (standalonePositionStep_steady t.standalone_eq).2.2.trans (phaseStep_steady t.final_eq).2.2

theorem facts_parked : t.facts.parkedSnapshot = s.parkedSnapshot := by
  obtain ⟨c, hm⟩ := mergeCarMetadata_frame s o
  obtain ⟨mode, r, hmode⟩ := applyServiceMode_frame (mergeCarMetadata s o) o
  obtain ⟨n, u, v, a, us, hf, -⟩ := applyVersionFacts_frame t.facts_eq
  rw [hf, hmode, hm]

theorem statused_parked : t.statused.parkedSnapshot = t.chargeClosed.parkedSnapshot := by
  obtain ⟨f, hf⟩ := markOffline_frame t.chargeClosed o
  obtain ⟨n, u, hst⟩ := applyUpdateStatus_frame t.statused_eq
  rw [hst, hf]

end PipelineTrace

end TeslatlasHub.Lifecycle
