import TeslatlasHub.LifecycleChargeSpecs

namespace TeslatlasHub.Lifecycle

open FixedWidth RunRules

variable {s s' t : OpenSessionState} {o : Observation} {d d' e : LifecycleDelta}

structure Steady (s t : OpenSessionState) : Prop where
  marks : t.marks = s.marks
  lastReach : t.lastReach = s.lastReach
  importedOpen : t.importedOpen = s.importedOpen
  pending : t.pendingGainedRangeCharge = s.pendingGainedRangeCharge
  lastPosition : t.lastPosition = s.lastPosition
  serviceMode : t.serviceMode = s.serviceMode
  carMetadata : t.carMetadata = s.carMetadata

theorem Steady.refl (s : OpenSessionState) : Steady s s := ⟨rfl, rfl, rfl, rfl, rfl, rfl, rfl⟩

theorem Steady.trans (h : Steady s s') (h' : Steady s' t) : Steady s t :=
  ⟨h'.marks.trans h.marks, h'.lastReach.trans h.lastReach, h'.importedOpen.trans h.importedOpen,
    h'.pending.trans h.pending, h'.lastPosition.trans h.lastPosition,
    h'.serviceMode.trans h.serviceMode, h'.carMetadata.trans h.carMetadata⟩

structure DriveSame (s : OpenSessionState) (d : LifecycleDelta) (t : OpenSessionState)
    (e : LifecycleDelta) : Prop where
  openDrive : t.openDrive = s.openDrive
  nextDriveId : t.ids.nextDriveId = s.ids.nextDriveId
  drives : e.drives = d.drives
  discarded : e.discardedDriveIds = d.discardedDriveIds
  children : e.openDrivePositions = d.openDrivePositions

theorem DriveSame.trans (h : DriveSame s d s' d') (h' : DriveSame s' d' t e) : DriveSame s d t e :=
  ⟨h'.openDrive.trans h.openDrive, h'.nextDriveId.trans h.nextDriveId, h'.drives.trans h.drives,
    h'.discarded.trans h.discarded, h'.children.trans h.children⟩

structure ChargeSame (s : OpenSessionState) (d : LifecycleDelta) (t : OpenSessionState)
    (e : LifecycleDelta) : Prop where
  openCharge : t.openCharge = s.openCharge
  nextChargeId : t.ids.nextChargeId = s.ids.nextChargeId
  nextChargeSampleId : t.ids.nextChargeSampleId = s.ids.nextChargeSampleId
  charges : e.charges = d.charges
  samples : e.openChargeSamples = d.openChargeSamples

theorem ChargeSame.trans (h : ChargeSame s d s' d') (h' : ChargeSame s' d' t e) :
    ChargeSame s d t e :=
  ⟨h'.openCharge.trans h.openCharge, h'.nextChargeId.trans h.nextChargeId,
    h'.nextChargeSampleId.trans h.nextChargeSampleId, h'.charges.trans h.charges,
    h'.samples.trans h.samples⟩

theorem applyServiceMode_same (s : OpenSessionState) (o : Observation) (d : LifecycleDelta) :
    DriveSame s d (applyServiceMode (mergeCarMetadata s o) o) d ∧
    ChargeSame s d (applyServiceMode (mergeCarMetadata s o) o) d ∧
    (applyServiceMode (mergeCarMetadata s o) o).marks = s.marks ∧
    (applyServiceMode (mergeCarMetadata s o) o).lastReach = s.lastReach ∧
    (applyServiceMode (mergeCarMetadata s o) o).importedOpen = s.importedOpen ∧
    (applyServiceMode (mergeCarMetadata s o) o).pendingGainedRangeCharge =
    s.pendingGainedRangeCharge := by
  obtain ⟨c, hm⟩ := mergeCarMetadata_frame s o
  obtain ⟨m, r, hs⟩ := applyServiceMode_frame (mergeCarMetadata s o) o
  rw [hs, hm]
  exact ⟨⟨rfl, rfl, rfl, rfl, rfl⟩, ⟨rfl, rfl, rfl, rfl, rfl⟩, rfl, rfl, rfl, rfl⟩

theorem applyVersionFacts_steady (h : applyVersionFacts s o d = .ok (s', d')) :
    Steady s s' ∧ DriveSame s d s' d' ∧ ChargeSame s d s' d' := by
  obtain ⟨n, u, v, a, us, rfl, rfl⟩ := applyVersionFacts_frame h
  exact ⟨⟨rfl, rfl, rfl, rfl, rfl, rfl, rfl⟩, ⟨rfl, rfl, rfl, rfl, rfl⟩, ⟨rfl, rfl, rfl, rfl, rfl⟩⟩

theorem closeOpenDrive_steady {loeEnd : Bool} {closing : Option ProjectionPosition}
    {explicitEnd : Option ℤ} (h : (s', d') = closeOpenDrive s d loeEnd closing explicitEnd) :
    Steady s s' ∧ ChargeSame s d s' d' := by
  cases hd : s.openDrive with
  | none =>
    unfold closeOpenDrive at h
    rw [hd] at h
    cases h
    exact ⟨.refl s, rfl, rfl, rfl, rfl, rfl⟩
  | some drive =>
    obtain ⟨st, la, lo, k, he⟩ := closeOpenDrive_eq d loeEnd closing explicitEnd hd
    rw [he] at h
    obtain ⟨rfl, rfl⟩ := Prod.mk.inj h
    refine ⟨⟨rfl, rfl, rfl, rfl, rfl, rfl, rfl⟩, rfl, rfl, rfl, ?_, ?_⟩
    · unfold closedDelta
      split <;> rfl
    · unfold closedDelta
      split <;> rfl

theorem chargeCloseStep_steady (h : chargeCloseStep s o d = .ok (s', d')) :
    Steady s s' ∧ DriveSame s d s' d' := by
  obtain ⟨rfl, rfl, -⟩ | ⟨charge, hc, -, hclose⟩ := chargeCloseStep_cases h
  · exact ⟨.refl _, rfl, rfl, rfl, rfl, rfl⟩
  · obtain ⟨row, cs, -, he⟩ := closeOpenCharge_eq hc
    rw [he] at hclose
    cases hclose
    exact ⟨⟨rfl, rfl, rfl, rfl, rfl, rfl, rfl⟩, rfl, rfl, rfl, rfl, rfl⟩

theorem applyUpdateStatus_steady (h : applyUpdateStatus s o = .ok s') :
    Steady s s' ∧ DriveSame s d s' d ∧ ChargeSame s d s' d := by
  obtain ⟨n, u, rfl⟩ := applyUpdateStatus_frame h
  exact ⟨⟨rfl, rfl, rfl, rfl, rfl, rfl, rfl⟩, ⟨rfl, rfl, rfl, rfl, rfl⟩, ⟨rfl, rfl, rfl, rfl, rfl⟩⟩

theorem driveOpenStep_steady (h : driveOpenStep s o d = .ok s') :
    Steady s s' ∧ ChargeSame s d s' d := by
  obtain ⟨rfl, -⟩ | ⟨-, -, -, rfl⟩ := driveOpenStep_cases h
  · exact ⟨.refl _, rfl, rfl, rfl, rfl, rfl⟩
  · exact ⟨⟨rfl, rfl, rfl, rfl, rfl, rfl, rfl⟩, rfl, rfl, rfl, rfl, rfl⟩

theorem chargeOpenStep_steady (h : chargeOpenStep s o d = .ok s') :
    Steady s s' ∧ DriveSame s d s' d := by
  obtain rfl | ⟨-, -, -, -, opening, -, rfl⟩ := chargeOpenStep_cases h
  · exact ⟨.refl _, rfl, rfl, rfl, rfl, rfl⟩
  · exact ⟨⟨rfl, rfl, rfl, rfl, rfl, rfl, rfl⟩, rfl, rfl, rfl, rfl, rfl⟩

theorem chargeSampleStep_steady (h : chargeSampleStep s o d = .ok (s', d')) :
    Steady s s' ∧ DriveSame s d s' d' := by
  obtain ⟨-, rfl, rfl⟩ | ⟨charge, -, -, rfl, rfl⟩ | ⟨charge, -, -, -, rfl, rfl⟩ |
    ⟨charge, -, -, -, hclose⟩ := chargeSampleStep_cases h
  · exact ⟨.refl _, rfl, rfl, rfl, rfl, rfl⟩
  · exact ⟨⟨rfl, rfl, rfl, rfl, rfl, rfl, rfl⟩, rfl, rfl, rfl, rfl, rfl⟩
  · exact ⟨⟨rfl, rfl, rfl, rfl, rfl, rfl, rfl⟩, rfl, rfl, rfl, rfl, rfl⟩
  · have hc : (sampledState s charge o).openCharge = some (sampledCharge s charge o) := rfl
    obtain ⟨row, cs, -, he⟩ := closeOpenCharge_eq hc
    rw [he] at hclose
    cases hclose
    exact ⟨⟨rfl, rfl, rfl, rfl, rfl, rfl, rfl⟩, rfl, rfl, rfl, rfl, rfl⟩

theorem phaseStep_steady (h : phaseStep (parkedSnapshotStep s o) o d = .ok (s', d')) :
    Steady s s' ∧ DriveSame s d s' d' ∧ ChargeSame s d s' d' := by
  obtain ⟨p, hp⟩ := parkedSnapshotStep_frame s o
  rw [hp] at h
  obtain ⟨n, i, ss, rfl, rfl⟩ := phaseStep_frame h
  exact ⟨⟨rfl, rfl, rfl, rfl, rfl, rfl, rfl⟩, ⟨rfl, rfl, rfl, rfl, rfl⟩, ⟨rfl, rfl, rfl, rfl, rfl⟩⟩

variable [Geodesy]

theorem foldIntoOpenDrive_steady {p : Option ProjectionPosition}
    (h : foldIntoOpenDrive s o = .ok (s', p)) : Steady s s' ∧ ChargeSame s d s' d := by
  cases hd : s.openDrive with
  | none =>
    unfold foldIntoOpenDrive at h
    rw [hd] at h
    cases h
    exact ⟨.refl _, rfl, rfl, rfl, rfl, rfl⟩
  | some drive =>
    obtain ⟨n, rfl, -⟩ := foldIntoOpenDrive_ok hd h
    exact ⟨⟨rfl, rfl, rfl, rfl, rfl, rfl, rfl⟩, rfl, rfl, rfl, rfl, rfl⟩

theorem driveCloseStep_steady (h : driveCloseStep s o d = .ok (s', d')) :
    Steady s s' ∧ ChargeSame s d s' d' := by
  cases hd : s.openDrive with
  | none =>
    obtain ⟨rfl, rfl⟩ := driveCloseStep_none hd h
    exact ⟨.refl _, rfl, rfl, rfl, rfl, rfl⟩
  | some drive =>
    obtain ⟨-, he⟩ | ⟨-, t, p, hf, he⟩ | ⟨-, -, -, rfl, rfl⟩ := driveCloseStep_cases hd h
    · exact closeOpenDrive_steady he
    · have hfold := foldIntoOpenDrive_steady (d := d) hf
      have hclose := closeOpenDrive_steady he
      exact ⟨hfold.1.trans hclose.1, hfold.2.trans hclose.2⟩
    · exact ⟨.refl _, rfl, rfl, rfl, rfl, rfl⟩

theorem driveFoldStep_steady (h : driveFoldStep s o d = .ok (s', d')) :
    Steady s s' ∧ ChargeSame s d s' d' := by
  obtain ⟨rfl, rfl, -⟩ | ⟨-, drive, p, -, hf, rfl⟩ := driveFoldStep_cases h
  · exact ⟨.refl _, rfl, rfl, rfl, rfl, rfl⟩
  · have hfold := foldIntoOpenDrive_steady (d := d) hf
    exact ⟨hfold.1, hfold.2.openCharge, hfold.2.nextChargeId, hfold.2.nextChargeSampleId, rfl, rfl⟩

theorem standalonePositionStep_steady (h : standalonePositionStep s o d = .ok (s', d')) :
    Steady s s' ∧ DriveSame s d s' d' ∧ ChargeSame s d s' d' := by
  obtain ⟨n, st, la, lo, ps, rfl, rfl, -⟩ := standalonePositionStep_frame h
  exact ⟨⟨rfl, rfl, rfl, rfl, rfl, rfl, rfl⟩, ⟨rfl, rfl, rfl, rfl, rfl⟩, ⟨rfl, rfl, rfl, rfl, rfl⟩⟩

end TeslatlasHub.Lifecycle
