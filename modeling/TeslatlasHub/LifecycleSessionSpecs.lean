import TeslatlasHub.LifecycleStepSpecs

namespace TeslatlasHub.Lifecycle

open FixedWidth RunRules List

variable {s s' : OpenSessionState} {o : Observation} {d d' : LifecycleDelta}

theorem nextPositionId_ok {id : ℤ} (h : nextPositionId s = .ok (id, s')) :
    id = s.ids.nextPositionId ∧
    s' = { s with ids := { s.ids with nextPositionId := s.ids.nextPositionId+1 } } := by
  obtain ⟨⟨i, n⟩, ha, hr⟩ := bind_eq_ok.mp h
  cases hr
  obtain ⟨rfl, rfl⟩ := allocate_ok ha
  exact ⟨rfl, rfl⟩

structure PositionOf (o : Observation) (id : ℤ) (driveId : Option ℤ) (p : ProjectionPosition) :
    Prop where
  read : positionFromSample id driveId o.carId o.parsed = .ok (some p)
  id_eq : p.id = id
  driveId_eq : p.driveId = driveId
  dateMs_eq : p.dateMs = o.parsed.driveTimestampMs
  latitude_eq : o.parsed.latitude = some p.latitude
  longitude_eq : o.parsed.longitude = some p.longitude
  elevation_eq : p.elevation = o.parsed.elevation

theorem validCoordinates_eq_some {a b : Option ℚ} {x y : ℚ}
    (h : validCoordinates a b = some (x, y)) : a = some x ∧ b = some y := by
  unfold validCoordinates at h
  split at h
  · split at h
    · cases h
      exact ⟨rfl, rfl⟩
    · cases h
  · cases h

variable {driveId : Option ℤ} {p : Option ProjectionPosition}

theorem positionFromSample_ok {id : ℤ} (hlat : o.parsed.latitude.isSome)
    (h : positionFromSample id driveId o.carId o.parsed = .ok p) :
    ∃ q, p = some q ∧ PositionOf o id driveId q := by
  have hread := h
  unfold positionFromSample at h
  split at h
  · rw [hlat, Bool.true_or] at h
    cases h
  · rename_i latitude longitude hv
    obtain ⟨hx, hy⟩ := validCoordinates_eq_some hv
    cases h
    exact ⟨_, rfl, hread, rfl, rfl, rfl, hx, hy, rfl⟩

theorem positionFromSample_driveId {id carId : ℤ} {sample : ParsedSample}
    {q : ProjectionPosition} (h : positionFromSample id driveId carId sample = .ok (some q)) :
    q.driveId = driveId := by
  unfold positionFromSample at h
  split at h
  · split at h
    · cases h
    · cases h
  · cases h
    rfl

theorem recordDriveCloseReferences_frame (s : OpenSessionState) (drive : OpenDrive) :
    ∃ st la lo k, recordDriveCloseReferences s drive = { s with
      lastStationaryPositionAtMs := st
      lastStandaloneLatitude := la
      lastStandaloneLongitude := lo
      parkedSnapshot := some k } := by
  unfold recordDriveCloseReferences
  split
  · exact ⟨_, _, _, _, rfl⟩
  · exact ⟨_, _, _, _, rfl⟩

def closedDelta (d : LifecycleDelta) (driveId : ℤ) (children : List ProjectionPosition) :
    Option ProjectionDrive → LifecycleDelta
  | some row => { d with
      drives := d.drives++[row]
      openDrivePositions := d.openDrivePositions++children }
  | none => { d with
      discardedDriveIds := d.discardedDriveIds++[driveId]
      positions := d.positions++children.map ({ · with driveId := none }) }

variable {drive : OpenDrive}

theorem closeOpenDrive_eq (d : LifecycleDelta) (loeEnd : Bool)
    (closing : Option ProjectionPosition) (explicitEnd : Option ℤ) (hd : s.openDrive = some drive) :
    ∃ st la lo k, closeOpenDrive s d loeEnd closing explicitEnd = ({ s with
          openDrive := none
          lastStationaryPositionAtMs := st
          lastStandaloneLatitude := la
          lastStandaloneLongitude := lo
          parkedSnapshot := some k },
        closedDelta d drive.id ((endSource drive loeEnd explicitEnd).2++closing.toList)
          (finalizeDrive (endSource drive loeEnd explicitEnd).1
            ((s.importedOpen.bind (·.driveSourceRowId)) == some drive.id) explicitEnd)) := by
  obtain ⟨st, la, lo, k, hr⟩ := recordDriveCloseReferences_frame { s with openDrive := none } drive
  refine ⟨st, la, lo, k, ?_⟩
  unfold closeOpenDrive
  rw [hd]
  simp only [hr]
  cases finalizeDrive (endSource drive loeEnd explicitEnd).1
      ((s.importedOpen.bind (·.driveSourceRowId)) == some drive.id) explicitEnd with
  | none => rfl
  | some row => simp only [closedDelta, append_assoc]

theorem driveOpenStep_cases (h : driveOpenStep s o d = .ok s') :
    (s' = s ∧ (o.drive ≠ .motion ∨ s.openDrive.isSome ∨ s.serviceMode = some true)) ∨
    (o.drive = .motion ∧ s.openDrive = none ∧ s.serviceMode ≠ some true ∧ s' = { s with
        ids := { s.ids with nextDriveId := s.ids.nextDriveId+1 }
        parkedSnapshot := none
        openDrive := some (openedDrive s.ids.nextDriveId o.carId
          (((afterClosed d).map (max · o.parsed.driveTimestampMs)).getD o.parsed.driveTimestampMs)
          o.parsed.driveTimestampMs o.tGapMs s.parkedSnapshot) }) := by
  unfold driveOpenStep at h
  split_ifs at h with hc
  · cases h
    exact .inl ⟨rfl, hc⟩
  · simp only [not_or, Decidable.not_not, Option.not_isSome_iff_eq_none] at hc
    obtain ⟨⟨id, next⟩, ha, hr⟩ := bind_eq_ok.mp h
    obtain ⟨rfl, rfl⟩ := allocate_ok ha
    cases hr
    exact .inr ⟨hc.1, hc.2.1, hc.2.2, rfl⟩

variable [Geodesy]

theorem foldIntoOpenDrive_ok
    (hd : s.openDrive = some drive) (h : foldIntoOpenDrive s o = .ok (s', p)) :
    ∃ n, s' = { s with
        ids := { s.ids with nextPositionId := n }
        openDrive := some (foldObservation drive s.marks o p) } ∧
      ((storesPosition drive o = false ∧ p = none ∧ n = s.ids.nextPositionId) ∨
        storesPosition drive o ∧ n = s.ids.nextPositionId+1 ∧
          ∃ q, p = some q ∧ PositionOf o s.ids.nextPositionId (some drive.id) q) := by
  unfold foldIntoOpenDrive at h
  rw [hd] at h
  obtain ⟨⟨t, q⟩, ht, hr⟩ := bind_eq_ok.mp h
  cases hr
  unfold storedPosition at ht
  cases hst : storesPosition drive o with
  | false =>
    rw [hst, if_neg Bool.false_ne_true] at ht
    cases ht
    exact ⟨_, rfl, .inl ⟨rfl, rfl, rfl⟩⟩
  | true =>
    rw [hst, if_pos rfl] at ht
    obtain ⟨⟨id, t'⟩, hid, ht⟩ := bind_eq_ok.mp ht
    obtain ⟨q', hq, hr⟩ := bind_eq_ok.mp ht
    cases hr
    obtain ⟨rfl, rfl⟩ := nextPositionId_ok hid
    have hlat : o.parsed.latitude.isSome := by
      simp only [storesPosition, Bool.and_eq_true] at hst
      exact hst.1.1.2
    exact ⟨_, rfl, .inr ⟨rfl, rfl, positionFromSample_ok hlat hq⟩⟩

def canEndHere (drive : OpenDrive) (o : Observation) : Bool :=
  o.fresh.motion || (o.fresh.position && decide (drive.effectiveLastFoldedMs ≤
    o.parsed.driveTimestampMs))

def closesForLackOfEvidence (s : OpenSessionState) (drive : OpenDrive) (o : Observation) : Prop :=
  losesDriveEvidence s drive o = true ∨
    losesDriveEvidence s drive o = false ∧ (o.drive = .park ∨ o.charge.isPlugged) ∧
      canEndHere drive o = false

def closesExplicitly (s : OpenSessionState) (drive : OpenDrive) (o : Observation) : Prop :=
  losesDriveEvidence s drive o = false ∧ (o.drive = .park ∨ o.charge.isPlugged) ∧
    canEndHere drive o = true

theorem driveCloseStep_cases (hd : s.openDrive = some drive)
    (h : driveCloseStep s o d = .ok (s', d')) :
    (closesForLackOfEvidence s drive o ∧ (s', d') = closeOpenDrive s d true none none) ∨
    (closesExplicitly s drive o ∧ ∃ t p, foldIntoOpenDrive s o = .ok (t, p) ∧
    (s', d') = closeOpenDrive t d false p (some o.parsed.driveTimestampMs)) ∨
    (losesDriveEvidence s drive o = false ∧ o.drive ≠ .park ∧ o.charge.isPlugged = false ∧ s' = s ∧
    d' = d) := by
  unfold driveCloseStep at h
  rw [hd] at h
  simp only at h
  cases hl : losesDriveEvidence s drive o with
  | true =>
    rw [hl, if_pos rfl] at h
    exact .inl ⟨.inl hl, (Except.ok.inj h).symm⟩
  | false =>
    rw [hl] at h
    simp only [Bool.false_eq_true, if_false] at h
    by_cases hp : o.drive = .park ∨ o.charge.isPlugged
    · have hp' : (o.drive == .park || o.charge.isPlugged) := by
        simpa only [Bool.or_eq_true, beq_iff_eq] using hp
      rw [if_pos hp'] at h
      cases hc : canEndHere drive o with
      | true =>
        rw [if_pos (by exact hc)] at h
        obtain ⟨⟨t, p⟩, ht, hr⟩ := bind_eq_ok.mp h
        exact .inr (.inl ⟨⟨hl, hp, hc⟩, t, p, ht, (pure_eq_ok.mp hr).symm⟩)
      | false =>
        rw [if_neg (by rw [Bool.not_eq_true]; exact hc)] at h
        exact .inl ⟨.inr ⟨hl, hp, hc⟩, (Except.ok.inj h).symm⟩
    · have hp' : ¬(o.drive == .park || o.charge.isPlugged) := by
        simpa only [Bool.or_eq_true, beq_iff_eq] using hp
      rw [if_neg hp'] at h
      cases h
      rw [not_or, Bool.not_eq_true] at hp
      exact .inr (.inr ⟨rfl, hp.1, hp.2, rfl, rfl⟩)

theorem driveCloseStep_none (hd : s.openDrive = none) (h : driveCloseStep s o d = .ok (s', d')) :
    s' = s ∧ d' = d := by
  unfold driveCloseStep at h
  rw [hd] at h
  cases h
  exact ⟨rfl, rfl⟩

theorem driveFoldStep_cases (h : driveFoldStep s o d = .ok (s', d')) :
    (s' = s ∧ d' = d ∧ (s.openDrive = none ∨ hasFreshDriveFacts o = false)) ∨
    (hasFreshDriveFacts o ∧ ∃ drive p, s.openDrive = some drive ∧ foldIntoOpenDrive s o = .ok (s',
    p) ∧ d' = { d with openDrivePositions := d.openDrivePositions++p.toList }) := by
  unfold driveFoldStep at h
  split_ifs at h with hc
  · cases h
    rw [Bool.or_eq_true, Option.isNone_iff_eq_none, Bool.not_eq_true'] at hc
    exact .inl ⟨rfl, rfl, hc⟩
  · rw [Bool.or_eq_true, not_or, Option.isNone_iff_eq_none, Bool.not_eq_true',
      Bool.not_eq_false] at hc
    obtain ⟨drive, hd⟩ := Option.ne_none_iff_exists'.mp hc.1
    obtain ⟨⟨t, p⟩, ht, hr⟩ := bind_eq_ok.mp h
    cases hr
    exact .inr ⟨hc.2, drive, p, hd, ht, rfl⟩

theorem standalonePositionStep_frame (h : standalonePositionStep s o d = .ok (s', d')) :
    ∃ n st la lo ps, s' = { s with
        ids := { s.ids with nextPositionId := n }
        lastStationaryPositionAtMs := st
        lastStandaloneLatitude := la
        lastStandaloneLongitude := lo } ∧ d' = { d with positions := d.positions++ps } ∧
      ∀ q ∈ ps, q.driveId = none := by
  have hsame (hs : (Except.ok (s, d) : Except LifecycleError _) = .ok (s', d')) :
      ∃ n st la lo ps, s' = { s with
        ids := { s.ids with nextPositionId := n }
        lastStationaryPositionAtMs := st
        lastStandaloneLatitude := la
        lastStandaloneLongitude := lo } ∧ d' = { d with positions := d.positions++ps } ∧
        ∀ q ∈ ps, q.driveId = none := by
    cases hs
    exact ⟨_, _, _, _, [], rfl, by rw [append_nil], forall_mem_nil _⟩
  unfold standalonePositionStep at h
  split at h
  · exact hsame h
  split at h
  · simp only at h
    split at h
    · exact hsame h
    split at h
    · obtain ⟨⟨id, t⟩, hid, h⟩ := bind_eq_ok.mp h
      obtain ⟨p, hp, h⟩ := bind_eq_ok.mp h
      obtain ⟨rfl, rfl⟩ := nextPositionId_ok hid
      cases p with
      | none =>
        cases h
        exact ⟨_, _, _, _, [], rfl, by rw [append_nil], forall_mem_nil _⟩
      | some q =>
        cases h
        refine ⟨_, _, _, _, [q], rfl, rfl, ?_⟩
        intro q' hq
        rw [mem_singleton.mp hq]
        exact positionFromSample_driveId hp
    · exact hsame h
  · exact hsame h

end TeslatlasHub.Lifecycle
