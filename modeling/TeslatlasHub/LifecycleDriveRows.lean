import TeslatlasHub.LifecycleRun
import TeslatlasHub.IdLedger

namespace TeslatlasHub.Lifecycle

open FixedWidth RunRules List

variable {s s' : OpenSessionState} {o : Observation} {d d' : LifecycleDelta}

structure SameOrigin (a b : DetachedDrive) : Prop where
  id : a.id = b.id
  carId : a.carId = b.carId
  startDateMs : a.startDateMs = b.startDateMs

theorem SameOrigin.refl (a : DetachedDrive) : SameOrigin a a := ⟨rfl, rfl, rfl⟩

variable {c : DetachedDrive} {marks : Watermarks} {row : ProjectionDrive}
  {p : Option ProjectionPosition}

theorem SameOrigin.trans {a b : DetachedDrive} (h : SameOrigin a b) (h' : SameOrigin b c) :
    SameOrigin a c :=
  ⟨h.id.trans h'.id, h.carId.trans h'.carId, h.startDateMs.trans h'.startDateMs⟩

structure OpenDrive.Coherent (drive : OpenDrive) : Prop where
  still : ∀ c, drive.stillCheckpoint = some c → SameOrigin c drive.toDetachedDrive
  leads : ∀ l ∈ drive.leadCheckpoints, SameOrigin l.drive drive.toDetachedDrive
  unbuffered : drive.positions = []

variable (drive : DetachedDrive)

theorem foldEmitted_origin (p : Option ProjectionPosition) :
    SameOrigin (drive.foldEmitted p) drive := by
  cases p with
  | none => exact .refl drive
  | some q => exact ⟨rfl, rfl, rfl⟩

theorem foldOdometer_origin (coarse : Bool) (km : Option ℚ) :
    SameOrigin (drive.foldOdometer coarse km) drive := by
  cases km with
  | none => exact .refl drive
  | some x => exact ⟨rfl, rfl, rfl⟩

variable {l : LeadCheckpoint} {explicitEnd : Option ℤ} {settled : List ℤ}

theorem mem_insertLead {lead : LeadCheckpoint} {leads : List LeadCheckpoint} :
    l ∈ insertLead lead leads ↔ l = lead ∨ l ∈ leads := by
  induction leads with
  | nil => simp only [insertLead, mem_singleton, not_mem_nil, or_false]
  | cons head tail ih =>
    unfold insertLead
    split
    · rw [mem_cons, ih, mem_cons]
      tauto
    · rw [mem_cons]

def keptLeads (drive : OpenDrive) (o : Observation) : List LeadCheckpoint :=
  if o.fresh.motion then drive.leadCheckpoints.filter (o.parsed.driveTimestampMs < ·.cutMs)
  else drive.leadCheckpoints

theorem mem_keptLeads {drive : OpenDrive} (h : l ∈ keptLeads drive o) :
    l ∈ drive.leadCheckpoints := by
  unfold keptLeads at h
  split at h
  · exact (mem_filter.mp h).1
  · exact h

theorem leadsBeforeFold_eq (drive : OpenDrive) (marks : Watermarks) (o : Observation) :
      leadsBeforeFold drive marks o =
      if isLeadFold marks o then insertLead
          { cutMs := o.parsed.driveTimestampMs, drive := drive.toDetachedDrive }
          (if kLeadCheckpoints ≤ (keptLeads drive o).length then (keptLeads drive o).drop 1
            else keptLeads drive o)
      else keptLeads drive o := rfl

theorem mem_leadsBeforeFold {drive : OpenDrive} (h : l ∈ leadsBeforeFold drive marks o) :
    l ∈ keptLeads drive o ∨ isLeadFold marks o ∧
    l = { cutMs := o.parsed.driveTimestampMs, drive := drive.toDetachedDrive } := by
  rw [leadsBeforeFold_eq] at h
  split at h
  · rename_i hlead
    rcases mem_insertLead.mp h with rfl | hl
    · exact .inr ⟨hlead, rfl⟩
    · refine .inl ?_
      split at hl
      · exact mem_of_mem_drop hl
      · exact hl
  · exact .inl h

structure DriveRowOf (drive : DetachedDrive) (explicitEnd : Option ℤ) (row : ProjectionDrive) :
    Prop where
  id_eq : row.id = drive.id
  startDateMs_eq : row.startDateMs = drive.startDateMs
  endDateMs_eq : row.endDateMs =
    max ((explicitEnd.map (max · drive.effectiveLastFoldedMs)).getD drive.effectiveLastFoldedMs)
      drive.startDateMs
  endLatitude_eq : row.endLatitude = drive.lastLatitude.map (roundToPrecision · 6)
  endLongitude_eq : row.endLongitude = drive.lastLongitude.map (roundToPrecision · 6)
  climb_eq : (row.ascent, row.descent) = drive.elevationWalk.totals

theorem finalizeDrive_eq_some {drive : DetachedDrive} {keep : Bool}
    (h : finalizeDrive drive keep explicitEnd = some row) : DriveRowOf drive explicitEnd row := by
  unfold finalizeDrive at h
  simp only at h
  split at h
  · cases h
  · cases h
    exact ⟨rfl, rfl, rfl, rfl, rfl, rfl⟩

theorem DriveRowOf.start_le_end {drive : DetachedDrive} (h : DriveRowOf drive explicitEnd row) :
    row.startDateMs ≤ row.endDateMs := by
  rw [h.startDateMs_eq, h.endDateMs_eq]
  exact le_max_right _ _

theorem endSource_origin {drive : OpenDrive} (h : drive.Coherent) (loeEnd : Bool)
    (explicitEnd : Option ℤ) :
    SameOrigin (endSource drive loeEnd explicitEnd).1 drive.toDetachedDrive := by
  unfold endSource
  split
  · split
    · rename_i c hc
      exact h.still c hc
    · exact .refl _
  · split
    · rename_i lead hl
      obtain ⟨t, -, hf⟩ := Option.bind_eq_some_iff.mp hl
      exact h.leads lead (mem_of_find?_eq_some hf)
    · exact .refl _

theorem openedDrive_coherent (id carId start tDrive tGapMs : ℤ) (snapshot : Option ParkedSnapshot) :
    (openedDrive id carId start tDrive tGapMs snapshot).Coherent ∧
      (openedDrive id carId start tDrive tGapMs snapshot).id = id ∧
      (openedDrive id carId start tDrive tGapMs snapshot).startDateMs = start := by
  have hempty (drive : OpenDrive) (hs : drive.stillCheckpoint = none)
      (hl : drive.leadCheckpoints = []) (hp : drive.positions = []) : drive.Coherent := by
    refine ⟨?_, ?_, hp⟩
    · intro c hc
      rw [hs] at hc
      cases hc
    · intro l hm
      rw [hl] at hm
      cases hm
  unfold openedDrive
  cases snapshot with
  | none => exact ⟨hempty _ rfl rfl rfl, rfl, rfl⟩
  | some k =>
    simp only
    split
    · exact ⟨hempty _ rfl rfl rfl, rfl, rfl⟩
    · exact ⟨hempty _ rfl rfl rfl, rfl, rfl⟩

theorem openedDrive_unchecked (id carId start tDrive tGapMs : ℤ)
    (snapshot : Option ParkedSnapshot) :
    (openedDrive id carId start tDrive tGapMs snapshot).stillCheckpoint = none ∧
      (openedDrive id carId start tDrive tGapMs snapshot).leadCheckpoints = [] := by
  unfold openedDrive
  cases snapshot with
  | none => exact ⟨rfl, rfl⟩
  | some k =>
    simp only
    split
    · exact ⟨rfl, rfl⟩
    · exact ⟨rfl, rfl⟩

def openDriveIds (s : OpenSessionState) : List ℤ := (s.openDrive.map (·.id)).toList

def settledDriveIds (d : LifecycleDelta) : List ℤ := d.drives.map (·.id)++d.discardedDriveIds

theorem settledDriveIds_merge (total d : LifecycleDelta) :
    (settledDriveIds (mergeStepDelta total d)).Perm (settledDriveIds total++settledDriveIds d) := by
  change ((total.drives++d.drives).map (·.id)++(total.discardedDriveIds++d.discardedDriveIds)).Perm
    _
  unfold settledDriveIds
  rw [map_append, append_assoc, append_assoc, perm_append_left_iff, ← append_assoc, ← append_assoc]
  exact perm_append_comm.append_right _

theorem settledDriveIds_closedDelta (d : LifecycleDelta) (id : ℤ)
    (children : List ProjectionPosition) (row : Option ProjectionDrive)
    (hid : ∀ r, row = some r → r.id = id) :
    (settledDriveIds (closedDelta d id children row)).Perm (id :: settledDriveIds d) := by
  cases row with
  | none =>
    change (d.drives.map (·.id)++(d.discardedDriveIds++[id])).Perm _
    rw [← append_assoc]
    exact perm_append_singleton id _
  | some r =>
    change ((d.drives++[r]).map (·.id)++d.discardedDriveIds).Perm _
    rw [map_append, map_singleton, hid r rfl, append_assoc, singleton_append]
    exact perm_middle

structure DriveBook (s : OpenSessionState) (settled : List ℤ) : Prop where
  ledger : IdLedger.Ledger (openDriveIds s) settled s.ids.nextDriveId
  coherent : ∀ drive, s.openDrive = some drive → drive.Coherent

theorem DriveBook.of_same {t : OpenSessionState} (h : DriveBook s settled)
    (hopen : t.openDrive = s.openDrive) (hnext : t.ids.nextDriveId = s.ids.nextDriveId) :
    DriveBook t settled := by
  refine ⟨?_, ?_⟩
  · unfold openDriveIds
    rw [hopen, hnext]
    exact h.ledger
  · intro drive hd
    exact h.coherent drive (hopen.symm.trans hd)

theorem DriveBook.close {drive : OpenDrive} {loeEnd : Bool} {closing : Option ProjectionPosition}
     (h : DriveBook s (settled++settledDriveIds d)) (hd : s.openDrive = some drive)
    (he : (s', d') = closeOpenDrive s d loeEnd closing explicitEnd) :
    DriveBook s' (settled++settledDriveIds d') := by
  obtain ⟨st, la, lo, k, hc⟩ := closeOpenDrive_eq d loeEnd closing explicitEnd hd
  obtain ⟨rfl, rfl⟩ := Prod.mk.inj (he.trans hc)
  refine ⟨?_, fun drive' hd' => by cases hd'⟩
  have hperm := settledDriveIds_closedDelta d drive.id
    ((endSource drive loeEnd explicitEnd).2++closing.toList)
    (finalizeDrive (endSource drive loeEnd explicitEnd).1
      ((s.importedOpen.bind (·.driveSourceRowId)) == some drive.id) explicitEnd)
    (fun r hr => (finalizeDrive_eq_some hr).id_eq.trans
      (endSource_origin (h.coherent drive hd) loeEnd explicitEnd).id)
  have hopen : openDriveIds s = [drive.id] := by
    unfold openDriveIds
    rw [hd]
    rfl
  apply h.ledger.perm
  rw [hopen]
  exact (hperm.append_left settled).trans perm_middle

theorem DriveBook.opened (h : DriveBook s settled) (ho : driveOpenStep s o d = .ok s') :
    DriveBook s' settled := by
  rcases driveOpenStep_cases ho with ⟨rfl, -⟩ | ⟨-, hn, -, rfl⟩
  · exact h
  · obtain ⟨hc, hid, -⟩ := openedDrive_coherent s.ids.nextDriveId o.carId
      (((afterClosed d).map (max · o.parsed.driveTimestampMs)).getD o.parsed.driveTimestampMs)
      o.parsed.driveTimestampMs o.tGapMs s.parkedSnapshot
    have hopen : openDriveIds s = [] := by
      unfold openDriveIds
      rw [hn]
      rfl
    have hl := h.ledger.allocate
    rw [hopen] at hl
    refine ⟨?_, ?_⟩
    · change IdLedger.Ledger [(openedDrive _ _ _ _ _ _).id] settled (s.ids.nextDriveId+1)
      rw [hid]
      exact hl
    · intro drive hd
      cases hd
      exact hc

variable [Geodesy]

theorem foldCoordinates_origin (xy : Option (ℚ × ℚ)) :
    SameOrigin (drive.foldCoordinates xy) drive := by
  cases xy with
  | none => exact .refl drive
  | some xy =>
    unfold DetachedDrive.foldCoordinates
    simp only
    split
    · split
      · split <;> exact ⟨rfl, rfl, rfl⟩
      · split <;> exact ⟨rfl, rfl, rfl⟩
    · split <;> exact ⟨rfl, rfl, rfl⟩

theorem foldDrivePoint_origin (point : DrivePoint)
    (p : Option ProjectionPosition) : SameOrigin (drive.foldDrivePoint point p) drive := by
  set a : DetachedDrive := { drive with
    lastFoldedAtMs := some ((drive.lastFoldedAtMs.map (max · point.atMs)).getD point.atMs) }
  have ha : SameOrigin a drive := ⟨rfl, rfl, rfl⟩
  have hb := (foldEmitted_origin a p).trans ha
  have hc := (foldCoordinates_origin (a.foldEmitted p) point.coordinates).trans hb
  have he := (foldOdometer_origin ((a.foldEmitted p).foldCoordinates point.coordinates)
    point.odometerCoarse point.odometerKm).trans hc
  unfold DetachedDrive.foldDrivePoint
  split
  · exact ⟨he.id, he.carId, he.startDateMs⟩
  · exact ⟨he.id, he.carId, he.startDateMs⟩

/-- A fold without motion keeps the still checkpoint or takes the first one. -/
theorem still_of_foldObservation {drive : OpenDrive}
    (hc : (foldObservation drive marks o p).stillCheckpoint = some c) :
    o.drive ≠ .motion ∧ (drive.stillCheckpoint = some c ∨
    c = (foldObservation drive marks o p).toDetachedDrive) := by
  have hev : (drivePoint o).evidence = o.drive := rfl
  unfold foldObservation observeDrivePoint at hc
  dsimp only at hc
  rw [hev] at hc
  cases hd : o.drive with
  | motion =>
    rw [hd] at hc
    cases hc
  | noInfo =>
    rw [hd] at hc
    refine ⟨by decide, ?_⟩
    cases hs : drive.stillCheckpoint with
    | none =>
      rw [hs] at hc
      exact .inr (Option.some.inj hc).symm
    | some c' =>
      rw [hs] at hc
      exact .inl hc
  | park =>
    rw [hd] at hc
    exact ⟨by decide, .inl hc⟩

theorem foldObservation_coherent {drive : OpenDrive} (h : drive.Coherent) (marks : Watermarks)
    (o : Observation) (p : Option ProjectionPosition) : (foldObservation drive marks o p).Coherent ∧
      SameOrigin (foldObservation drive marks o p).toDetachedDrive drive.toDetachedDrive := by
  have ho := foldDrivePoint_origin drive.toDetachedDrive (drivePoint o) p
  have hback : SameOrigin drive.toDetachedDrive
      (drive.toDetachedDrive.foldDrivePoint (drivePoint o) p) :=
    ⟨ho.id.symm, ho.carId.symm, ho.startDateMs.symm⟩
  refine ⟨⟨?_, ?_, h.unbuffered⟩, ho⟩
  · intro c hc
    rcases (still_of_foldObservation hc).2 with hs | rfl
    · exact (h.still c hs).trans hback
    · exact .refl _
  · intro l hl
    obtain ⟨l', hl', rfl⟩ := mem_map.mp hl
    have hl'' : SameOrigin l'.drive drive.toDetachedDrive := by
      rcases mem_leadsBeforeFold hl' with hm | ⟨-, rfl⟩
      · exact h.leads l' (mem_keptLeads hm)
      · exact .refl _
    split
    · exact ((foldDrivePoint_origin l'.drive (drivePoint o) none).trans hl'').trans hback
    · exact hl''.trans hback

theorem DriveBook.folded {drive : OpenDrive} (h : DriveBook s settled)
    (hd : s.openDrive = some drive) (hf : foldIntoOpenDrive s o = .ok (s', p)) :
    DriveBook s' settled := by
  obtain ⟨n, rfl, -⟩ := foldIntoOpenDrive_ok hd hf
  obtain ⟨hc, ho⟩ := foldObservation_coherent (h.coherent drive hd) s.marks o p
  refine ⟨?_, ?_⟩
  · change IdLedger.Ledger [(foldObservation drive s.marks o p).id] settled s.ids.nextDriveId
    rw [ho.id]
    have hl := h.ledger
    unfold openDriveIds at hl
    rw [hd] at hl
    exact hl
  · intro drive' hd'
    cases hd'
    exact hc

/-- The close step settles the drive it closes, and no id twice. -/
theorem DriveBook.closeStep (h : DriveBook s (settled++settledDriveIds d))
    (hc : driveCloseStep s o d = .ok (s', d')) : DriveBook s' (settled++settledDriveIds d') := by
  cases hd : s.openDrive with
  | none =>
    obtain ⟨rfl, rfl⟩ := driveCloseStep_none hd hc
    exact h
  | some drive =>
    rcases driveCloseStep_cases hd hc with ⟨-, he⟩ | ⟨-, t, p, hf, he⟩ | ⟨-, -, -, rfl, rfl⟩
    · exact h.close hd he
    · have ht := h.folded hd hf
      obtain ⟨n, rfl, -⟩ := foldIntoOpenDrive_ok hd hf
      exact ht.close rfl he
    · exact h

theorem DriveBook.passed (h : DriveBook s settled)
    (t : PipelineTrace s o {} s' d) : DriveBook s' (settled++settledDriveIds d) := by
  have hfacts : DriveBook t.facts (settled++settledDriveIds t.factsDelta) := by
    obtain ⟨hsame, -⟩ := t.facts_same
    have hnone : settledDriveIds t.factsDelta = [] := by
      unfold settledDriveIds
      rw [hsame.drives, hsame.discarded]
      rfl
    rw [hnone, append_nil]
    exact h.of_same hsame.openDrive hsame.nextDriveId
  have hclosed := hfacts.closeStep t.driveClosed_eq
  have hids (e : LifecycleDelta) (hd : e.drives = t.driveClosedDelta.drives)
      (hi : e.discardedDriveIds = t.driveClosedDelta.discardedDriveIds) :
      settledDriveIds e = settledDriveIds t.driveClosedDelta := by
    unfold settledDriveIds
    rw [hd, hi]
  have hstatused : DriveBook t.statused (settled++settledDriveIds t.driveClosedDelta) := by
    obtain ⟨f, hf, hn⟩ := t.statused_drive
    refine ⟨?_, ?_⟩
    · have hopen : openDriveIds t.statused = openDriveIds t.driveClosed := by
        unfold openDriveIds
        rw [hf, Option.map_map]
        rfl
      rw [hopen, hn]
      exact hclosed.ledger
    · intro drive hd
      rw [hf] at hd
      obtain ⟨drive', hd', rfl⟩ := Option.map_eq_some_iff.mp hd
      have hc := hclosed.coherent drive' hd'
      exact ⟨fun c hx => ⟨(hc.still c hx).id, (hc.still c hx).carId, (hc.still c hx).startDateMs⟩,
        fun l hl => ⟨(hc.leads l hl).id, (hc.leads l hl).carId, (hc.leads l hl).startDateMs⟩,
        hc.unbuffered⟩
  have hopened := hstatused.opened t.driveOpened_eq
  have hcharge := hopened.of_same t.chargeOpened_drive.openDrive t.chargeOpened_drive.nextDriveId
  have hfold : DriveBook t.driveFolded (settled++settledDriveIds t.driveClosedDelta) ∧
      t.foldedDelta.drives = t.closedDelta.drives ∧
      t.foldedDelta.discardedDriveIds = t.closedDelta.discardedDriveIds := by
    rcases driveFoldStep_cases t.driveFolded_eq with ⟨hs, hd, -⟩ | ⟨-, drive, p, hd, hf, he⟩
    · rw [hs, hd]
      exact ⟨hcharge, rfl, rfl⟩
    · rw [he]
      exact ⟨hcharge.folded hd hf, rfl, rfl⟩
  obtain ⟨hbook, hrows, hdiscarded⟩ := hfold
  rw [hids d (t.final_drive.drives.trans (hrows.trans t.chargeClosed_drive.drives))
    (t.final_drive.discarded.trans (hdiscarded.trans t.chargeClosed_drive.discarded))]
  exact hbook.of_same t.final_drive.openDrive t.final_drive.nextDriveId

end TeslatlasHub.Lifecycle
