import TeslatlasHub.LifecycleDrivePass
import TeslatlasHub.LifecycleAccounting

namespace TeslatlasHub.Lifecycle

open FixedWidth RunRules List Option DetachedDrive

variable {marks : Watermarks} {o : Observation}

def DetachedDrive.unflagged (drive : DetachedDrive) : DetachedDrive :=
  { drive with sawOffline := false }

def positionMark (marks : Watermarks) : Option ℤ :=
  marks.lastPositionFactMs.or marks.lastDriveTimestampMs

def Reached (mark : Option ℤ) (t : ℤ) : Prop := ∃ m, mark = some m ∧ t ≤ m

variable {mark : Option ℤ} {lead : LeadCheckpoint} {drive' : OpenDrive}

theorem laterThan_iff {t : ℤ} : laterThan t mark ↔ ∀ m, mark = some m → m < t := by
  unfold laterThan
  cases mark with
  | none =>
    refine ⟨?_, fun _ => rfl⟩
    intro _ m hm
    cases hm
  | some w =>
    rw [all_some, decide_eq_true_iff]
    refine ⟨?_, fun h => h w rfl⟩
    intro h m hm
    cases hm
    exact h

theorem Reached.lt {a t : ℤ} (h : Reached mark a) (hl : laterThan t mark) : a < t := by
  obtain ⟨m, hm, hle⟩ := h
  have hlt := laterThan_iff.mp hl m hm
  omega

theorem reached_raise {a t : ℤ} (h : Reached mark a ∨ a ≤ t) : Reached (raise mark t) a := by
  refine ⟨_, rfl, ?_⟩
  rcases h with ⟨m, rfl, hle⟩ | hle
  · exact le_max_of_le_left hle
  · cases mark with
    | none => exact hle
    | some m => exact le_max_of_le_right hle

theorem motionMark_advance (marks : Watermarks) (o : Observation) {a : ℤ}
    (h : Reached marks.lastDriveTimestampMs a ∨ o.fresh.motion ∧ a ≤ o.parsed.driveTimestampMs) :
    Reached (advanceMarks marks o).lastDriveTimestampMs a := by
  change Reached (if o.fresh.motion then raise marks.lastDriveTimestampMs o.parsed.driveTimestampMs
    else marks.lastDriveTimestampMs) a
  rcases h with h | ⟨hm, h⟩
  · split
    · exact reached_raise (.inl h)
    · exact h
  · rw [if_pos hm]
    exact reached_raise (.inr h)

theorem laterThan_advance {t : ℤ} :
    laterThan t (advanceMarks marks o).lastDriveTimestampMs ↔
    laterThan t marks.lastDriveTimestampMs ∧ (o.fresh.motion → o.parsed.driveTimestampMs < t) := by
  change laterThan t (if o.fresh.motion then raise marks.lastDriveTimestampMs
    o.parsed.driveTimestampMs
    else marks.lastDriveTimestampMs) ↔ _
  split_ifs with hm
  · rw [laterThan_iff, laterThan_iff]
    constructor
    · intro h
      have hmax := h _ rfl
      refine ⟨?_, fun _ => ?_⟩
      · intro m hw
        rw [hw] at hmax
        exact lt_of_le_of_lt (le_max_left m o.parsed.driveTimestampMs) hmax
      · cases hw : marks.lastDriveTimestampMs with
        | none =>
          rw [hw] at hmax
          exact hmax
        | some m =>
          rw [hw] at hmax
          exact lt_of_le_of_lt (le_max_right m o.parsed.driveTimestampMs) hmax
    · rintro ⟨hold, hnew⟩ m hw
      cases hw
      cases hw : marks.lastDriveTimestampMs with
      | none => exact hnew hm
      | some m => exact max_lt (hold m hw) (hnew hm)
  · exact ⟨fun h => ⟨h, fun hm' => absurd hm' hm⟩, And.left⟩

theorem positionMark_advance (marks : Watermarks) (o : Observation) {a : ℤ}
    (h : Reached (positionMark marks) a ∨ o.fresh.position ∧ a ≤ o.parsed.driveTimestampMs) :
    Reached (positionMark (advanceMarks marks o)) a := by
  have hor (mark : Option ℤ) (hm : Reached (marks.lastPositionFactMs.or mark) a ∨
      o.fresh.position ∧ a ≤ o.parsed.driveTimestampMs) :
      Reached ((if o.fresh.position then raise (marks.lastPositionFactMs.or mark)
        o.parsed.driveTimestampMs else marks.lastPositionFactMs).or mark) a := by
    split_ifs with hp
    · exact reached_raise (hm.imp_right And.right)
    · exact hm.resolve_right fun hx => hp hx.1
  refine hor (advanceMarks marks o).lastDriveTimestampMs (h.imp_left ?_)
  intro hm
  unfold positionMark at hm
  cases hp : marks.lastPositionFactMs with
  | some m =>
    rw [hp] at hm
    exact hm
  | none =>
    rw [hp] at hm
    exact motionMark_advance marks o (.inl hm)

def unlabelled (q : ProjectionPosition) : ProjectionPosition := { q with id := 0, driveId := none }

def foldedPosition (o : Observation) : Option ProjectionPosition :=
  if o.fresh.position then (positionFromSample 0 none o.carId o.parsed).toOption.join else none

variable [Geodesy]

def foldOf (drive : DetachedDrive) (o : Observation) : DetachedDrive :=
  drive.foldDrivePoint (drivePoint o) (foldedPosition o)

def replay (drive : DetachedDrive) (folds : List Observation) : DetachedDrive :=
  folds.foldl foldOf drive

theorem replay_concat (drive : DetachedDrive) (folds : List Observation) (o : Observation) :
    replay drive (folds++[o]) = foldOf (replay drive folds) o :=
  foldl_concat ..

def foldTime (drive : DetachedDrive) (atMs : ℤ) : DetachedDrive :=
  { drive with lastFoldedAtMs := some ((drive.lastFoldedAtMs.map (max · atMs)).getD atMs) }

def foldRest (drive : DetachedDrive) (point : DrivePoint) : DetachedDrive :=
  let drive := ((drive.foldBattery point).foldMotion point).foldTemperatures point
  let drive := { drive with
    lastChargeEnergyAdded := point.chargeEnergyAdded.or drive.lastChargeEnergyAdded }
  if point.evidence = .motion then { drive with lastMotionAtMs := some point.atMs } else drive

theorem foldDrivePoint_eq (drive : DetachedDrive) (point : DrivePoint)
    (p : Option ProjectionPosition) :
    drive.foldDrivePoint point p = foldRest
        ((((foldTime drive point.atMs).foldEmitted p).foldCoordinates
        point.coordinates).foldOdometer point.odometerCoarse point.odometerKm) point := rfl

omit [Geodesy] in
theorem foldEmitted_unflagged (drive : DetachedDrive) (p : Option ProjectionPosition) :
    (drive.foldEmitted p).unflagged = drive.unflagged.foldEmitted p := by
  cases p with
  | none => rfl
  | some q => rfl

omit [Geodesy] in
theorem foldOdometer_unflagged (drive : DetachedDrive) (coarse : Bool) (km : Option ℚ) :
    (drive.foldOdometer coarse km).unflagged = drive.unflagged.foldOdometer coarse km := by
  cases km with
  | none => rfl
  | some x => rfl

theorem foldCoordinates_unflagged (drive : DetachedDrive) (xy : Option (ℚ × ℚ)) :
    (drive.foldCoordinates xy).unflagged = drive.unflagged.foldCoordinates xy := by
  cases xy with
  | none => rfl
  | some xy =>
    obtain ⟨a, b⟩ := xy
    unfold foldCoordinates unflagged
    cases hlat : drive.startLatitude with
    | none => cases h : Wgs84Point.new a b <;> simp only [h, isNone_none, Bool.true_or, if_pos]
    | some u =>
      cases hlon : drive.startLongitude with
      | none =>
        cases h : Wgs84Point.new a b <;>
          simp only [h, isNone_none, Bool.or_true, if_pos]
      | some v =>
        cases h : Wgs84Point.new a b <;> cases h' : Wgs84Point.new u v <;>
          simp only [h, h', hlat, hlon, isNone_some, Bool.or_false, Bool.false_eq_true, if_false]

omit [Geodesy] in
theorem foldRest_unflagged (drive : DetachedDrive) (point : DrivePoint) :
    (foldRest drive point).unflagged = foldRest drive.unflagged point := by
  unfold foldRest
  split
  · rfl
  · rfl

theorem foldDrivePoint_unflagged (drive : DetachedDrive) (point : DrivePoint)
    (p : Option ProjectionPosition) :
    (drive.foldDrivePoint point p).unflagged = drive.unflagged.foldDrivePoint point p := by
  rw [foldDrivePoint_eq, foldDrivePoint_eq, foldRest_unflagged, foldOdometer_unflagged,
    foldCoordinates_unflagged, foldEmitted_unflagged]
  rfl

omit [Geodesy] in
theorem foldedPosition_of_read {id : ℤ} {driveId : Option ℤ} {q : ProjectionPosition}
    (hp : o.fresh.position) (h : positionFromSample id driveId o.carId o.parsed = .ok (some q)) :
    foldedPosition o = some (unlabelled q) := by
  unfold foldedPosition
  rw [if_pos hp]
  unfold positionFromSample at h ⊢
  split at h
  · split at h
    · cases h
    · cases h
  · cases h
    rfl

omit [Geodesy] in
theorem stored_foldedPosition {drive : OpenDrive} {p : Option ProjectionPosition} (hs : o.Sound)
    (hfresh : FreshAt marks o)
    (hlast : ∀ m, drive.lastPositionDateMs = some m → Reached (positionMark marks) m)
    (hstored : Stored drive o p) : foldedPosition o = p.map unlabelled := by
  rcases hstored with ⟨hno, rfl⟩ | ⟨hst, id, q, rfl, hq⟩
  · have hstale : o.fresh.position ≠ true := by
      intro hp
      have hcarried := hs.position_carried hp
      have hall : drive.lastPositionDateMs.all (· < o.parsed.driveTimestampMs) := by
        rw [Option.all_eq_true]
        intro m hm
        exact decide_eq_true ((hlast m hm).lt (hfresh.position hp))
      unfold storesPosition at hno
      rw [hp, hs.parsed.latitude_of_position hcarried, hs.parsed.longitude_of_position hcarried,
        hall] at hno
      cases hno
    unfold foldedPosition
    rw [if_neg hstale]
    rfl
  · simp only [storesPosition, Bool.and_eq_true] at hst
    exact foldedPosition_of_read hst.1.1.1 hq.read

omit [Geodesy] in
theorem foldEmitted_unlabelled (drive : DetachedDrive) (p : Option ProjectionPosition) :
    drive.foldEmitted (p.map unlabelled) = drive.foldEmitted p := by
  cases p with
  | none => rfl
  | some q => rfl

theorem foldOf_eq {p : Option ProjectionPosition} (hp : foldedPosition o = p.map unlabelled)
    (drive : DetachedDrive) : drive.foldDrivePoint (drivePoint o) p = foldOf drive o := by
  unfold foldOf
  rw [foldDrivePoint_eq, foldDrivePoint_eq, hp, foldEmitted_unlabelled]

theorem foldOf_unflagged {a b : DetachedDrive} (h : a.unflagged = b.unflagged) (o : Observation) :
    (foldOf a o).unflagged = (foldOf b o).unflagged := by
  unfold foldOf
  rw [foldDrivePoint_unflagged, foldDrivePoint_unflagged, h]

structure DriveLog where
  opened : DetachedDrive
  folds : List Observation

def DriveLog.before (l : DriveLog) (cutMs : ℤ) : List Observation :=
  l.folds.filter (·.parsed.driveTimestampMs < cutMs)

structure Untravelled (a : DetachedDrive) : Prop where
  folded : a.lastFoldedAtMs = none
  positionDate : a.lastPositionDateMs = none
  latitude : a.lastLatitude = none
  longitude : a.lastLongitude = none
  walk : a.elevationWalk = {}

structure DriveLogged (marks : Watermarks) (drive : OpenDrive) (l : DriveLog) : Prop where
  untravelled : Untravelled l.opened
  main : drive.toDetachedDrive.unflagged = (replay l.opened l.folds).unflagged
  stored_le : ∀ m, drive.lastPositionDateMs = some m → Reached (positionMark marks) m
  motion_le : ∀ o ∈ l.folds, o.fresh.motion →
    Reached marks.lastDriveTimestampMs o.parsed.driveTimestampMs
  position_le : ∀ o ∈ l.folds, o.fresh.position →
    Reached (positionMark marks) o.parsed.driveTimestampMs
  facts : ∀ o ∈ l.folds, hasFreshDriveFacts o
  sound : ∀ o ∈ l.folds, o.Sound
  leads : ∀ lead ∈ drive.leadCheckpoints,
    laterThan lead.cutMs marks.lastDriveTimestampMs ∧ Reached (positionMark marks) lead.cutMs ∧
      lead.drive.unflagged = (replay l.opened (l.before lead.cutMs)).unflagged
  sorted : drive.leadCheckpoints.Pairwise (·.cutMs < ·.cutMs)

structure SameTrail (a b : DetachedDrive) : Prop where
  positionDate : a.lastPositionDateMs = b.lastPositionDateMs
  latitude : a.lastLatitude = b.lastLatitude
  longitude : a.lastLongitude = b.lastLongitude
  walk : a.elevationWalk = b.elevationWalk
  folded : a.lastFoldedAtMs = b.lastFoldedAtMs

theorem foldCoordinates_trail (drive : DetachedDrive) (xy : Option (ℚ × ℚ)) :
    SameTrail (drive.foldCoordinates xy) drive := by
  cases xy with
  | none => exact ⟨rfl, rfl, rfl, rfl, rfl⟩
  | some xy =>
    unfold foldCoordinates
    simp only
    split
    · split
      · split <;> exact ⟨rfl, rfl, rfl, rfl, rfl⟩
      · split <;> exact ⟨rfl, rfl, rfl, rfl, rfl⟩
    · split <;> exact ⟨rfl, rfl, rfl, rfl, rfl⟩

theorem foldDrivePoint_trail (drive : DetachedDrive) (point : DrivePoint)
    (p : Option ProjectionPosition) :
    SameTrail (drive.foldDrivePoint point p) ((foldTime drive point.atMs).foldEmitted p) := by
  have hc := foldCoordinates_trail ((foldTime drive point.atMs).foldEmitted p) point.coordinates
  have ho (a : DetachedDrive) (coarse : Bool) (km : Option ℚ) :
      SameTrail (foldRest (a.foldOdometer coarse km) point) a := by
    unfold foldRest
    cases km with
    | none => split <;> exact ⟨rfl, rfl, rfl, rfl, rfl⟩
    | some x => split <;> exact ⟨rfl, rfl, rfl, rfl, rfl⟩
  have hr := ho (((foldTime drive point.atMs).foldEmitted p).foldCoordinates point.coordinates)
    point.odometerCoarse point.odometerKm
  exact ⟨hr.positionDate.trans hc.positionDate, hr.latitude.trans hc.latitude,
    hr.longitude.trans hc.longitude, hr.walk.trans hc.walk, hr.folded.trans hc.folded⟩

theorem foldOf_folded (a : DetachedDrive) (o : Observation) :
    (foldOf a o).lastFoldedAtMs = raise a.lastFoldedAtMs o.parsed.driveTimestampMs := by
  have htrail := (foldDrivePoint_trail a (drivePoint o) (foldedPosition o)).folded
  refine Eq.trans htrail ?_
  cases foldedPosition o with
  | none => rfl
  | some q => rfl

theorem replay_folded (a : DetachedDrive) (folds : List Observation) :
    (∀ q ∈ folds, Reached (replay a folds).lastFoldedAtMs q.parsed.driveTimestampMs) ∧
      ∀ t, (∀ m, a.lastFoldedAtMs = some m → m ≤ t) → (∀ q ∈ folds, q.parsed.driveTimestampMs ≤ t) →
        ∀ m, (replay a folds).lastFoldedAtMs = some m → m ≤ t := by
  induction folds using reverseRecOn with
  | nil => exact ⟨forall_mem_nil _, fun t ha _ => ha⟩
  | append_singleton folds o ih =>
    rw [replay_concat, foldOf_folded]
    refine ⟨?_, ?_⟩
    · intro q hq
      rcases mem_concat.mp hq with hq | rfl
      · exact reached_raise (.inl (ih.1 q hq))
      · exact reached_raise (.inr (le_refl _))
    · intro t ha hfolds m hm
      have ho := hfolds o (mem_append_right _ mem_cons_self)
      have hrest := ih.2 t ha fun q hq => hfolds q (mem_append_left _ hq)
      cases hm
      cases hold : (replay a folds).lastFoldedAtMs with
      | none => exact ho
      | some w => exact max_le (hrest w hold) ho

omit [Geodesy] in
theorem insertLead_last {leads : List LeadCheckpoint}
    (h : ∀ l ∈ leads, l.cutMs < lead.cutMs) : insertLead lead leads = leads++[lead] := by
  induction leads with
  | nil => rfl
  | cons head tail ih =>
    unfold insertLead
    rw [if_pos (le_of_lt (h head mem_cons_self)), ih fun l hl => h l (mem_cons_of_mem _ hl)]
    rfl

def foldLead (o : Observation) (lead : LeadCheckpoint) : LeadCheckpoint :=
  if (drivePoint o).atMs < lead.cutMs then
    { lead with drive := lead.drive.foldDrivePoint (drivePoint o) none }
  else lead

theorem foldLead_cutMs (o : Observation) (lead : LeadCheckpoint) :
    (foldLead o lead).cutMs = lead.cutMs := by
  unfold foldLead
  split
  · rfl
  · rfl

theorem foldObservation_leads (drive : OpenDrive) (marks : Watermarks) (o : Observation)
    (p : Option ProjectionPosition) : (foldObservation drive marks o p).leadCheckpoints =
      (leadsBeforeFold drive marks o).map (foldLead o) := rfl

variable {drive : OpenDrive} {l : DriveLog} {p : Option ProjectionPosition}

def DriveLog.push (l : DriveLog) (o : Observation) : DriveLog := { l with folds := l.folds++[o] }

omit [Geodesy] in
theorem DriveLog.before_push (l : DriveLog) (o : Observation) (cutMs : ℤ) :
    (l.push o).before cutMs =
      if o.parsed.driveTimestampMs < cutMs then l.before cutMs++[o] else l.before cutMs := by
  unfold DriveLog.before DriveLog.push
  rw [filter_append]
  split_ifs with h
  · simp only [filter_cons, decide_eq_true h, if_true, filter_nil]
  · simp only [filter_cons, decide_eq_false h, Bool.false_eq_true, if_false, filter_nil, append_nil]

theorem DriveLogged.before_lead (h : DriveLogged marks drive l) (hfresh : FreshAt marks o)
    (hlead : isLeadFold marks o) : l.before o.parsed.driveTimestampMs = l.folds := by
  simp only [isLeadFold, Bool.and_eq_true, Bool.not_eq_true'] at hlead
  apply filter_eq_self.mpr
  intro q hq
  have hfacts := h.facts q hq
  simp only [hasFreshDriveFacts, Bool.or_eq_true] at hfacts
  apply decide_eq_true
  rcases hfacts with hm | hp
  · exact (h.motion_le q hq hm).lt hlead.2
  · exact (h.position_le q hq hp).lt (hfresh.position hlead.1.1)

omit [Geodesy] in
theorem mem_keptLeads_iff : lead ∈ keptLeads drive o ↔ lead ∈ drive.leadCheckpoints ∧
      (o.fresh.motion → o.parsed.driveTimestampMs < lead.cutMs) := by
  unfold keptLeads
  split_ifs with hm
  · rw [mem_filter, decide_eq_true_iff]
    exact ⟨fun hx => ⟨hx.1, fun _ => hx.2⟩, fun hx => ⟨hx.1, hx.2 hm⟩⟩
  · exact ⟨fun hx => ⟨hx, fun hx' => absurd hx' hm⟩, And.left⟩

theorem DriveLogged.foldedPosition_none (h : DriveLogged marks drive l) (hfresh : FreshAt marks o)
    (hl : lead ∈ drive.leadCheckpoints) (hlt : o.parsed.driveTimestampMs < lead.cutMs) :
    foldedPosition o = none := by
  have hstale : o.fresh.position ≠ true := by
    intro hp
    have hcut := (h.leads lead hl).2.1.lt (hfresh.position hp)
    omega
  exact if_neg hstale

theorem DriveLogged.keptLead (h : DriveLogged marks drive l) (hfresh : FreshAt marks o)
    (hl : lead ∈ keptLeads drive o)  :
    laterThan lead.cutMs (advanceMarks marks o).lastDriveTimestampMs ∧
    Reached (positionMark (advanceMarks marks o)) lead.cutMs ∧ (foldLead o lead).drive.unflagged =
    (replay l.opened ((l.push o).before lead.cutMs)).unflagged := by
  obtain ⟨hmem, hcut⟩ := mem_keptLeads_iff.mp hl
  obtain ⟨hw, hp, hdrive⟩ := h.leads lead hmem
  refine ⟨laterThan_advance.mpr ⟨hw, hcut⟩, positionMark_advance marks o (.inl hp), ?_⟩
  rw [DriveLog.before_push]
  change unflagged (if o.parsed.driveTimestampMs < lead.cutMs then
    { lead with drive := lead.drive.foldDrivePoint (drivePoint o) none } else lead).drive = _
  split_ifs with hlt
  · have hnone := h.foldedPosition_none hfresh hmem hlt
    rw [replay_concat, ← foldOf_unflagged hdrive o]
    unfold foldOf
    rw [hnone]
  · exact hdrive

theorem DriveLogged.fold (h : DriveLogged marks drive l) (hs : o.Sound) (hfresh : FreshAt marks o)
    (hfacts : hasFreshDriveFacts o) (hstored : Stored drive o p) :
    DriveLogged (advanceMarks marks o) (foldObservation drive marks o p) (l.push o) := by
  have hposition := stored_foldedPosition hs hfresh h.stored_le hstored
  have hmem {P : Observation → Prop} (hold : ∀ q ∈ l.folds, P q) (hnew : P o) :
      ∀ q ∈ (l.push o).folds, P q := by
    intro q hq
    rcases mem_concat.mp hq with hq | rfl
    · exact hold q hq
    · exact hnew
  refine ⟨h.untravelled, ?_, ?_, ?_, ?_, hmem h.facts hfacts, hmem h.sound hs, ?_, ?_⟩
  · change (drive.toDetachedDrive.foldDrivePoint (drivePoint o) p).unflagged =
      (replay l.opened (l.folds++[o])).unflagged
    rw [replay_concat, foldOf_eq hposition]
    exact foldOf_unflagged h.main o
  · intro m hm
    have htrail := (foldDrivePoint_trail drive.toDetachedDrive (drivePoint o) p).positionDate
    have hdate := htrail.symm.trans hm
    apply positionMark_advance
    rcases hstored with ⟨-, rfl⟩ | ⟨hst, id, q, rfl, hq⟩
    · exact .inl (h.stored_le m hdate)
    · simp only [storesPosition, Bool.and_eq_true] at hst
      cases hdate
      exact .inr ⟨hst.1.1.1, le_of_eq hq.dateMs_eq⟩
  · exact hmem (fun q hq hm => motionMark_advance marks o (.inl (h.motion_le q hq hm)))
      (fun hm => motionMark_advance marks o (.inr ⟨hm, le_refl _⟩))
  · exact hmem (fun q hq hp => positionMark_advance marks o (.inl (h.position_le q hq hp)))
      (fun hp => positionMark_advance marks o (.inr ⟨hp, le_refl _⟩))
  · intro lead' hl'
    rw [foldObservation_leads] at hl'
    obtain ⟨lead, hl, rfl⟩ := List.mem_map.mp hl'
    rw [foldLead_cutMs]
    rcases mem_leadsBeforeFold hl with hkept | ⟨hlead, rfl⟩
    · exact h.keptLead hfresh hkept
    · have hbefore := h.before_lead hfresh hlead
      simp only [isLeadFold, Bool.and_eq_true, Bool.not_eq_true'] at hlead
      refine ⟨laterThan_advance.mpr ⟨hlead.2, ?_⟩,
        positionMark_advance marks o (.inr ⟨hlead.1.1, le_refl _⟩), ?_⟩
      · intro hm
        rw [hlead.1.2] at hm
        cases hm
      · rw [DriveLog.before_push, if_neg (lt_irrefl _), hbefore]
        change unflagged (if o.parsed.driveTimestampMs < o.parsed.driveTimestampMs then
          _ else _ : LeadCheckpoint).drive = _
        rw [if_neg (lt_irrefl _)]
        exact h.main
  · rw [foldObservation_leads, leadsBeforeFold_eq]
    apply pairwise_map.mpr
    simp only [foldLead_cutMs]
    have hkept : (keptLeads drive o).Pairwise (·.cutMs < ·.cutMs) := by
      unfold keptLeads
      split
      · exact h.sorted.filter _
      · exact h.sorted
    split
    · rename_i hlead
      have hbelow (lead : LeadCheckpoint) (hl : lead ∈ keptLeads drive o) :
          lead.cutMs < o.parsed.driveTimestampMs := by
        simp only [isLeadFold, Bool.and_eq_true] at hlead
        exact (h.leads lead (mem_keptLeads hl)).2.1.lt (hfresh.position hlead.1.1)
      have happend {leads : List LeadCheckpoint} (hsub : leads.Sublist (keptLeads drive o)) :
          (insertLead { cutMs := o.parsed.driveTimestampMs, drive := drive.toDetachedDrive }
            leads).Pairwise (·.cutMs < ·.cutMs) := by
        rw [insertLead_last fun lead hl => hbelow lead (hsub.subset hl)]
        refine pairwise_append.mpr ⟨hkept.sublist hsub, pairwise_singleton _ _, ?_⟩
        intro lead hl lead' hl'
        rw [mem_singleton.mp hl']
        exact hbelow lead (hsub.subset hl)
      split
      · exact happend (drop_sublist 1 _)
      · exact happend (List.Sublist.refl _)
    · exact hkept

theorem DriveLogged.opened (marks : Watermarks) (id carId start tDrive tGapMs : ℤ)
    (snapshot : Option ParkedSnapshot) :
    DriveLogged marks (openedDrive id carId start tDrive tGapMs snapshot) {
      opened := (openedDrive id carId start tDrive tGapMs snapshot).toDetachedDrive
      folds := [] } := by
  have hempty (drive : OpenDrive) (hu : Untravelled drive.toDetachedDrive)
      (hl : drive.leadCheckpoints = []) :
      DriveLogged marks drive { opened := drive.toDetachedDrive, folds := [] } := by
    refine ⟨hu, rfl, ?_, forall_mem_nil _, forall_mem_nil _, forall_mem_nil _, forall_mem_nil _, ?_,
      ?_⟩
    · intro m hm
      rw [hu.positionDate] at hm
      cases hm
    · rw [hl]
      exact forall_mem_nil _
    · rw [hl]
      exact List.Pairwise.nil
  unfold openedDrive
  cases snapshot with
  | none => exact hempty _ ⟨rfl, rfl, rfl, rfl, rfl⟩ rfl
  | some k =>
    simp only
    split
    · exact hempty _ ⟨rfl, rfl, rfl, rfl, rfl⟩ rfl
    · exact hempty _ ⟨rfl, rfl, rfl, rfl, rfl⟩ rfl

theorem DriveLogged.flagged (h : DriveLogged marks drive l) (flag : Bool) :
    DriveLogged marks { drive with sawOffline := flag } l :=
  ⟨h.untravelled, h.main, h.stored_le, h.motion_le, h.position_le, h.facts, h.sound, h.leads,
    h.sorted⟩

theorem DriveLogged.advance (h : DriveLogged marks drive l) (hno : hasFreshDriveFacts o = false) :
    DriveLogged (advanceMarks marks o) drive l := by
  simp only [hasFreshDriveFacts, Bool.or_eq_false_iff] at hno
  refine ⟨h.untravelled, h.main, fun m hm => positionMark_advance marks o (.inl (h.stored_le m hm)),
    fun q hq hm => motionMark_advance marks o (.inl (h.motion_le q hq hm)),
    fun q hq hp => positionMark_advance marks o (.inl (h.position_le q hq hp)), h.facts, h.sound,
      ?_,
    h.sorted⟩
  intro lead hl
  obtain ⟨hw, hp, hdrive⟩ := h.leads lead hl
  refine ⟨laterThan_advance.mpr ⟨hw, ?_⟩, positionMark_advance marks o (.inl hp), hdrive⟩
  intro hm
  rw [hno.1] at hm
  cases hm

variable {carId : ℤ} {T : ℕ} {s s' : OpenSessionState} {x : LifecycleSample}
  {d total : LifecycleDelta}
  {log : Option DriveLog}

def keepsDrive (s : OpenSessionState) (drive : OpenDrive) (o : Observation) : Bool :=
  !losesDriveEvidence s drive o && o.drive != .park && !o.charge.isPlugged

def nextLog (carId : ℤ) (T : ℕ) (s : OpenSessionState) (x : LifecycleSample) (s' : OpenSessionState)
    (log : Option DriveLog) : Option DriveLog :=
  match observationOf s carId T x, s'.openDrive with
  | none, _ => log
  | some _, none => none
  | some o, some drive' =>
    if s.openDrive.map (·.id) = some drive'.id then
      if hasFreshDriveFacts o then log.map (·.push o) else log
    else (firstDrive s x o).map fun drive => { opened := drive.toDetachedDrive, folds := [o] }

def driveLog (carId : ℤ) (T : ℕ) (xs : List LifecycleSample) : Option DriveLog :=
  history (batchStep carId T) (fun b x b' log => nextLog carId T b.state x b'.state log)
    { state := .new, delta := {}, quarantined := false } none xs

theorem applySamplesWith_logged {I : OpenSessionState → LifecycleDelta → Option DriveLog → Prop}
    {C : OpenSessionState → LifecycleSample → Prop} {xs : List LifecycleSample} {b : LifecycleStep}
    (hcursor : ∀ s total log n, I s total log → I { s with lastObservationId := n } total log)
    (hobserve : ∀ s x o s' d total log, LiveState s → Accounted s total → I s total log → C s x →
      Observed carId T s x o s' d → I s' (mergeStepDelta total d) (nextLog carId T s x s' log))
    (hinit : I .new {} none)
    (hmeet : StepsMeet (batchStep carId T) (fun b x => C b.state x)
      { state := .new, delta := {}, quarantined := false } xs)
    (hrun : applySamplesWith .new carId xs T = .ok b) :
      I b.state b.delta (driveLog carId T xs) := by
  refine (applySamplesWith_history (I := fun s total log => Accounted s total ∧ I s total log)
    (C := fun s _ x => C s x) ?_ ?_ ?_ ⟨Accounted.new, hinit⟩ hmeet hrun).2
  · intro s x s' log hnone
    unfold nextLog
    rw [hnone]
  · rintro s total log n ⟨ha, hi⟩
    exact ⟨ha.moveCursor n, hcursor s total log n hi⟩
  · rintro s x o s' d total log hl ⟨ha, hi⟩ hC ho
    exact ⟨ho.accounted ha, hobserve s x o s' d total log hl ha hi hC ho⟩

theorem Observed.nextLog_kept (ho : Observed carId T s x o s' d) (hd : s.openDrive = some drive)
    (hd' : s'.openDrive = some drive') (hid : drive'.id = drive.id) :
    nextLog carId T s x s' log = if hasFreshDriveFacts o then log.map (·.push o) else log := by
  unfold nextLog
  simp only [ho.delivered, hd', hd, map_some, hid, if_true]

theorem Observed.nextLog_opened {first : OpenDrive} (ho : Observed carId T s x o s' d)
    (ha : Accounted s total) (hd' : s'.openDrive = some drive')
    (hid : drive'.id = s.ids.nextDriveId) (hfirst : firstDrive s x o = some first) :
    nextLog carId T s x s' log = some { opened := first.toDetachedDrive, folds := [o] } := by
  have hne : ¬s.openDrive.map (·.id) = some drive'.id := by
    intro heq
    obtain ⟨drive, hd, hsame⟩ := map_eq_some_iff.mp heq
    have hlt := ha.openDrive_lt hd
    omega
  unfold nextLog
  simp only [ho.delivered, hd', if_neg hne, hfirst, map_some]

theorem Observed.marks_eq (ho : Observed carId T s x o s' d) :
    s'.marks = advanceMarks s.marks o := by
  obtain ⟨s₁, ⟨t⟩, rfl⟩ := ho.passed
  have hmarks : s₁.marks = s.marks := t.final_steady.marks.trans t.facts_same.2.2.1
  change advanceMarks s₁.marks o = _
  rw [hmarks]

def LogBook (s : OpenSessionState) (log : Option DriveLog) : Prop :=
  ∀ drive, s.openDrive = some drive → ∃ l, log = some l ∧ DriveLogged s.marks drive l

theorem LogBook.new : LogBook .new none := by
  intro drive hd
  cases hd

inductive LogPass (s : OpenSessionState) (o : Observation) (log : Option DriveLog) :
    List ProjectionPosition → OpenDrive → Option DriveLog → Prop
  | resting {drive : OpenDrive} (flag : Bool) (hopen : s.openDrive = some drive)
      (hno : hasFreshDriveFacts o = false) : LogPass s o log [] { drive with sawOffline := flag }
        log
  | folded {drive : OpenDrive} {p : Option ProjectionPosition} (flag : Bool)
      (hopen : s.openDrive = some drive) (hkeeps : keepsDrive (applyServiceMode s o) drive o)
      (hfacts : hasFreshDriveFacts o) (hstored : Stored drive o p) :
      LogPass s o log p.toList (foldObservation { drive with sawOffline := flag } s.marks o p)
        (log.map (·.push o))
  | opened {first : OpenDrive} {p : Option ProjectionPosition} (start : ℤ)
      (snapshot : Option ParkedSnapshot)
      (hfirst : first
        = openedDrive s.ids.nextDriveId o.carId start o.parsed.driveTimestampMs o.tGapMs snapshot)
          (hmotion : o.drive = .motion) (hstored : Stored first o p) :
      LogPass s o log p.toList (foldObservation first s.marks o p)
        (some { opened := first.toDetachedDrive, folds := [o] })

omit [Geodesy] in
theorem losesDriveEvidence_congr {f u : OpenSessionState} (h : f.serviceMode = u.serviceMode)
    (drive : OpenDrive) (o : Observation) :
    losesDriveEvidence f drive o = losesDriveEvidence u drive o := by
  unfold losesDriveEvidence
  rw [h]

omit [Geodesy] in
theorem hasFreshDriveFacts_of_motion (hs : o.Sound) (hm : o.drive = .motion) :
    hasFreshDriveFacts o := by
  unfold hasFreshDriveFacts
  rw [hs.motion_fresh hm, Bool.true_or]

theorem Observed.logPass (ho : Observed carId T s x o s' d) (log : Option DriveLog)
    (hl : LiveState s) (ha : Accounted s total) (hd' : s'.openDrive = some drive') :
    ∃ kids, LogPass s o log kids drive' (nextLog carId T s x s' log) ∧
      d.openDrivePositions.filter (·.driveId = some drive'.id) = kids := by
  obtain ⟨f, mid, e, closed, kids, hopen, hm, hnext, hservice, hclosing, hgoing, -, -, -, hkids⟩ :=
    (ho.drivePass hl).pass
  rw [hd'] at hgoing
  have hall : kids.filter (·.driveId = some drive'.id) = kids := by
    apply filter_owner_self
    intro q hq
    obtain ⟨drive, hd, hid⟩ := hgoing.kids_owner hq
    cases hd
    exact hid
  refine ⟨kids, ?_, ?_⟩
  · cases hgoing with
    | @resting drive flag hno =>
      cases hclosing with
      | kept hd _ _ _ =>
        have hd := hopen.symm.trans hd
        rw [ho.nextLog_kept hd hd' rfl, hno]
        exact .resting flag hd hno
    | @folded drive p flag hfacts hstored =>
      cases hclosing with
      | kept hd hkeeps hpark hplug =>
        have hd := hopen.symm.trans hd
        have hkept : keepsDrive (applyServiceMode s o) drive o := by
          unfold keepsDrive
          rw [← losesDriveEvidence_congr hservice, hkeeps, hplug, bne_iff_ne.mpr hpark]
          rfl
        rw [hm] at hd' ⊢
        rw [ho.nextLog_kept hd hd' (foldObservation_id _ s.marks o p), hfacts]
        exact .folded flag hd hkept hfacts hstored
    | @opened p snapshot hmotion hservice hfirst hstored =>
      have hid : (foldObservation (openedDrive f.ids.nextDriveId o.carId (driveStart closed o)
          o.parsed.driveTimestampMs o.tGapMs snapshot) s.marks o p).id = s.ids.nextDriveId := by
        rw [foldObservation_id, (openedDrive_coherent ..).2.1, hnext]
      rw [hm] at hd' ⊢
      rw [ho.nextLog_opened ha hd' hid hfirst]
      rw [hnext] at hstored ⊢
      exact .opened _ snapshot rfl hmotion hstored
  · have hnil : e.openDrivePositions.filter (·.driveId = some drive'.id) = [] := by
      apply filter_owner_nil
      intro q hq hid
      obtain ⟨drive, hd, hid'⟩ := hclosing.children_owner (by rw [hopen]; exact ha.drives.coherent)
          hq
      rw [hclosing.mid_eq_none hq] at hgoing
      have hlt := ha.openDrive_lt (hopen.symm.trans hd)
      have hsame : drive'.id = drive.id := some.inj (hid.symm.trans hid')
      have hnew := hgoing.opened_id
      omega
    rw [hkids, filter_append, hall, hnil, nil_append]

theorem Observed.logBook (ho : Observed carId T s x o s' d) (hl : LiveState s)
    (ha : Accounted s total) (h : LogBook s log) : LogBook s' (nextLog carId T s x s' log) := by
  intro drive' hd'
  rw [ho.marks_eq]
  obtain ⟨kids, hpass, -⟩ := ho.logPass log hl ha hd'
  generalize nextLog carId T s x s' log = log' at hpass ⊢
  cases hpass with
  | @resting drive flag hd hno =>
    obtain ⟨l, hlog, hlogged⟩ := h drive hd
    exact ⟨l, hlog, (hlogged.flagged flag).advance hno⟩
  | @folded drive p flag hd hkeeps hfacts hstored =>
    obtain ⟨l, hlog, hlogged⟩ := h drive hd
    rw [hlog]
    exact ⟨l.push o, rfl, (hlogged.flagged flag).fold ho.sound ho.fresh hfacts hstored⟩
  | @opened first p start snapshot hfirst hmotion hstored =>
    have hblank := DriveLogged.opened s.marks s.ids.nextDriveId o.carId start
      o.parsed.driveTimestampMs o.tGapMs snapshot
    rw [← hfirst] at hblank
    exact ⟨_, rfl, hblank.fold ho.sound ho.fresh (hasFreshDriveFacts_of_motion ho.sound hmotion)
      hstored⟩

end TeslatlasHub.Lifecycle
