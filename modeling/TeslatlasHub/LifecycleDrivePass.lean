import TeslatlasHub.LifecycleDriveRows

namespace TeslatlasHub.Lifecycle

open FixedWidth RunRules List

def Stored (drive : OpenDrive) (o : Observation) (p : Option ProjectionPosition) : Prop :=
  (storesPosition drive o = false ∧ p = none) ∨
    (storesPosition drive o = true ∧ ∃ id q, p = some q ∧ PositionOf o id (some drive.id) q)

def driveStart (closed : LifecycleDelta) (o : Observation) : ℤ :=
  ((afterClosed closed).map (max · o.parsed.driveTimestampMs)).getD o.parsed.driveTimestampMs

variable [Geodesy]

inductive DriveClosing (f : OpenSessionState) (o : Observation) :
    Option OpenDrive → LifecycleDelta → Prop
  | idle (hopen : f.openDrive = none) : DriveClosing f o none {}
  | kept {drive} (hopen : f.openDrive = some drive)
      (hkeeps : losesDriveEvidence f drive o = false) (hpark : o.drive ≠ .park)
      (hplug : o.charge.isPlugged = false) : DriveClosing f o (some drive) {}
  | lost {drive} (hopen : f.openDrive = some drive) (hlost : closesForLackOfEvidence f drive o) :
      DriveClosing f o none (closedDelta {} drive.id (endSource drive true none).2
        (finalizeDrive (endSource drive true none).1 false none))
  | ended {drive p} (hopen : f.openDrive = some drive)
      (hend : closesExplicitly f drive o) (hstored : Stored drive o p) :
      DriveClosing f o none (closedDelta {} drive.id
        ((endSource (foldObservation drive f.marks o p) false (some o.parsed.driveTimestampMs)).2++
          p.toList)
        (finalizeDrive
          (endSource (foldObservation drive f.marks o p) false (some o.parsed.driveTimestampMs)).1
          false (some o.parsed.driveTimestampMs)))

inductive DriveGoing (f : OpenSessionState) (o : Observation) (closed : LifecycleDelta)
    (first : Option OpenDrive) : Option OpenDrive → Option OpenDrive → List ProjectionPosition →
      Prop
  | idle (hno : o.drive ≠ .motion ∨ f.serviceMode = some true) : DriveGoing f o closed first
      none none []
  | resting {drive} (flag : Bool) (hno : hasFreshDriveFacts o = false) :
      DriveGoing f o closed first (some drive) (some { drive with sawOffline := flag }) []
  | folded {drive p} (flag : Bool) (hfacts : hasFreshDriveFacts o) (hstored : Stored drive o p) :
      DriveGoing f o closed first (some drive)
        (some (foldObservation { drive with sawOffline := flag } f.marks o p)) p.toList
  | opened {p} (snapshot : Option ParkedSnapshot) (hmotion : o.drive = .motion)
      (hservice : f.serviceMode ≠ some true)
      (hfirst : first = some (openedDrive f.ids.nextDriveId o.carId (driveStart closed o)
        o.parsed.driveTimestampMs o.tGapMs snapshot))
      (hstored : Stored (openedDrive f.ids.nextDriveId o.carId (driveStart closed o)
        o.parsed.driveTimestampMs o.tGapMs snapshot) o p) :
      DriveGoing f o closed first none (some (foldObservation (openedDrive f.ids.nextDriveId o.carId
        (driveStart closed o) o.parsed.driveTimestampMs o.tGapMs snapshot) f.marks o p)) p.toList

variable {s s' : OpenSessionState} {o : Observation} {d d' : LifecycleDelta}

variable {drive : OpenDrive} {children : List ProjectionPosition} {q : ProjectionPosition}
  {f : OpenSessionState} {mid : Option OpenDrive}

variable {p : Option ProjectionPosition} {x : LifecycleSample} {closed e : LifecycleDelta}
  {first : Option OpenDrive} {kids : List ProjectionPosition}

theorem foldIntoOpenDrive_stored (hd : s.openDrive = some drive)
    (h : foldIntoOpenDrive s o = .ok (s', p)) :
    Stored drive o p ∧ s'.openDrive = some (foldObservation drive s.marks o p) := by
  obtain ⟨n, rfl, hcase⟩ := foldIntoOpenDrive_ok hd h
  refine ⟨?_, rfl⟩
  rcases hcase with ⟨hno, rfl, -⟩ | ⟨hst, -, q, rfl, hq⟩
  · exact .inl ⟨hno, rfl⟩
  · exact .inr ⟨hst, _, q, rfl, hq⟩

theorem foldObservation_id (drive : OpenDrive) (marks : Watermarks) (o : Observation)
    (p : Option ProjectionPosition) : (foldObservation drive marks o p).id = drive.id :=
  (foldDrivePoint_origin drive.toDetachedDrive (drivePoint o) p).id

omit [Geodesy] in
theorem closedDelta_parts (d : LifecycleDelta) (id : ℤ) (children : List ProjectionPosition)
    (row : Option ProjectionDrive) :
    (closedDelta d id children row).drives = d.drives++(closedDelta {} id children row).drives ∧
    (closedDelta d id children row).discardedDriveIds = d.discardedDriveIds++(closedDelta {} id
    children row).discardedDriveIds ∧ (closedDelta d id children row).openDrivePositions =
    d.openDrivePositions++(closedDelta {} id children row).openDrivePositions := by
  cases row with
  | none => exact ⟨(append_nil _).symm, rfl, (append_nil _).symm⟩
  | some r => exact ⟨rfl, (append_nil _).symm, rfl⟩

omit [Geodesy] in
theorem mem_closedDelta_drives {id : ℤ} {row : Option ProjectionDrive} {r : ProjectionDrive}
    (h : r ∈ (closedDelta {} id children row).drives) : row = some r := by
  cases row with
  | none => cases h
  | some r' =>
    rw [mem_singleton.mp h]

omit [Geodesy] in
theorem closedDelta_settled (id : ℤ) (children : List ProjectionPosition)
    (row : Option ProjectionDrive) :
    (closedDelta {} id children row).drives = row.toList ∧
      (closedDelta {} id children row).discardedDriveIds = if row.isNone then [id] else [] := by
  cases row with
  | none => exact ⟨rfl, rfl⟩
  | some r => exact ⟨rfl, rfl⟩

omit [Geodesy] in
theorem closedDelta_children (id : ℤ) (children : List ProjectionPosition)
    (row : Option ProjectionDrive) :
    (closedDelta {} id children row).openDrivePositions = if row.isSome then children else [] := by
  cases row with
  | none => rfl
  | some r => rfl

omit [Geodesy] in
theorem endSource_unbuffered (h : drive.Coherent) (loeEnd : Bool)
    (explicitEnd : Option ℤ) : (endSource drive loeEnd explicitEnd).2 = [] := by
  unfold endSource
  split
  · split
    · rfl
    · exact h.unbuffered
  · split
    · exact h.unbuffered
    · exact h.unbuffered

theorem driveCloseStep_closing (himp : s.importedOpen = none)
    (h : driveCloseStep s o d = .ok (s', d')) :
    ∃ e, DriveClosing s o s'.openDrive e ∧ d'.drives = d.drives++e.drives ∧ d'.discardedDriveIds =
    d.discardedDriveIds++e.discardedDriveIds ∧ d'.openDrivePositions =
    d.openDrivePositions++e.openDrivePositions := by
  have hsame : d.drives = d.drives++[] ∧ d.discardedDriveIds = d.discardedDriveIds++[] ∧
      d.openDrivePositions = d.openDrivePositions++[] :=
    ⟨(append_nil _).symm, (append_nil _).symm, (append_nil _).symm⟩
  have hkeep {t : OpenSessionState} (ht : t.importedOpen = none) (id : ℤ) :
      ((t.importedOpen.bind (·.driveSourceRowId)) == some id) = false := by
    rw [ht]
    rfl
  cases hd : s.openDrive with
  | none =>
    obtain ⟨rfl, rfl⟩ := driveCloseStep_none hd h
    rw [hd]
    exact ⟨{}, .idle hd, hsame⟩
  | some drive =>
    rcases driveCloseStep_cases hd h with ⟨hlost, he⟩ | ⟨hend, t, p, hf, he⟩ |
      ⟨hl, hpark, hplug, rfl, rfl⟩
    · obtain ⟨st, la, lo, k, hc⟩ := closeOpenDrive_eq d true none none hd
      rw [hc, hkeep himp, Option.toList_none, append_nil] at he
      obtain ⟨rfl, rfl⟩ := Prod.mk.inj he
      exact ⟨_, .lost hd hlost, closedDelta_parts _ _ _ _⟩
    · obtain ⟨hstored, hopen⟩ := foldIntoOpenDrive_stored hd hf
      obtain ⟨st, la, lo, k, hc⟩ := closeOpenDrive_eq d false p (some o.parsed.driveTimestampMs)
          hopen
      have ht : t.importedOpen = none := (foldIntoOpenDrive_steady (d := d) hf).1.importedOpen.trans
          himp
      rw [hc, hkeep ht, foldObservation_id] at he
      obtain ⟨rfl, rfl⟩ := Prod.mk.inj he
      exact ⟨_, .ended hd hend hstored, closedDelta_parts _ _ _ _⟩
    · rw [hd]
      exact ⟨{}, .kept hd hl hpark hplug, hsame⟩

structure DrivePass (s : OpenSessionState) (o : Observation) (s' : OpenSessionState)
    (d : LifecycleDelta) (first : Option OpenDrive) : Prop where
  pass : ∃ (f : OpenSessionState) (mid : Option OpenDrive) (e closed : LifecycleDelta)
    (kids : List ProjectionPosition),
    f.openDrive = s.openDrive ∧ f.marks = s.marks ∧ f.ids.nextDriveId = s.ids.nextDriveId ∧
    f.serviceMode = (applyServiceMode s o).serviceMode ∧
    DriveClosing f o mid e ∧ DriveGoing f o closed first mid s'.openDrive kids ∧
    closed.drives = e.drives ∧ d.drives = e.drives ∧ d.discardedDriveIds = e.discardedDriveIds ∧
    d.openDrivePositions = e.openDrivePositions++kids

variable (t : PipelineTrace s o d s' d')

theorem PipelineTrace.statused_nextDriveId :
    t.statused.ids.nextDriveId = t.facts.ids.nextDriveId := by
  obtain ⟨flag, hst, hnext⟩ := t.statused_drive
  rw [hnext]
  cases hd : t.facts.openDrive with
  | none => rw [(driveCloseStep_none hd t.driveClosed_eq).1]
  | some drive =>
    rcases driveCloseStep_cases hd t.driveClosed_eq with ⟨-, he⟩ | ⟨-, u, p, hf, he⟩ | ⟨-, -, -, he,
      -⟩
    · obtain ⟨st, la, lo, k, hc⟩ := closeOpenDrive_eq t.factsDelta true none none hd
      rw [(Prod.mk.inj (he.trans hc)).1]
    · obtain ⟨n, rfl, -⟩ := foldIntoOpenDrive_ok hd hf
      obtain ⟨st, la, lo, k, hc⟩ := closeOpenDrive_eq
        (s := { t.facts with
          ids := { t.facts.ids with nextPositionId := n }
          openDrive := some (foldObservation drive t.facts.marks o p) })
        t.factsDelta false p (some o.parsed.driveTimestampMs) rfl
      rw [(Prod.mk.inj (he.trans hc)).1]
    · rw [he]

theorem PipelineTrace.going (hs : o.Sound) :
    ∃ kids, DriveGoing t.facts o t.closedDelta t.driveOpened.openDrive t.driveClosed.openDrive
    s'.openDrive kids ∧ t.foldedDelta.openDrivePositions = t.closedDelta.openDrivePositions++kids ∧
    t.foldedDelta.drives = t.closedDelta.drives ∧ t.foldedDelta.discardedDriveIds =
    t.closedDelta.discardedDriveIds := by
  have hnil : t.closedDelta.openDrivePositions = t.closedDelta.openDrivePositions++[] :=
    (append_nil _).symm
  have hmarks : t.chargeOpened.marks = t.facts.marks := t.chargeOpened_steady.marks
  have hopened : t.chargeOpened.openDrive = t.driveOpened.openDrive :=
    t.chargeOpened_drive.openDrive
  obtain ⟨flag, hst, -⟩ := t.statused_drive
  have hnext' := t.statused_nextDriveId
  rw [t.final_drive.openDrive]
  cases hmid : t.driveClosed.openDrive with
  | none =>
    rw [hmid, Option.map_none] at hst
    rcases driveOpenStep_cases t.driveOpened_eq with ⟨he, hno⟩ | ⟨hm, -, hservice, he⟩
    · have hnone : t.chargeOpened.openDrive = none := by
        rw [hopened, he]
        exact hst
      have hwhy : o.drive ≠ .motion ∨ t.facts.serviceMode = some true := by
        rcases hno with hm | hsome | hsv
        · exact .inl hm
        · rw [hst] at hsome
          cases hsome
        · exact .inr (t.statused_steady.serviceMode.symm.trans hsv)
      rcases driveFoldStep_cases t.driveFolded_eq with ⟨hs', hd', -⟩ | ⟨-, drive, p, hd, -, -⟩
      · rw [hs', hd', hnone]
        exact ⟨[], .idle hwhy, hnil, rfl, rfl⟩
      · rw [hnone] at hd
        cases hd
    · have hfresh : hasFreshDriveFacts o := by
        unfold hasFreshDriveFacts
        rw [hs.motion_fresh hm, Bool.true_or]
      have hdrive : t.chargeOpened.openDrive = some (openedDrive t.facts.ids.nextDriveId o.carId
          (driveStart t.closedDelta o) o.parsed.driveTimestampMs o.tGapMs
            t.statused.parkedSnapshot) := by
        rw [hopened, he, ← hnext']
        rfl
      rcases driveFoldStep_cases t.driveFolded_eq with ⟨-, -, hno⟩ | ⟨-, drive, p, hd, hf, hd'⟩
      · rcases hno with hno | hno
        · rw [hdrive] at hno
          cases hno
        · rw [hfresh] at hno
          cases hno
      · rw [hdrive] at hd
        cases hd
        obtain ⟨hstored, hopen⟩ := foldIntoOpenDrive_stored hdrive hf
        rw [hopen, hd', hmarks]
        refine ⟨p.toList, .opened t.statused.parkedSnapshot hm ?_ (hopened.symm.trans hdrive)
          hstored, rfl, rfl, rfl⟩
        rw [← t.statused_steady.serviceMode]
        exact hservice
  | some drive =>
    rw [hmid, Option.map_some] at hst
    have hdrive : t.chargeOpened.openDrive = some { drive with sawOffline := flag drive } := by
      rw [hopened]
      rcases driveOpenStep_cases t.driveOpened_eq with ⟨he, -⟩ | ⟨-, hn, -, -⟩
      · rw [he]
        exact hst
      · rw [hst] at hn
        cases hn
    rcases driveFoldStep_cases t.driveFolded_eq with ⟨hs', hd', hno⟩ | ⟨hfresh, drive', p, hd, hf,
      hd'⟩
    · rw [hs', hd', hdrive]
      rcases hno with hno | hno
      · rw [hdrive] at hno
        cases hno
      · exact ⟨[], .resting _ hno, hnil, rfl, rfl⟩
    · obtain ⟨hstored, hopen⟩ := foldIntoOpenDrive_stored hdrive hf
      rw [hopen, hd', hmarks]
      exact ⟨p.toList, .folded _ hfresh hstored, rfl, rfl, rfl⟩

theorem PipelineTrace.drivePass (t : PipelineTrace s o {} s' d) (himp : s.importedOpen = none)
    (hs : o.Sound) : DrivePass s o s' d t.driveOpened.openDrive := by
  obtain ⟨hd, -, hm, -, hi, -, hservice⟩ := t.facts_same
  obtain ⟨e, hclosing, hrows, hdisc, hkids⟩ := driveCloseStep_closing (hi.trans himp)
      t.driveClosed_eq
  obtain ⟨kids, hgoing, hkids', hrows', hdisc'⟩ := t.going hs
  rw [hd.drives] at hrows
  rw [hd.discarded] at hdisc
  rw [hd.children] at hkids
  have hcc := t.chargeClosed_drive
  refine ⟨t.facts, _, e, t.closedDelta, kids, hd.openDrive, hm, hd.nextDriveId,
    hservice.trans (applyServiceMode_merge s o s.lastPosition), hclosing, hgoing,
    hcc.drives.trans hrows, ?_, ?_, ?_⟩
  · rw [t.final_drive.drives, hrows', hcc.drives, hrows]
    rfl
  · rw [t.final_drive.discarded, hdisc', hcc.discarded, hdisc]
    rfl
  · rw [t.final_drive.children, hkids', hcc.children, hkids]
    rfl

def stepsThroughDriveOpen (state : OpenSessionState) (o : Observation) (delta : LifecycleDelta) :
    Except LifecycleError OpenSessionState := do
  let (state, delta) ← applyVersionFacts (applyServiceMode (mergeCarMetadata state o) o) o delta
  let (state, delta) ← driveCloseStep state o delta
  let (state, delta) ← chargeCloseStep state o delta
  let state ← applyUpdateStatus (markOffline state o) o
  driveOpenStep state o delta

def firstDrive (s : OpenSessionState) (x : LifecycleSample) (o : Observation) : Option OpenDrive :=
  (stepsThroughDriveOpen { s with lastPosition := carriedMemory s x } o {}).toOption.bind
    (·.openDrive)

theorem PipelineTrace.driveOpened_steps : stepsThroughDriveOpen s o d = .ok t.driveOpened := by
  unfold stepsThroughDriveOpen
  simp only [t.facts_eq, bind, Except.bind, t.driveClosed_eq, t.chargeClosed_eq, t.statused_eq,
    t.driveOpened_eq]

theorem Observed.drivePass {carId : ℤ} {T : ℕ} (ho : Observed carId T s x o s' d)
    (hl : LiveState s) : DrivePass s o s' d (firstDrive s x o) := by
  obtain ⟨s₁, ⟨t⟩, rfl⟩ := ho.passed
  have hfirst : firstDrive s x o = t.driveOpened.openDrive := by
    unfold firstDrive
    rw [t.driveOpened_steps]
    rfl
  have hnone : ({ s with lastPosition := carriedMemory s x } : OpenSessionState).importedOpen =
      none := hl.noImport
  obtain ⟨f, mid, e, closed, kids, h1, h2, h3, h4, h5⟩ := (t.drivePass hnone ho.sound).pass
  have hservice : (applyServiceMode { s with lastPosition := carriedMemory s x } o).serviceMode =
      (applyServiceMode s o).serviceMode :=
    (applyServiceMode_congr (s := { s with lastPosition := carriedMemory s x }) (t := s) rfl rfl).1
  rw [hfirst]
  exact ⟨f, mid, e, closed, kids, h1, h2, h3, h4.trans hservice, h5⟩

theorem Observed.nextDriveId_le {carId i : ℤ} {T : ℕ}
    (ho : Observed carId T s x o s' d)    (h : i < s.ids.nextDriveId) : i < s'.ids.nextDriveId := by
  obtain ⟨s₁, ⟨t⟩, rfl⟩ := ho.passed
  have hclosed : t.statused.ids.nextDriveId = s.ids.nextDriveId :=
    t.statused_nextDriveId.trans t.facts_same.1.nextDriveId
  have hfold : s₁.ids.nextDriveId = t.driveOpened.ids.nextDriveId := by
    rw [t.final_drive.nextDriveId, ← t.chargeOpened_drive.nextDriveId]
    rcases driveFoldStep_cases t.driveFolded_eq with ⟨he, -, -⟩ | ⟨-, drive, p, hd, hf, -⟩
    · rw [he]
    · obtain ⟨n, he, -⟩ := foldIntoOpenDrive_ok hd hf
      rw [he]
  change i < s₁.ids.nextDriveId
  rw [hfold]
  rcases driveOpenStep_cases t.driveOpened_eq with ⟨he, -⟩ | ⟨-, -, -, he⟩
  · rw [he, hclosed]
    exact h
  · rw [he]
    change i < t.statused.ids.nextDriveId+1
    omega

omit [Geodesy] in
theorem Stored.driveId_eq (h : Stored drive o p) (hq : q ∈ p.toList) :
    q.driveId = some drive.id := by
  rcases h with ⟨-, rfl⟩ | ⟨-, id, q', rfl, hq'⟩
  · cases hq
  · rw [Option.toList_some, mem_singleton] at hq
    rw [hq]
    exact hq'.driveId_eq

theorem DriveGoing.kids_owner {final : Option OpenDrive}
    (h : DriveGoing f o closed first mid final kids) (hq : q ∈ kids) :
    ∃ drive', final = some drive' ∧ q.driveId = some drive'.id := by
  cases h with
  | idle _ => cases hq
  | resting _ _ => cases hq
  | @folded drive p flag hfacts hstored =>
    refine ⟨_, rfl, ?_⟩
    rw [foldObservation_id]
    exact hstored.driveId_eq hq
  | @opened p snapshot hmotion hservice hfirst hstored =>
    refine ⟨_, rfl, ?_⟩
    rw [foldObservation_id]
    exact hstored.driveId_eq hq

theorem DriveClosing.children_owner (h : DriveClosing f o mid e)
    (hc : ∀ drive, f.openDrive = some drive → drive.Coherent)
    (hq : q ∈ e.openDrivePositions) :
    ∃ drive, f.openDrive = some drive ∧ q.driveId = some drive.id := by
  cases h with
  | idle _ => cases hq
  | kept _ _ _ _ => cases hq
  | @lost drive hd _ =>
    rw [closedDelta_children, endSource_unbuffered (hc drive hd), ite_self] at hq
    cases hq
  | @ended drive p hd _ hstored =>
    rw [closedDelta_children, endSource_unbuffered (foldObservation_coherent (hc drive hd) f.marks
      o p).1] at hq
    split at hq
    · exact ⟨drive, hd, hstored.driveId_eq hq⟩
    · cases hq

theorem DriveClosing.mid_eq_none (h : DriveClosing f o mid e) (hq : q ∈ e.openDrivePositions) :
    mid = none := by
  cases h with
  | idle _ => rfl
  | kept _ _ _ _ => cases hq
  | lost _ _ => rfl
  | ended _ _ _ => rfl

theorem DriveGoing.opened_id {drive' : OpenDrive}
    (h : DriveGoing f o closed first none (some drive') kids) : drive'.id = f.ids.nextDriveId := by
  cases h with
  | opened snapshot _ _ _ _ => rw [foldObservation_id, (openedDrive_coherent ..).2.1]

omit [Geodesy] in
theorem filter_owner_self {i : ℤ}
    (h : ∀ q ∈ children, q.driveId = some i) : children.filter (·.driveId = some i) = children :=
  filter_eq_self.mpr fun q hq => decide_eq_true (h q hq)

omit [Geodesy] in
theorem filter_owner_nil {i : ℤ} (h : ∀ q ∈ children, q.driveId ≠ some i) :
    children.filter (·.driveId = some i) = [] :=
  filter_eq_nil_iff.mpr fun q hq he => h q hq (of_decide_eq_true he)

end TeslatlasHub.Lifecycle
