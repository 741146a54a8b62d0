import TeslatlasHub.LifecycleDriveLog

namespace TeslatlasHub.Lifecycle

open FixedWidth RunRules List Option DetachedDrive

variable {marks : Watermarks} {o : Observation} {drive : OpenDrive} {l : DriveLog}
  {p : Option ProjectionPosition} {carId : ℤ} {T : ℕ} {s s' : OpenSessionState}
    {x : LifecycleSample}
  {d total : LifecycleDelta}

def DriveLog.upTo (l : DriveLog) (t : ℤ) : List Observation :=
  l.folds.filter (·.parsed.driveTimestampMs ≤ t)

def leadsCalled (drive : OpenDrive) (marks : Watermarks) (o : Observation) : List LeadCheckpoint :=
  if isLeadFold marks o then
    insertLead { cutMs := o.parsed.driveTimestampMs, drive := drive.toDetachedDrive }
      (keptLeads drive o)
  else keptLeads drive o

def leadsFit (carId : ℤ) (T : ℕ) (s : OpenSessionState) (x : LifecycleSample) : Bool :=
  match observationOf s carId T x, s.openDrive with
  | some o, some drive => !keepsDrive (applyServiceMode s o) drive o ||
      decide ((leadsCalled drive s.marks o).length ≤ kLeadCheckpoints)
  | _, _ => true

def Covered (marks : Watermarks) (drive : OpenDrive) (l : DriveLog) : Prop :=
  ∀ q ∈ l.folds, laterThan q.parsed.driveTimestampMs marks.lastDriveTimestampMs = true →
    ∃ lead ∈ drive.leadCheckpoints, lead.cutMs = q.parsed.driveTimestampMs

theorem insertLead_length (lead : LeadCheckpoint) (leads : List LeadCheckpoint) :
    (insertLead lead leads).length = leads.length+1 := by
  induction leads with
  | nil => rfl
  | cons head tail ih =>
    unfold insertLead
    split
    · rw [length_cons, ih, length_cons]
    · rfl

theorem leadsCalled_length (drive : OpenDrive) (marks : Watermarks) (o : Observation) :
    (leadsCalled drive marks o).length = (keptLeads drive o).length+(if isLeadFold marks o then
      1 else 0) := by
  unfold leadsCalled
  split
  · exact insertLead_length _ _
  · rfl

theorem leadsBeforeFold_of_fit (h : (leadsCalled drive marks o).length ≤ kLeadCheckpoints) :
    leadsBeforeFold drive marks o = leadsCalled drive marks o := by
  rw [leadsCalled_length] at h
  rw [leadsBeforeFold_eq]
  unfold leadsCalled
  split
  · rename_i hlead
    rw [if_pos hlead] at h
    rw [if_neg (by omega)]
  · rfl

theorem leadsBeforeFold_of_motion (hm : o.fresh.motion) :
    leadsBeforeFold drive marks o = leadsCalled drive marks o := by
  have hnot : isLeadFold marks o = false := by
    unfold isLeadFold
    rw [hm, Bool.not_true, Bool.and_false, Bool.false_and]
  rw [leadsBeforeFold_eq, hnot]
  unfold leadsCalled
  rw [hnot]
  rfl

theorem isLeadFold_of_fresh (hfacts : hasFreshDriveFacts o) (hm : o.fresh.motion = false)
    (hlater : laterThan o.parsed.driveTimestampMs marks.lastDriveTimestampMs) :
    isLeadFold marks o := by
  unfold hasFreshDriveFacts at hfacts
  rw [hm, Bool.false_or] at hfacts
  unfold isLeadFold
  rw [hfacts, hm, hlater]
  rfl

variable [Geodesy]

theorem Covered.fold (h : Covered marks drive l) (hfacts : hasFreshDriveFacts o)
    (hall : leadsBeforeFold drive marks o = leadsCalled drive marks o) :
    Covered (advanceMarks marks o) (foldObservation drive marks o p) (l.push o) := by
  have hmem {lead : LeadCheckpoint} (hl : lead ∈ leadsCalled drive marks o) :
      foldLead o lead ∈ (foldObservation drive marks o p).leadCheckpoints := by
    rw [foldObservation_leads, hall]
    exact List.mem_map.mpr ⟨lead, hl, rfl⟩
  intro q hq hlater
  obtain ⟨hold, hnew⟩ := laterThan_advance.mp hlater
  rcases mem_concat.mp hq with hq | rfl
  · obtain ⟨lead, hl, hcut⟩ := h q hq hold
    have hkept : lead ∈ keptLeads drive o := mem_keptLeads_iff.mpr ⟨hl, fun hm => by
      rw [hcut]
      exact hnew hm⟩
    refine ⟨foldLead o lead, hmem ?_, (foldLead_cutMs o lead).trans hcut⟩
    unfold leadsCalled
    split
    · exact mem_insertLead.mpr (.inr hkept)
    · exact hkept
  · have hm : q.fresh.motion = false := Bool.eq_false_iff.mpr fun hm => lt_irrefl _ (hnew hm)
    have hlead := isLeadFold_of_fresh hfacts hm hold
    refine ⟨foldLead q { cutMs := q.parsed.driveTimestampMs, drive := drive.toDetachedDrive },
      hmem ?_, foldLead_cutMs _ _⟩
    unfold leadsCalled
    rw [if_pos hlead]
    exact mem_insertLead.mpr (.inl rfl)

omit [Geodesy] in
theorem Covered.advance (h : Covered marks drive l) : Covered (advanceMarks marks o) drive l :=
  fun q hq hlater => h q hq (laterThan_advance.mp hlater).1

def CoveredLog (s : OpenSessionState) (log : Option DriveLog) : Prop :=
  ∀ drive l, s.openDrive = some drive → log = some l → Covered s.marks drive l

omit [Geodesy] in
theorem CoveredLog.new : CoveredLog .new none := by
  intro drive l hd
  cases hd

theorem Observed.coveredLog {log : Option DriveLog} (ho : Observed carId T s x o s' d)
    (hl : LiveState s) (ha : Accounted s total) (hfit : leadsFit carId T s x)
    (h : CoveredLog s log) : CoveredLog s' (nextLog carId T s x s' log) := by
  intro drive' l' hd' hlog'
  rw [ho.marks_eq]
  obtain ⟨kids, hpass, -⟩ := ho.logPass log hl ha hd'
  generalize nextLog carId T s x s' log = log' at hpass hlog'
  cases hpass with
  | @resting drive flag hd hno => exact (h drive l' hd hlog').advance
  | @folded drive p flag hd hkeeps hfacts hstored =>
    obtain ⟨l, hlog, rfl⟩ := map_eq_some_iff.mp hlog'
    unfold leadsFit at hfit
    rw [ho.delivered, hd] at hfit
    simp only [hkeeps, Bool.not_true, Bool.false_or, decide_eq_true_iff] at hfit
    have hcovered : Covered s.marks { drive with sawOffline := flag } l := h drive l hd hlog
    refine hcovered.fold hfacts (leadsBeforeFold_of_fit ?_)
    rw [leadsCalled_length] at hfit ⊢
    exact hfit
  | @opened first p start snapshot hfirst hmotion hstored =>
    cases hlog'
    have hblank : Covered s.marks first
        { opened := first.toDetachedDrive, folds := [] } := forall_mem_nil _
    exact hblank.fold (hasFreshDriveFacts_of_motion ho.sound hmotion)
      (leadsBeforeFold_of_motion (ho.sound.motion_fresh hmotion))

theorem replay_upTo_folded (h : Untravelled l.opened) :
    (replay l.opened ((l.push o).upTo o.parsed.driveTimestampMs)).effectiveLastFoldedMs ≤
      o.parsed.driveTimestampMs := by
  obtain ⟨hreached, hbound⟩ := replay_folded l.opened ((l.push o).upTo o.parsed.driveTimestampMs)
  have hmem : o ∈ (l.push o).upTo o.parsed.driveTimestampMs :=
    mem_filter.mpr ⟨mem_append_right _ mem_cons_self, decide_eq_true (le_refl _)⟩
  obtain ⟨m, hm, -⟩ := hreached o hmem
  have hle := hbound o.parsed.driveTimestampMs (fun m hm => by rw [h.folded] at hm; cases hm)
    (fun q hq => of_decide_eq_true (mem_filter.mp hq).2) m hm
  unfold effectiveLastFoldedMs
  rw [hm]
  exact hle

omit [Geodesy] in
theorem find_lead_le {leads : List LeadCheckpoint} {lead other : LeadCheckpoint} {t : ℤ}
    (hs : leads.Pairwise (·.cutMs < ·.cutMs)) (hf : leads.find? (t < ·.cutMs) = some lead)
    (hm : other ∈ leads) (ht : t < other.cutMs) : lead.cutMs ≤ other.cutMs := by
  obtain ⟨-, before, after, rfl, hnot⟩ := find?_eq_some_iff_append.mp hf
  rcases mem_append.mp hm with hb | hb
  · have hno := hnot other hb
    simp only [decide_eq_true ht, Bool.not_true, Bool.false_eq_true] at hno
  · rcases mem_cons.mp hb with rfl | ha
    · exact le_refl _
    · have hpair := (pairwise_append.mp hs).2.1
      exact le_of_lt ((pairwise_cons.mp hpair).1 other ha)

theorem endSource_of_motion (h : DriveLogged (advanceMarks marks o) drive l)
    (hc : Covered (advanceMarks marks o) drive l) (hm : o.fresh.motion) (hfresh : FreshAt marks o) :
    (endSource drive false (some o.parsed.driveTimestampMs)).1.unflagged =
      (replay l.opened (l.upTo o.parsed.driveTimestampMs)).unflagged := by
  have hbehind (t : ℤ) (ht : o.parsed.driveTimestampMs < t) :
      laterThan t (advanceMarks marks o).lastDriveTimestampMs := by
    refine laterThan_advance.mpr ⟨laterThan_iff.mpr fun m hw => ?_, fun _ => ht⟩
    have hlt := laterThan_iff.mp (hfresh.motion hm) m hw
    omega
  unfold endSource
  simp only [Bool.false_eq_true, if_false, bind_some]
  split
  · rename_i lead hf
    rw [(h.leads lead (mem_of_find?_eq_some hf)).2.2]
    have hcut := find?_some hf
    rw [decide_eq_true_iff] at hcut
    have hsame : l.before lead.cutMs = l.upTo o.parsed.driveTimestampMs := by
      apply filter_congr
      intro q hq
      apply decide_eq_decide.mpr
      constructor
      · intro hlt
        by_contra hgt
        have hgt : o.parsed.driveTimestampMs < q.parsed.driveTimestampMs := not_le.mp hgt
        obtain ⟨other, hother, heq⟩ := hc q hq (hbehind _ hgt)
        have hle := find_lead_le h.sorted hf hother (by rw [heq]; exact hgt)
        omega
      · omega
    rw [hsame]
  · rename_i hf
    have hall : l.upTo o.parsed.driveTimestampMs = l.folds := by
      apply filter_eq_self.mpr
      intro q hq
      apply decide_eq_true
      by_contra hgt
      obtain ⟨other, hother, heq⟩ := hc q hq (hbehind _ (not_le.mp hgt))
      have hnone := find?_eq_none.mp hf other hother
      rw [heq, decide_eq_true_iff] at hnone
      omega
    rw [hall]
    exact h.main

theorem endSource_of_position (h : DriveLogged marks drive l) (hs : o.Sound)
    (hfresh : FreshAt marks o) (hp : o.fresh.position)
    (hlast : drive.effectiveLastFoldedMs ≤ o.parsed.driveTimestampMs) (hstored : Stored drive o p) :
    (endSource (foldObservation drive marks o p) false (some o.parsed.driveTimestampMs)).1.unflagged
    = (replay l.opened ((l.push o).upTo o.parsed.driveTimestampMs)).unflagged := by
  have hfacts : hasFreshDriveFacts o := by
    unfold hasFreshDriveFacts
    rw [hp, Bool.or_true]
  have hall : (l.push o).upTo o.parsed.driveTimestampMs = (l.push o).folds := by
    apply filter_eq_self.mpr
    intro q hq
    apply decide_eq_true
    rcases mem_append.mp hq with hq | hq
    · obtain ⟨m, hm, hle⟩ := (replay_folded l.opened l.folds).1 q hq
      have hdrive : drive.lastFoldedAtMs = some m := (congrArg lastFoldedAtMs h.main).trans hm
      unfold effectiveLastFoldedMs at hlast
      rw [hdrive] at hlast
      exact hle.trans hlast
    · rw [mem_singleton.mp hq]
  have hnone : (foldObservation drive marks o p).leadCheckpoints.find?
      (o.parsed.driveTimestampMs < ·.cutMs) = none := by
    rw [foldObservation_leads]
    apply find?_eq_none.mpr
    intro lead' hl'
    obtain ⟨lead, hl, rfl⟩ := List.mem_map.mp hl'
    rw [foldLead_cutMs, decide_eq_true_iff]
    rcases mem_leadsBeforeFold hl with hkept | ⟨-, rfl⟩
    · have hlt := (h.leads lead (mem_keptLeads hkept)).2.1.lt (hfresh.position hp)
      omega
    · exact lt_irrefl _
  unfold endSource
  simp only [Bool.false_eq_true, if_false, bind_some]
  rw [hnone, hall]
  exact (h.fold hs hfresh hfacts hstored).main

omit [Geodesy] in
theorem finalizeDrive_unflagged {a b : DetachedDrive} (h : a.unflagged = b.unflagged)
    (keep : Bool) (explicitEnd : Option ℤ) :
    finalizeDrive a keep explicitEnd = finalizeDrive b keep explicitEnd := by
  have hflag (c : DetachedDrive) :
      finalizeDrive c keep explicitEnd = finalizeDrive c.unflagged keep explicitEnd := rfl
  rw [hflag a, hflag b, h]

theorem Observed.ended (ho : Observed carId T s x o s' d) (hl : LiveState s)
    (hd : s.openDrive = some drive) (hend : closesExplicitly (applyServiceMode s o) drive o) :
    ∃ p, Stored drive o p ∧
      d.drives = (finalizeDrive (endSource (foldObservation drive s.marks o p) false
        (some o.parsed.driveTimestampMs)).1 false (some o.parsed.driveTimestampMs)).toList ∧
      d.discardedDriveIds = if (finalizeDrive (endSource (foldObservation drive s.marks o p) false
        (some o.parsed.driveTimestampMs)).1 false (some o.parsed.driveTimestampMs)).isNone then
          [drive.id] else [] := by
  obtain ⟨f, mid, e, closed, kids, hopen, hm, -, hservice, hclosing, -, -, hrows, hdisc, -⟩ :=
    (ho.drivePass hl).pass
  have hloses := losesDriveEvidence_congr hservice drive o
  obtain ⟨hkeeps, hwhy, hcan⟩ := hend
  rw [hd] at hopen
  cases hclosing with
  | idle hno =>
    rw [hno] at hopen
    cases hopen
  | kept hsame _ hpark hplug =>
    rcases hwhy with hp | hp
    · exact absurd hp hpark
    · rw [hplug] at hp
      cases hp
  | lost hsame hlost =>
    rw [hsame] at hopen
    cases hopen
    rcases hlost with hx | ⟨-, -, hx⟩
    · rw [hloses, hkeeps] at hx
      cases hx
    · rw [hcan] at hx
      cases hx
  | @ended drive' p hsame _ hstored =>
    rw [hsame] at hopen
    cases hopen
    rw [hm] at hrows hdisc
    obtain ⟨hr, hi⟩ := closedDelta_settled drive.id
      ((endSource (foldObservation drive s.marks o p) false
        (some o.parsed.driveTimestampMs)).2++p.toList)
      (finalizeDrive (endSource (foldObservation drive s.marks o p) false
        (some o.parsed.driveTimestampMs)).1 false (some o.parsed.driveTimestampMs))
    exact ⟨p, hstored, hrows.trans hr, hdisc.trans hi⟩

/-- A drive closed by Park or a cable at time `t` is finalised from the replay of its log up to `t`,
as long as no sample calls for a fifth lead checkpoint. -/
theorem explicit_end_replays_log {xs : List LifecycleSample} {b step : LifecycleStep}
    (hrun : applySamplesWith .new carId xs T = .ok b)
    (hfit : StepsMeet (batchStep carId T) (fun b x => leadsFit carId T b.state x = true)
      { state := .new, delta := {}, quarantined := false } xs)
    (happly : applySampleWithOfflineDriveTimeout b.state carId x T = .ok step)
    (ho : observationOf b.state carId T x = some o) (hd : b.state.openDrive = some drive)
    (hend : closesExplicitly (applyServiceMode b.state o) drive o) :
    ∃ l p, driveLog carId T xs = some l ∧ Stored drive o p ∧
      (endSource (foldObservation drive b.state.marks o p) false
          (some o.parsed.driveTimestampMs)).1.unflagged =
        (replay l.opened ((l.push o).upTo o.parsed.driveTimestampMs)).unflagged ∧
      step.delta.drives = (finalizeDrive
        (replay l.opened ((l.push o).upTo o.parsed.driveTimestampMs))
        false (some o.parsed.driveTimestampMs)).toList ∧
      step.delta.discardedDriveIds = (if (finalizeDrive (replay l.opened
        ((l.push o).upTo o.parsed.driveTimestampMs)) false
        (some o.parsed.driveTimestampMs)).isNone then [drive.id] else []) ∧
      ∀ r ∈ step.delta.drives, r.endDateMs = max o.parsed.driveTimestampMs drive.startDateMs := by
  obtain ⟨hbook, hcovered⟩ := applySamplesWith_logged
    (I := fun s _ log => LogBook s log ∧ CoveredLog s log)
    (C := fun s x => leadsFit carId T s x = true) (fun _ _ _ _ h => h)
    (fun s x o s' d total log hl ha h hfit ho =>
      ⟨ho.logBook hl ha h.1, ho.coveredLog hl ha hfit h.2⟩)
    ⟨LogBook.new, CoveredLog.new⟩ hfit hrun
  have hl := applySamplesWith_live hrun
  have ha := applySamplesWith_accounted hrun
  obtain ⟨l, hlog, hlogged⟩ := hbook drive hd
  have hcov := hcovered drive l hd hlog
  rcases applySample_cases hl happly with ⟨n, hnone, -⟩ | ⟨o', hob⟩
  · rw [ho] at hnone
    cases hnone
  · cases ho.symm.trans hob.delivered
    obtain ⟨p, hstored, hrows, hdisc⟩ := hob.ended hl hd hend
    have hsource : (endSource (foldObservation drive b.state.marks o p) false
          (some o.parsed.driveTimestampMs)).1.unflagged =
        (replay l.opened ((l.push o).upTo o.parsed.driveTimestampMs)).unflagged := by
      cases hm : o.fresh.motion with
      | true =>
        have hfacts : hasFreshDriveFacts o := by
          unfold hasFreshDriveFacts
          rw [hm, Bool.true_or]
        exact endSource_of_motion (hlogged.fold hob.sound hob.fresh hfacts hstored)
          (hcov.fold hfacts (leadsBeforeFold_of_motion hm)) hm hob.fresh
      | false =>
        have hcan := hend.2.2
        unfold canEndHere at hcan
        rw [hm, Bool.false_or, Bool.and_eq_true, decide_eq_true_iff] at hcan
        exact endSource_of_position hlogged hob.sound hob.fresh hcan.1 hcan.2 hstored
    have hfinal := finalizeDrive_unflagged hsource false (some o.parsed.driveTimestampMs)
    rw [hfinal] at hrows hdisc
    refine ⟨l, p, hlog, hstored, hsource, hrows, hdisc, ?_⟩
    intro r hr
    rw [hrows, mem_toList] at hr
    have hrow := finalizeDrive_eq_some hr
    have horigin := endSource_origin (foldObservation_coherent (ha.drives.coherent drive hd)
      b.state.marks o p).1 false (some o.parsed.driveTimestampMs)
    have hstart : (replay l.opened ((l.push o).upTo o.parsed.driveTimestampMs)).startDateMs =
        drive.startDateMs := by
      calc (replay l.opened ((l.push o).upTo o.parsed.driveTimestampMs)).startDateMs
          = (endSource (foldObservation drive b.state.marks o p) false
              (some o.parsed.driveTimestampMs)).1.startDateMs :=
            (congrArg DetachedDrive.startDateMs hsource).symm
        _ = (foldObservation drive b.state.marks o p).startDateMs := horigin.startDateMs
        _ = drive.startDateMs := (foldDrivePoint_origin drive.toDetachedDrive (drivePoint o)
          p).startDateMs
    rw [hrow.endDateMs_eq, hstart, map_some, getD_some,
      max_eq_left (replay_upTo_folded hlogged.untravelled)]

def positionReading (id time : ℕ) : LifecycleSample :=
  vehicleDataSample id time
    [("drive_state", .object [("latitude", .number 1), ("longitude", .number 1)]),
      ("vehicle_state", .object [("odometer", .number 5)])]

def positionAhead : List LifecycleSample := [gearSample 1 100 "D" 1, positionReading 2 200]

def parkBehind (id : ℕ) : LifecycleSample :=
  vehicleDataSample id 300 [("drive_state", .object [("timestamp", .number (kEarliestMs+150)),
    ("shift_state", .string "P")]), ("vehicle_state", .object [("odometer", .number 6)])]

omit [Geodesy] in
theorem explicit_end_replays_log_lateMotion :
    ∃ (b step : LifecycleStep) (drive : OpenDrive) (l : DriveLog) (o : Observation),
    @applySamplesWith flatGeodesy .new 1 positionAhead defaultOfflineDriveTimeoutMs = .ok b ∧
    b.state.openDrive = some drive ∧ drive.leadCheckpoints.length = 1 ∧ step.delta.drives.length =
    1 ∧ @driveLog flatGeodesy 1 defaultOfflineDriveTimeoutMs positionAhead = some l ∧
    step.delta.drives =
    (finalizeDrive (@replay flatGeodesy l.opened ((l.push o).upTo o.parsed.driveTimestampMs)) false
    (some o.parsed.driveTimestampMs)).toList := by
  have hok : (@applySamplesWith flatGeodesy .new 1 positionAhead defaultOfflineDriveTimeoutMs >>=
      fun b =>
      @applySampleWithOfflineDriveTimeout flatGeodesy b.state 1 (parkBehind 3)
        defaultOfflineDriveTimeoutMs >>= fun step => pure (b, step)).toOption.any
      (fun r => r.2.delta.drives.length = 1 ∧ r.1.state.openDrive.any (fun drive =>
        drive.leadCheckpoints.length = 1 ∧
        (observationOf r.1.state 1 defaultOfflineDriveTimeoutMs (parkBehind 3)).any fun o =>
          losesDriveEvidence (applyServiceMode r.1.state o) drive o = false ∧
          (o.drive = .park ∨ o.charge.isPlugged) ∧ canEndHere drive o = true)) := by
    decide +kernel
  obtain ⟨⟨b, step⟩, hr, hcheck⟩ := exists_ok_of_any hok
  obtain ⟨b', hb, hr⟩ := bind_eq_ok.mp hr
  obtain ⟨step', hstep, hr⟩ := bind_eq_ok.mp hr
  cases hr
  obtain ⟨hone, hdrive⟩ := of_decide_eq_true hcheck
  obtain ⟨drive, hd, hcheck⟩ := (Option.any_eq_true _ _).mp hdrive
  obtain ⟨hleads, hcheck⟩ := of_decide_eq_true hcheck
  obtain ⟨o, ho, hcheck⟩ := (Option.any_eq_true _ _).mp hcheck
  have hfit : StepsMeet (@batchStep flatGeodesy 1 defaultOfflineDriveTimeoutMs)
      (fun b x => leadsFit 1 defaultOfflineDriveTimeoutMs b.state x = true)
      { state := .new, delta := {}, quarantined := false } positionAhead := by decide +kernel
  have hend : closesExplicitly (applyServiceMode b.state o) drive o := by
    unfold closesExplicitly
    exact of_decide_eq_true hcheck
  obtain ⟨l, p, hlog, -, -, hrows, -⟩ := @explicit_end_replays_log _ _ _ _ _ flatGeodesy _ _ _ hb
      hfit
    hstep ho hd hend
  exact ⟨b, step, drive, l, o, hb, hd, hleads, hone, hlog, hrows⟩

def fivePositionsAhead : List LifecycleSample :=
  [gearSample 1 100 "D" 1, positionReading 2 200, positionReading 3 210, positionReading 4 220,
    positionReading 5 230, positionReading 6 240]

omit [Geodesy] in
/-- The fifth position drops the lead checkpoint of the first: the drive never holds more than four,
and a Park at 150 still ends it at the position of 200. -/
theorem explicit_end_counts_a_later_fold :
    (∀ xs ∈ fivePositionsAhead.inits,
      (@applySamplesWith flatGeodesy .new 1 xs defaultOfflineDriveTimeoutMs).toOption.any fun b =>
        b.state.openDrive.all (·.leadCheckpoints.length ≤ 4)) ∧
    (@applySamplesWith flatGeodesy .new 1 fivePositionsAhead defaultOfflineDriveTimeoutMs >>=
      fun b => @applySampleWithOfflineDriveTimeout flatGeodesy b.state 1 (parkBehind 7)
        defaultOfflineDriveTimeoutMs >>= fun step => pure (b, step)).toOption.any
      (fun r =>
        (observationOf r.1.state 1 defaultOfflineDriveTimeoutMs (parkBehind 7)).any (fun o =>
          o.parsed.driveTimestampMs = kEarliestMs+150 ∧ o.drive = .park ∧
            r.1.state.openDrive.any (canEndHere · o = true)) ∧
        r.2.delta.drives.map (fun row => (row.startDateMs, row.endDateMs, row.endLatitude)) =
          [(kEarliestMs+100, kEarliestMs+200, some 1)]) := by
  decide +kernel

end TeslatlasHub.Lifecycle
