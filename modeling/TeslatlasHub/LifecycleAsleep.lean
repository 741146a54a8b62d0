import TeslatlasHub.LifecycleAccounting
import TeslatlasHub.LifecycleStateChain

namespace TeslatlasHub.Lifecycle

open FixedWidth RunRules Option

variable {s s' t : OpenSessionState} {o : Observation} {d d' : LifecycleDelta}

theorem fromText_eq_asleep {text : String} (h : Reach.fromText text = some .asleep) :
    text = "asleep" := by
  unfold Reach.fromText at h
  split at h
  · cases h
  · split at h
    · assumption
    · split at h <;> cases h

theorem derivePhase_asleep (h : derivePhase s o = .asleep) :
    o.reach = some .asleep ∨
    (o.reach = none ∧ (s.lastReach = some "asleep" ∨ s.phase = .asleep)) := by
  have hbelow {reach : Option Reach}
      (hp : (if s.openDrive.isSome then VehiclePhase.driving
        else if s.openUpdate.isSome then .updating
        else if s.openCharge.isSome then .charging
        else if reach = some .online then .online
        else s.phase.effective) = .asleep) : s.phase = .asleep ∧ reach ≠ some .online := by
    split at hp
    · cases hp
    split at hp
    · cases hp
    split at hp
    · cases hp
    split at hp
    · cases hp
    · rename_i hne
      refine ⟨?_, hne⟩
      cases hphase : s.phase <;> rw [hphase] at hp <;> first | rfl | cases hp
  unfold derivePhase at h
  cases hr : o.reach with
  | none =>
    rw [hr, none_or] at h
    refine .inr ⟨rfl, ?_⟩
    split at h
    · rename_i hl
      obtain ⟨text, htext, hfrom⟩ := bind_eq_some_iff.mp hl
      rw [htext, fromText_eq_asleep hfrom]
      exact .inl rfl
    · cases h
    · exact .inr (hbelow h).1
  | some r =>
    rw [hr, some_or] at h
    cases r with
    | asleep => exact .inl rfl
    | offline => cases h
    | online => exact absurd rfl (hbelow h).2

def leavesSessionOpen (s : OpenSessionState) (o : Observation) : Prop :=
  (applyServiceMode s o).serviceMode ≠ some true ∧
    (o.drive = .motion ∨ (anchorsChargeSample s o = true ∧ (chargeStart s.parkedSnapshot o).isSome ∧
      o.charge.isEnd = false))

structure Sleeps (s : OpenSessionState) : Prop where
  phase : s.phase = .asleep → s.lastReach = some "asleep"
  closed : s.lastReach = some "asleep" → s.openDrive = none ∧ s.openCharge = none

variable [Geodesy]

namespace PipelineTrace

theorem asleep_none (t : PipelineTrace s o d s' d') (hs : o.Sound) (h : o.reach = some .asleep) :
    s'.openDrive = none ∧ s'.openCharge = none := by
  have hstale := hs.asleep_stale h
  simp only [Families.any, Bool.or_eq_false_iff] at hstale
  have hclosed : t.driveClosed.openDrive = none := by
    rcases driveCloseStep_open t.driveClosed_eq with hn | ⟨-, drive, -, hl⟩
    · exact hn
    · unfold losesDriveEvidence at hl
      simp only [h, beq_self_eq_true, Bool.true_or, Bool.true_eq_false] at hl
  have hmotion : o.drive ≠ .motion := by
    intro hm
    rw [hs.motion_fresh hm] at hstale
    exact absurd hstale.1.1.1.1.1.1 (by decide)
  have hdrive : t.driveOpened.openDrive = none := by
    rcases driveOpenStep_cases t.driveOpened_eq with ⟨he, -⟩ | ⟨hm, -⟩
    · rw [he]
      exact t.statused_none hclosed
    · exact absurd hm hmotion
  have hcharge : t.chargeOpened.openCharge = none := by
    rcases chargeOpenStep_cases t.chargeOpened_eq with he | ⟨-, -, -, ha, -⟩
    · rw [he, t.driveOpened_charge.openCharge]
      exact t.chargeClosed_none (.inr (.inr h))
    · unfold anchorsChargeSample statesCharge at ha
      simp only [Bool.and_eq_true, hstale, Bool.false_eq_true, false_and] at ha
  refine ⟨t.final_openDrive_none ?_, t.final_openCharge_none hcharge⟩
  rw [t.chargeOpened_drive.openDrive]
  exact hdrive

theorem idle_statused (t : PipelineTrace s o d s' d') (hd : s.openDrive = none)
    (hc : s.openCharge = none) :
    t.statused.openDrive = none ∧ t.statused.openCharge = none ∧ t.statused.parkedSnapshot =
    s.parkedSnapshot := by
  have hsame := t.facts_same
  obtain ⟨hdc, -⟩ := driveCloseStep_none (hsame.1.openDrive.trans hd) t.driveClosed_eq
  have hcc : t.chargeClosed = t.facts := by
    rcases chargeCloseStep_cases t.chargeClosed_eq with ⟨he, -, -⟩ | ⟨charge, hopen, -⟩
    · exact he.trans hdc
    · rw [hdc, hsame.2.1.openCharge, hc] at hopen
      cases hopen
  refine ⟨t.statused_none ?_, ?_, ?_⟩
  · rw [hdc]
    exact hsame.1.openDrive.trans hd
  · obtain ⟨f, hf⟩ := markOffline_frame t.chargeClosed o
    obtain ⟨n, u, hst⟩ := applyUpdateStatus_frame t.statused_eq
    rw [hst, hf, hcc]
    exact hsame.2.1.openCharge.trans hc
  · rw [t.statused_parked, hcc]
    exact t.facts_parked

theorem anchors_eq (t : PipelineTrace s o d s' d') (hc : s.openCharge = none)
    (hopen : t.driveOpened.openCharge = none) :
    anchorsChargeSample t.driveOpened o = anchorsChargeSample s o := by
  unfold anchorsChargeSample
  rw [t.driveOpened_steady.marks, t.facts_same.2.2.1, hopen, hc]

theorem ended_none (t : PipelineTrace s o d s' d') (hend : o.charge.isEnd)
    (ha : anchorsChargeSample t.driveOpened o) (hc : t.driveOpened.openCharge = none) :
    s'.openCharge = none := by
  rcases chargeOpenStep_cases t.chargeOpened_eq with he | ⟨-, -, -, -, opening, -, he⟩
  · exact t.final_openCharge_none (by rw [he]; exact hc)
  · rw [t.final_charge.openCharge]
    have hfold : t.driveFolded.openCharge = some (openedCharge t.driveOpened.ids.nextChargeId
        (((afterClosed t.closedDelta).map (max · opening.startMs)).getD opening.startMs) o
          opening t.driveOpened.parkedSnapshot) := by
      rw [t.driveFolded_charge.openCharge, he]
    have hanchor : anchorsChargeSample t.driveFolded o := by
      have hmarks : t.driveFolded.marks = t.driveOpened.marks :=
        t.driveFolded_steady.marks.trans t.driveOpened_steady.marks.symm
      unfold anchorsChargeSample at ha ⊢
      rw [hmarks, hfold]
      rw [hc] at ha
      exact ha
    rcases chargeSampleStep_cases t.chargeSampled_eq with ⟨hn, -⟩ | ⟨charge, -, hf, -⟩ |
      ⟨charge, -, -, hf, -⟩ | ⟨charge, -, -, -, hclose⟩
    · rw [hfold] at hn
      cases hn
    · rw [hanchor] at hf
      cases hf
    · rw [hend] at hf
      cases hf
    · exact closeOpenCharge_none rfl hclose

theorem idle_none {s₀ : OpenSessionState} {m : PositionMemory}
    (t : PipelineTrace { s₀ with lastPosition := m } o d s' d') (hd : s₀.openDrive = none)
    (hc : s₀.openCharge = none) (h : ¬leavesSessionOpen s₀ o) :
    s'.openDrive = none ∧ s'.openCharge = none := by
  obtain ⟨hsd, hsc, hsp⟩ := t.idle_statused hd hc
  have hservice : t.facts.serviceMode = (applyServiceMode s₀ o).serviceMode :=
    t.facts_same.2.2.2.2.2.2.trans (applyServiceMode_merge s₀ o m)
  have hopened : t.driveOpened = t.statused := by
    rcases driveOpenStep_cases t.driveOpened_eq with ⟨he, -⟩ | ⟨hm, -, hne, -⟩
    · exact he
    · rw [t.statused_steady.serviceMode, hservice] at hne
      exact absurd ⟨hne, .inl hm⟩ h
  have hoc : t.driveOpened.openCharge = none := by
    rw [hopened]
    exact hsc
  refine ⟨t.final_openDrive_none ?_, ?_⟩
  · rw [t.chargeOpened_drive.openDrive, hopened]
    exact hsd
  · rcases chargeOpenStep_cases t.chargeOpened_eq with he | ⟨-, -, hne, ha, opening, hstart, -⟩
    · exact t.final_openCharge_none (by rw [he]; exact hoc)
    · rw [t.driveOpened_steady.serviceMode, hservice] at hne
      cases hend : o.charge.isEnd with
      | true => exact t.ended_none hend ha hoc
      | false =>
        rw [hopened, hsp] at hstart
        rw [t.anchors_eq hc hoc] at ha
        exact absurd ⟨hne, .inr ⟨ha, isSome_of_mem hstart, hend⟩⟩ h

end PipelineTrace

def NoSleepingOpen (carId : ℤ) (T : ℕ) (s : OpenSessionState) (x : LifecycleSample) : Prop :=
  s.lastReach = some "asleep" → ∀ o ∈ observationOf s carId T x, o.reach = none →
    ¬leavesSessionOpen s o

instance (s : OpenSessionState) (o : Observation) : Decidable (leavesSessionOpen s o) :=
  inferInstanceAs (Decidable (_ ∧ _))

instance (carId : ℤ) (T : ℕ) (s : OpenSessionState) (x : LifecycleSample) :
    Decidable (NoSleepingOpen carId T s x) :=
  inferInstanceAs (Decidable (_ → ∀ o ∈ observationOf s carId T x, _))

theorem Observed.sleeps {carId : ℤ} {T : ℕ} {x : LifecycleSample} (ho : Observed carId T s x o s' d)
    (h : Sleeps s) (hcond : NoSleepingOpen carId T s x) : Sleeps s' := by
  obtain ⟨s₁, ⟨t⟩, rfl⟩ := ho.passed
  have hlast : s₁.lastReach = s.lastReach := t.final_steady.lastReach.trans t.facts_same.2.2.2.1
  have hphase : s₁.phase = .asleep → o.reach = some .asleep ∨
      (o.reach = none ∧ s.lastReach = some "asleep") := by
    intro hp
    rw [(phaseStep_cases t.final_eq).1] at hp
    rcases derivePhase_asleep hp with hr | ⟨hr, hl | hl⟩
    · exact .inl hr
    · obtain ⟨p, hsnap⟩ := parkedSnapshotStep_frame t.standalone o
      have hst := t.chargeSampled_steady.trans (standalonePositionStep_steady t.standalone_eq).1
      rw [hsnap] at hl
      exact .inr ⟨hr, (hst.lastReach.trans t.facts_same.2.2.2.1).symm.trans hl⟩
    · exact .inr ⟨hr, h.phase (t.beforePhase.phase.symm.trans hl)⟩
  have hreach : (advanceWatermarks s₁ o).lastReach = (o.reach.map Reach.asStr).or s.lastReach := by
    change (o.reach.map Reach.asStr).or s₁.lastReach = _
    rw [hlast]
  refine ⟨?_, ?_⟩
  · intro hp
    rw [hreach]
    rcases hphase hp with hr | ⟨hr, hl⟩
    · rw [hr]
      rfl
    · rw [hr, hl]
      rfl
  · intro hl
    rw [hreach] at hl
    cases hr : o.reach with
    | none =>
      rw [hr] at hl
      obtain ⟨hd, hc⟩ := h.closed hl
      exact t.idle_none hd hc (hcond hl o ho.delivered hr)
    | some r =>
      rw [hr] at hl
      cases r with
      | asleep => exact t.asleep_none ho.sound hr
      | online => exact absurd (some.inj hl) (by decide)
      | offline => exact absurd (some.inj hl) (by decide)

/-- Asleep excludes every session in every run in which no observation opens a session behind the
last accepted sleep. -/
theorem asleep_excludes_sessions {carId : ℤ} {T : ℕ} {xs : List LifecycleSample} {b : LifecycleStep}
    (hmeet : StepsMeet (batchStep carId T) (fun b x => NoSleepingOpen carId T b.state x)
      ⟨.new, {}, false⟩ xs)
    (h : applySamplesWith .new carId xs T = .ok b) (hp : b.state.phase = .asleep) :
    b.state.openDrive = none ∧ b.state.openCharge = none := by
  have hs := (applySamplesWith_invariant (I := fun s _ => Sleeps s)
    (C := fun s x => NoSleepingOpen carId T s x) (fun s total n hs => ⟨hs.phase, hs.closed⟩)
    (fun s x o s' d total _ hs hc ho => ho.sleeps hs hc) LiveState.new
    ⟨fun hp => absurd hp (by decide), fun hl => absurd hl (by decide)⟩ hmeet h).2
  exact hs.closed (hs.phase hp)

def driveThenSleep : List LifecycleSample :=
  [vehicleDataSample 1 100 [("drive_state", .object [("shift_state", .string "D")])],
    discoverySample 2 200 "asleep", discoverySample 3 300 "asleep"]

omit [Geodesy] in
theorem asleep_excludes_sessions_driveThenSleep :
    ∃ b, @applySamplesWith flatGeodesy .new 1 driveThenSleep defaultOfflineDriveTimeoutMs = .ok b ∧
      b.state.phase = .asleep ∧ b.state.openDrive = none ∧ b.state.openCharge = none := by
  have hok : (@applySamplesWith flatGeodesy .new 1 driveThenSleep
      defaultOfflineDriveTimeoutMs).toOption.any (·.state.phase = .asleep) := by decide +kernel
  obtain ⟨b, hb, hp⟩ := exists_ok_of_any hok
  exact ⟨b, hb, of_decide_eq_true hp,
    @asleep_excludes_sessions flatGeodesy _ _ _ _ (by decide +kernel) hb (of_decide_eq_true hp)⟩

def sleepThenLateDrive : List LifecycleSample :=
  [discoverySample 1 1000 "asleep",
    vehicleDataSample 2 900 [("drive_state", .object [("shift_state", .string "D")])]]

omit [Geodesy] in
/-- The late reading is too old for its reach to count, and fresh enough to open a drive. -/
theorem asleep_with_open_drive :
    ∃ b, @applySamplesWith flatGeodesy .new 1 sleepThenLateDrive defaultOfflineDriveTimeoutMs =
    .ok b ∧ b.state.phase = .asleep ∧ b.state.openDrive.isSome := by
  have hok : (@applySamplesWith flatGeodesy .new 1 sleepThenLateDrive
      defaultOfflineDriveTimeoutMs).toOption.any
      (fun b => b.state.phase = .asleep ∧ b.state.openDrive.isSome) := by decide +kernel
  obtain ⟨b, hb, hp⟩ := exists_ok_of_any hok
  exact ⟨b, hb, of_decide_eq_true hp⟩

end TeslatlasHub.Lifecycle
