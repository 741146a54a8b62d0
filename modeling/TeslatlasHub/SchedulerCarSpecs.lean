import TeslatlasHub.SchedulerCarSteps

namespace TeslatlasHub.Collector

open List

def RestoredVehicle.suspends (restored : RestoredVehicle) : Bool :=
  (restored.row.hold = .none || restored.row.hold = .disabled) && restored.row.phase = .suspended &&
    restored.row.suspendedUntilMs.isSome

namespace ScheduledVehicle

variable (v : ScheduledVehicle) (t : Timing) (now : Instant) (wallMs : ℤ)

section EnterPhase

variable (new : PollPhase) (reason : Reason)

@[simp]
theorem enterPhase_phase : (v.enterPhase t new now wallMs reason).phase = new := by
  unfold enterPhase
  split
  · assumption
  · rfl

@[simp]
theorem enterPhase_suspendAt : (v.enterPhase t new now wallMs reason).suspendAt =
    if v.phase = new ∨ new = .online then v.suspendAt else none := by
  unfold enterPhase
  by_cases hsame : v.phase = new
  · rw [if_pos hsame, if_pos (.inl hsame)]
  · rw [if_neg hsame]
    simp only [hsame, false_or]

@[simp]
theorem enterPhase_suspendedUntil : (v.enterPhase t new now wallMs reason).suspendedUntil =
    if v.phase = new ∨ new = .suspended then v.suspendedUntil else none := by
  unfold enterPhase
  by_cases hsame : v.phase = new
  · rw [if_pos hsame, if_pos (.inl hsame)]
  · rw [if_neg hsame]
    simp only [hsame, false_or]

@[simp]
theorem enterPhase_nextReadDue : (v.enterPhase t new now wallMs reason).nextReadDue =
    if v.phase = new then v.nextReadDue else v.readDueIn t new now := by
  unfold enterPhase
  split <;> rfl

@[simp]
theorem enterPhase_hold : (v.enterPhase t new now wallMs reason).hold = v.hold := by
  unfold enterPhase
  split <;> rfl

@[simp]
theorem enterPhase_settings : (v.enterPhase t new now wallMs reason).settings = v.settings := by
  unfold enterPhase
  split <;> rfl

@[simp]
theorem enterPhase_placeholder :
    (v.enterPhase t new now wallMs reason).placeholder = v.placeholder := by
  unfold enterPhase
  split <;> rfl

@[simp]
theorem enterPhase_reportedState :
    (v.enterPhase t new now wallMs reason).reportedState = v.reportedState := by
  unfold enterPhase
  split <;> rfl

@[simp]
theorem enterPhase_nextCheckDue :
    (v.enterPhase t new now wallMs reason).nextCheckDue = v.nextCheckDue := by
  unfold enterPhase
  split <;> rfl

@[simp]
theorem enterPhase_inFlight : (v.enterPhase t new now wallMs reason).inFlight = v.inFlight := by
  unfold enterPhase
  split <;> rfl

@[simp]
theorem enterPhase_gatedRead : (v.enterPhase t new now wallMs reason).gatedRead = v.gatedRead := by
  unfold enterPhase
  split <;> rfl

@[simp]
theorem enterPhase_suspensionRead :
    (v.enterPhase t new now wallMs reason).suspensionRead = v.suspensionRead := by
  unfold enterPhase
  split <;> rfl

@[simp]
theorem enterPhase_lastRead : (v.enterPhase t new now wallMs reason).lastRead = v.lastRead := by
  unfold enterPhase
  split <;> rfl

end EnterPhase

theorem readInterval_isSome_of_isReadPhase {phase : PollPhase} (hphase : phase.isReadPhase)
    (healthy : Bool) : ∃ interval, t.readInterval phase healthy = some interval := by
  cases phase <;> cases hphase
  case driving => cases healthy <;> cases h : t.drivingStream <;> simp [Timing.readInterval, h]
  all_goals exact ⟨_, rfl⟩

structure Kept (v v' : ScheduledVehicle) : Prop where
  hold : v'.hold = v.hold
  settings : v'.settings = v.settings
  placeholder : v'.placeholder = v.placeholder
  reportedState : v'.reportedState = v.reportedState
  nextCheckDue : v'.nextCheckDue = v.nextCheckDue
  inFlight : v'.inFlight = v.inFlight
  gatedRead : v'.gatedRead = v.gatedRead
  suspensionRead : v'.suspensionRead = v.suspensionRead
  lastRead : v'.lastRead = v.lastRead

theorem Kept.refl : v.Kept v := ⟨rfl, rfl, rfl, rfl, rfl, rfl, rfl, rfl, rfl⟩

theorem enterPhase_kept (new : PollPhase) (reason : Reason) :
    v.Kept (v.enterPhase t new now wallMs reason) := by
  constructor <;> simp

theorem Kept.trans {v v' v'' : ScheduledVehicle} (h : v.Kept v') (h' : v'.Kept v'') : v.Kept v'' :=
  ⟨h'.hold.trans h.hold, h'.settings.trans h.settings, h'.placeholder.trans h.placeholder,
    h'.reportedState.trans h.reportedState, h'.nextCheckDue.trans h.nextCheckDue,
      h'.inFlight.trans h.inFlight,
    h'.gatedRead.trans h.gatedRead, h'.suspensionRead.trans h.suspensionRead,
      h'.lastRead.trans h.lastRead⟩

theorem beginSuspension_kept (suspendUntil : Instant) (reason : Reason) :
    Kept { v with gatedRead := none } (v.beginSuspension t now wallMs suspendUntil reason) :=
  { v.enterPhase_kept t now wallMs .suspended reason with gatedRead := rfl }

structure Read (phase : SnapshotPhase) (v' : ScheduledVehicle) : Prop where
  kept : Kept
    { v with inFlight := false, gatedRead := none, suspensionRead := false, lastRead := some now }
    v'
  moved : v'.phase = .suspended ∧ v'.suspendedUntil.isSome ∧ v'.suspendAt = none ∧
    v'.nextReadDue = none ∨
    v'.phase = phase.phase ∧ (v'.suspendedUntil = if v.phase = phase.phase then
      v.suspendedUntil else none) ∧
      (phase ≠ .online → v'.suspendAt = if v.phase = phase.phase then v.suspendAt else none) ∧
      ∃ interval, t.readInterval v'.phase (v'.streamHealthyForCadence now) = some interval ∧
        v'.nextReadDue = some (deadlineAfter now interval)

theorem succeeded_read (phase : SnapshotPhase) (sleepEligible : Bool) :
    v.Read t now phase (v.succeeded t phase.phase sleepEligible now wallMs).1 := by
  have hphases : phase.phase.isReadPhase ∧ phase.phase ≠ .suspended ∧
      (phase ≠ .online ↔ phase.phase.isSession) ∧ (phase.phase = .online ↔ phase = .online) := by
    cases phase <;> decide
  obtain ⟨hread, hawake, hsession, honline⟩ := hphases
  unfold succeeded
  extract_lets previous gated wakeRead cleared again reason used idle moved paced suspendUntil
  -- the phase is decided first, then the cadence, then whether a suspension begins at once
  have hmoved : cleared.Kept moved ∧ (again ∨ moved.phase = phase.phase ∧
      (moved.suspendedUntil = if v.phase = phase.phase then v.suspendedUntil else none) ∧
      (phase ≠ .online →
        moved.suspendAt = if v.phase = phase.phase then v.suspendAt else none)) := by
    have hentered (why : Reason) : (cleared.enterPhase t phase.phase now wallMs why).suspendedUntil
        =
        if v.phase = phase.phase then v.suspendedUntil else none := by simp [cleared, hawake]
    have hused := cleared.enterPhase_kept t now wallMs phase.phase reason
    have hidle := cleared.enterPhase_kept t now wallMs phase.phase
      (if wakeRead then Reason.wakeRead else .reportedOnline)
    unfold moved
    by_cases hs : phase.phase.isSession
    · rw [if_pos hs]
      refine ⟨cleared.enterPhase_kept .., .inr ⟨cleared.enterPhase_phase .., hentered _, fun hne =>
        ?_⟩⟩
      simp [cleared, honline, hne]
    · have hnot : ¬phase ≠ .online := fun hne => hs (hsession.mp hne)
      rw [if_neg hs]
      by_cases he : sleepEligible
      · by_cases hp : previous = .suspended
        · rw [if_neg (by simp [he]), if_pos hp]
          exact ⟨.refl cleared, .inl (by simp [again, hs, he, hp])⟩
        · have hwatched : ∃ suspendAt, (if wakeRead then
              { idle with suspendAt := some (if idle.stream.connected then now else deadlineAfter
                now kWakeWatch) }
            else if idle.suspendAt = none then
              { idle with suspendAt := some (deadlineAfter (idle.lastInUse.getD now)
                idle.settings.suspendAfterIdle) }
            else idle) = { idle with suspendAt } := by
            repeat' split
            all_goals exact ⟨_, rfl⟩
          obtain ⟨suspendAt, hwatched⟩ := hwatched
          rw [if_neg (by simp [he]), if_neg hp, hwatched]
          exact ⟨{ hidle with }, .inr ⟨cleared.enterPhase_phase .., hentered _, fun hne =>
            absurd hne hnot⟩⟩
      · rw [if_pos (by simp [he])]
        exact ⟨{ hused with }, .inr ⟨cleared.enterPhase_phase .., hentered _, fun hne =>
          absurd hne hnot⟩⟩
  obtain ⟨hkept, hmoved⟩ := hmoved
  have hpaced : ∃ due, paced = { moved with nextReadDue := due } := by
    unfold paced
    split <;> exact ⟨_, rfl⟩
  have hcleared : cleared.Kept paced := by
    obtain ⟨due, hdue⟩ := hpaced
    rw [hdue]
    exact { hkept with }
  split_ifs with hsuspend
  · refine ⟨?_, .inl ⟨paced.enterPhase_phase .., rfl, rfl, rfl⟩⟩
    have hbefore : cleared.Kept { paced with gatedRead := none } :=
      { hcleared with gatedRead := rfl }
    exact { hbefore.trans (paced.beginSuspension_kept t now wallMs suspendUntil
      .suspendedIdle) with }
  · have hagain : again = false := by
      by_contra hne
      exact hsuspend (by simp [Bool.eq_true_of_not_eq_false hne])
    obtain ⟨hphase, huntil, hat⟩ := hmoved.resolve_left (by simp [hagain])
    obtain ⟨interval, hinterval⟩ := readInterval_isSome_of_isReadPhase t (hphase ▸ hread)
      (moved.streamHealthyForCadence now)
    have heq : paced = { moved with nextReadDue := some (deadlineAfter now interval) } := by
      unfold paced
      rw [hinterval]
    refine ⟨{ hcleared with }, .inr ⟨?_, ?_, ?_, interval, ?_, ?_⟩⟩
    all_goals rw [heq]
    · exact hphase
    · exact huntil
    · exact hat
    · exact hinterval

inductive Advanced : ScheduledVehicle → Prop
  | same : Advanced v
  | idle {suspendAt : Instant} (hhold : v.hold = .none) (hphase : v.phase = .online)
      (hat : v.suspendAt = some suspendAt) (hle : suspendAt ≤ now) :
      Advanced (v.beginSuspension t now wallMs (deadlineAfter now v.settings.suspend)
        .suspendedIdle)
  | ended {suspendedUntil : Instant} (hhold : v.hold = .none) (hphase : v.phase = .suspended)
      (huntil : v.suspendedUntil = some suspendedUntil) (hle : suspendedUntil ≤ now)
      (honline : v.reportedState = some .online) :
      Advanced { v with
        suspendedUntil := none
        suspensionRead := true
        gatedRead := none
        nextReadDue := some now
        reason := .suspensionEndedStillOnline }
  | renewed {suspendedUntil : Instant} (hhold : v.hold = .none) (hphase : v.phase = .suspended)
      (huntil : v.suspendedUntil = some suspendedUntil) (hle : suspendedUntil ≤ now)
      (honline : v.reportedState ≠ some .online) :
      Advanced (v.beginSuspension t now wallMs (deadlineAfter now v.settings.suspend)
        .suspendedIdle)
  | stale {deadline : Instant} (hhold : v.hold = .none) (hphase : v.phase = .updating)
      (hdeadline : v.updateStaleDeadline = some deadline) (hle : deadline ≤ now) :
      Advanced (v.enterPhase t .offline now wallMs .updateStale).clearPendingReads

theorem advanceTimers_advanced : v.Advanced t now wallMs (v.advanceTimers t now wallMs).1 := by
  have hany {o : Option Instant} (h : o.any (· ≤ now)) : ∃ x, o = some x ∧ x ≤ now := by
    obtain ⟨x, hx, hle⟩ := (Option.any_eq_true _ _).mp h
    exact ⟨x, hx, of_decide_eq_true hle⟩
  unfold advanceTimers
  split
  · exact .same
  rename_i hhold
  have hhold : v.hold = .none := Decidable.not_not.mp hhold
  split
  · rename_i hphase
    split
    · rename_i hat
      obtain ⟨_, hat, hle⟩ := hany hat
      exact .idle hhold hphase hat hle
    · exact .same
  · rename_i hphase
    split
    · rename_i huntil
      obtain ⟨_, huntil, hle⟩ := hany huntil
      split
      · rename_i honline
        exact .ended hhold hphase huntil hle (of_decide_eq_true honline)
      · rename_i honline
        exact .renewed hhold hphase huntil hle
          (of_decide_eq_false (Bool.eq_false_of_not_eq_true honline))
    · exact .same
  · rename_i hphase
    split
    · rename_i hstale
      obtain ⟨_, hstale, hle⟩ := hany hstale
      exact .stale hhold hphase hstale hle
    · exact .same
  · exact .same

theorem advanceTimers_hold : (v.advanceTimers t now wallMs).1.hold = v.hold := by
  have hadvanced := v.advanceTimers_advanced t now wallMs
  generalize (v.advanceTimers t now wallMs).1 = v' at hadvanced ⊢
  cases hadvanced <;> simp [beginSuspension, clearPendingReads]

theorem advanceTimers_inFlight : (v.advanceTimers t now wallMs).1.inFlight = v.inFlight := by
  have hadvanced := v.advanceTimers_advanced t now wallMs
  generalize (v.advanceTimers t now wallMs).1 = v' at hadvanced ⊢
  cases hadvanced <;> simp [beginSuspension, clearPendingReads]

def reportNoted (state : ReportedState) : ScheduledVehicle :=
  { v with
    nextProbeDue := v.probeOnReport state now
    vehicle := { v.vehicle with state }
    reportedState := some state }

inductive Reported : ReportedState → ScheduledVehicle → Prop
  | inactive (state : ReportedState) (hin : v.isInactive) : Reported state (v.reportNoted now state)
  | asleep (hin : v.isInactive = false) : Reported .asleep
      ((v.reportNoted now .asleep).enterPhase t .asleep now wallMs
        .reportedAsleep).clearPendingReads
  | stillOffline (hin : v.isInactive = false) (hphase : v.phase = .updating ∨ v.phase = .offline) :
      Reported .offline (v.reportNoted now .offline)
  | offline (fromSession : Bool) (hin : v.isInactive = false) (hupdating : v.phase ≠ .updating)
      (hoffline : v.phase ≠ .offline) : Reported .offline
      ({ v.reportNoted now .offline with offlineFromSession := fromSession }.enterPhase t .offline
        now wallMs
        .reportedOffline).clearPendingReads
  | firstContact (hphase : v.phase = .unknown) (hhold : v.hold = .none) (hflight : v.inFlight =
      false)
      (hdue : v.nextReadDue = none) : Reported .online
      { v.reportNoted now .online with nextReadDue := some now, reason := .firstContactRead }
  | sessionReturn (hphase : v.phase = .offline) (hhold : v.hold = .none) (hflight : v.inFlight =
      false) :
      Reported .online
        { v.reportNoted now .online with nextReadDue := some now, reason := .sessionReturn }
  | wake (hphase : v.phase = .asleep ∨ v.phase = .offline) (hhold : v.hold = .none)
      (hflight : v.inFlight = false) : Reported .online
      { v.reportNoted now .online with
        lastWakeRead := some now, wakeReadPending := true, nextReadDue := some now, reason :=
          .wakeRead }
  | wakeLimited (suspendUntil : Instant) (hphase : v.phase = .asleep ∨ v.phase = .offline)
      (hhold : v.hold = .none) :
      Reported .online ((v.reportNoted now .online).beginSuspension t now wallMs
        suspendUntil .wakeReadLimited)
  | online (hin : v.isInactive = false) : Reported .online (v.reportNoted now .online)
  | other (text : String) (hin : v.isInactive = false) :
      Reported (.other text) (v.reportNoted now (.other text))

theorem applyReportedState_reported (state : ReportedState) :
    v.Reported t now wallMs state (v.applyReportedState t state now wallMs).1 := by
  unfold applyReportedState
  dsimp only
  split
  · rename_i hin
    exact .inactive state hin
  · rename_i hin
    have hactive : v.isInactive = false := Bool.eq_false_of_not_eq_true hin
    split
    · exact .asleep hactive
    · split
      · rename_i hphase
        exact .stillOffline hactive (.inl hphase)
      · rename_i hphase
        exact .stillOffline hactive (.inr hphase)
      · rename_i hupdating hoffline
        exact .offline _ hactive hupdating hoffline
    · split
      · rename_i hfirst
        simp only [Bool.and_eq_true, decide_eq_true_eq, Bool.not_eq_true'] at hfirst
        exact .firstContact hfirst.1.1.1 hfirst.1.1.2 hfirst.1.2 hfirst.2
      · split
        · rename_i hback
          simp only [Bool.and_eq_true, Bool.or_eq_true, decide_eq_true_eq,
            Bool.not_eq_true'] at hback
          obtain ⟨⟨⟨_, hhold⟩, hflight⟩, hphase⟩ := hback
          unfold onlineAfterSleep
          split
          · rename_i hsession
            simp only [Bool.and_eq_true, decide_eq_true_eq] at hsession
            exact .sessionReturn hsession.1 hhold hflight
          · split
            · exact .wake hphase hhold hflight
            · exact .wakeLimited _ hphase hhold
        · exact .online hactive
    · exact .other _ hactive

inductive Evidenced (evidence : FrameEvidence) : ScheduledVehicle → Prop
  | same : Evidenced evidence v
  | moving (hmotion : evidence.motion)
      (hphase : v.phase = .driving ∨ v.phase = .suspended ∧ v.hold ≠ .none) :
      Evidenced evidence { v with lastInUse := some now }
  | gated (hmotion : evidence.motion) (hphase : v.phase = .suspended) (hhold : v.hold = .none) :
      Evidenced evidence ({ v with lastInUse := some now, gatedRead := some .motion }.makeReadDue
        t now)
  | driving (hmotion : evidence.motion) (hdriving : v.phase ≠ .driving) (hsuspended : v.phase ≠
      .suspended)
      (hhold : v.hold = .none) : Evidenced evidence
      (({ v with lastInUse := some now }.enterPhase t .driving now wallMs
        .useEvidenceStream).makeReadDue t now)
  | drivingHeld (hmotion : evidence.motion) (hdriving : v.phase ≠ .driving)
      (hsuspended : v.phase ≠ .suspended) (hhold : v.hold ≠ .none) : Evidenced evidence
      ({ v with lastInUse := some now }.enterPhase t .driving now wallMs .useEvidenceStream)
  | parked (hmotion : evidence.motion = false) (hparked : evidence.parkedGear)
      (hphase : v.phase = .driving)
      (hhold : v.hold = .none) : Evidenced evidence (v.makeReadDue t now)
  | power (hmotion : evidence.motion = false) (hwants : evidence.wantsRead)
      (hphase : v.phase.isSession = false) (hhold : v.hold = .none) : Evidenced evidence
      ({ v with
        lastPowerTrigger := some now
        gatedRead :=
          if v.phase = PollPhase.suspended then some (v.gatedRead.getD .power) else v.gatedRead
            }.makeReadDue t now)

theorem applyFrameEvidence_evidenced (evidence : FrameEvidence) :
    v.Evidenced t now wallMs evidence (v.applyFrameEvidence t evidence now wallMs) := by
  unfold applyFrameEvidence
  dsimp only
  split
  · exact .same
  split
  · rename_i hmotion
    split
    · rename_i hphase
      exact .moving hmotion (.inl hphase)
    · rename_i hphase
      split
      · rename_i hhold
        exact .gated hmotion hphase hhold
      · rename_i hhold
        exact .moving hmotion (.inr ⟨hphase, hhold⟩)
    · rename_i hdriving hsuspended
      split
      · rename_i hhold
        exact .driving hmotion hdriving hsuspended (by simpa using hhold)
      · rename_i hhold
        exact .drivingHeld hmotion hdriving hsuspended (by simpa using hhold)
  · rename_i hmotion
    have hmotion : evidence.motion = false := Bool.eq_false_of_not_eq_true hmotion
    split
    · exact .same
    rename_i hhold
    have hhold : v.hold = .none := Decidable.not_not.mp hhold
    split
    · rename_i hparked
      simp only [Bool.and_eq_true, decide_eq_true_eq] at hparked
      exact .parked hmotion hparked.1 hparked.2 hhold
    · split
      · rename_i hpower
        simp only [Bool.and_eq_true, Bool.not_eq_true'] at hpower
        exact .power hmotion hpower.1.1 hpower.1.2 hhold
      · exact .same

def settingsTaken (hubId : Uuid) (settings : CarSettings) : ScheduledVehicle :=
  { v with
    hubId := some hubId
    vehicle := { v.vehicle with settings }
    settings := EffectiveSettings.fromCar settings }

inductive Switched (hubId : Uuid) (settings : CarSettings) : ScheduledVehicle → Prop
  | same : Switched hubId settings (v.settingsTaken hubId settings)
  | disabled : Switched hubId settings
      { v.settingsTaken hubId settings with
        hold := .disabled
        nextReadDue := none
        nextCheckDue := none
        nextProbeDue := none
        suspendAt := none
        suspendedUntil := none
        reason := .vehicleDisabled }
  | enabled (hhold : v.hold = .disabled) : Switched hubId settings
      ({ v.settingsTaken hubId settings with hold := .none, nextReadDue := none }.enterPhase t
        .unknown now wallMs
        .vehicleEnabled)

inductive Configured (hubId : Uuid) (settings : CarSettings) : ScheduledVehicle → Prop
  | same : v.vehicle.settings = settings → Configured hubId settings { v with hubId := some hubId }
  | timed {w : ScheduledVehicle} (suspendAt suspendedUntil : Option Instant)
      (hswitched : v.Switched t now wallMs hubId settings w)
      (hat : suspendAt = w.suspendAt ∨ w.suspendAt.isSome ∧ suspendAt.isSome)
      (huntil : suspendedUntil = w.suspendedUntil ∨ v.vehicle.settings.suspendMin ≠
        settings.suspendMin ∧
        w.phase = .suspended ∧ suspendedUntil.isSome) :
      Configured hubId settings { w with suspendAt, suspendedUntil }

theorem applySettings_configured (hubId : Uuid) (settings : CarSettings) :
    v.Configured t now wallMs hubId settings (v.applySettings t hubId settings now wallMs) := by
  unfold applySettings
  extract_lets old mapped vehicle taken switched idled
  split
  · rename_i hsame
    exact .same hsame
  have hswitched : v.Switched t now wallMs hubId settings switched := by
    unfold switched
    split
    · exact .disabled
    split_ifs with henabled
    · simp only [Bool.and_eq_true, decide_eq_true_eq] at henabled
      exact .enabled henabled.2
    · exact .same
  have hidled : ∃ suspendAt, idled = { switched with suspendAt } ∧
      (suspendAt = switched.suspendAt ∨ switched.suspendAt.isSome ∧ suspendAt.isSome) := by
    unfold idled
    split
    · rename_i hat _
      split
      · exact ⟨_, rfl, .inr ⟨by rw [hat]; rfl, rfl⟩⟩
      · exact ⟨switched.suspendAt, rfl, .inl rfl⟩
    · exact ⟨switched.suspendAt, rfl, .inl rfl⟩
  obtain ⟨suspendAt, hidled, hat⟩ := hidled
  split_ifs with hchanged
  · simp only [Bool.and_eq_true, decide_eq_true_eq] at hchanged
    rw [hidled] at hchanged ⊢
    exact .timed (w := switched) suspendAt (some _) hswitched hat (.inr ⟨hchanged.1, hchanged.2,
      rfl⟩)
  · rw [hidled]
    exact .timed suspendAt switched.suspendedUntil hswitched hat (.inl rfl)

variable {v} in
theorem releaseHold_of_isHeld (hheld : v.isHeld) (reason : Reason) :
    v.releaseHold reason now wallMs =
    { v.stopTimers with
      hold := .none
      nextProbeDue := none
      inFlight := false
      consecutiveFailures := 0
      firstFailure := none
      lastError := none
      offlineFromSession := false
      phase := .unknown
      phaseSince := (now, wallMs)
      reason } :=
  if_pos hheld

variable (restored : Option RestoredVehicle)

def withRow : ScheduledVehicle :=
  if v.placeholder then
    restored.elim { v with placeholder := false }
      ({ v with placeholder := false }.applyRestored · now wallMs)
  else v

def named (state : ReportedState) : ScheduledVehicle :=
  let v := v.withRow now wallMs restored
  { v with vehicle := { v.vehicle with state } }.noteListed now wallMs

variable {v t now wallMs}

@[simp]
theorem applyRestored_placeholder (restored : RestoredVehicle) :
    (v.applyRestored restored now wallMs).placeholder = v.placeholder := by
  grind [applyRestored]

@[simp]
theorem applyRestored_suspensionRead (restored : RestoredVehicle) :
    (v.applyRestored restored now wallMs).suspensionRead = v.suspensionRead := by
  grind [applyRestored]

@[simp]
theorem applyRestored_nextReadDue (restored : RestoredVehicle) :
    (v.applyRestored restored now wallMs).nextReadDue = v.nextReadDue := by
  grind [applyRestored]

@[simp]
theorem withRow_placeholder : (v.withRow now wallMs restored).placeholder = false := by
  unfold withRow
  split_ifs with hlisted
  · cases restored <;> simp
  · exact Bool.eq_false_of_not_eq_true hlisted

@[simp]
theorem withRow_suspensionRead :
    (v.withRow now wallMs restored).suspensionRead = v.suspensionRead := by
  unfold withRow
  split
  · cases restored <;> simp
  · rfl

@[simp]
theorem noteListed_placeholder : (v.noteListed now wallMs).placeholder = v.placeholder := by
  unfold noteListed
  dsimp only
  split <;> rfl

@[simp]
theorem noteListed_suspensionRead :
    (v.noteListed now wallMs).suspensionRead = v.suspensionRead := by
  unfold noteListed
  dsimp only
  split <;> rfl

variable {state : ReportedState}

variable {v' : ScheduledVehicle}

theorem Reported.placeholder (h : v.Reported t now wallMs state v') :
    v'.placeholder = v.placeholder := by
  cases h <;> simp [reportNoted, clearPendingReads, beginSuspension]

theorem Reported.suspensionRead
    (h : v.Reported t now wallMs state v') (hread : v'.suspensionRead) : v.suspensionRead := by
  cases h with
  | asleep | offline => cases hread
  | wakeLimited => simpa [reportNoted, beginSuspension] using hread
  | _ => exact hread

theorem acceptListed_placeholder (state : ReportedState) :
    (v.acceptListed t restored state now wallMs).1.placeholder = false := by
  have hreported := (v.named now wallMs restored state).applyReportedState_reported t now wallMs
      state
  exact hreported.placeholder.trans (by simp [named])

theorem acceptListed_suspensionRead {restored : Option RestoredVehicle}
    (hread : (v.acceptListed t restored state now wallMs).1.suspensionRead) : v.suspensionRead := by
  have hreported := (v.named now wallMs restored state).applyReportedState_reported t now wallMs
      state
  simpa [named] using hreported.suspensionRead hread

theorem acceptAll_rule {P : ScheduledVehicle → Prop} {restored : Option RestoredVehicle}
    {states : List ReportedState}
    (hlisted : ∀ v, ∀ state ∈ states, P v → P (v.acceptListed t restored state now wallMs).1) :
    ∀ {v : ScheduledVehicle}, P v → P (v.acceptAll t restored now wallMs states).1 := by
  induction states with
  | nil => exact fun h => h
  | cons state rest ih =>
    intro v h
    exact ih (fun v x hx => hlisted v x (mem_cons_of_mem state hx))
      (hlisted v state mem_cons_self h)

end ScheduledVehicle

namespace VehicleScheduler

variable {s : VehicleScheduler} {m : Moment} {i : Input} {id : VehicleId} {v : ScheduledVehicle}

variable {vehicles : List ListedVehicle}

theorem all_named {c : ReportedState → Bool}
    (h : (vehicles.all fun incoming => incoming.id ≠ id || c incoming.vehicle.state)) :
    ∀ state ∈ (vehicles.filter (·.id = id)).map (·.vehicle.state), c state := by
  intro state hin
  obtain ⟨incoming, hnamed, rfl⟩ := mem_map.mp hin
  obtain ⟨hlisted, hid⟩ := mem_filter.mp hnamed
  have hall := all_eq_true.mp h incoming hlisted
  rw [decide_eq_true_eq] at hid
  simpa only [hid, ne_eq, not_true_eq_false, decide_false, Bool.false_or] using hall

theorem NewCar.rule {P : ScheduledVehicle → Prop} (hnew : s.NewCar m i id v)
    (hconfigured : ∀ configured (car : ConfiguredCar), i = .settings configured →
    P (.configuredOnly car.hubId car.settings m.now (s.wallOrLast m)) ∧ ∀ r :
    RestoredVehicle, r.row.hold = .removed ∨ r.row.hold = .paused ∨ r.row.hold = .service →
    P
    ((ScheduledVehicle.configuredOnly car.hubId car.settings m.now (s.wallOrLast m)).applyRestored
    r m.now (s.wallOrLast m)))
    (hlisted : ∀ vehicles vehicle, i = .list vehicles → P (.new vehicle m.now (s.wallOrLast m)) ∧
    ∀ r, P
    ((ScheduledVehicle.new vehicle m.now (s.wallOrLast m)).applyRestored r m.now
    (s.wallOrLast m))) : P v := by
  cases hnew with
  | @configured configured _ car =>
    obtain ⟨hplain, hrow⟩ := hconfigured configured car rfl
    unfold placeholderFor
    split
    · split
      · rename_i hheld
        simp only [Bool.or_eq_true, decide_eq_true_eq, or_assoc] at hheld
        exact hrow _ hheld
      · exact hplain
    · exact hplain
  | @listed vehicles incoming _ hnone =>
    obtain ⟨hplain, hrow⟩ := hlisted vehicles incoming.vehicle rfl
    unfold listedCar
    rw [hnone]
    cases s.restored.get? incoming.id with
    | none => exact hplain
    | some restored => exact hrow restored

theorem NewCar.nextReadDue (hnew : s.NewCar m i id v) : v.nextReadDue = none :=
  hnew.rule (P := (·.nextReadDue = none)) (fun _ _ _ => ⟨rfl, fun _ _ => by simp; rfl⟩)
    (fun _ _ _ => ⟨rfl, fun _ => by simp; rfl⟩)

theorem NewCar.suspensionRead (hnew : s.NewCar m i id v) : v.suspensionRead = false :=
  hnew.rule (P := (·.suspensionRead = false)) (fun _ _ _ => ⟨rfl, fun _ _ => by simp; rfl⟩)
    (fun _ _ _ => ⟨rfl, fun _ => by simp; rfl⟩)

theorem NewCar.placeholder (hnew : s.NewCar m (.list vehicles) id v) : v.placeholder = false :=
  hnew.rule (P := (·.placeholder = false)) (fun _ _ hi => nomatch hi)
    (fun _ _ _ => ⟨rfl, fun _ => by simp; rfl⟩)

end VehicleScheduler

namespace VehicleScheduler

variable {s : VehicleScheduler} {m : Moment} {id : VehicleId} {v : ScheduledVehicle}
  {dueAt : ScheduledVehicle → Option Instant} {capacity : ℕ} {now : Instant}

theorem of_mem_takeDue (h : id ∈ s.takeDue dueAt capacity now) :
    ∃ v due, s.vehicles.get? id = some v ∧ dueAt v = some due ∧ due ≤ now := by
  obtain ⟨⟨due, id'⟩, htaken, rfl⟩ := mem_map.mp h
  have hdue := (mem_insertionSort dueBefore).mp (mem_of_mem_take htaken)
  obtain ⟨⟨id', v⟩, hentry, hcar⟩ := mem_filterMap.mp hdue
  obtain ⟨due', hfilter, heq⟩ := Option.map_eq_some_iff.mp hcar
  cases heq
  obtain ⟨hat, hle⟩ := Option.filter_eq_some_iff.mp hfilter
  exact ⟨v, due, OrderedMap.get?_eq_some.mpr hentry, hat, by simpa using hle⟩

theorem takeDue_ne_nil {due : Instant} (hv : s.vehicles.get? id = some v) (hat : dueAt v = some due)
    (hle : due ≤ now) (hcapacity : 0 < capacity) : s.takeDue dueAt capacity now ≠ [] := by
  have hmem : (due, id) ∈ s.vehicles.entries.filterMap fun e => ((dueAt e.2).filter (· ≤ now)).map
      (·, e.1) := by
    refine mem_filterMap.mpr ⟨(id, v), OrderedMap.get?_eq_some.mp hv, ?_⟩
    simp [hat, hle]
  intro hnil
  unfold takeDue at hnil
  have hsorted := (mem_insertionSort dueBefore).mpr hmem
  rw [map_eq_nil_iff, take_eq_nil_iff] at hnil
  rcases hnil with hzero | hnone
  · omega
  · rw [hnone] at hsorted
    cases hsorted

theorem of_mem_dueVehicles (h : id ∈ (s.dueVehicles m).2) :
    ∃ v due, s.vehicles.get? id = some v ∧ s.account.requestsAllowed m.now ∧
    (v.advanceTimers s.timing m.now (s.wallOrLast m)).1.hold = .none ∧
    (v.advanceTimers s.timing m.now (s.wallOrLast m)).1.inFlight = false ∧
    (v.advanceTimers s.timing m.now (s.wallOrLast m)).1.nextReadDue = some due ∧ due ≤ m.now := by
  unfold dueVehicles at h
  dsimp only at h
  split_ifs at h with hallowed
  · cases h
  obtain ⟨v', due, hv', hat, hle⟩ := of_mem_takeDue h
  have hadvanced : (s.advanceTimers m).vehicles.get? id =
      (s.vehicles.get? id).map fun v => (v.advanceTimers s.timing m.now (s.wallOrLast m)).1 :=
    OrderedMap.get?_map
  rw [hadvanced] at hv'
  obtain ⟨v, hv, rfl⟩ := Option.map_eq_some_iff.mp hv'
  unfold ScheduledVehicle.readDueAt at hat
  split at hat
  · rename_i hready
    simp only [Bool.and_eq_true, decide_eq_true_eq, Bool.not_eq_true'] at hready
    have hanswer : (s.advanceTimers m).requestsAllowed m.now = true := by simpa using hallowed
    exact ⟨v, due, hv, hanswer, hready.1, hready.2, hat, hle⟩
  · cases hat

end VehicleScheduler

end TeslatlasHub.Collector
