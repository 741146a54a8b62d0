import TeslatlasHub.SchedulerSuspension

namespace TeslatlasHub.Collector

open List Option OrderedMap

open VehicleScheduler (CarStep NewCar targets)

namespace ScheduledVehicle

structure TimersFit (ownerWire : Bool) (v : ScheduledVehicle) : Prop where
  suspendAt : v.phase ≠ .online → v.suspendAt = none
  suspendedUntil : v.phase ≠ .suspended → v.suspendedUntil = none
  suspend : 0 < v.settings.suspend
  check : ownerWire = false → v.nextCheckDue = none
  removed : v.hold = .removed → v.suspendAt = none ∧ v.suspendedUntil = none
  placeholder : v.placeholder → v.phase ≠ .online ∧ v.phase ≠ .suspended

variable {v : ScheduledVehicle} {t : Timing} {now : Instant} {wallMs : ℤ} {ownerWire : Bool}

def timers (v : ScheduledVehicle) : PollPhase × VehicleHold × Bool × Duration × Option Instant ×
    Option Instant × Option Instant :=
  (v.phase, v.hold, v.placeholder, v.settings.suspend, v.suspendAt, v.suspendedUntil,
    v.nextCheckDue)

theorem TimersFit.of_timers {w : ScheduledVehicle} (h : v.TimersFit ownerWire)
    (hsame : w.timers = v.timers) : w.TimersFit ownerWire := by
  simp only [timers, Prod.mk.injEq] at hsame
  obtain ⟨hphase, hhold, hplace, hsuspend, hat, huntil, hcheck⟩ := hsame
  refine ⟨?_, ?_, ?_, ?_, ?_, ?_⟩ <;> simp only [hphase, hhold, hplace, hsuspend, hat, huntil,
    hcheck]
  exacts [h.suspendAt, h.suspendedUntil, h.suspend, h.check, h.removed, h.placeholder]

section

variable (h : v.TimersFit ownerWire)
include h

theorem TimersFit.enterPhase (new : PollPhase) (reason : Reason)
    (hnew : new ≠ .online ∧ new ≠ .suspended) :
    (v.enterPhase t new now wallMs reason).TimersFit ownerWire := by
  constructor <;> grind [TimersFit, enterPhase_phase, enterPhase_hold, enterPhase_suspendAt,
    enterPhase_suspendedUntil, enterPhase_settings, enterPhase_placeholder, enterPhase_nextCheckDue]

theorem TimersFit.beginSuspension (suspendUntil : Instant) (reason : Reason)
    (hhold : v.hold ≠ .removed) (hlisted : v.placeholder = false) :
    (v.beginSuspension t now wallMs suspendUntil reason).TimersFit ownerWire := by
  constructor <;> grind [TimersFit, ScheduledVehicle.beginSuspension, enterPhase_phase,
    enterPhase_hold, enterPhase_suspendAt, enterPhase_suspendedUntil, enterPhase_settings,
      enterPhase_placeholder, enterPhase_nextCheckDue]

theorem TimersFit.applySettings (hubId : Uuid) (settings : CarSettings)
    (hremoved : v.hold = .removed → v.phase = .suspended → v.vehicle.settings.suspendMin =
    settings.suspendMin) : (v.applySettings t hubId settings now wallMs).TimersFit ownerWire := by
  have htaken : (v.settingsTaken hubId settings).TimersFit ownerWire :=
    ⟨h.suspendAt, h.suspendedUntil, settingMinutes_pos _, h.check, h.removed, h.placeholder⟩
  have hswitch {w : ScheduledVehicle} (hw : v.Switched t now wallMs hubId settings w) :
      w.TimersFit ownerWire ∧
      (w.hold = .removed → v.hold = .removed) ∧ (w.phase = .suspended → v.phase = .suspended) := by
    cases hw with
    | same => exact ⟨htaken, id, id⟩
    | disabled =>
      exact ⟨⟨fun _ => rfl, fun _ => rfl, htaken.suspend, fun _ => rfl, nofun, htaken.placeholder⟩,
        nofun, id⟩
    | enabled =>
      have hopened : TimersFit ownerWire
          { v.settingsTaken hubId settings with hold := .none, nextReadDue := none } :=
        ⟨htaken.suspendAt, htaken.suspendedUntil, htaken.suspend, htaken.check, nofun,
          htaken.placeholder⟩
      exact ⟨hopened.enterPhase .unknown _ (by decide), by simp, by simp⟩
  have hconfigured := v.applySettings_configured t now wallMs hubId settings
  generalize v.applySettings t hubId settings now wallMs = v' at hconfigured ⊢
  cases hconfigured with
  | same => exact h.of_timers rfl
  | @timed w suspendAt suspendedUntil hswitched hat huntil =>
    obtain ⟨hw, hhold, hphase⟩ := hswitch hswitched
    have hat' : w.suspendAt = none → suspendAt = none := by
      intro hnone
      rcases hat with rfl | ⟨hsome, _⟩
      · exact hnone
      · rw [hnone] at hsome
        cases hsome
    refine ⟨fun hne => hat' (hw.suspendAt hne), fun hne => ?_, hw.suspend, hw.check, fun hgone =>
      ⟨?_, ?_⟩, hw.placeholder⟩
    · rcases huntil with rfl | ⟨_, hsuspended, _⟩
      · exact hw.suspendedUntil hne
      · exact absurd hsuspended hne
    · exact hat' (hw.removed hgone).1
    · rcases huntil with rfl | ⟨hmin, hsuspended, _⟩
      · exact (hw.removed hgone).2
      · exact absurd (hremoved (hhold hgone) (hphase hsuspended)) hmin

theorem TimersFit.applyRestored (hphase : v.phase ≠ .online ∧ v.phase ≠ .suspended)
    (restored : RestoredVehicle)
    (hrow : restored.suspends → v.hold ≠ .removed ∧ v.placeholder = false) :
    (v.applyRestored restored now wallMs).TimersFit ownerWire := by
  constructor <;> grind [TimersFit, ScheduledVehicle.applyRestored, RestoredVehicle.suspends]

theorem TimersFit.noteListed : (v.noteListed now wallMs).TimersFit ownerWire := by
  unfold ScheduledVehicle.noteListed
  dsimp only
  split_ifs with hremoved
  · have hnone := h.removed hremoved
    exact ⟨fun _ => hnone.1, fun _ => hnone.2, h.suspend, h.check, nofun, fun _ => ⟨nofun, nofun⟩⟩
  · exact h.of_timers rfl

theorem TimersFit.reportNoted (state : ReportedState) : (v.reportNoted now state).TimersFit
    ownerWire := h.of_timers rfl

theorem TimersFit.clearPendingReads : v.clearPendingReads.TimersFit ownerWire := h.of_timers rfl

theorem TimersFit.applyReportedState (state : ReportedState)
    (hlisted : v.placeholder = false) :
    (v.applyReportedState t state now wallMs).1.TimersFit ownerWire := by
  have hnoted (state : ReportedState) : (v.reportNoted now state).TimersFit ownerWire :=
    h.reportNoted state
  have hreported := v.applyReportedState_reported t now wallMs state
  generalize (v.applyReportedState t state now wallMs).1 = v' at hreported ⊢
  cases hreported with
  | asleep => exact ((hnoted .asleep).enterPhase .asleep _ (by decide)).clearPendingReads
  | offline fromSession =>
    have hsession : TimersFit ownerWire
        { v.reportNoted now .offline with offlineFromSession := fromSession } :=
      h.of_timers rfl
    exact (hsession.enterPhase .offline _ (by decide)).clearPendingReads
  | wakeLimited suspendUntil _ hhold =>
    refine (hnoted .online).beginSuspension suspendUntil _ ?_ hlisted
    change v.hold ≠ .removed
    rw [hhold]
    exact nofun
  | _ => exact h.of_timers rfl

theorem TimersFit.advanceTimers : (v.advanceTimers t now wallMs).1.TimersFit ownerWire := by
  have hlisted (hphase : v.phase = .online ∨ v.phase = .suspended) : v.placeholder = false := by
    by_contra hplace
    have hnot := h.placeholder (Bool.eq_true_of_not_eq_false hplace)
    exact hphase.elim hnot.1 hnot.2
  have hadvanced := v.advanceTimers_advanced t now wallMs
  generalize (v.advanceTimers t now wallMs).1 = v' at hadvanced ⊢
  cases hadvanced with
  | same => exact h
  | idle hhold hphase =>
    exact h.beginSuspension _ _ (by rw [hhold]; exact nofun) (hlisted (.inl hphase))
  | ended hhold hphase =>
    refine ⟨h.suspendAt, fun _ => rfl, h.suspend, h.check, fun hgone => ?_, h.placeholder⟩
    exact ⟨(h.removed hgone).1, rfl⟩
  | renewed hhold hphase =>
    exact h.beginSuspension _ _ (by rw [hhold]; exact nofun) (hlisted (.inr hphase))
  | stale => exact (h.enterPhase .offline _ (by decide)).clearPendingReads

theorem TimersFit.makeReadDue : (v.makeReadDue t now).TimersFit ownerWire := h.of_timers rfl

theorem TimersFit.applyFrameEvidence (evidence : FrameEvidence) :
    (v.applyFrameEvidence t evidence now wallMs).TimersFit ownerWire := by
  have hused : TimersFit ownerWire { v with lastInUse := some now } := h.of_timers rfl
  have hevidenced := v.applyFrameEvidence_evidenced t now wallMs evidence
  generalize v.applyFrameEvidence t evidence now wallMs = v' at hevidenced ⊢
  cases hevidenced with
  | driving => exact (hused.enterPhase .driving _ (by decide)).makeReadDue
  | drivingHeld => exact hused.enterPhase .driving _ (by decide)
  | _ => exact h.of_timers rfl

theorem TimersFit.succeeded (phase : SnapshotPhase) (sleepEligible : Bool)
    (hlisted : v.placeholder = false) (hhold : v.hold ≠ .removed) :
    (v.succeeded t phase.phase sleepEligible now wallMs).1.TimersFit ownerWire := by
  have hread := v.succeeded_read t now wallMs phase sleepEligible
  generalize (v.succeeded t phase.phase sleepEligible now wallMs).1 = v' at hread ⊢
  obtain ⟨hkept, hmoved⟩ := hread
  have hawake : phase.phase ≠ .suspended := by cases phase <;> exact nofun
  have hsettings : 0 < v'.settings.suspend := by
    rw [hkept.settings]
    exact h.suspend
  have hcheck (hwire : ownerWire = false) : v'.nextCheckDue = none :=
    hkept.nextCheckDue.trans (h.check hwire)
  have hgone : ¬v'.hold = .removed := by
    rw [hkept.hold]
    exact hhold
  have hplace : ¬v'.placeholder := by
    rw [hkept.placeholder]
    exact ne_true_of_eq_false hlisted
  rcases hmoved with ⟨hphase, _, hat, _⟩ | ⟨hphase, huntil, hat, _⟩
  · exact ⟨fun _ => hat, fun hne => absurd hphase hne, hsettings, hcheck, fun hr => absurd hr hgone,
      fun hp => absurd hp hplace⟩
  · refine ⟨fun hne => ?_, fun _ => ?_, hsettings, hcheck, fun hr => absurd hr hgone, fun hp =>
      absurd hp hplace⟩
    · have honline : phase ≠ .online := by
        rintro rfl
        exact hne hphase
      rw [hat honline]
      split_ifs with hsame
      · exact h.suspendAt (fun hp => hne (hphase.trans (hsame.symm.trans hp)))
      · rfl
    · rw [huntil]
      split_ifs with hsame
      · exact h.suspendedUntil (fun hp => hawake (hsame.symm.trans hp))
      · rfl

theorem TimersFit.releaseHold (reason : Reason) :
    (v.releaseHold reason now wallMs).TimersFit ownerWire := by
  unfold ScheduledVehicle.releaseHold
  split
  · exact ⟨fun _ => rfl, fun _ => rfl, h.suspend, fun _ => rfl, nofun, fun _ => ⟨nofun, nofun⟩⟩
  · exact h

theorem TimersFit.noteUnlisted : (v.noteUnlisted t now).TimersFit ownerWire := by
  unfold ScheduledVehicle.noteUnlisted
  dsimp only
  repeat' split
  · exact h
  · exact h.of_timers rfl
  · exact h.of_timers rfl
  · exact ⟨fun _ => rfl, fun _ => rfl, h.suspend, fun _ => rfl, fun _ => ⟨rfl, rfl⟩, h.placeholder⟩

theorem TimersFit.pause (reason : PauseReason) (cls : ErrorClass) :
    (v.pause reason cls now).TimersFit ownerWire := by
  unfold ScheduledVehicle.pause
  dsimp only
  split
  · exact h.of_timers rfl
  · exact ⟨fun _ => rfl, fun _ => rfl, h.suspend, fun _ => rfl, nofun, h.placeholder⟩

theorem TimersFit.pauseIfPersistent : (v.pauseIfPersistent now).TimersFit ownerWire := by
  unfold ScheduledVehicle.pauseIfPersistent
  split
  · exact h
  · split
    · exact h.pause ..
    · exact h

theorem TimersFit.failedOnce (cls : ErrorClass) (u : ℚ) :
    (v.failedOnce t cls now u).TimersFit ownerWire := by
  have hcounted : (v.countFailure t cls u now).TimersFit ownerWire := h.of_timers rfl
  exact hcounted.pauseIfPersistent

theorem TimersFit.enterServiceMode : (v.enterServiceMode now).1.TimersFit ownerWire := by
  unfold ScheduledVehicle.enterServiceMode
  dsimp only
  split
  · exact h.of_timers rfl
  · exact ⟨fun _ => rfl, fun _ => rfl, h.suspend, fun _ => rfl, nofun, h.placeholder⟩

theorem TimersFit.notFound : (v.notFound t now).TimersFit ownerWire := by
  refine ⟨h.suspendAt, h.suspendedUntil, h.suspend, fun hwire => ?_, h.removed, h.placeholder⟩
  simp [ScheduledVehicle.notFound, h.check hwire]

theorem TimersFit.endHeldCheck : v.endHeldCheck.TimersFit ownerWire := by
  unfold ScheduledVehicle.endHeldCheck
  split
  · exact ⟨h.suspendAt, h.suspendedUntil, h.suspend, fun _ => rfl, h.removed, h.placeholder⟩
  · exact h

end

theorem TimersFit.retryCheck (h : v.TimersFit true) (cls : ErrorClass) (counts : Bool) :
    (v.retryCheck t cls counts now).TimersFit true :=
  ⟨h.suspendAt, h.suspendedUntil, h.suspend, nofun, h.removed, h.placeholder⟩

section

variable (h : v.TimersFit ownerWire)
include h

theorem TimersFit.readFailed : (v.readFailed t now wallMs).TimersFit ownerWire := by
  have hfailed : TimersFit ownerWire { v with gatedRead := none, inFlight := false } :=
    h.of_timers rfl
  unfold ScheduledVehicle.readFailed
  dsimp only
  split
  · exact hfailed.enterPhase .driving _ (by decide)
  · exact hfailed

theorem TimersFit.releaseAfterAccountFailure (cls : ErrorClass) (waitUntil : Option Instant) :
    (v.releaseAfterAccountFailure t cls waitUntil now wallMs).TimersFit ownerWire := by
  have hfailed : TimersFit ownerWire { v with inFlight := false, lastError := some cls } :=
    h.of_timers rfl
  have hungated : TimersFit ownerWire
      { v with inFlight := false, lastError := some cls, gatedRead := none } :=
    h.of_timers rfl
  unfold ScheduledVehicle.releaseAfterAccountFailure
  extract_lets failed moved
  have hmoved : moved.TimersFit ownerWire := by
    unfold moved
    split
    · exact hungated.enterPhase .driving _ (by decide)
    · exact hfailed
  split
  · exact hmoved
  · exact hmoved.of_timers rfl

theorem TimersFit.acceptListed {restored : Option RestoredVehicle} (state : ReportedState)
    (hrow : v.placeholder → v.hold = .removed → ∀ r, restored = some r → r.suspends = false) :
    (v.acceptListed t restored state now wallMs).1.TimersFit ownerWire := by
  have hrestored : (v.withRow now wallMs restored).TimersFit ownerWire := by
    unfold withRow
    split_ifs with hplace
    · have hlisted : TimersFit ownerWire { v with placeholder := false } :=
        ⟨h.suspendAt, h.suspendedUntil, h.suspend, h.check, h.removed, nofun⟩
      cases restored with
      | none => exact hlisted
      | some r =>
        refine hlisted.applyRestored (h.placeholder hplace) r (fun hsuspends => ⟨fun hgone => ?_,
          rfl⟩)
        rw [hrow hplace hgone r rfl] at hsuspends
        cases hsuspends
    · exact h
  have hnamed : (v.named now wallMs restored state).TimersFit ownerWire :=
    TimersFit.noteListed (hrestored.of_timers rfl)
  have hreported : ((v.named now wallMs restored state).applyReportedState t state
      now wallMs).1.TimersFit ownerWire :=
    hnamed.applyReportedState state (by simp [named])
  exact hreported.of_timers rfl

theorem TimersFit.acceptAll {restored : Option RestoredVehicle}
    (hrow : v.placeholder → v.hold = .removed → ∀ r, restored = some r → r.suspends = false)
    (states : List ReportedState) :
    (v.acceptAll t restored now wallMs states).1.TimersFit ownerWire := by
  -- an entry clears the placeholder mark, so the stored row matters for the first one only
  let P (w : ScheduledVehicle) : Prop := w.TimersFit ownerWire ∧ (w.placeholder → w = v)
  suffices hcarried : P (v.acceptAll t restored now wallMs states).1 from hcarried.1
  have hbefore : P v := ⟨h, fun _ => rfl⟩
  refine acceptAll_rule (fun w state _ hw => ?_) hbefore
  obtain ⟨hfit, hplace⟩ := hw
  refine ⟨hfit.acceptListed state (fun hw => ?_), fun hw => ?_⟩
  · rw [hplace hw]
    exact hrow (hplace hw ▸ hw)
  · rw [acceptListed_placeholder] at hw
    cases hw

theorem TimersFit.streamUnhealthy : (v.streamUnhealthy t now).TimersFit ownerWire := by
  unfold ScheduledVehicle.streamUnhealthy
  dsimp only
  split <;> exact h.of_timers rfl

theorem TimersFit.acceptRecord (state : ReportedState) (u : ℚ)
    (hlisted : v.placeholder = false) :
    (v.acceptRecord t state u now wallMs).TimersFit ownerWire := by
  have hchecked : TimersFit ownerWire { v with nextCheckDue := none } :=
    ⟨h.suspendAt, h.suspendedUntil, h.suspend, fun _ => rfl, h.removed, h.placeholder⟩
  have hreported : ((ScheduledVehicle.noteListed _ now wallMs).applyReportedState t state
      now wallMs).1.TimersFit
      ownerWire := hchecked.noteListed.applyReportedState state (by simpa using hlisted)
  have hsettled : (((ScheduledVehicle.noteListed _ now wallMs).applyReportedState t state
      now wallMs).1.settleUnavailable
      state).1.TimersFit ownerWire :=
    hreported.of_timers rfl
  unfold ScheduledVehicle.acceptRecord
  dsimp only
  split
  · exact hsettled.failedOnce _ _
  · exact hsettled

end

end ScheduledVehicle

namespace VehicleScheduler

open ScheduledVehicle (TimersFit)

variable {s : VehicleScheduler} {m : Moment} {i : Input} {id : VehicleId} {v v' : ScheduledVehicle}

/-- An input that leaves a car's timers fitting. -/
def keepsTimers (s : VehicleScheduler) (i : Input) (id : VehicleId) (v : ScheduledVehicle) : Bool :=
  match i with
  | .settings configured => ((targets configured).get? id).all fun car =>
      !(v.hold = .removed && v.phase = .suspended && v.vehicle.settings.suspendMin ≠
        car.settings.suspendMin)
  | .list vehicles => vehicles.all fun incoming => incoming.id ≠ id ||
      !(v.placeholder && v.hold = .removed && (s.restored.get? id).any (·.suspends))
  | .record target _ => target ≠ id || !v.placeholder
  | .recordFailed target _ => target ≠ id || s.mode.isOwnerWire
  | .readSucceeded target _ _ => target ≠ id || !v.placeholder && v.hold ≠ .removed
  | .probeFinished target (.read _ _) => target ≠ id || !v.placeholder && v.hold ≠ .removed
  | _ => true

/-- Each step of a car keeps its timers fitting, the held ones apart. -/
theorem CarStep.timersFit (hstep : s.CarStep m i id v v') (h : v.TimersFit s.mode.isOwnerWire)
    (hkeep : s.keepsTimers i id v) : v'.TimersFit s.mode.isOwnerWire := by
  have hlanded : v.landed.TimersFit s.mode.isOwnerWire := h.of_timers rfl
  cases hstep with
  | @settings configured _ _ car hcar =>
    refine h.applySettings _ _ (fun hgone hsuspended => ?_)
    simpa [keepsTimers, hcar, hgone, hsuspended] using hkeep
  | ownerReleased reason => exact h.releaseHold reason
  | @listed _ _ _ states draws hstates hsome =>
    have hentry : ∀ state ∈ states, (!(v.placeholder && v.hold = .removed &&
        (s.restored.get? id).any (·.suspends))) := hstates ▸ all_named (c := fun _ => _) hkeep
    refine foldlRecOn draws _ (h.acceptAll ?_ states) (fun v hv u _ => hv.failedOnce .transient u)
    intro hplace hgone r hr
    obtain ⟨state, hin⟩ := exists_mem_of_ne_nil states hsome
    simpa [hplace, hgone, hr] using hentry state hin
  | unlisted => exact h.noteUnlisted
  | record u => exact h.acceptRecord _ u (by simpa [keepsTimers] using hkeep)
  | recordNotFound => exact h.notFound.endHeldCheck
  | recordPaused reason cls => exact (h.pause reason cls).endHeldCheck
  | recordCounted cls =>
    have hwire : s.mode.isOwnerWire := by simpa [keepsTimers] using hkeep
    rw [hwire] at h ⊢
    exact (h.retryCheck cls true).pauseIfPersistent.endHeldCheck
  | recordRetried cls =>
    have hwire : s.mode.isOwnerWire := by simpa [keepsTimers] using hkeep
    rw [hwire] at h ⊢
    exact (h.retryCheck cls false).endHeldCheck
  | timers => exact h.advanceTimers
  | read =>
    exact h.advanceTimers.of_timers rfl
  | succeeded =>
    have hnamed : v.placeholder = false ∧ v.hold ≠ .removed := by simpa [keepsTimers] using hkeep
    exact h.succeeded _ _ hnamed.1 hnamed.2
  | readReleased cls waitUntil => exact h.releaseAfterAccountFailure cls waitUntil
  | readUnavailable =>
    have hfailed : (v.readFailed s.timing m.now (s.wallOrLast m)).TimersFit s.mode.isOwnerWire :=
      h.readFailed
    split_ifs with hwire
    · exact hfailed.of_timers rfl
    · refine ⟨hfailed.suspendAt, hfailed.suspendedUntil, hfailed.suspend, fun hfleet => ?_,
        hfailed.removed, hfailed.placeholder⟩
      simp [hfleet] at hwire
  | readNotFound => exact h.readFailed.notFound
  | readInService => exact h.readFailed.enterServiceMode
  | readPaused reason cls => exact h.readFailed.pause reason cls
  | readCounted cls u => exact h.readFailed.failedOnce cls u
  | probeLeftService => exact hlanded.releaseHold _
  | probeLeftServiceOnline =>
    exact (hlanded.releaseHold _).of_timers rfl
  | probeReadService hservice =>
    have hnamed : v.placeholder = false ∧ v.hold ≠ .removed := by simpa [keepsTimers] using hkeep
    have hheld : v.landed.isHeld := by simp [ScheduledVehicle.isHeld, ScheduledVehicle.landed,
        hservice]
    have hreleased : (v.landed.releaseHold .serviceExited m.now (s.wallOrLast m)).TimersFit
        s.mode.isOwnerWire :=
      hlanded.releaseHold _
    rw [ScheduledVehicle.releaseHold_of_isHeld m.now (s.wallOrLast m) hheld] at hreleased ⊢
    exact hreleased.succeeded _ _ hnamed.1 (by simp)
  | probeReadPaused =>
    exact (hlanded.releaseHold _).of_timers rfl
  | probeRead =>
    have hnamed : v.placeholder = false ∧ v.hold ≠ .removed := by simpa [keepsTimers] using hkeep
    exact hlanded.succeeded _ _ hnamed.1 hnamed.2
  | probePaused reason cls => exact hlanded.pause reason cls
  | probeNotFound cls =>
    exact hlanded.notFound.of_timers rfl
  | probeEntered => exact hlanded.enterServiceMode
  | frame => exact h.applyFrameEvidence _
  | streamUnhealthy => exact h.streamUnhealthy
  | streamOffline _ hwire =>
    exact ⟨h.suspendAt, h.suspendedUntil, h.suspend, fun hfleet => absurd hwire (by simp [hfleet]),
      h.removed, h.placeholder⟩
  | _ => exact h.of_timers rfl

theorem NewCar.timersFit (hnew : s.NewCar m i id v) : v.TimersFit s.mode.isOwnerWire := by
  have hunknown : PollPhase.unknown ≠ .online ∧ PollPhase.unknown ≠ .suspended := by decide
  have hfresh (vehicle : Vehicle) :
      (ScheduledVehicle.new vehicle m.now (s.wallOrLast m)).TimersFit s.mode.isOwnerWire :=
    ⟨fun _ => rfl, fun _ => rfl, settingMinutes_pos _, fun _ => rfl, fun _ => ⟨rfl, rfl⟩,
      fun hplace => absurd hplace Bool.false_ne_true⟩
  have hconfigured (car : ConfiguredCar) : (ScheduledVehicle.configuredOnly car.hubId car.settings
      m.now
      (s.wallOrLast m)).TimersFit s.mode.isOwnerWire :=
    ⟨fun _ => rfl, fun _ => rfl, settingMinutes_pos _, fun _ => rfl, fun _ => ⟨rfl, rfl⟩, fun _ =>
      hunknown⟩
  refine hnew.rule (fun _ car _ => ⟨hconfigured car, fun r hheld => ?_⟩)
    (fun _ vehicle _ => ⟨hfresh vehicle, fun r => ?_⟩)
  · refine (hconfigured car).applyRestored hunknown r (fun hsuspends => ?_)
    rcases hheld with hr | hr | hr <;> simp [RestoredVehicle.suspends, hr] at hsuspends
  · refine (hfresh vehicle).applyRestored hunknown r (fun _ => ⟨?_, rfl⟩)
    unfold ScheduledVehicle.new
    dsimp only
    split <;> decide

theorem NewCar.keepsTimers (hnew : s.NewCar m i id v) : s.keepsTimers i id v := by
  have hphase (configured : List ConfiguredCar) (hi : i = .settings configured) :
      v.phase ≠ .suspended := by
    subst hi
    refine hnew.rule (P := (·.phase ≠ .suspended)) (fun _ car _ => ⟨nofun, fun r hheld => ?_⟩)
      (fun _ _ hlist => (nomatch hlist))
    unfold ScheduledVehicle.applyRestored
    dsimp only
    split
    · exact nofun
    · rcases hheld with hr | hr | hr <;> rw [hr] <;> exact nofun
  cases hnew with
  | configured => simp [VehicleScheduler.keepsTimers, hphase _ rfl]
  | listed hin hnone =>
    have hlisted := NewCar.placeholder (.listed (m := m) hin hnone)
    simp [VehicleScheduler.keepsTimers, hlisted]

end VehicleScheduler

namespace VehicleScheduler

open ScheduledVehicle (TimersFit)

variable {s : VehicleScheduler} {m : Moment} {id : VehicleId} {v : ScheduledVehicle}

def Actionable (s : VehicleScheduler) (m : Moment) : Prop :=
  s.discoveryDue m.now = true ∨ (s.dueVehicles m).2 ≠ [] ∨ s.dueOfflineStateVehicles m.now ≠ [] ∨
    (s.dueProbeVehicles m.now).2 ≠ [] ∨ s.dueLifecycleEvents (s.wallOrLast m) ≠ [] ∨
    s.silentDriveStreams m.now ≠ [] ∨
    ∃ id v, s.vehicles.get? id = some v ∧ (v.advanceTimers s.timing m.now (s.wallOrLast m)).1 ≠ v

theorem min?_sub_eq_zero {l : List ℕ} {now idle : ℕ} (hidle : 0 < idle) :
    min ((l.min?.map (·-now)).getD idle) idle = 0 ↔ ∃ due ∈ l, due ≤ now := by
  cases hmin : l.min? with
  | none =>
    rw [min?_eq_none_iff] at hmin
    simp [hmin, hidle.ne']
  | some first =>
    obtain ⟨hin, hle⟩ := min?_eq_some_iff.mp hmin
    simp only [map_some, getD_some]
    constructor
    · intro hzero
      exact ⟨first, hin, by omega⟩
    · rintro ⟨due, hdue, hnow⟩
      have hfirst := hle due hdue
      omega

theorem kMaxIdleWait_pos : 0 < kMaxIdleWait := by
  unfold kMaxIdleWait secs
  norm_num

theorem kDriveFrameSilence_pos : 0 < kDriveFrameSilence := by
  unfold kDriveFrameSilence secs
  norm_num

theorem delayUntilNextAction_eq_zero :
    s.delayUntilNextAction m = 0 ↔ ∃ due ∈ s.dueInstants m, due ≤ m.now :=
  min?_sub_eq_zero kMaxIdleWait_pos

theorem afterWait_le {a : AccountRecord} {due now : Instant} :
    a.afterWait due ≤ now ↔ due ≤ now ∧ a.wait.all (·.1 ≤ now) := by
  unfold AccountRecord.afterWait
  cases a.wait with
  | none => simp
  | some wait => simp

inductive CarDue (s : VehicleScheduler) (m : Moment) (v : ScheduledVehicle) : Prop
  | read {due} (hallowed : s.requestsAllowed m.now) (hat : v.readDueAt = some due)
      (hle : due ≤ m.now)
  | check {due} (hallowed : s.requestsAllowed m.now) (hat : v.checkDueAt = some due)
      (hle : due ≤ m.now)
  | probe {due} (hallowed : s.requestsAllowed m.now)
      (hat : v.probeDueAt s.mode.isOwnerWire = some due) (hle : due ≤ m.now)
  | idle {due} (hhold : v.hold = .none) (hat : v.suspendAt = some due) (hle : due ≤ m.now)
  | suspended {due} (hhold : v.hold = .none) (hat : v.suspendedUntil = some due) (hle : due ≤ m.now)
  | silent {due} (hactive : v.isInactive = false) (hat : v.silenceDeadline = some due)
      (hle : due ≤ m.now)
  | stale {due} (hactive : v.isInactive = false) (hat : v.updateStaleDeadline = some due)
      (hle : due ≤ m.now)
  | noData {deadlineMs} (hat : v.noDataDeadlineMs s.timing = some deadlineMs)
      (hlt : deadlineMs < s.wallOrLast m)

theorem noData_le {now : Instant} {deadlineMs wallMs : ℤ} :
    deadlineAfter now (millis (max 0 (deadlineMs-wallMs+1)).toNat) ≤ now ↔ deadlineMs < wallMs := by
  have hmillis (n : ℕ) : deadlineAfter now (millis n) ≤ now ↔ n = 0 := by
    have hnat (a : ℕ) : a+n*1000000 ≤ a ↔ n = 0 := by omega
    exact hnat now
  rw [hmillis]
  omega

theorem carDue_iff : s.CarDue m v ↔ ∃ due ∈ s.carDueInstants v m, due ≤ m.now := by
  have hallowed : s.requestsAllowed m.now ↔ s.account.state = .collecting ∧
      s.account.wait.all (·.1 ≤ m.now) := by
    simp [requestsAllowed, AccountRecord.requestsAllowed]
  have hnone (hhold : v.hold = .none) : v.isInactive = false := by
      simp [ScheduledVehicle.isInactive, hhold]
  constructor
  · intro h
    unfold carDueInstants
    cases h with
    | read ha hat hle =>
      obtain ⟨hstate, hwait⟩ := hallowed.mp ha
      exact ⟨s.account.afterWait _, by simp [hstate, hat], afterWait_le.mpr ⟨hle, hwait⟩⟩
    | check ha hat hle =>
      obtain ⟨hstate, hwait⟩ := hallowed.mp ha
      exact ⟨s.account.afterWait _, by simp [hstate, hat], afterWait_le.mpr ⟨hle, hwait⟩⟩
    | probe ha hat hle =>
      obtain ⟨hstate, hwait⟩ := hallowed.mp ha
      exact ⟨s.account.afterWait _, by simp [hstate, hat], afterWait_le.mpr ⟨hle, hwait⟩⟩
    | idle hhold hat hle => exact ⟨_, by simp [hnone hhold, hhold, hat], hle⟩
    | suspended hhold hat hle => exact ⟨_, by simp [hnone hhold, hhold, hat], hle⟩
    | silent hactive hat hle => exact ⟨_, by simp [hactive, hat], hle⟩
    | stale hactive hat hle => exact ⟨_, by simp [hactive, hat], hle⟩
    | noData hat hlt => exact ⟨_, by simp [hat], noData_le.mpr hlt⟩
  · rintro ⟨due, hin, hle⟩
    obtain ⟨entry, hin, hentry⟩ := mem_filterMap.mp hin
    subst hentry
    rcases mem_append.mp hin with hin | hin
    · rcases mem_append.mp hin with hin | hin
      · split at hin
        · rename_i hstate
          simp only [map_cons, map_nil, mem_cons, not_mem_nil, or_false] at hin
          have hwaited (dueAt : Option Instant) (hat : some due = dueAt.map s.account.afterWait) :
              s.requestsAllowed m.now ∧ ∃ at₀, dueAt = some at₀ ∧ at₀ ≤ m.now := by
            obtain ⟨at₀, hat₀, rfl⟩ := map_eq_some_iff.mp hat.symm
            obtain ⟨hbefore, hwait⟩ := afterWait_le.mp hle
            exact ⟨hallowed.mpr ⟨hstate, hwait⟩, at₀, hat₀, hbefore⟩
          rcases hin with hat | hat | hat
          · obtain ⟨ha, _, hat, hbefore⟩ := hwaited _ hat
            exact .read ha hat hbefore
          · obtain ⟨ha, _, hat, hbefore⟩ := hwaited _ hat
            exact .check ha hat hbefore
          · obtain ⟨ha, _, hat, hbefore⟩ := hwaited _ hat
            exact .probe ha hat hbefore
        · cases hin
      · split at hin
        · cases hin
        · rename_i hactive
          have hactive : v.isInactive = false := Bool.eq_false_of_not_eq_true hactive
          rcases mem_append.mp hin with hin | hin
          · split at hin
            · rename_i hhold
              simp only [mem_cons, not_mem_nil, or_false] at hin
              rcases hin with hat | hat
              · exact .idle hhold hat.symm hle
              · exact .suspended hhold hat.symm hle
            · cases hin
          · simp only [mem_cons, not_mem_nil, or_false] at hin
            rcases hin with hat | hat | hat
            -- a stream's restart time counts only while it is still to come
            · have hlater := (filter_eq_some_iff.mp hat.symm).2
              exact absurd hle (Nat.not_le.mpr (of_decide_eq_true hlater))
            · exact .silent hactive hat.symm hle
            · exact .stale hactive hat.symm hle
    · simp only [mem_cons, not_mem_nil, or_false] at hin
      obtain ⟨deadlineMs, hat, rfl⟩ := map_eq_some_iff.mp hin.symm
      exact .noData hat (noData_le.mp hle)

theorem delay_eq_zero_iff : s.delayUntilNextAction m = 0 ↔
    s.discoveryDue m.now ∨ ∃ id v, s.vehicles.get? id = some v ∧ s.CarDue m v := by
  rw [delayUntilNextAction_eq_zero]
  constructor
  · rintro ⟨due, hin, hle⟩
    rcases mem_append.mp hin with hin | hin
    · rcases mem_append.mp hin with hin | hin
      · obtain ⟨v, hv, hin⟩ := mem_flatMap.mp hin
        obtain ⟨id, hv⟩ := mem_values.mp hv
        exact .inr ⟨id, v, hv, carDue_iff.mpr ⟨due, hin, hle⟩⟩
      · left
        rw [mem_toList] at hin
        simp [discoveryDue, mem_def.mp hin, hle]
    · rw [mem_toList] at hin
      have hlater := (filter_eq_some_iff.mp hin).2
      exact absurd hle (Nat.not_le.mpr (of_decide_eq_true hlater))
  · unfold dueInstants
    rintro (hlist | ⟨id, v, hv, hcar⟩)
    · obtain ⟨due, hat, hle⟩ := (Option.any_eq_true _ _).mp hlist
      exact ⟨due, by simp [hat], of_decide_eq_true hle⟩
    · obtain ⟨due, hin, hle⟩ := carDue_iff.mp hcar
      refine ⟨due, ?_, hle⟩
      apply mem_append_left
      apply mem_append_left
      exact mem_flatMap.mpr ⟨v, mem_values.mpr ⟨id, hv⟩, hin⟩

theorem advanceTimers_ne_iff (h : v.TimersFit s.mode.isOwnerWire) :
    (v.advanceTimers s.timing m.now (s.wallOrLast m)).1 ≠ v ↔ v.hold = .none ∧
    (v.suspendAt.any (· ≤ m.now) ∨ v.suspendedUntil.any (· ≤ m.now) ∨ v.updateStaleDeadline.any
    (· ≤ m.now)) := by
  have hsome {o : Option Instant} {x : Instant} (hx : o = some x) (hle : x ≤ m.now) :
      o.any (· ≤ m.now) := by
    simp [hx, hle]
  constructor
  · intro hne
    have hadvanced := v.advanceTimers_advanced s.timing m.now (s.wallOrLast m)
    generalize (v.advanceTimers s.timing m.now (s.wallOrLast m)).1 = v' at hadvanced hne
    cases hadvanced with
    | same => exact absurd rfl hne
    | idle hhold _ hat hle => exact ⟨hhold, .inl (hsome hat hle)⟩
    | ended hhold _ huntil hle | renewed hhold _ huntil hle =>
      exact ⟨hhold, .inr (.inl (hsome huntil hle))⟩
    | stale hhold _ hdeadline hle => exact ⟨hhold, .inr (.inr (hsome hdeadline hle))⟩
  · rintro ⟨hhold, hdue⟩ hsame
    have hphase : (v.advanceTimers s.timing m.now (s.wallOrLast m)).1.phase = v.phase :=
      congrArg _ hsame
    have huntil : (v.advanceTimers s.timing m.now (s.wallOrLast m)).1.suspendedUntil =
        v.suspendedUntil :=
      congrArg _ hsame
    unfold ScheduledVehicle.advanceTimers at hphase huntil
    rcases hdue with hat | hend | hstale
    · -- the idle window is over: the car is Online and enters its suspension
      have honline : v.phase = .online := by
        by_contra hne
        rw [h.suspendAt hne] at hat
        cases hat
      simp [hhold, honline, hat, ScheduledVehicle.beginSuspension] at hphase
    · have hsuspended : v.phase = .suspended := by
        by_contra hne
        rw [h.suspendedUntil hne] at hend
        cases hend
      obtain ⟨x, hx, hle⟩ := (Option.any_eq_true _ _).mp hend
      have hle : x ≤ m.now := of_decide_eq_true hle
      by_cases honline : v.reportedOnline
      · simp [hhold, hsuspended, hx, hle, honline] at huntil
      · -- a renewed suspension ends later than the one that is over
        simp [hhold, hsuspended, hx, hle, honline, ScheduledVehicle.beginSuspension] at huntil
        have hlater : m.now < deadlineAfter m.now v.settings.suspend :=
          Nat.lt_add_of_pos_right h.suspend
        exact absurd huntil (ne_of_gt (lt_of_le_of_lt hle hlater))
    · have hupdating : v.phase = .updating := by
        by_contra hne
        simp [ScheduledVehicle.updateStaleDeadline, hne] at hstale
      simp [hhold, hupdating, hstale, ScheduledVehicle.clearPendingReads] at hphase

theorem inFlightCount_eq_zero (h : ∀ id v, s.vehicles.get? id = some v → v.inFlight = false) :
    s.inFlightCount = 0 := by
  unfold inFlightCount
  rw [length_eq_zero_iff, filter_eq_nil_iff]
  intro v hv
  obtain ⟨id, hv⟩ := mem_values.mp hv
  simp [h id v hv]

def silentDrive (e : VehicleId × ScheduledVehicle) (now : Instant) : Bool :=
  !e.2.isInactive && e.2.phase = .driving && e.2.stream.connected && !e.2.stream.outageReported &&
    e.2.stream.lastFrame.any (kDriveFrameSilence ≤ now-·)

theorem any_silent_iff {silence : ℕ} (hpos : 0 < silence) {lastFrame : Option ℕ} {now : ℕ} :
    lastFrame.any (silence ≤ now-·) ↔ ∃ due, lastFrame.map (·+silence) = some due ∧ due ≤ now := by
  cases lastFrame with
  | none => simp
  | some last =>
    simp only [any_some, decide_eq_true_eq, map_some, some.injEq, exists_eq_left']
    omega

theorem silentDrive_iff {now : Instant} : silentDrive (id, v) now ↔
    v.isInactive = false ∧ ∃ due, v.silenceDeadline = some due ∧ due ≤ now := by
  have hframe : v.stream.lastFrame.any (kDriveFrameSilence ≤ now-·) ↔ _ :=
    any_silent_iff kDriveFrameSilence_pos
  unfold silentDrive ScheduledVehicle.silenceDeadline deadlineAfter
  generalize kDriveFrameSilence = silence at hframe ⊢
  rw [Bool.and_eq_true, hframe]
  by_cases hsilent : v.phase ≠ .driving || !v.stream.connected || v.stream.outageReported
  · simp only [Bool.or_eq_true, decide_eq_true_eq, Bool.not_eq_true'] at hsilent
    rcases hsilent with (hphase | hgone) | hreported
    · simp [hphase]
    · simp [hgone]
    · simp [hreported]
  · simp only [Bool.or_eq_true, decide_eq_true_eq, Bool.not_eq_true', not_or, Decidable.not_not,
      Bool.not_eq_false, Bool.not_eq_true] at hsilent
    obtain ⟨⟨hphase, hconnected⟩, hreported⟩ := hsilent
    simp [hphase, hconnected, hreported]

section

variable (hfit : ∀ id v, s.vehicles.get? id = some v → v.TimersFit s.mode.isOwnerWire)
include hfit

theorem CarDue.actionable (hflight : ∀ id v, s.vehicles.get? id = some v → v.inFlight = false)
    (hv : s.vehicles.get? id = some v) (hcar : s.CarDue m v) : s.Actionable m := by
  have hcapacity : 0 < kMaxInFlight-s.inFlightCount := by
    rw [inFlightCount_eq_zero hflight]
    decide
  have hchanged : (v.advanceTimers s.timing m.now (s.wallOrLast m)).1 ≠ v → s.Actionable m :=
    fun hne => .inr (.inr (.inr (.inr (.inr (.inr ⟨id, v, hv, hne⟩)))))
  have hsome {o : Option Instant} {x : Instant} (hx : o = some x) (hle : x ≤ m.now) :
      o.any (· ≤ m.now) = true := by
    simp [hx, hle]
  cases hcar with
  | read hallowed hat hle =>
    by_cases hsame : (v.advanceTimers s.timing m.now (s.wallOrLast m)).1 = v
    · right; left
      have hadvanced : (s.advanceTimers m).vehicles.get? id = some v := by
        change (s.vehicles.map fun _ v => (v.advanceTimers s.timing m.now (s.wallOrLast m)).1).get?
          id = some v
        rw [get?_map, hv, map_some, hsame]
      have hcount : (s.advanceTimers m).inFlightCount = 0 := by
        refine inFlightCount_eq_zero (fun id' v' hv' => ?_)
        change (s.vehicles.map fun _ v => (v.advanceTimers s.timing m.now (s.wallOrLast m)).1).get?
          id' = some v' at hv'
        rw [get?_map] at hv'
        obtain ⟨w, hw, rfl⟩ := map_eq_some_iff.mp hv'
        rw [ScheduledVehicle.advanceTimers_inFlight]
        exact hflight id' w hw
      have hgo : (s.advanceTimers m).requestsAllowed m.now = true := hallowed
      unfold dueVehicles
      rw [if_neg (by simp [hgo]), hcount]
      exact takeDue_ne_nil hadvanced hat hle (by decide)
    · exact hchanged hsame
  | check hallowed hat hle =>
    right; right; left
    have hwire : s.mode.isOwnerWire = true := by
      by_contra hfleet
      have hcheck := (hfit id v hv).check (Bool.eq_false_of_not_eq_true hfleet)
      simp [ScheduledVehicle.checkDueAt, hcheck] at hat
    unfold dueOfflineStateVehicles
    rw [if_neg (by simp [hwire, hallowed])]
    exact takeDue_ne_nil hv hat hle (by decide)
  | @probe due hallowed hat hle =>
    right; right; right; left
    unfold dueProbeVehicles
    rw [if_neg (by simp [hallowed])]
    have hat' : (if v.inFlight then none else v.probeDueAt s.mode.isOwnerWire) = some due := by
      rw [hflight id v hv]
      exact hat
    simpa using takeDue_ne_nil hv hat' hle hcapacity
  | idle hhold hat hle =>
    exact hchanged ((advanceTimers_ne_iff (hfit id v hv)).mpr ⟨hhold, .inl (hsome hat hle)⟩)
  | suspended hhold hat hle =>
    exact hchanged ((advanceTimers_ne_iff (hfit id v hv)).mpr ⟨hhold, .inr (.inl (hsome hat hle))⟩)
  | stale hactive hat hle =>
    refine hchanged ((advanceTimers_ne_iff (hfit id v hv)).mpr ⟨?_, .inr (.inr (hsome hat hle))⟩)
    unfold ScheduledVehicle.updateStaleDeadline at hat
    by_contra hhold
    simp [hhold] at hat
  | silent hactive hat hle =>
    right; right; right; right; right; left
    have hmem : (id, v) ∈ s.vehicles.entries.filter (silentDrive · m.now) :=
      mem_filter.mpr ⟨get?_eq_some.mp hv, silentDrive_iff.mpr ⟨hactive, _, hat, hle⟩⟩
    change (s.vehicles.entries.filter (silentDrive · m.now)).map (·.1) ≠ []
    intro hnil
    rw [map_eq_nil_iff.mp hnil] at hmem
    cases hmem
  | noData hat hlt =>
    right; right; right; right; left
    intro hnil
    have hmem : (id, v) ∈ s.vehicles.entries.filter fun e =>
        (e.2.noDataDeadlineMs s.timing).any (· < s.wallOrLast m) :=
      mem_filter.mpr ⟨get?_eq_some.mp hv, by simp [hat, hlt]⟩
    rw [map_eq_nil_iff.mp hnil] at hmem
    cases hmem

theorem Actionable.due (h : s.Actionable m) :
    s.discoveryDue m.now ∨ ∃ id v, s.vehicles.get? id = some v ∧ s.CarDue m v := by
  have hchanged {id : VehicleId} {v : ScheduledVehicle} (hv : s.vehicles.get? id = some v)
      (hne : (v.advanceTimers s.timing m.now (s.wallOrLast m)).1 ≠ v) : s.CarDue m v := by
    obtain ⟨hhold, hdue⟩ := (advanceTimers_ne_iff (hfit id v hv)).mp hne
    have hactive : v.isInactive = false := by simp [ScheduledVehicle.isInactive, hhold]
    rcases hdue with hdue | hdue | hdue
    all_goals obtain ⟨x, hx, hle⟩ := (Option.any_eq_true _ _).mp hdue
    · exact .idle hhold hx (of_decide_eq_true hle)
    · exact .suspended hhold hx (of_decide_eq_true hle)
    · exact .stale hactive hx (of_decide_eq_true hle)
  rcases h with hlist | hread | hcheck | hprobe | hnodata | hsilent | ⟨id, v, hv, hne⟩
  · exact .inl hlist
  · obtain ⟨id, hin⟩ := exists_mem_of_ne_nil _ hread
    obtain ⟨v, due, hv, hallowed, hhold, hflight, hat, hle⟩ := of_mem_dueVehicles hin
    refine .inr ⟨id, v, hv, ?_⟩
    by_cases hsame : (v.advanceTimers s.timing m.now (s.wallOrLast m)).1 = v
    · rw [hsame] at hhold hflight hat
      exact .read hallowed (by simp [ScheduledVehicle.readDueAt, hhold, hflight, hat]) hle
    · exact hchanged hv hsame
  · unfold dueOfflineStateVehicles at hcheck
    split_ifs at hcheck with hallowed
    · exact absurd rfl hcheck
    simp only [Bool.or_eq_true, Bool.not_eq_true', not_or, Bool.not_eq_false] at hallowed
    obtain ⟨id, hin⟩ := exists_mem_of_ne_nil _ hcheck
    obtain ⟨v, due, hv, hat, hle⟩ := of_mem_takeDue hin
    exact .inr ⟨id, v, hv, .check hallowed.2 hat hle⟩
  · unfold dueProbeVehicles at hprobe
    split_ifs at hprobe with hallowed
    · exact absurd rfl hprobe
    obtain ⟨⟨id, kind⟩, hin⟩ := exists_mem_of_ne_nil _ hprobe
    obtain ⟨id', hin, heq⟩ := List.mem_map.mp hin
    obtain ⟨v, due, hv, hat, hle⟩ := of_mem_takeDue hin
    split_ifs at hat
    · exact .inr ⟨id', v, hv, .probe (by simpa using hallowed) hat hle⟩
  · obtain ⟨id, hin⟩ := exists_mem_of_ne_nil _ hnodata
    obtain ⟨⟨id', v⟩, hkept, rfl⟩ := List.mem_map.mp hin
    obtain ⟨hentry, hdue⟩ := mem_filter.mp hkept
    obtain ⟨deadlineMs, hat, hlt⟩ := (Option.any_eq_true _ _).mp hdue
    exact .inr ⟨id', v, get?_eq_some.mpr hentry, .noData hat (of_decide_eq_true hlt)⟩
  · obtain ⟨id, hin⟩ := exists_mem_of_ne_nil _ hsilent
    obtain ⟨⟨id', v⟩, hkept, rfl⟩ := List.mem_map.mp hin
    obtain ⟨hentry, hdue⟩ := mem_filter.mp hkept
    obtain ⟨hactive, due, hat, hle⟩ := silentDrive_iff.mp hdue
    exact .inr ⟨id', v, get?_eq_some.mpr hentry, .silent hactive hat hle⟩
  · exact .inr ⟨id, v, hv, hchanged hv hne⟩

theorem delay_eq_zero_iff_actionable
    (hflight : ∀ id v, s.vehicles.get? id = some v → v.inFlight = false) :
    s.delayUntilNextAction m = 0 ↔ s.Actionable m := by
  rw [delay_eq_zero_iff]
  constructor
  · rintro (hlist | ⟨id, v, hv, hcar⟩)
    · exact .inl hlist
    · exact hcar.actionable hfit hflight hv
  · exact Actionable.due hfit

end

end VehicleScheduler

namespace VehicleBaseline

structure TimersFit (ownerWire : Bool) (b : VehicleBaseline) : Prop where
  suspendAt : b.phase ≠ .online → b.suspendAt = none
  suspendedUntil : b.phase ≠ .suspended → b.suspendedUntil = none
  check : ownerWire = false → b.nextCheckDue = none
  removed : b.hold = .removed → b.suspendAt = none ∧ b.suspendedUntil = none
  placeholder : b.placeholder → b.phase ≠ .online ∧ b.phase ≠ .suspended

end VehicleBaseline

namespace Hub

def keepsTimers (hub : Hub) (e : Event) : Bool :=
  match e.what with
  | .input i =>
    hub.scheduler.vehicles.entries.all fun entry => hub.scheduler.keepsTimers i entry.1 entry.2
  | _ => true

def TimersFit (hub : Hub) : Prop :=
  Cars (ScheduledVehicle.TimersFit hub.scheduler.mode.isOwnerWire)
    (VehicleBaseline.TimersFit hub.scheduler.mode.isOwnerWire) hub

/-- So does every event that keeps the timers. -/
theorem step_timersFit {hub : Hub} {e : Event} (h : hub.TimersFit) (hkeep : hub.keepsTimers e) :
    (hub.step e).TimersFit := by
  rcases hub.step_mode_timing e with ⟨hmode, _⟩ | ⟨process, hstart⟩
  · unfold TimersFit
    rw [hmode]
    refine Cars.step h (fun v hv => ⟨hv.suspendAt, hv.suspendedUntil, hv.check, hv.removed,
      hv.placeholder⟩) e ?_ ?_ ?_
    · intro i _ id v hnew
      exact hnew.timersFit
    · intro i hi id v v' hstep hfrom hv
      refine hstep.timersFit hv ?_
      rcases hfrom with hknown | hnew
      · simp only [keepsTimers, hi] at hkeep
        exact List.all_eq_true.mp hkeep (id, v) (get?_eq_some.mp hknown)
      · exact hnew.keepsTimers
    · intro _ base _ id v b _ _ hv hb
      -- the settings are the owner's and stay; every other field of the invariant returns
      exact ⟨hb.suspendAt, hb.suspendedUntil, hv.suspend, hb.check, hb.removed, hb.placeholder⟩
  · rw [hstart]
    exact Cars.of_start ..

/-- The loop neither spins nor oversleeps (C3 R11). -/
theorem delay_is_zero_iff_actionable (store : CollectorStore) (process : ProcessStart)
    (m : Moment) (es : List Event)
    (hkeep : RunRules.Along step (fun hub e => hub.keepsTimers e = true) (start store process m) es)
    (hflight : ∀ id v, ((start store process m).run es).scheduler.vehicles.get? id = some v →
      v.inFlight = false) (look : Moment) :
    ((start store process m).run es).scheduler.delayUntilNextAction look = 0 ↔
      ((start store process m).run es).scheduler.Actionable look := by
  have hrun := RunRules.foldl_invariant (I := TimersFit) (fun hub e => step_timersFit)
    (Cars.of_start store process m) hkeep
  exact VehicleScheduler.delay_eq_zero_iff_actionable hrun.cars hflight

theorem delay_is_zero_iff_actionable_atTheEnd :
    ((start {} (.default .legacy []) (.atSecond 0)).run
    suspendedWhenIdle).scheduler.delayUntilNextAction (.atSecond 2704) = 0 ↔
    ((start {} (.default .legacy []) (.atSecond 0)).run suspendedWhenIdle).scheduler.Actionable
    (.atSecond 2704) := by
  have hlanded : ((start {} (.default .legacy []) (.atSecond 0)).run
      suspendedWhenIdle).scheduler.vehicles.values.all (!·.inFlight) := by decide +kernel
  refine delay_is_zero_iff_actionable {} (.default .legacy []) (.atSecond 0) suspendedWhenIdle
    (by decide +kernel)
    (fun id v hv => ?_) (.atSecond 2704)
  simpa using List.all_eq_true.mp hlanded v (OrderedMap.mem_values.mpr ⟨id, hv⟩)

def readOfRemovedCar : List Event :=
  [Input.atSecond 1 (.list [.reported 1 .online]), Input.atSecond 301 (.list []),
    Input.atSecond 601 (.list []), Input.atSecond 700 .beginTick,
      Input.atSecond 700 (.list [.reported 1 .online]), Input.atSecond 700 .dueReads,
    failedCommit 701, Input.atSecond 702 (.readSucceeded 1 .online true),
    Input.atSecond 1600 (.list [.reported 1 .online]), Input.atSecond 1600 .dueReads,
    Input.atSecond 1601 (.readFailed 1 (.ownerApi (.httpStatus 500)))]

theorem delay_is_zero_with_nothing_to_do :
    let s := ((start {} (.default .legacy []) (.atSecond 0)).run readOfRemovedCar).scheduler
    s.vehicles.values.all (!·.inFlight) = true ∧ s.delayUntilNextAction (.atSecond 1603) = 0 ∧
      ¬s.Actionable (.atSecond 1603) := by
  intro s
  have hunknown : s.vehicles.values.all (·.phase = .unknown) := by decide +kernel
  refine ⟨by decide +kernel, by decide +kernel, ?_⟩
  rintro (hlist | hread | hcheck | hprobe | hnodata | hsilent | ⟨id, v, hv, hne⟩)
  · exact absurd hlist (by decide +kernel)
  · exact hread (by decide +kernel)
  · exact hcheck (by decide +kernel)
  · exact hprobe (by decide +kernel)
  · exact hnodata (by decide +kernel)
  · exact hsilent (by decide +kernel)
  · have hphase := List.all_eq_true.mp hunknown v (OrderedMap.mem_values.mpr ⟨id, hv⟩)
    apply hne
    unfold ScheduledVehicle.advanceTimers
    rw [of_decide_eq_true hphase]
    split <;> rfl

end Hub

end TeslatlasHub.Collector
