import TeslatlasHub.RunRules
import TeslatlasHub.SchedulerCarSpecs

namespace TeslatlasHub.Collector

open List Option Bool

open VehicleScheduler (CarStep NewCar)

def ReportedState.isOther : ReportedState → Bool
  | .other _ => true
  | _ => false

namespace ScheduledVehicle

def LookedAtAgain (v : ScheduledVehicle) : Prop :=
  v.hold = .none → v.phase = .suspended → v.suspendedUntil.isSome ∨ v.nextReadDue.isSome ∧
    v.suspensionRead

structure ReadsProved (v : ScheduledVehicle) : Prop where
  due : v.hold = .none → v.phase = .suspended → v.nextReadDue.isSome → v.gatedRead.isSome ∨
    v.suspensionRead
  online : v.hold = .none → v.phase = .suspended → v.suspensionRead → v.reportedState = some .online
  phase : v.suspensionRead → v.phase = .suspended ∨ v.phase = .driving ∨ v.phase = .unknown

variable {v : ScheduledVehicle} {t : Timing} {now : Instant} {wallMs : ℤ}

theorem LookedAtAgain.of_hold (h : v.hold ≠ .none) : v.LookedAtAgain := fun hhold => absurd hhold h

theorem LookedAtAgain.of_phase (h : v.phase ≠ .suspended) : v.LookedAtAgain :=
  fun _ hphase => absurd hphase h

theorem LookedAtAgain.of_end (h : v.suspendedUntil.isSome) : v.LookedAtAgain := fun _ _ => .inl h

theorem ReadsProved.of_hold (h : v.hold ≠ .none)
    (hphase : v.suspensionRead → v.phase = .suspended ∨ v.phase = .driving ∨ v.phase = .unknown) :
    v.ReadsProved :=
  ⟨fun hhold => absurd hhold h, fun hhold => absurd hhold h, hphase⟩

theorem ReadsProved.of_none (hdue : v.nextReadDue = none) (hread : v.suspensionRead = false) :
    v.ReadsProved := by
  constructor <;> simp [hdue, hread]

theorem ReadsProved.of_phase (h : v.phase ≠ .suspended)
    (hphase : v.suspensionRead → v.phase = .driving ∨ v.phase = .unknown) : v.ReadsProved :=
  ⟨fun _ hs => absurd hs h, fun _ hs => absurd hs h, fun hread => .inr (hphase hread)⟩

section LookedAtAgain

section

variable (h : v.LookedAtAgain)
include h

theorem LookedAtAgain.applyRestored (restored : RestoredVehicle) :
    (v.applyRestored restored now wallMs).LookedAtAgain := by
  unfold ScheduledVehicle.applyRestored
  dsimp only
  split
  · exact h
  split
  · exact .of_hold nofun
  · exact .of_hold nofun
  · exact .of_hold nofun
  · split
    · split
      · exact .of_end rfl
      · exact h
    · exact h
  · split
    · split
      · exact .of_end rfl
      · exact h
    · exact h

theorem LookedAtAgain.applySettings (hubId : Uuid) (settings : CarSettings) :
    (v.applySettings t hubId settings now wallMs).LookedAtAgain := by
  have hconfigured := v.applySettings_configured t now wallMs hubId settings
  generalize v.applySettings t hubId settings now wallMs = v' at hconfigured ⊢
  cases hconfigured with
  | same => exact h
  | timed suspendAt suspendedUntil hswitched hat huntil =>
    rcases huntil with rfl | ⟨_, _, hend⟩
    · cases hswitched with
      | same => exact h
      | disabled => exact .of_hold nofun
      | enabled => exact .of_phase (by simp)
    · exact .of_end hend

theorem LookedAtAgain.releaseHold (reason : Reason) :
    (v.releaseHold reason now wallMs).LookedAtAgain := by
  unfold ScheduledVehicle.releaseHold
  split
  · exact .of_phase nofun
  · exact h

theorem LookedAtAgain.noteListed : (v.noteListed now wallMs).LookedAtAgain := by
  unfold ScheduledVehicle.noteListed
  dsimp only
  split
  · exact .of_phase nofun
  · exact h

theorem LookedAtAgain.applyReportedState (state : ReportedState) :
    (v.applyReportedState t state now wallMs).1.LookedAtAgain := by
  have hreported := v.applyReportedState_reported t now wallMs state
  generalize (v.applyReportedState t state now wallMs).1 = v' at hreported ⊢
  cases hreported with
  | asleep => exact .of_phase (by simp [clearPendingReads])
  | offline => exact .of_phase (by simp [clearPendingReads])
  | firstContact hphase => exact .of_phase (by simp [reportNoted, hphase])
  | sessionReturn hphase => exact .of_phase (by simp [reportNoted, hphase])
  | wake hphase => exact .of_phase (by rcases hphase with hp | hp <;> simp [reportNoted, hp])
  | wakeLimited => exact .of_end rfl
  | inactive | stillOffline | online | other => exact h

theorem LookedAtAgain.notFound : (v.notFound t now).LookedAtAgain := by
  grind [LookedAtAgain, ScheduledVehicle.notFound]

theorem LookedAtAgain.pause (reason : PauseReason) (cls : ErrorClass) :
    (v.pause reason cls now).LookedAtAgain := by
  unfold ScheduledVehicle.pause
  dsimp only
  split
  · exact h
  · exact .of_hold nofun

theorem LookedAtAgain.pauseIfPersistent : (v.pauseIfPersistent now).LookedAtAgain := by
  unfold ScheduledVehicle.pauseIfPersistent
  split
  · exact h
  · split
    · exact LookedAtAgain.pause h _ _
    · exact h

theorem LookedAtAgain.enterServiceMode : (v.enterServiceMode now).1.LookedAtAgain := by
  unfold ScheduledVehicle.enterServiceMode
  dsimp only
  split
  · exact h
  · exact .of_hold nofun

theorem LookedAtAgain.noteUnlisted : (v.noteUnlisted t now).LookedAtAgain := by
  unfold ScheduledVehicle.noteUnlisted
  dsimp only
  repeat' split
  all_goals first | exact h | exact .of_hold nofun

theorem LookedAtAgain.countFailure (cls : ErrorClass) (u : ℚ) :
    (v.countFailure t cls u now).LookedAtAgain := by
  grind [LookedAtAgain, ScheduledVehicle.countFailure]

theorem LookedAtAgain.failedOnce (cls : ErrorClass) (u : ℚ) :
    (v.failedOnce t cls now u).LookedAtAgain :=
  (h.countFailure cls u).pauseIfPersistent

theorem LookedAtAgain.readFailed : (v.readFailed t now wallMs).LookedAtAgain := by
  unfold ScheduledVehicle.readFailed
  dsimp only
  split
  · exact .of_phase (by simp)
  · exact h

theorem LookedAtAgain.readUnavailable : (v.readUnavailable t now).LookedAtAgain := by
  grind [LookedAtAgain, ScheduledVehicle.readUnavailable]

theorem LookedAtAgain.gateNotConfirmed : v.gateNotConfirmed.LookedAtAgain := by
  grind [LookedAtAgain, ScheduledVehicle.gateNotConfirmed]

theorem LookedAtAgain.releaseAfterAccountFailure (cls : ErrorClass) (waitUntil : Option Instant) :
    (v.releaseAfterAccountFailure t cls waitUntil now wallMs).LookedAtAgain := by
  grind [LookedAtAgain, ScheduledVehicle.releaseAfterAccountFailure, enterPhase_phase]

theorem LookedAtAgain.advanceTimers : (v.advanceTimers t now wallMs).1.LookedAtAgain := by
  have hadvanced := v.advanceTimers_advanced t now wallMs
  generalize (v.advanceTimers t now wallMs).1 = v' at hadvanced ⊢
  cases hadvanced with
  | same => exact h
  | idle | renewed => exact .of_end rfl
  | ended => exact fun _ _ => .inr ⟨rfl, rfl⟩
  | stale => exact .of_phase (by simp [clearPendingReads])

theorem LookedAtAgain.applyFrameEvidence (evidence : FrameEvidence) :
    (v.applyFrameEvidence t evidence now wallMs).LookedAtAgain := by
  have hevidenced := v.applyFrameEvidence_evidenced t now wallMs evidence
  generalize v.applyFrameEvidence t evidence now wallMs = v' at hevidenced ⊢
  cases hevidenced with
  | same | moving => exact h
  | driving | drivingHeld => exact .of_phase (by simp [makeReadDue])
  -- a read due by evidence leaves the end of the suspension as it is
  | gated | parked | power =>
    exact fun hhold hphase => (h hhold hphase).imp_right fun hend => ⟨rfl, hend.2⟩

end

theorem LookedAtAgain.succeeded (v : ScheduledVehicle) (phase : SnapshotPhase)
    (sleepEligible : Bool) :
    (v.succeeded t phase.phase sleepEligible now wallMs).1.LookedAtAgain := by
  rcases (v.succeeded_read t now wallMs phase sleepEligible).moved with ⟨_, hend, _⟩ | ⟨hphase, _⟩
  · exact .of_end hend
  · exact .of_phase (by rw [hphase]; cases phase <;> exact nofun)

section

variable (h : v.LookedAtAgain)
include h

theorem LookedAtAgain.endHeldCheck : v.endHeldCheck.LookedAtAgain := by
  unfold ScheduledVehicle.endHeldCheck
  split <;> exact h

theorem LookedAtAgain.streamUnhealthy : (v.streamUnhealthy t now).LookedAtAgain := by
  grind [LookedAtAgain, ScheduledVehicle.streamUnhealthy]

theorem LookedAtAgain.acceptListed (restored : Option RestoredVehicle)
    (state : ReportedState) : (v.acceptListed t restored state now wallMs).1.LookedAtAgain := by
  have hrestored : (v.withRow now wallMs restored).LookedAtAgain := by
    unfold withRow
    split
    · cases restored with
      | none => exact h
      | some restored =>
        exact LookedAtAgain.applyRestored (v := { v with placeholder := false }) h restored
    · exact h
  have hnamed : (v.named now wallMs restored state).LookedAtAgain :=
    LookedAtAgain.noteListed hrestored
  exact hnamed.applyReportedState (t := t) state

theorem LookedAtAgain.acceptRecord (state : ReportedState) (u : ℚ) :
    (v.acceptRecord t state u now wallMs).LookedAtAgain := by
  have hchecked : { v with nextCheckDue := none }.LookedAtAgain := h
  have hreported : ((ScheduledVehicle.noteListed _ now wallMs).applyReportedState t state
      now wallMs).1.LookedAtAgain :=
    hchecked.noteListed.applyReportedState state
  unfold ScheduledVehicle.acceptRecord
  dsimp only
  split
  · exact LookedAtAgain.failedOnce (v := (ScheduledVehicle.settleUnavailable _ state).1) hreported _
      _
  · exact hreported

end

end LookedAtAgain

section ReadsProved

section

variable (h : v.ReadsProved)
include h

theorem ReadsProved.applyRestored (restored : RestoredVehicle)
    (hdue : v.nextReadDue.isSome → restored.suspends = false) :
    (v.applyRestored restored now wallMs).ReadsProved := by
  constructor <;> grind [ReadsProved, ScheduledVehicle.applyRestored, RestoredVehicle.suspends]

theorem ReadsProved.applySettings (hubId : Uuid) (settings : CarSettings) :
    (v.applySettings t hubId settings now wallMs).ReadsProved := by
  have hconfigured := v.applySettings_configured t now wallMs hubId settings
  generalize v.applySettings t hubId settings now wallMs = v' at hconfigured ⊢
  cases hconfigured with
  | same => exact ⟨h.due, h.online, h.phase⟩
  | timed suspendAt suspendedUntil hswitched hat huntil =>
    cases hswitched with
    | same => exact ⟨h.due, h.online, h.phase⟩
    | disabled => exact .of_hold nofun h.phase
    | enabled => exact .of_phase (by simp) (by simp)

theorem ReadsProved.releaseHold (reason : Reason) :
    (v.releaseHold reason now wallMs).ReadsProved := by
  unfold ScheduledVehicle.releaseHold
  split
  · exact .of_none rfl rfl
  · exact h

theorem ReadsProved.noteListed : (v.noteListed now wallMs).ReadsProved := by
  unfold ScheduledVehicle.noteListed
  dsimp only
  split
  · exact .of_phase nofun (fun _ => .inr rfl)
  · exact ⟨h.due, h.online, h.phase⟩

theorem ReadsProved.applyReportedState (state : ReportedState)
    (hstate : v.suspensionRead → state.isOther = false) :
    (v.applyReportedState t state now wallMs).1.ReadsProved := by
  have hreported := v.applyReportedState_reported t now wallMs state
  generalize (v.applyReportedState t state now wallMs).1 = v' at hreported ⊢
  cases hreported with
  | asleep | offline => exact .of_none rfl rfl
  | inactive state hin =>
    refine .of_hold (fun hhold => ?_) h.phase
    change v.hold = .none at hhold
    simp [isInactive, hhold] at hin
  | stillOffline hin hphase =>
    refine .of_phase (by rcases hphase with hp | hp <;> simp [reportNoted, hp]) (fun hread => ?_)
    rcases hphase with hp | hp <;> simpa [hp] using h.phase hread
  | firstContact hphase => exact .of_phase (by simp [reportNoted, hphase]) (fun _ => .inr hphase)
  | sessionReturn hphase =>
    exact .of_phase (by simp [reportNoted, hphase])
      (fun hread => by simpa [hphase] using h.phase hread)
  | wake hphase =>
    refine .of_phase (by rcases hphase with hp | hp <;> simp [reportNoted, hp]) (fun hread => ?_)
    rcases hphase with hp | hp <;> simpa [hp] using h.phase hread
  | wakeLimited suspendUntil hphase =>
    refine .of_none rfl (eq_false_of_not_eq_true fun hread => ?_)
    have hbefore := h.phase (by simpa [beginSuspension, reportNoted] using hread)
    rcases hphase with hp | hp <;> simp [hp] at hbefore
  | online => exact ⟨h.due, fun _ _ _ => rfl, h.phase⟩
  | other text =>
    refine ⟨h.due, fun _ _ hread => ?_, h.phase⟩
    cases hstate hread

theorem ReadsProved.notFound : (v.notFound t now).ReadsProved := by
  constructor <;> grind [ReadsProved, ScheduledVehicle.notFound]

theorem ReadsProved.pause (reason : PauseReason) (cls : ErrorClass) :
    (v.pause reason cls now).ReadsProved := by
  unfold ScheduledVehicle.pause
  dsimp only
  split
  · exact ⟨h.due, h.online, h.phase⟩
  · exact .of_none rfl rfl

theorem ReadsProved.pauseIfPersistent : (v.pauseIfPersistent now).ReadsProved := by
  unfold ScheduledVehicle.pauseIfPersistent
  split
  · exact h
  · split
    · exact h.pause ..
    · exact h

theorem ReadsProved.enterServiceMode : (v.enterServiceMode now).1.ReadsProved := by
  unfold ScheduledVehicle.enterServiceMode
  dsimp only
  split
  · exact ⟨h.due, h.online, h.phase⟩
  · exact .of_none rfl rfl

theorem ReadsProved.noteUnlisted : (v.noteUnlisted t now).ReadsProved := by
  unfold ScheduledVehicle.noteUnlisted
  dsimp only
  repeat' split
  all_goals first | exact ⟨h.due, h.online, h.phase⟩ | exact .of_none rfl rfl

theorem ReadsProved.countFailure (cls : ErrorClass) (u : ℚ) :
    (v.countFailure t cls u now).ReadsProved := by
  constructor <;> grind [ReadsProved, ScheduledVehicle.countFailure]

theorem ReadsProved.failedOnce (cls : ErrorClass) (u : ℚ) :
    (v.failedOnce t cls now u).ReadsProved :=
  (h.countFailure cls u).pauseIfPersistent

theorem ReadsProved.gateNotConfirmed : v.gateNotConfirmed.ReadsProved := by
  constructor <;> grind [ReadsProved, ScheduledVehicle.gateNotConfirmed]

theorem ReadsProved.releaseAfterAccountFailure (cls : ErrorClass) (waitUntil : Option Instant) :
    (v.releaseAfterAccountFailure t cls waitUntil now wallMs).ReadsProved := by
  constructor <;> grind [ReadsProved, ScheduledVehicle.releaseAfterAccountFailure, enterPhase_phase,
    enterPhase_suspensionRead]

theorem ReadsProved.advanceTimers : (v.advanceTimers t now wallMs).1.ReadsProved := by
  have hadvanced := v.advanceTimers_advanced t now wallMs
  generalize (v.advanceTimers t now wallMs).1 = v' at hadvanced ⊢
  -- a new suspension starts without the mark of the last one's end: Online cars have none, and of
  -- the
  -- Suspended cars only those reported online
  cases hadvanced with
  | same => exact h
  | idle hhold hphase =>
    refine .of_none rfl (eq_false_of_not_eq_true fun hread => ?_)
    simpa [hphase] using h.phase (by simpa [beginSuspension] using hread)
  | ended hhold hphase _ _ honline =>
    exact ⟨fun _ _ _ => .inr rfl, fun _ _ _ => honline, fun _ => .inl hphase⟩
  | renewed hhold hphase _ _ honline =>
    refine .of_none rfl (eq_false_of_not_eq_true fun hread => ?_)
    exact honline (h.online hhold hphase (by simpa [beginSuspension] using hread))
  | stale => exact .of_none rfl rfl

theorem ReadsProved.applyFrameEvidence (evidence : FrameEvidence) :
    (v.applyFrameEvidence t evidence now wallMs).ReadsProved := by
  have hevidenced := v.applyFrameEvidence_evidenced t now wallMs evidence
  generalize v.applyFrameEvidence t evidence now wallMs = v' at hevidenced ⊢
  cases hevidenced with
  | same | moving => exact ⟨h.due, h.online, h.phase⟩
  | gated => exact ⟨fun _ _ _ => .inl rfl, h.online, h.phase⟩
  | driving | drivingHeld => exact .of_phase (by simp [makeReadDue]) (by simp [makeReadDue])
  | parked _ _ hphase => exact .of_phase (by simp [makeReadDue, hphase]) (fun _ => .inl hphase)
  | power =>
    refine ⟨fun _ hphase _ => .inl ?_, h.online, h.phase⟩
    change v.phase = .suspended at hphase
    simp [makeReadDue, hphase]

theorem ReadsProved.readFailed_countFailure (cls : ErrorClass) (u : ℚ) :
    ((v.readFailed t now wallMs).countFailure t cls u now).ReadsProved := by
  constructor <;> grind [ReadsProved, ScheduledVehicle.countFailure, ScheduledVehicle.readFailed,
    enterPhase_phase, enterPhase_hold, enterPhase_suspensionRead, enterPhase_reportedState]

theorem ReadsProved.readFailed_readUnavailable :
    ((v.readFailed t now wallMs).readUnavailable t now).ReadsProved := by
  constructor <;> grind [ReadsProved, ScheduledVehicle.readUnavailable, ScheduledVehicle.readFailed,
    enterPhase_phase, enterPhase_hold, enterPhase_suspensionRead, enterPhase_reportedState]

theorem ReadsProved.readFailed_notFound (hgate
    :
    ¬(v.hold = .none ∧ v.phase = .suspended ∧ v.gatedRead = some .power ∧ v.suspensionRead =
    false)) : ((v.readFailed t now wallMs).notFound t now).ReadsProved := by
  rcases hread : v.gatedRead with _ | _ | _ <;> constructor <;>
    grind [ReadsProved, ScheduledVehicle.notFound, ScheduledVehicle.readFailed, enterPhase_phase,
      enterPhase_hold, enterPhase_suspensionRead, enterPhase_reportedState]

theorem ReadsProved.readFailed_pause (reason : PauseReason) (cls : ErrorClass) :
    ((v.readFailed t now wallMs).pause reason cls now).ReadsProved := by
  constructor <;> grind [ReadsProved, ScheduledVehicle.pause, ScheduledVehicle.readFailed,
    enterPhase_phase, enterPhase_hold, enterPhase_suspensionRead, enterPhase_reportedState,
      isInactive, stopTimers]

theorem ReadsProved.readFailed_enterServiceMode :
    ((v.readFailed t now wallMs).enterServiceMode now).1.ReadsProved := by
  constructor <;> grind [ReadsProved, ScheduledVehicle.enterServiceMode,
    ScheduledVehicle.readFailed, enterPhase_phase, enterPhase_hold, enterPhase_suspensionRead,
      enterPhase_reportedState, isInactive, stopTimers]

end

theorem ReadsProved.succeeded (v : ScheduledVehicle) (phase : SnapshotPhase)
    (sleepEligible : Bool) :
    (v.succeeded t phase.phase sleepEligible now wallMs).1.ReadsProved := by
  have hread := v.succeeded_read t now wallMs phase sleepEligible
  rcases hread.moved with ⟨_, _, _, hdue⟩ | ⟨hphase, _⟩
  · exact .of_none hdue hread.kept.suspensionRead
  · refine .of_phase (by rw [hphase]; cases phase <;> exact nofun) (fun hsr => ?_)
    rw [hread.kept.suspensionRead] at hsr
    cases hsr

section

variable (h : v.ReadsProved)
include h

theorem ReadsProved.landed : v.landed.ReadsProved := ⟨h.due, h.online, h.phase⟩

theorem ReadsProved.endHeldCheck : v.endHeldCheck.ReadsProved := by
  unfold ScheduledVehicle.endHeldCheck
  split <;> exact ⟨h.due, h.online, h.phase⟩

theorem ReadsProved.streamUnhealthy : (v.streamUnhealthy t now).ReadsProved := by
  constructor <;> grind [ReadsProved, ScheduledVehicle.streamUnhealthy]

theorem ReadsProved.acceptListed {restored : Option RestoredVehicle} {state : ReportedState}
    (hstate : v.suspensionRead → state.isOther = false)
    (hrow : v.placeholder → v.nextReadDue.isSome → ∀ r, restored = some r → r.suspends = false) :
    (v.acceptListed t restored state now wallMs).1.ReadsProved := by
  have hrestored : (v.withRow now wallMs restored).ReadsProved := by
    unfold withRow
    split_ifs with hplaceholder
    · have hlisted : { v with placeholder := false }.ReadsProved := ⟨h.due, h.online, h.phase⟩
      cases restored with
      | none => exact hlisted
      | some r => exact hlisted.applyRestored r (fun hdue => hrow hplaceholder hdue r rfl)
    · exact h
  have hnamed : (v.named now wallMs restored state).ReadsProved :=
    ReadsProved.noteListed ⟨hrestored.due, hrestored.online, hrestored.phase⟩
  have hreported : ((v.named now wallMs restored state).applyReportedState t state
      now wallMs).1.ReadsProved :=
    hnamed.applyReportedState state (fun hread => hstate (by simpa [named] using hread))
  exact ⟨hreported.due, hreported.online, hreported.phase⟩

theorem ReadsProved.acceptAll {restored : Option RestoredVehicle} {states : List ReportedState}
    (hstates : v.suspensionRead → ∀ state ∈ states, state.isOther = false)
    (hrow : v.placeholder → v.nextReadDue.isSome → ∀ r, restored = some r → r.suspends = false) :
    (v.acceptAll t restored now wallMs states).1.ReadsProved := by
  -- an entry clears the placeholder mark, so the stored row matters for the first one only
  let P (w : ScheduledVehicle) : Prop := w.ReadsProved ∧ (w.suspensionRead → v.suspensionRead) ∧
      (w.placeholder → w = v)
  suffices hcarried : P (v.acceptAll t restored now wallMs states).1 from hcarried.1
  have hbefore : P v := ⟨h, fun hread => hread, fun _ => rfl⟩
  refine acceptAll_rule (fun w state hstate hw => ?_) hbefore
  obtain ⟨hproved, hread, hplace⟩ := hw
  refine ⟨hproved.acceptListed (fun hw => hstates (hread hw) state hstate) (fun hw => ?_), fun hw =>
    ?_, fun hw => ?_⟩
  · rw [hplace hw]
    exact hrow (hplace hw ▸ hw)
  · exact hread (acceptListed_suspensionRead hw)
  · rw [acceptListed_placeholder] at hw
    cases hw

theorem ReadsProved.acceptRecord {state : ReportedState}
    (hstate : v.suspensionRead → state.isOther = false) (u : ℚ) :
    (v.acceptRecord t state u now wallMs).ReadsProved := by
  have hchecked : { v with nextCheckDue := none }.ReadsProved := ⟨h.due, h.online, h.phase⟩
  have hreported : ((ScheduledVehicle.noteListed _ now wallMs).applyReportedState t state
      now wallMs).1.ReadsProved :=
    hchecked.noteListed.applyReportedState state (fun hread => hstate (by simpa using hread))
  have hsettled : (((ScheduledVehicle.noteListed _ now wallMs).applyReportedState t state
      now wallMs).1.settleUnavailable
      state).1.ReadsProved := ⟨hreported.due, hreported.online, hreported.phase⟩
  unfold ScheduledVehicle.acceptRecord
  dsimp only
  split
  · exact hsettled.failedOnce _ _
  · exact hsettled

end

end ReadsProved

end ScheduledVehicle

namespace VehicleScheduler

open ScheduledVehicle (LookedAtAgain ReadsProved)

variable {s : VehicleScheduler} {m : Moment} {i : Input} {id : VehicleId} {v v' : ScheduledVehicle}

/-- A Suspended car keeps a time at which it is looked at again. -/
theorem CarStep.lookedAtAgain (hstep : s.CarStep m i id v v') (h : v.LookedAtAgain) :
    v'.LookedAtAgain := by
  cases hstep with
  | settings => exact h.applySettings _ _
  | ownerReleased reason => exact h.releaseHold reason
  | listed draws =>
    exact foldlRecOn draws _ (ScheduledVehicle.acceptAll_rule (fun v state _ hv => hv.acceptListed
      _ state) h)
      (fun v hv u _ => hv.failedOnce .transient u)
  | unlisted => exact h.noteUnlisted
  | record u => exact h.acceptRecord _ u
  | recordNotFound => exact h.notFound.endHeldCheck
  | recordPaused reason cls => exact (h.pause reason cls).endHeldCheck
  | recordCounted cls =>
    exact (LookedAtAgain.pauseIfPersistent (v := v.retryCheck s.timing cls true m.now)
      h).endHeldCheck
  | recordRetried cls =>
    exact LookedAtAgain.endHeldCheck (v := v.retryCheck s.timing cls false m.now) h
  | timers => exact h.advanceTimers
  | read => exact LookedAtAgain.advanceTimers (v := v) h
  | succeeded => exact .succeeded _ _ _
  | readReleased cls waitUntil => exact h.releaseAfterAccountFailure cls waitUntil
  | readNotConfirmed => exact h.gateNotConfirmed
  | readInstalling hphase => exact .of_phase (by change v.phase ≠ _; rw [hphase]; exact nofun)
  | readUnavailable =>
    have hfailed : ((v.readFailed s.timing m.now (s.wallOrLast m)).readUnavailable
        s.timing m.now).LookedAtAgain :=
      h.readFailed.readUnavailable
    split <;> exact hfailed
  | readNotFound => exact h.readFailed.notFound
  | readInService => exact h.readFailed.enterServiceMode
  | readPaused reason cls => exact h.readFailed.pause reason cls
  | readCounted cls u => exact h.readFailed.failedOnce cls u
  | probeLeftService => exact LookedAtAgain.releaseHold (v := v.landed) h _
  | probeLeftServiceOnline hheld =>
    rw [ScheduledVehicle.releaseHold_of_isHeld (v := v.landed) m.now (s.wallOrLast m) hheld]
    exact .of_phase nofun
  | probeReadService => exact .succeeded _ _ _
  | probeReadPaused => exact LookedAtAgain.releaseHold (v := v.landed) h _
  | probeRead => exact .succeeded _ _ _
  | probePaused reason cls => exact LookedAtAgain.pause (v := v.landed) h reason cls
  | probeNotFound cls => exact LookedAtAgain.notFound (v := v.landed) h
  | probeEntered => exact LookedAtAgain.enterServiceMode (v := v.landed) h
  | frame => exact h.applyFrameEvidence _
  | streamUnhealthy => exact h.streamUnhealthy
  | _ => exact h

def keepsReadProof (s : VehicleScheduler) (i : Input) (id : VehicleId) (v : ScheduledVehicle) :
    Bool :=
  match i with
  | .list vehicles => vehicles.all fun incoming => incoming.id ≠ id ||
      !(v.suspensionRead && incoming.vehicle.state.isOther) &&
        !(v.placeholder && v.nextReadDue.isSome && (s.restored.get? id).any (·.suspends))
  | .record target state => target ≠ id || !(v.suspensionRead && state.isOther)
  | .readFailed target error => target ≠ id || classify error .read s.mode ≠ .notFound ||
      !(v.hold = .none && v.phase = .suspended && v.gatedRead = some .power && !v.suspensionRead)
  | _ => true

/-- A read of a Suspended car stays due for a reason only. -/
theorem CarStep.readsProved (hstep : s.CarStep m i id v v') (h : v.ReadsProved)
    (hkeep : s.keepsReadProof i id v) : v'.ReadsProved := by
  cases hstep with
  | settings => exact h.applySettings ..
  | ownerReleased reason => exact h.releaseHold reason
  | @listed vehicles _ _ states draws hstates hsome =>
    have hentry : ∀ state ∈ states, (!(v.suspensionRead && state.isOther) && !(v.placeholder &&
        v.nextReadDue.isSome && (s.restored.get? id).any (·.suspends))) :=
      hstates ▸ all_named (c := fun _ => _) hkeep
    refine foldlRecOn draws _ (h.acceptAll ?_ ?_) (fun v hv u _ => hv.failedOnce .transient u)
    · intro hread state hin
      simpa [hread] using (and_eq_true_iff.mp (hentry state hin)).1
    · intro hplace hdue r hr
      obtain ⟨state, hin⟩ := exists_mem_of_ne_nil states hsome
      simpa [hplace, hdue, hr] using (and_eq_true_iff.mp (hentry state hin)).2
  | unlisted => exact h.noteUnlisted
  | record u =>
    refine h.acceptRecord (fun hread => ?_) u
    simpa [keepsReadProof, hread] using hkeep
  | recordNotFound => exact h.notFound.endHeldCheck
  | recordPaused reason cls => exact (h.pause reason cls).endHeldCheck
  | recordCounted cls =>
    have hretried : (v.retryCheck s.timing cls true m.now).ReadsProved := ⟨h.due, h.online, h.phase⟩
    exact hretried.pauseIfPersistent.endHeldCheck
  | recordRetried cls =>
    have hretried : (v.retryCheck s.timing cls false m.now).ReadsProved :=
      ⟨h.due, h.online, h.phase⟩
    exact hretried.endHeldCheck
  | timers => exact h.advanceTimers
  | read =>
    have hadvanced : (v.advanceTimers s.timing m.now (s.wallOrLast m)).1.ReadsProved :=
      h.advanceTimers
    exact ⟨hadvanced.due, hadvanced.online, hadvanced.phase⟩
  | succeeded => exact .succeeded ..
  | readReleased cls waitUntil => exact h.releaseAfterAccountFailure cls waitUntil
  | readNotConfirmed => exact h.gateNotConfirmed
  | readInstalling hphase =>
    have hread : v.suspensionRead = false := by
      by_contra hne
      have hphases := h.phase (eq_true_of_not_eq_false hne)
      simp [hphase] at hphases
    refine .of_phase ?_ ?_
    · change v.phase ≠ _
      simp [hphase]
    · change v.suspensionRead = true → _
      simp [hread]
  | readUnavailable =>
    have hfailed : ((v.readFailed s.timing m.now (s.wallOrLast m)).readUnavailable
        s.timing m.now).ReadsProved :=
      h.readFailed_readUnavailable
    split
    · exact hfailed
    · exact ⟨hfailed.due, hfailed.online, hfailed.phase⟩
  | readNotFound hclass =>
    refine h.readFailed_notFound (fun hgate => ?_)
    obtain ⟨hhold, hphase, hpower, hread⟩ := hgate
    simp [keepsReadProof, hclass, hhold, hphase, hpower, hread] at hkeep
  | readInService => exact h.readFailed_enterServiceMode
  | readPaused reason cls => exact h.readFailed_pause reason cls
  | readCounted cls u => exact (h.readFailed_countFailure cls u).pauseIfPersistent
  | probeLeftService => exact h.landed.releaseHold _
  | probeLeftServiceOnline hheld =>
    rw [ScheduledVehicle.releaseHold_of_isHeld (v := v.landed) m.now (s.wallOrLast m) hheld]
    exact .of_phase nofun nofun
  | probeReadService => exact .succeeded ..
  | probeReadPaused =>
    have hreleased : (v.landed.releaseHold .resumed m.now (s.wallOrLast m)).ReadsProved :=
      h.landed.releaseHold _
    exact ⟨hreleased.due, hreleased.online, hreleased.phase⟩
  | probeRead => exact .succeeded ..
  | probePaused reason cls => exact h.landed.pause reason cls
  | probeNotFound cls =>
    have hmissing : (v.landed.notFound s.timing m.now).ReadsProved := h.landed.notFound
    exact ⟨hmissing.due, hmissing.online, hmissing.phase⟩
  | probeEntered => exact h.landed.enterServiceMode
  | frame => exact h.applyFrameEvidence _
  | streamUnhealthy => exact h.streamUnhealthy
  | _ => exact ⟨h.due, h.online, h.phase⟩

theorem dueVehicles_proved (h : ∀ id v, s.vehicles.get? id = some v → v.ReadsProved)
    (hdue : id ∈ (s.dueVehicles m).2) (hv : (s.dueVehicles m).1.vehicles.get? id = some v)
    (hphase : v.phase = .suspended) :
    (s.dueVehicles m).1.requiresLiveStreamPowerGate id ∨ v.suspensionRead ∧ v.reportedOnline := by
  obtain ⟨v₀, due, hknown, _, hhold, _, hread, _⟩ := of_mem_dueVehicles hdue
  have hproved : (v₀.advanceTimers s.timing m.now (s.wallOrLast m)).1.ReadsProved :=
    (h id v₀ hknown).advanceTimers
  have hcar := hv
  rw [dueVehicles_get?, hknown, map_some, if_pos hdue, some.injEq] at hcar
  subst hcar
  rcases hproved.due hhold hphase (by rw [hread]; rfl) with hgate | hend
  · left
    unfold requiresLiveStreamPowerGate
    rw [hv]
    simpa using And.intro hgate hphase
  · right
    exact ⟨hend, by simpa [ScheduledVehicle.reportedOnline] using hproved.online hhold hphase hend⟩

theorem NewCar.lookedAtAgain (hnew : s.NewCar m i id v) : v.LookedAtAgain := by
  have hfresh (vehicle : Vehicle) :
      (ScheduledVehicle.new vehicle m.now (s.wallOrLast m)).LookedAtAgain :=
    .of_phase nofun
  have hconfigured (car : ConfiguredCar) :
      (ScheduledVehicle.configuredOnly car.hubId car.settings m.now
        (s.wallOrLast m)).LookedAtAgain := .of_phase nofun
  exact hnew.rule (fun _ car _ => ⟨hconfigured car, fun r _ => (hconfigured car).applyRestored r⟩)
    (fun _ vehicle _ => ⟨hfresh vehicle, fun r => (hfresh vehicle).applyRestored r⟩)

theorem NewCar.readsProved (hnew : s.NewCar m i id v) : v.ReadsProved :=
  .of_none hnew.nextReadDue hnew.suspensionRead

theorem NewCar.keepsReadProof (hnew : s.NewCar m i id v) : s.keepsReadProof i id v := by
  have hread := hnew.suspensionRead
  have hdue := hnew.nextReadDue
  cases hnew <;> simp [VehicleScheduler.keepsReadProof, hread, hdue]

end VehicleScheduler

namespace Hub

def restoresSuspensions (hub : Hub) (e : Event) : Bool :=
  !hub.commitFails e || hub.scheduler.baseline.all fun base => base.vehicles.values.all fun b =>
    b.hold ≠ .none || b.phase ≠ .suspended || b.suspendedUntil.isSome

/-- The same over events, where roll-backs restore whole suspensions. -/
theorem step_lookedAtAgain {hub : Hub} {e : Event}
    (h : Cars ScheduledVehicle.LookedAtAgain (fun _ => True) hub)
    (hback : hub.restoresSuspensions e) :
    Cars ScheduledVehicle.LookedAtAgain (fun _ => True) (hub.step e) := by
  refine h.step (fun _ _ => trivial) e ?_ ?_ ?_
  · intro i _ id v hnew
    exact hnew.lookedAtAgain
  · intro i _ id v v' hstep _ hv
    exact hstep.lookedAtAgain hv
  · intro hfails base hbase id v b _ hb _ _ hhold hphase
    have hb' := OrderedMap.mem_values.mpr ⟨id, hb⟩
    simp only [restoresSuspensions, hfails, hbase, Bool.not_true, Bool.false_or, all_some,
      List.all_eq_true, or_eq_true, decide_eq_true_eq] at hback
    left
    rcases hback b hb' with (hne | hne) | hend
    · exact absurd hhold hne
    · exact absurd hphase hne
    · exact hend

/-- An event that leaves the reads of Suspended cars proved; a failed commit brings none of them
back due. -/
def keepsReadProofs (hub : Hub) (e : Event) : Bool :=
  match e.what with
  | .input i =>
    hub.scheduler.vehicles.entries.all fun entry => hub.scheduler.keepsReadProof i entry.1 entry.2
  | _ =>
    !hub.commitFails e || hub.scheduler.baseline.all fun base => base.vehicles.values.all fun b =>
      b.hold ≠ .none || b.phase ≠ .suspended || b.nextReadDue = none

/-- The same over events that keep the proofs of reads. -/
theorem step_readsProved {hub : Hub} {e : Event}
    (h : Cars ScheduledVehicle.ReadsProved (fun _ => True) hub) (hkeep : hub.keepsReadProofs e) :
    Cars ScheduledVehicle.ReadsProved (fun _ => True) (hub.step e) := by
  refine h.step (fun _ _ => trivial) e ?_ ?_ ?_
  · intro i _ id v hnew
    exact hnew.readsProved
  · intro i hi id v v' hstep hfrom hv
    refine hstep.readsProved hv ?_
    rcases hfrom with hknown | hnew
    · simp only [keepsReadProofs, hi] at hkeep
      exact List.all_eq_true.mp hkeep (id, v) (OrderedMap.get?_eq_some.mp hknown)
    · exact hnew.keepsReadProof
  · intro hfails base hbase id v b _ hb _ _
    have hrest : b.hold = .none → b.phase = .suspended → b.nextReadDue = none := by
      intro hhold hphase
      have hb' := OrderedMap.mem_values.mpr ⟨id, hb⟩
      obtain ⟨time, what⟩ := e
      cases what with
      | commit =>
        simp only [keepsReadProofs, hfails, hbase, Bool.not_true, Bool.false_or, all_some,
          List.all_eq_true, or_eq_true, decide_eq_true_eq] at hkeep
        rcases hkeep b hb' with (hne | hne) | hnone
        · exact absurd hhold hne
        · exact absurd hphase hne
        · exact hnone
      | _ => cases hfails
    refine ⟨fun hhold hphase hdue => ?_, fun _ _ hread => (nomatch hread), fun hread =>
      (nomatch hread)⟩
    change b.nextReadDue.isSome at hdue
    rw [hrest hhold hphase] at hdue
    cases hdue

/-- A Suspended car is read only behind the live stream's gate, or at the end of the suspension of a
car last reported online. -/
theorem suspended_car_is_read_with_a_proof (store : CollectorStore) (process : ProcessStart)
    (m : Moment) (es : List Event)
    (hkeep : RunRules.Along step (fun hub e => hub.keepsReadProofs e = true)
      (start store process m) es) (look : Moment) (id : VehicleId) (v : ScheduledVehicle)
    (hdue : id ∈ (((start store process m).run es).scheduler.dueVehicles look).2)
    (hv : (((start store process m).run es).scheduler.dueVehicles look).1.vehicles.get? id =
      some v) (hphase : v.phase = .suspended) :
    (((start store process m).run es).scheduler.dueVehicles look).1.requiresLiveStreamPowerGate id =
      true ∨
      v.suspensionRead = true ∧ v.reportedOnline = true := by
  have hrun := RunRules.foldl_invariant (fun hub e => step_readsProved)
      (Cars.of_start store process m) hkeep
  exact VehicleScheduler.dueVehicles_proved hrun.cars hdue hv hphase

/-- In a run whose failed commits bring back only suspensions with an end, no Suspended car is left
with nothing scheduled. -/
theorem suspended_car_is_looked_at_again (store : CollectorStore) (process : ProcessStart)
    (m : Moment) (es : List Event)
    (hback : RunRules.Along step (fun hub e => hub.restoresSuspensions e = true)
    (start store process m) es) (id : VehicleId) (v : ScheduledVehicle)
    (hv : ((start store process m).run es).scheduler.vehicles.get? id = some v)
    (hhold : v.hold = .none) (hphase : v.phase = .suspended) :
    v.suspendedUntil.isSome ∨ v.nextReadDue.isSome := by
  have hrun := RunRules.foldl_invariant (fun hub e => step_lookedAtAgain)
      (Cars.of_start store process m) hback
  rcases hrun.cars id v hv hhold hphase with hend | ⟨hdue, _⟩
  · exact .inl hend
  · exact .inr hdue

def suspendedWhenIdle : List Event :=
  [Input.atSecond 1 (.list [.reported 1 .online]), Input.atSecond 1 .dueReads,
    Input.atSecond 2 (.readSucceeded 1 .online true), Input.atSecond 903 .dueReads]

def failedCommitAfterTheEnd : List Event :=
  suspendedWhenIdle++[Input.atSecond 2704 .dueReads,
    Input.atSecond 2705 (.readFailed 1 (.ownerApi (.rateLimited 5))),
      Input.atSecond 2706 .beginTick,
    failedCommit 2707]

theorem suspended_car_is_looked_at_again_failedCommit :
    ∃ v, ((start {} (.default .legacy []) (.atSecond 0)).run (suspendedWhenIdle++
        [Input.atSecond 904 .beginTick, failedCommit 905])).scheduler.vehicles.get? 1 = some v ∧
      v.hold = .none ∧ v.phase = .suspended ∧ (v.suspendedUntil.isSome ∨ v.nextReadDue.isSome) := by
  have hcar : (((start {} (.default .legacy []) (.atSecond 0)).run (suspendedWhenIdle++
      [Input.atSecond 904 .beginTick, failedCommit 905])).scheduler.vehicles.get? 1).any
        (fun v => v.hold = .none && v.phase = .suspended) := by decide +kernel
  obtain ⟨v, hv, hcar⟩ := (Option.any_eq_true _ _).mp hcar
  simp only [and_eq_true, decide_eq_true_eq] at hcar
  exact ⟨v, hv, hcar.1, hcar.2, suspended_car_is_looked_at_again {} (.default .legacy [])
    (.atSecond 0)
    (suspendedWhenIdle++[Input.atSecond 904 .beginTick, failedCommit 905]) (by decide +kernel) 1 v
      hv hcar.1 hcar.2⟩

theorem suspended_car_is_read_with_a_proof_atTheEnd :
    (((start {} (.default .legacy []) (.atSecond 0)).run suspendedWhenIdle).scheduler.dueVehicles
    (.atSecond 2704)).1.requiresLiveStreamPowerGate 1 = true ∨
    ∃ v, (((start {} (.default .legacy []) (.atSecond 0)).run
    suspendedWhenIdle).scheduler.dueVehicles (.atSecond 2704)).1.vehicles.get? 1 = some v ∧
    v.suspensionRead = true ∧ v.reportedOnline = true := by
  have hcar : ((((start {} (.default .legacy []) (.atSecond 0)).run
      suspendedWhenIdle).scheduler.dueVehicles
      (.atSecond 2704)).1.vehicles.get? 1).any (·.phase = .suspended) := by decide +kernel
  obtain ⟨v, hv, hphase⟩ := (Option.any_eq_true _ _).mp hcar
  have hproof := suspended_car_is_read_with_a_proof {} (.default .legacy []) (.atSecond 0)
      suspendedWhenIdle
    (by decide +kernel) (.atSecond 2704) 1 v (by decide +kernel) hv (of_decide_eq_true hphase)
  exact hproof.imp_right fun hend => ⟨v, hv, hend⟩

/-- The rollback brings the due time of a Suspended car's read back without what proves it. -/
theorem suspended_car_is_read_without_proof_after_a_failed_commit :
    let due := ((start {} (.default .legacy []) (.atSecond 0)).run
        failedCommitAfterTheEnd).scheduler.dueVehicles
      (.atSecond 2720)
    1 ∈ due.2 ∧ due.1.requiresLiveStreamPowerGate 1 = false ∧
      (due.1.vehicles.get? 1).any (fun v => v.phase = .suspended && !v.suspensionRead) = true := by
  decide +kernel

/-- The rollback brings the due time of the last read back without the mark that keeps it alive. -/
theorem suspended_car_is_forgotten_after_a_failed_commit :
    ((start {} (.default .legacy []) (.atSecond 0)).run
    (failedCommitAfterTheEnd++[Input.atSecond 2720 .dueReads,
    Input.atSecond 2721 (.readFailed 1 (.ownerApi (.httpStatus 500)))])).scheduler.vehicles.get? 1
    |>.any fun v => v.hold = .none && v.phase = .suspended && !v.inFlight && v.suspendedUntil =
    none && v.nextReadDue = none := by
  decide +kernel

end Hub

end TeslatlasHub.Collector
