import TeslatlasHub.SchedulerFrames

namespace TeslatlasHub.Collector

open OrderedMap List Option ScheduledVehicle

open VehicleScheduler (ProbeOutcome targets)

/-! ### What one event does to one car -/

namespace ScheduledVehicle

variable (v : ScheduledVehicle)

def acceptAll (t : Timing) (restored : Option RestoredVehicle) (now : Instant) (wallMs : ℤ) :
    ScheduledVehicle → List ReportedState → ScheduledVehicle × ℕ
  | v, [] => (v, 0)
  | v, state :: rest =>
    let listed := v.acceptListed t restored state now wallMs
    let tail := acceptAll t restored now wallMs listed.1 rest
    (tail.1, if listed.2.2 then tail.2+1 else tail.2)

def failedOnce (t : Timing) (cls : ErrorClass) (now : Instant) (u : ℚ) : ScheduledVehicle :=
  (v.countFailure t cls u now).pauseIfPersistent now

def acceptRecord (t : Timing) (state : ReportedState) (u : ℚ) (now : Instant) (wallMs : ℤ) :
    ScheduledVehicle :=
  let v : ScheduledVehicle := { v with nextCheckDue := none }
  let settled := ((v.noteListed now wallMs).applyReportedState t state now
      wallMs).1.settleUnavailable state
  if settled.2 then settled.1.failedOnce t .transient now u else settled.1

def landed : ScheduledVehicle := { v with inFlight := false }

end ScheduledVehicle

namespace VehicleScheduler

inductive CarStep (s : VehicleScheduler) (m : Moment) :
    Input → VehicleId → ScheduledVehicle → ScheduledVehicle → Prop
  | settings {configured id v car} : (targets configured).get? id = some car →
        CarStep s m (.settings configured) id v
        (v.applySettings s.timing car.hubId car.settings m.now (s.wallOrLast m))
  | ownerReleased {actions id v} (reason : Reason) : v.hold.isPaused →
        CarStep s m (.ownerActions actions) id v
        (v.releaseHold reason m.now (s.wallOrLast m))
  | listed {vehicles id v states} (draws : List ℚ) :
      states = (vehicles.filter (·.id = id)).map (·.vehicle.state) → states ≠ [] →
      draws.length = (v.acceptAll s.timing (s.restored.get? id) m.now (s.wallOrLast m) states).2 →
      CarStep s m (.list vehicles) id v
        (draws.foldl (fun v u => v.failedOnce s.timing .transient m.now u)
          (v.acceptAll s.timing (s.restored.get? id) m.now (s.wallOrLast m) states).1)
  | unlisted {vehicles id v} :
      id ∉ vehicles.map (·.id) → CarStep s m (.list vehicles) id v (v.noteUnlisted s.timing m.now)
  | record {id state v} (u : ℚ) :
      CarStep s m (.record id state) id v (v.acceptRecord s.timing state u m.now (s.wallOrLast m))
  | recordNotFound {id error v} : CarStep s m (.recordFailed id error) id v
      (v.notFound s.timing m.now).endHeldCheck
  | recordPaused {id error v} (reason : PauseReason) (cls : ErrorClass) :
      CarStep s m (.recordFailed id error) id v (v.pause reason cls m.now).endHeldCheck
  | recordCounted {id error v} (cls : ErrorClass) : CarStep s m (.recordFailed id error) id v
        ((v.retryCheck s.timing cls true m.now).pauseIfPersistent m.now).endHeldCheck
  | recordRetried {id error v} (cls : ErrorClass) :
      CarStep s m (.recordFailed id error) id v (v.retryCheck s.timing cls false m.now).endHeldCheck
  | timers {id v} : id ∉ (s.dueVehicles m).2 → CarStep s m .dueReads id v
        (v.advanceTimers s.timing m.now (s.wallOrLast m)).1
  | read {id v} : id ∈ (s.dueVehicles m).2 → CarStep s m .dueReads id v
        { (v.advanceTimers s.timing m.now (s.wallOrLast m)).1 with inFlight := true }
  | probed {id v} :
      id ∈ (s.dueProbeVehicles m.now).2.map (·.1) → CarStep s m .dueProbes id v
        { v with inFlight := true }
  | succeeded {id phase sleepEligible v} : CarStep s m (.readSucceeded id phase sleepEligible) id v
        (v.succeeded s.timing phase.phase sleepEligible m.now (s.wallOrLast m)).1
  | readReleased {id error v} (cls : ErrorClass)
      (waitUntil : Option Instant) : CarStep s m (.readFailed id error) id v
        (v.releaseAfterAccountFailure s.timing cls waitUntil m.now (s.wallOrLast m))
  | readNotConfirmed {id error v} : CarStep s m (.readFailed id error) id v v.gateNotConfirmed
  | readInstalling {id error v} :
      v.phase = .updating → CarStep s m (.readFailed id error) id v
        (v.installUnavailable s.timing m.now)
  | readUnavailable {id error v} : v.phase ≠ .updating → CarStep s m (.readFailed id error) id v
        (if (v.isInactive || !s.mode.isOwnerWire) then
          (v.readFailed s.timing m.now (s.wallOrLast m)).readUnavailable s.timing m.now
        else { (v.readFailed s.timing m.now (s.wallOrLast m)).readUnavailable s.timing m.now with
          nextCheckDue := some m.now })
  | readNotFound {id error v} : classify error .read s.mode = .notFound →
        CarStep s m (.readFailed id error) id v
        ((v.readFailed s.timing m.now (s.wallOrLast m)).notFound s.timing m.now)
  | readInService {id error v} : CarStep s m (.readFailed id error) id v
        ((v.readFailed s.timing m.now (s.wallOrLast m)).enterServiceMode m.now).1
  | readPaused {id error v} (reason : PauseReason) (cls : ErrorClass) :
        CarStep s m (.readFailed id error) id v
        ((v.readFailed s.timing m.now (s.wallOrLast m)).pause reason cls m.now)
  | readCounted {id error v} (cls : ErrorClass) (u : ℚ) : CarStep s m (.readFailed id error) id v
        ((v.readFailed s.timing m.now (s.wallOrLast m)).failedOnce s.timing cls m.now u)
  | probeReleased {id outcome v} : CarStep s m (.probeFinished id outcome) id v v.landed
  | probeInService {id outcome v} : v.hold = .service → CarStep s m (.probeFinished id outcome) id v
        { v.landed with nextProbeDue := some (deadlineAfter m.now kServiceProbe) }
  | probeLeftService {id outcome v} : CarStep s m (.probeFinished id outcome) id v
        (v.landed.releaseHold .serviceExited m.now (s.wallOrLast m))
  | probeLeftServiceOnline {id outcome v} : v.isHeld → v.reportedOnline →
        CarStep s m (.probeFinished id outcome) id v
        { v.landed.releaseHold .serviceExited m.now (s.wallOrLast
          m) with nextReadDue := some m.now }
  | probeReadService {id phase sleepEligible v} :
      v.hold = .service → CarStep s m (.probeFinished id (.read phase sleepEligible)) id v
        ((v.landed.releaseHold .serviceExited m.now (s.wallOrLast m)).succeeded s.timing phase.phase
          sleepEligible m.now (s.wallOrLast m)).1
  | probeReadPaused {id phase sleepEligible v} :
      v.hold.isPaused → CarStep s m (.probeFinished id (.read phase sleepEligible)) id v
        { v.landed.releaseHold .resumed m.now (s.wallOrLast m) with
          lastRead := some m.now, lastSuccess := some (m.now, s.wallOrLast m) }
  | probeRead {id phase sleepEligible v} :
      v.isHeld = false → CarStep s m (.probeFinished id (.read phase sleepEligible)) id v
        (v.landed.succeeded s.timing phase.phase sleepEligible m.now (s.wallOrLast m)).1
  | probePaused {id outcome v} (reason : PauseReason)
      (cls : ErrorClass) : CarStep s m (.probeFinished id outcome) id v
        (v.landed.pause reason cls m.now)
  | probeNotFound {id outcome v} (cls : ErrorClass) :
      CarStep s m (.probeFinished id outcome) id v ((v.landed.notFound s.timing m.now).rearmProbe
        cls m.now)
  | probeEntered {id outcome v} :
      v.hold ≠ .service → CarStep s m (.probeFinished id outcome) id v
        (v.landed.enterServiceMode m.now).1
  | probeRearmed {id outcome v} (cls : ErrorClass) :
      CarStep s m (.probeFinished id outcome) id v (v.landed.rearmProbe cls m.now)
  | withheld {id v} : CarStep s m (.requestWithheld id) id v v.landed
  | released {id v} : CarStep s m .releaseInFlight id v v.landed
  | frameStored {id v} : CarStep s m (.frameStored id) id v (v.frameArrived m.now)
  | frame {id shiftState speed power v} : CarStep s m (.frame id shiftState speed power) id v
        (v.applyFrameEvidence s.timing (FrameEvidence.fromStream shiftState speed power) m.now
          (s.wallOrLast m))
  | streamHealthy {id v} : CarStep s m (.streamHealthy id) id v (v.streamHealthy m.now)
  | streamUnhealthy {id v} : CarStep s m (.streamUnhealthy id) id v
      (v.streamUnhealthy s.timing m.now)
  | streamOffline {id v} : v.isInactive = false → s.mode.isOwnerWire →
      CarStep s m (.streamOffline id) id v { v with nextCheckDue := some m.now }
  | streamWanted {id v} (wanted : Bool) : CarStep s m .streamsToStop id v
      (v.setStreamWanted wanted m.now)
  | streamTaskEnded {id v} : CarStep s m (.streamTaskEnded id) id v (v.streamTaskEnded m.now)
  | streamAuditFailed {id v} : CarStep s m (.streamAuditFailed id) id v v.streamAuditFailed
  | lifecycleRead {id view lastStoredObsMs v} : CarStep s m (.lifecycleRead id view lastStoredObsMs)
        id v
        (v.setLifecycleView view lastStoredObsMs)
  | lifecycleChanged {id v} :
      CarStep s m (.lifecycleChanged id) id v { v with lifecycleStale := true }
  | forceClosed {id v} : CarStep s m (.forceClosed id) id v v.noteForceClosed
  | observationStored {id receivedAtMs v} :
      CarStep s m (.observationStored id receivedAtMs) id v (v.noteObservationStored receivedAtMs)

inductive NewCar (s : VehicleScheduler) (m : Moment) : Input → VehicleId → ScheduledVehicle → Prop
  | configured {configured id car} : (targets configured).get? id = some car →
      NewCar s m (.settings configured) id (s.placeholderFor id car m)
  | listed {vehicles incoming} : incoming ∈ vehicles → s.vehicles.get? incoming.id = none →
      NewCar s m (.list vehicles) incoming.id (s.listedCar incoming m)

def CarOutcome (s : VehicleScheduler) (m : Moment) (i : Input) (id : VehicleId)
    (v' : ScheduledVehicle) :
    Prop :=
  (∃ v, s.vehicles.get? id = some v ∧ (v' = v ∨ CarStep s m i id v v')) ∨
    s.vehicles.get? id = none ∧ ∃ v, NewCar s m i id v ∧ CarStep s m i id v v'

theorem modifyCar_vehicles (s : VehicleScheduler) (id : VehicleId)
    (f : ScheduledVehicle → ScheduledVehicle) : (s.modifyCar id f).vehicles = s.vehicles.modify id
      f := rfl

section Outcome

variable {s s' : VehicleScheduler} {m : Moment} {i : Input} {id : VehicleId} {v' : ScheduledVehicle}

theorem outcome_of_same (hcars : s'.vehicles = s.vehicles) (h : s'.vehicles.get? id = some v') :
    s.CarOutcome m i id v' :=
  Or.inl ⟨v', hcars ▸ h, .inl rfl⟩

theorem outcome_of_map {f : VehicleId → ScheduledVehicle → ScheduledVehicle}
    (hcars : ∀ id, s'.vehicles.get? id = (s.vehicles.get? id).map (f id))
    (hf : ∀ id v, s.vehicles.get? id = some v → f id v = v ∨ CarStep s m i id v (f id v))
    (h : s'.vehicles.get? id = some v') : s.CarOutcome m i id v' := by
  rw [hcars] at h
  obtain ⟨v, hv, rfl⟩ := map_eq_some_iff.mp h
  exact .inl ⟨v, hv, hf id v hv⟩

variable {id₀ : VehicleId}

variable {f : ScheduledVehicle → ScheduledVehicle} {s₁ : VehicleScheduler} {cls : ErrorClass}

theorem outcome_of_modified (hf : ∀ v, s.vehicles.get? id₀ = some v → f v = v ∨
    CarStep s m i id₀ v (f v)) (h : (s.vehicles.modify id₀ f).get? id = some v') :
    s.CarOutcome m i id v' := by
  rw [get?_modify] at h
  split_ifs at h with heq
  · subst heq
    obtain ⟨v, hv, rfl⟩ := map_eq_some_iff.mp h
    exact .inl ⟨v, hv, hf v hv⟩
  · exact .inl ⟨v', h, .inl rfl⟩

/-- A handler that changes one car is told by what it does to that car. -/
theorem outcome_of_modify (hcars : ∀ id, s'.vehicles.get? id = (s.vehicles.modify id₀ f).get? id)
    (hf : ∀ v, s.vehicles.get? id₀ = some v → f v = v ∨ CarStep s m i id₀ v (f v))
    (h : s'.vehicles.get? id = some v') : s.CarOutcome m i id v' :=
  outcome_of_modified hf ((hcars id).symm.trans h)

structure AccountOnly (s s' : VehicleScheduler) : Prop where
  vehicles : s'.vehicles = s.vehicles
  timing : s'.timing = s.timing
  clockWatch : s'.clockWatch = s.clockWatch
  mode : s'.mode = s.mode

theorem AccountOnly.refl (s : VehicleScheduler) : AccountOnly s s := ⟨rfl, rfl, rfl, rfl⟩

theorem AccountOnly.trans {s'' : VehicleScheduler} (h : AccountOnly s s')
    (h' : AccountOnly s' s'') : AccountOnly s s'' :=
  ⟨h'.vehicles.trans h.vehicles, h'.timing.trans h.timing, h'.clockWatch.trans h.clockWatch,
    h'.mode.trans h.mode⟩

theorem AccountOnly.wallOrLast (h : AccountOnly s s') (m : Moment) :
    s'.wallOrLast m = s.wallOrLast m := by
  unfold VehicleScheduler.wallOrLast
  rw [h.clockWatch]

variable (s)

theorem answered_accountOnly (c : Prop) [Decidable c] :
    AccountOnly s (if c then s else s.noteAnswered) := by
  split
  · exact .refl s
  · exact ⟨rfl, rfl, rfl, rfl⟩

theorem accountFailed_accountOnly (cls : ErrorClass) (error : CollectorError) (m : Moment) :
    AccountOnly s (s.accountFailed cls error m).1 := by
  unfold accountFailed
  repeat' split
  all_goals exact ⟨rfl, rfl, rfl, rfl⟩

theorem checkRefusal_accountOnly (error : CollectorError) (now : Instant) :
    AccountOnly s (s.checkRefusal error now) := by
  unfold checkRefusal
  split <;> exact ⟨rfl, rfl, rfl, rfl⟩

theorem pauseVehicle_vehicles (id : VehicleId) (reason : PauseReason) (cls : ErrorClass)
    (m : Moment) :
    (s.pauseVehicle id reason cls m).vehicles = s.vehicles.modify id
    (·.pause reason cls m.now) := by
  unfold pauseVehicle
  split
  · unfold checkEveryVehicleRefused
    dsimp only
    split <;> rfl
  · rfl

theorem vehicleNotFound_get? (id : VehicleId) (now : Instant) (id' : VehicleId) :
    (s.vehicleNotFound id now).vehicles.get? id' =
    (s.vehicles.modify id (·.notFound s.timing now)).get? id' := by
  unfold vehicleNotFound
  split_ifs with hmissing
  · rfl
  unfold OrderedMap.contains at hmissing
  rw [get?_modify]
  split_ifs with heq
  · subst heq
    cases hv : s.vehicles.get? id' with
    | none => rfl
    | some v => rw [hv] at hmissing; exact absurd rfl hmissing
  · rfl

theorem scheduleOfflineStateFetch_get? (id : VehicleId) (now : Instant) (id' : VehicleId) :
    (s.scheduleOfflineStateFetch id now).vehicles.get? id' = (s.vehicles.modify id fun v =>
        if (v.isInactive || !s.mode.isOwnerWire) = true then v
        else { v with nextCheckDue := some now }).get? id' := by
  unfold scheduleOfflineStateFetch
  rw [get?_modify]
  by_cases heq : id' = id
  · subst heq
    cases hv : s.vehicles.get? id' with
    | none => simp [hv]
    | some v =>
      by_cases hin : v.isInactive
      · simp [hin, hv]
      · by_cases how : s.mode.isOwnerWire
        · simp [hin, how, hv, modifyCar]
        · simp [hin, how, hv]
  · split
    · rfl
    · split
      · simp [modifyCar, get?_modify, heq]
      · rfl

variable {s}

variable {error : CollectorError}

/-- The car's own failures of a read, by class. -/
theorem vehicleClassFailure_outcome (hs : AccountOnly s s₁)
    (hclass : cls = .notFound → classify error .read s.mode = .notFound)
    (h : (s₁.vehicleClassFailure id₀ cls m).1.vehicles.get? id = some v') :
    s.CarOutcome m (.readFailed id₀ error) id v' := by
  have ht := hs.timing
  have hw := hs.wallOrLast m
  have hcars := hs.vehicles
  unfold vehicleClassFailure at h
  split at h
  · exact outcome_of_same hcars h
  rename_i v hv
  rw [hcars] at hv
  have hone (v₀ : ScheduledVehicle) (hv₀ : s.vehicles.get? id₀ = some v₀) : v₀ = v :=
    some.inj (hv₀.symm.trans hv)
  split_ifs at h with hinstall
  · simp only [Bool.and_eq_true, decide_eq_true_eq] at hinstall
    refine outcome_of_modify (f := (·.installUnavailable s.timing m.now)) (fun id => ?_)
      (fun v₀ hv₀ => .inr (.readInstalling (hone v₀ hv₀ ▸ hinstall.1))) h
    rw [← ht, ← hcars]
    rfl
  · have hfailed (g : ScheduledVehicle → ScheduledVehicle) (id : VehicleId) :
        ((s₁.modifyCar id₀ (·.readFailed s₁.timing m.now (s₁.wallOrLast m))).vehicles.modify
          id₀ g).get? id =
          (s.vehicles.modify id₀ fun v => g (v.readFailed s.timing m.now (s.wallOrLast m))).get?
            id := by
      rw [← ht, ← hw, ← hcars]
      exact get?_modify_modify
    split at h
    · -- a 408: the state check is due on the Owner wire
      refine outcome_of_modify (fun id => ?_) (fun v₀ hv₀ => .inr (.readUnavailable ?_)) h
      · refine (scheduleOfflineStateFetch_get? _ _ _ _).trans ?_
        rw [modifyCar_vehicles, get?_modify_modify]
        refine (hfailed _ id).trans ?_
        rw [← ht, ← hs.mode]
        have hsame (v : ScheduledVehicle) :
            ((v.readFailed s₁.timing m.now (s.wallOrLast m)).readUnavailable
              s₁.timing m.now).isInactive =
              v.isInactive := by
          unfold ScheduledVehicle.readUnavailable ScheduledVehicle.readFailed
            ScheduledVehicle.isInactive
            enterPhase
          dsimp only
          repeat' split
          all_goals rfl
        congr 2
        funext v
        rw [← hsame v]
        rfl
      · rw [hone v₀ hv₀]
        simpa using hinstall
    · refine outcome_of_modify (fun id => ?_) (fun v₀ _ => .inr (.readNotFound (hclass rfl))) h
      refine (vehicleNotFound_get? _ _ _ _).trans ((hfailed _ id).trans ?_)
      rw [← ht]
      rfl
    · exact outcome_of_modify (hfailed _) (fun v₀ _ => .inr .readInService) h
    · refine outcome_of_modify (fun id => ?_)
        (fun v₀ _ => .inr (.readPaused .mobileAccessDisabled .mobileAccessDisabled)) h
      exact hfailed _ id
    · refine outcome_of_modify (fun id => ?_)
        (fun v₀ _ => .inr (.readPaused .legalPrivacy .legalPrivacy)) h
      exact hfailed _ id
    · refine outcome_of_modify (fun id => ?_)
        (fun v₀ _ => .inr (.readPaused .accessRefused .accessRefused)) h
      rw [pauseVehicle_vehicles]
      exact hfailed _ id
    · refine outcome_of_modify (fun id => ?_) (fun v₀ _ => .inr (.readCounted cls (s₁.jitter 0))) h
      refine (hfailed _ id).trans ?_
      rw [← ht]
      rfl

theorem releaseAfterAccountFailure_outcome (hs : AccountOnly s s₁)
    (h : (s₁.releaseAfterAccountFailure id₀ cls m).vehicles.get? id = some v') :
    s.CarOutcome m (.readFailed id₀ error) id v' := by
  refine outcome_of_modify (fun id => ?_)
    (fun v _ => .inr (.readReleased cls (s₁.account.wait.map (·.1)))) h
  rw [← hs.timing, ← hs.wallOrLast m, ← hs.vehicles]
  rfl

/-- What the credential unit says of a read touches its car only. -/
theorem credentialOutcome_outcome {outcome : CredentialOutcome}
    (h : (s.credentialOutcome (some id₀) outcome m).1.vehicles.get? id = some v') :
    s.CarOutcome m (.readFailed id₀ error) id v' := by
  cases outcome with
  | authUnavailable retryAfter =>
    have hs : AccountOnly s (s.authFailed (some retryAfter) m.now).1 := ⟨rfl, rfl, rfl, rfl⟩
    exact releaseAfterAccountFailure_outcome hs h
  | ownerApiRefused refusal =>
    have hs : AccountOnly s (s.noteAnswered.enterRefusal refusal.cause m) := ⟨rfl, rfl, rfl, rfl⟩
    exact releaseAfterAccountFailure_outcome hs h
  | vehicleAccessRejected =>
    have hs : AccountOnly s s.noteAnswered := ⟨rfl, rfl, rfl, rfl⟩
    have hclass : ErrorClass.clientError = .notFound → classify error .read s.mode = .notFound :=
      fun hc => nomatch hc
    exact vehicleClassFailure_outcome hs hclass h
  | terminalStop =>
    have hs : AccountOnly s (s.enterCredentialStop m) := ⟨rfl, rfl, rfl, rfl⟩
    exact releaseAfterAccountFailure_outcome hs h

/-- A failed read, whatever the error. -/
theorem vehicleFailedForError_outcome (h : (s.vehicleFailedForError id₀ error m).1.vehicles.get?
    id = some v') : s.CarOutcome m (.readFailed id₀ error) id v' := by
  unfold vehicleFailedForError at h
  split at h
  · exact credentialOutcome_outcome h
  dsimp only at h
  split at h
  · exact outcome_of_modify (fun _ => rfl) (fun v _ => .inr .readNotConfirmed) h
  have hanswered := s.answered_accountOnly (classify error .read s.mode = .unreachable)
  have hfailed := hanswered.trans (accountFailed_accountOnly
    (if classify error .read s.mode = .unreachable then s else s.noteAnswered)
    (classify error .read s.mode) error m)
  split at h
  · rename_i heq
    rw [heq] at hfailed
    exact releaseAfterAccountFailure_outcome hfailed h
  · rename_i heq
    rw [heq] at hfailed
    exact vehicleClassFailure_outcome (hfailed.trans (checkRefusal_accountOnly ..)) (fun hc => hc) h

/-- A failed record check, whatever the error. -/
theorem offlineStateFailedForError_outcome (h
    : (s.offlineStateFailedForError id₀ error m).vehicles.get? id = some v') :
    s.CarOutcome m (.recordFailed id₀ error) id v' := by
  have hanswered := s.answered_accountOnly ((classify error .record s.mode = .unreachable ||
    classify error .record s.mode = .gateNotConfirmed))
  have hfailed := hanswered.trans (accountFailed_accountOnly _ (classify error .record s.mode)
      error m)
  unfold offlineStateFailedForError at h
  dsimp only at h
  split at h
  · rename_i heq
    rw [heq] at hfailed
    exact outcome_of_same hfailed.vehicles h
  · rename_i failed heq
    rw [heq] at hfailed
    have hs := hfailed.trans (checkRefusal_accountOnly failed error m.now)
    generalize failed.checkRefusal error m.now = s₁ at hs h
    rw [modifyCar_vehicles] at h
    have hlast (g : ScheduledVehicle → ScheduledVehicle) (id : VehicleId) :
        ((s₁.vehicles.modify id₀ g).modify id₀ (·.endHeldCheck)).get? id =
          (s.vehicles.modify id₀ fun v => (g v).endHeldCheck).get? id := by
      rw [← hs.vehicles]
      exact get?_modify_modify
    have hpaused (reason : PauseReason)
        (h : ((s₁.pauseVehicle id₀ reason (classify error .record s.mode) m).vehicles.modify id₀
          (·.endHeldCheck)).get? id = some v') : s.CarOutcome m (.recordFailed id₀ error) id
            v' := by
      rw [pauseVehicle_vehicles, hlast] at h
      exact outcome_of_modified
        (fun v _ => .inr (.recordPaused reason (classify error .record s.mode))) h
    split at h
    · rw [get?_modify, vehicleNotFound_get?, ← get?_modify, hlast] at h
      refine outcome_of_modified (fun v _ => .inr ?_) h
      rw [hs.timing]
      exact .recordNotFound
    · exact hpaused .mobileAccessDisabled h
    · exact hpaused .legalPrivacy h
    · exact hpaused .accessRefused h
    all_goals
      rw [modifyCar_vehicles, hlast] at h
      refine outcome_of_modified (fun v _ => .inr ?_) h
      rw [hs.timing]
      first | exact .recordCounted _ | exact .recordRetried _

theorem probeFailed_outcome {s₀ : VehicleScheduler} (hs₀ : s₀ = s.modifyCar id₀ (·.landed))
    (h : (s₀.probeFailed id₀ error m).1.vehicles.get? id = some v') :
    s.CarOutcome m (.probeFinished id₀ (.failed error)) id v' := by
  have hfailed := (s₀.answered_accountOnly (classify error .probe s₀.mode = .unreachable)).trans
    (accountFailed_accountOnly _ (classify error .probe s₀.mode) error m)
  have hlanded (s₁ : VehicleScheduler) (hs₁ : AccountOnly s₀ s₁) :
      s₁.vehicles = s.vehicles.modify id₀ (·.landed) := by
    rw [hs₁.vehicles, hs₀]
    rfl
  unfold probeFailed at h
  dsimp only at h
  split at h
  · rename_i heq
    rw [heq] at hfailed
    rw [hlanded _ hfailed] at h
    exact outcome_of_modified (fun v _ => .inr .probeReleased) h
  · rename_i failed heq
    rw [heq] at hfailed
    have hs := hfailed.trans (checkRefusal_accountOnly failed error m.now)
    generalize failed.checkRefusal error m.now = s₁ at hs h
    have ht : s₁.timing = s.timing := hs.timing.trans (by rw [hs₀]; rfl)
    have hlast (g : ScheduledVehicle → ScheduledVehicle) (id : VehicleId) :
        (s₁.vehicles.modify id₀ g).get? id = (s.vehicles.modify id₀ fun v => g v.landed).get?
          id := by
      rw [hlanded s₁ hs]
      exact get?_modify_modify
    have hpaused (reason : PauseReason)
        (h : (s₁.pauseVehicle id₀ reason (classify error .probe s₀.mode) m).vehicles.get? id =
          some v') :
        s.CarOutcome m (.probeFinished id₀ (.failed error)) id v' := by
      rw [pauseVehicle_vehicles, hlast] at h
      exact outcome_of_modified
        (fun v _ => .inr (.probePaused reason (classify error .probe s₀.mode))) h
    have hrearmed (h : (s₁.modifyCar id₀ (·.rearmProbe (classify error .probe s₀.mode)
        m.now)).vehicles.get? id =
        some v') : s.CarOutcome m (.probeFinished id₀ (.failed error)) id v' := by
      rw [modifyCar_vehicles, hlast] at h
      exact outcome_of_modified (fun v _ => .inr (.probeRearmed (classify error .probe s₀.mode))) h
    split at h
    · exact hpaused .mobileAccessDisabled h
    · exact hpaused .legalPrivacy h
    · exact hpaused .accessRefused h
    · rw [modifyCar_vehicles, get?_modify, vehicleNotFound_get?, ← get?_modify, get?_modify_modify,
        hlast, ht] at h
      exact outcome_of_modified (fun v _ => .inr (.probeNotFound _)) h
    · split at h
      · exact hrearmed h
      · rename_i hservice
        rw [modifyCar_vehicles, hlast] at h
        refine outcome_of_modified (fun v hv => .inr (.probeEntered ?_)) h
        rw [hlanded s₁ hs, get?_modify_self, hv] at hservice
        simpa [landed] using hservice
    · exact hrearmed h

/-- A finished probe, whatever it found. -/
theorem probeFinished_outcome {outcome : ProbeOutcome}
    (h : (s.probeFinished id₀ outcome m).1.vehicles.get? id = some v') :
    s.CarOutcome m (.probeFinished id₀ outcome) id v' := by
  have hlast (g : ScheduledVehicle → ScheduledVehicle) (id : VehicleId) :
      ((s.modifyCar id₀ (·.landed)).vehicles.modify id₀ g).get? id =
        (s.vehicles.modify id₀ fun v => g v.landed).get? id :=
    get?_modify_modify
  have htwice (f g : ScheduledVehicle → ScheduledVehicle) (id : VehicleId) :
      (((s.modifyCar id₀ (·.landed)).vehicles.modify id₀ f).modify id₀ g).get? id =
        (s.vehicles.modify id₀ fun v => g (f v.landed)).get? id :=
    get?_modify_modify.trans (hlast _ id)
  unfold probeFinished at h
  dsimp only at h
  split at h
  · refine outcome_of_modify (hlast _) (fun v _ => ?_) h
    split_ifs with hs
    · exact .inr (.probeInService hs)
    · exact .inr .probeReleased
  · refine outcome_of_modify (hlast _) (fun v _ => ?_) h
    split_ifs with hs
    · simp only [Bool.and_eq_true] at hs
      exact .inr (.probeLeftServiceOnline hs.1 hs.2)
    · exact .inr .probeLeftService
  · rename_i phase sleepEligible
    have hhold : ((s.modifyCar id₀ ({ · with inFlight := false })).vehicles.get? id₀).map hold =
        (s.vehicles.get? id₀).map hold := by
      rw [modifyCar_vehicles, get?_modify_self, Option.map_map]
      rfl
    rw [hhold] at h
    have hof (v : ScheduledVehicle) (hv : s.vehicles.get? id₀ = some v) (hold : VehicleHold)
        (heq : (s.vehicles.get? id₀).map ScheduledVehicle.hold = some hold) : v.hold = hold := by
      rw [hv] at heq
      exact some.inj heq
    split at h
    · rename_i heq
      refine outcome_of_modify (fun id => ?_)
        (fun v hv => .inr (.probeReadService (hof v hv _ heq))) h
      exact htwice (·.releaseHold .serviceExited m.now (s.wallOrLast m))
        (fun v => (v.succeeded s.timing phase.phase sleepEligible m.now (s.wallOrLast m)).1) id
    · rename_i reason heq
      refine outcome_of_modify (fun id => ?_)
        (fun v hv => .inr (.probeReadPaused (by rw [hof v hv _ heq]; rfl))) h
      exact htwice (·.releaseHold .resumed m.now (s.wallOrLast m))
        (fun v => { v with lastRead := some m.now, lastSuccess := some (m.now, s.wallOrLast m) }) id
    · rename_i hservice hpaused
      refine outcome_of_modify (hlast _) (fun v hv => .inr (.probeRead ?_)) h
      have hmap : (s.vehicles.get? id₀).map hold = some v.hold := by rw [hv]; rfl
      unfold isHeld
      cases hh : v.hold with
      | service => exact absurd (hmap.trans (congrArg some hh)) hservice
      | paused reason => exact absurd (hmap.trans (congrArg some hh)) (hpaused reason)
      | _ => rfl
  · exact probeFailed_outcome rfl h

def ListOrigin (s : VehicleScheduler) (m : Moment) (vehicles : List ListedVehicle) (id : VehicleId)
    (v : ScheduledVehicle) : Prop :=
  s.vehicles.get? id = some v ∨ s.vehicles.get? id = none ∧
    ∃ incoming ∈ vehicles, incoming.id = id ∧ v = s.listedCar incoming m

theorem listedCar_origin (s : VehicleScheduler) (m : Moment) (incoming : ListedVehicle)
    (rest : List ListedVehicle) :
    s.ListOrigin m (incoming :: rest) incoming.id (s.listedCar incoming m) := by
  cases hv : s.vehicles.get? incoming.id with
  | none => exact .inr ⟨hv, incoming, mem_cons_self, rfl, rfl⟩
  | some v =>
    refine .inl (hv.trans (congrArg some ?_))
    unfold listedCar
    rw [hv]
    rfl

theorem acceptEntries_get? (m : Moment) (id : VehicleId) (vehicles : List ListedVehicle) :
    ∀ s : VehicleScheduler, (id ∉ vehicles.map (·.id) → (acceptEntries m s vehicles).1.vehicles.get?
    id = s.vehicles.get? id ∧ (acceptEntries m s vehicles).2.count id = 0) ∧
    (id ∈ vehicles.map (·.id) → ∃ v, s.ListOrigin m vehicles id v ∧
    (acceptEntries m s vehicles).1.vehicles.get? id =
    some (v.acceptAll s.timing (s.restored.get? id) m.now (s.wallOrLast m)
    ((vehicles.filter (·.id = id)).map (·.vehicle.state))).1 ∧ (acceptEntries m s vehicles).2.count
    id = (v.acceptAll s.timing (s.restored.get? id) m.now (s.wallOrLast m)
    ((vehicles.filter (·.id = id)).map (·.vehicle.state))).2) := by
  induction vehicles with
  | nil => exact fun s => ⟨fun _ => ⟨rfl, rfl⟩, fun h => by cases h⟩
  | cons incoming rest ih =>
    intro s
    obtain ⟨ihout, ihin⟩ := ih (s.acceptEntry m incoming).1
    by_cases heq : incoming.id = id
    · refine ⟨fun h => absurd (by simp [heq]) h, fun _ => ?_⟩
      subst heq
      refine ⟨s.listedCar incoming m, listedCar_origin s m incoming rest, ?_⟩
      have hentry : (s.acceptEntry m incoming).1.vehicles.get? incoming.id =
          some ((s.listedCar incoming m).acceptListed s.timing (s.restored.get? incoming.id)
            incoming.vehicle.state m.now (s.wallOrLast m)).1 := by
        simp [acceptEntry]
      have hfirst : ((incoming :: rest).filter (·.id = incoming.id)).map (·.vehicle.state) =
          incoming.vehicle.state :: (rest.filter (·.id = incoming.id)).map (·.vehicle.state) := by
        simp
      have hcount (flag : Bool) (ids : List VehicleId) :
          (if flag then incoming.id :: ids else ids).count incoming.id =
            if flag then ids.count incoming.id+1 else ids.count incoming.id := by
        cases flag <;> simp
      rw [hfirst]
      dsimp only [acceptEntries, acceptAll]
      rw [hcount]
      by_cases hrest : incoming.id ∈ rest.map (·.id)
      · obtain ⟨v, horigin, hcar, hn⟩ := ihin hrest
        have hv : v = ((s.listedCar incoming m).acceptListed s.timing (s.restored.get? incoming.id)
            incoming.vehicle.state m.now (s.wallOrLast m)).1 := by
          rcases horigin with h | ⟨h, _⟩ <;> rw [hentry] at h <;> cases h
          rfl
        subst hv
        exact ⟨hcar, by rw [hn]; rfl⟩
      · obtain ⟨hcar, hn⟩ := ihout hrest
        have hnone : (rest.filter (·.id = incoming.id)) = [] := by
          rw [filter_eq_nil_iff]
          intro x hx hxid
          exact hrest (mem_map.mpr ⟨x, hx, by simpa using hxid⟩)
        rw [hcar, hn, hnone, hentry]
        exact ⟨rfl, rfl⟩
    · have hkeep : (s.acceptEntry m incoming).1.vehicles.get? id = s.vehicles.get? id := by
        simp [acceptEntry, Ne.symm heq]
      have hfilter : (incoming :: rest).filter (·.id = id) = rest.filter (·.id = id) := by
        simp [heq]
      have hcount (flag : Bool) (ids : List VehicleId) :
          (if flag then incoming.id :: ids else ids).count id = ids.count id := by
        cases flag <;> simp [heq]
      rw [hfilter]
      dsimp only [acceptEntries]
      rw [hcount, map_cons, mem_cons]
      refine ⟨fun h => ?_, fun h => ?_⟩
      · obtain ⟨hcar, hn⟩ := ihout fun hin => h (.inr hin)
        exact ⟨hcar.trans hkeep, hn⟩
      · obtain ⟨v, horigin, hcar, hn⟩ := ihin (h.resolve_left (Ne.symm heq))
        refine ⟨v, ?_, hcar, hn⟩
        rcases horigin with hv | ⟨hv, x, hx, hxid, hxv⟩
        · exact .inl (hkeep.symm.trans hv)
        · refine .inr ⟨hkeep.symm.trans hv, x, mem_cons_of_mem _ hx, hxid, hxv.trans ?_⟩
          subst hxid
          unfold listedCar
          rw [hkeep]
          rfl

theorem countFailures_get? (m : Moment) (id : VehicleId) (ids : List VehicleId) :
    ∀ s : VehicleScheduler, ∃ draws : List ℚ, draws.length = ids.count id ∧
    (ids.foldl (fun s id => s.countVehicleFailure id .transient m) s).vehicles.get? id =
    (s.vehicles.get? id).map fun v => draws.foldl (fun v u => v.failedOnce s.timing .transient
    m.now u) v := by
  induction ids with
  | nil => exact fun s => ⟨[], rfl, by simp⟩
  | cons id₀ ids ih =>
    intro s
    obtain ⟨draws, hlength, hcar⟩ := ih (s.countVehicleFailure id₀ .transient m)
    have hone : (s.countVehicleFailure id₀ .transient m).vehicles =
        s.vehicles.modify id₀ (·.failedOnce s.timing .transient m.now (s.jitter 0)) := rfl
    by_cases heq : id₀ = id
    · subst heq
      refine ⟨s.jitter 0 :: draws, by simp [hlength], ?_⟩
      rw [List.foldl_cons, hcar, hone, get?_modify_self, Option.map_map]
      rfl
    · refine ⟨draws, by simp [heq, hlength], ?_⟩
      rw [foldl_cons, hcar, hone, get?_modify, if_neg (Ne.symm heq)]
      rfl

/-- A list steps each car once, by all of its entries. -/
theorem acceptDiscovery_outcome {vehicles : List ListedVehicle}
    (h : (s.acceptDiscovery vehicles m).vehicles.get? id = some v') :
    s.CarOutcome m (.list vehicles) id v' := by
  obtain ⟨hout, hin⟩ := acceptEntries_get? m id vehicles s
  obtain ⟨draws, hlength, hcar⟩ := countFailures_get? m id (acceptEntries m s vehicles).2
      (acceptEntries m s vehicles).1
  have ht : (acceptEntries m s vehicles).1.timing = s.timing :=
    timing_eq_of_frame (acceptEntries_same m vehicles s).1
  have hcounted : ((acceptEntries m s vehicles).2.foldl (fun s id => s.countVehicleFailure id
      .transient m)
      (acceptEntries m s vehicles).1).timing = s.timing :=
    (timing_eq_of_frame (countFailures_same ..).1).trans ht
  have hfinal : (s.acceptDiscovery vehicles m).vehicles.get? id =
      (((acceptEntries m s vehicles).2.foldl (fun s id => s.countVehicleFailure id .transient m)
        (acceptEntries m s vehicles).1).vehicles.get? id).map fun v =>
          if id ∈ vehicles.map (·.id) then v else v.noteUnlisted s.timing m.now := by
    rw [← hcounted]
    exact get?_map
  rw [hfinal, hcar, Option.map_map] at h
  by_cases hlisted : id ∈ vehicles.map (·.id)
  · obtain ⟨v, horigin, hv, hn⟩ := hin hlisted
    rw [hv] at h
    simp only [map_some, Function.comp, if_pos hlisted, some.injEq] at h
    rw [ht] at h
    have hstates : (vehicles.filter (·.id = id)).map (·.vehicle.state) ≠ [] := by
      obtain ⟨x, hx, hxid⟩ := mem_map.mp hlisted
      have hmem : x ∈ vehicles.filter (·.id = id) := mem_filter.mpr ⟨hx, by simpa using hxid⟩
      exact fun hnil => by rw [map_eq_nil_iff] at hnil; rw [hnil] at hmem; cases hmem
    have hstep : CarStep s m (.list vehicles) id v v' := h ▸ .listed draws rfl hstates
        (hlength.trans hn)
    rcases horigin with hknown | ⟨hnew, x, hx, rfl, rfl⟩
    · exact .inl ⟨v, hknown, .inr hstep⟩
    · exact .inr ⟨hnew, _, .listed hx hnew, hstep⟩
  · obtain ⟨hv, hn⟩ := hout hlisted
    have hnil : draws = [] := eq_nil_of_length_eq_zero (hlength.trans hn)
    rw [hv, hnil] at h
    obtain ⟨v, hknown, hv'⟩ := map_eq_some_iff.mp h
    simp only [Function.comp, foldl_nil, if_neg hlisted] at hv'
    exact .inl ⟨v, hknown, .inr (hv' ▸ .unlisted hlisted)⟩

theorem acceptVehicleState_outcome {state : ReportedState}
    (h : (s.acceptVehicleState id₀ state m).vehicles.get? id = some v') :
    s.CarOutcome m (.record id₀ state) id v' := by
  unfold acceptVehicleState at h
  split at h
  · exact outcome_of_same rfl h
  rename_i v hv
  refine outcome_of_modify (f :=
    (·.acceptRecord s.timing state (s.jitter 0) m.now (s.wallOrLast m)))
    (fun id => ?_) (fun v₀ _ => .inr (.record (s.jitter 0))) h
  dsimp only
  -- the counted failure is the car's own, as the record left it
  have hsettled (id : VehicleId) (g : ScheduledVehicle → ScheduledVehicle)
      (hg : g v = v.acceptRecord s.timing state (s.jitter 0) m.now (s.wallOrLast m)) :
      (s.vehicles.modify id₀ g).get? id = (s.vehicles.modify id₀
        (·.acceptRecord s.timing state (s.jitter 0) m.now (s.wallOrLast m))).get? id := by
    rw [get?_modify, get?_modify]
    split_ifs with heq
    · rw [heq, hv]
      exact congrArg some hg
    · rfl
  have hcounted (f : ScheduledVehicle → ScheduledVehicle × Bool) (id : VehicleId) :
      ((s.modifyCarRevoking id₀ f).countVehicleFailure id₀ .transient m).noteSuccess.vehicles.get?
        id =
        (s.vehicles.modify id₀ fun v => (f v).1.failedOnce s.timing .transient m.now
          (s.jitter 0)).get? id := by
    change ((s.vehicles.modify id₀ fun v => (f v).1).modify id₀
      (·.failedOnce s.timing .transient m.now (s.jitter 0))).get? id = _
    exact get?_modify_modify
  split_ifs with hflag
  · refine (hcounted _ id).trans (hsettled id _ ?_)
    unfold acceptRecord
    rw [if_pos hflag]
  · refine hsettled id _ ?_
    unfold acceptRecord
    rw [if_neg hflag]

/-- New settings step the cars they keep and drop the others. -/
theorem applyControlSettings_outcome {configured : List ConfiguredCar}
    (h : (s.applyControlSettings configured m).vehicles.get? id = some v') :
    s.CarOutcome m (.settings configured) id v' := by
  have hget : (s.applyControlSettings configured m).vehicles.get? id =
        (((targets configured).map fun id car =>
        (s.vehicles.get? id).getD (s.placeholderFor id car m)).get? id).map fun v =>
          ((targets configured).get? id).elim v fun car =>
            v.applySettings s.timing car.hubId car.settings m.now (s.wallOrLast m) :=
    get?_map
  rw [hget, get?_map] at h
  cases hcar : (targets configured).get? id with
  | none =>
    rw [hcar] at h
    cases h
  | some car =>
    rw [hcar] at h
    simp only [map_some, elim_some, some.injEq] at h
    cases hv : s.vehicles.get? id with
    | none =>
      rw [hv] at h
      exact .inr ⟨hv, _, .configured hcar, h ▸ .settings hcar⟩
    | some v =>
      rw [hv] at h
      exact .inl ⟨v, hv, .inr (h ▸ .settings hcar)⟩

theorem applyOwnerAction_get? {action : OwnerActionRow}
    (h : (s.applyOwnerAction m action).vehicles.get? id = some v') :
    ∃ v, s.vehicles.get? id = some v ∧
      (v' = v ∨ v.hold.isPaused ∧ ∃ reason, v' = v.releaseHold reason m.now (s.wallOrLast m)) := by
  unfold applyOwnerAction at h
  split at h
  · exact ⟨v', h, .inl rfl⟩
  cases hkind : action.kind with
  | retryCollection =>
    rw [hkind] at h
    have hget : (s.ownerRetry m).vehicles.get? id = (s.vehicles.get? id).map fun v =>
        if v.hold.isPaused then v.releaseHold .ownerRetry m.now (s.wallOrLast m) else v :=
      get?_map
    rw [hget] at h
    obtain ⟨v, hv, rfl⟩ := map_eq_some_iff.mp h
    refine ⟨v, hv, ?_⟩
    split_ifs with hpaused
    · exact .inr ⟨hpaused, _, rfl⟩
    · exact .inl rfl
  | resumeVehicle =>
    rw [hkind] at h
    change (s.ownerResume action.vehicle m).vehicles.get? id = some v' at h
    unfold ownerResume at h
    split at h
    · exact ⟨v', h, .inl rfl⟩
    split at h
    · rename_i found v hfound
      split_ifs at h with hpaused
      · have hentry : s.vehicles.get? found = some v :=
          get?_eq_some.mpr (mem_of_find?_eq_some hfound)
        have hget : (s.releaseHold found .ownerResume m).vehicles.get? id =
            (s.vehicles.modify found (·.releaseHold .ownerResume m.now (s.wallOrLast m))).get? id :=
              rfl
        rw [hget, get?_modify] at h
        split_ifs at h with heq
        · subst heq
          rw [hentry] at h
          cases h
          exact ⟨v, hentry, .inr ⟨hpaused, _, rfl⟩⟩
        · exact ⟨v', h, .inl rfl⟩
      · exact ⟨v', h, .inl rfl⟩
    · exact ⟨v', h, .inl rfl⟩

theorem applyOwnerAction_wallOrLast (s : VehicleScheduler) (action : OwnerActionRow) :
    (s.applyOwnerAction m action).wallOrLast m = s.wallOrLast m := by
  unfold applyOwnerAction
  split
  · rfl
  cases action.kind with
  | retryCollection => rfl
  | resumeVehicle =>
    dsimp only
    unfold ownerResume
    split
    · rfl
    · split
      · split <;> rfl
      · rfl

theorem applyOwnerActions_get? (m : Moment) (id : VehicleId) (v' : ScheduledVehicle)
    (actions : List OwnerActionRow) :
    ∀ s : VehicleScheduler, (s.applyOwnerActions actions m).vehicles.get? id = some v' →
    ∃ v, s.vehicles.get? id = some v ∧ (v' = v ∨ v.hold.isPaused ∧ ∃ reason, v' = v.releaseHold
    reason m.now (s.wallOrLast m)) := by
  induction actions with
  | nil => exact fun s h => ⟨v', h, .inl rfl⟩
  | cons action rest ih =>
    intro s h
    obtain ⟨v₁, hv₁, hrest⟩ := ih (s.applyOwnerAction m action) h
    obtain ⟨v, hv, hfirst⟩ := applyOwnerAction_get? hv₁
    refine ⟨v, hv, ?_⟩
    rw [applyOwnerAction_wallOrLast] at hrest
    rcases hfirst with rfl | ⟨hpaused, reason, rfl⟩
    · exact hrest
    · rcases hrest with rfl | ⟨hagain, _⟩
      · exact .inr ⟨hpaused, reason, rfl⟩
      · -- a released car is held no more
        have hheld : v.isHeld = true := by simp [isHeld, hpaused]
        rw [ScheduledVehicle.releaseHold, if_pos hheld] at hagain
        exact absurd hagain (by simp [VehicleHold.isPaused, VehicleHold.code])

theorem dueVehicles_get? (s : VehicleScheduler) (m : Moment) (id : VehicleId) :
    (s.dueVehicles m).1.vehicles.get? id = (s.vehicles.get? id).map fun v =>
      if id ∈ (s.dueVehicles m).2 then
        { (v.advanceTimers s.timing m.now (s.wallOrLast m)).1 with inFlight := true }
      else (v.advanceTimers s.timing m.now (s.wallOrLast m)).1 := by
  have hadvanced : (s.advanceTimers m).vehicles.get? id =
      (s.vehicles.get? id).map fun v => (v.advanceTimers s.timing m.now (s.wallOrLast m)).1 :=
    get?_map
  unfold dueVehicles
  dsimp only
  split
  · simp [hadvanced]
  · dsimp only [markInFlight]
    rw [get?_map, hadvanced, Option.map_map]
    rfl

theorem dueProbeVehicles_get? (s : VehicleScheduler) (now : Instant) (id : VehicleId) :
    (s.dueProbeVehicles now).1.vehicles.get? id = (s.vehicles.get? id).map fun v =>
      if id ∈ (s.dueProbeVehicles now).2.map (·.1) then { v with inFlight := true } else v := by
  unfold dueProbeVehicles
  split
  · simp
  · dsimp only [markInFlight]
    simp

theorem discoveryFailedForError_vehicles (s : VehicleScheduler) (error : CollectorError)
    (m : Moment) : (s.discoveryFailedForError error m).1.vehicles = s.vehicles := by
  unfold discoveryFailedForError
  dsimp only
  rw [apply_ite Prod.fst, ite_self]
  split
  · rename_i outcome _
    cases outcome <;> rfl
  · have hfailed := (s.answered_accountOnly (classify error .list s.mode = .unreachable)).trans
      (accountFailed_accountOnly _ (classify error .list s.mode) error m)
    split <;> (rename_i heq; rw [heq] at hfailed; exact hfailed.vehicles)

theorem refreshMonth_vehicles (s : VehicleScheduler) (m : Moment) :
    (s.refreshMonth m).vehicles = s.vehicles := by
  unfold refreshMonth
  dsimp only
  split <;> rfl

theorem planReservation_vehicles (s : VehicleScheduler) (requests : List (RequestCategory × ℕ))
    (m : Moment) : (s.planReservation requests m).1.vehicles = s.vehicles := by
  unfold planReservation
  dsimp only
  split <;> exact refreshMonth_vehicles s m

theorem admitRequest_vehicles (s : VehicleScheduler) (category : RequestCategory) (m : Moment) :
    (s.admitRequest category m).1.vehicles = s.vehicles := by
  unfold admitRequest
  dsimp only
  split <;> exact refreshMonth_vehicles s m

/-- A car after an input is an old one, one step of it, or a new one. -/
theorem react_car (s : VehicleScheduler) (m : Moment) (i : Input) (id : VehicleId)
    (v' : ScheduledVehicle) (h : (s.react m i).vehicles.get? id = some v') :
    s.CarOutcome m i id v' := by
  cases i with
  | settings configured => exact applyControlSettings_outcome h
  | ownerActions actions =>
    obtain ⟨v, hv, rfl | ⟨hpaused, reason, rfl⟩⟩ := applyOwnerActions_get? m id v' actions s h
    · exact .inl ⟨v', hv, .inl rfl⟩
    · exact .inl ⟨v, hv, .inr (.ownerReleased reason hpaused)⟩
  | list vehicles => exact acceptDiscovery_outcome h
  | record id₀ state => exact acceptVehicleState_outcome h
  | recordFailed id₀ error => exact offlineStateFailedForError_outcome h
  | dueReads =>
    refine outcome_of_map (dueVehicles_get? s m) (fun id v _ => ?_) h
    split_ifs with hdue
    · exact .inr (.read hdue)
    · exact .inr (.timers hdue)
  | dueProbes =>
    refine outcome_of_map (dueProbeVehicles_get? s m.now) (fun id v _ => ?_) h
    split_ifs with hdue
    · exact .inr (.probed hdue)
    · exact .inl rfl
  | readSucceeded id₀ phase sleepEligible =>
    exact outcome_of_modify (fun _ => rfl) (fun v _ => .inr .succeeded) h
  | readFailed id₀ error => exact vehicleFailedForError_outcome h
  | probeFinished id₀ outcome => exact probeFinished_outcome h
  | requestWithheld id₀ => exact outcome_of_modify (fun _ => rfl) (fun v _ => .inr .withheld) h
  | releaseInFlight =>
    exact outcome_of_map (fun _ => get?_map) (fun id v _ => .inr .released) h
  | frameStored id₀ => exact outcome_of_modify (fun _ => rfl) (fun v _ => .inr .frameStored) h
  | frame id₀ shiftState speed power =>
    exact outcome_of_modify (fun _ => rfl) (fun v _ => .inr .frame) h
  | streamHealthy id₀ => exact outcome_of_modify (fun _ => rfl) (fun v _ => .inr .streamHealthy) h
  | streamUnhealthy id₀ =>
    exact outcome_of_modify (fun _ => rfl) (fun v _ => .inr .streamUnhealthy) h
  | streamOffline id₀ =>
    refine outcome_of_modify (scheduleOfflineStateFetch_get? s id₀ m.now) (fun v _ => ?_) h
    split_ifs with hactive
    · exact .inl rfl
    · simp only [Bool.or_eq_true, Bool.not_eq_true', not_or, Bool.not_eq_true,
        Bool.not_eq_false] at hactive
      exact .inr (.streamOffline hactive.1 hactive.2)
  | streamsToStop =>
    exact outcome_of_map (fun _ => get?_map) (fun id v _ => .inr (.streamWanted _)) h
  | streamTaskEnded id₀ =>
    exact outcome_of_modify (fun _ => rfl) (fun v _ => .inr .streamTaskEnded) h
  | streamAuditFailed id₀ =>
    exact outcome_of_modify (fun _ => rfl) (fun v _ => .inr .streamAuditFailed) h
  | lifecycleRead id₀ view lastStoredObsMs =>
    exact outcome_of_modify (fun _ => rfl) (fun v _ => .inr .lifecycleRead) h
  | lifecycleChanged id₀ =>
    exact outcome_of_modify (fun _ => rfl) (fun v _ => .inr .lifecycleChanged) h
  | forceClosed id₀ => exact outcome_of_modify (fun _ => rfl) (fun v _ => .inr .forceClosed) h
  | observationStored id₀ receivedAtMs =>
    exact outcome_of_modify (fun _ => rfl) (fun v _ => .inr .observationStored) h
  | clock =>
    refine outcome_of_same ((refreshMonth_vehicles ..).trans ?_) h
    unfold observeClockDrift
    split
    · rfl
    · dsimp only
      split <;> rfl
  | listFailed error => exact outcome_of_same (discoveryFailedForError_vehicles ..) h
  | listResendWithheld =>
    refine outcome_of_same ?_ h
    exact planReservation_vehicles _ [(.state, 1)] m
  | resendWithheld category => exact outcome_of_same (planReservation_vehicles ..) h
  | admitRequest category => exact outcome_of_same (admitRequest_vehicles ..) h
  | plan requests => exact outcome_of_same (planReservation_vehicles ..) h
  | gateRevoked id₀ =>
    refine outcome_of_same ?_ h
    simp only [react, revokeGate]
    split <;> rfl
  | credentialSeen seen => cases seen <;> exact outcome_of_same rfl h
  | _ => exact outcome_of_same rfl h

end Outcome

end VehicleScheduler

namespace Hub

structure Cars (P : ScheduledVehicle → Prop) (Q : VehicleBaseline → Prop) (hub : Hub) : Prop where
  cars : ∀ id v, hub.scheduler.vehicles.get? id = some v → P v
  baseline : ∀ base, hub.scheduler.baseline = some base → ∀ id b, base.vehicles.get? id = some b →
    Q b

variable {P : ScheduledVehicle → Prop} {Q : VehicleBaseline → Prop}

theorem Cars.of_start (store : CollectorStore) (process : ProcessStart) (m : Moment) :
    Cars P Q (start store process m) := by
  have hloaded := start_loaded store process m
  refine ⟨fun id v hv => ?_, fun base hbase => ?_⟩
  · rw [hloaded.vehicles rfl] at hv
    cases hv
  · rw [hloaded.baseline] at hbase
    cases hbase

theorem captureBaseline_get? {s : VehicleScheduler} {id : VehicleId} {b : VehicleBaseline}
    (h : s.captureBaseline.vehicles.get? id = some b) :
    ∃ v, s.vehicles.get? id = some v ∧ b = v.baseline := by
  unfold VehicleScheduler.captureBaseline at h
  rw [get?_map] at h
  obtain ⟨v, hv, rfl⟩ := map_eq_some_iff.mp h
  exact ⟨v, hv, rfl⟩

/-- A car after any event comes from an input or from a roll-back to the baseline. -/
theorem step_car {hub : Hub} {e : Event} {id : VehicleId} {v' : ScheduledVehicle}
    (hv' : (hub.step e).scheduler.vehicles.get? id = some v') :
    (∃ i, e.what = .input i ∧ hub.scheduler.CarOutcome e.time i id v') ∨
    ∃ v, hub.scheduler.vehicles.get? id = some v ∧ (v' = v ∨ hub.commitFails e ∧
    ∃ base b, hub.scheduler.baseline = some base ∧ base.vehicles.get? id = some b ∧
    v' = v.restoreBaseline b) := by
  obtain ⟨time, what⟩ := e
  have hcommit {outcome : TickOutcome} {out : VehicleScheduler × PendingTick}
      (hc : hub.scheduler.Committed time outcome out) (hv' : out.1.vehicles.get? id = some v')
      (hfails : outcome = .failed → hub.commitFails ⟨time, what⟩) :
      ∃ v, hub.scheduler.vehicles.get? id = some v ∧ (v' = v ∨ hub.commitFails ⟨time, what⟩ ∧
        ∃ base b, hub.scheduler.baseline = some base ∧ base.vehicles.get? id = some b ∧
          v' = v.restoreBaseline b) := by
    cases hc with
    | failed otherWrites =>
      rw [VehicleScheduler.commitFailed_vehicles, VehicleScheduler.rollBack_vehicles] at hv'
      cases hbase : (hub.scheduler.takeTick time).1.baseline with
      | none =>
        rw [hbase] at hv'
        exact ⟨v', hv', .inl rfl⟩
      | some base =>
        rw [hbase] at hv'
        simp only [elim_some] at hv'
        rw [get?_map, get?_filter] at hv'
        obtain ⟨v, hv, rfl⟩ := map_eq_some_iff.mp hv'
        obtain ⟨hknown, hin⟩ := filter_eq_some_iff.mp hv
        obtain ⟨b, hb⟩ := isSome_iff_exists.mp (show (base.vehicles.get? id).isSome from hin)
        rw [hb]
        exact ⟨v, hknown, .inr ⟨hfails rfl, base, b, hbase, hb, rfl⟩⟩
    | _ => exact ⟨v', hv', .inl rfl⟩
  cases what with
  | input i => exact .inl ⟨i, rfl, hub.scheduler.react_car time i id v' hv'⟩
  | commit needsStore transaction =>
    exact .inr (hcommit (hub.scheduler.commitTick_committed needsStore transaction time) hv'
      (fun hf => by simpa [commitFails] using hf))
  | stop recorded =>
    refine .inr (hcommit (hub.scheduler.finishRun_committed recorded time) hv' (fun hf => ?_))
    cases recorded <;> cases hf
  | start process =>
    have hnone := (start_loaded hub.store process time).vehicles rfl
    exact nomatch (congrArg (·.get? id) hnone).symm.trans hv'

/-- A baseline is the one before or a picture of the cars. -/
theorem step_baseline {hub : Hub} {e : Event} {base : TickBaseline}
    (h : (hub.step e).scheduler.baseline = some base) :
    hub.scheduler.baseline = some base ∨ ∀ id b, base.vehicles.get? id = some b →
    ∃ v, hub.scheduler.vehicles.get? id = some v ∧ b = v.baseline := by
  obtain ⟨time, what⟩ := e
  have hcommit {outcome : TickOutcome} {out : VehicleScheduler × PendingTick}
      (hc : hub.scheduler.Committed time outcome out) (h : out.1.baseline = some base) :
      hub.scheduler.baseline = some base ∨
        ∀ id b, base.vehicles.get? id = some b → ∃ v, hub.scheduler.vehicles.get? id = some v ∧
          b = v.baseline := by
    cases hc with
    | idle => exact .inl h
    | succeeded | renewed =>
      cases h
      exact .inr (fun _ _ => captureBaseline_get?)
    | failed otherWrites =>
      cases h
  cases what with
  | input i =>
    by_cases hi : i = .beginTick
    · subst hi
      cases h
      exact .inr (fun _ _ => captureBaseline_get?)
    · exact .inl ((VehicleScheduler.baseline_eq_of_frame (hub.scheduler.react_frame time
        i hi)).symm.trans h)
  | commit needsStore transaction =>
    exact hcommit (hub.scheduler.commitTick_committed needsStore transaction time) h
  | stop recorded => exact hcommit (hub.scheduler.finishRun_committed recorded time) h
  | start process => exact nomatch (start_loaded hub.store process time).baseline.symm.trans h

/-- The rule for a property of every car, from the steps of a car and the return to a baseline. -/
theorem Cars.step {hub : Hub} (h : Cars P Q hub) (hQ : ∀ v, P v → Q v.baseline) (e : Event)
    (hnew : ∀ i, e.what = .input i → ∀ id v, hub.scheduler.NewCar e.time i id v → P v)
    (hstep : ∀ i, e.what = .input i → ∀ id v v', hub.scheduler.CarStep e.time i id v v' →
      hub.scheduler.vehicles.get? id = some v ∨ hub.scheduler.NewCar e.time i id v → P v → P v')
    (hback : hub.commitFails e → ∀ base, hub.scheduler.baseline = some base → ∀ id v b,
      hub.scheduler.vehicles.get? id = some v → base.vehicles.get? id = some b →
        P v → Q b → P (v.restoreBaseline b)) : Cars P Q (hub.step e) := by
  refine ⟨fun id v' hv' => ?_, fun base hbase id b hb => ?_⟩
  · rcases step_car hv' with ⟨i, hi, ⟨v, hv, rfl | hcar⟩ | ⟨_, v, hfresh, hcar⟩⟩ |
      ⟨v, hv, rfl | ⟨hfails, base, b, hbase, hb, rfl⟩⟩
    · exact h.cars id v' hv
    · exact hstep i hi id v v' hcar (.inl hv) (h.cars id v hv)
    · exact hstep i hi id v v' hcar (.inr hfresh) (hnew i hi id v hfresh)
    · exact h.cars id v' hv
    · exact hback hfails base hbase id v b hv hb (h.cars id v hv) (h.baseline base hbase id b hb)
  · rcases step_baseline hbase with hsame | hcaptured
    · exact h.baseline base hsame id b hb
    · obtain ⟨v, hv, rfl⟩ := hcaptured id b hb
      exact hQ v (h.cars id v hv)

theorem step_mode_timing (hub : Hub) (e : Event) :
    (hub.step e).scheduler.mode = hub.scheduler.mode ∧ (hub.step e).scheduler.timing =
    hub.scheduler.timing ∨ ∃ process, hub.step e = start hub.store process e.time := by
  obtain ⟨time, what⟩ := e
  cases what with
  | input i => exact .inl ⟨hub.scheduler.react_mode time i, hub.scheduler.react_timing time i⟩
  | commit needsStore transaction =>
    exact .inl (hub.scheduler.commitTick_committed needsStore transaction time).mode_timing
  | stop recorded => exact .inl (hub.scheduler.finishRun_committed recorded time).mode_timing
  | start process => exact .inr ⟨process, rfl⟩

end Hub

end TeslatlasHub.Collector
