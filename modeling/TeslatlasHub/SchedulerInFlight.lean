import TeslatlasHub.RunRules
import TeslatlasHub.SchedulerCarSpecs

namespace TeslatlasHub.Collector

open List ScheduledVehicle Input

/-! ### What clears a car's mark -/

/-- The inputs that report how a request of the car ended, or that none of its requests is under
way. -/
def Input.answers (id : VehicleId) : Input → Bool
  | .readSucceeded target .. | .readFailed target _ | .probeFinished target _ | .recordFailed target
      _ |
    .requestWithheld target => target = id
  | .releaseInFlight => true
  | _ => false

/-- The inputs that report a state of the car, which counts as a failure where the phase has no read
for it. -/
def Input.reports (id : VehicleId) : Input → Bool
  | .list _ => true
  | .record target _ => target = id
  | _ => false

def Input.isOwnerAction : Input → Bool
  | .ownerActions _ => true
  | _ => false

namespace VehicleScheduler

def handsOut (s : VehicleScheduler) (m : Moment) : Input → List VehicleId
  | .dueReads => (s.dueVehicles m).2
  | .dueProbes => (s.dueProbeVehicles m.now).2.map (·.1)
  | _ => []

inductive Marked (s : VehicleScheduler) (m : Moment) (i : Input) (id : VehicleId)
    (v v' : ScheduledVehicle) : Prop
  | same (h : v'.inFlight = v.inFlight)
  | answered (h : v'.inFlight = false) (hi : i.answers id)
  | counted (h : v'.inFlight = false) (hi : i.reports id) (hlt : v.consecutiveFailures <
      v'.consecutiveFailures)
  | released (h : v'.inFlight = false) (hi : i.isOwnerAction) (hheld : v.isHeld)
      (hfree : v'.isHeld = false)
  | asked (h : v'.inFlight) (hin : id ∈ s.handsOut m i)

end VehicleScheduler

namespace ScheduledVehicle

variable {v v' : ScheduledVehicle} {t : Timing} {now : Instant} {wallMs : ℤ}

structure SameMark (v v' : ScheduledVehicle) : Prop where
  inFlight : v'.inFlight = v.inFlight
  failures : v'.consecutiveFailures = v.consecutiveFailures

theorem SameMark.trans {v'' : ScheduledVehicle} (h : v.SameMark v') (h' : v'.SameMark v'') :
    v.SameMark v'' :=
  ⟨h'.inFlight.trans h.inFlight, h'.failures.trans h.failures⟩

theorem Reported.sameMark {state : ReportedState} (h : v.Reported t now wallMs state v') :
    v.SameMark v' := by
  have hentered (w : ScheduledVehicle) (new : PollPhase) (reason : Reason) :
      (w.enterPhase t new now wallMs reason).consecutiveFailures = w.consecutiveFailures := by
    unfold enterPhase
    split <;> rfl
  constructor <;> cases h <;> simp [reportNoted, clearPendingReads, beginSuspension, hentered]

theorem acceptListed_sameMark (restored : Option RestoredVehicle) (state : ReportedState) :
    v.SameMark (v.acceptListed t restored state now wallMs).1 := by
  have hnamed : v.SameMark (v.named now wallMs restored state) := by
    constructor <;> cases restored <;> grind [named, withRow, applyRestored, noteListed]
  have hreported := hnamed.trans (applyReportedState_reported _ t now wallMs state).sameMark
  exact ⟨hreported.inFlight, hreported.failures⟩

def MarkUnlessCounted (v v' : ScheduledVehicle) : Prop :=
  v'.inFlight = v.inFlight ∨ v'.inFlight = false ∧ v.consecutiveFailures < v'.consecutiveFailures

theorem failedOnce_counts (v : ScheduledVehicle) (t : Timing) (now : Instant) (cls : ErrorClass)
    (u : ℚ) :
    ((v.failedOnce t cls now u).inFlight = v.inFlight ∨ (v.failedOnce t cls now u).inFlight = false)
    ∧ (v.failedOnce t cls now u).consecutiveFailures = v.consecutiveFailures+1 := by
  constructor <;> grind [failedOnce, countFailure, pauseIfPersistent, pause, stopTimers]

theorem SameMark.failedAll (h : v.SameMark v') (cls : ErrorClass) (draws : List ℚ) :
    v.MarkUnlessCounted (draws.foldl (fun w u => w.failedOnce t cls now u) v') := by
  let P (w : ScheduledVehicle) : Prop := w.inFlight = v.inFlight ∧ v.consecutiveFailures ≤
      w.consecutiveFailures ∨
    w.inFlight = false ∧ v.consecutiveFailures < w.consecutiveFailures
  suffices hrun : P (draws.foldl (fun w u => w.failedOnce t cls now u) v') from hrun.imp
      (fun h => h.1) (fun h => h)
  refine foldlRecOn (motive := P) draws _ (.inl ⟨h.inFlight, h.failures.ge⟩) (fun w hw u _ => ?_)
  obtain ⟨hmark | hmark, hcount⟩ := w.failedOnce_counts t now cls u
  · exact hw.imp (fun h => ⟨hmark.trans h.1, by omega⟩) (fun h => ⟨hmark.trans h.1, by omega⟩)
  · exact .inr ⟨hmark, by omega⟩

theorem acceptRecord_mark (state : ReportedState) (u : ℚ) :
    v.MarkUnlessCounted (v.acceptRecord t state u now wallMs) := by
  have hlisted : v.SameMark ({ v with nextCheckDue := none }.noteListed now wallMs) := by
    constructor <;> grind [noteListed]
  have hreported := hlisted.trans (applyReportedState_reported _ t now wallMs state).sameMark
  have hsettled : v.SameMark (settleUnavailable _ state).1 :=
    ⟨hreported.inFlight, hreported.failures⟩
  unfold acceptRecord
  dsimp only
  split
  · exact hsettled.failedAll .transient [u]
  · exact .inl hsettled.inFlight

theorem Configured.inFlight {hubId : Uuid} {settings : CarSettings}
    (h : v.Configured t now wallMs hubId settings v') : v'.inFlight = v.inFlight := by
  cases h with
  | same => rfl
  | timed _ _ hswitched => cases hswitched <;> simp [settingsTaken]

theorem Evidenced.inFlight {evidence : FrameEvidence} (h : v.Evidenced t now wallMs evidence v') :
    v'.inFlight = v.inFlight := by
  cases h <;> simp [makeReadDue]

/-- What each step of a car does to its mark. -/
theorem marked_of_step {s : VehicleScheduler} {m : Moment} {i : Input} {id : VehicleId}
    (hstep : s.CarStep m i id v v') : s.Marked m i id v v' := by
  have hanswer (hi : i.answers id) (h : v'.inFlight = v.inFlight ∨ v'.inFlight = false) :
      s.Marked m i id v v' := by
    rcases h with h | h
    · exact .same h
    · exact .answered h hi
  have hcounted (hi : i.reports id) (h : v.MarkUnlessCounted v') : s.Marked m i id v v' := by
    rcases h with h | ⟨h, hlt⟩
    · exact .same h
    · exact .counted h hi hlt
  cases hstep with
  | settings => exact .same (v.applySettings_configured _ _ _ _ _).inFlight
  | ownerReleased reason hpaused =>
    have hheld : v.isHeld := by simp [isHeld, hpaused]
    rw [releaseHold_of_isHeld _ _ hheld]
    exact .released rfl rfl hheld rfl
  | listed draws => exact hcounted rfl (SameMark.failedAll (acceptAll_rule (P := v.SameMark)
      (fun _ state _ hw => hw.trans (acceptListed_sameMark _ state)) ⟨rfl, rfl⟩) .transient draws)
  | unlisted => exact .same (by grind [noteUnlisted, stopTimers])
  | record u => exact hcounted (decide_eq_true rfl) (acceptRecord_mark ..)
  | timers => exact .same (v.advanceTimers_inFlight ..)
  | read hin => exact .asked rfl hin
  | probed hin => exact .asked rfl hin
  | succeeded => exact .answered (v.succeeded_read _ _ _ _ _).kept.inFlight (by simp [answers])
  | probeReadService =>
    exact .answered (succeeded_read _ _ _ _ _ _).kept.inFlight (by simp [answers])
  | probeRead => exact .answered (succeeded_read _ _ _ _ _ _).kept.inFlight (by simp [answers])
  | frame => exact .same (v.applyFrameEvidence_evidenced _ _ _ _).inFlight
  | released => exact .answered rfl rfl
  | frameStored | streamHealthy | streamUnhealthy | streamOffline | streamWanted | streamTaskEnded
      | streamAuditFailed |
    lifecycleRead | lifecycleChanged | forceClosed | observationStored =>
    apply VehicleScheduler.Marked.same
    grind [frameArrived, streamHealthy, streamUnhealthy, setStreamWanted, streamTaskEnded,
      streamAuditFailed, setLifecycleView, noteForceClosed, noteObservationStored]
  | readNotConfirmed | readInstalling | withheld | probeReleased | probeRearmed | probeInService =>
    exact .answered rfl (by simp [answers])
  | _ =>
    apply hanswer (by simp [answers])
    grind [notFound, endHeldCheck, pause, retryCheck, pauseIfPersistent, stopTimers,
      releaseAfterAccountFailure, readFailed, readUnavailable, enterServiceMode, failedOnce,
        countFailure, rearmProbe, releaseHold, landed,
      enterPhase_inFlight]

end ScheduledVehicle

namespace VehicleScheduler

variable {s : VehicleScheduler} {m : Moment} {i : Input} {id : VehicleId} {v : ScheduledVehicle}

theorem of_mem_handsOut (h : id ∈ s.handsOut m i) :
    ∃ v, s.vehicles.get? id = some v ∧ v.inFlight = false ∧ s.account.requestsAllowed m.now ∧
    (i = .dueReads ∧ v.hold = .none ∨ i = .dueProbes ∧
    (v.hold = .service ∨ ∃ reason, v.hold = .paused reason)) := by
  cases i with
  | dueReads =>
    obtain ⟨v, _, hv, hallowed, hhold, hflight, _⟩ := of_mem_dueVehicles h
    rw [advanceTimers_hold] at hhold
    rw [advanceTimers_inFlight] at hflight
    exact ⟨v, hv, hflight, hallowed, .inl ⟨rfl, hhold⟩⟩
  | dueProbes =>
    change id ∈ (s.dueProbeVehicles m.now).2.map (·.1) at h
    unfold dueProbeVehicles at h
    split_ifs at h with hallowed
    · cases h
    simp only [map_map, Function.comp_def, map_id'] at h
    obtain ⟨v, _, hv, hat, _⟩ := of_mem_takeDue h
    have hcar : v.inFlight = false ∧ (v.hold = .service ∨ ∃ reason, v.hold = .paused reason) := by
      grind [probeDueAt]
    exact ⟨v, hv, hcar.1, by simpa [requestsAllowed] using hallowed, .inr ⟨rfl, hcar.2⟩⟩
  | _ => cases h

def inFlightIds (s : VehicleScheduler) : List VehicleId :=
  (s.vehicles.entries.filter (·.2.inFlight)).map (·.1)

theorem mem_inFlightIds : id ∈ s.inFlightIds ↔ ∃ v, s.vehicles.get? id = some v ∧ v.inFlight := by
  simp [inFlightIds, OrderedMap.get?_eq_some]

theorem inFlightIds_length : s.inFlightIds.length = s.inFlightCount := by
  simp [inFlightIds, inFlightCount, OrderedMap.values, filter_map, Function.comp_def]

theorem inFlightCount_le {ids : List VehicleId} (h : s.inFlightIds ⊆ ids) :
    s.inFlightCount ≤ ids.length := by
  have hsub : s.inFlightIds.Sublist s.vehicles.keys := filter_sublist.map _
  rw [← inFlightIds_length]
  exact (subperm_of_subset (hsub.nodup s.vehicles.keys_nodup) h).length_le

theorem takeDue_length_le (dueAt : ScheduledVehicle → Option Instant) (capacity : ℕ)
    (now : Instant) : (s.takeDue dueAt capacity now).length ≤ capacity := by
  simp [takeDue]

theorem handsOut_length_le (s : VehicleScheduler) (m : Moment) (i : Input) :
    (s.handsOut m i).length ≤ kMaxInFlight-s.inFlightCount := by
  cases i with
  | dueReads =>
    have hcount : s.inFlightCount ≤ (s.advanceTimers m).inFlightCount := by
      rw [← inFlightIds_length (s := s.advanceTimers m)]
      apply inFlightCount_le
      intro id hid
      obtain ⟨v, hv, hflight⟩ := mem_inFlightIds.mp hid
      have hadvanced : (s.advanceTimers m).vehicles.get? id = some (v.advanceTimers s.timing m.now
          (s.wallOrLast m)).1 :=
        OrderedMap.get?_map.trans (by rw [hv]; rfl)
      exact mem_inFlightIds.mpr ⟨_, hadvanced, (v.advanceTimers_inFlight ..).trans hflight⟩
    change (s.dueVehicles m).2.length ≤ _
    unfold dueVehicles
    dsimp only
    split
    · exact Nat.zero_le _
    · exact (takeDue_length_le _ _ _).trans (Nat.sub_le_sub_left hcount _)
  | dueProbes =>
    change ((s.dueProbeVehicles m.now).2.map (·.1)).length ≤ _
    unfold dueProbeVehicles
    split
    · exact Nat.zero_le _
    · simpa using takeDue_length_le _ _ _
  | _ => exact Nat.zero_le _

theorem NewCar.inFlight (hnew : s.NewCar m i id v) : v.inFlight = false := by
  have hrow (w : ScheduledVehicle) (r : RestoredVehicle) :
      (w.applyRestored r m.now (s.wallOrLast m)).inFlight = w.inFlight := by
    grind [applyRestored]
  exact hnew.rule (P := (·.inFlight = false)) (fun _ _ _ => ⟨rfl, fun r _ => hrow _ r⟩)
    (fun _ _ _ => ⟨rfl, fun r => hrow _ r⟩)

end VehicleScheduler

namespace Hub

open VehicleScheduler (mem_inFlightIds of_mem_handsOut inFlightCount_le inFlightIds_length)

def handsOut (hub : Hub) (e : Event) : List VehicleId :=
  match e.what with
  | .input i => hub.scheduler.handsOut e.time i
  | _ => []

def failures (hub : Hub) (id : VehicleId) : ℕ :=
  (hub.scheduler.vehicles.get? id).elim 0 (·.consecutiveFailures)

def holds (hub : Hub) (id : VehicleId) : Bool := (hub.scheduler.vehicles.get? id).any (·.isHeld)

/-- Whether an event ends the request that was handed out for a car: it is answered, a reported
state counts as a failure, an owner's action ends the hold, or the record is dropped. -/
def endsRequest (hub : Hub) (id : VehicleId) (e : Event) : Bool :=
  !(hub.step e).scheduler.vehicles.contains id ||
    match e.what with
    | .input i => i.answers id || i.reports id && hub.failures id < (hub.step e).failures id ||
        i.isOwnerAction && hub.holds id && !(hub.step e).holds id
    | _ => false

variable {hub : Hub} {e : Event} {id : VehicleId}

/-- A car in flight was so before or has just been handed out. -/
theorem step_inFlightIds (hub : Hub) (e : Event) :
    (hub.step e).scheduler.inFlightIds ⊆ hub.scheduler.inFlightIds++hub.handsOut e := by
  intro id hid
  obtain ⟨v', hv', hflight⟩ := mem_inFlightIds.mp hid
  have hkept (v : ScheduledVehicle) (hv : hub.scheduler.vehicles.get? id = some v)
      (h : v.inFlight) :
      id ∈ hub.scheduler.inFlightIds++hub.handsOut e :=
    mem_append_left _ (mem_inFlightIds.mpr ⟨v, hv, h⟩)
  have hstep {i : Input} {v : ScheduledVehicle} (hi : e.what = .input i)
      (hcar : hub.scheduler.CarStep e.time i id v v') : v.inFlight ∨ id ∈ hub.handsOut e := by
    cases marked_of_step hcar with
    | same h => exact .inl (h.symm.trans hflight)
    | asked _ hin =>
      right
      unfold handsOut
      rw [hi]
      exact hin
    | _ h => cases hflight.symm.trans h
  rcases step_car hv' with ⟨i, hi, ⟨v, hv, rfl | hcar⟩ | ⟨_, v, hfresh, hcar⟩⟩ | ⟨v, hv,
    rfl | ⟨_, _, _, _, _, rfl⟩⟩
  · exact hkept v' hv hflight
  · exact (hstep hi hcar).elim (hkept v hv) (mem_append_right _)
  · have hfree : v.inFlight = false := hfresh.inFlight
    exact mem_append_right _ ((hstep hi hcar).resolve_left (by simp [hfree]))
  · exact hkept v' hv hflight
  · exact hkept v hv hflight

/-- No event brings the marked cars above four. -/
theorem step_inFlightCount_le (h : hub.scheduler.inFlightCount ≤ kMaxInFlight) (e : Event) :
    (hub.step e).scheduler.inFlightCount ≤ kMaxInFlight := by
  have hhanded : (hub.handsOut e).length ≤ kMaxInFlight-hub.scheduler.inFlightCount := by
    unfold handsOut
    split
    · exact hub.scheduler.handsOut_length_le ..
    · exact Nat.zero_le _
  have hcount := inFlightCount_le (hub.step_inFlightIds e)
  rw [length_append, inFlightIds_length] at hcount
  omega

/-- A mark stays until an event ends its request. -/
theorem step_mem_inFlightIds (h : id ∈ hub.scheduler.inFlightIds)
    (hends : hub.endsRequest id e = false) : id ∈ (hub.step e).scheduler.inFlightIds := by
  obtain ⟨v, hv, hflight⟩ := mem_inFlightIds.mp h
  unfold endsRequest at hends
  obtain ⟨hknown, hends⟩ := Bool.or_eq_false_iff.mp hends
  obtain ⟨v', hv'⟩ := Option.isSome_iff_exists.mp ((Bool.not_eq_false' _).mp hknown)
  refine mem_inFlightIds.mpr ⟨v', hv', ?_⟩
  rcases step_car hv' with ⟨i, hi, ⟨w, hw, rfl | hcar⟩ | ⟨hnone, _⟩⟩ | ⟨w, hw,
    rfl | ⟨_, _, _, _, _, rfl⟩⟩
  · cases hv.symm.trans hw
    exact hflight
  · cases hv.symm.trans hw
    unfold failures holds at hends
    rw [hi, hv, hv'] at hends
    cases marked_of_step hcar with
    | same h => exact h.trans hflight
    | answered _ hans => simp [hans] at hends
    | counted _ hreports hlt => simp [hreports, hlt] at hends
    | released _ howner hheld hfree => simp [howner, hheld, hfree] at hends
    | asked h _ => exact h
  · cases hv.symm.trans hnone
  · cases hv.symm.trans hw
    exact hflight
  · cases hv.symm.trans hw
    exact hflight

theorem mem_inFlightIds_of_handsOut (h : id ∈ hub.handsOut e) :
    id ∈ (hub.step e).scheduler.inFlightIds := by
  obtain ⟨time, what⟩ := e
  cases what with
  | input i =>
    obtain ⟨v, hv, _, _, ⟨rfl, _⟩ | ⟨rfl, _⟩⟩ := of_mem_handsOut h
    · have hmarked := hub.scheduler.dueVehicles_get? time id
      have hin : id ∈ (hub.scheduler.dueVehicles time).2 := h
      rw [hv, Option.map_some, if_pos hin] at hmarked
      exact mem_inFlightIds.mpr ⟨_, hmarked, rfl⟩
    · have hmarked := hub.scheduler.dueProbeVehicles_get? time.now id
      have hin : id ∈ (hub.scheduler.dueProbeVehicles time.now).2.map (·.1) := h
      rw [hv, Option.map_some, if_pos hin] at hmarked
      exact mem_inFlightIds.mpr ⟨_, hmarked, rfl⟩
  | _ => cases h

theorem not_handsOut_of_mem_inFlightIds (h : id ∈ hub.scheduler.inFlightIds) :
    id ∉ hub.handsOut e := by
  obtain ⟨v, hv, hflight⟩ := mem_inFlightIds.mp h
  intro hin
  obtain ⟨time, what⟩ := e
  cases what with
  | input i =>
    obtain ⟨w, hw, hfree, _⟩ := of_mem_handsOut hin
    cases hv.symm.trans hw
    cases hflight.symm.trans hfree
  | _ => cases hin

/-- At most four cars are in flight, only an account that collects and does not wait hands a car
out, and a car that was handed out is not handed out again before an event ends its request. -/
theorem requests_in_flight_are_apart (store : CollectorStore) (process : ProcessStart) (m : Moment)
    (es : List Event) :
    let hub := (start store process m).run es
    hub.scheduler.inFlightCount ≤ 4 ∧ ∀ e id, id ∈ hub.handsOut e →
      (∃ v, hub.scheduler.vehicles.get? id = some v ∧ hub.scheduler.account.state = .collecting ∧
        (∀ wait, hub.scheduler.account.wait = some wait → wait.1 ≤ e.time.now) ∧
        (e.what = .input .dueReads ∧ v.hold = .none ∨
          e.what = .input .dueProbes ∧ (v.hold = .service ∨ ∃ reason, v.hold = .paused reason))) ∧
      ∀ later, RunRules.Along step (fun hub e => hub.endsRequest id e = false) (hub.step e) later →
        ∀ again, id ∉ ((hub.step e).run later).handsOut again := by
  refine ⟨?_, fun e id hin => ⟨?_, fun later hlater again => ?_⟩⟩
  · refine foldlRecOn (motive := fun hub : Hub => hub.scheduler.inFlightCount ≤ kMaxInFlight) es _
      ?_
      (fun hub h e _ => step_inFlightCount_le h e)
    rw [VehicleScheduler.inFlightCount, (start_loaded store process m).vehicles rfl]
    exact Nat.zero_le _
  · obtain ⟨time, what⟩ := e
    cases what with
    | input i =>
      obtain ⟨v, hv, _, hallowed, hhold⟩ := of_mem_handsOut hin
      simp only [AccountRecord.requestsAllowed, Bool.and_eq_true, decide_eq_true_eq] at hallowed
      refine ⟨v, hv, hallowed.1, fun wait hwait => ?_, by simpa using hhold⟩
      simpa [hwait] using hallowed.2
    | _ => cases hin
  · exact not_handsOut_of_mem_inFlightIds (RunRules.foldl_invariant (I := fun hub : Hub => id ∈
      hub.scheduler.inFlightIds)
      (fun hub e h hends => step_mem_inFlightIds h hends) (mem_inFlightIds_of_handsOut hin) hlater)

def onlineCar : List Event := [Input.atSecond 1 (.list [.reported 1 .online])]

theorem requests_in_flight_are_apart_relisted :
    1 ∉ ((((start {} (.default .fleetPolling []) (.atSecond 0)).run onlineCar).step
    (Input.atSecond 1 .dueReads)).run [Input.atSecond 2 (.list [.reported 1 .online])]).handsOut
    (Input.atSecond 3 .dueReads) :=
  ((requests_in_flight_are_apart {} (.default .fleetPolling []) (.atSecond 0) onlineCar).2
    (Input.atSecond 1 .dueReads) 1 (by decide +kernel)).2
      [Input.atSecond 2 (.list [.reported 1 .online])]
    (by decide +kernel) (Input.atSecond 3 .dueReads)

theorem withheld_read_is_handed_out_again :
    let hub := (start {} (.default .fleetPolling []) (.atSecond 0)).run onlineCar
    1 ∈ hub.handsOut (Input.atSecond 1 .dueReads) ∧
      1 ∈ (hub.run [Input.atSecond 1 .dueReads, Input.atSecond 2 (.requestWithheld 1),
        Input.atSecond 2 (.resendWithheld .data)]).handsOut (Input.atSecond 3 .dueReads) := by
  decide +kernel

end Hub

end TeslatlasHub.Collector
