import TeslatlasHub.SchedulerInFlight

namespace TeslatlasHub.Collector

open VehicleScheduler Option

/-! ### What a frame sets as the time of a read -/

namespace Timing

def SpacingIsFastest (t : Timing) : Prop :=
  ∀ healthy interval, t.readInterval .driving healthy = some interval → t.minReadSpacing ≤ interval

theorem new_spacingIsFastest (cadence : CollectorCadence) (mode : CollectorMode)
    (fleet : FleetPolicy) : (new cadence mode fleet).SpacingIsFastest := by
  have hmin (t : Timing) (h : t.minReadSpacing = min t.driving (t.drivingStream.getD t.driving)) :
      t.SpacingIsFastest := by
    intro healthy interval hinterval
    rw [h]
    unfold readInterval at hinterval
    dsimp only at hinterval
    split at hinterval
    · rename_i stream hstream
      rw [some.injEq] at hinterval
      rw [hstream, ← hinterval]
      exact min_le_right _ _
    · rw [some.injEq] at hinterval
      rw [← hinterval]
      exact min_le_left _ _
  exact hmin _ rfl

end Timing

variable {r due : Instant}

namespace ScheduledVehicle

variable {v v' : ScheduledVehicle} {t : Timing} {now : Instant} {wallMs : ℤ}

theorem makeReadDue_nextReadDue : (v.makeReadDue t now).nextReadDue =
    some (v.nextReadDue.elim (v.evidenceReadTime t now) (min · (v.evidenceReadTime t now))) := rfl

theorem le_evidenceReadTime {last : Instant} (hlast : v.lastRead = some last) (hr : r ≤ last) :
    r+t.minReadSpacing ≤ v.evidenceReadTime t now := by
  unfold evidenceReadTime deadlineAfter
  rw [hlast, elim_some]
  exact le_trans (Nat.add_le_add_right hr _) (le_max_right _ _)

theorem le_of_min_ne {old time bound : Instant} (htime : bound ≤ time) (hmin : min old time = due)
    (hne : due ≠ old) : bound ≤ due := by
  rcases min_choice old time with h | h
  · exact absurd (hmin.symm.trans h) hne
  · rw [← hmin, h]
    exact htime

theorem Evidenced.spaced {evidence : FrameEvidence} (h : v.Evidenced t now wallMs evidence v')
    (ht : t.SpacingIsFastest) {last : Instant} (hlast : v.lastRead = some last) (hr : r ≤ last)
    (hnow : r ≤ now) (hdue : v'.nextReadDue = some due) (hset : v'.nextReadDue ≠ v.nextReadDue) :
    r+t.minReadSpacing ≤ due := by
  have hne : some due ≠ v.nextReadDue := hdue ▸ hset
  have hmade {w : ScheduledVehicle} (hw : w.nextReadDue = v.nextReadDue)
      (hl : w.lastRead = some last)
      (hd : (w.makeReadDue t now).nextReadDue = some due) : r+t.minReadSpacing ≤ due := by
    have htime : r+t.minReadSpacing ≤ w.evidenceReadTime t now := le_evidenceReadTime hl hr
    rw [makeReadDue_nextReadDue, some.injEq, hw] at hd
    cases hold : v.nextReadDue with
    | none =>
      rw [hold] at hd
      exact hd ▸ htime
    | some old =>
      rw [hold, elim_some] at hd
      exact le_of_min_ne htime hd (fun heq => hne (heq ▸ hold.symm))
  -- motion moves the car to Driving first, where its read is at most one interval away
  have hdriving (hphase : v.phase ≠ .driving) : ∃ late, r+t.minReadSpacing ≤ late ∧
      ({ v with lastInUse := some now }.enterPhase t .driving now wallMs
        .useEvidenceStream).nextReadDue =
        v.nextReadDue.map (min · late) := by
    obtain ⟨interval, hi⟩ := readInterval_isSome_of_isReadPhase t
        (show PollPhase.isReadPhase .driving from rfl)
      ({ v with lastInUse := some now }.streamHealthyIn .driving now)
    refine ⟨deadlineAfter now interval, Nat.add_le_add hnow (ht _ interval hi), ?_⟩
    rw [enterPhase_nextReadDue, if_neg hphase]
    unfold readDueIn
    dsimp only
    rw [hi]
  cases h with
  | same => exact absurd rfl hset
  | moving => exact absurd rfl hset
  | gated => exact hmade rfl hlast hdue
  | parked => exact hmade rfl hlast hdue
  | power => exact hmade rfl hlast hdue
  | driving _ hphase =>
    obtain ⟨late, hlate, hread⟩ := hdriving hphase
    obtain ⟨time, htime, hdue⟩ : ∃ time, r+t.minReadSpacing ≤ time ∧
        (v.nextReadDue.map (min · late)).elim time (min · time) = due := by
      have hentered : ({ v with lastInUse := some now }.enterPhase t .driving now
          wallMs .useEvidenceStream).lastRead = some last := by
        rw [enterPhase_lastRead]
        exact hlast
      exact ⟨_, le_evidenceReadTime hentered hr,
        some.inj ((congrArg (fun o : Option Instant => some (o.elim _ _)) hread).symm.trans hdue)⟩
    cases hold : v.nextReadDue with
    | none =>
      rw [hold] at hdue
      exact hdue ▸ htime
    | some old =>
      rw [hold, map_some, elim_some, min_assoc] at hdue
      exact le_of_min_ne (le_min hlate htime) hdue (fun heq => hne (heq ▸ hold.symm))
  | drivingHeld _ hphase =>
    obtain ⟨late, hlate, hread⟩ := hdriving hphase
    rw [hread] at hdue
    obtain ⟨old, hold, hmin⟩ := map_eq_some_iff.mp hdue
    exact le_of_min_ne hlate hmin (fun heq => hne (heq ▸ hold.symm))

/-- A frame is evidence that asks for a read of the car, now or after the spacing. -/
def takesEvidence (v : ScheduledVehicle) (t : Timing) (evidence : FrameEvidence) (now : Instant) :
    Bool :=
  !v.isInactive &&
    if evidence.motion then v.phase ≠ .driving
    else v.hold = .none && (evidence.parkedGear && v.phase = .driving ||
      evidence.wantsRead && !v.phase.isSession && v.lastPowerTrigger.all (t.online ≤ now-·))

/-- A frame leaves the car's due time alone: it is no evidence, or the read is due no later than it
asks for. -/
def keepsDue (v : ScheduledVehicle) (t : Timing) (evidence : FrameEvidence) (now : Instant) :
    Bool :=
  !v.takesEvidence t evidence now ||
    v.nextReadDue.any fun due => due ≤ v.evidenceReadTime t now && due ≤ deadlineAfter now
      t.minReadSpacing

theorem nextReadDue_of_not_takesEvidence {evidence : FrameEvidence}
    (h : v.takesEvidence t evidence now = false) :
    (v.applyFrameEvidence t evidence now wallMs).nextReadDue = v.nextReadDue := by
  unfold takesEvidence at h
  unfold applyFrameEvidence
  by_cases hinactive : v.isInactive
  · rw [if_pos hinactive]
  · by_cases hmotion : evidence.motion
    · simp only [hinactive, hmotion, Bool.not_false, Bool.true_and, if_true,
        decide_eq_false_iff_not, not_not] at h
      simp [hinactive, hmotion, h]
    · simp only [hinactive, hmotion] at h ⊢
      split_ifs <;> simp_all

theorem Evidenced.nextReadDue_eq {evidence : FrameEvidence}
    (h : v.Evidenced t now wallMs evidence v') (ht : t.SpacingIsFastest)
    (hold : v.nextReadDue = some due) (htime : due ≤ v.evidenceReadTime t now)
    (hspacing : due ≤ deadlineAfter now t.minReadSpacing) : v'.nextReadDue = some due := by
  have hmade {w : ScheduledVehicle} (hw : w.nextReadDue = some due) (hl : w.lastRead = v.lastRead) :
      (w.makeReadDue t now).nextReadDue = some due := by
    have heq : w.evidenceReadTime t now = v.evidenceReadTime t now := by
      unfold evidenceReadTime
      rw [hl]
    rw [makeReadDue_nextReadDue, hw, elim_some, heq, min_eq_left htime]
  have hdriving (hphase : v.phase ≠ .driving) :
      ({ v with lastInUse := some now }.enterPhase t .driving now wallMs
        .useEvidenceStream).nextReadDue =
        some due := by
    obtain ⟨interval, hi⟩ := readInterval_isSome_of_isReadPhase t
        (show PollPhase.isReadPhase .driving from rfl)
      ({ v with lastInUse := some now }.streamHealthyIn .driving now)
    have hle : due ≤ deadlineAfter now interval :=
      hspacing.trans (Nat.add_le_add_left (ht _ interval hi) now)
    rw [enterPhase_nextReadDue, if_neg hphase]
    unfold readDueIn
    dsimp only
    rw [hi, hold]
    exact congrArg some (min_eq_left hle)
  cases h with
  | same => exact hold
  | moving => exact hold
  | gated => exact hmade hold rfl
  | parked => exact hmade hold rfl
  | power => exact hmade hold rfl
  | driving _ hphase => exact hmade (hdriving hphase) (enterPhase_lastRead ..)
  | drivingHeld _ hphase => exact hdriving hphase

theorem nextReadDue_of_keepsDue {evidence : FrameEvidence} (ht : t.SpacingIsFastest)
    (h : v.keepsDue t evidence now) :
    (v.applyFrameEvidence t evidence now wallMs).nextReadDue = v.nextReadDue := by
  rcases Bool.or_eq_true_iff.mp h with h | h
  · exact nextReadDue_of_not_takesEvidence ((Bool.not_eq_true' _).mp h)
  · obtain ⟨due, hold, hle⟩ := (any_eq_true _ _).mp h
    obtain ⟨htime, hspacing⟩ := Bool.and_eq_true_iff.mp hle
    rw [hold]
    exact (v.applyFrameEvidence_evidenced t now wallMs evidence).nextReadDue_eq ht hold
      (of_decide_eq_true htime)
      (of_decide_eq_true hspacing)

end ScheduledVehicle

namespace VehicleScheduler

def countsRead (s : VehicleScheduler) (error : CollectorError) (m : Moment) : Bool :=
  match credentialOutcomeFor error (s.wallOrLast m) with
  | some .vehicleAccessRejected => true
  | some _ => false
  | none => classify error .read s.mode ∈ [.transient, .protocol, .clientError]

variable {s s₁ : VehicleScheduler} {cls : ErrorClass} {error : CollectorError} {m : Moment}
  {id : VehicleId}
  {v : ScheduledVehicle}

theorem vehicleClassFailure_counts (hv : s.vehicles.get? id = some v)
    (hs : s₁.vehicles = s.vehicles) (hcls : cls ∈ [ErrorClass.transient, .protocol, .clientError]) :
    ∃ v', (s₁.vehicleClassFailure id cls m).1.vehicles.get? id = some v' ∧
      v.consecutiveFailures < v'.consecutiveFailures := by
  have hfailed : (v.readFailed s₁.timing m.now (s₁.wallOrLast m)).consecutiveFailures =
      v.consecutiveFailures := by
    grind [ScheduledVehicle.readFailed, ScheduledVehicle.enterPhase]
  have hcount := (ScheduledVehicle.failedOnce_counts
    (v.readFailed s₁.timing m.now (s₁.wallOrLast m)) s₁.timing m.now cls (s₁.jitter 0)).2
  rw [hfailed] at hcount
  refine ⟨_, ?_, (Nat.lt_succ_self _).trans_eq hcount.symm⟩
  unfold vehicleClassFailure
  rw [hs, hv]
  simp only [List.mem_cons, List.not_mem_nil, or_false] at hcls
  rcases hcls with rfl | rfl | rfl
  all_goals
    simp only [reduceCtorEq, decide_false, Bool.and_false, Bool.false_eq_true, if_false,
      countVehicleFailure, modifyCar, hs, OrderedMap.get?_modify, if_true, hv, map_some]
    rfl

theorem vehicleFailedForError_counts (h : s.countsRead error m) (hv : s.vehicles.get? id = some v) :
    ∃ v', (s.vehicleFailedForError id error m).1.vehicles.get? id = some v' ∧
      v.consecutiveFailures < v'.consecutiveFailures := by
  unfold countsRead at h
  unfold vehicleFailedForError
  split at h
  · rename_i heq
    rw [heq]
    exact vehicleClassFailure_counts hv rfl (by simp)
  · cases h
  · rename_i heq
    rw [heq]
    have hcls := of_decide_eq_true h
    have hnone (s' : VehicleScheduler) : s'.accountFailed (classify error .read s.mode) error m =
        (s', none) := by
      unfold accountFailed
      generalize classify error .read s.mode = cls at hcls
      simp only [List.mem_cons, List.not_mem_nil, or_false] at hcls
      rcases hcls with rfl | rfl | rfl <;> rfl
    have hgate : classify error .read s.mode ≠ .gateNotConfirmed := fun hc => by simp [hc] at hcls
    simp only [hnone, if_neg hgate]
    refine vehicleClassFailure_counts hv ?_ hcls
    exact (checkRefusal_accountOnly _ _ _).vehicles.trans (answered_accountOnly s _).vehicles

end VehicleScheduler

/-- What set the due time of a car's read: a stream frame, whose read has not been returned yet or
has, a counted failure, or anything else. -/
inductive DueBy where
  | other | frame | frameReturned | backoff
  deriving DecidableEq

def DueBy.returned : DueBy → DueBy
  | frame => frameReturned
  | by_ => by_

def DueBy.isFrame (d : DueBy) : Bool := d = .frame || d = .frameReturned

structure ReadTrace where
  /-- When `dueVehicles` last returned a read of the car. -/
  returned : Option Instant := none
  due : DueBy := .other
  /-- What had set the due time that the baseline of the tick keeps. -/
  saved : DueBy := .other
  /-- A read was returned or a failure counted since the last success. -/
  unsettled : Bool := false

namespace ReadTrace

variable (t : ReadTrace)

def moved (changed : Bool) (by_ : DueBy) : ReadTrace := if changed then { t with due := by_ } else t

def readReturned (now : Instant) : ReadTrace :=
  { returned := some now, due := t.due.returned, saved := t.saved.returned, unsettled := true }

def afterCommit (hasBaseline : Bool) : TickOutcome → ReadTrace
  | .idle => t
  | .committed _ => { t with saved := t.due }
  | .failed =>
    if hasBaseline then { t with due := t.saved, unsettled := t.unsettled || t.saved = .backoff }
      else t

end ReadTrace

namespace Hub

def readDue (hub : Hub) (id : VehicleId) : Option Instant :=
  (hub.scheduler.vehicles.get? id).bind (·.nextReadDue)

end Hub

def Input.succeeds (id : VehicleId) : Input → Bool
  | .readSucceeded target .. => target = id
  | _ => false

def Input.mayCount : Input → Bool
  | .readFailed .. | .list .. | .record .. => true
  | _ => false

structure WatchedHub where
  hub : Hub
  reads : VehicleId → ReadTrace

namespace WatchedHub

variable (w : WatchedHub)

/-- What an event adds to the trace of a car's reads. A new process begins with no trace: its clock
readings cannot be compared with those of an earlier one. -/
def traceAfter (e : Event) (id : VehicleId) : ReadTrace :=
  let t := w.reads id
  let changed : Bool := (w.hub.step e).readDue id ≠ w.hub.readDue id
  let counted : Bool := w.hub.failures id < (w.hub.step e).failures id
  match e.what with
  | .input (.frame ..) => t.moved changed .frame
  | .input (.readSucceeded target ..) =>
    if target = id then { t with due := .other, unsettled := false } else t.moved changed .other
  | .input (.readFailed ..) | .input (.list ..) | .input (.record ..) =>
    if counted then { t with due := .backoff, unsettled := true } else t.moved changed .other
  | .input .dueReads =>
    let t := t.moved changed .other
    if id ∈ (w.hub.scheduler.dueVehicles e.time).2 then t.readReturned e.time.now else t
  | .input .beginTick => { t with saved := t.due }
  | .input _ => t.moved changed .other
  | .commit needsStore transaction =>
    t.afterCommit w.hub.scheduler.baseline.isSome (w.hub.scheduler.tickOutcome needsStore
      transaction e.time)
  | .stop recorded =>
    t.afterCommit w.hub.scheduler.baseline.isSome (if recorded then .committed true else .idle)
  | .start _ => {}

def step (e : Event) : WatchedHub where
  hub := w.hub.step e
  reads := w.traceAfter e

def run (es : List Event) : WatchedHub := es.foldl step w

def start (store : CollectorStore) (process : ProcessStart) (m : Moment) : WatchedHub where
  hub := Hub.start store process m
  reads := fun _ => {}

/-- A frame that does not keep the due time of a read finds a car whose last returned read has
succeeded, with no failure counted since, and whose record still has that success. -/
def framesFindSuccess (e : Event) : Bool :=
  match e.what with
  | .input (.frame id shift speed power) =>
    (w.hub.scheduler.vehicles.get? id).all fun v =>
      v.keepsDue w.hub.scheduler.timing (FrameEvidence.fromStream shift speed power) e.time.now ||
        !(w.reads id).unsettled && (w.reads id).returned.all fun r => r ≤ e.time.now &&
          v.lastRead.any (r ≤ ·)
  | _ => true

/-- How an input may meet a car whose read was returned at the time a frame set: the read succeeds
or its failure is counted, and no other answer and no owner's action on a hold clears the car's
mark. -/
def endsFrameRead (id : VehicleId) (time : Moment) (i : Input) : Bool :=
  !(i.isOwnerAction && w.hub.holds id) && (!i.answers id ||
    match i with
    | .readSucceeded .. => true
    | .readFailed _ error => w.hub.scheduler.countsRead error time
    | _ => false)

/-- No due time that a frame set outlives the request it led to: inputs end the read as above, and a
commit that fails brings such a time back only for a car that is still in flight. -/
def frameReadsEnd (e : Event) : Bool :=
  w.hub.scheduler.vehicles.keys.all fun id =>
    match e.what with
    | .input i => (w.reads id).due ≠ .frameReturned || w.endsFrameRead id e.time i
    | .commit needsStore transaction =>
      w.hub.scheduler.tickOutcome needsStore transaction e.time ≠ .failed ||
        !w.hub.scheduler.baseline.isSome ||
        (w.reads id).saved ≠ .frameReturned || id ∈ w.hub.scheduler.inFlightIds
    | _ => true

def guarded (e : Event) : Bool := w.framesFindSuccess e && w.frameReadsEnd e

structure Spaced : Prop where
  timing : w.hub.scheduler.timing.SpacingIsFastest
  due : ∀ id due r, (w.reads id).due = .frame → w.hub.readDue id = some due →
    (w.reads id).returned = some r →
    r+w.hub.scheduler.timing.minReadSpacing ≤ due
  saved : ∀ id base b due r, (w.reads id).saved = .frame → w.hub.scheduler.baseline = some base →
    base.vehicles.get? id = some b → b.nextReadDue = some due → (w.reads id).returned = some r →
      r+w.hub.scheduler.timing.minReadSpacing ≤ due
  inFlight : ∀ id due, (w.reads id).due = .frameReturned → w.hub.readDue id = some due →
    id ∈ w.hub.scheduler.inFlightIds
  backoff : ∀ id, (w.reads id).due = .backoff → (w.reads id).unsettled

variable {w : WatchedHub} {e : Event} {id : VehicleId}

variable {i : Input}

inductive Traced (w : WatchedHub) (e : Event) (id : VehicleId) (i : Input) : ReadTrace → Prop
  | stands (hsame : (w.hub.step e).readDue id = w.hub.readDue id) (hsuccess : i.succeeds id = false)
      (hcounted : i.mayCount → ¬ w.hub.failures id < (w.hub.step e).failures id)
        (hbegin : i ≠ .beginTick) :
      Traced w e id i (w.reads id)
  | framed (hset : (w.hub.step e).readDue id ≠ w.hub.readDue id)
      (hframe : ∃ target shift speed power, i = .frame target shift speed power) :
      Traced w e id i { w.reads id with due := .frame }
  | moved (hbegin : i ≠ .beginTick) : Traced w e id i { w.reads id with due := .other }
  | succeeded (hbegin : i ≠ .beginTick) :
      Traced w e id i { w.reads id with due := .other, unsettled := false }
  | counted (hbegin : i ≠ .beginTick) :
      Traced w e id i { w.reads id with due := .backoff, unsettled := true }
  | returned {t : ReadTrace} (hin : id ∈ w.hub.handsOut e) :
      Traced w e id i (t.readReturned e.time.now)
  | begun (hbegin : i = .beginTick) (hsame : (w.hub.step e).readDue id = w.hub.readDue id) :
      Traced w e id i { w.reads id with saved := (w.reads id).due }

/-- One case for each way an input may change the trace. -/
theorem traceAfter_traced (w : WatchedHub) (id : VehicleId) (hi : e.what = .input i) :
    Traced w e id i (w.traceAfter e id) := by
  have hmoves (hbegin : i ≠ .beginTick) (hsuccess : i.succeeds id = false)
      (hcounted : i.mayCount → ¬ w.hub.failures id < (w.hub.step e).failures id) :
      Traced w e id i ((w.reads id).moved ((w.hub.step e).readDue id ≠ w.hub.readDue id)
        .other) := by
    unfold ReadTrace.moved
    split_ifs with hset
    · exact .moved hbegin
    · exact .stands (by simpa using hset) hsuccess hcounted hbegin
  unfold traceAfter
  rw [hi]
  cases i with
  | frame target shift speed power =>
    dsimp only
    unfold ReadTrace.moved
    split_ifs with hset
    · exact .framed (by simpa using hset) ⟨target, shift, speed, power, rfl⟩
    · exact .stands (by simpa using hset) rfl nofun nofun
  | readSucceeded target =>
    dsimp only
    split_ifs with htarget
    · exact .succeeded nofun
    · exact hmoves nofun (decide_eq_false htarget) nofun
  | readFailed | list | record =>
    dsimp only
    split_ifs with hcounted
    · exact .counted nofun
    · exact hmoves nofun rfl fun _ => by simpa using hcounted
  | dueReads =>
    dsimp only
    split_ifs with hin
    · refine .returned ?_
      unfold Hub.handsOut
      rw [hi]
      exact hin
    · exact hmoves nofun rfl nofun
  | beginTick =>
    refine .begun rfl ?_
    unfold Hub.readDue Hub.step
    rw [hi]
    rfl
  | _ => exact hmoves nofun rfl nofun

theorem DueBy.returned_ne_frame (d : DueBy) : d.returned ≠ .frame := by cases d <;> exact nofun

theorem frame_of_traceAfter (hi : e.what = .input i) (h : (w.traceAfter e id).due = .frame) :
    (w.traceAfter e id).returned = (w.reads id).returned ∧
      ((w.hub.step e).readDue id = w.hub.readDue id ∧ (w.reads id).due = .frame ∨
        (w.hub.step e).readDue id ≠ w.hub.readDue id ∧
          ∃ target shift speed power, i = .frame target shift speed power) := by
  have htraced := traceAfter_traced w id hi
  generalize w.traceAfter e id = t at htraced h ⊢
  cases htraced with
  | stands hsame => exact ⟨rfl, .inl ⟨hsame, h⟩⟩
  | framed hset hframe => exact ⟨rfl, .inr ⟨hset, hframe⟩⟩
  | moved | succeeded | counted => cases h
  | returned => exact absurd h (DueBy.returned_ne_frame _)
  | begun _ hsame => exact ⟨rfl, .inl ⟨hsame, h⟩⟩

theorem frameReturned_of_traceAfter (hi : e.what = .input i)
    (h : (w.traceAfter e id).due = .frameReturned) :
    id ∈ w.hub.handsOut e ∨ (w.hub.step e).readDue id = w.hub.readDue id ∧ (w.reads id).due =
    .frameReturned ∧ i.succeeds id = false ∧
    (i.mayCount → ¬ w.hub.failures id < (w.hub.step e).failures id) := by
  have htraced := traceAfter_traced w id hi
  generalize w.traceAfter e id = t at htraced h
  cases htraced with
  | stands hsame hsuccess hcounted => exact .inr ⟨hsame, h, hsuccess, hcounted⟩
  | framed | moved | succeeded | counted => cases h
  | returned hin => exact .inl hin
  | begun hbegin hsame =>
    subst hbegin
    exact .inr ⟨hsame, h, rfl, nofun⟩

theorem saved_of_traceAfter (hi : e.what = .input i) (h : (w.traceAfter e id).saved = .frame) :
    (w.traceAfter e id).returned = (w.reads id).returned ∧ ((w.reads id).saved = .frame ∧
    i ≠ .beginTick ∨ (w.reads id).due = .frame ∧ i = .beginTick) := by
  have htraced := traceAfter_traced w id hi
  generalize w.traceAfter e id = t at htraced h ⊢
  cases htraced with
  | stands _ _ _ hbegin | moved hbegin | succeeded hbegin | counted hbegin =>
    exact ⟨rfl, .inl ⟨h, hbegin⟩⟩
  | framed _ hframe =>
    obtain ⟨_, _, _, _, rfl⟩ := hframe
    exact ⟨rfl, .inl ⟨h, nofun⟩⟩
  | returned => exact absurd h (DueBy.returned_ne_frame _)
  | begun hbegin => exact ⟨rfl, .inr ⟨h, hbegin⟩⟩

theorem unsettled_of_traceAfter (hi : e.what = .input i)
    (h : (w.reads id).due = .backoff → (w.reads id).unsettled)
    (hafter : (w.traceAfter e id).due = .backoff) : (w.traceAfter e id).unsettled := by
  have htraced := traceAfter_traced w id hi
  generalize w.traceAfter e id = t at htraced hafter ⊢
  cases htraced with
  | stands | begun => exact h hafter
  | framed | moved | succeeded => cases hafter
  | counted | returned => rfl

theorem frame_get? (w : WatchedHub) (id : VehicleId) {target : VehicleId} {shift : Option String}
    {speed : Option ℚ} {power : Option ℤ} (he : e.what = .input (.frame target shift speed power)) :
    (w.hub.step e).scheduler.vehicles.get? id = if id = target then
      (w.hub.scheduler.vehicles.get? id).map (·.applyFrameEvidence w.hub.scheduler.timing
        (FrameEvidence.fromStream shift speed power) e.time.now (w.hub.scheduler.wallOrLast e.time))
      else w.hub.scheduler.vehicles.get? id := by
  unfold Hub.step
  rw [he]
  exact OrderedMap.get?_modify

theorem frame_spaced (h : w.Spaced) {target : VehicleId} {shift : Option String}
    {speed : Option ℚ} {power : Option ℤ} (he : e.what = .input (.frame target shift speed power))
    (hguard : w.framesFindSuccess e) (hset : (w.hub.step e).readDue id ≠ w.hub.readDue id)
    (hdue : (w.hub.step e).readDue id = some due) (hr : (w.reads id).returned = some r) :
    r+w.hub.scheduler.timing.minReadSpacing ≤ due := by
  have hcar := frame_get? w id he
  by_cases hid : id = target
  · subst hid
    rw [if_pos rfl] at hcar
    cases hv : w.hub.scheduler.vehicles.get? id with
    | none =>
      unfold Hub.readDue at hdue
      rw [hcar, hv] at hdue
      cases hdue
    | some v =>
    rw [hv, map_some] at hcar
    unfold Hub.readDue at hdue hset
    rw [hcar, bind_some] at hdue hset
    rw [hv, bind_some] at hset
    unfold framesFindSuccess at hguard
    rw [he] at hguard
    simp only [hv, hr, all_some, Bool.or_eq_true, Bool.and_eq_true, decide_eq_true_eq] at hguard
    obtain ⟨_, hnow, hsuccess⟩ := hguard.resolve_left fun hkeeps =>
      hset (ScheduledVehicle.nextReadDue_of_keepsDue h.timing hkeeps)
    obtain ⟨last, hlast, hle⟩ := (any_eq_true _ _).mp hsuccess
    exact (v.applyFrameEvidence_evidenced _ _ _ _).spaced h.timing hlast (of_decide_eq_true hle)
      hnow hdue hset
  · unfold Hub.readDue at hset
    rw [hcar, if_neg hid] at hset
    exact absurd rfl hset

theorem frame_keeps_unsettled (h : w.Spaced) {shift : Option String} {speed : Option ℚ}
    {power : Option ℤ} (he : e.what = .input (.frame id shift speed power))
    (hguard : w.framesFindSuccess e) (hunsettled : (w.reads id).unsettled) :
    (w.hub.step e).readDue id = w.hub.readDue id := by
  unfold Hub.readDue
  rw [frame_get? _ _ he, if_pos rfl]
  cases hv : w.hub.scheduler.vehicles.get? id with
  | none => rfl
  | some v =>
    unfold framesFindSuccess at hguard
    rw [he] at hguard
    simp only [hv, hunsettled, all_some, Bool.not_true, Bool.false_and, Bool.or_false] at hguard
    exact ScheduledVehicle.nextReadDue_of_keepsDue h.timing hguard

theorem Spaced.start (store : CollectorStore) (process : ProcessStart) (m : Moment) :
    (start store process m).Spaced where
  timing := by
    have htiming : (WatchedHub.start store process m).hub.scheduler.timing = _ :=
      (Hub.start_loaded store process m).timing
    rw [htiming]
    exact Timing.new_spacingIsFastest process.cadence process.mode process.fleet
  due := fun _ _ _ hdue => nomatch hdue
  saved := fun _ _ _ _ _ hsaved => nomatch hsaved
  inFlight := fun _ _ hdue => nomatch hdue
  backoff := fun _ hdue => nomatch hdue

theorem contains_of_readDue {hub : Hub} (h : hub.readDue id = some due) :
    hub.scheduler.vehicles.contains id = true := by
  obtain ⟨v, hv, _⟩ := bind_eq_some_iff.mp h
  exact isSome_iff_exists.mpr ⟨v, hv⟩

theorem guard_of_frameReadsEnd (hends : w.frameReadsEnd e) (hdue : w.hub.readDue id = some due) :
    (match e.what with
    | .input i => (w.reads id).due ≠ .frameReturned || w.endsFrameRead id e.time i
    | .commit needsStore transaction =>
      w.hub.scheduler.tickOutcome needsStore transaction e.time ≠ .failed ||
        !w.hub.scheduler.baseline.isSome ||
        (w.reads id).saved ≠ .frameReturned || id ∈ w.hub.scheduler.inFlightIds
    | _ => true) = true := by
  exact List.all_eq_true.mp hends id (OrderedMap.mem_keys.mpr (contains_of_readDue hdue))

/-- The mark of a car stays where its frame's read does, by what the guard lets the input be. -/
theorem endsRequest_of_endsFrameRead (hi : e.what = .input i) (hguard : w.endsFrameRead id e.time i)
    (hdue : (w.hub.step e).readDue id = some due) (hwas : w.hub.readDue id = some due)
    (hsuccess : i.succeeds id = false)
    (hcounted : i.mayCount → ¬ w.hub.failures id < (w.hub.step e).failures id) :
    w.hub.endsRequest id e = false := by
  obtain ⟨v, hv⟩ := isSome_iff_exists.mp (contains_of_readDue hwas)
  obtain ⟨howner, hanswer⟩ := Bool.and_eq_true_iff.mp hguard
  have hreports : i.reports id = true → i.mayCount = true := by cases i <;> simp [Input.reports,
      Input.mayCount]
  have hanswers : i.answers id = false := by
    rcases Bool.or_eq_true_iff.mp hanswer with h | h
    · exact (Bool.not_eq_true' _).mp h
    · cases i with
      | readSucceeded target => exact hsuccess
      | readFailed target error =>
        by_contra hne
        have htarget : target = id := by simpa [Input.answers] using hne
        subst htarget
        obtain ⟨w', hw', hlt⟩ := vehicleFailedForError_counts h hv
        have hstep : (w.hub.step e).scheduler.vehicles.get? target = some w' := by
          unfold Hub.step
          rw [hi]
          exact hw'
        refine hcounted rfl ?_
        unfold Hub.failures
        rw [hv, hstep]
        exact hlt
      | _ => cases h
  unfold Hub.endsRequest
  rw [hi, contains_of_readDue hdue]
  simp only [hanswers, Bool.not_true, Bool.false_or, Bool.or_eq_false_iff, Bool.and_eq_false_iff,
    decide_eq_false_iff_not]
  refine ⟨?_, ?_⟩
  · cases hr : i.reports id with
    | false => exact .inl rfl
    | true => exact .inr (hcounted (hreports hr))
  · simp only [Bool.not_eq_true', Bool.and_eq_false_iff] at howner
    exact .inl howner

/-- A guarded input keeps the due times of frames spaced. -/
theorem Spaced.input (h : w.Spaced) (hi : e.what = .input i) (hguard : w.guarded e) :
    (w.step e).Spaced := by
  obtain ⟨hframes, hends⟩ := Bool.and_eq_true_iff.mp hguard
  have hscheduler : (w.step e).hub.scheduler = w.hub.scheduler.react e.time i := by
    change (w.hub.step e).scheduler = _
    unfold Hub.step
    rw [hi]
  have htiming : (w.step e).hub.scheduler.timing = w.hub.scheduler.timing := by
    rw [hscheduler]
    exact w.hub.scheduler.react_timing e.time i
  refine ⟨htiming ▸ h.timing, ?_, ?_, fun id due hafter hdue => ?_,
    fun id => unsettled_of_traceAfter hi (h.backoff id)⟩
  · intro id due r hframe hdue hr
    rw [htiming]
    obtain ⟨hreturned, ⟨hsame, hwas⟩ | ⟨hset, target, shift, speed, power, rfl⟩⟩ :=
      frame_of_traceAfter hi hframe
    · exact h.due id due r hwas (hsame ▸ hdue) (hreturned ▸ hr)
    · exact frame_spaced h hi hframes hset hdue (hreturned ▸ hr)
  · intro id base b due r hsaved hbase hb hdue hr
    rw [htiming]
    obtain ⟨hreturned, ⟨hwas, hne⟩ | ⟨hwas, rfl⟩⟩ := saved_of_traceAfter hi hsaved
    · have hkept := baseline_eq_of_frame (w.hub.scheduler.react_frame e.time i hne)
      rw [hscheduler] at hbase
      exact h.saved id base b due r hwas (hkept.symm.trans hbase) hb hdue (hreturned ▸ hr)
    · rw [hscheduler] at hbase
      cases hbase
      obtain ⟨v, hv, rfl⟩ := Hub.captureBaseline_get? hb
      refine h.due id due r hwas ?_ (hreturned ▸ hr)
      unfold Hub.readDue
      rw [hv]
      exact hdue
  · rcases frameReturned_of_traceAfter hi hafter with hin | ⟨hsame, hwas, hsuccess, hcounted⟩
    · exact Hub.mem_inFlightIds_of_handsOut hin
    · have hbefore : w.hub.readDue id = some due := hsame.symm.trans hdue
      have hmeets := w.guard_of_frameReadsEnd hends hbefore
      rw [hi] at hmeets
      simp only [hwas, ne_eq, not_true_eq_false, decide_false, Bool.false_or] at hmeets
      exact Hub.step_mem_inFlightIds (h.inFlight id due hwas hbefore)
        (endsRequest_of_endsFrameRead hi hmeets hdue hbefore hsuccess hcounted)

theorem readDue_of_rollBack {s : VehicleScheduler} {base : TickBaseline}
    (hbase : s.baseline = some base) {v : ScheduledVehicle}
    (hv : s.rollBack.vehicles.get? id = some v) :
    ∃ b, base.vehicles.get? id = some b ∧ v.nextReadDue = b.nextReadDue := by
  rw [rollBack_vehicles, hbase, elim_some, OrderedMap.get?_map, OrderedMap.get?_filter] at hv
  obtain ⟨v₀, hv₀, rfl⟩ := map_eq_some_iff.mp hv
  obtain ⟨_, hin⟩ := filter_eq_some_iff.mp hv₀
  obtain ⟨b, hb⟩ := isSome_iff_exists.mp (show (base.vehicles.get? id).isSome from hin)
  rw [hb]
  exact ⟨b, rfl, rfl⟩

theorem rollBack_known {s : VehicleScheduler} {v : ScheduledVehicle}
    (hv : s.rollBack.vehicles.get? id = some v) : id ∈ s.vehicles.keys := by
  rw [OrderedMap.mem_keys]
  rw [rollBack_vehicles] at hv
  cases hbase : s.baseline with
  | none =>
    rw [hbase] at hv
    exact isSome_iff_exists.mpr ⟨v, hv⟩
  | some base =>
    rw [hbase, elim_some, OrderedMap.get?_map, OrderedMap.get?_filter] at hv
    obtain ⟨v₀, hv₀, rfl⟩ := map_eq_some_iff.mp hv
    exact isSome_iff_exists.mpr ⟨v₀, (filter_eq_some_iff.mp hv₀).1⟩

/-- A commit that fails brings back due times that were spaced when they were saved. -/
theorem Spaced.committed (h : w.Spaced) {outcome : TickOutcome}
    {out : VehicleScheduler × PendingTick} (hc : w.hub.scheduler.Committed e.time outcome out)
    (hhub : (w.hub.step e).scheduler = out.1)
    (hreads : ∀ id, w.traceAfter e id = (w.reads id).afterCommit
    w.hub.scheduler.baseline.isSome outcome) (hinput : ∀ i, e.what ≠ .input i)
    (hends : ∀ id ∈ w.hub.scheduler.vehicles.keys, outcome = .failed →
    w.hub.scheduler.baseline.isSome → (w.reads id).saved = .frameReturned →
    id ∈ w.hub.scheduler.inFlightIds) : (w.step e).Spaced := by
  have htiming : (w.step e).hub.scheduler.timing = w.hub.scheduler.timing := hhub ▸ hc.mode_timing.2
  have htrace (id : VehicleId) : (w.step e).reads id =
      (w.reads id).afterCommit w.hub.scheduler.baseline.isSome outcome := hreads id
  have hdueAt (id : VehicleId) : (w.step e).hub.readDue id = (out.1.vehicles.get? id).bind
      (·.nextReadDue) := by
    change ((w.hub.step e).scheduler.vehicles.get? id).bind _ = _
    rw [hhub]
  have hbaseline : (w.step e).hub.scheduler.baseline = out.1.baseline := congrArg baseline hhub
  -- a new baseline keeps what is in force, with what set it
  have hcaptured (s : VehicleScheduler) (hs : s.vehicles = w.hub.scheduler.vehicles)
      (id : VehicleId)
      (base : TickBaseline) (b : VehicleBaseline) (due r : Instant) (hwas : (w.reads id).due =
        .frame)
      (hbase : some s.captureBaseline = some base)
      (hb : base.vehicles.get? id = some b) (hdue : b.nextReadDue = some due)
        (hr : (w.reads id).returned = some r) :
      r+w.hub.scheduler.timing.minReadSpacing ≤ due := by
    cases hbase
    obtain ⟨v, hv, rfl⟩ := Hub.captureBaseline_get? hb
    refine h.due id due r hwas ?_ hr
    unfold Hub.readDue
    rw [← hs, hv]
    exact hdue
  -- a commit ends no request, so a car that was in flight still is
  have hmark (id : VehicleId) (due : Instant) (hdue : (w.step e).hub.readDue id = some due)
      (hin : id ∈ w.hub.scheduler.inFlightIds) : id ∈ (w.step e).hub.scheduler.inFlightIds := by
    have hknown : (w.hub.step e).scheduler.vehicles.contains id = true := contains_of_readDue hdue
    refine Hub.step_mem_inFlightIds hin ?_
    unfold Hub.endsRequest
    rw [hknown]
    cases hwhat : e.what with
    | input i => exact absurd hwhat (hinput i)
    | _ => rfl
  refine ⟨htiming ▸ h.timing, ?_, ?_, ?_, ?_⟩
  · intro id due r hframe hdue hr
    rw [htrace] at hframe hr
    rw [hdueAt] at hdue
    rw [htiming]
    cases hc with
    | idle => exact h.due id due r hframe hdue hr
    | succeeded otherWrites => exact h.due id due r hframe hdue hr
    | renewed => exact h.due id due r hframe hdue hr
    | failed otherWrites =>
      rw [commitFailed_vehicles] at hdue
      cases hbase : w.hub.scheduler.baseline with
      | none =>
        rw [hbase] at hframe hr
        rw [rollBack_vehicles, show (w.hub.scheduler.takeTick e.time).1.baseline =
          none from hbase] at hdue
        exact h.due id due r hframe hdue hr
      | some base =>
        rw [hbase] at hframe hr
        obtain ⟨v, hv, hdue⟩ := bind_eq_some_iff.mp hdue
        obtain ⟨b, hb, hsame⟩ := readDue_of_rollBack
          (show (w.hub.scheduler.takeTick e.time).1.baseline = some base from hbase) hv
        exact h.saved id base b due r hframe hbase hb (hsame.symm.trans hdue) hr
  · intro id base b due r hsaved hbase hb hdue hr
    rw [htrace] at hsaved hr
    rw [hbaseline] at hbase
    rw [htiming]
    cases hc with
    | idle => exact h.saved id base b due r hsaved hbase hb hdue hr
    | succeeded otherWrites =>
      refine hcaptured _ ?_ id base b due r hsaved hbase hb hdue hr
      rfl
    | renewed => exact hcaptured _ rfl id base b due r hsaved hbase hb hdue hr
    | failed otherWrites =>
      cases hbase
  · intro id due hafter hdue
    refine hmark id due hdue ?_
    rw [htrace] at hafter
    rw [hdueAt] at hdue
    cases hc with
    | idle => exact h.inFlight id due hafter hdue
    | succeeded otherWrites => exact h.inFlight id due hafter hdue
    | renewed => exact h.inFlight id due hafter hdue
    | failed otherWrites =>
      rw [commitFailed_vehicles] at hdue
      cases hbase : w.hub.scheduler.baseline with
      | none =>
        rw [hbase] at hafter
        rw [rollBack_vehicles, show (w.hub.scheduler.takeTick e.time).1.baseline =
          none from hbase] at hdue
        exact h.inFlight id due hafter hdue
      | some base =>
        rw [hbase] at hafter
        obtain ⟨v, hv, _⟩ := bind_eq_some_iff.mp hdue
        exact hends id (rollBack_known (s := (w.hub.scheduler.takeTick e.time).1) hv) rfl
          (by rw [hbase]; rfl) hafter
  · intro id hbackoff
    rw [htrace] at hbackoff ⊢
    cases hc with
    | idle => exact h.backoff id hbackoff
    | succeeded otherWrites => exact h.backoff id hbackoff
    | renewed => exact h.backoff id hbackoff
    | failed otherWrites =>
      unfold ReadTrace.afterCommit at hbackoff ⊢
      dsimp only at hbackoff ⊢
      split at hbackoff
      · rename_i hsome
        rw [if_pos hsome]
        simp [show (w.reads id).saved = .backoff from hbackoff]
      · rename_i hnone
        rw [if_neg hnone]
        exact h.backoff id hbackoff

/-- Every guarded event keeps them spaced. -/
theorem Spaced.step (h : w.Spaced) (hguard : w.guarded e) : (w.step e).Spaced := by
  obtain ⟨time, what⟩ := e
  have hends := (Bool.and_eq_true_iff.mp hguard).2
  cases what with
  | input i => exact h.input rfl hguard
  | commit needsStore transaction =>
    refine h.committed (w.hub.scheduler.commitTick_committed needsStore transaction time) rfl
      (fun _ => rfl) nofun ?_
    intro id hid houtcome hbase hsaved
    have hmeets := List.all_eq_true.mp hends id hid
    simpa [houtcome, hbase, hsaved] using hmeets
  | stop recorded =>
    refine h.committed (w.hub.scheduler.finishRun_committed recorded time) rfl (fun _ => rfl) nofun
      ?_
    intro id _ houtcome
    cases recorded <;> cases houtcome
  | start process => exact Spaced.start w.hub.store process time

theorem Spaced.returned (h : w.Spaced) {look : Moment}
    (hin : id ∈ (w.hub.scheduler.dueVehicles look).2) (hframe : (w.reads id).due.isFrame)
    (hstands : ((w.hub.scheduler.dueVehicles look).1.vehicles.get? id).bind (·.nextReadDue) =
    w.hub.readDue id) (hr : (w.reads id).returned = some r) :
    r+w.hub.scheduler.timing.minReadSpacing ≤ look.now := by
  obtain ⟨v, due, hv, _, hhold, hflight, hdue, hle⟩ := of_mem_dueVehicles hin
  have hread : w.hub.readDue id = some due := by
    rw [← hstands, dueVehicles_get?, hv, map_some, if_pos hin, bind_some]
    exact hdue
  cases hby : (w.reads id).due with
  | frame => exact le_trans (h.due id due r hby hread hr) hle
  | frameReturned =>
    -- a read whose frame time still stands is in flight, and due reads are not
    obtain ⟨v', hv', hbusy⟩ := mem_inFlightIds.mp (h.inFlight id due hby hread)
    cases hv.symm.trans hv'
    rw [ScheduledVehicle.advanceTimers_inFlight, hbusy] at hflight
    cases hflight
  | other | backoff =>
    rw [hby] at hframe
    cases hframe

/-- Stream evidence never makes the Hub faster than its fastest cadence, and a frame leaves the
back-off of a counted failure as it is. -/
theorem evidence_reads_keep_the_spacing (store : CollectorStore) (process : ProcessStart)
    (m : Moment) (es : List Event)
    (hguard : RunRules.Along step (fun w e => w.guarded e = true) (start store process m) es) :
    (∀ look id r, id ∈ (((start store process m).run es).hub.scheduler.dueVehicles look).2 →
      (((start store process m).run es).reads id).due.isFrame = true →
      ((((start store process m).run es).hub.scheduler.dueVehicles look).1.vehicles.get? id).bind
        (·.nextReadDue) = ((start store process m).run es).hub.readDue id →
      (((start store process m).run es).reads id).returned = some r →
        r+((start store process m).run es).hub.scheduler.timing.minReadSpacing ≤ look.now) ∧
    ∀ e id shift speed power, e.what = .input (.frame id shift speed power) →
      ((start store process m).run es).guarded e = true →
      (((start store process m).run es).reads id).due = .backoff →
        (((start store process m).run es).hub.step e).readDue id =
          ((start store process m).run es).hub.readDue id := by
  have hrun : ((start store process m).run es).Spaced :=
    RunRules.foldl_invariant (fun w e h hg => h.step hg) (Spaced.start store process m) hguard
  refine ⟨fun look id r hin hframe hstands hr => hrun.returned hin hframe hstands hr, ?_⟩
  intro e id shift speed power he hguarded hbackoff
  exact frame_keeps_unsettled hrun he (Bool.and_eq_true_iff.mp hguarded).1
    (hrun.backoff id hbackoff)

def movesAfterRead : List Event :=
  [Input.atSecond 1 (.list [.reported 1 .online]), Input.atSecond 1 .dueReads,
    Input.atSecond 2 (.readSucceeded 1 .online true),
      Input.atSecond 5 (.frame 1 (some "D") (some 20) none)]

theorem evidence_reads_keep_the_spacing_movesAfterRead :
    1 ∈ (((start {} (.default .legacy []) (.atSecond 0)).run
    movesAfterRead).hub.scheduler.dueVehicles (.atSecond 12)).2 ∧
    (((start {} (.default .legacy []) (.atSecond 0)).run movesAfterRead).reads 1).due.isFrame =
    true ∧ secs 1+((start {} (.default .legacy []) (.atSecond 0)).run
    movesAfterRead).hub.scheduler.timing.minReadSpacing ≤ secs 12 := by
  have hin : 1 ∈ (((start {} (.default .legacy []) (.atSecond 0)).run
      movesAfterRead).hub.scheduler.dueVehicles
      (.atSecond 12)).2 := by decide +kernel
  have hframe : (((start {} (.default .legacy []) (.atSecond 0)).run movesAfterRead).reads
      1).due.isFrame := by
    decide +kernel
  have hspaced := (evidence_reads_keep_the_spacing {} (.default .legacy []) (.atSecond 0)
      movesAfterRead
    (by decide +kernel)).1 (.atSecond 12) 1 (secs 1) hin hframe (by decide +kernel)
      (by decide +kernel)
  exact ⟨hin, hframe, hspaced⟩

def drivingReadFails : List Event :=
  [Input.atSecond 1 (.list [.reported 1 .online]), Input.atSecond 1 .dueReads,
    Input.atSecond 2 (.readSucceeded 1 .driving false), Input.atSecond 12 .dueReads,
    Input.atSecond 13 (.readFailed 1 (.ownerApi (.httpStatus 500)))]

def parkedFrame (seconds : ℕ) : Event := Input.atSecond seconds (.frame 1 (some "P") none none)

/-- After the failed read the frame of a stopped car brings the back-off forward, to two seconds
behind the read before. -/
theorem frame_beats_the_spacing_after_a_failed_read :
    let failed := (start {} (.default .legacy []) (.atSecond 0)).run drivingReadFails
    let parked := failed.step (parkedFrame 14)
    (failed.reads 1).due = .backoff ∧ failed.hub.readDue 1 = some (secs 23) ∧ parked.hub.readDue 1 =
      some (secs 14) ∧
      1 ∈ (parked.hub.scheduler.dueVehicles (.atSecond 14)).2 ∧ (parked.reads 1).due = .frame ∧
      (parked.reads 1).returned = some (secs 12) ∧ parked.hub.scheduler.timing.minReadSpacing =
        secs 10 := by
  decide +kernel

end WatchedHub

end TeslatlasHub.Collector
