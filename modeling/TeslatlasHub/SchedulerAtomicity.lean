import TeslatlasHub.RunRules
import TeslatlasHub.SchedulerFrames

namespace TeslatlasHub.Collector

open VehicleScheduler List Option OrderedMap

/-! ### What a failed commit returns to, and what the committed ones wrote -/

structure Journal where
  /-- The covered fields at the latest of the begin of the tick, its last successful commit and its
  last renewed baseline. -/
  mark : Option TickBaseline := none
  /-- The store and the persisted views the process was loaded from. -/
  start : Hub
  /-- The ticks of the committed transactions, oldest first. -/
  committed : List PendingTick := []

namespace Journal

variable (j : Journal)

def afterCommit (outcome : TickOutcome) (out : VehicleScheduler × PendingTick) : Journal :=
  match outcome with
  | .idle | .failed => j
  | .committed true =>
    { j with mark := some out.1.captureBaseline, committed := j.committed++[out.2] }
  | .committed false => { j with mark := some out.1.captureBaseline }

def next (hub : Hub) (e : Event) : Journal :=
  match e.what with
  | .input .beginTick => { j with mark := some hub.scheduler.captureBaseline }
  | .input _ => j
  | .commit needsStore transaction =>
    j.afterCommit (hub.scheduler.tickOutcome needsStore transaction e.time)
      (hub.scheduler.commitTick needsStore transaction e.time)
  | .stop recorded =>
    j.afterCommit (if recorded then .committed true else .idle)
      (hub.scheduler.finishRun recorded e.time)
  | .start process => { start := Hub.start hub.store process e.time }

def account : AccountView :=
  ((j.committed.filterMap (·.account)).getLast?.map (·.view)).getD
    j.start.scheduler.persistedAccount

def vehicle (id : VehicleId) : Option VehicleView :=
  (((j.committed.flatMap (·.vehicles)).filter (·.id = id)).getLast?.map (·.view)).or
    (j.start.scheduler.persistedVehicles.get? id)

def gapAfter (key : GapKey) (gap : Option OpenGap) (tick : PendingTick) : Option OpenGap :=
  if tick.gapCloses.any (·.key = key) then none
  else ((tick.gapOpens.filter (·.key = key)).getLast?.map fun opened =>
    ⟨opened.startedMs, opened.alert, opened.hubId⟩).or gap

def gap (key : GapKey) : Option OpenGap :=
  j.committed.foldl (gapAfter key) (j.start.scheduler.openGaps.get? key)

end Journal

namespace AccountRecord

variable (a : AccountRecord)

end AccountRecord

namespace VehicleScheduler

variable (s : VehicleScheduler)

end VehicleScheduler

namespace Journal

structure Keeps (hub : Hub) (j : Journal) : Prop where
  mark : ∀ base, hub.scheduler.baseline = some base → j.mark = some base
  account : hub.scheduler.persistedAccount = j.account
  vehicles : ∀ id, hub.scheduler.persistedVehicles.get? id = j.vehicle id
  gaps : ∀ key, hub.scheduler.openGaps.get? key = j.gap key
  store : hub.store = j.committed.foldl CollectorStore.write j.start.store

theorem Keeps.of_start (hub : Hub) (h : hub.scheduler.baseline = none) :
    Keeps hub { start := hub } where
  mark base hbase := by
    rw [h] at hbase
    cases hbase
  account := rfl
  vehicles _ := rfl
  gaps _ := rfl
  store := rfl

theorem Keeps.of_frame {hub hub' : Hub} {j : Journal} (h : Keeps hub j)
    (hframe : hub'.scheduler.frame = hub.scheduler.frame) (hstore : hub'.store = hub.store) :
    Keeps hub' j where
  mark base hbase := h.mark base ((VehicleScheduler.baseline_eq_of_frame hframe).symm.trans hbase)
  account := (congrArg Frame.persistedAccount hframe).trans h.account
  vehicles id := (congrArg (fun frame : Frame => frame.persistedVehicles.get? id) hframe).trans
    (h.vehicles id)
  gaps key := (congrArg (fun frame : Frame => frame.openGaps.get? key) hframe).trans (h.gaps key)
  store := hstore.trans h.store

variable (j : Journal) (mark : Option TickBaseline) (tick : PendingTick)

theorem account_append : account { j with mark, committed := j.committed++[tick] } =
    tick.account.elim j.account (·.view) := by
  unfold account
  cases h : tick.account with
  | none => simp [h]
  | some write => simp [h]

theorem vehicle_append (id : VehicleId) : vehicle { j with mark, committed := j.committed++[tick] }
    id =
    ((tick.vehicles.filter (·.id = id)).getLast?.map (·.view)).or (j.vehicle id) := by
  unfold vehicle
  rw [flatMap_append, filter_append, getLast?_append, map_or, Option.or_assoc]
  simp

theorem gap_append (key : GapKey) : gap { j with mark, committed := j.committed++[tick] } key =
    gapAfter key (j.gap key) tick := by
  unfold gap
  rw [foldl_append]
  rfl

theorem get?_putViews (views : OrderedMap VehicleId VehicleView) (writes : List VehicleWrite)
    (id : VehicleId) : (VehicleScheduler.putViews views writes).get? id =
      ((writes.filter (·.id = id)).getLast?.map (·.view)).or (views.get? id) :=
  get?_foldl_insert _ _ writes

theorem get?_putGaps (gaps : OrderedMap GapKey OpenGap) (key : GapKey) :
    (VehicleScheduler.putGaps gaps tick).get? key = gapAfter key (gaps.get? key) tick := by
  unfold putGaps gapAfter
  rw [get?_foldl_erase (fun close : GapClose => close.key),
    get?_foldl_insert (fun opened : GapOpen => opened.key)
      (fun opened => (⟨opened.startedMs, opened.alert, opened.hubId⟩ : OpenGap))]
  -- keys are compared by the order of the map on one side and field by field on the other
  congr!

theorem Keeps.afterCommit {hub : Hub} {j : Journal} (h : Keeps hub j) {m : Moment}
    {outcome : TickOutcome} {out : VehicleScheduler × PendingTick}
    (hc : hub.scheduler.Committed m outcome out) :
    Keeps ⟨hub.store.write out.2, out.1⟩ (j.afterCommit outcome out) := by
  cases hc with
  | idle => exact ⟨h.mark, h.account, h.vehicles, h.gaps, h.store⟩
  | failed otherWrites =>
    have hframe := commitFailed_eq (hub.scheduler.takeTick m).1 m.now
        (hub.scheduler.handedTick otherWrites m)
    have hback : (hub.scheduler.takeTick m).1.rollBack.persistedAccount =
        hub.scheduler.persistedAccount ∧
        (hub.scheduler.takeTick m).1.rollBack.persistedVehicles = hub.scheduler.persistedVehicles ∧
        (hub.scheduler.takeTick m).1.rollBack.openGaps = hub.scheduler.openGaps := by
      unfold rollBack
      cases (hub.scheduler.takeTick m).1.baseline <;> exact ⟨rfl, rfl, rfl⟩
    refine ⟨fun base hbase => ?_, ?_, fun id => ?_, fun key => ?_, h.store⟩
    · cases hbase
    · rw [hframe]
      exact hback.1.trans h.account
    · rw [hframe]
      rw [hback.2.1]
      exact h.vehicles id
    · rw [hframe]
      rw [hback.2.2]
      exact h.gaps key
  | succeeded otherWrites =>
    refine ⟨fun base hbase => hbase, ?_, fun id => ?_, fun key => ?_, ?_⟩
    · refine Eq.trans ?_ (account_append j _ _).symm
      rw [← h.account]
      rfl
    · refine Eq.trans ?_ (vehicle_append j _ _ id).symm
      rw [← h.vehicles id]
      exact get?_putViews _ _ id
    · refine Eq.trans ?_ (gap_append j _ _ key).symm
      rw [← h.gaps key]
      exact get?_putGaps _ _ key
    · change hub.store.write _ = foldl CollectorStore.write j.start.store (j.committed++[_])
      rw [foldl_append, ← h.store]
      rfl
  | renewed => exact ⟨fun base hbase => hbase, h.account, h.vehicles, h.gaps, h.store⟩

/-- Every event keeps the baseline what the journal marked. -/
theorem Keeps.step {hub : Hub} {j : Journal} (h : Keeps hub j) (e : Event) :
    Keeps (hub.step e) (j.next hub e) := by
  obtain ⟨time, what⟩ := e
  cases what with
  | input i =>
    cases i with
    | beginTick => exact ⟨fun base hbase => hbase, h.account, h.vehicles, h.gaps, h.store⟩
    | _ => exact h.of_frame (hub.scheduler.react_frame _ _ (by simp)) rfl
  | commit needsStore transaction =>
    exact h.afterCommit (hub.scheduler.commitTick_committed needsStore transaction time)
  | stop recorded => exact h.afterCommit (hub.scheduler.finishRun_committed recorded time)
  | start process => exact Keeps.of_start _ (Hub.start_loaded hub.store process time).baseline

end Journal

namespace Hub

def journal (process : ProcessStart) (m : Moment) (es : List Event) : Journal :=
  RunRules.follow step (fun hub e j => j.next hub e) (first process m) { start := first process m }
    es

end Hub

end TeslatlasHub.Collector
