import TeslatlasHub.LastWrite
import TeslatlasHub.LineageProtocol

/-! The journal of mutations of one vehicle's rows, and the deltas that are built from it. -/
namespace TeslatlasHub.LiveSync

inductive Table where
  | drive
  | position
  | charge
  | chargeSample
  | state
  | update
  deriving DecidableEq

inductive Entity where
  | car
  | carSetting
  | geofence
  | address
  | row (table : Table)
  deriving DecidableEq

def Table.name : Table → String
  | drive => "drive"
  | position => "position"
  | charge => "charge"
  | chargeSample => "charge_sample"
  | state => "state"
  | update => "update"

def Entity.name : Entity → String
  | car => "car"
  | carSetting => "car_setting"
  | geofence => "geofence"
  | address => "address"
  | row table => table.name

inductive Operation where
  | upsert
  | tombstone
  deriving DecidableEq

structure ProjectionCar (C S : Type) where
  id : ℤ
  content : C
  settings : S
  deriving DecidableEq

structure ProjectionRow (C : Type) where
  id : ℤ
  content : C
  deriving DecidableEq

inductive Payload (C S : Type) where
  | car (car : ProjectionCar C S)
  | settings (settings : S)
  | row (row : ProjectionRow C)
  deriving DecidableEq

structure SyncMutation (C S : Type) where
  vehicleId : Uuid
  revision : ℕ
  entity : Entity
  (entityId carId : ℤ)
  operation : Operation
  payload : Payload C S
  deriving DecidableEq

inductive StoreError where
  | nilVehicleId
  | lineageCatalogConflict
  | lineageCatalog
  | lineageCapacityExhausted
  | lineageCompactionUnavailable
  | lineagePackNotReady
  | deserializeLifecycleRow
  | syncMutation (message : String)
  | manifest (error : ProtocolError)
  deriving DecidableEq

section Payloads

variable {C S : Type}

def Payload.asCar : Payload C S → Except StoreError (ProjectionCar C S)
  | car c => .ok c
  | _ => .error .deserializeLifecycleRow

def Payload.asSettings : Payload C S → Except StoreError S
  | settings s => .ok s
  | _ => .error .deserializeLifecycleRow

def Payload.asRow : Payload C S → Except StoreError (ProjectionRow C)
  | row r => .ok r
  | _ => .error .deserializeLifecycleRow

end Payloads

structure ProjectionCarSettingsPatch (S : Type) where
  carId : ℤ
  settings : S

structure ProjectionTombstone where
  entity : Entity
  (id carId : ℤ)

structure ProjectionBinding where
  (installationId accountId vehicleId : Uuid)
  generation : ℕ
  selectedCarId : ℤ
  deriving DecidableEq

structure ProjectionDelta (D C S : Type) where
  binding : ProjectionBinding
  sequence : SequenceRange
  parentDigest : D
  cars : List (ProjectionCar C S)
  carSettings : List (ProjectionCarSettingsPatch S)
  rows : Table → List (ProjectionRow C)
  tombstones : List ProjectionTombstone

structure LiveDeltaCompactionSpan (D : Type) where
  delta : LineageDelta D
  (fromRevision toRevision : ℕ)
  deriving DecidableEq

structure LiveDeltaCompactionPlan (D C S : Type) where
  (vehicleId baseSnapshotId : Uuid)
  anchorSequence : ℕ
  anchorDigest : D
  headSequence : ℕ
  headDigest : D
  (firstOrdinal fromRevision toRevision : ℕ)
  mutations : List (SyncMutation C S)
  replacedSpans : List (LiveDeltaCompactionSpan D)

variable {D C S : Type}

namespace ProjectionDelta

def empty (binding : ProjectionBinding) (sequence : SequenceRange) (parentDigest : D) :
    ProjectionDelta D C S :=
  ⟨binding, sequence, parentDigest, [], [], fun _ => [], []⟩

variable (delta : ProjectionDelta D C S)

def rowCount : ℕ :=
  delta.cars.length+delta.carSettings.length+(delta.rows .drive).length+(delta.rows
    .position).length+
    (delta.rows .charge).length+(delta.rows .chargeSample).length+(delta.rows .state).length+
    (delta.rows .update).length+delta.tombstones.length

def isEmpty : Bool := delta.rowCount = 0

def pushCar (car : ProjectionCar C S) : ProjectionDelta D C S :=
  { delta with cars := delta.cars++[car] }

def pushSettings (patch : ProjectionCarSettingsPatch S) : ProjectionDelta D C S :=
  { delta with carSettings := delta.carSettings++[patch] }

def pushRow (table : Table) (row : ProjectionRow C) : ProjectionDelta D C S :=
  { delta with rows := Function.update delta.rows table (delta.rows table++[row]) }

def pushTombstone (tombstone : ProjectionTombstone) : ProjectionDelta D C S :=
  { delta with tombstones := delta.tombstones++[tombstone] }

end ProjectionDelta

namespace SyncMutation

def key (m : SyncMutation C S) : Entity × ℤ := (m.entity, m.entityId)

def sortsBefore (a b : SyncMutation C S) : Prop :=
  a.revision < b.revision ∨ (a.revision = b.revision ∧ (a.entity.name < b.entity.name ∨
    (a.entity.name = b.entity.name ∧ a.entityId ≤ b.entityId)))

instance : DecidableRel (sortsBefore (C := C) (S := S)) := fun _ _ => by
  unfold sortsBefore
  infer_instance

end SyncMutation

def keepNewest (final : List (SyncMutation C S)) (m : SyncMutation C S) : List (SyncMutation C S) :=
  if final.any (fun other => other.key = m.key) then
    final.map fun other => if other.key = m.key ∧ other.revision < m.revision then m else other
  else final++[m]

namespace LiveDeltaCompactionPlan

def finalMutations (plan : LiveDeltaCompactionPlan D C S) :
    Except StoreError (List (SyncMutation C S)) :=
  plan.mutations.foldlM (fun final m =>
    if m.vehicleId ≠ plan.vehicleId ∨ m.revision < plan.fromRevision ∨
      m.revision > plan.toRevision then
      .error .lineageCatalogConflict
    else .ok (keepNewest final m)) []

end LiveDeltaCompactionPlan

variable (ordered : List (SyncMutation C S))

def carUpsert (carId : ℤ) : Option ℕ :=
  (LastWrite.lastWith SyncMutation.entityId carId
    (ordered.filter fun m => m.entity = .car && m.operation = .upsert)).map SyncMutation.revision

def settingsUpserts : Except StoreError (ℤ → Option (ℕ × S)) :=
  ordered.foldlM (fun settings m =>
    if m.entity = .carSetting ∧ m.operation = .upsert then
      m.payload.asSettings.map fun s => Function.update settings m.entityId (some (m.revision, s))
    else .ok settings) (fun _ => none)

def compactMutation (settings : ℤ → Option (ℕ × S))
    (delta : ProjectionDelta D C S) (m : SyncMutation C S) :
      Except StoreError (ProjectionDelta D C S) :=
  match m.operation with
  | .tombstone => .ok (delta.pushTombstone ⟨m.entity, m.entityId, m.carId⟩)
  | .upsert =>
    match m.entity with
    | .car => do
      let car ← m.payload.asCar
      let newer := (settings m.entityId).filter fun s => m.revision < s.1
      return delta.pushCar (newer.elim car fun s => { car with settings := s.2 })
    | .carSetting =>
      if (carUpsert ordered m.entityId).isSome then .ok delta
      else m.payload.asSettings.map fun s => delta.pushSettings ⟨m.entityId, s⟩
    | .row table => m.payload.asRow.map fun row => delta.pushRow table row
    | .geofence => .error (.syncMutation "entity has no typed projection row")
    | .address => .error (.syncMutation "entity has no typed projection row")

def projectionDeltaForCompaction (plan : LiveDeltaCompactionPlan D C S)
    (binding : ProjectionBinding) :
    Except StoreError (ProjectionDelta D C S) := do
  if plan.vehicleId ≠ binding.vehicleId ∨ plan.anchorSequence ≥ plan.headSequence ∨
      plan.fromRevision = 0 ∨
      plan.toRevision < plan.fromRevision then
    .error .lineageCatalogConflict
  else
    let final ← plan.finalMutations
    let ordered := final.insertionSort SyncMutation.sortsBefore
    let settings ← settingsUpserts ordered
    let delta ← ordered.foldlM (compactMutation ordered settings)
      (ProjectionDelta.empty binding ⟨plan.anchorSequence, plan.headSequence⟩ plan.anchorDigest)
    if delta.isEmpty then .error .lineageCompactionUnavailable else .ok delta

@[ext]
structure Mirror (C S : Type) where
  cars : ℤ → Option (ProjectionCar C S)
  rows : Table → ℤ → Option (ProjectionRow C)

namespace Mirror

variable (mirror : Mirror C S)

def putCar (car : ProjectionCar C S) : Mirror C S :=
  { mirror with cars := Function.update mirror.cars car.id (some car) }

def patchSettings (carId : ℤ) (settings : S) : Mirror C S :=
  let patched := (mirror.cars carId).map fun car => { car with settings := settings }
  { mirror with cars := Function.update mirror.cars carId patched }

def setRow (table : Table) (id : ℤ) (row : Option (ProjectionRow C)) : Mirror C S :=
  let changed := Function.update (mirror.rows table) id row
  { mirror with rows := Function.update mirror.rows table changed }

def putRow (table : Table) (row : ProjectionRow C) : Mirror C S :=
  mirror.setRow table row.id (some row)

def remove (entity : Entity) (id : ℤ) : Mirror C S :=
  match entity with
  | .car => { mirror with cars := Function.update mirror.cars id none }
  | .row table => mirror.setRow table id none
  | _ => mirror

def apply (delta : ProjectionDelta D C S) : Mirror C S :=
  let mirror := delta.cars.foldl putCar mirror
  let mirror := delta.carSettings.foldl (fun m patch => m.patchSettings patch.carId patch.settings)
      mirror
  let mirror := [Table.drive, .position, .charge, .chargeSample, .state, .update].foldl
    (fun m table => (delta.rows table).foldl (fun m row => m.putRow table row) m) mirror
  delta.tombstones.foldl (fun m tombstone => m.remove tombstone.entity tombstone.id) mirror

def replay (m : SyncMutation C S) : Mirror C S :=
  match m.operation with
  | .tombstone => mirror.remove m.entity m.entityId
  | .upsert =>
    match m.entity, m.payload with
    | .car, .car car => mirror.putCar car
    | .carSetting, .settings settings => mirror.patchSettings m.entityId settings
    | .row table, .row row => mirror.putRow table row
    | _, _ => mirror

end Mirror

end TeslatlasHub.LiveSync
