import TeslatlasHub.FixedWidth
import TeslatlasHub.OrderedMap
import TeslatlasHub.SyncJournal

/-! The catalogue of one vehicle's lineage: the tables, and the plan of a compaction. -/
namespace TeslatlasHub.LiveSync

open FixedWidth

def protocolV1 : ProtocolVersion := ⟨1, 0⟩

structure CursorClaims where
  protocol : ProtocolVersion
  schema : SchemaVersion
  (installationId accountId vehicleId : Uuid)
  (generation sequence : ℕ)
  deriving DecidableEq

structure SpanRow (D : Type) where
  (fromRevision toRevision : ℕ)
  packDigest : D
  deriving DecidableEq

structure PackRow (D : Type) where
  sha256 : D
  snapshotId : Uuid
  ordinal : ℕ
  relativePath : String
  (compressedBytes uncompressedBytes : ℕ)
  deriving DecidableEq

structure SyncHead (D : Type) where
  baseSnapshotId : Uuid
  headSequence : ℕ
  headDigest : D
  terminalCursor : CursorClaims
  deriving DecidableEq

structure JournalRow (C S : Type) where
  mutation : SyncMutation C S
  published : Bool
  claimedUntilMs : ℤ
  deriving DecidableEq

abbrev SequenceKey := ℕ ×ₗ ℕ

structure Catalogue (D C S : Type) where
  binding : ProjectionBinding
  base : LineageBase D
  deltas : OrderedMap SequenceKey (LineageDelta D)
  spans : OrderedMap SequenceKey (SpanRow D)
  packs : List (PackRow D)
  head : SyncHead D
  nextRevision : ℕ
  journal : List (JournalRow C S)
  materialised : Mirror C S

def TransportPack.row {D : Type} (pack : TransportPack D) : PackRow D :=
  ⟨pack.sha256, pack.snapshotId, pack.ordinal, pack.relativePath, pack.compressedBytes,
    pack.uncompressedBytes⟩

namespace Catalogue

variable {D C S : Type} (c : Catalogue D C S)

abbrev vehicleId : Uuid := c.binding.vehicleId

variable [DecidableEq D]

def liveSpans : List (LiveDeltaCompactionSpan D) :=
  (c.spans.entries.filterMap fun entry => (c.deltas.get? entry.1).map fun delta =>
    (⟨delta, entry.2.fromRevision, entry.2.toRevision⟩ : LiveDeltaCompactionSpan D)).insertionSort
      fun a b => b.delta.toSequence ≤ a.delta.toSequence

def takeSpans (baseSnapshotId : Uuid) : ℕ → D → List (LiveDeltaCompactionSpan D) →
    List (LiveDeltaCompactionSpan D) →
    Except StoreError (List (LiveDeltaCompactionSpan D))
  | _, _, taken, [] => .ok taken
  | expectedTo, expectedDigest, taken, span :: spans =>
    if span.delta.toSequence ≠ expectedTo ∨ span.delta.chainDigest ≠ expectedDigest then .ok taken
    else if span.delta.pack.snapshotId ≠ baseSnapshotId ∨
        span.delta.toSequence-span.delta.fromSequence ≠ span.toRevision-span.fromRevision+1 then
      .error .lineageCatalogConflict
    else takeSpans baseSnapshotId span.delta.fromSequence span.delta.parentChainDigest
      (taken++[span]) spans

def spansConnect (a b : LiveDeltaCompactionSpan D) : Bool :=
  a.delta.toSequence = b.delta.fromSequence && a.delta.chainDigest = b.delta.parentChainDigest &&
    a.toRevision+1 = b.fromRevision && a.delta.pack.ordinal+1 = b.delta.pack.ordinal

def allConnect : List (LiveDeltaCompactionSpan D) → Bool
  | a :: b :: spans => spansConnect a b && allConnect (b :: spans)
  | _ => true

def planSpans (head : SyncHead D) : Except StoreError (Option (List (LiveDeltaCompactionSpan D))) :=
  do
  let taken ← takeSpans head.baseSnapshotId head.headSequence head.headDigest [] c.liveSpans
  if taken.length < 2 then return none
  else if allConnect taken.reverse then return some taken.reverse
  else .error .lineageCatalogConflict

def planMutations (head : SyncHead D) (spans : List (LiveDeltaCompactionSpan D)) :
    Except StoreError (LiveDeltaCompactionPlan D C S) :=
  match spans.head?, spans.getLast? with
  | some first, some last =>
    let covered := c.journal.filter fun row =>
      first.fromRevision ≤ row.mutation.revision && row.mutation.revision ≤ last.toRevision
    let revisions := covered.map (·.mutation.revision)
    let expected := last.toRevision-first.fromRevision+1
    let mutations := LastWrite.newest SyncMutation.key SyncMutation.revision
        (covered.map (·.mutation))
    if covered.length ≠ expected ∨ (covered.filter (·.published)).length ≠ expected ∨
        revisions.min? ≠ some first.fromRevision ∨ revisions.max? ≠ some last.toRevision ∨
          mutations.isEmpty then
      .error .lineageCatalogConflict
    else .ok ⟨c.vehicleId, head.baseSnapshotId, first.delta.fromSequence,
      first.delta.parentChainDigest, last.delta.toSequence, last.delta.chainDigest,
        first.delta.pack.ordinal, first.fromRevision, last.toRevision,
      mutations, spans⟩
  | _, _ => .error .lineageCatalogConflict

def planLiveDeltaCompaction : Except StoreError (Option (LiveDeltaCompactionPlan D C S)) :=
  if c.vehicleId.isNil then .error .nilVehicleId
  else do
    let spans ← c.planSpans c.head
    match spans with
    | none => return none
    | some spans =>
      let plan ← c.planMutations c.head spans
      return some plan

end Catalogue

end TeslatlasHub.LiveSync
