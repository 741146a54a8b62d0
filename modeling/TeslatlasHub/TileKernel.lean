import TeslatlasHub.ByteFormat
import TeslatlasHub.OrderedMap
import TeslatlasHub.TileRaster

namespace TeslatlasHub.Tiles

open MeteredWork ByteFormat

def tileDirectoryBytes : ℕ := 16
def tilePayloadHeaderBytes : ℕ := 8
def segmentBytes : ℕ := 8
def positionPageHeaderBytes : ℕ := 8
def positionDriveHeaderBytes : ℕ := 8
def positionPointBytes : ℕ := 8
def maxPositionDrivesPerPage : ℕ := 128
def maxPositionPageBytes : ℕ := 8*1024*1024
def maxTilePayloadBytes : ℕ := 8*1024*1024
def maxTilePayloadTiles : ℕ := 4096
def maxCanonicalSegmentsPerTile : ℕ := 200000
def maxCanonicalRawWeightEntries : ℕ := maxTilePayloadBytes/segmentBytes
def maxRawUniqueSegmentsPerTile : ℕ := maxTilePayloadBytes/segmentBytes
def tilePayloadFormatVersion : ℕ := 1

def maxUsize : ℕ := 2^64-1
def maxU64 : ℕ := 2^64-1
def maxI64 : ℕ := 2^63-1

def longRangeLodTiers : Fin 4 → LodTier
  | 0 => ⟨2, 4, 120, 3000, 240, by norm_num⟩
  | 1 => ⟨5, 7, 30, 800, 60, by norm_num⟩
  | 2 => ⟨8, 10, 3, 50, 6, by norm_num⟩
  | 3 => ⟨11, 13, 2, 20, 3, by norm_num⟩

structure Drive (Point : Type) where
  driveId : ℤ
  points : List Point

structure Diagnostics where
  (visitorInvocations driveCount inputPointCount producedTileCount : ℕ := 0)
  deriving DecidableEq

inductive TileOutput where
  | readyEmpty (driveCount : ℕ) (diagnostics : Diagnostics)
  | readyData (driveCount tileCount : ℕ) (payload : List UInt8) (diagnostics : Diagnostics)
  deriving DecidableEq

abbrev I16 := { n : ℤ // -2^15 ≤ n ∧ n < 2^15 }

structure TileKey where
  (zoom tileX tileY : U32)

structure SegmentKey where
  (x1 y1 x2 y2 : I16)

def TileKey.toTuple (key : TileKey) : U32 ×ₗ U32 ×ₗ U32 :=
  toLex (key.zoom, toLex (key.tileX, key.tileY))

theorem TileKey.toTuple_injective : Function.Injective TileKey.toTuple := by
  rintro ⟨z, x, y⟩ ⟨z', x', y'⟩ h
  cases h
  rfl

instance : LinearOrder TileKey := LinearOrder.lift' TileKey.toTuple TileKey.toTuple_injective

def SegmentKey.toTuple (key : SegmentKey) : I16 ×ₗ I16 ×ₗ I16 ×ₗ I16 :=
  toLex (key.x1, toLex (key.y1, toLex (key.x2, key.y2)))

theorem SegmentKey.toTuple_injective : Function.Injective SegmentKey.toTuple := by
  rintro ⟨a, b, c, d⟩ ⟨a', b', c', d'⟩ h
  cases h
  rfl

instance : LinearOrder SegmentKey :=
  LinearOrder.lift' SegmentKey.toTuple SegmentKey.toTuple_injective

abbrev SegmentWeights := OrderedMap SegmentKey ℕ
abbrev TierWeights := OrderedMap TileKey SegmentWeights

structure Shard where
  tile : TileKey
  blob : List UInt8

@[ext]
structure TierAccumulator where
  weights : TierWeights := OrderedMap.empty
  driveCount : ℕ := 0

@[ext]
structure WeightBudget where
  (used tileCount : ℕ := 0)
  deriving DecidableEq

def WeightBudget.reserve (budget : WeightBudget) : Except TileError WeightBudget :=
  if maxCanonicalRawWeightEntries ≤ budget.used then .error .rawWeightLimit
  else .ok { budget with used := budget.used+1 }

def coordinate (value : ℤ) : Except TileError I16 :=
  if h : -2^15 ≤ value ∧ value < 2^15 then .ok ⟨value, h⟩ else .error .coordinateRange

def TileSegment.key (segment : TileSegment) : Except TileError SegmentKey := do
  let x1 ← coordinate segment.start.1
  let y1 ← coordinate segment.start.2
  let x2 ← coordinate segment.stop.1
  let y2 ← coordinate segment.stop.2
  return ⟨x1, y1, x2, y2⟩

def TileSegment.tile (segment : TileSegment) : TileKey :=
  ⟨segment.zoom, segment.tileX, segment.tileY⟩

def mergeKey (target : TierWeights) (tile : TileKey) (key : SegmentKey) (budget : WeightBudget) :
    Except TileError (TierWeights × WeightBudget) :=
  match target.get? tile with
  | none =>
    if maxTilePayloadTiles ≤ budget.tileCount then .error (.tileLimit (budget.tileCount+1))
    else
      budget.reserve.map fun budget =>
        (target.insert tile (OrderedMap.empty.insert key 1),
          { budget with tileCount := budget.tileCount+1 })
  | some weights =>
    match weights.get? key with
    | none =>
      if maxRawUniqueSegmentsPerTile ≤ weights.entries.length then .error .uniqueSegmentLimit
      else budget.reserve.map fun budget => (target.insert tile (weights.insert key 1), budget)
    | some weight =>
      if weight+1 ≤ maxU64 then .ok (target.insert tile (weights.insert key (weight+1)), budget)
      else .error .weightOverflow

def mergeRawSegment (target : TierWeights) (segment : TileSegment) (budget : WeightBudget) :
    Except TileError (TierWeights × WeightBudget) :=
  segment.key >>= fun key => mergeKey target segment.tile key budget

abbrev MergeM := ExceptT TileError (StateM (TierWeights × WeightBudget))

def reserveInPlace : MergeM Unit := do
  if maxCanonicalRawWeightEntries ≤ (← get).2.used then throw .rawWeightLimit
  modify fun (target, budget) => (target, { budget with used := budget.used+1 })

def mergeKeyInPlace (tile : TileKey) (key : SegmentKey) : MergeM Unit := do
  let (target, budget) ← get
  match target.get? tile with
  | none =>
    if maxTilePayloadTiles ≤ budget.tileCount then throw (.tileLimit (budget.tileCount+1))
    reserveInPlace
    modify fun (target, budget) => (target, { budget with tileCount := budget.tileCount+1 })
    modify fun (target, budget) => (target.insert tile (OrderedMap.empty.insert key 1), budget)
  | some weights =>
    match weights.get? key with
    | none =>
      if maxRawUniqueSegmentsPerTile ≤ weights.entries.length then throw .uniqueSegmentLimit
      reserveInPlace
      modify fun (target, budget) => (target.insert tile (weights.insert key 1), budget)
    | some weight =>
      if maxU64 < weight+1 then throw .weightOverflow
      modify fun (target, budget) => (target.insert tile (weights.insert key (weight+1)), budget)

def mergeInPlace (segment : TileSegment) : MergeM Unit :=
  ExceptT.mk (pure segment.key) >>= mergeKeyInPlace segment.tile

@[ext]
structure Kernel where
  accumulators : Fin 4 → TierAccumulator := fun _ => {}
  budget : WeightBudget := {}
  inputPointCount : ℕ := 0

namespace Kernel

def withWeights (k : Kernel) (tier : Fin 4) (weights : TierWeights) (budget : WeightBudget) :
    Kernel :=
  { k with
    accumulators := Function.update k.accumulators tier { k.accumulators tier with weights }
    budget }

def visitSegment (tier : Fin 4) (k : Kernel) (segment : TileSegment) : Except TileError Kernel :=
  (mergeRawSegment (k.accumulators tier).weights segment k.budget).map fun merged =>
    k.withWeights tier merged.1 merged.2

def mergeSegment (tier : Fin 4) (k : Kernel) (segment : TileSegment) :
    Except TileError Unit × Kernel :=
  let merged := (mergeInPlace segment).run.run ((k.accumulators tier).weights, k.budget)
  (merged.1, k.withWeights tier merged.2.1 merged.2.2)

def completeDrive (tier : Fin 4) (k : Kernel) : Except TileError Kernel :=
  let driveCount := (k.accumulators tier).driveCount+1
  if driveCount ≤ maxUsize then
    .ok { k with
      accumulators := Function.update k.accumulators tier { k.accumulators tier with driveCount } }
  else .error .driveCountOverflow

def countPoints (count : ℕ) (k : Kernel) : Except TileError Kernel :=
  if maxI64 < count then .error .pointCountRange
  else if k.inputPointCount+count ≤ maxI64 then
    .ok { k with inputPointCount := k.inputPointCount+count }
  else .error .pointCountOverflow

section Visit

variable {Point M : Type} [Measure M] [Geometry Point M]

def visitRun (tier : Fin 4) (k : Kernel) (run : List Point) : MeterM TileError Kernel := do
  let simplified ← simplifyControlled run (longRangeLodTiers tier)
  StateT.lift ((addDriveMultiZoom simplified (longRangeLodTiers tier)).foldlM (visitSegment tier) k)

def visitTier (points : List Point) (k : Kernel) (tier : Fin 4) : MeterM TileError Kernel :=
  let lod := longRangeLodTiers tier
  if lod.zoomMin < minZoom ∨ maxZoom < lod.zoomMax ∨ lod.zoomMax < lod.zoomMin then
    StateT.lift (.error .tierRange)
  else do
    let k ← (validRuns points).foldlM (visitRun tier) k
    StateT.lift (k.completeDrive tier)

def visitDriveLodTiers (points : List Point) (k : Kernel) : MeterM TileError Kernel :=
  (List.finRange 4).foldlM (visitTier points) k

def consumeDrive (k : Kernel) (drive : Drive Point) : MeterM TileError Kernel := do
  let k ← StateT.lift (k.countPoints drive.points.length)
  visitDriveLodTiers drive.points k

def pageBytes (page : List (Drive Point)) : Except TileError ℕ :=
  page.foldlM (fun bytes drive =>
    let points := drive.points.length*positionPointBytes
    if points ≤ maxUsize ∧ bytes+positionDriveHeaderBytes+points ≤ maxUsize then
      .ok (bytes+positionDriveHeaderBytes+points)
    else .error .pageSizeOverflow) positionPageHeaderBytes

def validateTypedPositionPage (page : List (Drive Point)) : Except TileError Unit :=
  if maxPositionDrivesPerPage < page.length then .error (.pageDrives page.length)
  else pageBytes page >>= fun bytes => if maxPositionPageBytes < bytes then .error .pageBytes else
    .ok ()

def consume (k : Kernel) (page : List (Drive Point)) : MeterM TileError Kernel := do
  StateT.lift (validateTypedPositionPage page)
  page.foldlM consumeDrive k

def visitPages (pages : List (List (Drive Point))) : MeterM TileError Kernel :=
  pages.foldlM consume {}

end Visit

end Kernel

def SegmentKey.bytes (key : SegmentKey) : List UInt8 :=
  [key.x1, key.y1, key.x2, key.y2].flatMap fun n => leBytes 2 (n.1%2^16).toNat

def heavierFirst (left right : SegmentKey × ℕ) : Bool :=
  decide (right.2 < left.2) || (decide (left.2 = right.2) && decide (left.1 ≤ right.1))

def budgetedSegments (weights : SegmentWeights) : List SegmentKey :=
  if weights.entries.length ≤ maxCanonicalSegmentsPerTile then weights.keys
  else
    (((weights.entries.mergeSort heavierFirst).take maxCanonicalSegmentsPerTile).map
      (·.1)).mergeSort
      fun a b => decide (a ≤ b)

def finalizeTier (weights : TierWeights) : List Shard :=
  weights.entries.filterMap fun entry =>
    let selected := budgetedSegments entry.2
    if selected.isEmpty then none else some ⟨entry.1, selected.flatMap SegmentKey.bytes⟩

def ensurePayloadBound (shards : List Shard) : Except TileError Unit :=
  if maxTilePayloadTiles < shards.length then .error (.tileLimit shards.length)
  else
    shards.foldlM (fun total shard =>
      if total+tileDirectoryBytes+shard.blob.length ≤ maxUsize then
        .ok (total+tileDirectoryBytes+shard.blob.length)
      else .error .payloadSizeOverflow) tilePayloadHeaderBytes >>= fun total =>
    if maxTilePayloadBytes < total then .error .payloadLimit else .ok ()

def Shard.bytes (shard : Shard) : List UInt8 :=
  leBytes 4 shard.tile.zoom.1++leBytes 4 shard.tile.tileX.1++leBytes 4 shard.tile.tileY.1++
    leBytes 4 shard.blob.length++shard.blob

def encodePayload (shards : List Shard) : Except TileError (List UInt8) := do
  ensurePayloadBound shards
  if 2^32 ≤ shards.length then throw .tileCountRange
  shards.foldlM (fun payload shard =>
    if shard.blob.isEmpty ∨ shard.blob.length%segmentBytes ≠ 0 then .error .blobShape
    else if 2^32 ≤ shard.blob.length then .error .blobRange
    else .ok (payload++shard.bytes)) (leBytes 4 tilePayloadFormatVersion++leBytes 4 shards.length)

def Kernel.packTiers (k : Kernel) : Except TileError (List Shard) :=
  (List.finRange 4).foldlM (fun shards tier =>
    let shards := shards++finalizeTier (k.accumulators tier).weights
    (ensurePayloadBound shards).map fun _ => shards) []

def Kernel.finish (expectedDriveCount : Option ℕ) (k : Kernel) : Except TileError TileOutput :=
  let observed := (k.accumulators 0).driveCount
  if (List.finRange 4).any fun tier => (k.accumulators tier).driveCount != observed then
    .error .driveCountsDiverged
  else if expectedDriveCount.any fun expected => expected != observed then .error .drivePagesChanged
  else
    k.packTiers >>= fun shards =>
    if maxI64 < observed then .error .driveCountRange
    else if maxI64 < shards.length then .error .outputCountRange
    else
      let diagnostics : Diagnostics :=
        { visitorInvocations := 1, driveCount := observed, inputPointCount := k.inputPointCount
          producedTileCount := shards.length }
      if shards.isEmpty then .ok (.readyEmpty observed diagnostics)
      else
        (encodePayload (shards.mergeSort fun a b => decide (a.tile ≤ b.tile))).map fun payload =>
          .readyData observed shards.length payload diagnostics

section Generate

variable {Point M : Type} [Measure M] [Geometry Point M]

def generateInternal (expectedDriveCount rdpEvaluationLimit : Option ℕ)
    (pages : List (List (Drive Point))) :
    Except TileError TileOutput :=
  Kernel.visitPages pages ⟨rdpEvaluationLimit, 0⟩ >>= fun reached => reached.1.finish
    expectedDriveCount

def generateTilePayloadV1 (drives : List (Drive Point)) : Except TileError TileOutput :=
  generateInternal (some drives.length) none [drives]

def generateTilePayloadV1WithRdpLimit (drives : List (Drive Point)) (limit : ℕ) :
    Except TileError TileOutput :=
  generateInternal (some drives.length) (some limit) [drives]

variable (pages : List (List (Drive Point)))

def generateTilePayloadV1FromPages : Except TileError TileOutput :=
  generateInternal none none pages

def generateTilePayloadV1FromPagesWithRdpLimit (limit : ℕ) : Except TileError TileOutput :=
  generateInternal none (some limit) pages

def rdpEvaluations : ℕ :=
  match Kernel.visitPages pages ⟨none, 0⟩ with
  | .ok (_, meter) => meter.spent
  | .error _ => 0

end Generate

end TeslatlasHub.Tiles
