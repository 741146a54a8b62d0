import TeslatlasHub.RunRules
import TeslatlasHub.Uuid

/-! The lineage envelope of the sync protocol: an immutable base and an ordered chain of deltas over
it. -/
namespace TeslatlasHub.LiveSync

open RunRules List

structure ProtocolVersion where
  (major minor : ℕ)
  deriving DecidableEq

structure SchemaVersion where
  (major minor : ℕ)
  deriving DecidableEq

def lineageProtocolV2 : ProtocolVersion := ⟨2, 0⟩
def transportSchemaV1 : SchemaVersion := ⟨1, 0⟩
def hubProjectionSchemaV1 : SchemaVersion := ⟨2, 0⟩
def hubProjectionSchemaV2 : SchemaVersion := ⟨2, 1⟩
def hubProjectionSchemaV3 : SchemaVersion := ⟨2, 2⟩

def sqliteHeaderBytes : ℕ := 100

inductive SchemaSupport where
  | genericTransport
  | typedHubProjection
  | fullSnapshotOnlyHubProjection
  deriving DecidableEq

namespace SchemaVersion

variable (schema : SchemaVersion)

def support : Option SchemaSupport :=
  if schema.major = transportSchemaV1.major ∧ schema.minor = transportSchemaV1.minor then
    some .genericTransport
  else if schema.major = hubProjectionSchemaV1.major ∧
      (schema.minor = hubProjectionSchemaV1.minor ∨ schema.minor = hubProjectionSchemaV2.minor) then
    some .typedHubProjection
  else if schema.major = hubProjectionSchemaV3.major ∧
    schema.minor = hubProjectionSchemaV3.minor then
    some .fullSnapshotOnlyHubProjection
  else none

def isSupported : Bool := schema.support.isSome

def supportsLineageV2 : Bool :=
  schema.support = some .genericTransport || schema.support = some .typedHubProjection

def isHubProjection : Bool :=
  schema.support = some .typedHubProjection || schema.support = some .fullSnapshotOnlyHubProjection

end SchemaVersion

class LineageDigest (D : Type) where
  isZero : D → Bool
  text : D → String
  ofBytes : String → D
  text_length : ∀ d, (text d).length = 64
  text_injective : Function.Injective text

open LineageDigest

section Digest

variable {D : Type} [LineageDigest D]

def deltaChainText (parent pack : D) : String :=
  "delta-v2/"++text parent++":"++text pack

def canonicalDeltaChainDigest (parent pack : D) : D := ofBytes (deltaChainText parent pack)

theorem deltaChainText_inj {p d p' d' : D} (h : deltaChainText p d = deltaChainText p' d') :
    p = p' ∧ d = d' := by
  have hlist := congrArg String.toList h
  simp only [deltaChainText, String.toList_append, append_assoc,
    List.append_cancel_left_eq] at hlist
  have hlength : (text p).toList.length = (text p').toList.length := by
    rw [String.length_toList, String.length_toList, text_length, text_length]
  obtain ⟨hp, hrest⟩ := append_inj hlist hlength
  have hd := append_cancel_left hrest
  exact ⟨text_injective (String.toList_inj.mp hp), text_injective (String.toList_inj.mp hd)⟩

end Digest

inductive PackFormat where
  | sqliteTransport
  | hubProjectionSqlite
  deriving DecidableEq

inductive MirrorTable where
  | vehicle
  | car
  | drive
  | chargingProcess
  | position
  | charge
  | chargeSample
  | state
  | update
  | tombstone
  deriving DecidableEq

namespace MirrorTable

def isGenericTransport : MirrorTable → Bool
  | car => false
  | chargeSample => false
  | _ => true

def isHubProjection : MirrorTable → Bool
  | vehicle => false
  | chargingProcess => false
  | _ => true

end MirrorTable

structure SequenceRange where
  (fromExclusive toInclusive : ℕ)
  deriving DecidableEq

structure TransportPack (D : Type) where
  (packId snapshotId : Uuid)
  ordinal : ℕ
  schema : SchemaVersion
  format : PackFormat
  relativePath : String
  sha256 : D
  (compressedBytes uncompressedBytes rowCount : ℕ)
  sequence : SequenceRange
  tables : List MirrorTable
  deriving DecidableEq

structure ProtocolLimits where
  (maxChunks maxRelativePathBytes maxCompressedPackBytes maxUncompressedPackBytes maxExpansionRatio
    maxRowsPerPack maxTablesPerPack : ℕ)

def ProtocolLimits.default : ProtocolLimits :=
  ⟨512, 256, 64*1024*1024, 256*1024*1024, 64, 1000000, 8⟩

inductive ProtocolError where
  | unsupportedSchema (schema : SchemaVersion)
  | nilUuid (field : String)
  | duplicatePackId
  | zeroDigest
  | nonCanonicalPackPath
  | unsafePackPath
  | compressedSizeOutOfBounds (bytes : ℕ)
  | uncompressedSizeOutOfBounds (bytes : ℕ)
  | expansionRatioExceeded
  | rowCountOutOfBounds (rows : ℕ)
  | invalidSequenceRange
  | invalidTableCount
  | duplicateTable
  | formatSchemaMismatch
  | packTablesDoNotMatchFormat
  | unsupportedLineageProtocol (protocol : ProtocolVersion)
  | fullSnapshotOnlySchemaInLineageV2 (schema : SchemaVersion)
  | lineageBaseRequired
  | lineageAggregateLimitExceeded
  | lineageDigestRequired
  | lineageBasePackMismatch
  | lineageSequenceGap
  | lineageChainMismatch
  | lineageDeltaPackMismatch
  | lineageHeadMismatch
  deriving DecidableEq

def requireNonNilUuid (field : String) (value : Uuid) : Except ProtocolError Unit :=
  if value.isNil then .error (.nilUuid field) else .ok ()

def require (error : ProtocolError) (holds : Bool) : Except ProtocolError Unit :=
  if holds then .ok () else .error error

def u64Max : ℕ := 2^64-1

def saturatingMul (x y : ℕ) : ℕ := min (x*y) u64Max

variable {D : Type} [DecidableEq D] [LineageDigest D]

def canonicalRelativePath (digest : D) : String := "/v1/packs/sha256/"++text digest++".sqlite.zst"

def TransportPack.validate (pack : TransportPack D) (limits : ProtocolLimits) :
    Except ProtocolError Unit := do
  requireNonNilUuid "pack_id" pack.packId
  requireNonNilUuid "snapshot_id" pack.snapshotId
  require (.unsupportedSchema pack.schema) pack.schema.isSupported
  require .formatSchemaMismatch (match pack.format with
    | .sqliteTransport => pack.schema = transportSchemaV1
    | .hubProjectionSqlite => pack.schema.isHubProjection)
  require .zeroDigest (!isZero pack.sha256)
  require .nonCanonicalPackPath (pack.relativePath = canonicalRelativePath pack.sha256)
  require .unsafePackPath (pack.relativePath.utf8ByteSize ≤ limits.maxRelativePathBytes &&
    pack.relativePath.toList.all fun c => c.toNat < 128 && c != '?' && c != '#' && c != '\\')
  require (.compressedSizeOutOfBounds pack.compressedBytes)
    (pack.compressedBytes ≠ 0 && pack.compressedBytes ≤ limits.maxCompressedPackBytes)
  require (.uncompressedSizeOutOfBounds pack.uncompressedBytes)
    (sqliteHeaderBytes ≤ pack.uncompressedBytes && pack.uncompressedBytes ≤
      limits.maxUncompressedPackBytes)
  require .expansionRatioExceeded
    (pack.uncompressedBytes ≤ saturatingMul pack.compressedBytes limits.maxExpansionRatio)
  require (.rowCountOutOfBounds pack.rowCount) (pack.rowCount ≤ limits.maxRowsPerPack)
  require .invalidSequenceRange (pack.sequence.fromExclusive ≤ pack.sequence.toInclusive)
  require .invalidTableCount (!pack.tables.isEmpty && pack.tables.length ≤ limits.maxTablesPerPack)
  require .duplicateTable pack.tables.Nodup
  require .packTablesDoNotMatchFormat (match pack.format with
    | .sqliteTransport => pack.tables.all MirrorTable.isGenericTransport
    | .hubProjectionSqlite => pack.tables.all MirrorTable.isHubProjection)

structure LineageBase (D : Type) where
  snapshotId : Uuid
  sequence : ℕ
  digest : D
  packs : List (TransportPack D)
  deriving DecidableEq

structure LineageDelta (D : Type) where
  (fromSequence toSequence : ℕ)
  (parentChainDigest chainDigest packDigest : D)
  pack : TransportPack D
  deriving DecidableEq

structure LineageManifestV2 (D : Type) where
  protocol : ProtocolVersion
  schema : SchemaVersion
  (installationId accountId vehicleId : Uuid)
  generation : ℕ
  base : LineageBase D
  deltas : List (LineageDelta D)
  headSequence : ℕ
  headDigest : D

def lineageAggregateLimit (perPack maxPacks : ℕ) : Except ProtocolError ℕ :=
  if perPack*maxPacks ≤ u64Max then .ok (perPack*maxPacks) else .error
    .lineageAggregateLimitExceeded

def checkedLineageTotal (current added limit : ℕ) : Except ProtocolError ℕ :=
  if current+added ≤ u64Max ∧ current+added ≤ limit then .ok (current+added)
  else .error .lineageAggregateLimitExceeded

structure LineageTotals where
  (compressed uncompressed rows : ℕ)

def LineageTotals.add (totals maximum : LineageTotals) (pack : TransportPack D) :
    Except ProtocolError LineageTotals := do
  let compressed ← checkedLineageTotal totals.compressed pack.compressedBytes maximum.compressed
  let uncompressed ← checkedLineageTotal totals.uncompressed pack.uncompressedBytes
      maximum.uncompressed
  let rows ← checkedLineageTotal totals.rows pack.rowCount maximum.rows
  return ⟨compressed, uncompressed, rows⟩

structure PacksSeen where
  seenPacks : List Uuid
  totals : LineageTotals

namespace LineageManifestV2

variable (manifest : LineageManifestV2 D) (limits : ProtocolLimits) (maximum : LineageTotals)

def checkBasePacks : PacksSeen → ℕ → List (TransportPack D) → Except ProtocolError PacksSeen
  | seen, _, [] => .ok seen
  | seen, ordinal, pack :: packs => do
    require .lineageBasePackMismatch (pack.schema = manifest.schema && pack.snapshotId =
      manifest.base.snapshotId)
    require .duplicatePackId (!seen.seenPacks.contains pack.packId)
    pack.validate limits
    require .lineageBasePackMismatch (pack.ordinal = ordinal &&
      pack.sequence = ⟨manifest.base.sequence, manifest.base.sequence⟩)
    let totals ← seen.totals.add maximum pack
    checkBasePacks ⟨pack.packId :: seen.seenPacks, totals⟩ (ordinal+1) packs

def checkDeltas : PacksSeen → ℕ → D → List (LineageDelta D) → Except ProtocolError (ℕ × D)
  | _, expectedFrom, parent, [] => .ok (expectedFrom, parent)
  | seen, expectedFrom, parent, delta :: deltas => do
    require .lineageSequenceGap (delta.fromSequence = expectedFrom && delta.fromSequence <
      delta.toSequence)
    require .lineageChainMismatch (delta.parentChainDigest = parent && delta.packDigest =
      delta.pack.sha256 &&
      delta.chainDigest = canonicalDeltaChainDigest delta.parentChainDigest delta.packDigest)
    require .lineageDeltaPackMismatch (delta.pack.schema = manifest.schema &&
      delta.pack.snapshotId = manifest.base.snapshotId &&
      delta.pack.sequence = ⟨delta.fromSequence, delta.toSequence⟩)
    require .duplicatePackId (!seen.seenPacks.contains delta.pack.packId)
    delta.pack.validate limits
    let totals ← seen.totals.add maximum delta.pack
    checkDeltas ⟨delta.pack.packId :: seen.seenPacks, totals⟩ delta.toSequence delta.chainDigest
      deltas

def validateWithLimits : Except ProtocolError Unit := do
  require (.unsupportedLineageProtocol manifest.protocol) (manifest.protocol = lineageProtocolV2)
  require (.unsupportedSchema manifest.schema) manifest.schema.isSupported
  require (.fullSnapshotOnlySchemaInLineageV2 manifest.schema) manifest.schema.supportsLineageV2
  requireNonNilUuid "installation_id" manifest.installationId
  requireNonNilUuid "account_id" manifest.accountId
  requireNonNilUuid "vehicle_id" manifest.vehicleId
  requireNonNilUuid "base snapshot_id" manifest.base.snapshotId
  require .lineageBaseRequired (manifest.generation ≠ 0 && !manifest.base.packs.isEmpty)
  require .lineageAggregateLimitExceeded (manifest.base.packs.length+manifest.deltas.length ≤
    limits.maxChunks)
  let compressed ← lineageAggregateLimit limits.maxCompressedPackBytes limits.maxChunks
  let uncompressed ← lineageAggregateLimit limits.maxUncompressedPackBytes limits.maxChunks
  let rows ← lineageAggregateLimit limits.maxRowsPerPack limits.maxChunks
  require .lineageDigestRequired (!isZero manifest.base.digest)
  let seen ← manifest.checkBasePacks limits ⟨compressed, uncompressed, rows⟩ ⟨[], ⟨0, 0, 0⟩⟩ 0
      manifest.base.packs
  let (expectedFrom, parent) ← manifest.checkDeltas limits ⟨compressed, uncompressed, rows⟩ seen
    manifest.base.sequence manifest.base.digest manifest.deltas
  require .lineageHeadMismatch (manifest.headSequence = expectedFrom && manifest.headDigest =
    parent)

end LineageManifestV2

def Chained : ℕ → D → List (LineageDelta D) → ℕ → D → Prop
  | sequence, digest, [], headSequence, headDigest => sequence = headSequence ∧ digest = headDigest
  | sequence, digest, delta :: deltas, headSequence, headDigest =>
    delta.fromSequence = sequence ∧ sequence < delta.toSequence ∧ delta.parentChainDigest = digest ∧
      delta.packDigest = delta.pack.sha256 ∧
      delta.chainDigest = canonicalDeltaChainDigest delta.parentChainDigest delta.packDigest ∧
      Chained delta.toSequence delta.chainDigest deltas headSequence headDigest

theorem require_eq_ok {error : ProtocolError} {holds : Bool} {u : Unit} :
    require error holds = .ok u ↔ holds := by
  cases holds <;> simp [require]

variable {sequence headSequence : ℕ} {digest headDigest : D}
  {deltas deltas' : List (LineageDelta D)}
  {manifest manifest' : LineageManifestV2 D} {limits limits' : ProtocolLimits}

namespace LineageManifestV2

theorem chained_of_checkDeltas {maximum : LineageTotals} {seen : PacksSeen}
    (h : manifest.checkDeltas limits maximum seen sequence digest deltas =
    .ok (headSequence, headDigest)) : Chained sequence digest deltas headSequence headDigest := by
  induction deltas generalizing seen sequence digest with
  | nil =>
    cases h
    exact ⟨rfl, rfl⟩
  | cons delta deltas ih =>
    obtain ⟨_, hsequence, h⟩ := bind_eq_ok.mp h
    obtain ⟨_, hchain, h⟩ := bind_eq_ok.mp h
    iterate 4 obtain ⟨_, _, h⟩ := bind_eq_ok.mp h
    simp only [require_eq_ok, Bool.and_eq_true, decide_eq_true_eq] at hsequence hchain
    exact ⟨hsequence.1, hsequence.1 ▸ hsequence.2, hchain.1.1, hchain.1.2, hchain.2, ih h⟩

theorem chained_of_validateWithLimits (h : manifest.validateWithLimits limits = .ok ()) :
    Chained manifest.base.sequence manifest.base.digest manifest.deltas manifest.headSequence
    manifest.headDigest := by
  -- the checks before those of the deltas
  iterate 14 obtain ⟨_, _, h⟩ := bind_eq_ok.mp h
  obtain ⟨⟨expectedFrom, parent⟩, hdeltas, h⟩ := bind_eq_ok.mp h
  simp only [require_eq_ok, Bool.and_eq_true, decide_eq_true_eq] at h
  rw [h.1, h.2]
  exact chained_of_checkDeltas hdeltas

end LineageManifestV2

section History

omit [DecidableEq D]

theorem Chained.split (h : Chained sequence digest (deltas++deltas') headSequence headDigest) :
    ∃ s d, Chained sequence digest deltas s d ∧ Chained s d deltas' headSequence headDigest := by
  induction deltas generalizing sequence digest with
  | nil => exact ⟨sequence, digest, ⟨rfl, rfl⟩, h⟩
  | cons delta deltas ih =>
    obtain ⟨hfrom, hlt, hparent, hpack, hchain, hrest⟩ := h
    obtain ⟨s, d, hfirst, hlater⟩ := ih hrest
    exact ⟨s, d, ⟨hfrom, hlt, hparent, hpack, hchain, hfirst⟩, hlater⟩

theorem Chained.head (h : Chained sequence digest deltas headSequence headDigest) :
    (digest :: deltas.map (·.chainDigest))[deltas.length]? = some headDigest := by
  induction deltas generalizing sequence digest with
  | nil => exact congrArg some h.2
  | cons delta deltas ih => exact ih h.2.2.2.2.2

def LineageDelta.chainText (delta : LineageDelta D) : String :=
  deltaChainText delta.parentChainDigest delta.packDigest

/-- The texts that the two chains hash do not collide. -/
def CollisionFree (deltas deltas' : List (LineageDelta D)) : Prop :=
  ∀ delta ∈ deltas, ∀ delta' ∈ deltas',
    ofBytes (D := D) delta.chainText = ofBytes delta'.chainText →
    delta.chainText = delta'.chainText

theorem Chained.unique {s t t' : ℕ} (hfree : CollisionFree deltas deltas')
    (h : Chained sequence digest deltas t headDigest)
    (h' : Chained s digest deltas' t' headDigest) (hlength : deltas.length = deltas'.length) :
    deltas.map (·.packDigest) = deltas'.map (·.packDigest) ∧
      deltas.map (·.chainDigest) = deltas'.map (·.chainDigest) := by
  induction deltas using reverseRecOn generalizing deltas' t t' headDigest with
  | nil =>
    rw [eq_nil_of_length_eq_zero hlength.symm]
    exact ⟨rfl, rfl⟩
  | append_singleton deltas delta ih =>
    -- the last text is the same, so the chains before it end in the same digest
    obtain ⟨deltas', delta', rfl⟩ : ∃ l a, deltas' = l++[a] := by
      rcases eq_nil_or_concat deltas' with rfl | ⟨l, a, rfl⟩
      · simp at hlength
      · exact ⟨l, a, by simp⟩
    obtain ⟨_, d, hfirst, _, _, hparent, _, hchain, _, hhead⟩ := h.split
    obtain ⟨_, d', hfirst', _, _, hparent', _, hchain', _, hhead'⟩ := h'.split
    have hdigest := (hchain.symm.trans (hhead.trans hhead'.symm)).trans hchain'
    obtain ⟨hsame, hpack⟩ := deltaChainText_inj (hfree delta (by simp) delta' (by simp) hdigest)
    obtain rfl : d = d' := hparent.symm.trans (hsame.trans hparent')
    have hrest : CollisionFree deltas deltas' := fun x hx y hy =>
      hfree x (mem_append_left _ hx) y (mem_append_left _ hy)
    obtain ⟨hpacks, hchains⟩ := ih hrest hfirst hfirst' (by simpa using hlength)
    simp [hpacks, hchains, hpack, hhead.trans hhead'.symm]

end History

namespace LineageManifestV2

def packDigests (manifest : LineageManifestV2 D) : List D := manifest.deltas.map (·.packDigest)

def chainDigests (manifest : LineageManifestV2 D) : List D := manifest.deltas.map (·.chainDigest)

/-- A head digest commits to the whole history behind it. -/
theorem head_digest_commits_to_the_history (h : manifest.validateWithLimits limits = .ok ())
    (h' : manifest'.validateWithLimits limits' = .ok ())
    (hfree : CollisionFree manifest.deltas manifest'.deltas)
    (hbase : manifest.base.digest = manifest'.base.digest) :
    ((manifest'.base.digest :: manifest'.chainDigests)[manifest.deltas.length]? =
      some manifest.headDigest →
      manifest.packDigests <+: manifest'.packDigests ∧
        manifest.chainDigests <+: manifest'.chainDigests) ∧
    (manifest.deltas.length = manifest'.deltas.length → manifest.headDigest = manifest'.headDigest →
      manifest.packDigests = manifest'.packDigests ∧
        manifest.chainDigests = manifest'.chainDigests) := by
  have hchain := chained_of_validateWithLimits h
  have hchain' := chained_of_validateWithLimits h'
  rw [hbase] at hchain
  refine ⟨fun hhead => ?_, fun hlength hhead => hchain.unique hfree (hhead ▸ hchain') hlength⟩
  unfold packDigests chainDigests at *
  -- the other manifest has at least as many deltas
  generalize hn : manifest.deltas.length = n at hhead
  have hle : n ≤ manifest'.deltas.length := by
    have hlt := (List.getElem?_eq_some_iff.mp hhead).1
    simp only [length_cons, length_map] at hlt
    omega
  have htake : (manifest'.deltas.take n).length = n := List.length_take_of_le hle
  -- the other chain up to that delta ends in the same digest
  rw [← take_append_drop n manifest'.deltas] at hchain'
  obtain ⟨_, d, hfirst, _⟩ := hchain'.split
  have hd := hfirst.head
  rw [htake, List.map_take, ← List.take_succ_cons, List.getElem?_take_of_lt (Nat.lt_succ_self n),
    hhead] at hd
  cases hd
  obtain ⟨hpacks, hchains⟩ := hchain.unique (fun x hx y hy => hfree x hx y (mem_of_mem_take hy))
      hfirst
    (hn.trans htake.symm)
  rw [hpacks, hchains, List.map_take, List.map_take]
  exact ⟨List.take_prefix _ _, List.take_prefix _ _⟩

abbrev CoarseDigest := Fin 16

instance : LineageDigest CoarseDigest where
  isZero := (· = 0)
  text digest := "".pushn (Nat.digitChar digest) 64
  ofBytes text := Fin.ofNat 16 (text.toList.foldl (fun sum c => 2*sum+c.toNat) 0)
  text_length := by decide +kernel
  text_injective := by decide +kernel

def coarsePack (packId : Uuid) (digest : CoarseDigest) (sequence : SequenceRange) :
    TransportPack CoarseDigest :=
  ⟨packId, 1, 0, transportSchemaV1, .sqliteTransport, canonicalRelativePath digest, digest, 100,
    100, 1, sequence, [.drive]⟩

def coarseDelta (sequence : ℕ) (parent digest : CoarseDigest) : LineageDelta CoarseDigest :=
  ⟨sequence, sequence+1, parent, canonicalDeltaChainDigest parent digest, digest,
    coarsePack (.ofNat 128 (sequence+2)) digest ⟨sequence, sequence+1⟩⟩

def coarseDeltas : List (LineageDelta CoarseDigest) :=
  [coarseDelta 0 1 2, coarseDelta 1 (canonicalDeltaChainDigest 1 2) 3]

def coarseLineage (deltas : List (LineageDelta CoarseDigest)) : LineageManifestV2 CoarseDigest :=
  ⟨lineageProtocolV2, transportSchemaV1, 1, 1, 1, 1, ⟨1, 0, 1, [coarsePack 1 1 ⟨0, 0⟩]⟩, deltas,
    deltas.length, (deltas.map (·.chainDigest)).getLastD 1⟩

theorem head_digest_commits_in_coarseLineage :
    (coarseLineage (coarseDeltas.take 1)).packDigests <+: (coarseLineage coarseDeltas).packDigests ∧
      ((coarseLineage coarseDeltas).packDigests++(coarseLineage coarseDeltas).chainDigests).Nodup :=
  have h : (coarseLineage (coarseDeltas.take 1)).validateWithLimits .default = .ok () := by
      decide +kernel
  have h' : (coarseLineage coarseDeltas).validateWithLimits .default = .ok () := by decide +kernel
  have hfree : CollisionFree (coarseLineage (coarseDeltas.take 1)).deltas
      (coarseLineage coarseDeltas).deltas := by
    unfold CollisionFree
    decide +kernel
  ⟨((head_digest_commits_to_the_history h h' hfree rfl).1 (by decide +kernel)).1, by decide +kernel⟩

end LineageManifestV2

end TeslatlasHub.LiveSync
