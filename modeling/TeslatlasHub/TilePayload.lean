import TeslatlasHub.TileSelection

namespace TeslatlasHub.Tiles

open ByteFormat List RunRules SegmentKey Kernel

/-! ### Bytes -/

theorem SegmentKey.bytes_length (key : SegmentKey) : key.bytes.length = segmentBytes := by
  unfold bytes
  rfl

theorem i16_bytes_inj {a b : I16} (h : leBytes 2 (a.1%2^16).toNat = leBytes 2 (b.1%2^16).toNat) :
    a = b := by
  have hlt (n : I16) : (n.1%2^16).toNat < 256^2 := by omega
  have hmod := leBytes_inj (hlt a) (hlt b) h
  refine Subtype.ext ?_
  omega

theorem SegmentKey.bytes_inj {a b : SegmentKey} (h : a.bytes = b.bytes) : a = b := by
  have hself : SelfDelimiting (fun n : I16 => leBytes 2 (n.1%2^16).toNat) fun _ => True :=
    SelfDelimiting.of_length (fun _ _ => leBytes_length 2 _) fun _ _ _ _ => i16_bytes_inj
  have hlist : [a.x1, a.y1, a.x2, a.y2] = [b.x1, b.y1, b.x2, b.y2] :=
    hself.flatMap_inj (fun _ _ => trivial) (fun _ _ => trivial) rfl h
  cases a
  cases b
  cases hlist
  rfl

variable {keys : List SegmentKey} {tile : TileKey}

theorem keys_bytes_inj {keys' : List SegmentKey} (h : keys.flatMap bytes = keys'.flatMap bytes) :
    keys = keys' := by
  have hlength (keys : List SegmentKey) : (keys.flatMap bytes).length = keys.length*segmentBytes :=
    flatMap_length keys fun key _ => key.bytes_length
  have hself : SelfDelimiting bytes fun _ => True :=
    SelfDelimiting.of_length (fun key _ => key.bytes_length) fun _ _ _ _ => bytes_inj
  refine hself.flatMap_inj (fun _ _ => trivial) (fun _ _ => trivial) ?_ h
  have hbytes := congrArg length h
  rw [hlength, hlength] at hbytes
  exact Nat.eq_of_mul_eq_mul_right (by decide) hbytes

theorem shard_selfDelimiting :
    SelfDelimiting Shard.bytes fun shard => shard.blob.length < 2^32 := by
  rintro ⟨⟨z, x, y⟩, blob⟩ ⟨⟨z', x', y'⟩, blob'⟩ xs ys ha hb h
  unfold Shard.bytes at h
  simp only [append_assoc] at h
  have hword {m n : ℕ} (hm : m < 2^32) (hn : n < 2^32) {xs ys : List UInt8}
      (h : leBytes 4 m++xs = leBytes 4 n++ys) : m = n ∧ xs = ys := by
    obtain ⟨hmn, hxy⟩ := append_inj h (by rw [leBytes_length, leBytes_length])
    exact ⟨leBytes_inj (by omega) (by omega) hmn, hxy⟩
  obtain ⟨hz, h⟩ := hword z.2 z'.2 h
  obtain ⟨hx, h⟩ := hword x.2 x'.2 h
  obtain ⟨hy, h⟩ := hword y.2 y'.2 h
  obtain ⟨hlength, h⟩ := hword ha hb h
  obtain ⟨hblob, hrest⟩ := append_inj h hlength
  rw [Fin.ext hz, Fin.ext hx, Fin.ext hy, hblob]
  exact ⟨rfl, hrest⟩

structure Encodes (shards : List Shard) (payload : List UInt8) : Prop where
  count : shards.length < 2^32
  blobs : ∀ shard ∈ shards, shard.blob.length < 2^32
  bytes : payload = leBytes 4 tilePayloadFormatVersion++leBytes 4 shards.length++shards.flatMap
    Shard.bytes

variable {shards : List Shard} {payload : List UInt8}

theorem Encodes.unique {shards' : List Shard} (h : Encodes shards payload)
    (h' : Encodes shards' payload) : shards = shards' := by
  have hbytes := h.bytes.symm.trans h'.bytes
  obtain ⟨hheader, hshards⟩ := append_inj hbytes (by simp only [length_append, leBytes_length])
  obtain ⟨-, hcount⟩ := append_inj hheader rfl
  have hlength := leBytes_inj (by have := h.count; omega) (by have := h'.count; omega) hcount
  exact shard_selfDelimiting.flatMap_inj h.blobs h'.blobs hlength hshards

def payloadBytes (shards : List Shard) : ℕ :=
  tilePayloadHeaderBytes+(shards.map fun shard => tileDirectoryBytes+shard.blob.length).sum

theorem ensurePayloadBound_ok (h : ensurePayloadBound shards = .ok ()) :
    shards.length ≤ maxTilePayloadTiles ∧ payloadBytes shards ≤ maxTilePayloadBytes := by
  unfold ensurePayloadBound at h
  split_ifs at h
  obtain ⟨total, htotal, h⟩ := bind_eq_ok.mp h
  have hsum : total = payloadBytes shards ∧ total ≤ maxUsize :=
    (foldlM_checkedSum (e := TileError.payloadSizeOverflow)
      (fun total shard => by rw [← Nat.add_assoc])
      shards (by decide)).mp htotal
  split_ifs at h
  · omega

theorem encodePayload_ok (h : encodePayload shards = .ok payload) :
    Encodes shards payload ∧ shards.length ≤ maxTilePayloadTiles ∧ payloadBytes shards ≤
    maxTilePayloadBytes ∧ ∀ shard ∈ shards, shard.blob ≠ [] ∧ shard.blob.length%segmentBytes =
    0 := by
  obtain ⟨_, hbound, h⟩ := bind_eq_ok.mp h
  obtain ⟨hcount, hbytes⟩ := ensurePayloadBound_ok hbound
  have htiles : maxTilePayloadTiles < 2^32 := by decide
  rw [if_neg (by omega)] at h
  obtain ⟨hpayload, hshards⟩ : payload = _++shards.flatMap Shard.bytes ∧ ∀ shard ∈ shards,
      (shard.blob ≠ [] ∧ shard.blob.length%segmentBytes = 0) ∧ shard.blob.length < 2^32 := by
    refine foldlM_appends (fun out shard out' hstep => ?_) h
    split at hstep
    · cases hstep
    split at hstep
    · cases hstep
    cases hstep
    rename_i hshape hrange
    refine ⟨rfl, ⟨fun hc => hshape (.inl (List.isEmpty_iff.mpr hc)), ?_⟩, Nat.not_le.mp hrange⟩
    exact not_not.mp fun hc => hshape (.inr hc)
  exact ⟨⟨by omega, fun shard hmem => (hshards shard hmem).2, hpayload⟩, hcount, hbytes,
    fun shard hmem => (hshards shard hmem).1⟩

theorem Encodes.length (h : Encodes shards payload) : payload.length = payloadBytes shards := by
  have hbytes (shard : Shard) : shard.bytes.length = tileDirectoryBytes+shard.blob.length := by
    unfold Shard.bytes
    simp only [length_append, leBytes_length]
    rfl
  rw [h.bytes, length_append, length_append, leBytes_length, leBytes_length, length_flatMap]
  simp only [hbytes]
  rfl

def Kernel.tiles (k : Kernel) : List (TileKey × List SegmentKey) :=
  (finRange 4).flatMap fun tier =>
    (k.accumulators tier).weights.entries.map fun entry => (entry.1, budgetedSegments entry.2)

def tileShard (tile : TileKey × List SegmentKey) : Shard :=
  ⟨tile.1, tile.2.flatMap SegmentKey.bytes⟩

theorem mem_tiles {k : Kernel} :
    (tile, keys) ∈ k.tiles ↔ ∃ tier weights, (k.accumulators tier).weights.get? tile =
    some weights ∧ keys = budgetedSegments weights := by
  unfold tiles
  simp only [mem_flatMap, mem_finRange, true_and, mem_map, OrderedMap.get?_eq_some]
  constructor
  · rintro ⟨tier, entry, hentry, heq⟩
    cases heq
    exact ⟨tier, entry.2, hentry, rfl⟩
  · rintro ⟨tier, weights, hentry, rfl⟩
    exact ⟨tier, _, hentry, rfl⟩

theorem tileKey_lt_of_zoom {a b : TileKey} (h : a.zoom.1 < b.zoom.1) : a < b :=
  Prod.Lex.toLex_lt_toLex.mpr (.inl h)

section Tiles

variable {Point M : Type} [Measure M] [Geometry Point M] {drives : List (Drive Point)} {k : Kernel}

theorem Merged.tiles_ascending (h : Merged (drives.flatMap Drive.events) k) :
    (k.tiles.map (·.1)).Pairwise (· < ·) := by
  have hzoom {tier : Fin 4} {entry : TileKey × SegmentWeights}
      (hentry : entry ∈ (k.accumulators tier).weights.entries) :=
        h.holds (OrderedMap.get?_eq_some.mpr hentry)
  unfold tiles
  rw [map_flatMap, pairwise_flatMap]
  refine ⟨fun tier _ => ?_, ?_⟩
  · rw [map_map]
    exact (k.accumulators tier).weights.keys_sorted
  · refine (pairwise_lt_finRange 4).imp fun {tier tier'} hlt x hx y hy => ?_
    rw [map_map] at hx hy
    obtain ⟨entry, hentry, rfl⟩ := mem_map.mp hx
    obtain ⟨entry', hentry', rfl⟩ := mem_map.mp hy
    refine tileKey_lt_of_zoom ?_
    calc entry.1.zoom.1 ≤ (longRangeLodTiers tier).zoomMax := (hzoom hentry).zoomMax
      _ < (longRangeLodTiers tier').zoomMin := longRangeLodTiers_apart tier tier' hlt
      _ ≤ entry'.1.zoom.1 := (hzoom hentry').zoomMin

variable {weights : SegmentWeights}

theorem budgetedSegments_ne_nil (h : ∃ key, key ∈ weights.keys) :
    budgetedSegments weights ≠ [] := by
  obtain ⟨key, hkey⟩ := h
  have hheaviest : Heaviest weights (fun key => (weights.get? key).getD 0)
      (budgetedSegments weights) := by
    refine budgetedSegments_heaviest weights fun entry hentry => ?_
    rw [OrderedMap.get?_eq_some.mpr hentry, Option.getD_some]
  have hpos := length_pos_of_mem hkey
  have hcount := hheaviest.count
  have hcap : 0 < maxCanonicalSegmentsPerTile := by decide
  intro hc
  rw [hc, length_nil] at hcount
  omega

theorem Merged.finalizeTier (h : Merged (drives.flatMap Drive.events) k) (tier : Fin 4) :
    Tiles.finalizeTier (k.accumulators tier).weights = (k.accumulators tier).weights.entries.map
    fun entry => tileShard (entry.1, budgetedSegments entry.2) := by
  rw [← filterMap_eq_map]
  refine filterMap_congr fun entry hentry => ?_
  have hne := budgetedSegments_ne_nil (h.holds (OrderedMap.get?_eq_some.mpr hentry)).nonempty
  rw [if_neg fun hc => hne (List.isEmpty_iff.mp hc)]
  rfl

theorem Merged.packTiers (h : Merged (drives.flatMap Drive.events) k)
    (hpack : k.packTiers = .ok shards) : shards = k.tiles.map tileShard := by
  obtain ⟨hshards, -⟩ : shards = []++(finRange 4).flatMap
      (fun tier => Tiles.finalizeTier (k.accumulators tier).weights) ∧
        ∀ tier ∈ finRange 4, True := by
    refine foldlM_appends (fun out tier out' hstep => ?_) hpack
    obtain ⟨_, _, rfl⟩ := map_eq_ok.mp hstep
    exact ⟨rfl, trivial⟩
  rw [hshards, nil_append]
  unfold tiles
  rw [map_flatMap]
  simp only [h.finalizeTier, map_map]
  rfl

theorem Kernel.finish_readyData {expected : Option ℕ} {driveCount tileCount : ℕ}
    {diagnostics : Diagnostics}
    (h : k.finish expected = .ok (.readyData driveCount tileCount payload diagnostics)) :
    ∃ shards, k.packTiers = .ok shards ∧ tileCount = shards.length ∧ diagnostics.producedTileCount =
    shards.length ∧ encodePayload (shards.mergeSort fun a b => decide (a.tile ≤ b.tile)) =
    .ok payload := by
  unfold finish at h
  dsimp only at h
  split at h
  · cases h
  split at h
  · cases h
  obtain ⟨shards, hpack, h⟩ := bind_eq_ok.mp h
  split at h
  · cases h
  split at h
  · cases h
  split at h
  · cases h
  obtain ⟨payload', hencode, heq⟩ := map_eq_ok.mp h
  cases heq
  exact ⟨shards, hpack, rfl, rfl, hencode⟩

theorem Merged.mergeSort_tiles (h : Merged (drives.flatMap Drive.events) k) :
    ((k.tiles.map tileShard).mergeSort fun a b => decide (a.tile ≤ b.tile)) = k.tiles.map
    tileShard := by
  refine mergeSort_of_pairwise (pairwise_map.mpr ?_)
  exact (pairwise_map.mp h.tiles_ascending).imp fun hlt => decide_eq_true hlt.le

structure SelectedSegments (drawn : List (TileKey × SegmentKey)) (tile : TileKey)
    (keys : List SegmentKey) :
    Prop where
  nonempty : keys ≠ []
  ascending : keys.Pairwise (· < ·)
  subset : ∀ key ∈ keys, (tile, key) ∈ drawn
  count : keys.length =
    min maxCanonicalSegmentsPerTile ((drawn.filter fun d => d.1 = tile).map (·.2)).dedup.length
  heaviest : ∀ key ∈ keys, ∀ key', (tile, key') ∈ drawn → key' ∉ keys →
    Outranks (fun key => drawn.count (tile, key)) key key'

structure PayloadOf (drawn : List (TileKey × SegmentKey)) (payload : List UInt8)
    (tiles : List (TileKey × List SegmentKey)) : Prop where
  shards : ∀ shards, Encodes shards payload ↔ shards = tiles.map tileShard
  blobs : ∀ tile ∈ tiles, (tileShard tile).blob ≠ [] ∧ (tileShard tile).blob.length%segmentBytes = 0
  keys : ∀ tile ∈ tiles, ∀ keys, keys.flatMap SegmentKey.bytes = (tileShard tile).blob ↔
    keys = tile.2
  ascending : (tiles.map (·.1)).Pairwise (· < ·)
  complete : ∀ tile, tile ∈ tiles.map (·.1) ↔ tile ∈ drawn.map (·.1)
  selected : ∀ tile ∈ tiles, SelectedSegments drawn tile.1 tile.2
  tileLimit : tiles.length ≤ maxTilePayloadTiles
  byteLimit : payload.length ≤ maxTilePayloadBytes

theorem Holds.selected {drawn : List (TileKey × SegmentKey)} {tier : Fin 4}
    (h : Holds drawn tier tile weights) :
    SelectedSegments drawn tile (budgetedSegments weights) := by
  have hheaviest : Heaviest weights (fun key => drawn.count (tile, key))
      (budgetedSegments weights) :=
    budgetedSegments_heaviest weights h.weight
  have hkeys : weights.keys.Perm ((drawn.filter fun d => d.1 = tile).map (·.2)).dedup := by
    refine (perm_ext_iff_of_nodup weights.keys_nodup (nodup_dedup _)).mpr fun key => ?_
    rw [h.keys, mem_dedup, mem_map]
    constructor
    · intro hmem
      exact ⟨(tile, key), mem_filter.mpr ⟨hmem, decide_eq_true rfl⟩, rfl⟩
    · rintro ⟨⟨tile', key'⟩, hmem, rfl⟩
      obtain ⟨hdrawn, htile⟩ := mem_filter.mp hmem
      cases of_decide_eq_true htile
      exact hdrawn
  refine ⟨budgetedSegments_ne_nil h.nonempty, hheaviest.ascending, fun key hkey => ?_, ?_,
    fun key hkey key' hdrawn hnot => ?_⟩
  · exact (h.keys key).mp (hheaviest.subset key hkey)
  · rw [hheaviest.count, hkeys.length_eq]
  · exact hheaviest.outrank key hkey key' ((h.keys key').mpr hdrawn) hnot

theorem Merged.payloadOf (h : Merged (drives.flatMap Drive.events) k)
    (hencode : encodePayload (k.tiles.map tileShard) = .ok payload) :
    PayloadOf (drawnSegments drives) payload k.tiles := by
  obtain ⟨hencodes, hcount, hbytes, hblobs⟩ := encodePayload_ok hencode
  rw [length_map] at hcount
  refine ⟨fun shards => ⟨fun hs => hs.unique hencodes, fun hs => hs ▸ hencodes⟩, fun tile hmem =>
    ?_, fun tile _ keys => ⟨keys_bytes_inj, fun hk => by rw [hk]; rfl⟩,
      h.tiles_ascending, fun tile => ?_,
    fun tile hmem => ?_, hcount, ?_⟩
  · exact hblobs _ (mem_map_of_mem hmem)
  · rw [← h.holds_iff, mem_map]
    constructor
    · rintro ⟨⟨tile', keys⟩, hmem, rfl⟩
      obtain ⟨tier, weights, htile, -⟩ := mem_tiles.mp hmem
      exact ⟨tier, weights, htile⟩
    · rintro ⟨tier, weights, htile⟩
      exact ⟨_, mem_tiles.mpr ⟨tier, weights, htile, rfl⟩, rfl⟩
  · obtain ⟨tier, weights, htile, hkeys⟩ := mem_tiles.mp hmem
    rw [hkeys]
    exact (h.holds htile).selected
  · rw [hencodes.length]
    exact hbytes

end Tiles

section Generation

variable {Point M : Type} [Measure M] [Geometry Point M]

/-- A payload is read in one way, as the tiles that the drives are drawn in, each with its heaviest
segments. -/
theorem payload_reads_back_the_heaviest_segments {expected limit : Option ℕ}
    {pages : List (List (Drive Point))} {driveCount tileCount : ℕ} {payload : List UInt8}
    {diagnostics : Diagnostics}
    (h : generateInternal expected limit pages =
    .ok (.readyData driveCount tileCount payload diagnostics)) :
    ∃ tiles, PayloadOf (drawnSegments pages.flatten) payload tiles ∧ tiles.length = tileCount ∧
      tiles.length = diagnostics.producedTileCount := by
  obtain ⟨⟨k, hk, hfinish⟩, -⟩ := generateInternal_eq_ok.mp h
  rw [Kernel.foldlM_consumePlain (Kernel.fitsPage_of_consumePlain hk)] at hk
  have hmerged := Merged.of_run hk
  obtain ⟨shards, hpack, htiles, hproduced, hencode⟩ := Kernel.finish_readyData hfinish
  rw [hmerged.packTiers hpack] at htiles hproduced hencode
  rw [hmerged.mergeSort_tiles] at hencode
  rw [length_map] at htiles hproduced
  exact ⟨k.tiles, hmerged.payloadOf hencode, htiles.symm, hproduced.symm⟩

theorem Kernel.finish_inOrder {k : Kernel} {count : ℕ} (hcount : count ≤ maxI64)
    (hdrives : ∀ tier, (k.accumulators tier).driveCount = count) (hpack : k.packTiers = .ok shards)
      (hne : shards ≠ [])
    (hsorted : shards.Pairwise fun a b => a.tile ≤ b.tile) (hencode : encodePayload shards =
      .ok payload) :
    k.finish (some count) = .ok (.readyData count shards.length payload
      { visitorInvocations := 1, driveCount := count, inputPointCount := k.inputPointCount
        producedTileCount := shards.length }) := by
  have hlength := (encodePayload_ok hencode).2.1
  have hroom : maxTilePayloadTiles ≤ maxI64 := by decide
  have hsort : (shards.mergeSort fun a b => decide (a.tile ≤ b.tile)) = shards :=
    mergeSort_of_pairwise (hsorted.imp fun hle => decide_eq_true hle)
  have hagree : ((finRange 4).any fun tier => (k.accumulators tier).driveCount != count) =
      false := by
    simp only [hdrives, bne_self_eq_false, any_eq_false, Bool.false_eq_true, not_false_eq_true,
      implies_true]
  unfold finish
  dsimp only
  rw [hdrives 0, hagree, Option.any_some, bne_self_eq_false, hpack]
  change (if maxI64 < count then _ else _) = _
  rw [if_neg (by omega), if_neg (by omega), if_neg (fun hc => hne (List.isEmpty_iff.mp hc)), hsort,
    hencode]
  rfl

def gridDrive : Drive GridPoint := ⟨2, [⟨7, 7⟩, ⟨7, 90⟩]⟩

theorem gridDrive_payload : ∃ payload diagnostics,
    generateTilePayloadV1 [gridDrive] = .ok (.readyData 1 12 payload diagnostics) := by
  have hok : (visitPages [[gridDrive]] ⟨none, 0⟩).toOption.any (fun r =>
      decide (∀ tier, (r.1.accumulators tier).driveCount = 1) &&
        r.1.packTiers.toOption.any fun shards =>
        decide (shards.length = 12) && decide (shards.Pairwise fun a b => a.tile ≤ b.tile) &&
          (encodePayload shards).isOk) := by
    decide +kernel
  obtain ⟨⟨k, meter⟩, hk, hcheck⟩ := exists_ok_of_any hok
  obtain ⟨hdrives, hcheck⟩ := Bool.and_eq_true_iff.mp hcheck
  obtain ⟨shards, hpack, hcheck⟩ := exists_ok_of_any hcheck
  obtain ⟨hcheck, hencode⟩ := Bool.and_eq_true_iff.mp hcheck
  obtain ⟨hlength, hsorted⟩ := Bool.and_eq_true_iff.mp hcheck
  obtain ⟨payload, hencode⟩ := exists_ok_of_isOk hencode
  have hlength := of_decide_eq_true hlength
  have hne : shards ≠ [] := fun hc => by rw [hc] at hlength; cases hlength
  have hfinish := finish_inOrder (by decide) (of_decide_eq_true hdrives) hpack hne
    (of_decide_eq_true hsorted) hencode
  rw [hlength] at hfinish
  have hrun : generateTilePayloadV1 [gridDrive] = k.finish (some 1) := by
    unfold generateTilePayloadV1 generateInternal
    rw [hk]
    rfl
  exact ⟨payload, _, hrun.trans hfinish⟩

theorem payload_reads_back_the_heaviest_segments_grid : ∃ payload diagnostics tiles,
    generateTilePayloadV1 [gridDrive] = .ok (.readyData 1 12 payload diagnostics) ∧
      PayloadOf (drawnSegments [gridDrive]) payload tiles ∧ tiles.length = 12 := by
  obtain ⟨payload, diagnostics, h⟩ := gridDrive_payload
  obtain ⟨tiles, hpayload, htiles, -⟩ := payload_reads_back_the_heaviest_segments h
  exact ⟨payload, diagnostics, tiles, h, hpayload, htiles⟩

end Generation

end TeslatlasHub.Tiles
