import TeslatlasHub.TileDelivery

namespace TeslatlasHub.Tiles

open List Option Drive

/-! ### The heaviest segments of a tile -/

def Outranks (weight : SegmentKey → ℕ) (key key' : SegmentKey) : Prop :=
  weight key' < weight key ∨ weight key' = weight key ∧ key < key'

variable {left right : SegmentKey × ℕ} {weight : SegmentKey → ℕ}

theorem heavierFirst_iff :
    heavierFirst left right ↔ right.2 < left.2 ∨ left.2 = right.2 ∧ left.1 ≤ right.1 := by
  unfold heavierFirst
  rw [Bool.or_eq_true, Bool.and_eq_true, decide_eq_true_iff, decide_eq_true_iff, decide_eq_true_iff]

theorem heavierFirst_trans (a b c : SegmentKey × ℕ) (hab : heavierFirst a b)
    (hbc : heavierFirst b c) : heavierFirst a c := by
  rw [heavierFirst_iff] at hab hbc ⊢
  rcases hab with hab | ⟨hab, hle⟩
  · left
    omega
  · rcases hbc with hbc | ⟨hbc, hle'⟩
    · left
      omega
    · exact .inr ⟨hab.trans hbc, hle.trans hle'⟩

theorem heavierFirst_total (a b : SegmentKey × ℕ) : (heavierFirst a b || heavierFirst b a) := by
  rw [Bool.or_eq_true, heavierFirst_iff, heavierFirst_iff]
  rcases Nat.lt_trichotomy a.2 b.2 with h | h | h
  · exact .inr (.inl h)
  · rcases le_total a.1 b.1 with hle | hle
    · exact .inl (.inr ⟨h, hle⟩)
    · exact .inr (.inr ⟨h.symm, hle⟩)
  · exact .inl (.inl h)

theorem outranks_of_heavierFirst (h : heavierFirst left right) (hne : left.1 ≠ right.1)
    (hleft : left.2 = weight left.1) (hright : right.2 = weight right.1) :
    Outranks weight left.1 right.1 := by
  unfold Outranks
  rw [← hleft, ← hright]
  rcases heavierFirst_iff.mp h with hlt | ⟨heq, hle⟩
  · exact .inl hlt
  · exact .inr ⟨heq.symm, lt_of_le_of_ne hle hne⟩

structure Heaviest (weights : SegmentWeights) (weight : SegmentKey → ℕ) (keys : List SegmentKey) :
    Prop where
  ascending : keys.Pairwise (· < ·)
  subset : ∀ key ∈ keys, key ∈ weights.keys
  count : keys.length = min maxCanonicalSegmentsPerTile weights.keys.length
  outrank : ∀ key ∈ keys, ∀ key' ∈ weights.keys, key' ∉ keys → Outranks weight key key'

theorem keys_mergeSort_ascending {keys : List SegmentKey} (h : keys.Nodup) :
    (keys.mergeSort fun a b => decide (a ≤ b)).Pairwise (· < ·) := by
  have hle : (keys.mergeSort fun a b => decide (a ≤ b)).Pairwise fun a b => decide (a ≤ b) =
      true := by
    refine pairwise_mergeSort (fun a b c hab hbc => ?_) (fun a b => ?_) keys
    · rw [decide_eq_true_iff] at hab hbc ⊢
      exact hab.trans hbc
    · rw [Bool.or_eq_true, decide_eq_true_iff, decide_eq_true_iff]
      exact le_total a b
  have hnodup : (keys.mergeSort fun a b => decide (a ≤ b)).Nodup :=
    (mergeSort_perm keys _).nodup_iff.mpr h
  exact (hle.and hnodup).imp fun hab => lt_of_le_of_ne (of_decide_eq_true hab.1) hab.2

theorem budgetedSegments_heaviest (weights : SegmentWeights)
    (hweight : ∀ entry ∈ weights.entries, entry.2 = weight entry.1) :
    Heaviest weights weight (budgetedSegments weights) := by
  have hlength : weights.keys.length = weights.entries.length := length_map _
  unfold budgetedSegments
  split_ifs with hall
  · refine ⟨weights.keys_sorted, fun _ h => h, ?_, fun key _ key' h hc => absurd h hc⟩
    rw [hlength, Nat.min_eq_right hall]
  · -- the sorted entries, cut at the budget
    let ranked := weights.entries.mergeSort heavierFirst
    let taken := ranked.take maxCanonicalSegmentsPerTile
    have hranked : ranked.Perm weights.entries := mergeSort_perm _ _
    have htaken (entry : SegmentKey × ℕ) (h : entry ∈ taken) : entry ∈ weights.entries :=
      hranked.mem_iff.mp (mem_of_mem_take h)
    have hsorted : (taken++ranked.drop maxCanonicalSegmentsPerTile).Pairwise
        fun a b => heavierFirst a b = true := by
      rw [take_append_drop]
      exact pairwise_mergeSort heavierFirst_trans heavierFirst_total _
    have hkeys (key : SegmentKey) : key ∈ (taken.map (·.1)).mergeSort (fun a b => decide (a ≤ b)) ↔
        ∃ entry ∈ taken, entry.1 = key := by
      rw [(mergeSort_perm _ _).mem_iff, List.mem_map]
    have hranks : (ranked.map Prod.fst).Nodup := (hranked.map Prod.fst).nodup_iff.mpr
        weights.keys_nodup
    have hnodup : (taken.map (·.1)).Nodup :=
      hranks.sublist ((take_sublist maxCanonicalSegmentsPerTile ranked).map Prod.fst)
    refine ⟨keys_mergeSort_ascending hnodup, fun key h => ?_, ?_, fun key h key' hkey' hnot => ?_⟩
    · obtain ⟨entry, hentry, rfl⟩ := (hkeys key).mp h
      exact List.mem_map_of_mem (htaken entry hentry)
    · rw [length_mergeSort, length_map, length_take, hranked.length_eq, hlength]
    · obtain ⟨entry, hentry, rfl⟩ := (hkeys key).mp h
      obtain ⟨entry', hentry', rfl⟩ := List.mem_map.mp hkey'
      have hdropped : entry' ∈ ranked.drop maxCanonicalSegmentsPerTile := by
        have hmem := hranked.mem_iff.mpr hentry'
        rw [← take_append_drop maxCanonicalSegmentsPerTile ranked, mem_append] at hmem
        exact hmem.resolve_left fun hc => hnot ((hkeys _).mpr ⟨entry', hc, rfl⟩)
      have hne : entry.1 ≠ entry'.1 := fun hc => hnot ((hkeys _).mpr ⟨entry, hentry, hc⟩)
      exact outranks_of_heavierFirst ((pairwise_append.mp hsorted).2.2 entry hentry entry' hdropped)
        hne
        (hweight entry (htaken entry hentry)) (hweight entry' hentry')

section Drawn

variable {Point M : Type} [Measure M] [Geometry Point M]

def drawnSegments (drives : List (Drive Point)) : List (TileKey × SegmentKey) :=
  drives.flatMap fun drive => (finRange 4).flatMap fun tier =>
    (tierSegments drive.points tier).filterMap fun segment =>
      segment.key.toOption.map fun key => (segment.tile, key)

theorem hits_tierEvents (points : List Point) (tier : Fin 4) :
    (hits (tierEvents points tier)).map (·.2) = (tierSegments points tier).filterMap fun segment =>
    segment.key.toOption.map fun key => (segment.tile, key) := by
  unfold hits tierEvents
  rw [filterMap_append, filterMap_map, map_append, map_filterMap]
  change filterMap _ _++[] = _
  rw [append_nil]
  refine filterMap_congr fun segment _ => ?_
  unfold Event.hit?
  rw [Function.comp_apply, Option.map_map]
  rfl

theorem drawnSegments_eq (drives : List (Drive Point)) :
    drawnSegments drives = (hits (drives.flatMap events)).map (·.2) := by
  have hdrive (drive : Drive Point) : (hits drive.events).map (·.2) =
      (finRange 4).flatMap fun tier => (hits (tierEvents drive.points tier)).map (·.2) := by
    change (hits ((finRange 4).flatMap (tierEvents drive.points))).map (·.2) = _
    rw [hits, filterMap_flatMap, map_flatMap]
    rfl
  have hall : (hits (drives.flatMap events)).map (·.2) = drives.flatMap fun drive =>
      (hits drive.events).map (·.2) := by
    rw [hits, filterMap_flatMap, map_flatMap]
    rfl
  rw [hall]
  simp only [hdrive, hits_tierEvents]
  rfl

variable {tier : Fin 4} {tile : TileKey} {key : SegmentKey}

theorem mem_hits {events : List Event} : (tier, tile, key) ∈ hits events ↔
      ∃ segment, .segment tier segment ∈ events ∧ segment.tile = tile ∧ segment.key = .ok key := by
  unfold hits
  rw [mem_filterMap]
  constructor
  · rintro ⟨event, hmem, hhit⟩
    cases event with
    | points count => cases hhit
    | complete tier' => cases hhit
    | segment tier' segment =>
      obtain ⟨key', hkey, heq⟩ := map_eq_some_iff.mp hhit
      cases heq
      refine ⟨segment, hmem, rfl, ?_⟩
      cases hk : segment.key with
      | error error =>
        rw [hk] at hkey
        cases hkey
      | ok key =>
        rw [hk] at hkey
        cases hkey
        rfl
  · rintro ⟨segment, hmem, rfl, hkey⟩
    refine ⟨_, hmem, ?_⟩
    unfold Event.hit?
    dsimp only
    rw [hkey]
    rfl

variable {segment : TileSegment}

theorem segment_mem_events {drive : Drive Point} :
    .segment tier segment ∈ drive.events ↔ segment ∈ tierSegments drive.points tier := by
  unfold events tierEvents
  simp only [mem_cons, mem_flatMap, mem_append, List.mem_map, reduceCtorEq,
    Event.segment.injEq, mem_finRange, true_and, or_false, false_or, not_mem_nil]
  constructor
  · rintro ⟨tier', segment', hmem, rfl, rfl⟩
    exact hmem
  · intro hmem
    exact ⟨tier, segment, hmem, rfl, rfl⟩

omit [Measure M] in
theorem zoom_of_mem_addProjectedDrive {zoom : U32} {start : Option Point}
    {points : List (Option Point)} (h : segment ∈ addProjectedDrive zoom start points) :
    segment.zoom = zoom := by
  fun_induction addProjectedDrive zoom start points with
  | case1 => cases h
  | case2 _ _ ih => exact ih h
  | case3 _ _ ih => exact ih h
  | case4 start point points crossings ih =>
    rcases mem_append.mp h with h | h
    · obtain ⟨_, _, rfl⟩ := List.mem_map.mp h
      rfl
    · exact ih h

theorem zoom_of_mem_tierSegments {points : List Point} (h : segment ∈ tierSegments points tier) :
    (longRangeLodTiers tier).zoomMin ≤ segment.zoom.1 ∧
    segment.zoom.1 ≤ (longRangeLodTiers tier).zoomMax := by
  obtain ⟨run, -, h⟩ := mem_flatMap.mp h
  unfold addDriveMultiZoom at h
  split at h
  · cases h
  obtain ⟨zoom, hzoom, h⟩ := mem_flatMap.mp h
  have hmax : ∀ tier, (longRangeLodTiers tier).zoomMax < 2^32 := by decide
  have hroom := hmax tier
  obtain ⟨hmin, hlt⟩ := mem_range'_1.mp hzoom
  rw [zoom_of_mem_addProjectedDrive h, Fin.val_ofNat, Nat.mod_eq_of_lt (by omega)]
  omega

theorem longRangeLodTiers_apart : ∀ tier tier' : Fin 4, tier < tier' →
    (longRangeLodTiers tier).zoomMax < (longRangeLodTiers tier').zoomMin := by
  decide

structure Holds (drawn : List (TileKey × SegmentKey)) (tier : Fin 4) (tile : TileKey)
    (weights : SegmentWeights) :
    Prop where
  zoomMin : (longRangeLodTiers tier).zoomMin ≤ tile.zoom.1
  zoomMax : tile.zoom.1 ≤ (longRangeLodTiers tier).zoomMax
  keys : ∀ key, key ∈ weights.keys ↔ (tile, key) ∈ drawn
  weight : ∀ entry ∈ weights.entries, entry.2 = drawn.count (tile, entry.1)
  nonempty : ∃ key, key ∈ weights.keys

variable {drives : List (Drive Point)}

theorem zoom_of_mem_hits (h : (tier, tile, key) ∈ hits (drives.flatMap events)) :
    (longRangeLodTiers tier).zoomMin ≤ tile.zoom.1 ∧
    tile.zoom.1 ≤ (longRangeLodTiers tier).zoomMax := by
  obtain ⟨segment, hmem, rfl, -⟩ := mem_hits.mp h
  obtain ⟨drive, -, hmem⟩ := mem_flatMap.mp hmem
  exact zoom_of_mem_tierSegments (segment_mem_events.mp hmem)

theorem tier_unique {tier' : Fin 4} {key' : SegmentKey}
    (h : (tier, tile, key) ∈ hits (drives.flatMap events))
    (h' : (tier', tile, key') ∈ hits (drives.flatMap events)) : tier = tier' := by
  have hz := zoom_of_mem_hits h
  have hz' := zoom_of_mem_hits h'
  rcases lt_trichotomy tier tier' with hlt | heq | hlt
  · have := longRangeLodTiers_apart tier tier' hlt
    omega
  · exact heq
  · have := longRangeLodTiers_apart tier' tier hlt
    omega

theorem count_drawnSegments (h : (tier, tile, key) ∈ hits (drives.flatMap events)) :
    (drawnSegments drives).count (tile, key) = (hits (drives.flatMap events)).count (tier, tile,
    key) := by
  rw [drawnSegments_eq, count_eq_countP, countP_map, count_eq_countP]
  refine countP_congr fun hit hmem => ?_
  rw [Function.comp_apply, beq_iff_eq, beq_iff_eq]
  constructor
  · intro heq
    obtain ⟨tier', tile', key'⟩ := hit
    cases heq
    rw [tier_unique hmem h]
  · intro heq
    rw [heq]

theorem mem_drawnSegments :
    (tile, key) ∈ drawnSegments drives ↔ ∃ tier, (tier, tile, key) ∈
    hits (drives.flatMap events) := by
  rw [drawnSegments_eq, List.mem_map]
  constructor
  · rintro ⟨⟨tier, tile', key'⟩, hmem, heq⟩
    cases heq
    exact ⟨tier, hmem⟩
  · rintro ⟨tier, hmem⟩
    exact ⟨_, hmem, rfl⟩

theorem Merged.holds {k : Kernel} (h : Merged (drives.flatMap events) k) {weights : SegmentWeights}
    (htile : (k.accumulators tier).weights.get? tile = some weights) :
    Holds (drawnSegments drives) tier tile weights := by
  -- some segment put the tile there
  obtain ⟨key₀, hmem⟩ : ∃ key, (tier, tile, key) ∈ hits (drives.flatMap events) := by
    obtain ⟨⟨tier', tile', key⟩, hmem, heq⟩ :=
      List.mem_map.mp ((h.tile tier tile).mp (by rw [htile]; rfl))
    cases heq
    exact ⟨key, hmem⟩
  have hget (key : SegmentKey) : weights.get? key = k.weight? (tier, tile, key) := by
    unfold Kernel.weight?
    rw [htile, bind_some]
  have hkeys (key : SegmentKey) : key ∈ weights.keys ↔ (tier, tile, key) ∈
      hits (drives.flatMap events) := by
    rw [OrderedMap.mem_keys, hget, h.weight]
    by_cases hc : (tier, tile, key) ∈ hits (drives.flatMap events)
    · rw [if_pos hc]
      exact ⟨fun _ => hc, fun _ => rfl⟩
    · rw [if_neg hc]
      exact ⟨fun hf => (nomatch hf), fun hf => absurd hf hc⟩
  refine ⟨(zoom_of_mem_hits hmem).1, (zoom_of_mem_hits hmem).2, fun key => ?_, fun entry hentry =>
    ?_, ⟨key₀, (hkeys key₀).mpr hmem⟩⟩
  · rw [hkeys, mem_drawnSegments]
    refine ⟨fun hk => ⟨tier, hk⟩, fun ⟨tier', hk⟩ => ?_⟩
    rw [tier_unique hmem hk]
    exact hk
  · have hin : (tier, tile, entry.1) ∈ hits (drives.flatMap events) :=
      (hkeys entry.1).mp (List.mem_map_of_mem hentry)
    have hweight := hget entry.1
    rw [h.weight, if_pos hin, OrderedMap.get?_eq_some.mpr hentry, some.injEq] at hweight
    rw [hweight, count_drawnSegments hin]

theorem Merged.holds_iff {k : Kernel} (h : Merged (drives.flatMap events) k) (tile : TileKey) :
    (∃ tier weights, (k.accumulators tier).weights.get? tile = some weights) ↔
      tile ∈ (drawnSegments drives).map (·.1) := by
  rw [List.mem_map]
  constructor
  · rintro ⟨tier, weights, htile⟩
    obtain ⟨key, hkey⟩ := (h.holds htile).nonempty
    exact ⟨(tile, key), ((h.holds htile).keys key).mp hkey, rfl⟩
  · rintro ⟨⟨tile', key⟩, hmem, rfl⟩
    obtain ⟨tier, hhit⟩ := mem_drawnSegments.mp hmem
    have hsome := (h.tile tier tile').mpr (List.mem_map.mpr ⟨_, hhit, rfl⟩)
    obtain ⟨weights, hweights⟩ := isSome_iff_exists.mp hsome
    exact ⟨tier, weights, hweights⟩

end Drawn

end TeslatlasHub.Tiles
