import TeslatlasHub.TileEvents

namespace TeslatlasHub.Tiles

open List Option Kernel OrderedMap Function RunRules Prod

/-! ### What a sequence of events adds up to -/

abbrev Hit := Fin 4 × TileKey × SegmentKey

def Hit.tile (hit : Hit) : Fin 4 × TileKey := (hit.1, hit.2.1)

def Event.hit? : Event → Option Hit
  | .segment tier drawn => drawn.key.toOption.map fun key => (tier, drawn.tile, key)
  | .points _ | .complete _ => none

def Event.pointCount : Event → ℕ
  | .points count => count
  | .segment .. | .complete _ => 0

def hits (events : List Event) : List Hit := events.filterMap Event.hit?

structure Fits (events : List Event) : Prop where
  coordinates : ∀ tier segment, .segment tier segment ∈ events → ∃ key, segment.key = .ok key
  tiles : ((hits events).map Hit.tile).toFinset.card ≤ maxTilePayloadTiles
  entries : (hits events).toFinset.card ≤ maxCanonicalRawWeightEntries
  weights : ∀ hit, (hits events).count hit ≤ maxU64
  drives : ∀ tier, events.count (.complete tier) ≤ maxUsize
  points : (events.map Event.pointCount).sum ≤ maxI64

variable {events events' : List Event} {k : Kernel} {segment : TileSegment} {key : SegmentKey}

theorem hits_perm (h : events.Perm events') : (hits events).Perm (hits events') := h.filterMap _

theorem Fits.perm (h : Fits events) (hperm : events.Perm events') : Fits events' := by
  have hhits := hits_perm hperm
  refine ⟨fun tier segment hmem => h.coordinates tier segment (hperm.mem_iff.mpr hmem), ?_,
    ?_, fun hit => ?_, fun tier => ?_, ?_⟩
  · rw [← toFinset_eq_of_perm _ _ (hhits.map Hit.tile)]
    exact h.tiles
  · rw [← toFinset_eq_of_perm _ _ hhits]
    exact h.entries
  · rw [← hhits.count_eq]
    exact h.weights hit
  · rw [← hperm.count_eq]
    exact h.drives tier
  · rw [← (hperm.map Event.pointCount).sum_nat]
    exact h.points

theorem Fits.of_append {earlier later : List Event} (h : Fits (later++earlier)) : Fits earlier := by
  have hsub : earlier.Sublist (later++earlier) := sublist_append_right later earlier
  have hhits : (hits earlier).Sublist (hits (later++earlier)) := hsub.filterMap _
  have hcard {α : Type} [DecidableEq α] {l l' : List α} (hl : l.Sublist l') :
      l.toFinset.card ≤ l'.toFinset.card := by
    refine Finset.card_le_card fun a ha => ?_
    exact List.mem_toFinset.mpr (hl.subset (List.mem_toFinset.mp ha))
  refine ⟨fun tier segment hmem => h.coordinates tier segment (hsub.subset hmem), ?_,
    ?_, fun hit => ?_, fun tier => ?_, ?_⟩
  · exact (hcard (hhits.map Hit.tile)).trans h.tiles
  · exact (hcard hhits).trans h.entries
  · exact (hhits.count_le hit).trans (h.weights hit)
  · exact (hsub.count_le _).trans (h.drives tier)
  · have := h.points
    rw [map_append, sum_append] at this
    omega

def Kernel.weight? (k : Kernel) (hit : Hit) : Option ℕ :=
  ((k.accumulators hit.1).weights.get? hit.2.1).bind fun weights => weights.get? hit.2.2

structure Merged (events : List Event) (k : Kernel) : Prop where
  weight : ∀ hit, k.weight? hit = if hit ∈ hits events then some ((hits events).count hit) else none
  tile : ∀ tier tile, ((k.accumulators tier).weights.get? tile).isSome ↔
    (tier, tile) ∈ (hits events).map Hit.tile
  used : k.budget.used = (hits events).toFinset.card
  tileCount : k.budget.tileCount = ((hits events).map Hit.tile).toFinset.card
  driveCount : ∀ tier, (k.accumulators tier).driveCount = events.count (.complete tier)
  points : k.inputPointCount = (events.map Event.pointCount).sum

theorem Merged.perm (h : Merged events k) (hperm : events.Perm events') : Merged events' k := by
  have hhits := hits_perm hperm
  refine ⟨fun hit => ?_, fun tier tile => ?_, ?_, ?_, fun tier => ?_, ?_⟩
  · rw [h.weight, hhits.count_eq]
    simp only [hhits.mem_iff]
  · rw [h.tile, (hhits.map Hit.tile).mem_iff]
  · rw [h.used, toFinset_eq_of_perm _ _ hhits]
  · rw [h.tileCount, toFinset_eq_of_perm _ _ (hhits.map Hit.tile)]
  · rw [h.driveCount, hperm.count_eq]
  · rw [h.points, (hperm.map Event.pointCount).sum_nat]

theorem Merged.unique {k' : Kernel} (h : Merged events k) (h' : Merged events k') : k = k' := by
  have hweight (hit : Hit) : k.weight? hit = k'.weight? hit := by
    rw [h.weight, h'.weight]
  have htile (tier : Fin 4) (tile : TileKey) : ((k.accumulators tier).weights.get? tile).isSome ↔
      ((k'.accumulators tier).weights.get? tile).isSome := by
    rw [h.tile, h'.tile]
  have hweights (tier : Fin 4) : (k.accumulators tier).weights =
      (k'.accumulators tier).weights := by
    refine ext_get? fun tile => ?_
    cases hw : (k.accumulators tier).weights.get? tile with
    | none =>
      have hnone := (htile tier tile).not
      rw [hw, isSome_none, not_isSome_iff_eq_none] at hnone
      exact (hnone.mp (fun hc => (nomatch hc))).symm
    | some weights =>
      obtain ⟨weights', hw'⟩ := isSome_iff_exists.mp ((htile tier tile).mp (by rw [hw]; rfl))
      rw [hw', some.injEq]
      refine ext_get? fun key => ?_
      have := hweight (tier, tile, key)
      unfold weight? at this
      rw [hw, hw'] at this
      exact this
  refine Kernel.ext (funext fun tier => ?_) ?_ (h.points.trans h'.points.symm)
  · exact TierAccumulator.ext (hweights tier) ((h.driveCount tier).trans (h'.driveCount tier).symm)
  · exact WeightBudget.ext (h.used.trans h'.used.symm) (h.tileCount.trans h'.tileCount.symm)

theorem Merged.empty : Merged [] {} :=
  ⟨fun _ => rfl, fun _ _ => ⟨fun h => (nomatch h), fun h => (nomatch h)⟩, rfl, rfl, fun _ => rfl,
    rfl⟩

theorem hits_segment {tier : Fin 4} (hkey : segment.key = .ok key) (events : List Event) :
    hits (.segment tier segment :: events) = (tier, segment.tile, key) :: hits events := by
  refine filterMap_cons_some ?_
  unfold Event.hit?
  dsimp only
  rw [hkey]
  rfl

theorem card_toFinset_cons_of_mem {α : Type} [DecidableEq α] {a : α} {l : List α} (h : a ∈ l) :
    (a :: l).toFinset.card = l.toFinset.card := by
  rw [toFinset_cons, Finset.insert_eq_of_mem (List.mem_toFinset.mpr h)]

theorem card_toFinset_cons_of_notMem {α : Type} [DecidableEq α] {a : α} {l : List α} (h : a ∉ l) :
    (a :: l).toFinset.card = l.toFinset.card+1 := by
  rw [toFinset_cons, Finset.card_insert_of_notMem (mt List.mem_toFinset.mp h)]

section Merge

variable {events : List Event} {k : Kernel} {tier : Fin 4} {tile : TileKey}

theorem Merged.mem_hits (h : Merged events k) {hit : Hit} :
    hit ∈ hits events ↔ (k.weight? hit).isSome := by
  rw [h.weight]
  split
  · exact ⟨fun _ => rfl, fun _ => by assumption⟩
  · exact ⟨fun hc => by contradiction, fun hc => (nomatch hc)⟩

variable {weights : SegmentWeights}

theorem Kernel.weight?_of_tile (h : (k.accumulators tier).weights.get? tile = some weights)
    (key : SegmentKey) : k.weight? (tier, tile, key) = weights.get? key := by
  unfold weight?
  rw [h]
  rfl

theorem Merged.length_le_used (h : Merged events k)
    (hw : (k.accumulators tier).weights.get? tile = some weights) :
    weights.entries.length ≤ k.budget.used := by
  rw [h.used]
  let toHit (key : SegmentKey) : Hit := (tier, tile, key)
  have hinj : Function.Injective toHit := fun a b hab => (Prod.ext_iff.mp (Prod.ext_iff.mp hab).2).2
  have hsub : (weights.keys.map toHit).toFinset ⊆ (hits events).toFinset := by
    intro hit hmem
    obtain ⟨key, hkey, rfl⟩ := List.mem_map.mp (List.mem_toFinset.mp hmem)
    rw [List.mem_toFinset, h.mem_hits, weight?_of_tile hw]
    exact mem_keys.mp hkey
  calc
    weights.entries.length = (weights.keys.map toHit).length := by
      rw [length_map, OrderedMap.keys, length_map]
    _ = (weights.keys.map toHit).toFinset.card :=
      (toFinset_card_of_nodup (keys_nodup.map hinj)).symm
    _ ≤ (hits events).toFinset.card := Finset.card_le_card hsub

structure Merges (events : List Event) (k : Kernel) (hit : Hit)
    (merged : TierWeights × WeightBudget) : Prop where
  insert : ∃ w : SegmentWeights, (∀ key, w.get? key = k.weight? (hit.1, hit.2.1, key)) ∧
    merged.1 = (k.accumulators hit.1).weights.insert hit.2.1
      (w.insert hit.2.2 ((hits events).count hit+1))
  used : merged.2.used = (hit :: hits events).toFinset.card
  tileCount : merged.2.tileCount = ((hit :: hits events).map Hit.tile).toFinset.card

structure MergeSpec (events : List Event) (k : Kernel) (hit : Hit)
    (result : Except TileError (TierWeights × WeightBudget)) : Prop where
  merges : ∀ merged, result = .ok merged → Merges events k hit merged
  limits : (∃ merged, result = .ok merged) ↔
    ((hit :: hits events).map Hit.tile).toFinset.card ≤ maxTilePayloadTiles ∧
    (hit :: hits events).toFinset.card ≤ maxCanonicalRawWeightEntries ∧ (hits events).count hit+1 ≤
      maxU64

theorem MergeSpec.of_error {hit : Hit} {error : TileError}
    (h : ¬(((hit :: hits events).map Hit.tile).toFinset.card ≤ maxTilePayloadTiles ∧
      (hit :: hits events).toFinset.card ≤ maxCanonicalRawWeightEntries ∧
      (hits events).count hit+1 ≤ maxU64)) : MergeSpec events k hit (.error error) :=
  ⟨fun _ hc => (nomatch hc), ⟨fun ⟨_, hc⟩ => (nomatch hc), fun hc => absurd hc h⟩⟩

theorem MergeSpec.of_ok {hit : Hit} {merged : TierWeights × WeightBudget}
    (h : Merges events k hit merged)
    (hlimits : ((hit :: hits events).map Hit.tile).toFinset.card ≤ maxTilePayloadTiles ∧
    (hit :: hits events).toFinset.card ≤ maxCanonicalRawWeightEntries ∧
    (hits events).count hit+1 ≤ maxU64) : MergeSpec events k hit (.ok merged) := by
  refine ⟨fun merged' hc => ?_, ⟨fun _ => hlimits, fun _ => ⟨merged, rfl⟩⟩⟩
  cases hc
  exact h

theorem Merged.mergeKey_newTile (h : Merged events k) (key : SegmentKey)
    (htile : (k.accumulators tier).weights.get? tile = none) :
    MergeSpec events k (tier, tile, key)
      (mergeKey (k.accumulators tier).weights tile key k.budget) := by
  have hnew : Hit.tile (tier, tile, key) ∉ (hits events).map Hit.tile := by
    intro hc
    have hsome := (h.tile tier tile).mpr hc
    rw [htile] at hsome
    cases hsome
  have hhit : (tier, tile, key) ∉ hits events := fun hc => hnew (List.mem_map_of_mem hc)
  have hcount : (hits events).count (tier, tile, key) = 0 := count_eq_zero_of_not_mem hhit
  have hused := (card_toFinset_cons_of_notMem hhit).trans (congrArg (·+1) h.used.symm)
  have htiles := (card_toFinset_cons_of_notMem hnew).trans (congrArg (·+1) h.tileCount.symm)
  rw [← map_cons] at htiles
  unfold mergeKey WeightBudget.reserve
  rw [htile]
  dsimp only
  split
  · exact MergeSpec.of_error (by omega)
  split
  · exact MergeSpec.of_error (by omega)
  refine MergeSpec.of_ok ⟨⟨OrderedMap.empty, fun key' => ?_, ?_⟩, hused.symm, htiles.symm⟩ ?_
  · unfold weight?
    rw [htile]
    rfl
  · rw [hcount]
  · refine ⟨by omega, by omega, ?_⟩
    rw [hcount]
    decide

theorem Merged.mergeKey_newSegment (h : Merged events k) (hfits : Fits events)
    (htile : (k.accumulators tier).weights.get? tile = some weights)
    (hkey : weights.get? key = none) :
    MergeSpec events k (tier, tile, key)
      (mergeKey (k.accumulators tier).weights tile key k.budget) := by
  have hmem : Hit.tile (tier, tile, key) ∈ (hits events).map Hit.tile :=
    (h.tile tier tile).mp (by rw [htile]; rfl)
  have hhit : (tier, tile, key) ∉ hits events := by
    rw [h.mem_hits, weight?_of_tile htile, hkey]
    exact fun hc => (nomatch hc)
  have hcount : (hits events).count (tier, tile, key) = 0 := count_eq_zero_of_not_mem hhit
  have hused := (card_toFinset_cons_of_notMem hhit).trans (congrArg (·+1) h.used.symm)
  have htiles := (card_toFinset_cons_of_mem hmem).trans h.tileCount.symm
  rw [← map_cons] at htiles
  have hfit := hfits.tiles
  rw [← h.tileCount] at hfit
  -- the limit on one tile is never met before the limit on all of them
  have hlength := h.length_le_used htile
  unfold mergeKey WeightBudget.reserve
  rw [htile]
  dsimp only
  rw [hkey]
  dsimp only
  split
  · refine MergeSpec.of_error fun hc => ?_
    have : maxRawUniqueSegmentsPerTile = maxCanonicalRawWeightEntries := rfl
    omega
  split
  · exact MergeSpec.of_error (by omega)
  refine MergeSpec.of_ok ⟨⟨weights, fun key' => (weight?_of_tile htile key').symm, ?_⟩, hused.symm,
    htiles.symm⟩ ?_
  · rw [hcount]
  · refine ⟨by omega, by omega, ?_⟩
    rw [hcount]
    decide

theorem Merged.mergeKey_again (h : Merged events k) (hfits : Fits events) {weight : ℕ}
    (htile : (k.accumulators tier).weights.get? tile = some weights)
    (hkey : weights.get? key = some weight) :
    MergeSpec events k (tier, tile, key)
      (mergeKey (k.accumulators tier).weights tile key k.budget) := by
  have hweight : k.weight? (tier, tile, key) = some weight := (weight?_of_tile htile key).trans hkey
  have hhit : (tier, tile, key) ∈ hits events := by
    rw [h.mem_hits, hweight]
    rfl
  have hcount : (hits events).count (tier, tile, key) = weight := by
    have hsome := (h.weight (tier, tile, key)).symm.trans hweight
    rw [if_pos hhit] at hsome
    exact some.inj hsome
  have hmem : Hit.tile (tier, tile, key) ∈ (hits events).map Hit.tile := List.mem_map_of_mem hhit
  have hused := (card_toFinset_cons_of_mem hhit).trans h.used.symm
  have htiles := (card_toFinset_cons_of_mem hmem).trans h.tileCount.symm
  rw [← map_cons] at htiles
  have hfit := hfits.tiles
  have hentries := hfits.entries
  rw [← h.tileCount] at hfit
  rw [← h.used] at hentries
  unfold mergeKey
  rw [htile]
  dsimp only
  rw [hkey]
  dsimp only
  split
  · refine MergeSpec.of_ok ⟨⟨weights, fun key' => (weight?_of_tile htile key').symm, ?_⟩,
      hused.symm, htiles.symm⟩ ⟨by omega, by omega, by omega⟩
    rw [hcount]
  · exact MergeSpec.of_error (by omega)

theorem Merged.mergeKey (h : Merged events k) (hfits : Fits events) (tier : Fin 4)
    (tile : TileKey) (key : SegmentKey) :
    MergeSpec events k (tier, tile, key)
      (Tiles.mergeKey (k.accumulators tier).weights tile key k.budget) := by
  cases htile : (k.accumulators tier).weights.get? tile with
  | none => exact h.mergeKey_newTile key htile
  | some weights =>
    cases hkey : weights.get? key with
    | none => exact h.mergeKey_newSegment hfits htile hkey
    | some weight => exact h.mergeKey_again hfits htile hkey

end Merge

namespace Kernel

variable {k : Kernel} {tier : Fin 4}

theorem withWeights_weights (weights : TierWeights) (budget : WeightBudget) (tier' : Fin 4) :
    ((k.withWeights tier weights budget).accumulators tier').weights =
      if tier' = tier then weights else (k.accumulators tier').weights := by
  unfold withWeights
  dsimp only
  split_ifs with h
  · rw [h, update_self]
  · rw [update_of_ne h]

theorem withWeights_driveCount (weights : TierWeights) (budget : WeightBudget) (tier' : Fin 4) :
    ((k.withWeights tier weights budget).accumulators tier').driveCount =
    (k.accumulators tier').driveCount := by
  unfold withWeights
  dsimp only
  by_cases h : tier' = tier
  · rw [h, update_self]
  · rw [update_of_ne h]

theorem weight?_insert {tile : TileKey} {w : SegmentWeights}
    (hw : ∀ key, w.get? key = k.weight? (tier, tile, key)) (key : SegmentKey) (n : ℕ)
    (budget : WeightBudget) (hit : Hit) :
    (k.withWeights tier ((k.accumulators tier).weights.insert tile (w.insert key n)) budget).weight?
      hit =
      if hit = (tier, tile, key) then some n else k.weight? hit := by
  obtain ⟨tier', tile', key'⟩ := hit
  unfold weight?
  rw [withWeights_weights]
  by_cases htier : tier' = tier
  · subst htier
    rw [if_pos rfl, get?_insert]
    by_cases htile : tile' = tile
    · subst htile
      rw [if_pos rfl, bind_some, get?_insert, hw]
      simp only [Prod.mk.injEq, true_and]
      rfl
    · rw [if_neg htile, if_neg fun hc => htile (Prod.ext_iff.mp (Prod.ext_iff.mp hc).2).1]
  · rw [if_neg htier, if_neg fun hc => htier (Prod.ext_iff.mp hc).1]

end Kernel

section Step

variable {events : List Event} {k : Kernel} {tier : Fin 4}

theorem count_complete_segment (tier' : Fin 4) (segment : TileSegment) :
    (Event.segment tier segment :: events).count (.complete tier') = events.count
    (.complete tier') := by
  have hne : Event.segment tier segment ≠ .complete tier' := fun hc => (nomatch hc)
  exact count_cons_of_ne hne

theorem count_complete_points (tier : Fin 4) (count : ℕ) :
    (Event.points count :: events).count (.complete tier) = events.count (.complete tier) := by
  have hne : Event.points count ≠ .complete tier := fun hc => (nomatch hc)
  exact count_cons_of_ne hne

theorem Merges.merged (h : Merged events k) (hkey : segment.key = .ok key)
    {merged : TierWeights × WeightBudget} (hm : Merges events k (tier, segment.tile, key) merged) :
    Merged (.segment tier segment :: events) (k.withWeights tier merged.1 merged.2) := by
  obtain ⟨w, hw, hinsert⟩ := hm.insert
  refine ⟨fun hit => ?_, fun tier' tile => ?_, ?_, ?_, fun tier' => ?_, ?_⟩
  · rw [hits_segment hkey, hinsert, weight?_insert hw, h.weight]
    by_cases hhit : hit = (tier, segment.tile, key)
    · subst hhit
      rw [if_pos rfl, if_pos mem_cons_self, count_cons_self]
    · rw [if_neg hhit, count_cons_of_ne (Ne.symm hhit)]
      simp only [mem_cons, hhit, false_or]
  · rw [hits_segment hkey, map_cons, mem_cons, withWeights_weights, ← h.tile, hinsert]
    by_cases htier : tier' = tier
    · subst htier
      rw [if_pos rfl, get?_insert]
      by_cases htile : tile = segment.tile
      · subst htile
        rw [if_pos rfl]
        exact ⟨fun _ => .inl rfl, fun _ => rfl⟩
      · rw [if_neg htile]
        exact ⟨Or.inr, fun hc => hc.resolve_left fun heq => htile (Prod.ext_iff.mp heq).2⟩
    · rw [if_neg htier]
      exact ⟨Or.inr, fun hc => hc.resolve_left fun heq => htier (Prod.ext_iff.mp heq).1⟩
  · rw [hits_segment hkey]
    exact hm.used
  · rw [hits_segment hkey]
    exact hm.tileCount
  · rw [withWeights_driveCount, h.driveCount, count_complete_segment]
  · exact h.points.trans (Nat.zero_add _).symm

theorem fits_segment (hfits : Fits events) (hkey : segment.key = .ok key) :
    Fits (.segment tier segment :: events) ↔
    (((tier, segment.tile, key) :: hits events).map Hit.tile).toFinset.card ≤ maxTilePayloadTiles ∧
    ((tier, segment.tile, key) :: hits events).toFinset.card ≤ maxCanonicalRawWeightEntries ∧
    (hits events).count (tier, segment.tile, key)+1 ≤ maxU64 := by
  constructor
  · intro h
    have hweight := h.weights (tier, segment.tile, key)
    have htiles := h.tiles
    have hentries := h.entries
    rw [hits_segment hkey] at hweight htiles hentries
    rw [count_cons_self] at hweight
    exact ⟨htiles, hentries, hweight⟩
  · rintro ⟨htiles, hentries, hweight⟩
    refine ⟨fun tier' segment' hmem => ?_, ?_, ?_, fun hit => ?_, fun tier' => ?_, ?_⟩
    · rcases mem_cons.mp hmem with heq | hmem
      · cases heq
        exact ⟨key, hkey⟩
      · exact hfits.coordinates tier' segment' hmem
    · rw [hits_segment hkey]
      exact htiles
    · rw [hits_segment hkey]
      exact hentries
    · rw [hits_segment hkey]
      by_cases hhit : hit = (tier, segment.tile, key)
      · subst hhit
        rw [count_cons_self]
        exact hweight
      · rw [count_cons_of_ne (Ne.symm hhit)]
        exact hfits.weights hit
    · exact hfits.drives tier'
    · exact (Nat.zero_add _).trans_le hfits.points

theorem fits_complete (hfits : Fits events) :
    Fits (.complete tier :: events) ↔ events.count (.complete tier)+1 ≤ maxUsize := by
  constructor
  · intro h
    have hdrives := h.drives tier
    rw [count_cons_self] at hdrives
    exact hdrives
  · intro h
    refine ⟨fun tier' segment hmem => ?_, hfits.tiles, hfits.entries, hfits.weights, fun tier' =>
      ?_, ?_⟩
    · rcases mem_cons.mp hmem with heq | hmem
      · cases heq
      · exact hfits.coordinates tier' segment hmem
    · by_cases htier : Event.complete tier = .complete tier'
      · rw [← htier, count_cons_self]
        exact h
      · rw [count_cons_of_ne htier]
        exact hfits.drives tier'
    · exact (Nat.zero_add _).trans_le hfits.points

theorem fits_points (hfits : Fits events) (count : ℕ) :
    Fits (.points count :: events) ↔ count+(events.map Event.pointCount).sum ≤ maxI64 := by
  refine ⟨fun h => h.points, fun h => ?_⟩
  refine ⟨fun tier segment hmem => ?_, hfits.tiles, hfits.entries, hfits.weights, fun tier => ?_, h⟩
  · rcases mem_cons.mp hmem with heq | hmem
    · cases heq
    · exact hfits.coordinates tier segment hmem
  · exact hfits.drives tier

structure ApplySpec (events : List Event) (event : Event) (result : Except TileError Kernel) :
    Prop where
  merged : ∀ k', result = .ok k' → Merged (event :: events) k'
  limits : (∃ k', result = .ok k') ↔ Fits (event :: events)

theorem ApplySpec.of_error {event : Event} {error : TileError} (h : ¬Fits (event :: events)) :
    ApplySpec events event (.error error) :=
  ⟨fun _ hc => (nomatch hc), ⟨fun ⟨_, hc⟩ => (nomatch hc), fun hc => absurd hc h⟩⟩

theorem ApplySpec.of_ok {event : Event} {k' : Kernel} (hmerged : Merged (event :: events) k')
    (hfits : Fits (event :: events)) : ApplySpec events event (.ok k') := by
  refine ⟨fun k hc => ?_, ⟨fun _ => hfits, fun _ => ⟨k', rfl⟩⟩⟩
  cases hc
  exact hmerged

theorem Merged.visitSegment (h : Merged events k) (hfits : Fits events) (tier : Fin 4)
    (segment : TileSegment) :
    ApplySpec events (.segment tier segment) (k.visitSegment tier segment) := by
  unfold Kernel.visitSegment mergeRawSegment
  cases hkey : segment.key with
  | error error =>
    refine ApplySpec.of_error fun hc => ?_
    obtain ⟨key, hok⟩ := hc.coordinates tier segment mem_cons_self
    rw [hkey] at hok
    cases hok
  | ok key =>
    have hspec := h.mergeKey hfits tier segment.tile key
    have hlimits := hspec.limits.trans (fits_segment hfits hkey).symm
    change ApplySpec events _ ((Tiles.mergeKey (k.accumulators tier).weights segment.tile
      key k.budget).map _)
    cases hm : Tiles.mergeKey (k.accumulators tier).weights segment.tile key k.budget with
    | error error =>
      rw [hm] at hlimits
      exact ApplySpec.of_error fun hc => (nomatch (hlimits.mpr hc).choose_spec)
    | ok merged =>
      rw [hm] at hlimits
      exact ApplySpec.of_ok (Merges.merged h hkey (hspec.merges merged hm))
        (hlimits.mp ⟨merged, rfl⟩)

theorem Merged.completeDrive (h : Merged events k) (hfits : Fits events) (tier : Fin 4) :
    ApplySpec events (.complete tier) (k.completeDrive tier) := by
  unfold Kernel.completeDrive
  dsimp only
  rw [h.driveCount tier]
  split_ifs with hcount
  · refine ApplySpec.of_ok ?_ ((fits_complete hfits).mpr hcount)
    have hweights (tier' : Fin 4) : (update k.accumulators tier
        { k.accumulators tier with driveCount := events.count (.complete tier)+1 } tier').weights =
          (k.accumulators tier').weights := by
      by_cases htier : tier' = tier
      · rw [htier, update_self]
      · rw [update_of_ne htier]
    refine ⟨fun hit => ?_, fun tier' tile => ?_, h.used, h.tileCount, fun tier' => ?_, ?_⟩
    · refine Eq.trans ?_ (h.weight hit)
      unfold weight?
      rw [hweights]
    · rw [hweights]
      exact h.tile tier' tile
    · dsimp only
      by_cases htier : tier' = tier
      · rw [htier, update_self, count_cons_self]
      · have hne : Event.complete tier ≠ .complete tier' := fun hc =>
            htier (Event.complete.inj hc).symm
        rw [update_of_ne htier, count_cons_of_ne hne]
        exact h.driveCount tier'
    · exact h.points.trans (Nat.zero_add _).symm
  · exact ApplySpec.of_error fun hc => hcount ((fits_complete hfits).mp hc)

theorem Merged.countPoints (h : Merged events k) (hfits : Fits events) (count : ℕ) :
    ApplySpec events (.points count) (k.countPoints count) := by
  unfold Kernel.countPoints
  rw [h.points]
  split
  · refine ApplySpec.of_error fun hc => ?_
    have := (fits_points hfits count).mp hc
    omega
  split_ifs with hsum
  · rw [Nat.add_comm] at hsum
    refine ApplySpec.of_ok ⟨h.weight, h.tile, h.used, h.tileCount, fun tier => ?_, ?_⟩
      ((fits_points hfits count).mpr hsum)
    · exact h.driveCount tier
    · exact Nat.add_comm _ _
  · refine ApplySpec.of_error fun hc => ?_
    have := (fits_points hfits count).mp hc
    omega

theorem Merged.apply (h : Merged events k) (hfits : Fits events) (event : Event) :
    ApplySpec events event (k.apply event) := by
  cases event with
  | points count => exact h.countPoints hfits count
  | segment tier segment => exact h.visitSegment hfits tier segment
  | complete tier => exact h.completeDrive hfits tier

end Step

theorem Merged.foldlM {done : List Event} (h : Merged done k) (hfits : Fits done)
    (events : List Event) :
    (∀ k', events.foldlM Kernel.apply k = .ok k' → Merged (events.reverse++done) k') ∧
      ((∃ k', events.foldlM Kernel.apply k = .ok k') ↔ Fits (events.reverse++done)) := by
  induction events generalizing done k with
  | nil =>
    refine ⟨fun k' hk => ?_, ⟨fun _ => hfits, fun _ => ⟨k, rfl⟩⟩⟩
    cases hk
    exact h
  | cons event events ih =>
    have hspec := h.apply hfits event
    rw [reverse_cons, append_assoc, singleton_append, foldlM_cons]
    cases hk : k.apply event with
    | error error =>
      -- a later event cannot bring the sum back within the limits
      rw [hk] at hspec
      refine ⟨fun _ hc => (nomatch hc), ⟨fun ⟨_, hc⟩ => (nomatch hc), fun hc => ?_⟩⟩
      obtain ⟨_, hok⟩ := hspec.limits.mpr hc.of_append
      cases hok
    | ok k' => exact ih (hspec.merged k' hk) (hspec.limits.mp ⟨k', hk⟩)

theorem Fits.empty : Fits [] :=
  ⟨fun _ _ h => (nomatch h), Nat.zero_le _, Nat.zero_le _, fun _ => Nat.zero_le _, fun _ =>
    Nat.zero_le _, Nat.zero_le _⟩

/-- A kernel that took the events is the merge of them. -/
theorem Merged.of_run (h : events.foldlM Kernel.apply {} = .ok k) : Merged events k := by
  have hmerged := (Merged.empty.foldlM Fits.empty events).1 k h
  rw [append_nil] at hmerged
  exact hmerged.perm events.reverse_perm

theorem accumulates_iff : (∃ k, events.foldlM Kernel.apply {} = .ok k) ↔ Fits events := by
  have hlimits := (Merged.empty.foldlM Fits.empty events).2
  rw [append_nil] at hlimits
  rw [hlimits]
  exact ⟨fun h => h.perm events.reverse_perm, fun h => h.perm events.reverse_perm.symm⟩

theorem accumulate_perm (hperm : events.Perm events')
    (h : events.foldlM apply {} = .ok k) : events'.foldlM apply {} = .ok k := by
  obtain ⟨k', h'⟩ := accumulates_iff.mpr ((accumulates_iff.mp ⟨k, h⟩).perm hperm)
  rw [((Merged.of_run h).perm hperm).unique (Merged.of_run h')]
  exact h'

section InPlace

variable {target : TierWeights} {budget : WeightBudget}

theorem reserveInPlace_bind {f : Unit → MergeM Unit}
    {g : WeightBudget → TierWeights × WeightBudget}
    (hf : ∀ budget, (f ()).run.run (target, budget) = (.ok (), g budget)) :
    (reserveInPlace >>= f).run.run (target, budget) = ((budget.reserve.map g).map fun _ => (),
    (budget.reserve.map g).toOption.getD (target, budget)) := by
  have hreserve : reserveInPlace.run.run (target, budget) =
      (budget.reserve.map fun _ => (), target, budget.reserve.toOption.getD budget) := by
    unfold reserveInPlace WeightBudget.reserve
    refine (run_bind_of_ok (s := (target, budget)) rfl).trans ?_
    split <;> rfl
  cases h : budget.reserve with
  | error error =>
    rw [h] at hreserve
    exact run_bind_of_error hreserve
  | ok reserved =>
    rw [h] at hreserve
    exact (run_bind_of_ok hreserve).trans (hf reserved)

theorem mergeKeyInPlace_eq (tile : TileKey) (key : SegmentKey) :
    (mergeKeyInPlace tile key).run.run (target, budget) =
    ((mergeKey target tile key budget).map fun _ => (),
    (mergeKey target tile key budget).toOption.getD (target, budget)) := by
  unfold mergeKeyInPlace mergeKey
  refine (run_bind_of_ok (s := (target, budget)) rfl).trans ?_
  dsimp only
  cases target.get? tile with
  | none =>
    dsimp only
    split
    · rfl
    · exact reserveInPlace_bind fun _ => rfl
  | some weights =>
    dsimp only
    cases weights.get? key with
    | none =>
      dsimp only
      split
      · rfl
      · exact reserveInPlace_bind fun _ => rfl
    | some weight =>
      dsimp only
      split
      · rw [if_neg (by omega)]
        rfl
      · rw [if_pos (by omega)]
        rfl

theorem Kernel.mergeSegment_eq (k : Kernel) (tier : Fin 4) (segment : TileSegment) :
    k.mergeSegment tier segment = ((k.visitSegment tier segment).map fun _ => (),
    (k.visitSegment tier segment).toOption.getD k) := by
  have hself : k.withWeights tier (k.accumulators tier).weights k.budget = k :=
    Kernel.ext (update_eq_self tier k.accumulators) rfl rfl
  unfold mergeSegment visitSegment mergeInPlace mergeRawSegment
  cases segment.key with
  | error error => exact Prod.ext rfl hself
  | ok key =>
    dsimp only
    rw [run_bind_of_ok (m := ExceptT.mk (pure (.ok key))) rfl, mergeKeyInPlace_eq]
    change _ = (((mergeKey (k.accumulators tier).weights segment.tile key k.budget).map _).map _,
      ((mergeKey (k.accumulators tier).weights segment.tile key k.budget).map _).toOption.getD k)
    cases mergeKey (k.accumulators tier).weights segment.tile key k.budget with
    | error error => exact Prod.ext rfl hself
    | ok merged => rfl

end InPlace

def Kernel.mergeAll (merges : List (Fin 4 × TileSegment)) : Kernel × List Event :=
  merges.foldl (fun s merge =>
    let merged := s.1.mergeSegment merge.1 merge.2
    (merged.2, if merged.1.isOk then .segment merge.1 merge.2 :: s.2 else s.2)) ({}, [])

theorem Kernel.mergeAll_merged (merges : List (Fin 4 × TileSegment)) :
    Merged (mergeAll merges).2 (mergeAll merges).1 ∧ Fits (mergeAll merges).2 := by
  refine foldlRecOn merges _ (motive := fun s : Kernel × List Event => Merged s.2 s.1 ∧ Fits s.2)
    ⟨Merged.empty, Fits.empty⟩ fun s ⟨hmerged, hfits⟩ merge _ => ?_
  have hspec := hmerged.visitSegment hfits merge.1 merge.2
  dsimp only
  rw [mergeSegment_eq]
  cases h : s.1.visitSegment merge.1 merge.2 with
  | error error => exact ⟨hmerged, hfits⟩
  | ok k => exact ⟨hspec.merged k h, hspec.limits.mp ⟨k, h⟩⟩

theorem Merged.length_tiles_le (h : Merged events k) {tiers : List (Fin 4)} (htiers : tiers.Nodup) :
    (tiers.flatMap fun tier => finalizeTier (k.accumulators tier).weights).length ≤
    k.budget.tileCount := by
  let held (tier : Fin 4) : List (Fin 4 × TileKey) := (k.accumulators tier).weights.keys.map (tier,
      ·)
  have hnodup : (tiers.flatMap held).Nodup := by
    refine nodup_flatMap.mpr ⟨fun tier _ => ?_, htiers.imp fun hne => ?_⟩
    · exact keys_nodup.map (mk_right_injective tier)
    · intro entry hleft hright
      obtain ⟨_, _, rfl⟩ := List.mem_map.mp hleft
      obtain ⟨_, _, heq⟩ := List.mem_map.mp hright
      exact hne (Prod.ext_iff.mp heq).1.symm
  have hsub : (tiers.flatMap held).toFinset ⊆ ((hits events).map Hit.tile).toFinset := by
    intro entry hmem
    obtain ⟨tier, _, hheld⟩ := mem_flatMap.mp (List.mem_toFinset.mp hmem)
    obtain ⟨tile, htile, rfl⟩ := List.mem_map.mp hheld
    exact List.mem_toFinset.mpr ((h.tile tier tile).mp (mem_keys.mp htile))
  rw [h.tileCount]
  calc
    _ ≤ (tiers.flatMap held).length := by
      rw [length_flatMap, length_flatMap]
      refine sum_le_sum fun tier _ => ?_
      rw [length_map, OrderedMap.keys, length_map]
      exact length_filterMap_le _ _
    _ = (tiers.flatMap held).toFinset.card := (toFinset_card_of_nodup hnodup).symm
    _ ≤ _ := Finset.card_le_card hsub

theorem ensurePayloadBound_ne_tileLimit {shards : List Shard}
    (h : shards.length ≤ maxTilePayloadTiles) (n : ℕ) :
    ensurePayloadBound shards ≠ .error (.tileLimit n) := by
  intro hc
  unfold ensurePayloadBound at hc
  rw [if_neg (by omega)] at hc
  rcases bind_eq_error.mp hc with hc | ⟨total, _, hc⟩
  · obtain ⟨total, shard, _, hc⟩ := foldlM_eq_error hc
    split at hc <;> cases hc
  · split at hc <;> cases hc

/-- The budget counts the weights and tiles held, so no payload can meet the tile limit. -/
theorem Kernel.budget_counts_what_is_held (merges : List (Fin 4 × TileSegment)) :
    let k := (mergeAll merges).1
    let admitted := (mergeAll merges).2
    k.budget.used = { hit | (k.weight? hit).isSome = true }.ncard ∧
      k.budget.tileCount =
        { at_ : Fin 4 × TileKey | ((k.accumulators at_.1).weights.get? at_.2).isSome = true }.ncard
          ∧
      (∀ hit, k.weight? hit =
        if hit ∈ hits admitted then some ((hits admitted).count hit) else none) ∧
      k.budget.used ≤ maxCanonicalRawWeightEntries ∧ k.budget.tileCount ≤ maxTilePayloadTiles ∧
      (∀ tier segment error, (k.mergeSegment tier segment).1 = .error error →
        (k.mergeSegment tier segment).2 = k) ∧
      ∀ tiers : List (Fin 4), tiers.Nodup → ∀ shards : List Shard,
        shards.Perm (tiers.flatMap fun tier => finalizeTier (k.accumulators tier).weights) →
        ∀ n, ensurePayloadBound shards ≠ .error (.tileLimit n) := by
  intro k admitted
  obtain ⟨hmerged, hfits⟩ := mergeAll_merged merges
  have hcaps := And.intro hfits.entries hfits.tiles
  rw [← hmerged.used, ← hmerged.tileCount] at hcaps
  refine ⟨?_, ?_, hmerged.weight, hcaps.1, hcaps.2, fun tier segment error herror => ?_,
    fun tiers htiers shards hperm n => ensurePayloadBound_ne_tileLimit ?_ n⟩
  · rw [hmerged.used, ← Set.ncard_coe_finset]
    congr 1
    ext hit
    rw [coe_toFinset, Set.mem_ofPred_eq, Set.mem_ofPred_eq, hmerged.mem_hits]
  · rw [hmerged.tileCount, ← Set.ncard_coe_finset]
    congr 1
    ext entry
    rw [coe_toFinset, Set.mem_ofPred_eq, Set.mem_ofPred_eq, hmerged.tile]
  · rw [mergeSegment_eq] at herror ⊢
    cases h : k.visitSegment tier segment with
    | error error => rfl
    | ok k =>
      rw [h] at herror
      cases herror
  · rw [hperm.length_eq]
    exact (hmerged.length_tiles_le htiers).trans hcaps.2

end TeslatlasHub.Tiles
