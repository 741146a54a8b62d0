import TeslatlasHub.MirrorReplay
import TeslatlasHub.SyncCatalogue

/-! A compaction's delta does to every mirror what the mutations of its range did one by one. -/
namespace TeslatlasHub.LiveSync

open ProjectionDelta SyncMutation LastWrite RunRules List Option Mirror

variable {D C S : Type}

/-! ### Which mutations a delta is built from -/

section Selection

variable {ms : List (SyncMutation C S)}

theorem foldlM_keepNewest {ok : SyncMutation C S → Prop} [DecidablePred ok] {e : StoreError}
    (kept : List (SyncMutation C S)) (hok : ∀ m ∈ ms, ok m)
    (hnodup : ((kept++ms).map SyncMutation.key).Nodup) :
    ms.foldlM (fun final m => if ¬ok m then Except.error e else .ok (keepNewest final m)) kept =
      .ok (kept++ms) := by
  induction ms generalizing kept with
  | nil => simp [pure, Except.pure]
  | cons m ms ih =>
    have hfresh : (kept.any fun other => other.key = m.key) = false := by
      rw [map_append, nodup_append] at hnodup
      simp only [List.any_eq_false, decide_eq_true_eq]
      intro other hother
      exact hnodup.2.2 _ (mem_map_of_mem hother) _ (by simp)
    have hthis : keepNewest kept m = kept++[m] := by simp [keepNewest, hfresh]
    rw [foldlM_cons, if_neg (not_not.mpr (hok m (by simp))), hthis]
    have ih := ih (kept++[m]) (fun m' hm' => hok m' (by simp [hm'])) (by simpa using hnodup)
    rw [append_assoc, singleton_append] at ih
    exact ih

theorem finalMutations_of_nodup {plan : LiveDeltaCompactionPlan D C S}
    (hvehicle : ∀ m ∈ plan.mutations, m.vehicleId = plan.vehicleId)
    (hrange : ∀ m ∈ plan.mutations, plan.fromRevision ≤ m.revision ∧ m.revision ≤ plan.toRevision)
    (hnodup : (plan.mutations.map SyncMutation.key).Nodup) :
    plan.finalMutations = .ok plan.mutations := by
  have hkept := @foldlM_keepNewest C S plan.mutations
    (fun m => ¬(m.vehicleId ≠ plan.vehicleId ∨ m.revision < plan.fromRevision ∨
      m.revision > plan.toRevision)) _
    .lineageCatalogConflict [] (fun m hm => ?_) hnodup
  · unfold LiveDeltaCompactionPlan.finalMutations
    simpa only [not_not, nil_append] using hkept
  · have := hvehicle m hm
    have := hrange m hm
    rintro (h | h | h)
    · contradiction
    · omega
    · omega

theorem insertionSort_of_rising (hrising : ms.Pairwise fun a b => a.revision < b.revision) :
    ms.insertionSort SyncMutation.sortsBefore = ms :=
  List.Pairwise.insertionSort_eq (hrising.imp fun h => .inl h)

end Selection

namespace SyncMutation

variable (settings : ℤ → Option (ℕ × S)) (ordered : List (SyncMutation C S)) (m : SyncMutation C S)

def carPut : Option (ProjectionCar C S) :=
  if m.entity = .car then
    m.carLeft.map fun car => ((settings m.entityId).filter fun s => m.revision < s.1).elim car
      fun s => { car with settings := s.2 }
  else none

def settingsPut : Option (ProjectionCarSettingsPatch S) :=
  match m.entity, m.payload with
  | .carSetting, .settings s =>
    if (carUpsert ordered m.entityId).isSome then none else some ⟨m.entityId, s⟩
  | _, _ => none

def rowPut (table : Table) : Option (ProjectionRow C) :=
  if m.entity = .row table then m.rowLeft else none

def tombstonePut : Option ProjectionTombstone :=
  if m.operation = .tombstone then some ⟨m.entity, m.entityId, m.carId⟩ else none

end SyncMutation

section Contents

variable {settings : ℤ → Option (ℕ × S)} {ordered ms : List (SyncMutation C S)}
  {delta : ProjectionDelta D C S}

def ProjectionDelta.filled (delta : ProjectionDelta D C S) (settings : ℤ → Option (ℕ × S))
    (ordered ms : List (SyncMutation C S)) : ProjectionDelta D C S :=
  { delta with
    cars := delta.cars++ms.filterMap (·.carPut settings)
    carSettings := delta.carSettings++ms.filterMap (·.settingsPut ordered)
    rows := fun table => delta.rows table++ms.filterMap (·.rowPut table)
    tombstones := delta.tombstones++ms.filterMap (·.tombstonePut) }

theorem compactMutation_of_wellFormed {m : SyncMutation C S} (hwell : m.WellFormed) :
    compactMutation ordered settings delta m = .ok (delta.filled settings ordered [m]) := by
  cases hwell.kind with
  | car v r car carId =>
    simp [compactMutation, filled, pushCar, carPut, carLeft,
      settingsPut, rowPut, tombstonePut, Payload.asCar, bind, Except.bind, pure,
      Except.pure]
  | settings v r id carId s =>
    cases hcar : (carUpsert ordered id).isSome <;>
      simp [compactMutation, filled, pushSettings, carPut,
        settingsPut, rowPut, tombstonePut, Payload.asSettings, hcar, Except.map]
  | row v r t row carId =>
    have hrows : (fun table => delta.rows table++
        ([⟨v, r, .row t, row.id, carId, .upsert, .row row⟩] : List (SyncMutation C S)).filterMap
          (·.rowPut table)) =
        Function.update delta.rows t (delta.rows t++[row]) := by
      funext table
      by_cases ht : table = t
      · subst ht
        simp [rowPut, rowLeft]
      · rw [Function.update_of_ne ht]
        simp [rowPut, Ne.symm ht]
    simp [compactMutation, filled, pushRow, carPut, settingsPut, tombstonePut, Payload.asRow,
      Except.map, hrows]
  | carGone v r id carId p =>
    simp [compactMutation, filled, pushTombstone, carPut, carLeft, settingsPut, rowPut,
      tombstonePut]
  | rowGone v r t id carId p =>
    simp [compactMutation, filled, pushTombstone, carPut, rowLeft, settingsPut, rowPut,
      tombstonePut]

theorem filled_filled (ms' : List (SyncMutation C S)) :
    (delta.filled settings ordered ms).filled settings ordered ms' = delta.filled settings ordered
    (ms++ms') := by
  simp [filled]

theorem foldlM_compactMutation (hwell : ∀ m ∈ ms, m.WellFormed) :
    ms.foldlM (compactMutation ordered settings) delta =
    .ok (delta.filled settings ordered ms) := by
  induction ms generalizing delta with
  | nil => simp [filled, pure, Except.pure]
  | cons m ms ih =>
    rw [foldlM_cons, compactMutation_of_wellFormed (hwell m (by simp))]
    change ms.foldlM (compactMutation ordered settings) (delta.filled settings ordered [m]) = _
    rw [ih fun m' hm' => hwell m' (by simp [hm']), filled_filled, singleton_append]

end Contents

section LastOfEach

variable {ms : List (SyncMutation C S)} {id : ℤ} {table : Table}

def SyncMutation.settingsLeft (m : SyncMutation C S) : Option (ℕ × S) :=
  match m.payload with
  | .settings s => some (m.revision, s)
  | _ => none

theorem settingsUpserts_of_wellFormed (hwell : ∀ m ∈ ms, m.WellFormed) :
    settingsUpserts ms = .ok fun id => (lastWith SyncMutation.key (.carSetting, id) ms).bind
    SyncMutation.settingsLeft := by
  induction ms using reverseRecOn with
  | nil => rfl
  | append_singleton ms m ih =>
    have ih := ih fun m' hm' => hwell m' (mem_append_left _ hm')
    unfold settingsUpserts at ih ⊢
    rw [foldlM_append, ih]
    simp only [foldlM_cons, foldlM_nil, bind, Except.bind, lastWith_concat]
    cases (hwell m (by simp)).kind with
    | settings v r id' carId s =>
      simp only [Payload.asSettings, Except.map, and_self, if_true, pure, Except.pure,
        Except.ok.injEq]
      funext id
      by_cases hid : id' = id
      · simp [key, settingsLeft, hid]
      · simp [key, hid, Function.update_of_ne (Ne.symm hid)]
    | car | row | carGone | rowGone => simp [key, pure, Except.pure]

theorem carUpsert_isSome (hwell : ∀ m ∈ ms, m.WellFormed)
    (hnodup : (ms.map SyncMutation.key).Nodup) :
    (carUpsert ms id).isSome = ((lastWith SyncMutation.key (.car, id) ms).bind
    SyncMutation.carLeft).isSome := by
  have hfilter : ms.filter (fun m => m.entity = .car && m.operation = .upsert) =
      ms.filterMap (guard fun m => m.entity = .car && m.operation = .upsert) :=
    congrFun filterMap_eq_filter.symm ms
  have hlast : lastWith entityId id (ms.filter fun m => m.entity = .car && m.operation = .upsert) =
      (lastWith key (.car, id) ms).bind
        (guard fun m => m.entity = .car && m.operation = .upsert) := by
    rw [hfilter]
    apply lastWith_filterMap hnodup
    intro m _ m' hm'
    simp only [guard_eq_some_iff, Bool.and_eq_true, decide_eq_true_eq] at hm'
    obtain ⟨rfl, hentity, -⟩ := hm'
    simp [key, hentity]
  unfold carUpsert
  rw [hlast]
  cases hthis : lastWith key (.car, id) ms with
  | none => rfl
  | some m =>
    obtain ⟨hin, hkey⟩ := mem_of_lastWith hthis
    cases (hwell m hin).kind with
    | car => simp [carLeft, Option.guard]
    | carGone => simp [carLeft, Option.guard]
    | settings | row | rowGone => simp [key] at hkey

theorem lastWith_carPut (settings : ℤ → Option (ℕ × S)) (hwell : ∀ m ∈ ms, m.WellFormed)
    (hnodup : (ms.map SyncMutation.key).Nodup) :
    lastWith ProjectionCar.id id (ms.filterMap (·.carPut settings)) =
    (lastWith SyncMutation.key (.car, id) ms).bind (·.carPut settings) := by
  apply lastWith_filterMap hnodup
  intro m hm car hcar
  cases (hwell m hm).kind with
  | car v r car carId =>
    simp only [carPut, carLeft, if_true, map_some, some.injEq] at hcar
    subst hcar
    cases (settings car.id).filter (fun s => r < s.1) <;> simp [key]
  | carGone => simp [carPut, carLeft] at hcar
  | settings | row | rowGone => simp [carPut] at hcar

theorem lastWith_settingsPut (ordered : List (SyncMutation C S))
    (hnodup : (ms.map SyncMutation.key).Nodup) :
    lastWith ProjectionCarSettingsPatch.carId id (ms.filterMap (·.settingsPut ordered)) =
      (lastWith SyncMutation.key (.carSetting, id) ms).bind (·.settingsPut ordered) := by
  apply lastWith_filterMap hnodup
  intro m _ patch hpatch
  unfold settingsPut at hpatch
  split at hpatch
  · rename_i s hentity _
    split at hpatch
    · cases hpatch
    · cases hpatch
      simp [key, hentity]
  · cases hpatch

theorem lastWith_rowPut (hwell : ∀ m ∈ ms, m.WellFormed)
    (hnodup : (ms.map SyncMutation.key).Nodup) :
    lastWith ProjectionRow.id id (ms.filterMap (·.rowPut table)) =
      (lastWith SyncMutation.key (.row table, id) ms).bind (·.rowPut table) := by
  apply lastWith_filterMap hnodup
  intro m hm row hrow
  cases (hwell m hm).kind with
  | row v r t row carId =>
    simp only [rowPut, rowLeft, ite_none_right_eq_some, some.injEq, Entity.row.injEq] at hrow
    obtain ⟨rfl, rfl⟩ := hrow
    simp [key]
  | rowGone => simp [rowPut, rowLeft] at hrow
  | settings | car | carGone => simp [rowPut] at hrow

theorem any_tombstonePut (entity : Entity) (hnodup : (ms.map SyncMutation.key).Nodup) :
    (ms.filterMap (·.tombstonePut)).any (fun t => t.entity = entity && t.id = id) =
      (lastWith SyncMutation.key (entity, id) ms).any (fun m => m.operation = .tombstone) := by
  rw [Bool.eq_iff_iff, List.any_eq_true, Option.any_eq_true]
  constructor
  · rintro ⟨t, ht, hplace⟩
    obtain ⟨m, hm, hput⟩ := mem_filterMap.mp ht
    simp only [tombstonePut, ite_none_right_eq_some, some.injEq] at hput
    obtain ⟨hop, rfl⟩ := hput
    simp only [Bool.and_eq_true, decide_eq_true_eq] at hplace
    refine ⟨m, ?_, by simpa using hop⟩
    rw [← hplace.1, ← hplace.2]
    exact lastWith_of_mem hnodup hm
  · rintro ⟨m, hlast, hop⟩
    obtain ⟨hin, hkey⟩ := mem_of_lastWith hlast
    cases hkey
    refine ⟨⟨m.entity, m.entityId, m.carId⟩, mem_filterMap.mpr ⟨m, hin, ?_⟩, by simp⟩
    simpa [tombstonePut] using hop

end LastOfEach

section Exactness

variable {ms : List (SyncMutation C S)}

def lastOfEach (ms : List (SyncMutation C S)) : List (SyncMutation C S) :=
  newest SyncMutation.key SyncMutation.revision ms

def lastSettings (ms : List (SyncMutation C S)) (id : ℤ) : Option (ℕ × S) :=
  (lastWith SyncMutation.key (.carSetting, id) ms).bind SyncMutation.settingsLeft

def compacted (binding : ProjectionBinding) (sequence : SequenceRange) (parentDigest : D)
    (ms : List (SyncMutation C S)) : ProjectionDelta D C S :=
  (ProjectionDelta.empty binding sequence parentDigest).filled (lastSettings (lastOfEach ms))
    (lastOfEach ms)
    (lastOfEach ms)

theorem lastOfEach_nodup (hrising : ms.Pairwise fun a b => a.revision < b.revision) :
    ((lastOfEach ms).map SyncMutation.key).Nodup := newest_key_nodup hrising

theorem lastOfEach_wellFormed (hwell : ∀ m ∈ ms, m.WellFormed) :
    ∀ m ∈ lastOfEach ms, m.WellFormed :=
  fun m hm => hwell m (mem_of_mem_filter hm)

theorem lastWith_lastOfEach (hrising : ms.Pairwise fun a b => a.revision < b.revision)
    (k : Entity × ℤ) :
    lastWith SyncMutation.key k (lastOfEach ms) = lastWith SyncMutation.key k ms :=
      lastWith_newest hrising

variable {binding : ProjectionBinding} {sequence : SequenceRange} {parentDigest : D}
  {mirror : Mirror C S}

theorem compacted_contents :
    (compacted binding sequence parentDigest ms).cars = (lastOfEach ms).filterMap
    (·.carPut (lastSettings (lastOfEach ms))) ∧
    (compacted binding sequence parentDigest ms).carSettings = (lastOfEach ms).filterMap
    (·.settingsPut (lastOfEach ms)) ∧ (∀ table, (compacted binding sequence parentDigest ms).rows
    table = (lastOfEach ms).filterMap (·.rowPut table)) ∧
    (compacted binding sequence parentDigest ms).tombstones = (lastOfEach ms).filterMap
    (·.tombstonePut) :=
  ⟨rfl, rfl, fun _ => rfl, rfl⟩

section

variable (hwell : ∀ m ∈ ms, m.WellFormed)
include hwell

theorem compacted_rows (hrising : ms.Pairwise fun a b => a.revision < b.revision) (table : Table)
    (id : ℤ) :
    (mirror.apply (compacted binding sequence parentDigest ms)).rows table id =
      (ms.foldl replay mirror).rows table id := by
  have hnodup := lastOfEach_nodup hrising
  have hwell' := lastOfEach_wellFormed hwell
  obtain ⟨-, -, hrows, htombstones⟩ := @compacted_contents D C S ms binding sequence parentDigest
  rw [replay_rows hwell, apply_rows, hrows, htombstones, any_tombstonePut (.row table) hnodup,
    lastWith_rowPut hwell' hnodup, lastWith_lastOfEach hrising]
  cases hlast : lastWith key (.row table, id) ms with
  | none => simp
  | some m =>
    obtain ⟨hin, hkey⟩ := mem_of_lastWith hlast
    cases (hwell m hin).kind with
    | row v r t row carId =>
      cases hkey
      simp [rowPut, rowLeft]
    | rowGone => simp [rowLeft]
    | car | settings | carGone => simp [key] at hkey

theorem merged_settings (id : ℤ) (revision : ℕ) (car : ProjectionCar C S) :
    ((lastSettings ms id).filter fun s => revision < s.1).elim car
      (fun s => { car with settings := s.2 }) =
      ((lastWith SyncMutation.key (.carSetting, id) ms).filter fun s => revision < s.revision).elim
        car
        (·.patch car) := by
  unfold lastSettings
  cases hlast : lastWith key (.carSetting, id) ms with
  | none => rfl
  | some m =>
    obtain ⟨hin, hkey⟩ := mem_of_lastWith hlast
    cases (hwell m hin).kind with
    | settings v r id carId s =>
      by_cases hnewer : revision < r
      · simp [settingsLeft, patch, Option.filter, hnewer]
      · simp [settingsLeft, Option.filter, hnewer]
    | car | row | carGone | rowGone => simp [key] at hkey

theorem compacted_cars (hrising : ms.Pairwise fun a b => a.revision < b.revision) (id : ℤ) :
    (mirror.apply (compacted binding sequence parentDigest ms)).cars id =
    (ms.foldl replay mirror).cars id := by
  have hnodup := lastOfEach_nodup hrising
  have hwell' := lastOfEach_wellFormed hwell
  have hlastWith := lastWith_lastOfEach hrising
  obtain ⟨hcars, hsettings, -, htombstones⟩ := @compacted_contents D C S ms binding sequence
      parentDigest
  rw [replay_cars hwell hrising, apply_cars, hcars, hsettings, htombstones,
    any_tombstonePut .car hnodup, lastWith_carPut _ hwell' hnodup, lastWith_settingsPut _ hnodup,
      hlastWith, hlastWith]
  have hupsert := @carUpsert_isSome C S _ id hwell' hnodup
  rw [hlastWith] at hupsert
  -- the last mutation of the car's row decides what its settings still do
  cases hlast : lastWith key (.car, id) ms with
  | none =>
    rw [hlast] at hupsert
    cases hset : lastWith key (.carSetting, id) ms with
    | none => simp [carAfter]
    | some m =>
      obtain ⟨hin, hkey⟩ := mem_of_lastWith hset
      cases (hwell m hin).kind with
      | settings v r id' carId s =>
        cases hkey
        simp [settingsPut, hupsert, carAfter, patch]
      | car | row | carGone | rowGone => simp [key] at hkey
  | some m =>
    obtain ⟨hin, hkey⟩ := mem_of_lastWith hlast
    cases (hwell m hin).kind with
    | car v r car carId =>
      cases hkey
      rw [hlast] at hupsert
      have hnone : ((lastWith key (.carSetting, car.id) ms).bind (·.settingsPut (lastOfEach ms))) =
          none := by
        cases hset : lastWith key (.carSetting, car.id) ms with
        | none => rfl
        | some m =>
          obtain ⟨hin, hkey⟩ := mem_of_lastWith hset
          cases (hwell m hin).kind with
          | settings v r id' carId s =>
            cases hkey
            have hsome : (carUpsert (lastOfEach ms) car.id).isSome := hupsert
            exact if_pos hsome
          | car | row | carGone | rowGone => simp [key] at hkey
      have hmerged := merged_settings hwell' car.id r car
      rw [hlastWith] at hmerged
      simp [hnone, carPut, carLeft, carAfter, hmerged]
    | carGone => simp [carAfter, carLeft]
    | settings | row | rowGone => simp [key] at hkey

theorem apply_compacted (hrising : ms.Pairwise fun a b => a.revision < b.revision) :
    mirror.apply (compacted binding sequence parentDigest ms) = ms.foldl replay mirror := by
  apply Mirror.ext
  · funext id
    exact compacted_cars hwell hrising id
  · funext table id
    exact compacted_rows hwell hrising table id

theorem compacted_nonempty (hrising : ms.Pairwise fun a b => a.revision < b.revision)
    (hsome : lastOfEach ms ≠ []) :
    (compacted binding sequence parentDigest ms).isEmpty = false := by
  have hnodup := lastOfEach_nodup hrising
  have hwell' := lastOfEach_wellFormed hwell
  obtain ⟨m, hm⟩ := exists_mem_of_ne_nil _ hsome
  have hpositive {β : Type} (f : SyncMutation C S → Option β) (m' : SyncMutation C S)
      (hin : m' ∈ lastOfEach ms)
      (hf : (f m').isSome) : 0 < ((lastOfEach ms).filterMap f).length := by
    obtain ⟨b, hb⟩ := isSome_iff_exists.mp hf
    exact length_pos_of_mem (mem_filterMap.mpr ⟨m', hin, hb⟩)
  obtain ⟨hcars, hsettings, hrows, htombstones⟩ := @compacted_contents D C S ms binding sequence
      parentDigest
  unfold ProjectionDelta.isEmpty rowCount
  rw [decide_eq_false_iff_not, hcars, hsettings, htombstones]
  simp only [hrows]
  cases (hwell' m hm).kind with
  | car v r car carId =>
    have := hpositive (·.carPut (lastSettings (lastOfEach ms))) _ hm (by simp [carPut, carLeft])
    omega
  | settings v r id carId s =>
    -- settings are left out only where the car's row is in the delta
    cases hcar : (carUpsert (lastOfEach ms) id).isSome with
    | false =>
      have := hpositive (·.settingsPut (lastOfEach ms)) _ hm (by simp [settingsPut, hcar])
      omega
    | true =>
      rw [carUpsert_isSome hwell' hnodup] at hcar
      obtain ⟨car, hcar⟩ := isSome_iff_exists.mp hcar
      obtain ⟨m', hlast, hleft⟩ := bind_eq_some_iff.mp hcar
      obtain ⟨hin, hkey⟩ := mem_of_lastWith hlast
      have hentity : m'.entity = .car := congrArg Prod.fst hkey
      have := hpositive (·.carPut (lastSettings (lastOfEach ms))) m' hin
          (by simp [carPut, hentity, hleft])
      omega
  | row v r t row carId =>
    have := hpositive (·.rowPut t) _ hm (by simp [rowPut, rowLeft])
    cases t <;> omega
  | carGone | rowGone =>
    have := hpositive (·.tombstonePut) _ hm (by simp [tombstonePut])
    omega

end

end Exactness

namespace Catalogue

variable {c : Catalogue D C S}

def rangeMutations (c : Catalogue D C S) (fromRevision toRevision : ℕ) : List (SyncMutation C S) :=
  (c.journal.map (·.mutation)).filter fun m => fromRevision ≤ m.revision && m.revision ≤ toRevision

structure JournalKept (c : Catalogue D C S) : Prop where
  vehicle : ∀ row ∈ c.journal, row.mutation.vehicleId = c.vehicleId
  wellFormed : ∀ row ∈ c.journal, row.mutation.WellFormed
  rising : c.journal.Pairwise fun a b => a.mutation.revision < b.mutation.revision

structure RowsChecked (c : Catalogue D C S) : Prop where
  deltas : ∀ k d, c.deltas.get? k = some d → d.fromSequence < d.toSequence
  spans : ∀ k s, c.spans.get? k = some s → 0 < s.fromRevision

theorem rangeMutations_wellFormed (h : c.JournalKept) (a b : ℕ) :
    ∀ m ∈ c.rangeMutations a b, m.WellFormed := by
  intro m hm
  obtain ⟨row, hrow, rfl⟩ := mem_map.mp (mem_of_mem_filter hm)
  exact h.wellFormed row hrow

theorem rangeMutations_rising (h : c.JournalKept) (a b : ℕ) :
    (c.rangeMutations a b).Pairwise fun a b => a.revision < b.revision :=
  List.Pairwise.filter _ (pairwise_map.mpr h.rising)

theorem mem_liveSpans {span : LiveDeltaCompactionSpan D} (h : span ∈ c.liveSpans) :
    ∃ k row, c.spans.get? k = some row ∧ c.deltas.get? k = some span.delta ∧ row.fromRevision =
    span.fromRevision ∧ row.toRevision = span.toRevision := by
  unfold liveSpans at h
  rw [mem_insertionSort] at h
  obtain ⟨entry, hentry, hspan⟩ := mem_filterMap.mp h
  obtain ⟨delta, hdelta, rfl⟩ := map_eq_some_iff.mp hspan
  exact ⟨entry.1, entry.2, OrderedMap.get?_eq_some.mpr hentry, hdelta, rfl, rfl⟩

variable {head : SyncHead D} {spans : List (LiveDeltaCompactionSpan D)}
  {plan : LiveDeltaCompactionPlan D C S}

structure Planned (c : Catalogue D C S) (head : SyncHead D)
    (spans : List (LiveDeltaCompactionSpan D))
    (plan : LiveDeltaCompactionPlan D C S) (a b : LiveDeltaCompactionSpan D) : Prop where
  first : spans.head? = some a
  last : spans.getLast? = some b
  fields : plan = ⟨c.vehicleId, head.baseSnapshotId, a.delta.fromSequence,
    a.delta.parentChainDigest, b.delta.toSequence, b.delta.chainDigest, a.delta.pack.ordinal,
      a.fromRevision, b.toRevision,
    lastOfEach (c.rangeMutations a.fromRevision b.toRevision), spans⟩
  ordered : a.fromRevision ≤ b.toRevision
  nonempty : plan.mutations ≠ []

theorem planned_of_planMutations (h : c.planMutations head spans = .ok plan) :
    ∃ first last, c.Planned head spans plan first last := by
  unfold planMutations at h
  split at h
  case h_2 => cases h
  rename_i first last hfirst hlast
  have hcovered : (c.journal.filter fun row =>
      first.fromRevision ≤ row.mutation.revision && row.mutation.revision ≤ last.toRevision).map
        (·.mutation) =
      c.rangeMutations first.fromRevision last.toRevision := by
    rw [rangeMutations, List.filter_map]
    rfl
  simp only [hcovered] at h
  split_ifs at h with hchecks
  push Not at hchecks
  obtain ⟨-, -, hmin, hmax, hnonempty⟩ := hchecks
  cases h
  refine ⟨first, last, hfirst, hlast, rfl, ?_, by simpa [List.isEmpty_iff] using hnonempty⟩
  -- the oldest revision of the range is not after its newest
  have hin := min?_mem hmin
  exact (max?_eq_some_iff.mp hmax).2 _ hin

variable {first last : LiveDeltaCompactionSpan D}

theorem projectionDeltaForCompaction_of_planned (hkept : c.JournalKept)
    (hplanned : c.Planned head spans plan first last)
    (hsequence : first.delta.fromSequence < last.delta.toSequence)
    (hpositive : 0 < first.fromRevision) :
    projectionDeltaForCompaction plan c.binding =
      .ok (compacted c.binding ⟨plan.anchorSequence, plan.headSequence⟩ plan.anchorDigest
        (c.rangeMutations plan.fromRevision plan.toRevision)) := by
  have hnonempty := hplanned.nonempty
  rw [hplanned.fields] at hnonempty ⊢
  set ms := c.rangeMutations first.fromRevision last.toRevision with hms
  have hwell := rangeMutations_wellFormed hkept first.fromRevision last.toRevision
  have hrising := rangeMutations_rising hkept first.fromRevision last.toRevision
  have hnodup := lastOfEach_nodup hrising
  have hwell' := lastOfEach_wellFormed hwell
  have hsorted : (lastOfEach ms).Pairwise fun a b => a.revision < b.revision := hrising.filter _
  have hheader : ¬(c.vehicleId ≠ c.vehicleId ∨ first.delta.fromSequence ≥ last.delta.toSequence ∨
      first.fromRevision = 0 ∨ last.toRevision < first.fromRevision) := by
    have := hplanned.ordered
    simp only [ne_eq, not_true_eq_false, false_or]
    omega
  unfold projectionDeltaForCompaction
  simp only [if_neg hheader]
  rw [finalMutations_of_nodup]
  · simp only [bind, Except.bind]
    rw [insertionSort_of_rising hsorted, settingsUpserts_of_wellFormed hwell']
    simp only
    rw [foldlM_compactMutation hwell']
    change (if (compacted _ _ _ ms).isEmpty then _ else _) = _
    rw [compacted_nonempty hwell hrising hnonempty]
    rfl
  · intro m hm
    obtain ⟨row, hrow, rfl⟩ := mem_map.mp (mem_of_mem_filter (mem_of_mem_filter hm))
    exact hkept.vehicle row hrow
  · intro m hm
    have hin := mem_filter.mp (mem_of_mem_filter hm)
    simpa using hin.2
  · exact hnodup

variable [DecidableEq D]

theorem mem_of_takeSpans {base : Uuid} {taken rest result : List (LiveDeltaCompactionSpan D)}
    {expected : ℕ} {digest : D} (h : takeSpans base expected digest taken rest = .ok result) :
    ∀ s ∈ result, s ∈ taken ∨ s ∈ rest := by
  induction rest generalizing expected digest taken with
  | nil =>
    cases h
    exact fun s hs => .inl hs
  | cons span rest ih =>
    unfold takeSpans at h
    split at h
    · cases h
      exact fun s hs => .inl hs
    split_ifs at h
    intro s hs
    rcases ih h s hs with hin | hin
    · rcases mem_append.mp hin with hin | hin
      · exact .inl hin
      · exact .inr (by simp [mem_singleton.mp hin])
    · exact .inr (mem_cons_of_mem _ hin)

theorem first_lt_last (hconnect : allConnect spans)
    (hrise : ∀ s ∈ spans, s.delta.fromSequence < s.delta.toSequence)
    (hfirst : spans.head? = some first) (hlast : spans.getLast? = some last) :
    first.delta.fromSequence < last.delta.toSequence := by
  induction spans generalizing first with
  | nil => cases hfirst
  | cons a spans ih =>
    cases hfirst
    have ha := hrise a (by simp)
    cases spans with
    | nil =>
      cases hlast
      exact ha
    | cons b spans =>
      simp only [allConnect, Bool.and_eq_true] at hconnect
      have hjoin : a.delta.toSequence = b.delta.fromSequence := by
        have := hconnect.1
        simp only [spansConnect, Bool.and_eq_true, decide_eq_true_eq] at this
        exact this.1.1.1
      have hrest := ih hconnect.2 (fun s hs => hrise s (by simp [hs])) rfl (by simpa using hlast)
      omega

theorem planSpans_facts (hchecked : c.RowsChecked) (h : c.planSpans head = .ok (some spans)) :
    allConnect spans ∧ (∀ s ∈ spans, s ∈ c.liveSpans) ∧ ∀ s ∈ spans, s.delta.fromSequence <
    s.delta.toSequence ∧ 0 < s.fromRevision := by
  obtain ⟨taken, htaken, h⟩ := bind_eq_ok.mp h
  split at h
  · cases h
  split at h
  case isFalse => cases h
  rename_i hconnect
  cases h
  have hlive (s) (hs : s ∈ taken.reverse) : s ∈ c.liveSpans := by
    rcases mem_of_takeSpans htaken s (mem_reverse.mp hs) with hin | hin
    · cases hin
    · exact hin
  refine ⟨hconnect, hlive, fun s hs => ?_⟩
  obtain ⟨k, row, hrow, hdelta, hfrom, -⟩ := mem_liveSpans (hlive s hs)
  exact ⟨hchecked.deltas k _ hdelta, hfrom ▸ hchecked.spans k row hrow⟩

theorem planned_of_planLiveDeltaCompaction (h : c.planLiveDeltaCompaction = .ok (some plan)) :
    ∃ spans first last, c.planSpans c.head = .ok (some
    spans) ∧ c.Planned c.head spans plan first last := by
  unfold planLiveDeltaCompaction at h
  split_ifs at h
  obtain ⟨spans, hspans, h⟩ := bind_eq_ok.mp h
  cases spans with
  | none => cases h
  | some spans =>
    obtain ⟨plan', hplan, h⟩ := bind_eq_ok.mp h
    cases h
    obtain ⟨first, last, hplanned⟩ := planned_of_planMutations hplan
    exact ⟨spans, first, last, hspans, hplanned⟩

/-- Every plan gets its delta, and the delta does to every mirror what the mutations of the plan's
range do one by one. -/
theorem compaction_replays_its_range (hkept : c.JournalKept) (hchecked : c.RowsChecked)
    (hplan : c.planLiveDeltaCompaction = .ok (some plan)) :
    ∃ delta, projectionDeltaForCompaction plan c.binding = .ok delta ∧ ∀ mirror : Mirror C S,
      mirror.apply delta =
        (c.rangeMutations plan.fromRevision plan.toRevision).foldl Mirror.replay mirror := by
  obtain ⟨spans, first, last, hspans, hplanned⟩ := planned_of_planLiveDeltaCompaction hplan
  obtain ⟨hconnect, -, hrise⟩ := planSpans_facts hchecked hspans
  have hsequence := first_lt_last hconnect (fun s hs => (hrise s hs).1) hplanned.first hplanned.last
  have hpositive := (hrise first (List.mem_of_mem_head? hplanned.first)).2
  refine ⟨_, projectionDeltaForCompaction_of_planned hkept hplanned hsequence hpositive,
    fun mirror => ?_⟩
  exact apply_compacted (rangeMutations_wellFormed hkept _ _) (rangeMutations_rising hkept _ _)

def rowPack (ordinal : ℕ) (sequence : SequenceRange) (sha256 : ℕ) : TransportPack ℕ :=
  ⟨ordinal+1, 1, ordinal, hubProjectionSchemaV2, .hubProjectionSqlite, "", sha256, 1, 100, 1,
    sequence, [.car]⟩

def patchedCar : Catalogue ℕ ℕ ℕ where
  binding := ⟨1, 1, 1, 1, 5⟩
  base := ⟨1, 0, 100, [rowPack 0 ⟨0, 0⟩ 10]⟩
  deltas := (OrderedMap.empty.insert (toLex (0, 1)) ⟨0, 1, 100, 101, 11,
    rowPack 1 ⟨0, 1⟩ 11⟩).insert (toLex (1, 2))
    ⟨1, 2, 101, 102, 12, rowPack 2 ⟨1, 2⟩ 12⟩
  spans := (OrderedMap.empty.insert (toLex (0, 1)) ⟨1, 1, 11⟩).insert (toLex (1, 2)) ⟨2, 2, 12⟩
  packs := [(rowPack 1 ⟨0, 1⟩ 11).row, (rowPack 2 ⟨1, 2⟩ 12).row]
  head := ⟨1, 2, 102, ⟨protocolV1, hubProjectionSchemaV2, 1, 1, 1, 1, 2⟩⟩
  nextRevision := 4
  journal := [⟨⟨1, 1, .car, 5, 5, .upsert, .car ⟨5, 30, 0⟩⟩, true, 0⟩,
    ⟨⟨1, 2, .carSetting, 5, 5, .upsert, .settings 7⟩, true, 0⟩,
    ⟨⟨1, 3, .car, 5, 5, .tombstone, .car ⟨5, 30, 7⟩⟩, false, 0⟩]
  materialised := ⟨fun _ => none, fun _ _ => none⟩

theorem compaction_replays_its_range_patchedCar :
    ∃ plan, patchedCar.planLiveDeltaCompaction = .ok (some plan) ∧
    ∃ delta, projectionDeltaForCompaction plan patchedCar.binding = .ok delta ∧ ∀ mirror :
    Mirror ℕ ℕ,
    mirror.apply delta = (patchedCar.rangeMutations plan.fromRevision plan.toRevision).foldl
    Mirror.replay mirror := by
  have hkept : patchedCar.JournalKept := ⟨by decide, by decide, by decide⟩
  have hchecked : patchedCar.RowsChecked := by
    constructor
    · intro k d h
      have hin : ∀ e ∈ patchedCar.deltas.entries, e.2.fromSequence < e.2.toSequence := by decide
      exact hin _ (OrderedMap.get?_eq_some.mp h)
    · intro k s h
      have hin : ∀ e ∈ patchedCar.spans.entries, 0 < e.2.fromRevision := by decide
      exact hin _ (OrderedMap.get?_eq_some.mp h)
  exact ⟨_, rfl, compaction_replays_its_range hkept hchecked rfl⟩

end Catalogue

end TeslatlasHub.LiveSync
