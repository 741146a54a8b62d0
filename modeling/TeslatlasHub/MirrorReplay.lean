import TeslatlasHub.SyncJournal

/-! What a mirror holds at one place after a delta, and after the mutations of a journal one by one.
-/
namespace TeslatlasHub.LiveSync

open SyncMutation LastWrite List Function

variable {D C S : Type} {mirror : Mirror C S} {table : Table} {id : ℤ}

namespace Mirror

/-! ### One write -/

theorem putCar_cars (car : ProjectionCar C S) :
    (mirror.putCar car).cars id = if car.id = id then some car else mirror.cars id := by
  change update mirror.cars car.id (some car) id = _
  by_cases hid : car.id = id
  · rw [if_pos hid, ← hid, update_self]
  · rw [if_neg hid, update_of_ne (Ne.symm hid)]

theorem patchSettings_cars (carId : ℤ) (settings : S) :
    (mirror.patchSettings carId settings).cars id = if carId =
    id then (mirror.cars id).map (fun car => { car with settings := settings }) else mirror.cars
      id := by
  change update mirror.cars carId _ id = _
  by_cases hid : carId = id
  · subst hid
    rw [if_pos rfl, update_self]
  · rw [if_neg hid, update_of_ne (Ne.symm hid)]

variable (t : Table)

theorem setRow_rows (rowId : ℤ) (row : Option (ProjectionRow C)) :
    (mirror.setRow t rowId row).rows table id = if t = table ∧ rowId = id then row else mirror.rows
      table id := by
  unfold setRow
  by_cases ht : t = table
  · subst ht
    by_cases hid : rowId = id
    · subst hid
      simp
    · simp [hid, update_of_ne (Ne.symm hid)]
  · simp [ht, update_of_ne (Ne.symm ht)]

@[simp]
theorem putCar_rows (car : ProjectionCar C S) : (mirror.putCar car).rows = mirror.rows := rfl

@[simp]
theorem patchSettings_rows (carId : ℤ) (settings : S) : (mirror.patchSettings carId settings).rows =
    mirror.rows := rfl

@[simp]
theorem setRow_cars (rowId : ℤ) (row : Option (ProjectionRow C)) :
    (mirror.setRow t rowId row).cars = mirror.cars := rfl

@[simp]
theorem putRow_cars (row : ProjectionRow C) : (mirror.putRow t row).cars = mirror.cars := rfl

theorem putRow_rows (row : ProjectionRow C) :
    (mirror.putRow t row).rows table id = if t = table ∧ row.id = id then some row else mirror.rows
      table id :=
  setRow_rows t row.id (some row)

theorem remove_cars (entity : Entity) (removed : ℤ) :
    (mirror.remove entity removed).cars id = if entity = .car ∧ removed = id then none else
      mirror.cars id := by
  cases entity with
  | car =>
    change update mirror.cars removed none id = _
    by_cases hid : removed = id
    · simp [hid]
    · simp [hid, update_of_ne (Ne.symm hid)]
  | row t => simp [remove]
  | carSetting | geofence | address => simp [remove]

theorem remove_rows (entity : Entity) (removed : ℤ) : (mirror.remove entity removed).rows table id =
      if entity = .row table ∧ removed = id then none else mirror.rows table id := by
  cases entity with
  | row t => simp [remove, setRow_rows]
  | car | carSetting | geofence | address => simp [remove]

theorem putCars_cars (cars : List (ProjectionCar C S)) :
    (cars.foldl putCar mirror).cars id = (lastWith ProjectionCar.id id cars).elim (mirror.cars id)
    some := by
  induction cars using reverseRecOn with
  | nil => rfl
  | append_singleton cars car ih =>
    rw [foldl_append, foldl_cons, foldl_nil, putCar_cars, lastWith_concat, ih]
    by_cases hid : car.id = id
    · rw [if_pos hid, if_pos hid, Option.elim_some]
    · rw [if_neg hid, if_neg hid]

theorem putCars_rows (cars : List (ProjectionCar C S)) :
    (cars.foldl putCar mirror).rows = mirror.rows := by
  induction cars generalizing mirror with
  | nil => rfl
  | cons car cars ih => exact ih

theorem patches_cars (patches : List (ProjectionCarSettingsPatch S)) :
    (patches.foldl (fun m patch => m.patchSettings patch.carId patch.settings) mirror).cars id =
      (lastWith ProjectionCarSettingsPatch.carId id patches).elim (mirror.cars id)
        (fun patch => (mirror.cars id).map fun car => { car with settings := patch.settings }) := by
  induction patches using reverseRecOn with
  | nil => rfl
  | append_singleton patches patch ih =>
    rw [foldl_append, foldl_cons, foldl_nil, patchSettings_cars, lastWith_concat, ih]
    by_cases hid : patch.carId = id
    · rw [if_pos hid, if_pos hid]
      -- an earlier patch of the same car leaves nothing behind
      cases lastWith ProjectionCarSettingsPatch.carId id patches with
      | none => rfl
      | some earlier => cases hcar : mirror.cars id <;> simp
    · rw [if_neg hid, if_neg hid]

theorem patches_rows (patches : List (ProjectionCarSettingsPatch S)) :
    (patches.foldl (fun m patch => m.patchSettings patch.carId patch.settings) mirror).rows =
    mirror.rows := by
  induction patches generalizing mirror with
  | nil => rfl
  | cons patch patches ih => exact ih

theorem putRows_rows (rows : List (ProjectionRow C)) :
    (rows.foldl (fun m row => m.putRow t row) mirror).rows table id =
      if t = table then (lastWith ProjectionRow.id id rows).elim (mirror.rows table id) some
      else mirror.rows table id := by
  induction rows using reverseRecOn with
  | nil => simp
  | append_singleton rows row ih =>
    rw [foldl_append, foldl_cons, foldl_nil, putRow_rows, lastWith_concat, ih]
    by_cases ht : t = table
    · by_cases hid : row.id = id
      · simp [ht, hid]
      · simp [ht, hid]
    · simp [ht]

theorem putRows_cars (rows : List (ProjectionRow C)) :
    (rows.foldl (fun m row => m.putRow t row) mirror).cars = mirror.cars := by
  induction rows generalizing mirror with
  | nil => rfl
  | cons row rows ih => exact ih

theorem removes_cars (tombstones : List ProjectionTombstone) :
    (tombstones.foldl (fun m tombstone => m.remove tombstone.entity tombstone.id) mirror).cars id =
      if tombstones.any (fun t => t.entity = .car && t.id = id) then none else mirror.cars id := by
  induction tombstones generalizing mirror with
  | nil => simp
  | cons tombstone tombstones ih =>
    rw [foldl_cons, ih, remove_cars]
    by_cases hthis : tombstone.entity = .car ∧ tombstone.id = id
    · simp [hthis]
    · simp [hthis]

theorem removes_rows (tombstones : List ProjectionTombstone) :
    (tombstones.foldl (fun m tombstone => m.remove tombstone.entity tombstone.id) mirror).rows table
      id =
      if tombstones.any (fun t => t.entity = .row table && t.id = id) then none else mirror.rows
        table id := by
  induction tombstones generalizing mirror with
  | nil => simp
  | cons tombstone tombstones ih =>
    rw [foldl_cons, ih, remove_rows]
    by_cases hthis : tombstone.entity = .row table ∧ tombstone.id = id
    · simp [hthis]
    · simp [hthis]

theorem apply_cars (delta : ProjectionDelta D C S) :
    (mirror.apply delta).cars id =
      if delta.tombstones.any (fun t => t.entity = .car && t.id = id) then none
      else
        let written := (lastWith ProjectionCar.id id delta.cars).elim (mirror.cars id) some
        (lastWith ProjectionCarSettingsPatch.carId id delta.carSettings).elim written
          (fun patch => written.map fun car => { car with settings := patch.settings }) := by
  unfold apply
  simp only [foldl_cons, foldl_nil]
  rw [removes_cars]
  simp only [putRows_cars, patches_cars, putCars_cars]

theorem apply_rows (delta : ProjectionDelta D C S) : (mirror.apply delta).rows table id =
      if delta.tombstones.any (fun t => t.entity = .row table && t.id = id) then none
      else (lastWith ProjectionRow.id id (delta.rows table)).elim (mirror.rows table id) some := by
  unfold apply
  simp only [foldl_cons, foldl_nil]
  rw [removes_rows]
  simp only [putRows_rows, patches_rows, putCars_rows]
  cases table <;> simp

end Mirror

namespace SyncMutation

variable (m : SyncMutation C S)

def WellFormed : Prop :=
  match m.operation, m.entity, m.payload with
  | .upsert, .car, .car car => car.id = m.entityId
  | .upsert, .carSetting, .settings _ => True
  | .upsert, .row _, .row row => row.id = m.entityId
  | .tombstone, .car, _ => True
  | .tombstone, .row _, _ => True
  | _, _, _ => False

instance (m : SyncMutation C S) : Decidable m.WellFormed := by
  unfold WellFormed
  split <;> infer_instance

def patch (car : ProjectionCar C S) : ProjectionCar C S :=
  match m.payload with
  | .settings settings => { car with settings := settings }
  | _ => car

def rowLeft : Option (ProjectionRow C) :=
  match m.operation, m.payload with
  | .upsert, .row row => some row
  | _, _ => none

def carLeft : Option (ProjectionCar C S) :=
  match m.operation, m.payload with
  | .upsert, .car car => some car
  | _, _ => none

inductive Kind : SyncMutation C S → Prop
  | car (v r) (car : ProjectionCar C S) (carId) : Kind ⟨v, r, .car, car.id, carId, .upsert,
      .car car⟩
  | settings (v r id carId) (settings : S) : Kind ⟨v, r, .carSetting, id, carId, .upsert,
      .settings settings⟩
  | row (v r t) (row : ProjectionRow C) (carId) : Kind ⟨v, r, .row t, row.id, carId, .upsert,
      .row row⟩
  | carGone (v r id carId p) : Kind ⟨v, r, .car, id, carId, .tombstone, p⟩
  | rowGone (v r t id carId p) : Kind ⟨v, r, .row t, id, carId, .tombstone, p⟩

theorem WellFormed.kind {m : SyncMutation C S} (h : m.WellFormed) : m.Kind := by
  obtain ⟨v, r, entity, id, carId, operation, payload⟩ := m
  cases operation with
  | upsert =>
    cases entity with
    | car =>
      cases payload with
      | car car =>
        have hid : car.id = id := h
        exact hid ▸ Kind.car v r car carId
      | settings settings => cases h
      | row row => cases h
    | carSetting =>
      cases payload with
      | settings settings => exact Kind.settings v r id carId settings
      | car car => cases h
      | row row => cases h
    | row t =>
      cases payload with
      | row row =>
        have hid : row.id = id := h
        exact hid ▸ Kind.row v r t row carId
      | car car => cases h
      | settings settings => cases h
    | geofence => cases h
    | address => cases h
  | tombstone =>
    cases entity with
    | car => exact Kind.carGone v r id carId payload
    | row t => exact Kind.rowGone v r t id carId payload
    | carSetting => cases h
    | geofence => cases h
    | address => cases h

end SyncMutation

namespace Mirror

def carAfter (last settings : Option (SyncMutation C S)) (before : Option (ProjectionCar C S)) :
    Option (ProjectionCar C S) :=
  match last with
  | none => before.map fun car => settings.elim car (·.patch car)
  | some m =>
    m.carLeft.map fun car => (settings.filter fun s => m.revision < s.revision).elim car
      (·.patch car)

theorem carAfter_patched {last older : Option (SyncMutation C S)}
    {before : Option (ProjectionCar C S)}
    {s : SyncMutation C S} {settings : S} (hs : s.payload = .settings settings)
    (hnewer : ∀ m, last = some m → m.revision < s.revision) :
    (carAfter last older before).map (fun car => { car with settings := settings }) =
      carAfter last (some s) before := by
  have hpatch (older : Option (SyncMutation C S)) (car : ProjectionCar C S) :
      ({ older.elim car (·.patch car) with settings := settings } : ProjectionCar C S) = s.patch
        car := by
    cases older with
    | none => simp [patch, hs]
    | some m => cases hm : m.payload <;> simp [patch, hm, hs]
  cases last with
  | none => simp [carAfter, comp_def, hpatch]
  | some m =>
    have hkept : (some s).filter (fun s => m.revision < s.revision) = some s := by
        simp [Option.filter, hnewer m rfl]
    simp [carAfter, comp_def, hpatch, hkept]

variable {ms : List (SyncMutation C S)}

theorem replay_cars (hwell : ∀ m ∈ ms, m.WellFormed)
    (hrising : ms.Pairwise fun a b => a.revision < b.revision) :
    (ms.foldl replay mirror).cars id = carAfter (lastWith SyncMutation.key (.car, id) ms)
    (lastWith SyncMutation.key (.carSetting, id) ms) (mirror.cars id) := by
  induction ms using reverseRecOn with
  | nil => cases hcar : mirror.cars id <;> simp [carAfter, hcar]
  | append_singleton ms m ih =>
    rw [pairwise_append] at hrising
    have hlater (k) (s : SyncMutation C S) (hs : lastWith key k ms = some s) :
        s.revision < m.revision :=
      hrising.2.2 s (mem_of_lastWith hs).1 m mem_cons_self
    have ih := ih (fun m' hm' => hwell m' (mem_append_left _ hm')) hrising.1
    rw [foldl_append, foldl_cons, foldl_nil, lastWith_concat, lastWith_concat]
    generalize ms.foldl replay mirror = reached at ih ⊢
    cases (hwell m (by simp)).kind with
    | car v r car carId =>
      change (reached.putCar car).cars id = _
      rw [putCar_cars]
      by_cases hid : car.id = id
      · -- the new row is newer than all settings so far
        have hold : (lastWith key (.carSetting, id) ms).filter (fun s => r < s.revision) =
            none := by
          rw [Option.filter_eq_none_iff]
          intro s hs
          have := hlater _ s hs
          simpa using this.le
        simp [key, hid, carAfter, carLeft, hold]
      · simp [key, hid, ih]
    | settings v r carId' carId settings =>
      change (reached.patchSettings carId' settings).cars id = _
      rw [patchSettings_cars]
      by_cases hid : carId' = id
      · rw [if_pos hid, ih]
        simp only [key, hid, Prod.mk.injEq, reduceCtorEq, and_true, if_false, if_true]
        exact carAfter_patched rfl fun m' hm' => hlater _ m' hm'
      · simp [key, hid, ih]
    | row v r t row carId =>
      change (reached.putRow t row).cars id = _
      simp [key, ih]
    | carGone v r id' carId p =>
      change (reached.remove .car id').cars id = _
      rw [remove_cars]
      by_cases hid : id' = id
      · simp [key, hid, carAfter, carLeft]
      · simp [key, hid, ih]
    | rowGone v r t id' carId p =>
      change (reached.remove (.row t) id').cars id = _
      simp [remove_cars, key, ih]

theorem replay_rows (hwell : ∀ m ∈ ms, m.WellFormed) :
    (ms.foldl replay mirror).rows table id = (lastWith SyncMutation.key (.row table, id) ms).elim
    (mirror.rows table id) SyncMutation.rowLeft := by
  induction ms using reverseRecOn with
  | nil => rfl
  | append_singleton ms m ih =>
    have ih := ih (fun m' hm' => hwell m' (mem_append_left _ hm'))
    rw [foldl_append, foldl_cons, foldl_nil, lastWith_concat]
    generalize ms.foldl replay mirror = reached at ih ⊢
    cases (hwell m (by simp)).kind with
    | car v r car carId =>
      change reached.rows table id = _
      simp [key, ih]
    | settings v r id' carId settings =>
      change reached.rows table id = _
      simp [key, ih]
    | row v r t row carId =>
      change (reached.putRow t row).rows table id = _
      rw [putRow_rows, ih]
      by_cases hthis : t = table ∧ row.id = id
      · simp [key, hthis, rowLeft]
      · simp [key, hthis]
    | carGone v r id' carId p =>
      change (reached.remove .car id').rows table id = _
      simp [remove_rows, key, ih]
    | rowGone v r t id' carId p =>
      change (reached.remove (.row t) id').rows table id = _
      rw [remove_rows, ih]
      by_cases hthis : t = table ∧ id' = id
      · simp [key, hthis, rowLeft]
      · simp [key, hthis]

end Mirror

end TeslatlasHub.LiveSync
