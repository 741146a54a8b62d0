import TeslatlasHub.LifecycleProjection

namespace TeslatlasHub.Lifecycle

open FixedWidth RunRules

variable {s s' : OpenSessionState} {o : Observation} {d d' : LifecycleDelta}

theorem allocate_ok {cursor id next : ℤ} (h : allocate cursor = .ok (id, next)) :
    id = cursor ∧ next = cursor+1 := by
  unfold allocate at h
  cases hc : checkedSucc cursor with
  | none => rw [hc] at h; cases h
  | some n =>
    rw [hc] at h
    cases h
    exact ⟨rfl, checkedSucc_eq_some hc⟩

theorem mergeCarMetadata_frame (s : OpenSessionState) (o : Observation) :
    ∃ m, mergeCarMetadata s o = { s with carMetadata := m } := by
  unfold mergeCarMetadata
  split
  · exact ⟨s.carMetadata, rfl⟩
  · exact ⟨_, rfl⟩

theorem applyServiceMode_frame (s : OpenSessionState) (o : Observation) :
    ∃ m r, applyServiceMode s o = { s with serviceMode := m, serviceModeRefused := r } := by
  unfold applyServiceMode
  simp only
  split
  · exact ⟨_, _, rfl⟩
  split
  · exact ⟨_, _, rfl⟩
  split
  · exact ⟨_, _, rfl⟩
  · split
    · exact ⟨_, _, rfl⟩
    · exact ⟨s.serviceMode, s.serviceModeRefused, rfl⟩

theorem applyServiceMode_congr {t : OpenSessionState} (hm : s.serviceMode = t.serviceMode)
    (hr : s.serviceModeRefused = t.serviceModeRefused) :
    (applyServiceMode s o).serviceMode = (applyServiceMode t o).serviceMode ∧
      (applyServiceMode s o).serviceModeRefused = (applyServiceMode t o).serviceModeRefused := by
  unfold applyServiceMode
  simp only [hr]
  split
  · exact ⟨rfl, rfl⟩
  split
  · exact ⟨rfl, rfl⟩
  split
  · exact ⟨rfl, rfl⟩
  · split
    · exact ⟨rfl, rfl⟩
    · exact ⟨hm, hr⟩

theorem applyServiceMode_merge (s : OpenSessionState) (o : Observation) (m : PositionMemory) :
    (applyServiceMode (mergeCarMetadata { s with lastPosition := m } o) o).serviceMode =
      (applyServiceMode s o).serviceMode := by
  obtain ⟨c, hc⟩ := mergeCarMetadata_frame { s with lastPosition := m } o
  have hmode : (mergeCarMetadata { s with lastPosition := m } o).serviceMode = s.serviceMode := by
    rw [hc]
  have hrefused : (mergeCarMetadata { s with lastPosition := m } o).serviceModeRefused =
      s.serviceModeRefused := by rw [hc]
  exact (applyServiceMode_congr hmode hrefused).1

theorem endingUpdate_frame {id : ℤ} {start : Option ℤ} (h : endingUpdate s = .ok (id, start, s')) :
    ∃ n u, s' = { s with ids := { s.ids with nextUpdateId := n }, openUpdate := u } := by
  unfold endingUpdate at h
  split at h
  · cases h
    exact ⟨s.ids.nextUpdateId, none, rfl⟩
  · obtain ⟨⟨i, n⟩, -, hr⟩ := bind_eq_ok.mp h
    cases hr
    exact ⟨n, s.openUpdate, rfl⟩

theorem applyVersionFacts_frame (h : applyVersionFacts s o d = .ok (s', d')) :
    ∃ n u v a us, s' = { s with
        ids := { s.ids with nextUpdateId := n }
        openUpdate := u
        lastCarVersion := v
        lastCarVersionAtMs := a } ∧ d' = { d with updates := us } := by
  have hsame (hs : (Except.ok (s, d) : Except LifecycleError _) = .ok (s', d')) :
      ∃ n u v a us, s' = { s with
        ids := { s.ids with nextUpdateId := n }
        openUpdate := u
        lastCarVersion := v
        lastCarVersionAtMs := a } ∧ d' = { d with updates := us } := by
    cases hs
    exact ⟨_, _, _, _, _, rfl, rfl⟩
  unfold applyVersionFacts at h
  simp only at h
  split at h
  · exact hsame h
  split at h
  · exact hsame h
  split at h
  · exact hsame h
  split at h
  · cases h
    exact ⟨_, _, _, _, _, rfl, rfl⟩
  · split at h
    · obtain ⟨⟨id, start, t⟩, ht, hr⟩ := bind_eq_ok.mp h
      obtain ⟨n, u, rfl⟩ := endingUpdate_frame ht
      cases hr
      exact ⟨n, u, _, _, _, rfl, rfl⟩
    · cases h
      exact ⟨_, _, _, _, _, rfl, rfl⟩
    · exact hsame h

theorem applyUpdateStatus_frame (h : applyUpdateStatus s o = .ok s') :
    ∃ n u, s' = { s with ids := { s.ids with nextUpdateId := n }, openUpdate := u } := by
  have hsame (hs : (Except.ok s : Except LifecycleError _) = .ok s') :
      ∃ n u, s' = { s with ids := { s.ids with nextUpdateId := n }, openUpdate := u } := by
    cases hs
    exact ⟨_, _, rfl⟩
  unfold applyUpdateStatus at h
  split at h
  · cases h
    exact ⟨_, none, rfl⟩
  · split at h
    · split at h
      · obtain ⟨⟨id, n⟩, -, hr⟩ := bind_eq_ok.mp h
        cases hr
        exact ⟨n, _, rfl⟩
      · exact hsame h
    · cases h
      exact ⟨_, none, rfl⟩
    · cases h
      exact ⟨_, none, rfl⟩
    · exact hsame h

theorem markOffline_frame (s : OpenSessionState) (o : Observation) :
    ∃ f : OpenDrive → Bool, markOffline s o =
    { s with openDrive := s.openDrive.map fun x => { x with sawOffline := f x } } := by
  unfold markOffline
  split
  · exact ⟨fun _ => true, rfl⟩
  · refine ⟨fun x => x.sawOffline, ?_⟩
    have hid : s.openDrive.map (fun x => { x with sawOffline := x.sawOffline }) = s.openDrive :=
      Option.map_id'
    rw [hid]

theorem parkedSnapshotStep_frame (s : OpenSessionState) (o : Observation) :
    ∃ p, parkedSnapshotStep s o = { s with parkedSnapshot := p } := by
  unfold parkedSnapshotStep
  simp only
  split
  · exact ⟨s.parkedSnapshot, rfl⟩
  · exact ⟨_, rfl⟩

theorem convertPendingSeed_of_none (h : s.pendingGainedRangeCharge = none) :
    convertPendingSeed s = s := by
  unfold convertPendingSeed
  rw [h]

theorem updateStateInterval_frame {carId atMs : ℤ} {phase : VehiclePhase}
    (h : updateStateInterval s carId phase atMs d = .ok (s', d')) :
    ∃ n i ss, s' = { s with ids := { s.ids with nextStateId := n }, openState := i } ∧
      d' = { d with states := ss } := by
  unfold updateStateInterval at h
  split at h
  · cases h
    exact ⟨_, _, _, rfl, rfl⟩
  · split at h
    · cases h
      exact ⟨_, _, _, rfl, rfl⟩
    · obtain ⟨⟨id, n⟩, -, hr⟩ := bind_eq_ok.mp h
      cases hr
      exact ⟨n, _, _, rfl, rfl⟩

theorem phaseStep_frame (h : phaseStep s o d = .ok (s', d')) :
    ∃ n i ss, s' = { s with
        ids := { s.ids with nextStateId := n }
        openState := i
        phase := derivePhase s o } ∧ d' = { d with states := ss } := by
  unfold phaseStep at h
  split at h
  · obtain ⟨n, i, ss, hs, hd⟩ := updateStateInterval_frame h
    exact ⟨n, i, ss, hs, hd⟩
  · cases h
    exact ⟨_, _, _, rfl, rfl⟩

end TeslatlasHub.Lifecycle
