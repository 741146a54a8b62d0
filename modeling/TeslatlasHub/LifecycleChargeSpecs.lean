import TeslatlasHub.LifecycleSessionSpecs

namespace TeslatlasHub.Lifecycle

open FixedWidth RunRules

variable {s s' : OpenSessionState} {o : Observation} {d d' : LifecycleDelta}

structure ChargeRowOf (charge : OpenCharge) (endMs : ℤ) (row : ProjectionCharge) : Prop where
  id_eq : row.id = charge.id
  startDateMs_eq : row.startDateMs = charge.startDateMs
  endDateMs_eq : row.endDateMs = some endMs
  chargeEnergyAdded_eq : row.chargeEnergyAdded = (chargeEnergyTotals charge).addedKwh

variable {charge : OpenCharge}

theorem finalizeCharge_of_le {endMs : ℤ} (h : charge.startDateMs ≤ endMs) :
    ∃ row, finalizeCharge charge (some endMs) = .ok (row, charge.samples) ∧
    ChargeRowOf charge endMs row := by
  unfold finalizeCharge
  simp only [Option.getD_some]
  rw [if_neg (by omega)]
  exact ⟨_, rfl, rfl, rfl, rfl, rfl⟩

theorem closeOpenCharge_eq {endMs : ℤ} {unplugged : Bool}
    (hc : s.openCharge = some charge) :
    ∃ row cs, ChargeRowOf charge (max endMs charge.startDateMs) row ∧ closeOpenCharge s d endMs
        unplugged =
        .ok ({ s with
            openCharge := none
            parkedSnapshot := some (snapshotAfterCharge charge (max endMs charge.startDateMs)
              unplugged) },
          { d with
            charges := d.charges++[row]
            chargeStartCoordinates := cs
            openChargeSamples := d.openChargeSamples++charge.samples }) := by
  obtain ⟨row, hrow, hof⟩ := finalizeCharge_of_le (le_max_right endMs charge.startDateMs)
  unfold closeOpenCharge
  rw [hc]
  simp only [hrow, bind, Except.bind, pure, Except.pure]
  exact ⟨row, _, hof, rfl⟩

theorem closeOpenCharge_none {endMs : ℤ} {unplugged : Bool} (hc : s.openCharge = some charge)
    (h : closeOpenCharge s d endMs unplugged = .ok (s', d')) : s'.openCharge = none := by
  obtain ⟨row, cs, -, he⟩ := closeOpenCharge_eq hc
  rw [he] at h
  cases h
  rfl

theorem chargeCloseStep_cases (h : chargeCloseStep s o d = .ok (s', d')) :
    (s' = s ∧ d' = d ∧ ∀ charge, s.openCharge = some charge → losesChargeEvidence s charge o =
    false) ∨ (∃ charge, s.openCharge = some charge ∧ losesChargeEvidence s charge o ∧
    closeOpenCharge s d charge.lastEvidenceMs false = .ok (s', d')) := by
  unfold chargeCloseStep at h
  cases hc : s.openCharge with
  | none =>
    rw [hc] at h
    cases h
    exact .inl ⟨rfl, rfl, fun charge hx => by cases hx⟩
  | some charge =>
    rw [hc] at h
    simp only at h
    cases hl : losesChargeEvidence s charge o with
    | true =>
      rw [hl, if_pos rfl] at h
      exact .inr ⟨charge, rfl, hl, h⟩
    | false =>
      rw [hl, if_neg Bool.false_ne_true] at h
      cases h
      refine .inl ⟨rfl, rfl, fun charge' hx => ?_⟩
      rw [← Option.some.inj hx]
      exact hl

theorem chargeOpenStep_cases (h : chargeOpenStep s o d = .ok s') :
    s' = s ∨
    (s.openCharge = none ∧ s.openDrive = none ∧ s.serviceMode ≠ some true ∧
      anchorsChargeSample s o ∧ ∃ opening, chargeStart s.parkedSnapshot o = some opening ∧
      s' = { s with
        ids := { s.ids with nextChargeId := s.ids.nextChargeId+1 }
        openCharge := some (openedCharge s.ids.nextChargeId
          (((afterClosed d).map (max · opening.startMs)).getD opening.startMs) o
            opening s.parkedSnapshot) }) := by
  unfold chargeOpenStep at h
  split_ifs at h with hc
  · cases h
    exact .inl rfl
  · simp only [Bool.or_eq_true, beq_iff_eq, Bool.not_eq_true', not_or,
      Option.not_isSome_iff_eq_none, Bool.not_eq_false] at hc
    split at h
    · cases h
      exact .inl rfl
    · rename_i opening ho
      obtain ⟨⟨id, next⟩, ha, hr⟩ := bind_eq_ok.mp h
      obtain ⟨rfl, rfl⟩ := allocate_ok ha
      cases hr
      exact .inr ⟨hc.1.1.1, hc.1.1.2, hc.1.2, hc.2, opening, ho, rfl⟩

def sampleOf (s : OpenSessionState) (charge : OpenCharge) (o : Observation) :
    ProjectionChargeSample :=
  chargeSampleFrom s.ids.nextChargeSampleId charge.id o.parsed

def sampledCharge (s : OpenSessionState) (charge : OpenCharge) (o : Observation) : OpenCharge :=
  refreshOdometer (observeChargeSample (observeChargeAggregate charge (sampleOf s charge o))
    (sampleOf s charge o)) o

def sampledState (s : OpenSessionState) (charge : OpenCharge) (o : Observation) :
    OpenSessionState :=
  { s with
    ids := { s.ids with nextChargeSampleId := s.ids.nextChargeSampleId+1 }
    openCharge := some (sampledCharge s charge o) }

def sampledDelta (s : OpenSessionState) (charge : OpenCharge) (o : Observation)
    (d : LifecycleDelta) :
    LifecycleDelta :=
  { d with openChargeSamples := d.openChargeSamples++[sampleOf s charge o] }

theorem chargeSampleStep_cases (h : chargeSampleStep s o d = .ok (s', d')) :
    (s.openCharge = none ∧ s' = s ∧ d' = d) ∨
    (∃ charge, s.openCharge = some charge ∧ anchorsChargeSample s o = false ∧
      s' = { s with openCharge := some (refreshOdometer charge o) } ∧ d' = d) ∨
    (∃ charge, s.openCharge = some charge ∧ anchorsChargeSample s o ∧
      o.charge.isEnd = false ∧ s' = sampledState s charge o ∧ d' = sampledDelta s charge o d) ∨
    (∃ charge, s.openCharge = some charge ∧ anchorsChargeSample s o ∧ o.charge.isEnd ∧
      closeOpenCharge (sampledState s charge o) (sampledDelta s charge o d)
        o.parsed.chargeTimestampMs (o.charge == .disconnected) = .ok (s', d')) := by
  unfold chargeSampleStep at h
  cases hc : s.openCharge with
  | none =>
    rw [hc] at h
    cases h
    exact .inl ⟨rfl, rfl, rfl⟩
  | some charge =>
    rw [hc] at h
    simp only at h
    cases ha : anchorsChargeSample s o with
    | false =>
      rw [ha, if_neg Bool.false_ne_true] at h
      cases h
      exact .inr (.inl ⟨charge, rfl, rfl, rfl, rfl⟩)
    | true =>
      rw [ha, if_pos rfl] at h
      obtain ⟨⟨id, next⟩, hid, h⟩ := bind_eq_ok.mp h
      obtain ⟨rfl, rfl⟩ := allocate_ok hid
      cases he : o.charge.isEnd with
      | false =>
        rw [he, if_neg Bool.false_ne_true] at h
        cases h
        exact .inr (.inr (.inl ⟨charge, rfl, rfl, rfl, rfl, rfl⟩))
      | true =>
        rw [he, if_pos rfl] at h
        exact .inr (.inr (.inr ⟨charge, rfl, rfl, rfl, h⟩))

end TeslatlasHub.Lifecycle
