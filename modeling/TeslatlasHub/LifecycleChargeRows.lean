import TeslatlasHub.LifecycleRun
import TeslatlasHub.IdLedger

namespace TeslatlasHub.Lifecycle

open FixedWidth RunRules List

variable {s s' : OpenSessionState} {o : Observation} {d d' : LifecycleDelta}

structure SameCharge (a b : OpenCharge) : Prop where
  id : a.id = b.id
  startDateMs : a.startDateMs = b.startDateMs
  samples : a.samples = b.samples

theorem SameCharge.refl (a : OpenCharge) : SameCharge a a := ⟨rfl, rfl, rfl⟩

theorem SameCharge.trans {a b c : OpenCharge} (h : SameCharge a b) (h' : SameCharge b c) :
    SameCharge a c :=
  ⟨h.id.trans h'.id, h.startDateMs.trans h'.startDateMs, h.samples.trans h'.samples⟩

theorem foldEnergyCounter_same (charge : OpenCharge) (counter : ℚ) :
    SameCharge (foldEnergyCounter charge counter) charge := by
  unfold foldEnergyCounter
  simp only
  split
  · split <;> exact ⟨rfl, rfl, rfl⟩
  · split
    · exact ⟨rfl, rfl, rfl⟩
    · split <;> exact ⟨rfl, rfl, rfl⟩

theorem foldChargeInterval_same (charge : OpenCharge) (dtMs : ℤ) (powerKw counter : Option ℚ) :
    SameCharge (foldChargeInterval charge dtMs powerKw counter) charge := by
  unfold foldChargeInterval
  split
  · exact .refl charge
  split
  · split
    · simp only
      split
      · split <;> exact ⟨rfl, rfl, rfl⟩
      · exact ⟨rfl, rfl, rfl⟩
    · exact ⟨rfl, rfl, rfl⟩
  · exact ⟨rfl, rfl, rfl⟩

theorem observeChargeInterval_same (charge : OpenCharge) (first : Bool) (timestampMs : ℤ)
    (powerKw counter : Option ℚ) :
    SameCharge (observeChargeInterval charge first timestampMs powerKw counter) charge := by
  unfold observeChargeInterval
  split
  · exact ⟨rfl, rfl, rfl⟩
  · split
    · exact foldChargeInterval_same charge _ powerKw counter
    · exact ⟨rfl, rfl, rfl⟩

theorem observeChargeSample_same (charge : OpenCharge) (sample : ProjectionChargeSample) :
    SameCharge (observeChargeSample charge sample) charge := by
  have hcounter : SameCharge
      (((usableEnergyCounter sample).map (foldEnergyCounter charge)).getD charge) charge := by
    cases usableEnergyCounter sample with
    | none => exact .refl charge
    | some counter => exact foldEnergyCounter_same charge counter
  have hinterval := observeChargeInterval_same
    { ((usableEnergyCounter sample).map (foldEnergyCounter charge)).getD charge with
      isDc := sessionKindAfter
        (((usableEnergyCounter sample).map (foldEnergyCounter charge)).getD charge).isDc
        (sampleKindEvidence sample)
      fastChargerType := sessionChargerTypeAfter
        (((usableEnergyCounter sample).map (foldEnergyCounter charge)).getD charge).fastChargerType
        sample }
    (charge.sampleCount == 0 && charge.lastSampleTimestampMs.isNone) sample.timestampMs
    (sampleGridPowerKw sample (sessionKindAfter
      (((usableEnergyCounter sample).map (foldEnergyCounter charge)).getD charge).isDc
      (sampleKindEvidence sample))
      (((usableEnergyCounter sample).map (foldEnergyCounter charge)).getD
        charge).phaseCount).powerKw
    (usableEnergyCounter sample)
  exact ⟨hinterval.id.trans hcounter.id, hinterval.startDateMs.trans hcounter.startDateMs,
    hinterval.samples.trans hcounter.samples⟩

theorem refreshOdometer_same (charge : OpenCharge) (o : Observation) :
    SameCharge (refreshOdometer charge o) charge ∧
    (refreshOdometer charge o).lastSampleTimestampMs = charge.lastSampleTimestampMs := by
  unfold refreshOdometer
  split
  · exact ⟨⟨rfl, rfl, rfl⟩, rfl⟩
  · exact ⟨.refl charge, rfl⟩

theorem sampledCharge_same (s : OpenSessionState) (charge : OpenCharge) (o : Observation) :
    SameCharge (sampledCharge s charge o) charge ∧
      (sampledCharge s charge o).lastSampleTimestampMs = some o.parsed.chargeTimestampMs := by
  obtain ⟨hr, hlast⟩ := refreshOdometer_same
    (observeChargeSample (observeChargeAggregate charge (sampleOf s charge o))
      (sampleOf s charge o)) o
  have ho := observeChargeSample_same (observeChargeAggregate charge (sampleOf s charge o))
    (sampleOf s charge o)
  exact ⟨(hr.trans ho).trans ⟨rfl, rfl, rfl⟩, hlast⟩

variable {charge : OpenCharge}

theorem anchorsChargeSample_later {m : ℤ} (hc : s.openCharge = some charge)
    (hm : charge.lastSampleTimestampMs = some m) (h : anchorsChargeSample s o) :
    m < o.parsed.chargeTimestampMs := by
  unfold anchorsChargeSample laterThan at h
  simp only [Bool.and_eq_true, hc, Option.bind_some, hm, Option.all_some, decide_eq_true_eq] at h
  exact h.2

def openChargeIds (s : OpenSessionState) : List ℤ := (s.openCharge.map (·.id)).toList

structure ChargeBook (s : OpenSessionState) (rows : List ProjectionCharge)
    (samples : List ProjectionChargeSample) : Prop where
  ledger : IdLedger.Ledger (openChargeIds s) (rows.map (·.id)) s.ids.nextChargeId
  unbuffered : ∀ charge, s.openCharge = some charge → charge.samples = []
  sample_lt : ∀ x ∈ samples, x.chargeProcessId < s.ids.nextChargeId
  increasing : samples.Pairwise fun x y =>
    x.chargeProcessId = y.chargeProcessId → x.timestampMs < y.timestampMs
  sample_le_last : ∀ charge, s.openCharge = some charge → ∀ x ∈ samples,
    x.chargeProcessId = charge.id → ∃ m, charge.lastSampleTimestampMs = some m ∧ x.timestampMs ≤ m
  row_end : ∀ row ∈ rows, ∃ e, row.endDateMs = some e ∧ row.startDateMs ≤ e ∧
    ∀ x ∈ samples, x.chargeProcessId = row.id → x.timestampMs ≤ e

variable {rows : List ProjectionCharge} {samples : List ProjectionChargeSample}

theorem ChargeBook.of_same {t : OpenSessionState} (h : ChargeBook s rows samples)
    (hopen : t.openCharge = s.openCharge) (hnext : t.ids.nextChargeId = s.ids.nextChargeId) :
    ChargeBook t rows samples := by
  refine ⟨?_, ?_, ?_, h.increasing, ?_, h.row_end⟩
  · unfold openChargeIds
    rw [hopen, hnext]
    exact h.ledger
  · rw [hopen]
    exact h.unbuffered
  · rw [hnext]
    exact h.sample_lt
  · rw [hopen]
    exact h.sample_le_last

theorem ChargeBook.open_eq (h : ChargeBook s rows samples) (hc : s.openCharge = some charge) :
    IdLedger.Ledger [charge.id] (rows.map (·.id)) s.ids.nextChargeId := by
  have hl := h.ledger
  unfold openChargeIds at hl
  rw [hc] at hl
  exact hl

theorem ChargeBook.close {endMs : ℤ} {unplugged : Bool}
    (h : ChargeBook s (rows++d.charges) (samples++d.openChargeSamples))
    (hc : s.openCharge = some charge)
    (hend : ∀ x ∈ samples++d.openChargeSamples, x.chargeProcessId = charge.id →
    x.timestampMs ≤ endMs) (hclose : closeOpenCharge s d endMs unplugged = .ok (s', d')) :
    ChargeBook s' (rows++d'.charges) (samples++d'.openChargeSamples) := by
  obtain ⟨row, cs, hof, he⟩ := closeOpenCharge_eq (d := d) hc
  rw [he] at hclose
  cases hclose
  have hsamples : d.openChargeSamples++charge.samples = d.openChargeSamples := by
    rw [h.unbuffered charge hc, append_nil]
  simp only [hsamples, ← append_assoc]
  refine ⟨?_, ?_, h.sample_lt, h.increasing, ?_, ?_⟩
  · have hl := (h.open_eq hc).settle
    rw [← hof.id_eq] at hl
    rw [map_append, map_singleton]
    exact hl
  · intro charge' hx
    cases hx
  · intro charge' hx
    cases hx
  · intro r hr
    rcases mem_concat.mp hr with hr | rfl
    · exact h.row_end r hr
    · refine ⟨_, hof.endDateMs_eq, ?_, ?_⟩
      · rw [hof.startDateMs_eq]
        exact le_max_right _ _
      · intro x hx hid
        exact le_max_of_le_left (hend x hx (hid.trans hof.id_eq))

theorem ChargeBook.samples_le_evidence (h : ChargeBook s rows samples)
    (hc : s.openCharge = some charge) :
    ∀ x ∈ samples, x.chargeProcessId = charge.id → x.timestampMs ≤ charge.lastEvidenceMs := by
  intro x hx hid
  obtain ⟨m, hm, hle⟩ := h.sample_le_last charge hc x hx hid
  unfold OpenCharge.lastEvidenceMs
  rw [hm]
  exact le_max_of_le_left hle

/-- The close step keeps the rows, the samples and the open charge in step. -/
theorem ChargeBook.closeStep (h : ChargeBook s (rows++d.charges) (samples++d.openChargeSamples))
    (hc : chargeCloseStep s o d = .ok (s', d')) :
    ChargeBook s' (rows++d'.charges) (samples++d'.openChargeSamples) := by
  rcases chargeCloseStep_cases hc with ⟨rfl, rfl, -⟩ | ⟨charge, hopen, -, hclose⟩
  · exact h
  · exact h.close hopen (h.samples_le_evidence hopen) hclose

theorem ChargeBook.opened {rows : List ProjectionCharge} {samples : List ProjectionChargeSample}
    (h : ChargeBook s rows samples) (ho : chargeOpenStep s o d = .ok s') :
    ChargeBook s' rows samples := by
  rcases chargeOpenStep_cases ho with rfl | ⟨hn, -, -, -, opening, -, rfl⟩
  · exact h
  · have hopen : openChargeIds s = [] := by
      unfold openChargeIds
      rw [hn]
      rfl
    have hl := h.ledger.allocate
    rw [hopen] at hl
    refine ⟨hl, ?_, ?_, h.increasing, ?_, h.row_end⟩
    · intro charge hc
      cases hc
      rfl
    · intro x hx
      have hlt := h.sample_lt x hx
      change x.chargeProcessId < s.ids.nextChargeId+1
      omega
    · -- No sample carries the id that was allocated just now.
      intro charge hc x hx hid
      cases hc
      exact absurd hid (ne_of_lt (h.sample_lt x hx))

theorem ChargeBook.sampled (h : ChargeBook s (rows++d.charges) (samples++d.openChargeSamples))
    (hc : s.openCharge = some charge) (ha : anchorsChargeSample s o) :
    ChargeBook (sampledState s charge o) (rows++(sampledDelta s charge o d).charges)
    (samples++(sampledDelta s charge o d).openChargeSamples) := by
  obtain ⟨hsame, hlast⟩ := sampledCharge_same s charge o
  have hlt (x : ProjectionChargeSample) (hx : x ∈ samples++d.openChargeSamples)
      (hid : x.chargeProcessId = charge.id) : x.timestampMs < o.parsed.chargeTimestampMs := by
    obtain ⟨m, hm, hle⟩ := h.sample_le_last charge hc x hx hid
    have hlater := anchorsChargeSample_later hc hm ha
    omega
  have hopen : charge.id < s.ids.nextChargeId := ((h.open_eq hc).mem_lt mem_cons_self).2
  change ChargeBook (sampledState s charge o) (rows++d.charges)
    (samples++(d.openChargeSamples++[sampleOf s charge o]))
  rw [← append_assoc]
  refine ⟨?_, ?_, ?_, ?_, ?_, ?_⟩
  · change IdLedger.Ledger [(sampledCharge s charge o).id] _ s.ids.nextChargeId
    rw [hsame.id]
    exact h.open_eq hc
  · intro charge' hx
    cases hx
    rw [hsame.samples]
    exact h.unbuffered charge hc
  · intro x hx
    rcases mem_concat.mp hx with hx | rfl
    · exact h.sample_lt x hx
    · exact hopen
  · apply pairwise_append.mpr
    refine ⟨h.increasing, pairwise_singleton _ _, ?_⟩
    intro x hx y hy hid
    obtain rfl := mem_singleton.mp hy
    exact hlt x hx hid
  · intro charge' hx x hx' hid
    cases hx
    refine ⟨_, hlast, ?_⟩
    rcases mem_concat.mp hx' with hm | rfl
    · exact le_of_lt (hlt x hm (hid.trans hsame.id))
    · exact le_refl _
  · intro row hr
    obtain ⟨e, he, hse, hle⟩ := h.row_end row hr
    refine ⟨e, he, hse, ?_⟩
    intro x hx hid
    rcases mem_append.mp hx with hx | hx
    · exact hle x hx hid
    · -- The open charge is not among the rows, so the new sample belongs to none of them.
      obtain rfl := mem_singleton.mp hx
      have hnot := (h.open_eq hc).not_mem_settled mem_cons_self
      exact absurd (mem_map.mpr ⟨row, hr, hid.symm⟩) hnot

theorem ChargeBook.samples_le_sampled (h : ChargeBook (sampledState s charge o) rows samples) :
    ∀ x ∈ samples, x.chargeProcessId = (sampledCharge s charge o).id →
    x.timestampMs ≤ o.parsed.chargeTimestampMs := by
  intro x hx hid
  obtain ⟨m, hm, hle⟩ := h.sample_le_last _ rfl x hx hid
  rw [(sampledCharge_same s charge o).2] at hm
  cases hm
  exact hle

/-- So does the sample step. -/
theorem ChargeBook.sampleStep (h : ChargeBook s (rows++d.charges) (samples++d.openChargeSamples))
    (hs : chargeSampleStep s o d = .ok (s', d')) :
    ChargeBook s' (rows++d'.charges) (samples++d'.openChargeSamples) := by
  rcases chargeSampleStep_cases hs with ⟨-, rfl, rfl⟩ | ⟨charge, hc, -, rfl, rfl⟩ |
    ⟨charge, hc, ha, -, rfl, rfl⟩ | ⟨charge, hc, ha, -, hclose⟩
  · exact h
  · obtain ⟨hsame, hlast⟩ := refreshOdometer_same charge o
    refine ⟨?_, ?_, h.sample_lt, h.increasing, ?_, h.row_end⟩
    · change IdLedger.Ledger [(refreshOdometer charge o).id] _ s.ids.nextChargeId
      rw [hsame.id]
      exact h.open_eq hc
    · intro charge' hx
      cases hx
      rw [hsame.samples]
      exact h.unbuffered charge hc
    · intro charge' hx x hx' hid
      cases hx
      rw [hlast]
      exact h.sample_le_last charge hc x hx' (hid.trans hsame.id)
  · exact h.sampled hc ha
  · have hsampled := h.sampled hc ha
    exact hsampled.close rfl hsampled.samples_le_sampled hclose

theorem ChargeBook.passed [Geodesy] (h : ChargeBook s rows samples)
    (t : PipelineTrace s o {} s' d) :
    ChargeBook s' (rows++d.charges) (samples++d.openChargeSamples) := by
  have hclosed : ChargeBook t.driveClosed (rows++t.driveClosedDelta.charges)
      (samples++t.driveClosedDelta.openChargeSamples) := by
    have hsame := t.driveClosed_charge
    rw [hsame.charges, hsame.samples, append_nil, append_nil]
    exact h.of_same hsame.openCharge hsame.nextChargeId
  have hcc := hclosed.closeStep t.chargeClosed_eq
  have hdo := hcc.of_same t.driveOpened_charge.openCharge t.driveOpened_charge.nextChargeId
  have hco := hdo.opened t.chargeOpened_eq
  have hdf : ChargeBook t.driveFolded (rows++t.foldedDelta.charges)
      (samples++t.foldedDelta.openChargeSamples) := by
    have hsame := t.driveFolded_charge
    rw [hsame.charges, hsame.samples]
    exact hco.of_same hsame.openCharge hsame.nextChargeId
  have hcs := hdf.sampleStep t.chargeSampled_eq
  rw [t.final_charge.charges, t.final_charge.samples]
  exact hcs.of_same t.final_charge.openCharge t.final_charge.nextChargeId

end TeslatlasHub.Lifecycle
