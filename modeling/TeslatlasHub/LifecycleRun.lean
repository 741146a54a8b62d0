import TeslatlasHub.LifecycleTrace

namespace TeslatlasHub.Lifecycle

open FixedWidth RunRules

variable [Geodesy] {carId : ℤ} {T : ℕ} {s s' : OpenSessionState} {x : LifecycleSample}
  {o : Observation} {d total : LifecycleDelta}

structure LiveState (s : OpenSessionState) : Prop where
  noSeed : s.pendingGainedRangeCharge = none
  noImport : s.importedOpen = none
  noDriveMark : s.marks.importedDriveWatermarkMs = none
  noChargeMark : s.marks.importedChargeWatermarkMs = none
  noStateMark : s.marks.importedStateWatermarkMs = none

omit [Geodesy] in
theorem LiveState.new : LiveState .new := ⟨rfl, rfl, rfl, rfl, rfl⟩

def observationOf (s : OpenSessionState) (carId : ℤ) (T : ℕ) (x : LifecycleSample) :
    Option Observation :=
  if x.observationId ≤ s.lastObservationId then none
  else
    match parseSample x with
    | .error _ => none
    | .ok parsed =>
      if parsed.kind = .unknown ∨ (parsed.kind = .hubEvent ∧ parsed.hubEvent = none) then none
      else some (observe s carId T x.vehicleState parsed).2

def carriedMemory (s : OpenSessionState) (x : LifecycleSample) : PositionMemory :=
  match parseSample x with
  | .error _ => s.lastPosition
  | .ok parsed => carryForwardMemory s.lastPosition parsed (freshFamilies s parsed)

structure Observed (carId : ℤ) (T : ℕ) (s : OpenSessionState) (x : LifecycleSample)
    (o : Observation)
    (s' : OpenSessionState) (d : LifecycleDelta) : Prop where
  delivered : observationOf s carId T x = some o
  sound : o.Sound
  fresh : FreshAt s.marks o
  passed : ∃ s₁,
    Nonempty (PipelineTrace { s with lastPosition := carriedMemory s x } o {} s₁ d) ∧
    s' = { advanceWatermarks s₁ o with lastObservationId := x.observationId }

theorem applySample_cases {step : LifecycleStep} (hl : LiveState s)
    (h : applySampleWithOfflineDriveTimeout s carId x T = .ok step) :
    (∃ n, observationOf s carId T x = none ∧ step.state = { s with lastObservationId := n } ∧
      step.delta = {}) ∨ ∃ o, Observed carId T s x o step.state step.delta := by
  unfold applySampleWithOfflineDriveTimeout at h
  rw [convertPendingSeed_of_none hl.noSeed] at h
  split at h
  · cases h
  split at h
  · cases h
  split_ifs at h with hid
  · cases h
    exact .inl ⟨_, if_pos hid, rfl, rfl⟩
  · split at h
    · rename_i hp
      cases h
      refine .inl ⟨_, ?_, rfl, rfl⟩
      unfold observationOf
      rw [if_neg hid, hp]
    · cases h
    · rename_i parsed hp
      split_ifs at h with hk
      · cases h
        refine .inl ⟨_, ?_, rfl, rfl⟩
        unfold observationOf
        simp only [if_neg hid, hp, if_pos hk]
      · obtain ⟨⟨s₁, d₁⟩, hsteps, hr⟩ := bind_eq_ok.mp h
        cases hr
        refine .inr ⟨(observe s carId T x.vehicleState parsed).2, ⟨?_,
          observe_sound (parseSample_sound hp), observe_freshAt s carId T x.vehicleState parsed,
          s₁, ?_, rfl⟩⟩
        · unfold observationOf
          simp only [if_neg hid, hp, if_neg hk]
        · unfold carriedMemory
          rw [hp]
          exact applyLifecycleSteps_trace hsteps

theorem Observed.live (h : Observed carId T s x o s' d) (hl : LiveState s) : LiveState s' := by
  obtain ⟨s₁, ⟨t⟩, rfl⟩ := h.passed
  have hst := t.final_steady
  obtain ⟨-, -, hm, -, hi, hp, -⟩ := t.facts_same
  have hmarks : s₁.marks = s.marks := hst.marks.trans hm
  refine ⟨(hst.pending.trans hp).trans hl.noSeed, (hst.importedOpen.trans hi).trans hl.noImport, ?_,
    ?_, ?_⟩
  · change s₁.marks.importedDriveWatermarkMs = none
    rw [hmarks]
    exact hl.noDriveMark
  · change s₁.marks.importedChargeWatermarkMs = none
    rw [hmarks]
    exact hl.noChargeMark
  · change s₁.marks.importedStateWatermarkMs = none
    rw [hmarks]
    exact hl.noStateMark

omit [Geodesy] in
theorem mergeStepDelta_empty (total : LifecycleDelta) : mergeStepDelta total {} = total := by
  have hnone (p : ProjectionPosition) : becomesStandalone {} p = false := by
    unfold becomesStandalone
    cases p.driveId with
    | none => rfl
    | some i => rfl
  unfold mergeStepDelta
  simp only [hnone, List.append_nil, Bool.not_false, List.filter_true, List.filter_false,
    List.map_nil]

variable {xs : List LifecycleSample} {b : LifecycleStep}
  {I : OpenSessionState → LifecycleDelta → Prop}

theorem applySamplesWith_history {γ : Type} {I : OpenSessionState → LifecycleDelta → γ → Prop}
    {C : OpenSessionState → LifecycleDelta → LifecycleSample → Prop}
    {g : γ} {next : OpenSessionState → LifecycleSample → OpenSessionState → γ → γ}
    (hskip : ∀ s x s' g, observationOf s carId T x = none → next s x s' g = g)
    (hcursor : ∀ s total g n, I s total g → I { s with lastObservationId := n } total g)
    (hobserve : ∀ s x o s' d total g, LiveState s → I s total g → C s total x →
      Observed carId T s x o s' d → I s' (mergeStepDelta total d) (next s x s' g))
    (hinit : I .new {} g)
    (hmeet : StepsMeet (batchStep carId T) (fun b x => C b.state b.delta x)
      { state := .new, delta := {}, quarantined := false } xs)
    (hrun : applySamplesWith .new carId xs T = .ok b) :
    I b.state b.delta (history (batchStep carId T) (fun b x b' g => next b.state x b'.state g)
      { state := .new, delta := {}, quarantined := false } g xs) := by
  refine (run_history (I := fun b g => LiveState b.state ∧ I b.state b.delta g)
    (C := fun b x => C b.state b.delta x) ?_ ⟨LiveState.new, hinit⟩ hmeet hrun).2
  rintro b x b₂ g ⟨hl, hi⟩ hC hstep
  obtain ⟨step, happly, hr⟩ := bind_eq_ok.mp hstep
  cases hr
  obtain ⟨n, hnone, hs, hd⟩ | ⟨o, ho⟩ := applySample_cases hl happly
  · simp only [hskip _ _ _ _ hnone, hs, hd, mergeStepDelta_empty]
    exact ⟨⟨hl.noSeed, hl.noImport, hl.noDriveMark, hl.noChargeMark, hl.noStateMark⟩,
      hcursor b.state b.delta g n hi⟩
  · exact ⟨ho.live hl, hobserve b.state x o step.state step.delta b.delta g hl hi hC ho⟩

/-- An invariant of the state and the merged delta that cursor moves and observations preserve holds
at the end of every run whose steps all meet `C`. -/
theorem applySamplesWith_invariant
    {C : OpenSessionState → LifecycleSample → Prop} {b' : LifecycleStep}
    (hcursor : ∀ s total n, I s total → I { s with lastObservationId := n } total)
    (hobserve : ∀ s x o s' d total, LiveState s → I s total → C s x →
      Observed carId T s x o s' d → I s' (mergeStepDelta total d))
    (hl : LiveState b.state) (hinit : I b.state b.delta)
    (hmeet : StepsMeet (batchStep carId T) (fun b x => C b.state x) b xs)
    (hrun : run (batchStep carId T) b xs = .ok b') : LiveState b'.state ∧ I b'.state b'.delta := by
  refine run_invariant_of_stepsMeet (I := fun b => LiveState b.state ∧ I b.state b.delta)
    (C := fun b x => C b.state x) ?_ ⟨hl, hinit⟩ hmeet hrun
  rintro b x b₂ ⟨hl, hi⟩ hC hstep
  obtain ⟨step, happly, hr⟩ := bind_eq_ok.mp hstep
  cases hr
  obtain ⟨n, -, hs, hd⟩ | ⟨o, ho⟩ := applySample_cases hl happly
  · simp only [hs, hd, mergeStepDelta_empty]
    exact ⟨⟨hl.noSeed, hl.noImport, hl.noDriveMark, hl.noChargeMark, hl.noStateMark⟩,
      hcursor b.state b.delta n hi⟩
  · exact ⟨ho.live hl, hobserve b.state x o step.state step.delta b.delta hl hi hC ho⟩

theorem applySamplesWith_always
    {b' : LifecycleStep}
    (hcursor : ∀ s total n, I s total → I { s with lastObservationId := n } total)
    (hobserve : ∀ s x o s' d total, LiveState s → I s total →
      Observed carId T s x o s' d → I s' (mergeStepDelta total d))
    (hl : LiveState b.state) (hinit : I b.state b.delta)
    (hrun : run (batchStep carId T) b xs = .ok b') : LiveState b'.state ∧ I b'.state b'.delta :=
  applySamplesWith_invariant (C := fun _ _ => True) hcursor
    (fun s x o s' d total hl hi _ ho => hobserve s x o s' d total hl hi ho) hl hinit
    (stepsMeet_true _ _) hrun

theorem applySamplesWith_live (h : applySamplesWith .new carId xs T = .ok b) : LiveState b.state :=
  (applySamplesWith_always (I := fun _ _ => True) (fun _ _ _ _ => trivial)
    (fun _ _ _ _ _ _ _ _ _ => trivial) LiveState.new trivial h).1

theorem applySamplesWith_from
    {pre post : List LifecycleSample} {b₁ : LifecycleStep}
    (hcursor : ∀ s total n, I s total → I { s with lastObservationId := n } total)
    (hobserve : ∀ s x o s' d total, LiveState s → I s total →
      Observed carId T s x o s' d → I s' (mergeStepDelta total d))
    (hpre : applySamplesWith .new carId pre T = .ok b₁) (hpoint : I b₁.state b₁.delta)
    (h : applySamplesWith .new carId (pre++post) T = .ok b) : I b.state b.delta := by
  obtain ⟨b', hb', hpost⟩ := run_append.mp h
  cases hb'.symm.trans hpre
  exact (applySamplesWith_always hcursor hobserve (applySamplesWith_live hpre) hpoint hpost).2

@[reducible] def flatGeodesy : Geodesy := ⟨fun _ _ => 0⟩

def vehicleDataSample (id atMs : ℤ) (groups : List (String × JsonValue.Value)) :
    LifecycleSample where
  observationId := id
  observedAtMs := kEarliestMs+atMs
  vehicleState := "online"
  payload := .object [("record_type", .string "owner_api_vehicle_data_v1"),
    ("vehicle_data", .object groups)]

def gearSample (id atMs : ℤ) (gear : String) (odometer : ℚ) : LifecycleSample :=
  vehicleDataSample id atMs [("drive_state", .object [("shift_state", .string gear)]),
    ("vehicle_state", .object [("odometer", .number odometer)])]

def hubEventSample (id atMs : ℤ) (event : String) : LifecycleSample where
  observationId := id
  observedAtMs := kEarliestMs+atMs
  vehicleState := "unknown"
  payload := .object [("record_type", .string "hub_lifecycle_event_v1"), ("event", .string event)]

def discoverySample (id atMs : ℤ) (vehicleState : String) : LifecycleSample where
  observationId := id
  observedAtMs := kEarliestMs+atMs
  vehicleState := vehicleState
  payload := .object [("record_type", .string "owner_api_discovery_v1")]

end TeslatlasHub.Lifecycle
