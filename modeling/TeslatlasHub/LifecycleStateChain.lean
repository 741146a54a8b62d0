import TeslatlasHub.LifecycleRun

namespace TeslatlasHub.Lifecycle

open FixedWidth RunRules List Option

variable {s s' t : OpenSessionState} {o : Observation} {d d' e : LifecycleDelta}

structure StateSame (s : OpenSessionState) (d : LifecycleDelta) (t : OpenSessionState)
    (e : LifecycleDelta) : Prop where
  openState : t.openState = s.openState
  nextStateId : t.ids.nextStateId = s.ids.nextStateId
  phase : t.phase = s.phase
  states : e.states = d.states

theorem StateSame.refl (s : OpenSessionState) (d : LifecycleDelta) : StateSame s d s d :=
  ⟨rfl, rfl, rfl, rfl⟩

theorem StateSame.trans (h : StateSame s d s' d') (h' : StateSame s' d' t e) : StateSame s d t e :=
  ⟨h'.openState.trans h.openState, h'.nextStateId.trans h.nextStateId, h'.phase.trans h.phase,
    h'.states.trans h.states⟩

theorem closeOpenDrive_states {drive : OpenDrive} {loe : Bool} {p : Option ProjectionPosition}
    {end' : Option ℤ} (hd : s.openDrive = some drive)
    (h : (s', d') = closeOpenDrive s d loe p end') : StateSame s d s' d' := by
  obtain ⟨st, la, lo, k, hc⟩ := closeOpenDrive_eq d loe p end' hd
  obtain ⟨rfl, rfl⟩ := Prod.mk.inj (h.trans hc)
  refine ⟨rfl, rfl, rfl, ?_⟩
  unfold closedDelta
  split <;> rfl

theorem closeOpenCharge_states {charge : OpenCharge} {endMs : ℤ} {unplugged : Bool}
    (hc : s.openCharge = some charge) (h : closeOpenCharge s d endMs unplugged = .ok (s', d')) :
    StateSame s d s' d' := by
  obtain ⟨row, cs, -, he⟩ := closeOpenCharge_eq hc
  rw [he] at h
  cases h
  exact ⟨rfl, rfl, rfl, rfl⟩

theorem chargeCloseStep_states (h : chargeCloseStep s o d = .ok (s', d')) :
    StateSame s d s' d' := by
  rcases chargeCloseStep_cases h with ⟨rfl, rfl, -⟩ | ⟨charge, hc, -, hclose⟩
  · exact .refl _ _
  · exact closeOpenCharge_states hc hclose

theorem chargeSampleStep_states (h : chargeSampleStep s o d = .ok (s', d')) :
    StateSame s d s' d' := by
  rcases chargeSampleStep_cases h with ⟨-, rfl, rfl⟩ | ⟨charge, -, -, rfl, rfl⟩ |
    ⟨charge, -, -, -, rfl, rfl⟩ | ⟨charge, -, -, -, hclose⟩
  · exact .refl _ _
  · exact ⟨rfl, rfl, rfl, rfl⟩
  · exact ⟨rfl, rfl, rfl, rfl⟩
  · have hs := closeOpenCharge_states (s := sampledState s charge o) rfl hclose
    exact ⟨hs.openState, hs.nextStateId, hs.phase, hs.states⟩

theorem applyServiceMode_states (s : OpenSessionState) (o : Observation) (d : LifecycleDelta) :
    StateSame s d (applyServiceMode (mergeCarMetadata s o) o) d := by
  obtain ⟨c, hm⟩ := mergeCarMetadata_frame s o
  obtain ⟨m, r, hs⟩ := applyServiceMode_frame (mergeCarMetadata s o) o
  rw [hs, hm]
  exact ⟨rfl, rfl, rfl, rfl⟩

theorem applyVersionFacts_states (h : applyVersionFacts s o d = .ok (s', d')) :
    StateSame s d s' d' := by
  obtain ⟨n, u, v, a, us, rfl, rfl⟩ := applyVersionFacts_frame h
  exact ⟨rfl, rfl, rfl, rfl⟩

theorem applyUpdateStatus_states (h : applyUpdateStatus (markOffline s o) o = .ok s') :
    StateSame s d s' d := by
  obtain ⟨f, hf⟩ := markOffline_frame s o
  obtain ⟨n, u, rfl⟩ := applyUpdateStatus_frame h
  rw [hf]
  exact ⟨rfl, rfl, rfl, rfl⟩

theorem driveOpenStep_states (h : driveOpenStep s o e = .ok s') : StateSame s d s' d := by
  rcases driveOpenStep_cases h with ⟨rfl, -⟩ | ⟨-, -, -, rfl⟩
  · exact .refl _ _
  · exact ⟨rfl, rfl, rfl, rfl⟩

theorem chargeOpenStep_states (h : chargeOpenStep s o e = .ok s') : StateSame s d s' d := by
  rcases chargeOpenStep_cases h with rfl | ⟨-, -, -, -, opening, -, rfl⟩
  · exact .refl _ _
  · exact ⟨rfl, rfl, rfl, rfl⟩

theorem parkedSnapshotStep_states (s : OpenSessionState) (o : Observation) (d : LifecycleDelta) :
    StateSame s d (parkedSnapshotStep s o) d := by
  obtain ⟨p, hp⟩ := parkedSnapshotStep_frame s o
  rw [hp]
  exact ⟨rfl, rfl, rfl, rfl⟩

theorem logicalState_derivePhase {r : Reach} (h : o.reach = some r) :
    ∃ target, logicalState (derivePhase s o) = some target := by
  unfold derivePhase
  rw [h, some_or]
  cases r with
  | asleep => exact ⟨_, rfl⟩
  | offline => exact ⟨_, rfl⟩
  | online =>
    simp only
    split
    · exact ⟨_, rfl⟩
    split
    · exact ⟨_, rfl⟩
    · split
      · exact ⟨_, rfl⟩
      · exact ⟨_, rfl⟩

def openRow (interval : OpenState) : ProjectionState where
  id := interval.id
  carId := interval.carId
  state := interval.state
  startDateMs := interval.startDateMs
  endDateMs := none

def closedRow (endMs : ℤ) (interval : OpenState) : ProjectionState :=
  { openRow interval with endDateMs := some endMs }

/-- The rows of a gap-free chain of intervals: each is emitted open, and closed at the start of the
next one right before that is emitted. -/
def chainRows : List OpenState → List ProjectionState
  | [] => []
  | [last] => [openRow last]
  | a :: b :: rest => openRow a :: closedRow b.startDateMs a :: chainRows (b :: rest)

theorem chainRows_concat (intervals : List OpenState) (new : OpenState) :
    chainRows (intervals++[new]) = chainRows intervals++(intervals.getLast?.map
    (closedRow new.startDateMs)).toList++[openRow new] := by
  induction intervals with
  | nil => rfl
  | cons a rest ih =>
    cases rest with
    | nil => rfl
    | cons b rest =>
      change openRow a :: closedRow b.startDateMs a :: chainRows (b :: rest++[new]) = _
      rw [ih, getLast?_cons_cons]
      rfl

/-- What the phase step does to the open interval and the rows of states. -/
theorem phaseStep_cases (h : phaseStep s o d = .ok (s', d')) :
    s'.phase = derivePhase s o ∧
    ((o.reach = none ∧ s'.openState = s.openState ∧ s'.ids.nextStateId = s.ids.nextStateId ∧
    d'.states = d.states) ∨ ∃ target, o.reach.isSome ∧ logicalState (derivePhase s o) =
    some target ∧ ((∃ interval, s.openState = some interval ∧ interval.state = target ∧
    s'.openState = s.openState ∧ s'.ids.nextStateId = s.ids.nextStateId ∧ d'.states = d.states) ∨
    ((∀ interval, s.openState = some interval → interval.state ≠ target) ∧
    s'.openState = some ⟨s.ids.nextStateId, o.carId, target, o.tObs⟩ ∧ s'.ids.nextStateId =
    s.ids.nextStateId+1 ∧ d'.states = d.states++(s.openState.map fun interval => ⟨interval.id,
    o.carId, interval.state, interval.startDateMs, some (max o.tObs interval.startDateMs)⟩).toList++
    [openRow ⟨s.ids.nextStateId, o.carId, target, o.tObs⟩]))) := by
  unfold phaseStep at h
  cases hr : o.reach with
  | none =>
    rw [hr, if_neg (by decide)] at h
    cases h
    exact ⟨rfl, .inl ⟨rfl, rfl, rfl, rfl⟩⟩
  | some r =>
    rw [hr, if_pos isSome_some] at h
    obtain ⟨target, ht⟩ := logicalState_derivePhase (s := s) hr
    unfold updateStateInterval at h
    rw [ht] at h
    simp only at h
    by_cases hany : s.openState.any (·.state == target)
    · rw [if_pos hany] at h
      cases h
      obtain ⟨interval, hi, heq⟩ := (Option.any_eq_true _ _).mp hany
      exact ⟨rfl, .inr ⟨target, rfl, ht, Or.inl ⟨interval, hi, beq_iff_eq.mp heq, rfl, rfl, rfl⟩⟩⟩
    · rw [if_neg hany] at h
      obtain ⟨⟨id, n⟩, ha, hd⟩ := bind_eq_ok.mp h
      obtain ⟨rfl, rfl⟩ := allocate_ok ha
      cases hd
      refine ⟨rfl, .inr ⟨target, rfl, ht, .inr ⟨?_, rfl, rfl, rfl⟩⟩⟩
      intro interval hi heq
      exact hany ((Option.any_eq_true _ _).mpr ⟨interval, hi, beq_iff_eq.mpr heq⟩)

structure StateBook (carId : ℤ) (s : OpenSessionState) (rows : List ProjectionState)
    (intervals : List OpenState) : Prop where
  rows_eq : rows = chainRows intervals
  open_eq : s.openState = intervals.getLast?
  car : ∀ i ∈ intervals, i.carId = carId
  ids : intervals.Pairwise (·.id < ·.id)
  id_lt : ∀ i ∈ intervals, i.id < s.ids.nextStateId
  starts : intervals.Pairwise (·.startDateMs ≤ ·.startDateMs)
  start_le : ∀ i ∈ intervals, ∃ m, s.marks.lastObservedAtMs = some m ∧ i.startDateMs ≤ m
  texts : intervals.IsChain (·.state ≠ ·.state)

variable {x : LifecycleSample}

theorem observationOf_carId {carId : ℤ} {T : ℕ} (h : observationOf s carId T x = some o) :
    o.carId = carId := by
  unfold observationOf at h
  split at h
  · cases h
  split at h
  · cases h
  · split at h
    · cases h
    · cases h
      rfl

theorem advanceMarks_observed (marks : Watermarks) (o : Observation) :
    (∀ m, marks.lastObservedAtMs = some m → ∃ m', (advanceMarks marks o).lastObservedAtMs =
    some m' ∧ m ≤ m') ∧ (o.parsed.kind ≠ .hubEvent → ∃ m', (advanceMarks marks o).lastObservedAtMs =
    some m' ∧ o.tObs ≤ m') := by
  have heq : (advanceMarks marks o).lastObservedAtMs = if o.parsed.kind ≠ .hubEvent then
      raise marks.lastObservedAtMs o.parsed.observedAtMs else marks.lastObservedAtMs := rfl
  rw [heq]
  by_cases hk : o.parsed.kind ≠ .hubEvent
  · rw [if_pos hk]
    refine ⟨?_, ?_⟩
    · intro m hm
      refine ⟨_, rfl, ?_⟩
      rw [hm]
      exact le_max_left m _
    · intro _
      refine ⟨_, rfl, ?_⟩
      cases marks.lastObservedAtMs with
      | none => exact le_refl _
      | some m => exact le_max_right m _
  · rw [if_neg hk]
    exact ⟨fun m hm => ⟨m, hm, le_refl m⟩, fun h => absurd h hk⟩

variable {intervals : List OpenState}

theorem StateBook.extend {carId : ℤ} {rows : List ProjectionState} {new : OpenState}
    (h : StateBook carId s rows intervals) (hopen : t.openState = some new)
    (hid : new.id = s.ids.nextStateId) (hnext : t.ids.nextStateId = s.ids.nextStateId+1)
    (hcar : new.carId = carId) (hstart : ∀ i ∈ intervals, i.startDateMs ≤ new.startDateMs)
    (htext : ∀ i, s.openState = some i → i.state ≠ new.state)
    (hmarks : ∀ i ∈ intervals++[new], ∃ m, t.marks.lastObservedAtMs = some m ∧ i.startDateMs ≤ m) :
    StateBook carId t (rows++(s.openState.map (closedRow new.startDateMs)).toList++[openRow new])
    (intervals++[new]) := by
  have hmem {P : OpenState → Prop} (hold : ∀ i ∈ intervals, P i) (hnew : P new) :
      ∀ i ∈ intervals++[new], P i := by
    intro i hi
    rcases mem_concat.mp hi with hi | rfl
    · exact hold i hi
    · exact hnew
  refine ⟨?_, ?_, hmem h.car hcar, ?_, ?_, ?_, hmarks, ?_⟩
  · rw [h.rows_eq, h.open_eq, chainRows_concat]
  · rw [hopen, getLast?_concat]
  · refine pairwise_append.mpr ⟨h.ids, pairwise_singleton _ _, ?_⟩
    intro i hi j hj
    rw [mem_singleton.mp hj, hid]
    exact h.id_lt i hi
  · apply hmem
    · intro i hi
      have hlt := h.id_lt i hi
      omega
    · omega
  · refine pairwise_append.mpr ⟨h.starts, pairwise_singleton _ _, ?_⟩
    intro i hi j hj
    rw [mem_singleton.mp hj]
    exact hstart i hi
  · refine isChain_append.mpr ⟨h.texts, isChain_singleton _, ?_⟩
    intro i hi j hj
    cases hj
    apply htext
    rw [h.open_eq]
    exact hi

variable [Geodesy]

theorem driveCloseStep_states (h : driveCloseStep s o d = .ok (s', d')) : StateSame s d s' d' := by
  cases hd : s.openDrive with
  | none =>
    obtain ⟨rfl, rfl⟩ := driveCloseStep_none hd h
    exact .refl _ _
  | some drive =>
    rcases driveCloseStep_cases hd h with ⟨-, he⟩ | ⟨-, u, p, hf, he⟩ | ⟨-, -, -, rfl, rfl⟩
    · exact closeOpenDrive_states hd he
    · obtain ⟨n, rfl, -⟩ := foldIntoOpenDrive_ok hd hf
      have hs := closeOpenDrive_states rfl he
      exact ⟨hs.openState, hs.nextStateId, hs.phase, hs.states⟩
    · exact .refl _ _

theorem driveFoldStep_states (h : driveFoldStep s o d = .ok (s', d')) : StateSame s d s' d' := by
  rcases driveFoldStep_cases h with ⟨rfl, rfl, -⟩ | ⟨-, drive, p, hd, hf, rfl⟩
  · exact .refl _ _
  · obtain ⟨n, rfl, -⟩ := foldIntoOpenDrive_ok hd hf
    exact ⟨rfl, rfl, rfl, rfl⟩

theorem standalonePositionStep_states (h : standalonePositionStep s o d = .ok (s', d')) :
    StateSame s d s' d' := by
  obtain ⟨n, st, la, lo, ps, rfl, rfl, -⟩ := standalonePositionStep_frame h
  exact ⟨rfl, rfl, rfl, rfl⟩

theorem PipelineTrace.beforePhase (t : PipelineTrace s o d s' d') :
    StateSame s d (parkedSnapshotStep t.standalone o) t.standaloneDelta := by
  have hclosed := (driveCloseStep_states t.driveClosed_eq).trans
    (chargeCloseStep_states t.chargeClosed_eq)
  have hopened := ((applyUpdateStatus_states (d := t.closedDelta) t.statused_eq).trans
    (driveOpenStep_states t.driveOpened_eq)).trans (chargeOpenStep_states t.chargeOpened_eq)
  have hextended := ((driveFoldStep_states t.driveFolded_eq).trans
      (chargeSampleStep_states t.chargeSampled_eq)).trans
    (standalonePositionStep_states t.standalone_eq)
  have hfacts := (applyServiceMode_states s o d).trans (applyVersionFacts_states t.facts_eq)
  exact (((hfacts.trans hclosed).trans hopened).trans hextended).trans
    (parkedSnapshotStep_states _ _ _)

theorem Observed.stateBook {carId : ℤ} {T : ℕ} {total : LifecycleDelta}
    (ho : Observed carId T s x o s' d) (h : StateBook carId s total.states intervals) :
    ∃ intervals', StateBook carId s' (mergeStepDelta total d).states intervals' := by
  obtain ⟨s₁, ⟨tr⟩, rfl⟩ := ho.passed
  have hsame := tr.beforePhase
  have hmarks : s₁.marks = s.marks := tr.final_steady.marks.trans tr.facts_same.2.2.1
  obtain ⟨hkeep, hcover⟩ := advanceMarks_observed s₁.marks o
  have hold : ∀ i ∈ intervals, ∃ m, (advanceMarks s₁.marks o).lastObservedAtMs = some m ∧
      i.startDateMs ≤ m := by
    intro i hi
    obtain ⟨m, hm, hle⟩ := h.start_le i hi
    obtain ⟨m', hm', hle'⟩ := hkeep m (by rw [hmarks]; exact hm)
    exact ⟨m', hm', hle.trans hle'⟩
  have hstay (hopen : s₁.openState = s.openState) (hnext : s₁.ids.nextStateId = s.ids.nextStateId)
      (hd : d.states = []) : StateBook carId
        { advanceWatermarks s₁ o with lastObservationId := x.observationId }
        (total.states++d.states) intervals := by
    rw [hd, append_nil]
    refine ⟨h.rows_eq, hopen.trans h.open_eq, h.car, h.ids, ?_, h.starts, hold, h.texts⟩
    intro i hi
    change i.id < s₁.ids.nextStateId
    rw [hnext]
    exact h.id_lt i hi
  have hcase := (phaseStep_cases tr.final_eq).2
  rw [hsame.openState, hsame.nextStateId, hsame.states] at hcase
  rcases hcase with ⟨-, hopen, hnext, hd⟩ | ⟨target, hreach, -, hcase⟩
  · exact ⟨intervals, hstay hopen hnext hd⟩
  · rcases hcase with ⟨interval, -, -, hopen, hnext, hd⟩ | ⟨htext, hopen, hnext, hd⟩
    · exact ⟨intervals, hstay hopen hnext hd⟩
    · have hkind : o.parsed.kind ≠ .hubEvent := by
        intro hk
        rw [ho.sound.reach_event hk] at hreach
        cases hreach
      -- An accepted reach is not older than any start: the close time is the new start.
      have hstart : ∀ i ∈ intervals, i.startDateMs ≤ o.tObs := by
        intro i hi
        obtain ⟨m, hm, hle⟩ := h.start_le i hi
        have hacc := ho.fresh.reach (isSome_iff_ne_none.mp hreach)
        rw [hm, all_some, decide_eq_true_eq] at hacc
        exact hle.trans hacc
      have hcar := observationOf_carId ho.delivered
      have hclosed : (s.openState.map fun interval => (⟨interval.id, o.carId, interval.state,
          interval.startDateMs, some (max o.tObs interval.startDateMs)⟩ : ProjectionState)) =
          s.openState.map (closedRow o.tObs) := by
        cases hopen : s.openState with
        | none => rfl
        | some i =>
          have hi : i ∈ intervals := mem_of_mem_getLast? (h.open_eq.symm.trans hopen)
          have hmax : max o.tObs i.startDateMs = o.tObs := max_eq_left (hstart i hi)
          rw [map_some, map_some, hmax, hcar, ← h.car i hi]
          rfl
      refine ⟨intervals++[⟨s.ids.nextStateId, o.carId, target, o.tObs⟩], ?_⟩
      change StateBook carId _ (total.states++d.states) _
      rw [hd, hclosed, nil_append, ← append_assoc]
      refine StateBook.extend
        (t := { advanceWatermarks s₁ o with lastObservationId := x.observationId }) h hopen rfl
          hnext
        hcar hstart htext ?_
      intro i hi
      rcases mem_concat.mp hi with hi | rfl
      · exact hold i hi
      · exact hcover hkind

def AcceptsReach (carId : ℤ) (T : ℕ) (xs : List LifecycleSample) : Prop :=
  ∃ pre x post b o, xs = pre++x :: post ∧ applySamplesWith .new carId pre T = .ok b ∧
    observationOf b.state carId T x = some o ∧ o.reach.isSome

theorem Observed.openState_isSome {carId : ℤ} {T : ℕ} (ho : Observed carId T s x o s' d) :
    s'.openState.isSome ↔ s.openState.isSome ∨ o.reach.isSome := by
  obtain ⟨s₁, ⟨tr⟩, rfl⟩ := ho.passed
  have hsame := tr.beforePhase
  have hcase := (phaseStep_cases tr.final_eq).2
  rw [hsame.openState] at hcase
  change s₁.openState.isSome ↔ _
  rcases hcase with ⟨hr, hopen, -⟩ | ⟨target, hr, -, ⟨interval, hi, -, hopen, -⟩ | ⟨-, hopen, -⟩⟩
  · rw [hopen, hr]
    simp only [isSome_none, Bool.false_eq_true, or_false]
  · rw [hopen, hr]
    have hsome : s.openState.isSome := isSome_of_mem hi
    simp only [hsome, or_true]
  · rw [hopen, hr]
    simp only [isSome_some, or_true]

theorem applySamplesWith_openState_isSome {carId : ℤ} {T : ℕ} {xs : List LifecycleSample}
    {b : LifecycleStep} (h : applySamplesWith .new carId xs T = .ok b) :
    b.state.openState.isSome ↔ AcceptsReach carId T xs := by
  have hlive (b : LifecycleStep) (x : LifecycleSample) (b' : LifecycleStep) (hl : LiveState b.state)
      (hstep : batchStep carId T b x = .ok b') : LiveState b'.state ∧
        (b'.state.openState.isSome ↔ b.state.openState.isSome ∨
          ∃ o, observationOf b.state carId T x = some o ∧ o.reach.isSome) := by
    obtain ⟨step, happly, hr⟩ := bind_eq_ok.mp hstep
    cases hr
    rcases applySample_cases hl happly with ⟨n, hnone, hs, -⟩ | ⟨o, ho⟩
    · rw [hs, hnone]
      refine ⟨⟨hl.noSeed, hl.noImport, hl.noDriveMark, hl.noChargeMark, hl.noStateMark⟩, Or.inl, ?_⟩
      rintro (hs | ⟨o, ho, -⟩)
      · exact hs
      · cases ho
    · refine ⟨ho.live hl, ?_⟩
      rw [ho.openState_isSome, ho.delivered]
      constructor
      · rintro (hs | hr)
        · exact .inl hs
        · exact .inr ⟨o, rfl, hr⟩
      · rintro (hs | ⟨o', ho', hr⟩)
        · exact .inl hs
        · cases ho'
          exact .inr hr
  have hflag := run_flag (I := fun b => LiveState b.state) (F := fun b => b.state.openState.isSome)
    (E := fun b x => ∃ o, observationOf b.state carId T x = some o ∧ o.reach.isSome)
    (fun b x b' hl hs => (hlive b x b' hl hs).1) (fun b x b' hl hs => (hlive b x b' hl hs).2)
    LiveState.new h
  rw [hflag]
  constructor
  · rintro (hn | ⟨pre, x, post, t, hx, ht, o, ho, hr⟩)
    · cases hn
    · exact ⟨pre, x, post, t, o, hx, ht, ho, hr⟩
  · rintro ⟨pre, x, post, t, o, hx, ht, ho, hr⟩
    exact .inr ⟨pre, x, post, t, hx, ht, o, ho, hr⟩

/-- The emitted state rows are the rows of one chain of intervals, of which the last is the open
one. -/
theorem states_form_chain {carId : ℤ} {T : ℕ} {xs : List LifecycleSample} {b : LifecycleStep}
    (h : applySamplesWith .new carId xs T = .ok b) :
    ∃ intervals : List OpenState,
      b.delta.states = chainRows intervals ∧
      intervals.Pairwise (·.id < ·.id) ∧
      intervals.Pairwise (·.startDateMs ≤ ·.startDateMs) ∧
      intervals.IsChain (·.state ≠ ·.state) ∧
      b.state.openState = intervals.getLast? ∧
      (intervals ≠ [] ↔ AcceptsReach carId T xs) := by
  have hbook := (applySamplesWith_always
    (I := fun s total => ∃ intervals, StateBook carId s total.states intervals)
    (fun s total n hs => by
      obtain ⟨intervals, hs⟩ := hs
      exact ⟨intervals, hs.rows_eq, hs.open_eq, hs.car, hs.ids, hs.id_lt, hs.starts, hs.start_le,
        hs.texts⟩)
    (fun s x o s' d total _ hs ho => by
      obtain ⟨intervals, hs⟩ := hs
      exact ho.stateBook hs)
    LiveState.new
    ⟨[], rfl, rfl, forall_mem_nil _, .nil, forall_mem_nil _, .nil, forall_mem_nil _,
      .nil⟩ h).2
  obtain ⟨intervals, hb⟩ := hbook
  refine ⟨intervals, hb.rows_eq, hb.ids, hb.starts, hb.texts, hb.open_eq, ?_⟩
  rw [← applySamplesWith_openState_isSome h, hb.open_eq, getLast?_isSome]

def sleepThenDrive : List LifecycleSample :=
  [discoverySample 1 100 "asleep", discoverySample 2 200 "online",
    vehicleDataSample 3 300 [("drive_state", .object [("shift_state", .string "D")])]]

omit [Geodesy] in
theorem states_form_chain_sleepThenDrive :
    ∃ b, @applySamplesWith flatGeodesy .new 1 sleepThenDrive defaultOfflineDriveTimeoutMs = .ok b ∧
    ∃ intervals, b.delta.states = chainRows intervals ∧ b.state.openState = intervals.getLast? := by
  have hok : (@applySamplesWith flatGeodesy .new 1 sleepThenDrive
      defaultOfflineDriveTimeoutMs).isOk := by decide +kernel
  obtain ⟨b, hb⟩ := exists_ok_of_isOk hok
  obtain ⟨intervals, hrows, -, -, -, hopen, -⟩ := @states_form_chain flatGeodesy _ _ _ _ hb
  exact ⟨b, hb, intervals, hrows, hopen⟩

end TeslatlasHub.Lifecycle
