import TeslatlasHub.LifecycleDrivePass
import TeslatlasHub.LifecycleAccounting

namespace TeslatlasHub.Lifecycle

open FixedWidth RunRules List

variable [Geodesy] {s s' : OpenSessionState} {o : Observation} {d total : LifecycleDelta}
  {carId : ℤ} {T : ℕ} {x : LifecycleSample}

variable {r : ProjectionDrive} {first : List ProjectionDrive} {Q : ℤ → ℤ → Prop}

omit [Geodesy] in
theorem end_le_driveStart {closed : LifecycleDelta} (hr : r ∈ closed.drives) :
    r.endDateMs ≤ driveStart closed o := by
  have hmem : r.endDateMs ∈ closed.drives.map (·.endDateMs)++closed.charges.filterMap
      (·.endDateMs) :=
    mem_append_left _ (mem_map.mpr ⟨r, hr, rfl⟩)
  unfold driveStart
  cases hm : afterClosed closed with
  | none =>
    have hnil := max?_eq_none_iff.mp hm
    rw [hnil] at hmem
    cases hmem
  | some m =>
    have hle := (max?_eq_some_iff.mp hm).2 _ hmem
    exact le_max_of_le_left hle

omit [Geodesy] in
theorem time_le_driveStart (closed : LifecycleDelta) (o : Observation) :
    o.parsed.driveTimestampMs ≤ driveStart closed o := by
  unfold driveStart
  cases afterClosed closed with
  | none => exact le_refl _
  | some m => exact le_max_right _ _

theorem DrivePass.rows {first : Option OpenDrive} (h : DrivePass s o s' d first)
    (hc : ∀ drive, s.openDrive = some drive → drive.Coherent) (hr : r ∈ d.drives) :
    r.startDateMs ≤ r.endDateMs ∧ ∃ drive, s.openDrive = some drive ∧ r.id = drive.id ∧
    r.startDateMs = drive.startDateMs := by
  obtain ⟨f, mid, e, closed, kids, hopen, -, -, -, hclosing, -, -, hrows, -⟩ := h.pass
  rw [hrows] at hr
  have hof {drive src : DetachedDrive} {end' : Option ℤ}
      (hf : finalizeDrive src false end' = some r) (ho : SameOrigin src drive) :
      r.startDateMs ≤ r.endDateMs ∧ r.id = drive.id ∧ r.startDateMs = drive.startDateMs := by
    have hrow := finalizeDrive_eq_some hf
    exact ⟨hrow.start_le_end, hrow.id_eq.trans ho.id, hrow.startDateMs_eq.trans ho.startDateMs⟩
  cases hclosing with
  | idle _ => cases hr
  | kept _ _ _ _ => cases hr
  | @lost drive hd _ =>
    have hdrive := hopen.symm.trans hd
    obtain ⟨hle, hid, hs⟩ := hof (mem_closedDelta_drives hr)
      (endSource_origin (hc drive hdrive) true none)
    exact ⟨hle, drive, hdrive, hid, hs⟩
  | @ended drive p hd _ _ =>
    have hdrive := hopen.symm.trans hd
    obtain ⟨hcoh, horigin⟩ := foldObservation_coherent (hc drive hdrive) f.marks o p
    obtain ⟨hle, hid, hs⟩ := hof (mem_closedDelta_drives hr)
      ((endSource_origin hcoh false (some o.parsed.driveTimestampMs)).trans horigin)
    exact ⟨hle, drive, hdrive, hid, hs⟩

theorem DrivePass.open_cases {first : Option OpenDrive} (h : DrivePass s o s' d first)
    (hs : o.Sound) (hfresh : FreshAt s.marks o) {drive' : OpenDrive}
    (hd' : s'.openDrive = some drive') :
    (∃ drive, s.openDrive = some drive ∧ drive'.id = drive.id ∧
      drive'.startDateMs = drive.startDateMs ∧ d.drives = []) ∨ (drive'.id = s.ids.nextDriveId ∧
      (∀ m, s.marks.lastDriveTimestampMs = some m → m < drive'.startDateMs) ∧
      ∀ r ∈ d.drives, r.endDateMs ≤ drive'.startDateMs) := by
  obtain ⟨f, mid, e, closed, kids, hopen, hm, hnext, -, hclosing, hgoing, hcd, hrows, -⟩ := h.pass
  rw [hd'] at hgoing
  cases hgoing with
  | @resting drive flag hno =>
    cases hclosing with
    | kept hd _ _ _ => exact .inl ⟨drive, hopen.symm.trans hd, rfl, rfl, hrows⟩
  | @folded drive p flag hfacts hstored =>
    cases hclosing with
    | kept hd _ _ _ =>
      have ho := foldDrivePoint_origin
        ({ drive with sawOffline := flag } : OpenDrive).toDetachedDrive (drivePoint o) p
      exact .inl ⟨drive, hopen.symm.trans hd, ho.id, ho.startDateMs, hrows⟩
  | @opened p snapshot hmotion hservice hfirst hstored =>
    have hnew := (openedDrive_coherent f.ids.nextDriveId o.carId (driveStart closed o)
      o.parsed.driveTimestampMs o.tGapMs snapshot).2
    have ho := foldDrivePoint_origin (openedDrive f.ids.nextDriveId o.carId (driveStart closed o)
      o.parsed.driveTimestampMs o.tGapMs snapshot).toDetachedDrive (drivePoint o) p
    have hstart : (foldObservation (openedDrive f.ids.nextDriveId o.carId (driveStart closed o)
        o.parsed.driveTimestampMs o.tGapMs snapshot) f.marks o p).startDateMs = driveStart closed
          o :=
      ho.startDateMs.trans hnew.2
    refine .inr ⟨(ho.id.trans hnew.1).trans hnext, ?_, ?_⟩
    · intro m hmark
      have hlater := hfresh.motion (hs.motion_fresh hmotion)
      rw [hmark] at hlater
      have hlt : m < o.parsed.driveTimestampMs := of_decide_eq_true hlater
      have hle := time_le_driveStart closed o
      omega
    · intro r hr
      rw [hrows, ← hcd] at hr
      rw [hstart]
      exact end_le_driveStart hr

/-- Every open drive, and every drive row behind the first ones, meets `Q` in its id and its start.
-/
structure Meets (Q : ℤ → ℤ → Prop) (first : List ProjectionDrive) (s : OpenSessionState)
    (total : LifecycleDelta) : Prop where
  rows : ∃ later, total.drives = first++later ∧ ∀ r ∈ later, Q r.id r.startDateMs
  openDrive : ∀ drive, s.openDrive = some drive → Q drive.id drive.startDateMs

theorem Observed.meets (ho : Observed carId T s x o s' d) (hl : LiveState s)
    (ha : Accounted s total)
    (hnew : ∀ start, (∀ m, s.marks.lastDriveTimestampMs = some m → m < start) →
    Q s.ids.nextDriveId start) (h : Meets Q first s total) :
    Meets Q first s' (mergeStepDelta total d) := by
  have hp := ho.drivePass hl
  obtain ⟨later, heq, hlater⟩ := h.rows
  refine ⟨⟨later++d.drives, ?_, ?_⟩, ?_⟩
  · change total.drives++d.drives = _
    rw [heq, append_assoc]
  · intro r hr
    rcases mem_append.mp hr with hr | hr
    · exact hlater r hr
    · obtain ⟨-, drive, hd, hid, hst⟩ := hp.rows ha.drives.coherent hr
      rw [hid, hst]
      exact h.openDrive drive hd
  · intro drive' hd'
    rcases hp.open_cases ho.sound ho.fresh hd' with ⟨drive, hd, hid, hst, -⟩ | ⟨hid, hst, -⟩
    · rw [hid, hst]
      exact h.openDrive drive hd
    · rw [hid]
      exact hnew _ hst

theorem Observed.motionMark_le {m : ℤ} (ho : Observed carId T s x o s' d)
    (hm : s.marks.lastDriveTimestampMs.any (m ≤ ·)) :
    s'.marks.lastDriveTimestampMs.any (m ≤ ·) := by
  obtain ⟨s₁, ⟨t⟩, rfl⟩ := ho.passed
  have hmarks : s₁.marks = s.marks := t.final_steady.marks.trans t.facts_same.2.2.1
  obtain ⟨w, hw, hle⟩ := (Option.any_eq_true _ _).mp hm
  have hle := of_decide_eq_true hle
  change (if o.fresh.motion then raise s₁.marks.lastDriveTimestampMs o.parsed.driveTimestampMs
    else s₁.marks.lastDriveTimestampMs).any (m ≤ ·) = true
  rw [hmarks, hw]
  split
  · exact decide_eq_true (le_max_of_le_left hle)
  · exact decide_eq_true hle

variable {pre post : List LifecycleSample} {b₁ b : LifecycleStep}

theorem drives_extend (hpre : applySamplesWith .new carId pre T = .ok b₁)
    (h : applySamplesWith .new carId (pre++post) T = .ok b) :
    ∃ later, b.delta.drives = b₁.delta.drives++later := by
  refine applySamplesWith_from (I := fun _ total => ∃ later, total.drives = b₁.delta.drives++later)
    (fun _ _ _ h => h) ?_ hpre ⟨[], (append_nil _).symm⟩ h
  rintro s x o s' d total - ⟨later, heq⟩ -
  refine ⟨later++d.drives, ?_⟩
  change total.drives++d.drives = _
  rw [heq, append_assoc]

omit [Geodesy] in
theorem Meets.later {later : List ProjectionDrive} (h : Meets Q first s total)
    (heq : total.drives = first++later) : ∀ r ∈ later, Q r.id r.startDateMs := by
  obtain ⟨later', heq', hq⟩ := h.rows
  rw [heq] at heq'
  rw [append_cancel_left heq']
  exact hq

/-- Drives opened behind a point at which the motion watermark has reached `m` start at or behind
`m`; `i` is the drive open at that point. -/
theorem later_rows_start_behind_mark {m : ℤ} (hpre : applySamplesWith .new carId pre T = .ok b₁)
    (h : applySamplesWith .new carId (pre++post) T = .ok b)
    (hm : b₁.state.marks.lastDriveTimestampMs.any (m ≤ ·)) :
    Meets (fun i start => (∃ drive, b₁.state.openDrive = some drive ∧ drive.id = i) ∨ m ≤ start)
      b₁.delta.drives b.state b.delta := by
  refine (applySamplesWith_from (I := fun s total => Accounted s total ∧
    s.marks.lastDriveTimestampMs.any (m ≤ ·) = true ∧
    Meets (fun i start => (∃ drive, b₁.state.openDrive = some drive ∧ drive.id = i) ∨ m ≤ start)
      b₁.delta.drives s total) ?_ ?_ hpre ⟨applySamplesWith_accounted hpre, hm, ?_⟩ h).2.2
  · rintro s total n ⟨ha, hm, hmeets⟩
    exact ⟨ha.moveCursor n, hm, hmeets.rows, hmeets.openDrive⟩
  · rintro s x o s' d total hl ⟨ha, hm, hmeets⟩ ho
    refine ⟨ho.accounted ha, ho.motionMark_le hm, ho.meets hl ha ?_ hmeets⟩
    intro start hstart
    obtain ⟨w, hw, hle⟩ := (Option.any_eq_true _ _).mp hm
    have hlt := hstart w hw
    have hle := of_decide_eq_true hle
    exact .inr (by omega)
  · exact ⟨⟨[], (append_nil _).symm, forall_mem_nil _⟩, fun drive hd => .inl ⟨drive, hd, rfl⟩⟩

theorem open_drive_row_start {drive : OpenDrive}
    (hpre : applySamplesWith .new carId pre T = .ok b₁)
    (h : applySamplesWith .new carId (pre++post) T = .ok b) (hd : b₁.state.openDrive = some drive) :
    Meets (fun i start => i = drive.id → start = drive.startDateMs) b₁.delta.drives b.state
    b.delta := by
  have ha₁ := applySamplesWith_accounted hpre
  have hlt := ha₁.openDrive_lt hd
  refine (applySamplesWith_from (I := fun s total => Accounted s total ∧
    drive.id < s.ids.nextDriveId ∧ Meets (fun i start => i = drive.id → start = drive.startDateMs)
      b₁.delta.drives s total) ?_ ?_ hpre ⟨ha₁, hlt, ?_⟩ h).2.2
  · rintro s total n ⟨ha, hlt, hmeets⟩
    exact ⟨ha.moveCursor n, hlt, hmeets.rows, hmeets.openDrive⟩
  · rintro s x o s' d total hl ⟨ha, hlt, hmeets⟩ ho
    refine ⟨ho.accounted ha, ho.nextDriveId_le hlt, ho.meets hl ha ?_ hmeets⟩
    omega
  · refine ⟨⟨[], (append_nil _).symm, forall_mem_nil _⟩, ?_⟩
    intro drive' hd' _
    rw [hd] at hd'
    cases hd'
    rfl

/-- Every row ends no earlier than it starts, and a drive opened once the motion watermark has
reached a row's end starts at or behind it. -/
theorem drive_rows_in_order {pre post : List LifecycleSample} {b₀ b₁ b : LifecycleStep}
    (hpre : applySamplesWith .new carId pre T = .ok b₀) (hstep : batchStep carId T b₀ x = .ok b₁)
    (h : applySamplesWith .new carId (pre++x :: post) T = .ok b) :
    (∀ r ∈ b.delta.drives, r.startDateMs ≤ r.endDateMs) ∧
    (∀ r ∈ b.delta.charges, ∃ e, r.endDateMs = some e ∧ r.startDateMs ≤ e) ∧
    ∃ closed later, b₁.delta.drives = b₀.delta.drives++closed ∧
      b.delta.drives = b₁.delta.drives++later ∧
      (∀ r ∈ closed, ∀ r' ∈ later,
        (∃ drive, b₁.state.openDrive = some drive ∧ drive.id = r'.id) →
          r.endDateMs ≤ r'.startDateMs) ∧
      ∀ r ∈ b₁.delta.drives, b₁.state.marks.lastDriveTimestampMs.any (r.endDateMs ≤ ·) = true →
        ∀ r' ∈ later, ¬(∃ drive, b₁.state.openDrive = some drive ∧ drive.id = r'.id) →
          r.endDateMs ≤ r'.startDateMs := by
  have hpre₁ : applySamplesWith .new carId (pre++[x]) T = .ok b₁ :=
    run_append.mpr ⟨b₀, hpre, bind_eq_ok.mpr ⟨b₁, hstep, rfl⟩⟩
  have h' : applySamplesWith .new carId ((pre++[x])++post) T = .ok b := by
    rw [append_assoc]
    exact h
  have hl := applySamplesWith_live hpre
  have hrows : ∀ r ∈ b.delta.drives, r.startDateMs ≤ r.endDateMs := by
    refine (applySamplesWith_always (I := fun s total => Accounted s total ∧
      ∀ r ∈ total.drives, r.startDateMs ≤ r.endDateMs) ?_ ?_ LiveState.new
      ⟨Accounted.new, forall_mem_nil _⟩ h).2.2
    · rintro s total n ⟨ha, hr⟩
      exact ⟨ha.moveCursor n, hr⟩
    · rintro s x o s' d total hl ⟨ha, hr⟩ ho
      refine ⟨ho.accounted ha, ?_⟩
      intro r hmem
      rcases mem_append.mp hmem with hmem | hmem
      · exact hr r hmem
      · exact ((ho.drivePass hl).rows ha.drives.coherent hmem).1
  refine ⟨hrows, ?_, ?_⟩
  · intro r hr
    obtain ⟨e, he, hle, -⟩ := (applySamplesWith_accounted h).charges.row_end r hr
    exact ⟨e, he, hle⟩
  · obtain ⟨step, happly, hr⟩ := bind_eq_ok.mp hstep
    cases hr
    obtain ⟨later, hlater⟩ := drives_extend hpre₁ h'
    refine ⟨step.delta.drives, later, rfl, hlater, ?_, ?_⟩
    · rintro r hr r' hr' ⟨drive, hd, hid⟩
      have hstart : r.endDateMs ≤ drive.startDateMs := by
        rcases applySample_cases hl happly with ⟨n, -, -, hnone⟩ | ⟨o, ho⟩
        · rw [hnone] at hr
          cases hr
        · rcases (ho.drivePass hl).open_cases ho.sound ho.fresh hd with ⟨-, -, -, -, hnone⟩ | ⟨-, -,
            hle⟩
          · rw [hnone] at hr
            cases hr
          · exact hle r hr
      have hsame := (open_drive_row_start hpre₁ h' hd).later hlater r' hr' hid.symm
      rw [hsame]
      exact hstart
    · intro r hr hmark r' hr' hnot
      rcases (later_rows_start_behind_mark hpre₁ h' hmark).later hlater r' hr' with hopen | hle
      · exact absurd hopen hnot
      · exact hle

def positionBehindMotion : List LifecycleSample :=
  [vehicleDataSample 1 100 [("drive_state", .object [("shift_state", .string "D")]),
      ("vehicle_state", .object [("odometer", .number 1)])],
    vehicleDataSample 2 200 [("drive_state", .object [("latitude", .number 1),
      ("longitude", .number 1)]), ("vehicle_state", .object [("odometer", .number 2)])],
    hubEventSample 3 300 "no_data",
    vehicleDataSample 4 300 [("drive_state", .object [("timestamp", .number (kEarliestMs+150)),
        ("shift_state", .string "D")]), ("vehicle_state", .object [("odometer", .number 3)])],
    vehicleDataSample 5 400 [("drive_state", .object [("shift_state", .string "P")]),
      ("vehicle_state", .object [("odometer", .number 4)])]]

omit [Geodesy] in
theorem drive_rows_overlap :
    ∃ b, @applySamplesWith flatGeodesy .new 1 positionBehindMotion defaultOfflineDriveTimeoutMs =
    .ok b ∧ b.delta.drives.map (fun r => (r.startDateMs-kEarliestMs, r.endDateMs-kEarliestMs)) =
    [(100, 200), (150, 400)] := by
  have hok : (@applySamplesWith flatGeodesy .new 1 positionBehindMotion
      defaultOfflineDriveTimeoutMs).toOption.any (fun b => b.delta.drives.map
        (fun r => (r.startDateMs-kEarliestMs, r.endDateMs-kEarliestMs)) = [(100, 200),
          (150, 400)]) =
      true := by decide +kernel
  obtain ⟨b, hb, hp⟩ := exists_ok_of_any hok
  exact ⟨b, hb, of_decide_eq_true hp⟩

omit [Geodesy] in
theorem drive_rows_in_order_twoDrives :
    ∃ b₁ b : LifecycleStep, b₁.delta.drives.length = 1 ∧ b.delta.drives.length = 2 ∧
      ∃ later, b.delta.drives = b₁.delta.drives++later ∧
        ∀ r ∈ b₁.delta.drives, b₁.state.marks.lastDriveTimestampMs.any (r.endDateMs ≤ ·) = true →
          ∀ r' ∈ later, ¬(∃ drive, b₁.state.openDrive = some drive ∧ drive.id = r'.id) →
            r.endDateMs ≤ r'.startDateMs := by
  have hok : (@applySamplesWith flatGeodesy .new 1 [gearSample 1 100 "D" 1]
      defaultOfflineDriveTimeoutMs >>= fun b₀ =>
        @batchStep flatGeodesy 1 defaultOfflineDriveTimeoutMs b₀ (gearSample 2 200 "P" 2) >>=
          fun b₁ =>
        @applySamplesWith flatGeodesy .new 1 ([gearSample 1 100 "D" 1]++gearSample 2 200 "P" 2 ::
          [gearSample 3 300 "D" 3, gearSample 4 400 "P" 4]) defaultOfflineDriveTimeoutMs >>=
          fun b => pure (b₀, b₁, b)).toOption.any
      (fun r => r.2.1.delta.drives.length = 1 ∧ r.2.2.delta.drives.length = 2) := by
    decide +kernel
  obtain ⟨⟨b₀, b₁, b⟩, hr, hcheck⟩ := exists_ok_of_any hok
  obtain ⟨b₀', h₀, hr⟩ := bind_eq_ok.mp hr
  obtain ⟨b₁', h₁, hr⟩ := bind_eq_ok.mp hr
  obtain ⟨b', h, hr⟩ := bind_eq_ok.mp hr
  cases hr
  obtain ⟨hone, htwo⟩ := of_decide_eq_true hcheck
  obtain ⟨-, -, closed, later, -, hlater, -, hmark⟩ :=
    @drive_rows_in_order flatGeodesy _ _ _ _ _ _ _ _ h₀ h₁ h
  exact ⟨b₁, b, hone, htwo, later, hlater, hmark⟩

end TeslatlasHub.Lifecycle
