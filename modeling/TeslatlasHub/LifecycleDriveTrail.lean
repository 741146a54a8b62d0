import TeslatlasHub.LifecycleDriveLog

namespace TeslatlasHub.Lifecycle

open DetachedDrive FixedWidth RunRules List Option Bool

variable {marks : Watermarks} {o : Observation} {drive : OpenDrive} {l : DriveLog}
  {p : Option ProjectionPosition} {carId : ℤ} {T : ℕ} {s s' : OpenSessionState}
    {x : LifecycleSample}
  {d d' total : LifecycleDelta}

def attached (d : LifecycleDelta) (driveId : ℤ) : List ProjectionPosition :=
  (d.positions++d.openDrivePositions).filter (·.driveId = some driveId)

def inOrder (positions : List ProjectionPosition) : List ProjectionPosition :=
  positions.mergeSort fun p q => decide (p.dateMs < q.dateMs ∨ p.dateMs = q.dateMs ∧ p.id ≤ q.id)

structure Recomputed (total : LifecycleDelta) (row : ProjectionDrive) : Prop where
  climb : (row.ascent, row.descent) =
    elevationTotals ((inOrder (attached total row.id)).map (·.elevation))
  latitude : row.endLatitude = (inOrder (attached total row.id)).getLast?.map (·.latitude)
  longitude : row.endLongitude = (inOrder (attached total row.id)).getLast?.map (·.longitude)

def Loose (d : LifecycleDelta) : Prop := ∀ p ∈ d.positions, p.driveId = none

theorem attached_of_loose (h : Loose d) (driveId : ℤ) :
    attached d driveId = d.openDrivePositions.filter (·.driveId = some driveId) := by
  unfold attached
  rw [filter_append]
  have hnil : d.positions.filter (·.driveId = some driveId) = [] := by
    apply filter_eq_nil_iff.mpr
    intro q hq
    rw [h q hq]
    simp only [reduceCtorEq, decide_false, false_eq_true, not_false_eq_true]
  rw [hnil, nil_append]

theorem Loose.merge (h : Loose total) (h' : Loose d) : Loose (mergeStepDelta total d) := by
  intro q hq
  rcases mem_append.mp hq with hq | hq
  · rcases mem_append.mp hq with hq | hq
    · exact h q hq
    · obtain ⟨q', -, rfl⟩ := List.mem_map.mp hq
      rfl
  · exact h' q hq

theorem attached_merge (h : Loose total) (h' : Loose d) (driveId : ℤ) :
    attached (mergeStepDelta total d) driveId = (attached total driveId++attached d driveId).filter
    (!becomesStandalone d ·) := by
  rw [attached_of_loose (h.merge h'), attached_of_loose h, attached_of_loose h', ← filter_append]
  exact filter_comm _ _ _

theorem closedDelta_loose (h : Loose d) (id : ℤ) (children : List ProjectionPosition)
    (row : Option ProjectionDrive) : Loose (closedDelta d id children row) := by
  cases row with
  | some r => exact h
  | none =>
    intro q hq
    rcases mem_append.mp hq with hq | hq
    · exact h q hq
    · obtain ⟨q', -, rfl⟩ := List.mem_map.mp hq
      rfl

variable [Geodesy]

theorem driveCloseStep_loose (h : Loose d) (hc : driveCloseStep s o d = .ok (s', d')) :
    Loose d' := by
  cases hd : s.openDrive with
  | none =>
    obtain ⟨-, rfl⟩ := driveCloseStep_none hd hc
    exact h
  | some drive =>
    rcases driveCloseStep_cases hd hc with ⟨-, he⟩ | ⟨-, t, p, hf, he⟩ | ⟨-, -, -, -, rfl⟩
    · obtain ⟨st, la, lo, k, heq⟩ := closeOpenDrive_eq d true none none hd
      obtain ⟨-, rfl⟩ := Prod.mk.inj (he.trans heq)
      exact closedDelta_loose h _ _ _
    · obtain ⟨-, hopen⟩ := foldIntoOpenDrive_stored hd hf
      obtain ⟨st, la, lo, k, heq⟩ := closeOpenDrive_eq d false p (some o.parsed.driveTimestampMs)
          hopen
      obtain ⟨-, rfl⟩ := Prod.mk.inj (he.trans heq)
      exact closedDelta_loose h _ _ _
    · exact h

variable {endMs : ℤ}

omit [Geodesy] in
theorem closeOpenCharge_positions {charge : OpenCharge} {unplugged : Bool}
    (hc : s.openCharge = some charge) (h : closeOpenCharge s d endMs unplugged = .ok (s', d')) :
    d'.positions = d.positions := by
  obtain ⟨row, cs, -, he⟩ := closeOpenCharge_eq hc
  rw [he] at h
  cases h
  rfl

theorem PipelineTrace.loose (t : PipelineTrace s o d s' d') (h : Loose d) : Loose d' := by
  have hfacts : t.factsDelta.positions = d.positions := by
    obtain ⟨n, u, v, a, us, -, he⟩ := applyVersionFacts_frame t.facts_eq
    rw [he]
  have hdrive : Loose t.driveClosedDelta := by
    refine driveCloseStep_loose ?_ t.driveClosed_eq
    intro q hq
    rw [hfacts] at hq
    exact h q hq
  have hcharge : t.closedDelta.positions = t.driveClosedDelta.positions := by
    rcases chargeCloseStep_cases t.chargeClosed_eq with ⟨-, he, -⟩ | ⟨charge, hc, -, hclose⟩
    · rw [he]
    · exact closeOpenCharge_positions hc hclose
  have hfold : t.foldedDelta.positions = t.closedDelta.positions := by
    rcases driveFoldStep_cases t.driveFolded_eq with ⟨-, he, -⟩ | ⟨-, drive, p, -, -, he⟩
    · rw [he]
    · rw [he]
  have hsample : t.sampledDelta.positions = t.foldedDelta.positions := by
    rcases chargeSampleStep_cases t.chargeSampled_eq with ⟨-, -, he⟩ | ⟨charge, -, -, -, he⟩ |
      ⟨charge, -, -, -, -, he⟩ | ⟨charge, -, -, -, hclose⟩
    · rw [he]
    · rw [he]
    · rw [he]
      rfl
    · have hopen : (sampledState t.driveFolded charge o).openCharge =
          some (sampledCharge t.driveFolded charge o) := rfl
      exact (closeOpenCharge_positions hopen hclose).trans rfl
  obtain ⟨n, st, la, lo, ps, -, hstand, hps⟩ := standalonePositionStep_frame t.standalone_eq
  obtain ⟨n', i, ss, -, hphase⟩ := phaseStep_frame t.final_eq
  intro q hq
  rw [hphase] at hq
  rw [hstand] at hq
  rcases mem_append.mp hq with hq | hq
  · rw [hsample, hfold, hcharge] at hq
    exact hdrive q hq
  · exact hps q hq

theorem Observed.loose (ho : Observed carId T s x o s' d) : Loose d := by
  obtain ⟨s₁, ⟨t⟩, -⟩ := ho.passed
  exact t.loose (forall_mem_nil _)

def trail (folds : List Observation) : List ProjectionPosition := folds.filterMap foldedPosition

variable {q : ProjectionPosition}

omit [Geodesy] in
theorem foldedPosition_eq_some (h : foldedPosition o = some q) :
    o.fresh.position ∧ q.dateMs = o.parsed.driveTimestampMs ∧ o.parsed.latitude = some q.latitude ∧
    o.parsed.longitude = some q.longitude := by
  unfold foldedPosition at h
  split at h
  · rename_i hp
    refine ⟨hp, ?_⟩
    unfold positionFromSample at h
    split at h
    · split at h
      · cases h
      · cases h
    · rename_i latitude longitude hv
      obtain ⟨hx, hy⟩ := validCoordinates_eq_some hv
      cases h
      exact ⟨rfl, hx, hy⟩
  · cases h

variable {folds : List Observation}

omit [Geodesy] in
theorem mem_trail (h : q ∈ trail folds) :
    ∃ a ∈ folds, foldedPosition a = some q ∧ a.fresh.position ∧
    q.dateMs = a.parsed.driveTimestampMs := by
  obtain ⟨a, ha, hq⟩ := mem_filterMap.mp h
  exact ⟨a, ha, hq, (foldedPosition_eq_some hq).1, (foldedPosition_eq_some hq).2.1⟩

omit [Geodesy] in
theorem trail_append (a b : List Observation) : trail (a++b) = trail a++trail b := filterMap_append

omit [Geodesy] in
theorem trail_concat (folds : List Observation) (o : Observation) :
    trail (folds++[o]) = trail folds++(foldedPosition o).toList := by
  rw [trail_append]
  congr 1

omit [Geodesy] in
theorem elevationWalk_step_reference (a : DetachedDrive) (elevationM : Option ℤ)
    (h : (a.elevationWalk.step elevationM).count = 0) :
    (a.elevationWalk.step elevationM).referenceM = none := by
  unfold ElevationWalk.step at h ⊢
  split at h
  · change a.effectiveElevationCount = 0 at h
    unfold effectiveElevationCount at h
    split at h
    · cases h
    rename_i hsome
    cases hl : a.lastElevation with
    | none => exact hl
    | some e =>
      rw [hl] at hsome
      exact absurd ⟨h, rfl⟩ hsome
  · exfalso
    simp only at h
    split at h
    · exact saturatingSucc32_ne_zero _ h
    split at h
    · exact saturatingSucc32_ne_zero _ h
    · split at h
      · exact saturatingSucc32_ne_zero _ h
      · exact saturatingSucc32_ne_zero _ h

omit [Geodesy] in
theorem foldEmitted_walk (a : DetachedDrive) (q : ProjectionPosition) :
    (a.foldEmitted (some q)).elevationWalk = a.elevationWalk.step q.elevation := by
  have hcount : (a.foldEmitted (some q)).effectiveElevationCount =
      (a.elevationWalk.step q.elevation).count := by
    refine if_neg ?_
    rintro ⟨hzero, hsome⟩
    change (a.elevationWalk.step q.elevation).referenceM.isSome = true at hsome
    rw [elevationWalk_step_reference a q.elevation hzero] at hsome
    cases hsome
  unfold elevationWalk at hcount ⊢
  rw [hcount]
  rfl

variable {a : DetachedDrive}

theorem replay_trail (h : Untravelled a) (folds : List Observation) :
    (replay a folds).lastLatitude = (trail folds).getLast?.map (·.latitude) ∧
    (replay a folds).lastLongitude = (trail folds).getLast?.map (·.longitude) ∧
    (replay a folds).elevationWalk = ((trail folds).map (·.elevation)).foldl ElevationWalk.step
    {} := by
  induction folds using reverseRecOn with
  | nil => exact ⟨h.latitude, h.longitude, h.walk⟩
  | append_singleton folds o ih =>
    obtain ⟨hlat, hlon, hwalk⟩ := ih
    have hsame := foldDrivePoint_trail (replay a folds) (drivePoint o) (foldedPosition o)
    rw [replay_concat, trail_concat]
    unfold foldOf
    rw [hsame.latitude, hsame.longitude, hsame.walk]
    cases foldedPosition o with
    | none =>
      rw [toList_none, append_nil]
      exact ⟨hlat, hlon, hwalk⟩
    | some q =>
      rw [toList_some, getLast?_concat, map_append, foldl_append, foldEmitted_walk]
      refine ⟨rfl, rfl, ?_⟩
      change (replay a folds).elevationWalk.step q.elevation = _
      rw [hwalk]
      rfl

variable {source : DetachedDrive}

theorem time_le_folded {q : Observation} (h : source.unflagged = (replay a folds).unflagged)
    (hq : q ∈ folds) : q.parsed.driveTimestampMs ≤ source.effectiveLastFoldedMs := by
  obtain ⟨m, hm, hle⟩ := (replay_folded a folds).1 q hq
  have hsource : source.lastFoldedAtMs = some m := (congrArg lastFoldedAtMs h).trans hm
  unfold effectiveLastFoldedMs
  rw [hsource]
  exact hle

theorem folded_lt_cut {cut : ℤ} (hu : Untravelled a)
    (h : source.unflagged = (replay a folds).unflagged)
    (hfolds : ∀ q ∈ folds, q.parsed.driveTimestampMs < cut) (hstart : source.startDateMs < cut) :
    source.effectiveLastFoldedMs < cut := by
  cases folds with
  | nil =>
    have hfolded : source.lastFoldedAtMs = none := (congrArg lastFoldedAtMs h).trans hu.folded
    have hdate : source.lastPositionDateMs = none := (congrArg lastPositionDateMs h).trans
        hu.positionDate
    unfold effectiveLastFoldedMs
    rw [hfolded, hdate]
    exact hstart
  | cons q rest =>
    obtain ⟨hreached, hbound⟩ := replay_folded a (q :: rest)
    obtain ⟨m, hm, -⟩ := hreached q mem_cons_self
    have hle := hbound (cut-1) (fun m hm => by rw [hu.folded] at hm; cases hm)
      (fun q hq => Int.le_sub_one_of_lt (hfolds q hq)) m hm
    have hsource : source.lastFoldedAtMs = some m := (congrArg lastFoldedAtMs h).trans hm
    unfold effectiveLastFoldedMs
    rw [hsource]
    change m < cut
    omega

omit [Geodesy] in
theorem trail_filter {keep : Observation → Bool}
    (h : ∀ q ∈ folds, q.fresh.position → (q.parsed.driveTimestampMs ≤ endMs ↔ keep q)) :
    trail (folds.filter keep) = (trail folds).filter (·.dateMs ≤ endMs) := by
  unfold trail
  rw [filterMap_filter, filter_filterMap]
  apply filterMap_congr
  intro q hq
  cases hp : foldedPosition q with
  | none => simp only [ite_self, filter_none]
  | some pos =>
    obtain ⟨hfresh, hdate, -⟩ := foldedPosition_eq_some hp
    have hiff := h q hq hfresh
    rw [← hdate] at hiff
    rw [filter_some]
    by_cases hk : keep q
    · rw [if_pos hk, if_pos (decide_eq_true (hiff.mpr hk))]
    · rw [if_neg hk, if_neg fun hx => hk (hiff.mp (of_decide_eq_true hx))]

omit [Geodesy] in
theorem trail_of_split {pre post : List Observation}
    (hpre : ∀ q ∈ pre, q.parsed.driveTimestampMs ≤ endMs)
    (hpost : ∀ q ∈ post, q.fresh.position → endMs < q.parsed.driveTimestampMs) :
    trail pre = (trail (pre++post)).filter (·.dateMs ≤ endMs) := by
  have hall : (trail pre).filter (·.dateMs ≤ endMs) = trail pre := by
    apply filter_eq_self.mpr
    intro q hq
    obtain ⟨a, ha, -, -, hdate⟩ := mem_trail hq
    rw [hdate]
    exact decide_eq_true (hpre a ha)
  have hnone : (trail post).filter (·.dateMs ≤ endMs) = [] := by
    apply filter_eq_nil_iff.mpr
    intro q hq
    obtain ⟨a, ha, -, hfresh, hdate⟩ := mem_trail hq
    rw [hdate, decide_eq_true_iff]
    exact not_le.mpr (hpost a ha hfresh)
  rw [trail_append, filter_append, hall, hnone, append_nil]

omit [Geodesy] in
theorem trail_of_all (h : ∀ q ∈ folds, q.parsed.driveTimestampMs ≤ endMs) :
    trail folds = (trail folds).filter (·.dateMs ≤ endMs) := by
  have hsplit := trail_of_split h (forall_mem_nil _)
  rw [append_nil] at hsplit
  exact hsplit

omit [Geodesy] in
theorem inOrder_eq {positions : List ProjectionPosition}
    (h : (positions.map unlabelled).Pairwise (·.dateMs < ·.dateMs)) :
    inOrder positions = positions := by
  refine mergeSort_of_pairwise ((pairwise_map.mp h).imp ?_)
  intro a b hlt
  exact decide_eq_true (.inl hlt)

variable {row : ProjectionDrive}

variable {explicitEnd : Option ℤ} {total' : LifecycleDelta}

theorem Recomputed.of_replay (hu : Untravelled a) (hs : ∀ q ∈ folds, q.Sound)
    (hsource : source.unflagged = (replay a folds).unflagged)
    (hrow : DriveRowOf source explicitEnd row)
    (horder : (trail folds).Pairwise (·.dateMs < ·.dateMs))
    (hleft : (attached total row.id).map unlabelled = trail folds) : Recomputed total row := by
  obtain ⟨hlat, hlon, hwalk⟩ := replay_trail hu folds
  have hwalk' : source.elevationWalk = (replay a folds).elevationWalk :=
    (congrArg elevationWalk hsource :)
  have hlat' : source.lastLatitude = (replay a folds).lastLatitude :=
    (congrArg lastLatitude hsource :)
  have hlon' : source.lastLongitude = (replay a folds).lastLongitude :=
    (congrArg lastLongitude hsource :)
  have hin : inOrder (attached total row.id) = attached total row.id := by
    apply inOrder_eq
    rw [hleft]
    exact horder
  have hlast {α : Type} (f : ProjectionPosition → α) (hf : ∀ q, f (unlabelled q) = f q) :
      (attached total row.id).getLast?.map f = (trail folds).getLast?.map f := by
    rw [← hleft, getLast?_map, Option.map_map]
    exact Option.map_congr fun q _ => (hf q).symm
  have hround (f : ProjectionPosition → ℚ) (hf : ∀ q ∈ trail folds, roundToPrecision (f q) 6 = f q)
      :
      ((trail folds).getLast?.map f).map (roundToPrecision · 6) = (trail folds).getLast?.map f := by
    rw [Option.map_map]
    exact Option.map_congr fun q hq => hf q (mem_of_getLast? hq)
  refine ⟨?_, ?_, ?_⟩
  · have hsame : ((attached total row.id).map (·.elevation)) = (trail folds).map (·.elevation) := by
      rw [← hleft, List.map_map]
      rfl
    calc (row.ascent, row.descent)
        = source.elevationWalk.totals := hrow.climb_eq
      _ = (replay a folds).elevationWalk.totals := congrArg ElevationWalk.totals hwalk'
      _ = elevationTotals ((inOrder (attached total row.id)).map (·.elevation)) := by
          rw [hwalk, hin, hsame]
          rfl
  · calc row.endLatitude
        = source.lastLatitude.map (roundToPrecision · 6) := hrow.endLatitude_eq
      _ = (replay a folds).lastLatitude.map (roundToPrecision · 6) := congrArg _ hlat'
      _ = (inOrder (attached total row.id)).getLast?.map (·.latitude) := by
          rw [hlat, hin, hlast (·.latitude) fun _ => rfl]
          refine hround _ fun q hq => ?_
          obtain ⟨b, hb, hp, -⟩ := mem_trail hq
          exact (hs b hb).parsed.latitude_rounded _ (foldedPosition_eq_some hp).2.2.1
  · calc row.endLongitude
        = source.lastLongitude.map (roundToPrecision · 6) := hrow.endLongitude_eq
      _ = (replay a folds).lastLongitude.map (roundToPrecision · 6) := congrArg _ hlon'
      _ = (inOrder (attached total row.id)).getLast?.map (·.longitude) := by
          rw [hlon, hin, hlast (·.longitude) fun _ => rfl]
          refine hround _ fun q hq => ?_
          obtain ⟨b, hb, hp, -⟩ := mem_trail hq
          exact (hs b hb).parsed.longitude_rounded _ (foldedPosition_eq_some hp).2.2.2

structure DriveTrail (total : LifecycleDelta) (drive : OpenDrive) (l : DriveLog) : Prop where
  children : (attached total drive.id).map unlabelled = trail l.folds
  ordered : (trail l.folds).Pairwise (·.dateMs < ·.dateMs)
  still : ∀ c, drive.stillCheckpoint = some c → ∃ pre post, l.folds = pre++post ∧
    c.unflagged = (replay l.opened pre).unflagged ∧ ∀ q ∈ post, q.fresh.position →
      max c.effectiveLastFoldedMs drive.startDateMs < q.parsed.driveTimestampMs
  leads : ∀ lead ∈ drive.leadCheckpoints, drive.startDateMs < lead.cutMs

structure RowSource (l : DriveLog) (source : DetachedDrive) (explicitEnd : Option ℤ)
    (folds : List Observation) : Prop where
  part : folds.Sublist l.folds
  replayed : source.unflagged = (replay l.opened folds).unflagged
  cut : trail folds = (trail l.folds).filter (·.dateMs ≤
    max ((explicitEnd.map (max · source.effectiveLastFoldedMs)).getD source.effectiveLastFoldedMs)
      source.startDateMs)

theorem DriveTrail.lost (h : DriveTrail total drive l) (hl : DriveLogged marks drive l)
    (hc : drive.Coherent) : ∃ folds, RowSource l (endSource drive true none).1 none folds := by
  unfold endSource
  simp only [if_true]
  split
  · rename_i c hstill
    obtain ⟨pre, post, hsplit, hreplay, hpost⟩ := h.still c hstill
    refine ⟨pre, ?_, hreplay, ?_⟩
    · rw [hsplit]
      exact sublist_append_left pre post
    · rw [hsplit]
      refine trail_of_split ?_ ?_
      · intro q hq
        exact le_max_of_le_left (time_le_folded hreplay hq)
      · intro q hq hp
        rw [(hc.still c hstill).startDateMs]
        exact hpost q hq hp
  · refine ⟨l.folds, List.Sublist.refl _, hl.main, ?_⟩
    exact trail_of_all fun q hq => le_max_of_le_left (time_le_folded hl.main hq)

theorem DriveTrail.ended (h : DriveTrail total drive l) (hl : DriveLogged marks drive l)
    (hc : drive.Coherent) (hs : o.Sound) (hfresh : FreshAt marks o)
    (hfacts : hasFreshDriveFacts o) (hstored : Stored drive o p) : ∃ folds, RowSource (l.push o)
      (endSource (foldObservation drive marks o p) false (some o.parsed.driveTimestampMs)).1
      (some o.parsed.driveTimestampMs) folds := by
  have hpushed := hl.fold hs hfresh hfacts hstored
  obtain ⟨hcoherent, horigin⟩ := foldObservation_coherent hc marks o p
  unfold endSource
  simp only [false_eq_true, if_false, bind_some]
  split
  · rename_i lead hf
    have hmem := mem_of_find?_eq_some hf
    have hcut := find?_some hf
    rw [decide_eq_true_iff] at hcut
    have hreplay := (hpushed.leads lead hmem).2.2
    have hstart : lead.drive.startDateMs < lead.cutMs := by
      rw [((hcoherent.leads lead hmem).trans horigin).startDateMs]
      rw [foldObservation_leads] at hmem
      obtain ⟨lead', hl', rfl⟩ := List.mem_map.mp hmem
      rw [foldLead_cutMs] at hcut ⊢
      rcases mem_leadsBeforeFold hl' with hkept | ⟨-, rfl⟩
      · exact h.leads lead' (mem_keptLeads hkept)
      · exact absurd hcut (lt_irrefl _)
    have hlast := folded_lt_cut hpushed.untravelled hreplay
      (fun q hq => of_decide_eq_true (mem_filter.mp hq).2) hstart
    refine ⟨(l.push o).before lead.cutMs, filter_sublist, hreplay, trail_filter ?_⟩
    intro q hq _
    rw [decide_eq_true_iff]
    constructor
    · intro hle
      exact lt_of_le_of_lt hle (max_lt (max_lt hcut hlast) hstart)
    · intro hlt
      have hin : q ∈ (l.push o).before lead.cutMs := mem_filter.mpr ⟨hq, decide_eq_true hlt⟩
      exact le_max_of_le_left (le_max_of_le_right (time_le_folded hreplay hin))
  · exact ⟨(l.push o).folds, List.Sublist.refl _, hpushed.main, trail_of_all fun q hq =>
      le_max_of_le_left (le_max_of_le_right (time_le_folded hpushed.main hq))⟩

theorem trail_ordered_push (h : (trail l.folds).Pairwise (·.dateMs < ·.dateMs))
    (hl : DriveLogged marks drive l) (hfresh : FreshAt marks o) :
    (trail (l.push o).folds).Pairwise (·.dateMs < ·.dateMs) := by
  change (trail (l.folds++[o])).Pairwise _
  rw [trail_concat]
  refine pairwise_append.mpr ⟨h, ?_, ?_⟩
  · cases foldedPosition o with
    | none => exact List.Pairwise.nil
    | some q => exact pairwise_singleton _ _
  · intro q hq q' hq'
    obtain ⟨a, ha, -, hfa, hdate⟩ := mem_trail hq
    obtain ⟨hfo, hdate', -⟩ := foldedPosition_eq_some (mem_toList.mp hq')
    rw [hdate, hdate']
    exact (hl.position_le a ha hfa).lt (hfresh.position hfo)

theorem DriveTrail.children_push (h : DriveTrail total drive l)
    (hp : foldedPosition o = p.map unlabelled) :
    (attached total drive.id++p.toList).map unlabelled = trail (l.push o).folds := by
  change _ = trail (l.folds++[o])
  rw [trail_concat, map_append, h.children, hp]
  cases p with
  | none => rfl
  | some q => rfl

theorem DriveTrail.fold (h : DriveTrail total drive l) (hl : DriveLogged marks drive l)
    (hfresh : FreshAt marks o)
    (hchildren : (attached total' drive.id).map unlabelled = trail (l.push o).folds)
    (hstill : o.drive ≠ .motion → o.fresh.position → ∀ c, drive.stillCheckpoint = some c →
    max c.effectiveLastFoldedMs drive.startDateMs < o.parsed.driveTimestampMs)
    (hlead : isLeadFold marks o → drive.startDateMs < o.parsed.driveTimestampMs)
    (hmain : (foldObservation drive marks o p).toDetachedDrive.unflagged =
    (replay l.opened (l.push o).folds).unflagged) :
    DriveTrail total' (foldObservation drive marks o p) (l.push o) := by
  have hstart : (foldObservation drive marks o p).startDateMs = drive.startDateMs :=
    (foldDrivePoint_origin drive.toDetachedDrive (drivePoint o) p).startDateMs
  refine ⟨?_, ?_, ?_, ?_⟩
  · rw [foldObservation_id]
    exact hchildren
  · exact trail_ordered_push h.ordered hl hfresh
  · intro c hc
    rw [hstart]
    obtain ⟨hne, hs | rfl⟩ := still_of_foldObservation hc
    · obtain ⟨pre, post, hsplit, hreplay, hpost⟩ := h.still c hs
      refine ⟨pre, post++[o], ?_, hreplay, ?_⟩
      · change l.folds++[o] = _
        rw [hsplit, append_assoc]
      · intro q hq hp
        rcases mem_concat.mp hq with hq | rfl
        · exact hpost q hq hp
        · exact hstill hne hp c hs
    · exact ⟨(l.push o).folds, [], (append_nil _).symm, hmain, forall_mem_nil _⟩
  · intro lead' hl'
    rw [hstart]
    rw [foldObservation_leads] at hl'
    obtain ⟨lead, hm, rfl⟩ := List.mem_map.mp hl'
    rw [foldLead_cutMs]
    rcases mem_leadsBeforeFold hm with hkept | ⟨hlf, rfl⟩
    · exact h.leads lead (mem_keptLeads hkept)
    · exact hlead hlf

omit [Geodesy] in
theorem attached_merge_other (h : Loose total) (h' : Loose d) {i : ℤ} (hi : i ∉ settledDriveIds d) :
    attached (mergeStepDelta total d) i = attached total i++attached d i := by
  rw [attached_merge h h']
  apply filter_eq_self.mpr
  intro q hq
  have hid : q.driveId = some i := by
    rcases mem_append.mp hq with hq | hq
    · exact of_decide_eq_true (mem_filter.mp hq).2
    · exact of_decide_eq_true (mem_filter.mp hq).2
  have hno : becomesStandalone d q = false := by
    unfold becomesStandalone
    rw [hid, any_some, or_eq_false_iff]
    refine ⟨?_, ?_⟩
    · rw [contains_eq_mem]
      exact decide_eq_false fun hm => hi (mem_append_right _ hm)
    · rw [List.any_eq_false]
      intro r hr he
      rw [and_eq_true, beq_iff_eq] at he
      exact hi (mem_append_left _ (List.mem_map.mpr ⟨r, hr, he.1⟩))
  rw [hno]
  rfl

omit [Geodesy] in
theorem attached_merge_row (h : Loose total) (h' : Loose d) (hrows : d.drives = [row])
    (hdisc : d.discardedDriveIds = []) :
    (attached (mergeStepDelta total d) row.id).map unlabelled =
    ((attached total row.id++attached d row.id).map unlabelled).filter
    (·.dateMs ≤ row.endDateMs) := by
  rw [attached_merge h h', List.filter_map]
  congr 1
  apply filter_congr
  intro q hq
  have hid : q.driveId = some row.id := by
    rcases mem_append.mp hq with hq | hq
    · exact of_decide_eq_true (mem_filter.mp hq).2
    · exact of_decide_eq_true (mem_filter.mp hq).2
  unfold becomesStandalone
  rw [hid, hrows, hdisc, any_some, contains_nil, Bool.false_or, any_cons, any_nil,
    Bool.or_false, beq_self_eq_true, Bool.true_and]
  rw [← decide_not]
  exact decide_eq_decide.mpr not_lt

theorem RowSource.recomputed (hsource : RowSource l source explicitEnd folds)
    (hu : Untravelled l.opened) (hs : ∀ q ∈ l.folds, q.Sound)
    (hrow : DriveRowOf source explicitEnd row)
    (horder : (trail l.folds).Pairwise (·.dateMs < ·.dateMs)) (h : Loose total) (h' : Loose d)
    (hrows : d.drives = [row]) (hdisc : d.discardedDriveIds = [])
    (hchildren : (attached total row.id++attached d row.id).map unlabelled = trail l.folds) :
    Recomputed (mergeStepDelta total d) row := by
  refine .of_replay hu (fun q hq => hs q (hsource.part.subset hq)) hsource.replayed hrow ?_ ?_
  · exact horder.sublist (hsource.part.filterMap _)
  · rw [attached_merge_row h h' hrows hdisc, hchildren, hrow.endDateMs_eq]
    exact hsource.cut.symm

structure TrailBook (s : OpenSessionState) (total : LifecycleDelta) (log : Option DriveLog) :
    Prop where
  logged : LogBook s log
  loose : Loose total
  owned : ∀ q ∈ total.openDrivePositions, ∃ i, q.driveId = some i ∧ i < s.ids.nextDriveId
  rows : ∀ row ∈ total.drives, Recomputed total row
  trail : ∀ drive l, s.openDrive = some drive → log = some l → DriveTrail total drive l

theorem TrailBook.new : TrailBook .new {} none := by
  refine ⟨LogBook.new, forall_mem_nil _, forall_mem_nil _, forall_mem_nil _, ?_⟩
  intro drive l hd
  cases hd

variable {log : Option DriveLog}

theorem TrailBook.newTrail {first : OpenDrive} (h : TrailBook s total log)
    (hid : first.id = s.ids.nextDriveId) (hstill : first.stillCheckpoint = none)
    (hleads : first.leadCheckpoints = []) :
    DriveTrail total first { opened := first.toDetachedDrive, folds := [] } := by
  refine ⟨?_, List.Pairwise.nil, ?_, ?_⟩
  · rw [attached_of_loose h.loose, filter_owner_nil]
    · rfl
    · intro q hq he
      obtain ⟨i, hi, hlt⟩ := h.owned q hq
      have hsame : i = first.id := some.inj (hi.symm.trans he)
      omega
  · intro c hc
    rw [hstill] at hc
    cases hc
  · rw [hleads]
    exact forall_mem_nil _

/-- While a drive stays open, a position folded behind its still checkpoint is dated behind the end
of that checkpoint, and a position ahead of the motion watermark behind the drive's start. -/
def trailOrdered (carId : ℤ) (T : ℕ) (s : OpenSessionState) (x : LifecycleSample) : Bool :=
  match observationOf s carId T x, s.openDrive with
  | some o, some drive =>
    !keepsDrive (applyServiceMode s o) drive o || !o.fresh.position ||
      ((o.drive == .motion || drive.stillCheckpoint.all fun c =>
          decide (max c.effectiveLastFoldedMs drive.startDateMs < o.parsed.driveTimestampMs)) &&
        (!isLeadFold s.marks o || decide (drive.startDateMs < o.parsed.driveTimestampMs)))
  | _, _ => true

omit [Geodesy] in
theorem trailOrdered_spec (h : trailOrdered carId T s x)
    (ho : observationOf s carId T x = some o) (hd : s.openDrive = some drive)
    (hkeeps : keepsDrive (applyServiceMode s o) drive o) :
    (o.drive ≠ .motion → o.fresh.position → ∀ c, drive.stillCheckpoint = some c →
      max c.effectiveLastFoldedMs drive.startDateMs < o.parsed.driveTimestampMs) ∧
    (isLeadFold s.marks o → drive.startDateMs < o.parsed.driveTimestampMs) := by
  unfold trailOrdered at h
  rw [ho, hd] at h
  simp only [hkeeps, Bool.not_true, Bool.false_or, or_eq_true, not_eq_true', and_eq_true,
    beq_iff_eq, decide_eq_true_iff] at h
  refine ⟨?_, ?_⟩
  · intro hm hp c hc
    rcases h with hno | ⟨hstill, -⟩
    · rw [hp] at hno
      cases hno
    · rcases hstill with hx | hx
      · exact absurd hx hm
      · rw [hc, all_some] at hx
        exact of_decide_eq_true hx
  · intro hlead
    have hp : o.fresh.position := by
      simp only [isLeadFold, and_eq_true] at hlead
      exact hlead.1.1
    rcases h with hno | ⟨-, hx⟩
    · rw [hp] at hno
      cases hno
    · rcases hx with hx | hx
      · rw [hlead] at hx
        cases hx
      · exact hx

theorem Observed.children_owner (ho : Observed carId T s x o s' d) (hl : LiveState s)
    (ha : Accounted s total) (hq : q ∈ d.openDrivePositions) :
    ∃ drive, (s.openDrive = some drive ∨ s'.openDrive = some drive) ∧
    q.driveId = some drive.id := by
  obtain ⟨f, mid, e, closed, kids, hopen, -, -, -, hclosing, hgoing, -, -, -, hkids⟩ :=
    (ho.drivePass hl).pass
  rw [hkids] at hq
  rcases mem_append.mp hq with hq | hq
  · obtain ⟨drive, hd, hid⟩ := hclosing.children_owner (by rw [hopen]; exact ha.drives.coherent) hq
    exact ⟨drive, .inl (hopen.symm.trans hd), hid⟩
  · obtain ⟨drive, hd, hid⟩ := hgoing.kids_owner hq
    exact ⟨drive, .inr hd, hid⟩

theorem Observed.newRow (ho : Observed carId T s x o s' d) (hl : LiveState s)
    (ha : Accounted s total) (h : TrailBook s total log) (hr : row ∈ d.drives) :
    Recomputed (mergeStepDelta total d) row := by
  obtain ⟨f, mid, e, closed, kids, hopen, hm, hnext, -, hclosing, hgoing, -, hrows, hdisc, hkids⟩ :=
    (ho.drivePass hl).pass
  -- Behind a close the pass can only have stored children of a drive opened now.
  have hothers {drive : OpenDrive} (hd : s.openDrive = some drive) (hmid : mid = none) :
      kids.filter (·.driveId = some drive.id) = [] := by
    apply filter_owner_nil
    intro q hq hid
    obtain ⟨drive', hd', hid'⟩ := hgoing.kids_owner hq
    rw [hmid, hd'] at hgoing
    have hnew := hgoing.opened_id
    have hlt := ha.openDrive_lt hd
    have hsame : drive.id = drive'.id := some.inj (hid.symm.trans hid')
    omega
  have hclosed {drive : OpenDrive} {children : List ProjectionPosition} {source : DetachedDrive}
      {explicitEnd : Option ℤ} {l' : DriveLog} {folds : List Observation}
      (hd : s.openDrive = some drive) (hmid : mid = none)
      (he : e = closedDelta {} drive.id children (finalizeDrive source false explicitEnd))
      (hid : source.id = drive.id) (hsource : RowSource l' source explicitEnd folds)
      (hu : Untravelled l'.opened) (hs : ∀ q ∈ l'.folds, q.Sound)
      (horder : (trail l'.folds).Pairwise (·.dateMs < ·.dateMs))
      (hchildren : (attached total drive.id++children.filter (·.driveId = some drive.id)).map
        unlabelled =
        trail l'.folds) : Recomputed (mergeStepDelta total d) row := by
    rw [hrows, he] at hr
    have hfin := mem_closedDelta_drives hr
    have hrow := finalizeDrive_eq_some hfin
    obtain ⟨hd₁, hd₂⟩ := closedDelta_settled drive.id children
        (finalizeDrive source false explicitEnd)
    rw [hfin] at hd₁ hd₂ he
    rw [he] at hrows hdisc hkids
    refine hsource.recomputed hu hs hrow horder h.loose ho.loose (hrows.trans hd₁) (hdisc.trans hd₂)
      ?_
    rw [hrow.id_eq, hid, attached_of_loose ho.loose, hkids, filter_append, hothers hd hmid,
      append_nil]
    exact hchildren
  cases hclosing with
  | idle _ =>
    rw [hrows] at hr
    cases hr
  | kept _ _ _ _ =>
    rw [hrows] at hr
    cases hr
  | @lost drive hd _ =>
    have hd := hopen.symm.trans hd
    have hc := ha.drives.coherent drive hd
    obtain ⟨l, hlog, hlogged⟩ := h.logged drive hd
    have htrail := h.trail drive l hd hlog
    obtain ⟨folds, hsource⟩ := htrail.lost hlogged hc
    refine hclosed hd rfl rfl (endSource_origin hc true none).id hsource hlogged.untravelled
      hlogged.sound htrail.ordered ?_
    rw [endSource_unbuffered hc, filter_nil, append_nil]
    exact htrail.children
  | @ended drive p hd hend hstored =>
    have hd := hopen.symm.trans hd
    have hc := ha.drives.coherent drive hd
    obtain ⟨l, hlog, hlogged⟩ := h.logged drive hd
    have htrail := h.trail drive l hd hlog
    have hfacts : hasFreshDriveFacts o := by
      have hcan := hend.2.2
      simp only [canEndHere, or_eq_true, and_eq_true] at hcan
      simp only [hasFreshDriveFacts, or_eq_true]
      exact hcan.imp_right And.left
    obtain ⟨folds, hsource⟩ := htrail.ended hlogged hc ho.sound ho.fresh hfacts hstored
    have hpushed := hlogged.fold ho.sound ho.fresh hfacts hstored
    obtain ⟨hcoherent, horigin⟩ := foldObservation_coherent hc s.marks o p
    rw [hm] at hclosed
    refine hclosed hd rfl rfl ((endSource_origin hcoherent false _).trans horigin).id hsource
      hpushed.untravelled hpushed.sound (trail_ordered_push htrail.ordered hlogged ho.fresh) ?_
    rw [endSource_unbuffered hcoherent, nil_append, filter_owner_self fun q hq =>
      hstored.driveId_eq hq]
    exact htrail.children_push (stored_foldedPosition ho.sound ho.fresh hlogged.stored_le hstored)

omit [Geodesy] in
theorem Recomputed.congr (h : Recomputed total row)
    (he : attached total' row.id = attached total row.id) : Recomputed total' row := by
  refine ⟨?_, ?_, ?_⟩
  · rw [he]
    exact h.climb
  · rw [he]
    exact h.latitude
  · rw [he]
    exact h.longitude

theorem Observed.trailBook (ho : Observed carId T s x o s' d) (hl : LiveState s)
    (ha : Accounted s total) (hordered : trailOrdered carId T s x) (h : TrailBook s total log) :
    TrailBook s' (mergeStepDelta total d) (nextLog carId T s x s' log) := by
  have ha' := ho.accounted ha
  have hledger : IdLedger.Ledger (openDriveIds s') (settledDriveIds total++settledDriveIds d)
      s'.ids.nextDriveId :=
    ha'.drives.ledger.perm ((settledDriveIds_merge total d).symm.append_left _)
  have hopen {u : OpenSessionState} {drive : OpenDrive} (hd : u.openDrive = some drive) :
      drive.id ∈ openDriveIds u := by
    unfold openDriveIds
    rw [hd]
    exact mem_cons_self
  refine ⟨ho.logBook hl ha h.logged, h.loose.merge ho.loose, ?_, ?_, ?_⟩
  · intro q hq
    rcases mem_append.mp (mem_filter.mp hq).1 with hq | hq
    · obtain ⟨i, hi, hlt⟩ := h.owned q hq
      exact ⟨i, hi, ho.nextDriveId_le hlt⟩
    · obtain ⟨drive, hd, hid⟩ := ho.children_owner hl ha hq
      refine ⟨drive.id, hid, ?_⟩
      rcases hd with hd | hd
      · exact ho.nextDriveId_le (ha.openDrive_lt hd)
      · exact ha'.openDrive_lt hd
  · intro row hrow
    rcases mem_append.mp hrow with hrow | hrow
    · have hsettled : row.id ∈ settledDriveIds total :=
        mem_append_left _ (List.mem_map.mpr ⟨row, hrow, rfl⟩)
      refine (h.rows row hrow).congr ?_
      rw [attached_merge_other h.loose ho.loose (hledger.not_mem_later hsettled),
        attached_of_loose ho.loose, filter_owner_nil, append_nil]
      intro q hq hid
      obtain ⟨drive, hd, hid'⟩ := ho.children_owner hl ha hq
      have hsame : row.id = drive.id := some.inj (hid.symm.trans hid')
      rw [hsame] at hsettled
      rcases hd with hd | hd
      · exact ha.drives.ledger.not_mem_settled (hopen hd) hsettled
      · exact hledger.not_mem_settled (hopen hd) (mem_append_left _ hsettled)
    · exact ho.newRow hl ha h hrow
  · intro drive' l' hd' hlog'
    have hfree : drive'.id ∉ settledDriveIds d :=
      fun hm => hledger.not_mem_settled (hopen hd') (mem_append_right _ hm)
    obtain ⟨kids, hpass, hkids⟩ := ho.logPass log hl ha hd'
    have hmerged : attached (mergeStepDelta total d) drive'.id = attached total
        drive'.id++kids := by
      rw [attached_merge_other h.loose ho.loose hfree, attached_of_loose ho.loose, hkids]
    generalize nextLog carId T s x s' log = log' at hpass hlog'
    cases hpass with
    | @resting drive flag hd hno =>
      have htrail := h.trail drive l' hd hlog'
      rw [append_nil] at hmerged
      refine ⟨?_, htrail.ordered, htrail.still, htrail.leads⟩
      rw [hmerged]
      exact htrail.children
    | @folded drive p flag hd hkeeps hfacts hstored =>
      obtain ⟨l, hlog, rfl⟩ := map_eq_some_iff.mp hlog'
      obtain ⟨l₁, hlog₁, hlogged⟩ := h.logged drive hd
      cases hlog.symm.trans hlog₁
      have htrail := h.trail drive l hd hlog
      obtain ⟨hstill, hlead⟩ := trailOrdered_spec hordered ho.delivered hd hkeeps
      have hposition := stored_foldedPosition ho.sound ho.fresh hlogged.stored_le hstored
      rw [foldObservation_id] at hmerged
      have htrail' : DriveTrail total { drive with sawOffline := flag } l :=
        ⟨htrail.children, htrail.ordered, htrail.still, htrail.leads⟩
      refine htrail'.fold (hlogged.flagged flag) ho.fresh ?_ hstill hlead
        ((hlogged.flagged flag).fold ho.sound ho.fresh hfacts hstored).main
      rw [hmerged]
      exact htrail.children_push hposition
    | @opened first p start snapshot hfirst hmotion hstored =>
      cases hlog'
      have hblank := DriveLogged.opened s.marks s.ids.nextDriveId o.carId start
        o.parsed.driveTimestampMs o.tGapMs snapshot
      have hid : first.id = s.ids.nextDriveId := by rw [hfirst, (openedDrive_coherent ..).2.1]
      obtain ⟨hstill, hleads⟩ := openedDrive_unchecked s.ids.nextDriveId o.carId start
        o.parsed.driveTimestampMs o.tGapMs snapshot
      rw [← hfirst] at hblank hstill hleads
      have hposition := stored_foldedPosition ho.sound ho.fresh hblank.stored_le hstored
      have htrail := h.newTrail hid hstill hleads
      have hnot : isLeadFold s.marks o ≠ true := by
        simp only [isLeadFold, ho.sound.motion_fresh hmotion, Bool.not_true, Bool.and_false,
          Bool.false_and, ne_eq, false_eq_true, not_false_eq_true]
      rw [foldObservation_id] at hmerged
      refine htrail.fold hblank ho.fresh ?_ (fun hm => absurd hmotion hm) (fun hx => absurd hx hnot)
        (hblank.fold ho.sound ho.fresh (hasFreshDriveFacts_of_motion ho.sound hmotion) hstored).main
      rw [hmerged]
      exact htrail.children_push hposition

/-- The climb and the end of every emitted drive row are recomputed from the positions left attached
to the drive (R52). -/
theorem drive_rows_recomputed {xs : List LifecycleSample} {b : LifecycleStep}
    (hrun : applySamplesWith .new carId xs T = .ok b)
    (hordered : StepsMeet (batchStep carId T) (fun b x => trailOrdered carId T b.state x = true)
      { state := .new, delta := {}, quarantined := false } xs) :
    ∀ row ∈ b.delta.drives, Recomputed b.delta row := by
  have hbook := applySamplesWith_logged (I := TrailBook)
    (C := fun s x => trailOrdered carId T s x = true)
    (fun _ _ _ _ h => ⟨h.logged, h.loose, h.owned, h.rows, h.trail⟩)
    (fun s x o s' d total log hl ha h hC ho => ho.trailBook hl ha hC h) TrailBook.new hordered hrun
  exact hbook.rows

def placeSample (id observedMs atMs : ℤ) (place elevation : ℚ) : LifecycleSample :=
  vehicleDataSample id observedMs
    [("drive_state", .object [("timestamp", .number (kEarliestMs+atMs)),
      ("latitude", .number place), ("longitude", .number place), ("elevation", .number elevation)])]

def departure : LifecycleSample :=
  vehicleDataSample 1 40 [("drive_state", .object [("shift_state", .string "D"),
    ("latitude", .number 1), ("longitude", .number 1), ("elevation", .number 10)]),
    ("vehicle_state", .object [("odometer", .number 1)])]

def latePlaces : List LifecycleSample :=
  [departure, gearSample 2 100 "D" 2, placeSample 3 100 50 2 20, placeSample 4 100 60 3 30,
    hubEventSample 5 200 "no_data"]

omit [Geodesy] in
/-- The second late place stays attached to the drive, but the row ends at the still checkpoint,
which has only seen the first. -/
theorem late_place_not_in_row :
    ∃ b, @applySamplesWith flatGeodesy .new 1 latePlaces defaultOfflineDriveTimeoutMs = .ok b ∧
      ∃ row ∈ b.delta.drives, row.endLatitude = some 2 ∧ row.ascent = some 10 ∧
        (inOrder (attached b.delta row.id)).map (fun q => (q.dateMs-kEarliestMs, q.latitude)) =
          [(40, 1), (50, 2), (60, 3)] ∧
        ¬Recomputed b.delta row := by
  have hok : (@applySamplesWith flatGeodesy .new 1 latePlaces
      defaultOfflineDriveTimeoutMs).toOption.any
      (fun b => b.delta.drives.any fun row => row.endLatitude = some 2 ∧ row.ascent = some 10 ∧
        ((attached b.delta row.id).map unlabelled).Pairwise (·.dateMs < ·.dateMs) ∧
        (attached b.delta row.id).map (fun q => (q.dateMs-kEarliestMs, q.latitude)) =
          [(40, 1), (50, 2), (60, 3)]) := by decide +kernel
  obtain ⟨b, hb, hrows⟩ := exists_ok_of_any hok
  obtain ⟨row, hrow, hcheck⟩ := List.any_eq_true.mp hrows
  obtain ⟨hlat, hasc, horder, hplaces⟩ := of_decide_eq_true hcheck
  have hin := inOrder_eq horder
  refine ⟨b, hb, row, hrow, hlat, hasc, ?_, ?_⟩
  · rw [hin]
    exact hplaces
  · intro h
    have hlast := h.latitude
    rw [hin, hlat] at hlast
    have hplace : (attached b.delta row.id).getLast?.map (·.latitude) = some 3 := by
      have hsnd := congrArg (fun places => places.getLast?.map Prod.snd) hplaces
      rw [getLast?_map, Option.map_map] at hsnd
      exact hsnd
    rw [hplace] at hlast
    exact absurd hlast (by decide)

omit [Geodesy] in
theorem drive_rows_recomputed_stillCheckpoint :
    ∃ b, @applySamplesWith flatGeodesy .new 1 [departure,
    vehicleDataSample 2 60
    [("drive_state", .object [("latitude", .number 2), ("longitude", .number 2),
    ("elevation", .number 20)]), ("vehicle_state", .object [("odometer", .number 2)])],
    placeSample 3 80 80 3 30, hubEventSample 4 200 "no_data"] defaultOfflineDriveTimeoutMs = .ok b ∧
    b.delta.drives.length = 1 ∧ b.delta.positions.length = 1 ∧ ∀ row ∈ b.delta.drives, Recomputed
    b.delta row := by
  have hok : (@applySamplesWith flatGeodesy .new 1 [departure,
        vehicleDataSample 2 60 [("drive_state", .object [("latitude", .number 2),
          ("longitude", .number 2), ("elevation", .number 20)]),
          ("vehicle_state", .object [("odometer", .number 2)])],
        placeSample 3 80 80 3 30, hubEventSample 4 200 "no_data"]
        defaultOfflineDriveTimeoutMs).toOption.any
      (fun b => b.delta.drives.length = 1 ∧ b.delta.positions.length = 1) := by decide +kernel
  obtain ⟨b, hb, hcheck⟩ := exists_ok_of_any hok
  obtain ⟨hone, hloose⟩ := of_decide_eq_true hcheck
  exact ⟨b, hb, hone, hloose, @drive_rows_recomputed _ _ flatGeodesy _ _ hb (by decide +kernel)⟩

end TeslatlasHub.Lifecycle
