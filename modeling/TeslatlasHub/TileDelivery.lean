import TeslatlasHub.TileAccumulation

namespace TeslatlasHub.Tiles

open MeteredWork List Kernel RunRules

/-! ### A geometry to run the kernel on -/

structure GridPoint where
  (x y : ℤ)
  deriving DecidableEq, Inhabited

instance : Measure ℚ where
  literal := id
  add := (·+·)
  half := (·/2)
  exceeds a b := decide (b < a)
  reaches a b := decide (b ≤ a)
  zero_within _ hq := decide_eq_false (not_lt.mpr hq)

instance : Geometry GridPoint ℚ where
  validCoordinate _ := true
  samePoint a b := decide (a = b)
  distanceMeters a b := |b.x-a.x|+|b.y-a.y|
  perpendicularDistance p a b := |(b.x-a.x)*(p.y-a.y)-(b.y-a.y)*(p.x-a.x)|
  renderableSegment a b := decide (a ≠ b)
  projectedSegment _ a b := [⟨0, 0, (a.x, a.y), (b.x, b.y)⟩]

section Pages

variable {Point M : Type} [Measure M] [Geometry Point M]

def driveBytes (page : List (Drive Point)) : ℕ :=
  (page.map fun drive => positionDriveHeaderBytes+drive.points.length*positionPointBytes).sum

def FitsPage (page : List (Drive Point)) : Prop :=
  page.length ≤ maxPositionDrivesPerPage ∧ positionPageHeaderBytes+driveBytes page ≤
    maxPositionPageBytes

variable {page : List (Drive Point)} {expected limit : Option ℕ} {output : TileOutput}

theorem pageBytes_eq_ok {bytes : ℕ} :
    pageBytes page = .ok bytes ↔ bytes = positionPageHeaderBytes+driveBytes page ∧
    bytes ≤ maxUsize := by
  refine foldlM_checkedSum (e := TileError.pageSizeOverflow) (fun total drive => ?_) page
    (by decide)
  rw [← Nat.add_assoc]
  refine ite_congr (propext ⟨fun h => h.2, fun h => ⟨?_, h⟩⟩) (fun _ => rfl) fun _ => rfl
  exact (Nat.le_add_left _ _).trans h

theorem validateTypedPositionPage_ok : validateTypedPositionPage page = .ok () ↔ FitsPage page := by
  unfold validateTypedPositionPage FitsPage
  have hbound : maxPositionPageBytes ≤ maxUsize := by decide
  split
  · exact ⟨fun h => (nomatch h), fun h => by omega⟩
  rw [bind_eq_ok]
  constructor
  · rintro ⟨bytes, hbytes, h⟩
    have := pageBytes_eq_ok.mp hbytes
    split at h
    · cases h
    · omega
  · rintro ⟨-, hbytes⟩
    refine ⟨_, pageBytes_eq_ok.mpr ⟨rfl, hbytes.trans hbound⟩, ?_⟩
    rw [if_neg (by omega)]

variable {pages : List (List (Drive Point))} {k : Kernel}

namespace Kernel

theorem foldlM_consumePlain (hfit : ∀ page ∈ pages, FitsPage page)
    (k : Kernel) :
    pages.foldlM consumePlain k = (pages.flatten.flatMap Drive.events).foldlM apply k := by
  induction pages generalizing k with
  | nil => rfl
  | cons page pages ih =>
    have hpage := validateTypedPositionPage_ok.mpr (hfit page mem_cons_self)
    have hrest (k : Kernel) := ih (fun page' hmem => hfit page' (mem_cons_of_mem page hmem)) k
    rw [foldlM_cons, flatten_cons, flatMap_append, foldlM_append]
    unfold consumePlain
    rw [hpage]
    exact congrArg _ (funext hrest)

theorem fitsPage_of_consumePlain {k' : Kernel}
    (h : pages.foldlM consumePlain k = .ok k') : ∀ page ∈ pages, FitsPage page := by
  induction pages generalizing k with
  | nil => exact fun _ hmem => (nomatch hmem)
  | cons page pages ih =>
    obtain ⟨mid, hmid, h⟩ := bind_eq_ok.mp h
    obtain ⟨_, hpage, _⟩ := bind_eq_ok.mp hmid
    intro page' hmem
    rcases mem_cons.mp hmem with rfl | hmem
    · exact validateTypedPositionPage_ok.mp hpage
    · exact ih h page' hmem

end Kernel

theorem generateInternal_eq_ok : generateInternal expected limit pages = .ok output ↔
      (∃ k, pages.foldlM consumePlain {} = .ok k ∧ k.finish expected = .ok output) ∧
        ∀ n, limit = some n → (pages.map pageCost).sum ≤ n := by
  have hfollows := (visitPages_follows pages).returns_iff limit
  unfold generateInternal
  rw [bind_eq_ok]
  constructor
  · rintro ⟨⟨k, meter⟩, hvisit, hfinish⟩
    obtain ⟨hk, hcost⟩ := (hfollows k).mp ⟨meter, hvisit⟩
    exact ⟨⟨k, hk, hfinish⟩, hcost⟩
  · rintro ⟨⟨k, hk, hfinish⟩, hcost⟩
    obtain ⟨meter, hvisit⟩ := (hfollows k).mpr ⟨hk, hcost⟩
    exact ⟨(k, meter), hvisit, hfinish⟩

theorem sum_pageCost (pages : List (List (Drive Point))) :
    (pages.map pageCost).sum = (pages.flatten.map Drive.cost).sum := by
  rw [map_flatten, sum_flatten, map_map]
  rfl

theorem generateInternal_of_perm {pages' : List (List (Drive Point))}
    (hfit : ∀ page ∈ pages, FitsPage page) (hfit' : ∀ page ∈ pages', FitsPage page)
    (hperm : pages.flatten.Perm pages'.flatten)
    (h : generateInternal expected limit pages = .ok output) :
    generateInternal expected limit pages' = .ok output := by
  obtain ⟨⟨k, hk, hfinish⟩, hcost⟩ := generateInternal_eq_ok.mp h
  refine generateInternal_eq_ok.mpr ⟨⟨k, ?_, hfinish⟩, fun n hn => ?_⟩
  · rw [foldlM_consumePlain hfit] at hk
    rw [foldlM_consumePlain hfit']
    exact accumulate_perm (hperm.flatMap_right _) hk
  · rw [sum_pageCost, ← (hperm.map Drive.cost).sum_nat, ← sum_pageCost]
    exact hcost n hn

theorem count_complete_tierEvents (points : List Point) (tier tier' : Fin 4) :
    (tierEvents points tier').count (.complete tier) = if tier' = tier then 1 else 0 := by
  unfold tierEvents
  have hsegments : ((tierSegments points tier').map (Event.segment tier')).count (.complete tier) =
      0 := by
    refine count_eq_zero_of_not_mem fun hmem => ?_
    obtain ⟨_, _, hc⟩ := mem_map.mp hmem
    cases hc
  rw [count_append, hsegments, Nat.zero_add, count_singleton]
  simp only [beq_iff_eq, Event.complete.injEq]

theorem count_complete_events (drive : Drive Point) (tier : Fin 4) :
    drive.events.count (.complete tier) = 1 := by
  unfold Drive.events
  rw [count_complete_points, count_flatMap]
  have htiers : count (.complete tier) ∘ tierEvents drive.points =
      fun tier' => if tier' = tier then 1 else 0 :=
    funext (count_complete_tierEvents drive.points tier)
  rw [htiers]
  clear htiers
  revert tier
  decide

theorem driveCount_eq (hfit : ∀ page ∈ pages, FitsPage page)
    (h : pages.foldlM consumePlain {} = .ok k) (tier : Fin 4) :
    (k.accumulators tier).driveCount = pages.flatten.length := by
  rw [foldlM_consumePlain hfit] at h
  have hcount : count (.complete tier) ∘ Drive.events = fun _ : Drive Point => 1 :=
    funext fun drive => count_complete_events drive tier
  rw [(Merged.of_run h).driveCount, count_flatMap, hcount, map_const', sum_replicate_nat,
    Nat.mul_one]

theorem finish_expected (count : ℕ) (hcount : (k.accumulators 0).driveCount = count) :
    k.finish (some count) = k.finish none := by
  unfold finish
  dsimp only
  rw [hcount, Option.any_some, bne_self_eq_false, Option.any_none]

/-- However the drives are ordered and grouped into pages, the generation succeeds alike and gives
the same output. -/
theorem generation_ignores_order_and_grouping {pages pages' : List (List (Drive Point))}
    (hfit : ∀ page ∈ pages, FitsPage page) (hfit' : ∀ page ∈ pages', FitsPage page)
    (hperm : pages.flatten.Perm pages'.flatten) :
    (∀ expected limit output, generateInternal expected limit pages = .ok output ↔
      generateInternal expected limit pages' = .ok output) ∧
    ∀ drives, FitsPage drives → drives.Perm pages.flatten → ∀ output,
      generateTilePayloadV1 drives = .ok output ↔
        generateTilePayloadV1FromPages pages = .ok output := by
  refine ⟨fun expected limit output => ⟨fun h => generateInternal_of_perm hfit hfit' hperm h,
    fun h =>
    generateInternal_of_perm hfit' hfit hperm.symm h⟩, fun drives hpage hdrives output => ?_⟩
  have hone : ∀ page ∈ [drives], FitsPage page := by
    intro page hmem
    rw [mem_singleton.mp hmem]
    exact hpage
  have hflat : [drives].flatten.Perm pages.flatten := by
    rw [flatten_singleton]
    exact hdrives
  -- the count that one page is checked against is the number of its drives
  have hexpected : generateTilePayloadV1 drives = .ok output ↔ generateInternal none none [drives] =
      .ok output := by
    unfold generateTilePayloadV1
    rw [generateInternal_eq_ok, generateInternal_eq_ok]
    refine and_congr_left fun _ => exists_congr fun k => and_congr_right fun hk => ?_
    have hcount := driveCount_eq hone hk 0
    rw [flatten_singleton] at hcount
    rw [finish_expected _ hcount]
  rw [hexpected]
  exact ⟨fun h => generateInternal_of_perm hone hfit hflat h, fun h =>
    generateInternal_of_perm hfit hone hflat.symm h⟩

def gridDrives : List (Drive GridPoint) := [⟨1, [⟨0, 0⟩, ⟨9, 2⟩, ⟨40, 0⟩]⟩, ⟨2, [⟨7, 7⟩, ⟨7, 90⟩]⟩]

def gridPages : List (List (Drive GridPoint)) := gridDrives.map fun drive => [drive]

def gridPagesReversed : List (List (Drive GridPoint)) := [[], gridDrives.reverse]

theorem gridPages_fit : FitsPage gridDrives ∧ (∀ page ∈ gridPages, FitsPage page) ∧
    ∀ page ∈ gridPagesReversed, FitsPage page := by
  unfold FitsPage
  decide

theorem gridPages_perm : gridPages.flatten.Perm gridPagesReversed.flatten :=
  (reverse_perm gridDrives).symm

theorem generation_ignores_order_and_grouping_grid :
    (∀ output, generateTilePayloadV1FromPages gridPages = .ok output ↔
      generateTilePayloadV1FromPages gridPagesReversed = .ok output) ∧
    ∀ output, generateTilePayloadV1 gridDrives = .ok output ↔
      generateTilePayloadV1FromPages gridPages = .ok output := by
  have h := generation_ignores_order_and_grouping gridPages_fit.2.1 gridPages_fit.2.2 gridPages_perm
  exact ⟨h.1 none none, h.2 gridDrives gridPages_fit.1 (List.Perm.refl gridDrives)⟩

theorem rdpEvaluations_eq (h : pages.foldlM consumePlain {} = .ok k) :
    rdpEvaluations pages = (pages.map pageCost).sum := by
  unfold rdpEvaluations
  rw [(visitPages_follows pages).spent h]

/-- A limited run succeeds with the same output when the run without a limit takes no more than the
limit. -/
theorem limited_generation_succeeds_within_its_limit (pages : List (List (Drive Point)))
    (limit : ℕ) :
    (∀ expected output, generateInternal expected (some limit) pages = .ok output ↔
      generateInternal expected none pages = .ok output ∧ rdpEvaluations pages ≤ limit) ∧
    ∀ pages', (∀ page ∈ pages, FitsPage page) → (∀ page ∈ pages', FitsPage page) →
      pages.flatten.Perm pages'.flatten → ∀ expected output,
        generateInternal expected (some limit) pages = .ok output ↔
          generateInternal expected (some limit) pages' = .ok output := by
  refine ⟨fun expected output => ?_, fun pages' hfit hfit' hperm expected output =>
    ⟨fun h => generateInternal_of_perm hfit hfit' hperm h, fun h =>
      generateInternal_of_perm hfit' hfit hperm.symm h⟩⟩
  rw [generateInternal_eq_ok, generateInternal_eq_ok]
  constructor
  · rintro ⟨⟨k, hk, hfinish⟩, hcost⟩
    refine ⟨⟨⟨k, hk, hfinish⟩, fun _ hc => (nomatch hc)⟩, ?_⟩
    rw [rdpEvaluations_eq hk]
    exact hcost limit rfl
  · rintro ⟨⟨⟨k, hk, hfinish⟩, -⟩, hle⟩
    rw [rdpEvaluations_eq hk] at hle
    exact ⟨⟨k, hk, hfinish⟩, fun n hn => Option.some.inj hn ▸ hle⟩

/-- The drives on the grid take four evaluations, one in each tier. -/
theorem limited_generation_succeeds_within_its_limit_grid :
    (∀ output, generateTilePayloadV1FromPagesWithRdpLimit gridPages 4 = .ok output ↔
      generateTilePayloadV1FromPages gridPages = .ok output) ∧
    (∀ output, generateTilePayloadV1FromPagesWithRdpLimit gridPages 3 ≠ .ok output) ∧
    ∀ output, generateTilePayloadV1FromPagesWithRdpLimit gridPages 4 = .ok output ↔
      generateTilePayloadV1FromPagesWithRdpLimit gridPagesReversed 4 = .ok output := by
  have hfour : rdpEvaluations gridPages = 4 := by decide +kernel
  have h (limit : ℕ) := limited_generation_succeeds_within_its_limit gridPages limit
  refine ⟨fun output => ?_, fun output hc => ?_,
    (h 4).2 gridPagesReversed gridPages_fit.2.1 gridPages_fit.2.2 gridPages_perm none⟩
  · refine ((h 4).1 none output).trans ⟨fun hs => hs.1, fun hs => ⟨hs, hfour.le⟩⟩
  · have hle := (((h 3).1 none output).mp hc).2
    omega

theorem visitPages_eq_ok {meter : Meter} :
    visitPages pages ⟨none, 0⟩ = .ok (k, meter) ↔ (∀ page ∈ pages, FitsPage page) ∧
    (pages.flatten.flatMap Drive.events).foldlM apply {} = .ok k ∧
    meter = ⟨none, (pages.map pageCost).sum⟩ := by
  have hfollows := visitPages_follows pages
  constructor
  · intro h
    obtain ⟨hplain, -⟩ := (hfollows.returns_iff none k).mp ⟨meter, h⟩
    have hfit := fitsPage_of_consumePlain hplain
    have hspent := h.symm.trans (hfollows.spent hplain)
    rw [foldlM_consumePlain hfit] at hplain
    exact ⟨hfit, hplain, by simpa using hspent⟩
  · rintro ⟨hfit, hk, rfl⟩
    exact hfollows.spent ((foldlM_consumePlain hfit {}).trans hk)

theorem Merged.weight_getD {events : List Event} (h : Merged events k) (hit : Hit) :
    (k.weight? hit).getD 0 = (hits events).count hit := by
  rw [h.weight]
  split_ifs with hmem
  · rfl
  · exact (count_eq_zero_of_not_mem hmem).symm

/-- Pages are accepted exactly when each fits and their totals fit. With a whole each part is
accepted, and the weights, points and work of the parts add up to those of the whole. -/
theorem accumulation_adds_up (pages : List (List (Drive Point))) :
    ((∃ r, visitPages pages ⟨none, 0⟩ = .ok r) ↔
      (∀ page ∈ pages, FitsPage page) ∧ Fits (pages.flatten.flatMap Drive.events)) ∧
    ∀ others k meter, visitPages (pages++others) ⟨none, 0⟩ = .ok (k, meter) →
      ∃ k₁ k₂ work₁ work₂, visitPages pages ⟨none, 0⟩ = .ok (k₁, ⟨none, work₁⟩) ∧
        visitPages others ⟨none, 0⟩ = .ok (k₂, ⟨none, work₂⟩) ∧ meter = ⟨none, work₁+work₂⟩ ∧
        (∀ hit, (k.weight? hit).getD 0 = (k₁.weight? hit).getD 0+(k₂.weight? hit).getD 0) ∧
        k.inputPointCount = k₁.inputPointCount+k₂.inputPointCount := by
  refine ⟨⟨?_, ?_⟩, fun others k meter h => ?_⟩
  · rintro ⟨⟨k, meter⟩, h⟩
    obtain ⟨hfit, hk, -⟩ := visitPages_eq_ok.mp h
    exact ⟨hfit, accumulates_iff.mp ⟨k, hk⟩⟩
  · rintro ⟨hfit, hfits⟩
    obtain ⟨k, hk⟩ := accumulates_iff.mpr hfits
    exact ⟨_, visitPages_eq_ok.mpr ⟨hfit, hk, rfl⟩⟩
  · obtain ⟨hfit, hk, rfl⟩ := visitPages_eq_ok.mp h
    rw [flatten_append, flatMap_append] at hk
    have hfits := accumulates_iff.mp ⟨k, hk⟩
    -- each part fits because the whole does
    obtain ⟨k₁, hk₁⟩ := accumulates_iff.mpr (hfits.perm perm_append_comm).of_append
    obtain ⟨k₂, hk₂⟩ := accumulates_iff.mpr hfits.of_append
    have hm := Merged.of_run hk
    have hm₁ := Merged.of_run hk₁
    have hm₂ := Merged.of_run hk₂
    refine ⟨k₁, k₂, _, _, visitPages_eq_ok.mpr ⟨fun page hp => hfit page (mem_append_left _ hp),
      hk₁, rfl⟩, visitPages_eq_ok.mpr ⟨fun page hp => hfit page (mem_append_right _ hp), hk₂, rfl⟩,
        ?_, ?_, ?_⟩
    · rw [map_append, sum_append]
    · intro hit
      rw [hm.weight_getD, hm₁.weight_getD, hm₂.weight_getD, hits, filterMap_append, count_append]
      rfl
    · rw [hm.points, hm₁.points, hm₂.points, map_append, sum_append]

end Pages

section Visitor

variable {Point M ε : Type} [Measure M] [Geometry Point M]

structure Live (ε : Type) where
  kernel : Kernel := {}
  meter : Meter
  answers : List (Option ε) := []

abbrev LiveM (ε : Type) := ExceptT ε (StateM (Live ε))

def checkpoint : LiveM ε Unit := do
  let live ← get
  set { live with answers := live.answers.tail }
  (live.answers.headD none).elim (pure ()) throw

variable (report : TileError → ε)

def inKernel (step : Kernel → Except TileError Unit × Kernel) : LiveM ε Unit := do
  let live ← get
  set { live with kernel := (step live.kernel).2 }
  ExceptT.mk (pure ((step live.kernel).1.mapError report))

def allOrNothing (step : Kernel → Except TileError Kernel) : LiveM ε Unit :=
  inKernel report fun k => ((step k).map fun _ => (), (step k).toOption.getD k)

def simplifyInPlace (run : List Point) (tier : LodTier) : LiveM ε (List Point) := do
  let live ← get
  match simplifyControlled run tier live.meter with
  | .ok (kept, meter) =>
    set { live with meter }
    return kept
  | .error error =>
    set { live with meter := { live.meter with remaining := live.meter.remaining.map fun _ => 0 } }
    throw (report error)

def consumeInPlace (page : List (Drive Point)) : LiveM ε Unit := do
  checkpoint
  allOrNothing report fun k => (Kernel.validateTypedPositionPage page).map fun _ => k
  for drive in page do
    checkpoint
    allOrNothing report (Kernel.countPoints drive.points.length)
    for tier in finRange 4 do
      checkpoint
      for run in validRuns drive.points do
        checkpoint
        let kept ← simplifyInPlace report run (longRangeLodTiers tier)
        for segment in addDriveMultiZoom kept (longRangeLodTiers tier) do
          checkpoint
          inKernel report (Kernel.mergeSegment tier · segment)
      allOrNothing report (Kernel.completeDrive tier)

inductive Visitor (Page ε : Type) where
  | returns (result : Except ε Unit)
  | delivers (page : Page) (next : Except ε Unit → Visitor Page ε)

structure Consumer (ε : Type) where
  live : Live ε
  firstConsumerError : Option ε := none

def Consumer.consume (page : List (Drive Point)) (c : Consumer ε) : Except ε Unit × Consumer ε :=
  match c.firstConsumerError with
  | some error => (.error error, c)
  | none =>
    match (consumeInPlace report page).run.run c.live with
    | (.ok _, live) => (.ok (), ⟨live, none⟩)
    | (.error error, live) => (.error error, ⟨live, some error⟩)

def Visitor.run : Visitor (List (Drive Point)) ε → Consumer ε →
    List (Except ε Unit × Consumer ε) × Except ε Unit × Consumer ε
  | .returns result, c => ([], result, c)
  | .delivers page next, c =>
    let consumed := c.consume report page
    let rest := (next consumed.1).run consumed.2
    (consumed :: rest.1, rest.2)

def opening (rdpEvaluationLimit : Option ℕ) (answers : List (Option ε)) : Except ε Unit × Live ε :=
  checkpoint.run.run { meter := ⟨rdpEvaluationLimit, 0⟩, answers }

def generateVisited (expectedDriveCount rdpEvaluationLimit : Option ℕ) (answers : List (Option ε))
    (visitor : Visitor (List (Drive Point)) ε) : Except ε TileOutput := do
  (opening rdpEvaluationLimit answers).1
  let (_, visitorResult, c) := visitor.run report ⟨(opening rdpEvaluationLimit answers).2, none⟩
  match c.firstConsumerError with
  | some error => .error error
  | none =>
    visitorResult
    (checkpoint.run.run c.live).1
    (c.live.kernel.finish expectedDriveCount).mapError report

variable {c : Consumer ε}

/-- After an error every delivery returns that error and the consumer stays. -/
theorem Visitor.run_latched (visitor : Visitor (List (Drive Point)) ε) {error : ε}
    (h : c.firstConsumerError = some error) :
    (visitor.run report c).2.2 = c ∧ ∃ n, (visitor.run report c).1 = replicate n (.error error,
    c) := by
  induction visitor with
  | returns result => exact ⟨rfl, 0, rfl⟩
  | delivers page next ih =>
    have hconsumed : c.consume report page = (.error error, c) := by
      unfold Consumer.consume
      rw [h]
    obtain ⟨hend, n, htrace⟩ := ih (.error error)
    unfold Visitor.run
    dsimp only
    rw [hconsumed]
    exact ⟨hend, n+1, congrArg (cons _) htrace⟩

theorem Visitor.run_from (visitor : Visitor (List (Drive Point)) ε)
    (h : c.firstConsumerError = none) :
    let visited := visitor.run report c
    let failed := visited.1.dropWhile fun delivery => delivery.1.isOk
    failed = [] ∧ visited.2.2.firstConsumerError = none ∨
      ∃ error n, failed = replicate (n+1) (.error error, visited.2.2) ∧
        visited.2.2.firstConsumerError = some error := by
  induction visitor generalizing c with
  | returns result => exact .inl ⟨rfl, h⟩
  | delivers page next ih =>
    have hconsumed : (∃ live, c.consume report page = (.ok (), ⟨live, none⟩)) ∨
        ∃ error live, c.consume report page = (.error error, ⟨live, some error⟩) := by
      unfold Consumer.consume
      rw [h]
      dsimp only
      split
      · exact .inl ⟨_, rfl⟩
      · exact .inr ⟨_, _, rfl⟩
    unfold Visitor.run
    dsimp only
    rcases hconsumed with ⟨live, hconsumed⟩ | ⟨error, live, hconsumed⟩
    · rw [hconsumed]
      exact ih (.ok ()) rfl
    · obtain ⟨hend, n, htrace⟩ := (next (.error error)).run_latched report (c := ⟨live, some error⟩)
          rfl
      rw [hconsumed]
      dsimp only
      rw [hend]
      exact .inr ⟨error, n, congrArg (cons _) htrace, rfl⟩

/-- No page after the consumer's first error changes anything, and the generation ends with that
error. -/
theorem visit_ends_with_the_first_consumer_error (expectedDriveCount rdpEvaluationLimit : Option ℕ)
    (answers : List (Option ε)) (visitor : Visitor (List (Drive Point)) ε) :
    let visited := visitor.run report ⟨(opening rdpEvaluationLimit answers).2, none⟩
    let failed := visited.1.dropWhile fun delivery => delivery.1.isOk
    failed = [] ∨ ∃ error n, failed = replicate (n+1) (.error error, visited.2.2) ∧
      generateVisited report expectedDriveCount rdpEvaluationLimit answers visitor =
        (opening rdpEvaluationLimit answers).1 >>= fun _ => .error error := by
  intro visited failed
  rcases visitor.run_from report (c := ⟨(opening rdpEvaluationLimit answers).2, none⟩) rfl with
    ⟨hnone, _⟩ | ⟨error, n, hfailed, herror⟩
  · exact .inl hnone
  · refine .inr ⟨error, n, hfailed, ?_⟩
    unfold generateVisited
    dsimp only
    rw [herror]

end Visitor

end TeslatlasHub.Tiles
