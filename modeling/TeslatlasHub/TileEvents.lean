import TeslatlasHub.TileKernel
import TeslatlasHub.TileSimplify
import TeslatlasHub.RunRules

namespace TeslatlasHub.Tiles

open MeteredWork List

/-! ### The cost of a simplification -/

section Simplify

variable {Point M : Type} [Measure M] [Geometry Point M]

variable (points : List Point)

theorem simplifyControlled_total (tier : LodTier) :
    ∃ r cost, Answers (simplifyControlled points tier) r cost := by
  unfold simplifyControlled
  split
  · exact ⟨points, 0, Answers.pure points⟩
  · exact ⟨_, _, (rdpKeepMask_answers points tier).bind (Answers.pure _)⟩

def simplified (tier : LodTier) : List Point :=
  match simplifyControlled points tier ⟨none, 0⟩ with
  | .ok (kept, _) => kept
  | .error _ => []

def simplifyCost (tier : LodTier) : ℕ :=
  match simplifyControlled points tier ⟨none, 0⟩ with
  | .ok (_, meter) => meter.spent
  | .error _ => 0

theorem simplifyControlled_answers (tier : LodTier) :
    Answers (simplifyControlled points tier) (simplified points tier)
    (simplifyCost points tier) := by
  obtain ⟨r, cost, h⟩ := simplifyControlled_total points tier
  have hfree := h.free 0
  have hr : simplified points tier = r := by
    unfold simplified
    rw [hfree]
  have hcost : simplifyCost points tier = cost := by
    unfold simplifyCost
    rw [hfree]
    exact Nat.zero_add cost
  rw [hr, hcost]
  exact h

end Simplify

inductive Event where
  | points (count : ℕ)
  | segment (tier : Fin 4) (segment : TileSegment)
  | complete (tier : Fin 4)
  deriving DecidableEq

def Kernel.apply (k : Kernel) : Event → Except TileError Kernel
  | .points count => k.countPoints count
  | .segment tier segment => k.visitSegment tier segment
  | .complete tier => k.completeDrive tier

section Events

variable {Point M : Type} [Measure M] [Geometry Point M]

variable (points : List Point)

def tierSegments (tier : Fin 4) : List TileSegment :=
  (validRuns points).flatMap fun run =>
    addDriveMultiZoom (simplified run (longRangeLodTiers tier)) (longRangeLodTiers tier)

def tierEvents (tier : Fin 4) : List Event :=
  (tierSegments points tier).map (.segment tier)++[.complete tier]

def Drive.events (drive : Drive Point) : List Event :=
  .points drive.points.length :: (finRange 4).flatMap (tierEvents drive.points)

def tierCost (tier : Fin 4) : ℕ :=
  ((validRuns points).map fun run => simplifyCost run (longRangeLodTiers tier)).sum

def Drive.cost (drive : Drive Point) : ℕ := ((finRange 4).map (tierCost drive.points)).sum

namespace Kernel

theorem longRangeLodTiers_inRange (tier : Fin 4) :
    ¬((longRangeLodTiers tier).zoomMin < minZoom ∨ maxZoom < (longRangeLodTiers tier).zoomMax ∨
      (longRangeLodTiers tier).zoomMax < (longRangeLodTiers tier).zoomMin) := by
  revert tier
  decide

theorem visitRun_follows (tier : Fin 4) (k : Kernel) (run : List Point) :
    Follows (visitRun tier k run) ((addDriveMultiZoom (simplified run (longRangeLodTiers tier))
    (longRangeLodTiers tier)).foldlM (visitSegment tier) k)
    (simplifyCost run (longRangeLodTiers tier)) := by
  exact Answers.bind_follows (d := 0) (simplifyControlled_answers run (longRangeLodTiers tier))
    (Follows.lift _)

theorem visitTier_draws (points : List Point) (k : Kernel) (tier : Fin 4) :
    Follows (visitTier points k tier) ((tierSegments points tier).foldlM (visitSegment tier)
    k >>= fun k => k.completeDrive tier) (tierCost points tier) := by
  unfold visitTier
  rw [if_neg (longRangeLodTiers_inRange tier)]
  have hruns := Follows.foldlM (visitRun_follows tier) (validRuns points) k
  rw [← RunRules.foldlM_flatMap] at hruns
  exact hruns.bind fun k => Follows.lift (k.completeDrive tier)

theorem visitTier_follows (points : List Point) (k : Kernel) (tier : Fin 4) :
    Follows (visitTier points k tier) ((tierEvents points tier).foldlM apply k)
    (tierCost points tier) := by
  have hplain : (tierEvents points tier).foldlM apply k =
      (tierSegments points tier).foldlM (visitSegment tier) k >>= fun k => k.completeDrive
        tier := by
    unfold tierEvents
    rw [List.foldlM_append, List.foldlM_map]
    refine congrArg _ (funext fun k' => ?_)
    exact bind_pure _
  rw [hplain]
  exact visitTier_draws points k tier

theorem consumeDrive_follows (k : Kernel) (drive : Drive Point) :
    Follows (consumeDrive k drive) (drive.events.foldlM apply k) drive.cost := by
  have htiers (k : Kernel) := Follows.foldlM (visitTier_follows drive.points) (finRange 4) k
  have hdrive := (Follows.lift (k.countPoints drive.points.length)).bind htiers
  rw [Nat.zero_add] at hdrive
  unfold Drive.events
  rw [foldlM_cons]
  simp only [RunRules.foldlM_flatMap]
  exact hdrive

def consumePlain (k : Kernel) (page : List (Drive Point)) : Except TileError Kernel :=
  validateTypedPositionPage page >>= fun _ => (page.flatMap Drive.events).foldlM apply k

def pageCost (page : List (Drive Point)) : ℕ := (page.map Drive.cost).sum

theorem consume_follows (k : Kernel) (page : List (Drive Point)) :
    Follows (consume k page) (consumePlain k page) (pageCost page) := by
  have hdrives := Follows.foldlM consumeDrive_follows page k
  rw [← RunRules.foldlM_flatMap] at hdrives
  have hpage := (Follows.lift (validateTypedPositionPage page)).bind fun _ => hdrives
  rw [Nat.zero_add] at hpage
  exact hpage

theorem visitPages_follows (pages : List (List (Drive Point))) :
    Follows (visitPages pages) (pages.foldlM consumePlain {}) (pages.map pageCost).sum :=
  Follows.foldlM consume_follows pages {}

end Kernel

end Events

section Runs

open Tiles.Geometry

variable {Point M : Type} [Geometry Point M] {points : List Point} {point : Point}

theorem validRuns_append (hpoint : validCoordinate point = false) (before after : List Point) :
    validRuns (before++point :: after) = validRuns before++validRuns after := by
  unfold validRuns
  rw [splitOnP_append_cons before after (by rw [hpoint]; rfl), filter_append]

theorem validRuns_of_valid (h : ∀ point ∈ points, validCoordinate point) :
    validRuns points = if points = [] then [] else [points] := by
  unfold validRuns
  rw [splitOnP_eq_singleton fun point hpoint => by rw [h point hpoint]; rfl]
  cases points <;> rfl

def visitedRuns (run : List Point) : List Point → List (List Point)
  | [] => if run = [] then [] else [run]
  | point :: points =>
    if validCoordinate point then visitedRuns (run++[point]) points
    else (if run = [] then [] else [run])++visitedRuns [] points

/-- The loop over the indices visits the runs of valid coordinates. -/
theorem visitedRuns_eq (points : List Point) {run : List Point}
    (hrun : ∀ point ∈ run, validCoordinate point) :
    visitedRuns run points = validRuns (run++points) := by
  induction points generalizing run with
  | nil =>
    rw [append_nil, validRuns_of_valid hrun]
    rfl
  | cons point points ih =>
    unfold visitedRuns
    split
    · rename_i hvalid
      rw [ih, append_assoc, singleton_append]
      exact forall_mem_append.mpr ⟨hrun, forall_mem_singleton.mpr hvalid⟩
    · rename_i hinvalid
      rw [validRuns_append (Bool.eq_false_of_not_eq_true hinvalid), validRuns_of_valid hrun,
        ih (forall_mem_nil _), nil_append]

/-- A run of valid coordinates that neither neighbour of it continues. -/
structure MaximalRun (points run : List Point) : Prop where
  nonempty : run ≠ []
  valid : ∀ point ∈ run, validCoordinate point
  maximal : ∃ before after, points = before++run++after ∧
    (∀ point ∈ before.getLast?, validCoordinate point = false) ∧
      ∀ point ∈ after.head?, validCoordinate point = false

/-- The runs are maximal and together have every valid point. -/
theorem validRuns_maximal (points : List Point) :
    (∀ run ∈ validRuns points, MaximalRun points run) ∧ (validRuns points).flatten =
    points.filter fun point => validCoordinate point := by
  induction hlength : points.length using Nat.strong_induction_on generalizing points with
  | h n ih =>
    by_cases hvalid : ∀ point ∈ points, validCoordinate point = true
    · rw [validRuns_of_valid hvalid, filter_eq_self.mpr hvalid]
      split
      · rename_i hnil
        exact ⟨fun _ h => (nomatch h), hnil.symm⟩
      · rename_i hsome
        refine ⟨fun run hrun => ?_, append_nil points⟩
        rw [mem_singleton.mp hrun]
        exact ⟨hsome, hvalid, [], [], (append_nil points).symm, fun _ h => (nomatch h), fun _ h =>
          (nomatch h)⟩
    · obtain ⟨point, hmem, hpoint⟩ := not_forall₂.mp hvalid
      have hpoint := Bool.eq_false_of_not_eq_true hpoint
      obtain ⟨before, after, rfl⟩ := append_of_mem hmem
      rw [length_append, length_cons] at hlength
      obtain ⟨hbefore, hkept⟩ := ih before.length (by omega) before rfl
      obtain ⟨hafter, hkept'⟩ := ih after.length (by omega) after rfl
      rw [validRuns_append hpoint]
      refine ⟨fun run hrun => ?_, ?_⟩
      · rcases mem_append.mp hrun with hrun | hrun
        · obtain ⟨hne, hall, pre, post, rfl, hpre, hpost⟩ := hbefore run hrun
          refine ⟨hne, hall, pre, post++point :: after, by simp, hpre, fun p hp => ?_⟩
          cases post with
          | nil => exact Option.some.inj hp ▸ hpoint
          | cons q post => exact hpost p hp
        · obtain ⟨hne, hall, pre, post, rfl, hpre, hpost⟩ := hafter run hrun
          refine ⟨hne, hall, before++point :: pre, post, by simp, fun p hp => ?_, hpost⟩
          rw [getLast?_append, getLast?_cons, Option.some_or, Option.mem_some_iff] at hp
          subst hp
          cases hlast : pre.getLast? with
          | none => exact hpoint
          | some q => exact hpre q hlast
      · rw [flatten_append, hkept, hkept', filter_append, filter_cons_of_neg (by simp [hpoint])]

variable [Measure M]

theorem tierSegments_append (hpoint : validCoordinate point = false) (before after : List Point)
    (tier : Fin 4) :
    tierSegments (before++point :: after) tier = tierSegments before tier++tierSegments after
    tier := by
  unfold tierSegments
  rw [validRuns_append hpoint, flatMap_append]

/-- A drive's segments at a tier are those of its runs of valid coordinates, each drawn as a drive
of its own. -/
theorem tier_draws_each_run_on_its_own (points : List Point) (tier : Fin 4) :
    (∀ k, Follows (Kernel.visitTier points k tier)
      ((tierSegments points tier).foldlM (Kernel.visitSegment tier) k >>= fun k =>
        k.completeDrive tier)
      (tierCost points tier)) ∧
    visitedRuns [] points = validRuns points ∧
    (∀ run ∈ validRuns points, MaximalRun points run) ∧
    (validRuns points).flatten = points.filter (fun point => validCoordinate point) ∧
    tierSegments points tier = (validRuns points).flatMap (fun run => tierSegments run tier) ∧
    (∀ before point after, points = before++point :: after → validCoordinate point = false →
      tierSegments points tier = tierSegments before tier++tierSegments after tier) ∧
    ∀ point, validCoordinate point = false →
      tierSegments (point :: points) tier = tierSegments points tier ∧
      tierSegments (points++[point]) tier = tierSegments points tier ∧
      ∀ before other after, points = before++other :: after → validCoordinate other = false →
        tierSegments (before++point :: other :: after) tier = tierSegments points tier := by
  have hlead {point : Point} (hpoint : validCoordinate point = false) (points : List Point) :
      tierSegments (point :: points) tier = tierSegments points tier := tierSegments_append hpoint
        [] points tier
  obtain ⟨hmaximal, hflatten⟩ := validRuns_maximal points
  refine ⟨fun k => ?_, visitedRuns_eq points (forall_mem_nil _), hmaximal, hflatten, ?_, ?_, ?_⟩
  · exact Kernel.visitTier_draws points k tier
  · refine flatMap_congr fun run hrun => ?_
    have hself : validRuns run = [run] :=
      (validRuns_of_valid (hmaximal run hrun).valid).trans (if_neg (hmaximal run hrun).nonempty)
    unfold tierSegments
    rw [hself, flatMap_singleton]
  · rintro before point after rfl hpoint
    exact tierSegments_append hpoint before after tier
  · intro point hpoint
    refine ⟨hlead hpoint points, ?_, ?_⟩
    · rw [tierSegments_append hpoint points []]
      exact append_nil _
    · rintro before other after rfl hother
      rw [tierSegments_append hpoint before, hlead hother, tierSegments_append hother before]

end Runs

end TeslatlasHub.Tiles
