import TeslatlasHub.MeteredWork

namespace TeslatlasHub.Tiles

open MeteredWork List

inductive TileError where
  | pageDrives (count : ℕ) | pageSizeOverflow | pageBytes
  | pointCountRange | pointCountOverflow
  | tierRange | rdpLimit
  | coordinateRange | tileLimit (count : ℕ) | rawWeightLimit | uniqueSegmentLimit | weightOverflow
  | driveCountOverflow | driveCountsDiverged | drivePagesChanged
  | payloadSizeOverflow | payloadLimit | driveCountRange | outputCountRange | tileCountRange
      | blobShape
  | blobRange
  deriving DecidableEq

abbrev U32 := Fin (2^32)

instance u32_neZero : NeZero (2^32) := ⟨by decide⟩

class Measure (M : Type) where
  literal : ℚ → M
  add : M → M → M
  half : M → M
  exceeds : M → M → Bool
  reaches : M → M → Bool
  zero_within : ∀ q, 0 ≤ q → exceeds (literal 0) (literal q) = false

structure Crossing where
  (tileX tileY : U32)
  (start stop : ℤ × ℤ)
  deriving DecidableEq

class Geometry (Point : Type) (M : outParam Type) extends Inhabited Point where
  validCoordinate : Point → Bool
  samePoint : Point → Point → Bool
  distanceMeters : Point → Point → M
  perpendicularDistance : Point → Point → Point → M
  renderableSegment : Point → Point → Bool
  projectedSegment : U32 → Point → Point → List Crossing

structure LodTier where
  (zoomMin zoomMax : ℕ)
  (epsilonMeters maxSegmentMeters curveGuardMeters : ℚ)
  epsilon_nonneg : 0 ≤ epsilonMeters

def minZoom : ℕ := 2
def maxZoom : ℕ := 13

structure TileSegment where
  (zoom tileX tileY : U32)
  (start stop : ℤ × ℤ)
  deriving DecidableEq

section Simplify

variable {Point M : Type} [Measure M] [Geometry Point M]

open Tiles.Geometry Tiles.Measure

abbrev Inside (start last : ℕ) := { index : ℕ // start < index ∧ index < last }

structure Farthest (M : Type) [Measure M] (start last : ℕ) where
  maxDistance : M
  split : ℕ
  inside : maxDistance = literal 0 ∨ start < split ∧ split < last

def farthest (points : List Point) (start last index : ℕ) (hstart : start < index)
    (found : Farthest M start last) : MeterM TileError (Farthest M start last) :=
  if hlast : index < last then do
    charge .rdpLimit
    let distance := perpendicularDistance (points.getD index default) (points.getD start default)
      (points.getD last default)
    let found := if exceeds distance found.maxDistance then
        ⟨distance, index, .inr ⟨hstart, hlast⟩⟩ else found
    farthest points start last (index+1) (by omega) found
  else pure found
termination_by last-index

def stackWork (stack : List (ℕ × ℕ)) : ℕ := (stack.map fun range => 2*(range.2-range.1-1)+1).sum

theorem stackWork_pop (range : ℕ × ℕ) (stack : List (ℕ × ℕ)) :
    stackWork stack < stackWork (range :: stack) := by
  simp only [stackWork, map_cons, sum_cons]
  omega

theorem stackWork_split {start split last : ℕ} (hstart : start < split) (hlast : split < last)
    (stack : List (ℕ × ℕ)) :
    stackWork ((split, last) :: (start, split) :: stack) < stackWork ((start, last) :: stack) := by
  simp only [stackWork, map_cons, sum_cons]
  omega

theorem stackWork_swap (a b : ℕ × ℕ) (stack : List (ℕ × ℕ)) :
    stackWork (a :: b :: stack) = stackWork (b :: a :: stack) := by
  simp only [stackWork, map_cons, sum_cons]
  omega

theorem Farthest.split_inside {start last : ℕ} (found : Farthest M start last) {tier : LodTier}
    (h : exceeds found.maxDistance (literal tier.epsilonMeters)) :
    start < found.split ∧ found.split < last := by
  refine found.inside.resolve_left fun hzero => ?_
  rw [hzero, zero_within _ tier.epsilon_nonneg] at h
  cases h

def rdpLoop (points : List Point) (tier : LodTier) (stack : List (ℕ × ℕ)) (keep : List Bool) :
    MeterM TileError (List Bool) :=
  match stack with
  | [] => pure keep
  | (start, last) :: stack =>
    if last-start ≤ 1 then rdpLoop points tier stack keep
    else do
      let found ← farthest points start last (start+1) (Nat.lt_succ_self start)
        ⟨literal 0, start, .inl rfl⟩
      if _hfar : exceeds found.maxDistance (literal tier.epsilonMeters) then
        rdpLoop points tier ((found.split, last) :: (start, found.split) :: stack)
          (keep.set found.split true)
      else rdpLoop points tier stack keep
termination_by stackWork stack
decreasing_by
  · exact stackWork_pop _ _
  · exact stackWork_split (found.split_inside _hfar).1 (found.split_inside _hfar).2 stack
  · exact stackWork_pop _ _

def rdpKeepMask (points : List Point) (tier : LodTier) : MeterM TileError (List Bool) :=
  if points.length ≤ 2 then pure (replicate points.length true)
  else
    rdpLoop points tier [(0, points.length-1)]
      (((replicate points.length false).set 0 true).set (points.length-1) true)

structure GuardScan (M : Type) (start last : ℕ) where
  (pathLength maxPerpendicular : M)
  curveSplit : Option (Inside start last)

def guardScan (points : List Point) (start last index : ℕ) (hstart : start < index)
    (scan : GuardScan M start last) : GuardScan M start last :=
  if hlast : index < last then
    let perpendicular := perpendicularDistance (points.getD index default)
        (points.getD start default)
      (points.getD last default)
    let pathLength := add scan.pathLength
      (distanceMeters (points.getD (index-1) default) (points.getD index default))
    let scan : GuardScan M start last := if exceeds perpendicular scan.maxPerpendicular then
        ⟨pathLength, perpendicular, some ⟨index, hstart, hlast⟩⟩ else { scan with pathLength }
    guardScan points start last (index+1) (by omega) scan
  else scan
termination_by last-index

def walkHalf (points : List Point) (start last : ℕ) (target : M) (index : ℕ)
    (hstart : start < index)
    (walked : M) : Option (Inside start last) :=
  if hlast : index < last then
    let walked := add walked (distanceMeters (points.getD (index-1) default)
        (points.getD index default))
    if reaches walked target then some ⟨index, hstart, hlast⟩
    else walkHalf points start last target (index+1) (by omega) walked
  else none
termination_by last-index

def midpointByPathLength (points : List Point) (start last : ℕ) (pathLength : M) :
    Option (Inside start last) :=
  if h : last ≤ start+1 then none
  else (walkHalf points start last (half pathLength) (start+1) (Nat.lt_succ_self start)
    (literal 0)).or
    (some ⟨start+max ((last-start)/2) 1, by omega⟩)

def appendGuarded (points : List Point) (tier : LodTier) (stack : List (ℕ × ℕ))
    (output : List Point) :
    List Point :=
  match stack with
  | [] => output
  | (start, last) :: stack =>
    if last ≤ start then appendGuarded points tier stack output
    else
      let scan := guardScan points start last (start+1) (Nat.lt_succ_self start)
        ⟨literal 0, literal 0, none⟩
      let pathLength := add scan.pathLength
        (distanceMeters (points.getD (last-1) default) (points.getD last default))
      let tooLong := exceeds pathLength (literal tier.maxSegmentMeters)
      let tooCurvy := decide (0 < tier.curveGuardMeters) &&
        exceeds scan.maxPerpendicular (literal tier.curveGuardMeters)
      let midpoint := midpointByPathLength points start last pathLength
      let chosen : Option (Inside start last) :=
        if tooLong || tooCurvy then
          if tooCurvy then scan.curveSplit.or midpoint else midpoint.or scan.curveSplit
        else none
      match chosen with
      | some split =>
        appendGuarded points tier ((start, split.1) :: (split.1, last) :: stack) output
      | none =>
        let stop := points.getD last default
        let repeated := output.getLast?.any fun point => samePoint point stop
        appendGuarded points tier stack (if repeated then output else output++[stop])
termination_by stackWork stack
decreasing_by
  · exact stackWork_pop _ _
  · rw [stackWork_swap]
    exact stackWork_split split.2.1 split.2.2 stack
  · exact stackWork_pop _ _

def keptIndices (keep : List Bool) : List ℕ :=
  (keep.zipIdx.filter fun entry => entry.1).map fun entry => entry.2

def guardKept (points : List Point) (tier : LodTier) (kept : List ℕ) : List Point :=
  if kept.length ≤ 1 ∨ tier.maxSegmentMeters ≤ 0 then kept.map fun index => points.getD index
    default
  else
    (kept.zip kept.tail).foldl (fun output range => appendGuarded points tier [range] output)
      [points.getD (kept.headD 0) default]

def simplifyControlled (points : List Point) (tier : LodTier) : MeterM TileError (List Point) :=
  if points.length ≤ 2 then pure points
  else do
    let keep ← rdpKeepMask points tier
    return guardKept points tier (keptIndices keep)

end Simplify

section Raster

variable {Point M : Type} [Measure M] [Geometry Point M]

open Tiles.Geometry

def addProjectedDrive (zoom : U32) : Option Point → List (Option Point) → List TileSegment
  | _, [] => []
  | _, none :: points => addProjectedDrive zoom none points
  | none, some point :: points => addProjectedDrive zoom (some point) points
  | some start, some point :: points =>
    let crossings := if renderableSegment start point then projectedSegment zoom start point else []
    crossings.map (fun c =>
      { zoom, tileX := c.tileX, tileY := c.tileY, start := c.start, stop := c.stop : TileSegment })
        ++
      addProjectedDrive zoom (some point) points

def addDriveMultiZoom (points : List Point) (tier : LodTier) : List TileSegment :=
  if points.length < 2 then []
  else
    let projected := points.map fun point => if validCoordinate point then some point else none
    (range' tier.zoomMin (tier.zoomMax+1-tier.zoomMin)).flatMap fun zoom =>
      addProjectedDrive (Fin.ofNat (2^32) zoom) none projected

def validRuns (points : List Point) : List (List Point) :=
  (points.splitOnP fun point => !validCoordinate point).filter fun run => !run.isEmpty

end Raster

end TeslatlasHub.Tiles
