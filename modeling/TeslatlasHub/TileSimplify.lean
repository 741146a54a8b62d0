import TeslatlasHub.TileRaster

/-! What the two work stacks of the polyline simplification compute. -/
namespace TeslatlasHub.Tiles

open MeteredWork List Tiles.Geometry Tiles.Measure

variable {Point M : Type} [Measure M] [Geometry Point M] (points : List Point) (tier : LodTier)
  {start last : ℕ}

/-! ### The recursive definition -/

def farther (start last : ℕ) (found : M × ℕ) (index : ℕ) : M × ℕ :=
  let distance := perpendicularDistance (points.getD index default) (points.getD start default)
    (points.getD last default)
  if exceeds distance found.1 then (distance, index) else found

def farthestPoint (start last : ℕ) : M × ℕ :=
  (range' (start+1) (last-(start+1))).foldl (farther points start last) (literal 0, start)

theorem farthest_answers (index : ℕ) (hstart : start < index) (found : Farthest M start last) :
    ∃ r, Answers (farthest points start last index hstart found) r (last-index) ∧
    (range' index (last-index)).foldl (farther points start last) (found.maxDistance, found.split) =
    (r.maxDistance, r.split) := by
  -- on the number of points that are left
  induction hleft : last-index generalizing index found with
  | zero =>
    rw [farthest, dif_neg (by omega)]
    exact ⟨found, Answers.pure found, rfl⟩
  | succ left ih =>
    rw [farthest, dif_pos (by omega)]
    obtain ⟨r, hrest, hfold⟩ := ih (index+1) (by omega) _ (by omega)
    refine ⟨r, Nat.add_comm left 1 ▸ (Answers.charge _).bind hrest, ?_⟩
    rw [range'_succ, foldl_cons, ← hfold]
    congr 1
    unfold farther
    dsimp only
    split_ifs <;> rfl

theorem farthestPoint_answers (start last : ℕ) :
    ∃ r, Answers (farthest points start last (start+1) (Nat.lt_succ_self start) ⟨literal 0, start,
    .inl rfl⟩) r (last-(start+1)) ∧ farthestPoint points start last = (r.maxDistance, r.split) :=
  farthest_answers points _ _ _

theorem farthestPoint_inside (h : exceeds (farthestPoint points start last).1
    (literal tier.epsilonMeters)) :
    start < (farthestPoint points start last).2 ∧ (farthestPoint points start last).2 < last := by
  obtain ⟨r, -, hfold⟩ := farthestPoint_answers points start last
  rw [hfold] at h ⊢
  exact r.split_inside h

/-- The Ramer–Douglas–Peucker definition: the interior points it keeps, and the points it evaluates.
-/
def rdp (start last : ℕ) : List ℕ × ℕ :=
  if last-start ≤ 1 then ([], 0)
  else
    let split := (farthestPoint points start last).2
    if _h : exceeds (farthestPoint points start last).1 (literal tier.epsilonMeters) then
      ((rdp start split).1++split :: (rdp split last).1,
        last-(start+1)+((rdp start split).2+(rdp split last).2))
    else ([], last-(start+1))
termination_by last-start
decreasing_by
  all_goals
    have hinside := farthestPoint_inside points tier _h
    omega

/-- How the pending ranges are rearranged before each one is taken. -/
structure TakeOrder where
  arrange : ℕ → List (ℕ × ℕ) → List (ℕ × ℕ)
  perm : ∀ n pending, arrange n pending ~ pending

def lastIn : TakeOrder := ⟨fun _ pending => pending, fun _ _ => .refl _⟩

theorem stackWork_perm {stack stack' : List (ℕ × ℕ)} (h : stack ~ stack') :
    stackWork stack = stackWork stack' :=
  (h.map _).sum_eq

def rdpLoopIn (order : TakeOrder) (n : ℕ) (pending : List (ℕ × ℕ)) (keep : List Bool) :
    MeterM TileError (List Bool) :=
  match _h : order.arrange n pending with
  | [] => pure keep
  | (start, last) :: rest =>
    if last-start ≤ 1 then rdpLoopIn order (n+1) rest keep
    else do
      let found ← farthest points start last (start+1) (Nat.lt_succ_self start)
        ⟨literal 0, start, .inl rfl⟩
      if _hfar : exceeds found.maxDistance (literal tier.epsilonMeters) then
        rdpLoopIn order (n+1) ((found.split, last) :: (start, found.split) :: rest)
          (keep.set found.split true)
      else rdpLoopIn order (n+1) rest keep
termination_by stackWork pending
decreasing_by
  all_goals rw [← stackWork_perm (order.perm n pending), _h]
  · exact stackWork_pop _ _
  · exact stackWork_split (found.split_inside _hfar).1 (found.split_inside _hfar).2 rest
  · exact stackWork_pop _ _

theorem rdpLoopIn_lastIn (n : ℕ) (stack : List (ℕ × ℕ)) (keep : List Bool) :
    rdpLoopIn points tier lastIn n stack keep = rdpLoop points tier stack keep := by
  fun_induction rdpLoop points tier stack keep generalizing n with
  | case1 keep =>
    rw [rdpLoopIn]
    rfl
  | case2 keep start last stack hshort ih =>
    rw [rdpLoopIn]
    change (if _ then _ else _) = _
    rw [if_pos hshort, ih]
  | case3 keep start last stack hlong hsplit hdone =>
    rw [rdpLoopIn]
    change (if _ then _ else _) = _
    rw [if_neg hlong]
    refine congrArg _ (funext fun found => ?_)
    split_ifs with hfar
    · exact hsplit found hfar _
    · exact hdone _

def mark (keep : List Bool) (kept : List ℕ) : List Bool :=
  keep.mapIdx fun i b => b || decide (i ∈ kept)

theorem mark_congr {kept kept' : List ℕ} (h : ∀ i, i ∈ kept ↔ i ∈ kept') (keep : List Bool) :
    mark keep kept = mark keep kept' := by
  simp only [mark, h]

theorem mark_set (keep : List Bool) (kept : List ℕ) (split : ℕ) :
    mark (keep.set split true) kept = mark keep (split :: kept) := by
  refine ext_getElem (by simp [mark]) fun i hi hi' => ?_
  by_cases h : split = i
  · simp [mark, h]
  · simp [mark, h, Ne.symm h]

def keptBy (pending : List (ℕ × ℕ)) : List ℕ :=
  pending.flatMap fun range => (rdp points tier range.1 range.2).1

def evaluationsOf (pending : List (ℕ × ℕ)) : ℕ :=
  (pending.map fun range => (rdp points tier range.1 range.2).2).sum

theorem rdpLoopIn_answers (order : TakeOrder) (n : ℕ) (pending : List (ℕ × ℕ)) (keep : List Bool) :
    Answers (rdpLoopIn points tier order n pending keep) (mark keep (keptBy points tier pending))
      (evaluationsOf points tier pending) := by
  -- only what is pending counts, not its order
  have hperm {m : MeterM TileError (List Bool)} {keep n pending rest} (h : order.arrange n pending =
      rest)
      (hm : Answers m (mark keep (keptBy points tier rest)) (evaluationsOf points tier rest)) :
      Answers m (mark keep (keptBy points tier pending)) (evaluationsOf points tier pending) := by
    have hpending := order.perm n pending
    rw [h] at hpending
    have hkept (i : ℕ) : i ∈ keptBy points tier rest ↔ i ∈ keptBy points tier pending :=
      (hpending.flatMap_right _).mem_iff
    have hcost : evaluationsOf points tier rest = evaluationsOf points tier pending :=
      (hpending.map _).sum_eq
    rw [mark_congr hkept, hcost] at hm
    exact hm
  fun_induction rdpLoopIn points tier order n pending keep with
  | case1 n pending keep h =>
    refine hperm h ?_
    rw [show mark keep (keptBy points tier []) = keep by simp [mark, keptBy, mapIdx_eq_zipIdx_map]]
    exact Answers.pure keep
  | case2 n pending keep start last rest h hshort ih =>
    refine hperm h ?_
    have hrdp : rdp points tier start last = ([], 0) := by rw [rdp, if_pos hshort]
    simp only [keptBy, evaluationsOf, flatMap_cons, map_cons, sum_cons, hrdp, nil_append,
      Nat.zero_add]
    exact ih
  | case3 n pending keep start last rest h hlong hsplit hdone =>
    refine hperm h ?_
    obtain ⟨found, hfound, hfold⟩ := farthestPoint_answers points start last
    by_cases hfar : exceeds found.maxDistance (literal tier.epsilonMeters)
    · have hrdp : rdp points tier start last =
          ((rdp points tier start found.split).1++found.split ::
          (rdp points tier found.split last).1, last-(start+1)+
          ((rdp points tier start found.split).2+(rdp points tier found.split last).2)) := by
        rw [rdp, if_neg hlong, hfold]
        exact dif_pos hfar
      have hrest := hsplit found hfar
      rw [mark_set] at hrest
      have hkept (i : ℕ) : i ∈ found.split :: keptBy points tier ((found.split, last) :: (start,
          found.split) :: rest) ↔
          i ∈ keptBy points tier ((start, last) :: rest) := by
        simp only [keptBy, flatMap_cons, hrdp, mem_append, mem_cons]
        tauto
      have hcost : evaluationsOf points tier ((start, last) :: rest) =
          last-(start+1)+evaluationsOf points tier ((found.split, last) :: (start, found.split) ::
            rest) := by
        simp only [evaluationsOf, map_cons, sum_cons, hrdp]
        omega
      rw [← mark_congr hkept keep, hcost]
      refine hfound.bind ?_
      rw [dif_pos hfar]
      exact hrest
    · have hrdp : rdp points tier start last = ([], last-(start+1)) := by
        rw [rdp, if_neg hlong, hfold]
        exact dif_neg hfar
      simp only [keptBy, evaluationsOf, flatMap_cons, map_cons, sum_cons, hrdp, nil_append]
      refine hfound.bind ?_
      rw [dif_neg hfar]
      exact hdone

def rdpKeepMaskIn (order : TakeOrder) : MeterM TileError (List Bool) :=
  if points.length ≤ 2 then pure (replicate points.length true)
  else
    rdpLoopIn points tier order 0 [(0, points.length-1)]
      (((replicate points.length false).set 0 true).set (points.length-1) true)

def rdpMask : List Bool :=
  (range points.length).map fun i =>
    decide (i = 0 ∨ i = points.length-1 ∨ i ∈ (rdp points tier 0 (points.length-1)).1)

theorem rdpKeepMaskIn_answers (order : TakeOrder) :
    Answers (rdpKeepMaskIn points tier order) (rdpMask points tier)
    (rdp points tier 0 (points.length-1)).2 := by
  unfold rdpKeepMaskIn
  split_ifs with hshort
  · have hmask : rdpMask points tier = replicate points.length true := by
      refine ext_getElem (by simp [rdpMask]) fun i hi _ => ?_
      simp only [rdpMask, length_map, length_range] at hi
      have hend : i = 0 ∨ i = points.length-1 := by omega
      rcases hend with rfl | rfl <;> simp [rdpMask]
    rw [hmask, rdp, if_pos (by omega)]
    exact Answers.pure _
  · have hanswers := rdpLoopIn_answers points tier order 0 [(0, points.length-1)]
      (((replicate points.length false).set 0 true).set (points.length-1) true)
    rw [mark_set, mark_set] at hanswers
    have hmask : rdpMask points tier = mark (replicate points.length false)
        (0 :: (points.length-1) :: keptBy points tier [(0, points.length-1)]) := by
      refine ext_getElem (by simp [rdpMask, mark]) fun i hi _ => ?_
      simp [rdpMask, mark, keptBy]
    rw [hmask]
    simpa [evaluationsOf] using hanswers

theorem rdpKeepMask_answers :
    Answers (rdpKeepMask points tier) (rdpMask points tier)
    (rdp points tier 0 (points.length-1)).2 := by
  have heq : rdpKeepMask points tier = rdpKeepMaskIn points tier lastIn := by
    unfold rdpKeepMask rdpKeepMaskIn
    rw [rdpLoopIn_lastIn]
  rw [heq]
  exact rdpKeepMaskIn_answers points tier lastIn

/-- The simplification is the recursive one, whatever order its ranges are taken in. -/
theorem rdp_stack_is_the_recursion (order : TakeOrder) :
    Answers (rdpKeepMaskIn points tier order) (rdpMask points tier)
      (rdp points tier 0 (points.length-1)).2 ∧
      Answers (rdpKeepMask points tier) (rdpMask points tier)
        (rdp points tier 0 (points.length-1)).2 ∧
      (points ≠ [] → (rdpMask points tier)[0]? = some true ∧
        (rdpMask points tier)[points.length-1]? = some true) := by
  refine ⟨rdpKeepMaskIn_answers points tier order, rdpKeepMask_answers points tier, fun h => ?_⟩
  have hlength : 0 < points.length := length_pos_iff.mpr h
  have hlast : points.length-1 < points.length := by omega
  simp [rdpMask, hlength, hlast]

def guardsOf (start last : ℕ) : GuardScan M start last :=
  let scan := guardScan points start last (start+1) (Nat.lt_succ_self start) ⟨literal 0, literal 0,
      none⟩
  let pathLength := add scan.pathLength (distanceMeters (points.getD (last-1) default)
      (points.getD last default))
  { scan with pathLength }

def tooLong (start last : ℕ) : Bool :=
  exceeds (guardsOf points start last).pathLength (literal tier.maxSegmentMeters)

def tooCurvy (start last : ℕ) : Bool :=
  decide (0 < tier.curveGuardMeters) &&
    exceeds (guardsOf points start last).maxPerpendicular (literal tier.curveGuardMeters)

def chosenSplit (start last : ℕ) : Option (Inside start last) :=
  let midpoint := midpointByPathLength points start last (guardsOf points start last).pathLength
  if tooLong points tier start last || tooCurvy points tier start last then
    if tooCurvy points tier start last then (guardsOf points start last).curveSplit.or midpoint
    else midpoint.or (guardsOf points start last).curveSplit
  else none

def acceptedRanges (start last : ℕ) : List (ℕ × ℕ) :=
  if last ≤ start then []
  else
    match chosenSplit points tier start last with
    | some split => acceptedRanges start split.1++acceptedRanges split.1 last
    | none => [(start, last)]
termination_by last-start
decreasing_by all_goals omega

def Covers : ℕ → ℕ → List (ℕ × ℕ) → Prop
  | start, last, [] => start = last
  | start, last, range :: ranges => range.1 = start ∧ range.1 < range.2 ∧ Covers range.2 last ranges

theorem Covers.append {middle : ℕ} {ranges ranges' : List (ℕ × ℕ)} (h : Covers start middle ranges)
    (h' : Covers middle last ranges') : Covers start last (ranges++ranges') := by
  induction ranges generalizing start with
  | nil =>
    obtain rfl : start = middle := h
    exact h'
  | cons range ranges ih => exact ⟨h.1, h.2.1, ih h.2.2⟩

theorem acceptedRanges_covers (h : start < last) :
    Covers start last (acceptedRanges points tier start last) := by
  fun_induction acceptedRanges points tier start last with
  | case1 start last hle => omega
  | case2 start last _ split _ hbefore hafter => exact (hbefore split.2.1).append (hafter split.2.2)
  | case3 start last => exact ⟨rfl, h, rfl⟩

theorem guards_of_chosenSplit (h : chosenSplit points tier start last = none) :
    last ≤ start+1 ∨ tooLong points tier start last = false ∧ tooCurvy points tier start last =
    false := by
  refine or_iff_not_imp_left.mpr fun hinner => ?_
  have hmidpoint {length : M} : midpointByPathLength points start last length ≠ none := by
    unfold midpointByPathLength
    rw [dif_neg hinner]
    simp
  unfold chosenSplit at h
  dsimp only at h
  split_ifs at h with hguard hcurvy
  · exact absurd (Option.or_eq_none_iff.mp h).2 hmidpoint
  · exact absurd (Option.or_eq_none_iff.mp h).1 hmidpoint
  · simpa using hguard

theorem acceptedRanges_guarded {range : ℕ × ℕ} (h : range ∈ acceptedRanges points tier start last) :
    range.2 ≤ range.1+1 ∨ tooLong points tier range.1 range.2 = false ∧ tooCurvy points tier range.1
    range.2 = false := by
  fun_induction acceptedRanges points tier start last with
  | case1 => cases h
  | case2 start last _ split _ hbefore hafter => exact (mem_append.mp h).elim hbefore hafter
  | case3 start last _ hnone =>
    rw [mem_singleton.mp h]
    exact guards_of_chosenSplit points tier hnone

def push (output : List Point) (stop : Point) : List Point :=
  if output.getLast?.any fun point => samePoint point stop then output else output++[stop]

theorem appendGuarded_eq (stack : List (ℕ × ℕ)) (output : List Point) :
    appendGuarded points tier stack output =
      ((stack.flatMap fun range => acceptedRanges points tier range.1 range.2).map fun range =>
        points.getD range.2 default).foldl push output := by
  fun_induction appendGuarded points tier stack output with
  | case1 => rfl
  | case2 output start last stack hle ih =>
    rw [flatMap_cons, acceptedRanges, if_pos hle, ih]
    rfl
  | case3 output start last stack hlt scan pathLength tooLong tooCurvy midpoint chosen split hsplit
      ih =>
    have hchosen : chosenSplit points tier start last = some split := hsplit
    rw [ih, flatMap_cons, flatMap_cons, flatMap_cons, acceptedRanges.eq_def points tier start last,
      if_neg hlt, hchosen, append_assoc]
  | case4 output start last stack hlt scan pathLength tooLong tooCurvy midpoint chosen hnone stop
      repeated ih =>
    have hchosen : chosenSplit points tier start last = none := hnone
    refine ih.trans ?_
    rw [flatMap_cons, acceptedRanges.eq_def points tier start last, if_neg hlt, hchosen]
    rfl

omit [Measure M] in
theorem foldl_push (ends front : List Point) (last : Point) :
    ends.foldl push (front++[last]) = front++ends.destutter' (fun a b => samePoint a b = false)
    last := by
  induction ends generalizing front last with
  | nil => rfl
  | cons stop ends ih =>
    rw [foldl_cons]
    by_cases hsame : samePoint last stop
    · rw [destutter'_cons_neg _ (by simp [hsame]), ← ih, push, if_pos (by simp [hsame])]
    · rw [destutter'_cons_pos _ (by simpa using hsame), push, if_neg (by simpa using hsame), ih,
        append_assoc]
      rfl

omit [Measure M] in
theorem foldl_push_eq (ends output : List Point) :
    ends.foldl push output = output.dropLast++(output.getLast?.toList++ends).destutter
    (fun a b => samePoint a b = false) := by
  rcases eq_nil_or_concat' output with rfl | ⟨front, last, rfl⟩
  · cases ends with
    | nil => rfl
    | cons stop ends => exact foldl_push ends [] stop
  · simpa [destutter] using foldl_push ends front last

/-- The guards accept ranges that cover the given one, and the end of each is added unless it is
repeated. -/
theorem guarded_ranges_cover (start last : ℕ) (output : List Point) :
    (start < last → Covers start last (acceptedRanges points tier start last)) ∧
    (∀ range ∈ acceptedRanges points tier start last, range.2 ≤ range.1+1 ∨
      tooLong points tier range.1 range.2 = false ∧ tooCurvy points tier range.1 range.2 = false) ∧
    appendGuarded points tier [(start, last)] output = output.dropLast++
      (output.getLast?.toList++(acceptedRanges points tier start last).map fun range =>
        points.getD range.2 default).destutter (fun a b => samePoint a b = false) := by
  refine ⟨acceptedRanges_covers points tier, fun range h => acceptedRanges_guarded points tier h,
    ?_⟩
  rw [appendGuarded_eq, foldl_push_eq, flatMap_singleton]

end TeslatlasHub.Tiles
