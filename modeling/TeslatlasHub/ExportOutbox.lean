import TeslatlasHub.FixedWidth
import TeslatlasHub.Interleaving

/-! The export outbox of one vehicle that has a V2 base, and the replays that publish from it. -/
namespace TeslatlasHub.Outbox

open FixedWidth Interleaving RunRules Option

structure OutboxRow where
  (dirtyRevision attempts : ℕ)
  (nextAttemptMs claimedUntilMs : ℤ)
  deriving DecidableEq

structure ExportOutboxClaim where
  (dirtyRevision attempts : ℕ)
  (claimedAtMs leaseUntilMs : ℤ)
  deriving DecidableEq

def markExportDirty : Option OutboxRow → OutboxRow
  | none => ⟨1, 0, 0, 0⟩
  | some row => { row with
    dirtyRevision := row.dirtyRevision+1
    -- an active lease stays with its publisher
    attempts := if 0 < row.claimedUntilMs then row.attempts else 0
    nextAttemptMs := if 0 < row.claimedUntilMs then row.nextAttemptMs else 0 }

def claimExportOutbox (row : Option OutboxRow) (nowMs : ℤ) (first : Bool) :
    Option (OutboxRow × ExportOutboxClaim) :=
  if nowMs < 0 then none
  else
    match row.filter fun r => first && r.nextAttemptMs ≤ nowMs && r.claimedUntilMs ≤ nowMs with
    | none => none
    | some r =>
      let leaseUntilMs := saturatingAdd nowMs 60000
      some ({ r with attempts := r.attempts+1, claimedUntilMs := leaseUntilMs },
        ⟨r.dirtyRevision, r.attempts+1, nowMs, leaseUntilMs⟩)

def requeueNewer (claim : ExportOutboxClaim) (r : OutboxRow) : OutboxRow :=
  if claim.dirtyRevision < r.dirtyRevision ∧ r.claimedUntilMs = claim.leaseUntilMs then
    { r with claimedUntilMs := 0, attempts := 0, nextAttemptMs := max r.nextAttemptMs (saturatingAdd
      claim.claimedAtMs 1) }
  else r

def completeExportOutbox (claim : ExportOutboxClaim) (row : Option OutboxRow) : Option OutboxRow :=
  row.bind fun r =>
    if r.dirtyRevision = claim.dirtyRevision ∧ r.claimedUntilMs = claim.leaseUntilMs then none
    else some (requeueNewer claim r)

def failExportOutbox (claim : ExportOutboxClaim) (nowMs : ℤ) (row : Option OutboxRow) :
    Option OutboxRow :=
  row.map fun r =>
    if r.dirtyRevision = claim.dirtyRevision ∧ r.claimedUntilMs = claim.leaseUntilMs then
      { r with
        claimedUntilMs := 0
        nextAttemptMs := saturatingAdd nowMs (min (2^min claim.attempts 16) 3600*1000) }
    else requeueNewer claim r

def releaseExportOutbox (claim : ExportOutboxClaim) (row : Option OutboxRow) : Option OutboxRow :=
  row.map fun r =>
    if claim.dirtyRevision ≤ r.dirtyRevision ∧ r.claimedUntilMs = claim.leaseUntilMs then
      { r with
        claimedUntilMs := 0
        attempts := r.attempts-1
        nextAttemptMs := if claim.dirtyRevision < r.dirtyRevision then
          max r.nextAttemptMs (saturatingAdd claim.claimedAtMs 1) else r.nextAttemptMs }
    else r

inductive Job where
  | recording
  | claiming
  | publishing (id : ℕ) (claim : ExportOutboxClaim)
  | checking (id : ℕ) (claim : ExportOutboxClaim)
  | completing (id : ℕ) (claim : ExportOutboxClaim)
  | failing (id : ℕ) (claim : ExportOutboxClaim)
  | releasing (id : ℕ) (claim : ExportOutboxClaim)

inductive Outcome where
  | published (count : ℕ)
  | failed (count : ℕ)
  | deferred

structure Input where
  nowMs : ℤ
  first : Bool
  outcome : Outcome

structure Vehicle where
  row : Option OutboxRow
  unpublished : ℕ
  clockMs : ℤ
  claims : ℕ
  lastClaim : Option ℕ
  markedSince : Bool

inductive Request where
  | mutation
  | replay

def enter : Request → Job
  | .mutation => .recording
  | .replay => .claiming

def work (v : Vehicle) (input : Input) : Job → Vehicle × Option Job
  | .recording => ({ v with
      row := some (markExportDirty v.row)
      unpublished := v.unpublished+1
      markedSince := true }, none)
  | .claiming =>
    match claimExportOutbox v.row input.nowMs input.first with
    | none => (v, none)
    | some (row, claim) => ({ v with
        row := some row
        claims := v.claims+1
        lastClaim := some v.claims
        markedSince := false }, some (.publishing v.claims claim))
  | .publishing id claim =>
    match input.outcome with
    | .published count => ({ v with unpublished := v.unpublished-count }, some (.checking id claim))
    | .failed count => ({ v with unpublished := v.unpublished-count }, some (.failing id claim))
    | .deferred => (v, some (.releasing id claim))
  | .checking id claim =>
    (v, some (if 0 < v.unpublished then .releasing id claim else .completing id claim))
  | .completing _ claim => ({ v with row := completeExportOutbox claim v.row }, none)
  | .failing _ claim => ({ v with row := failExportOutbox claim claim.claimedAtMs v.row }, none)
  | .releasing _ claim => ({ v with row := releaseExportOutbox claim v.row }, none)

def turn (v : Vehicle) (job : Job) (input : Input) : Turn Vehicle Job Empty :=
  let (v', next) := work v input job
  ⟨{ v' with clockMs := input.nowMs }, next, []⟩

abbrev OutboxWorld := World Vehicle Job Empty

def step (w : OutboxWorld) (m : Move Request Input) : OutboxWorld := w.step enter turn m

/-- The clock never goes back, and is read before `endMs`. -/
def ClockRuns (endMs : ℤ) (v : Vehicle) (_ : List Empty) (_ : Job) (input : Input) : Prop :=
  v.clockMs ≤ input.nowMs ∧ input.nowMs < endMs

instance (endMs : ℤ) (v : Vehicle) (log : List Empty) (job : Job) (input : Input) :
    Decidable (ClockRuns endMs v log job input) :=
  inferInstanceAs (Decidable (_ ∧ _))

def Job.held : Job → Option (ℕ × ExportOutboxClaim)
  | .recording | .claiming => none
  | .publishing id claim | .checking id claim | .completing id claim | .failing id
      claim | .releasing id claim =>
    some (id, claim)

def Job.holdsAt (clockMs : ℤ) (job : Job) : Bool := job.held.any fun h => clockMs < h.2.leaseUntilMs

structure Fenced (v : Vehicle) (id : ℕ) (claim : ExportOutboxClaim) : Prop where
  positive : 0 < claim.leaseUntilMs
  running : v.clockMs < claim.leaseUntilMs → ∃ r, v.row = some r ∧ r.claimedUntilMs =
    claim.leaseUntilMs
  last : ∀ r, v.row = some r → r.claimedUntilMs = claim.leaseUntilMs → v.lastClaim = some id ∧
    claim.dirtyRevision ≤ r.dirtyRevision ∧ (r.dirtyRevision = claim.dirtyRevision →
      v.markedSince = false)

structure Kept (v : Vehicle) (job : Job) : Prop where
  fenced : ∀ id claim, job.held = some (id, claim) → Fenced v id claim
  nothing : ∀ id claim, job = .completing id claim → ∀ r, v.row = some r → r.claimedUntilMs =
    claim.leaseUntilMs →
    r.dirtyRevision = claim.dirtyRevision → v.unpublished = 0

def Apart (a b : Job) : Prop :=
  ∀ x y, a.held = some x → b.held = some y → x.2.leaseUntilMs ≠ y.2.leaseUntilMs

variable {v : Vehicle} {job : Job} {id : ℕ} {claim : ExportOutboxClaim}

theorem lease_gt {nowMs : ℤ} (hnow : 0 ≤ nowMs) (hbelow : nowMs < i64Max) :
    nowMs < saturatingAdd nowMs 60000 := by
  rw [saturatingAdd_eq_min (by unfold i64Min; omega) (by norm_num)]
  omega

def Settles (claim : ExportOutboxClaim) (row row' : Option OutboxRow) : Prop :=
  row' = row ∨ ∃ r, row = some r ∧ r.claimedUntilMs = claim.leaseUntilMs ∧ ∀ r', row' = some r' →
    r'.claimedUntilMs = 0

theorem requeueNewer_cases (r : OutboxRow) :
    requeueNewer claim r = r ∨ r.claimedUntilMs = claim.leaseUntilMs ∧
    (requeueNewer claim r).claimedUntilMs = 0 := by
  unfold requeueNewer
  split_ifs with h
  · exact .inr ⟨h.2, rfl⟩
  · exact .inl rfl

theorem requeueNewer_settles (r : OutboxRow) :
    Settles claim (some r) (some (requeueNewer claim r)) := by
  rcases requeueNewer_cases r with h | ⟨hlease, hfree⟩
  · exact .inl (congrArg some h)
  · exact .inr ⟨r, rfl, hlease, fun r' hr' => some_inj.mp hr' ▸ hfree⟩

theorem completeExportOutbox_settles (row : Option OutboxRow) :
    Settles claim row (completeExportOutbox claim row) := by
  cases row with
  | none => exact .inl rfl
  | some r =>
    change Settles claim (some r) (if _ then _ else _)
    split_ifs with h
    · exact .inr ⟨r, rfl, h.2, nofun⟩
    · exact requeueNewer_settles r

theorem failExportOutbox_settles (nowMs : ℤ) (row : Option OutboxRow) :
    Settles claim row (failExportOutbox claim nowMs row) := by
  cases row with
  | none => exact .inl rfl
  | some r =>
    change Settles claim (some r) (some (if _ then _ else _))
    split_ifs with h
    · exact .inr ⟨r, rfl, h.2, fun r' hr' => some_inj.mp hr' ▸ rfl⟩
    · exact requeueNewer_settles r

theorem releaseExportOutbox_settles (row : Option OutboxRow) :
    Settles claim row (releaseExportOutbox claim row) := by
  cases row with
  | none => exact .inl rfl
  | some r =>
    change Settles claim (some r) (some (if _ then _ else _))
    split
    · rename_i h
      exact .inr ⟨r, rfl, h.2, fun r' hr' => some_inj.mp hr' ▸ rfl⟩
    · exact .inl rfl

variable {row : Option OutboxRow} {row' : OutboxRow}

theorem Kept.settled (h : Kept v job) {clockMs : ℤ} (hclock : v.clockMs ≤ clockMs)
    (hrow : Settles claim v.row row)
    (hapart : ∀ x, job.held = some x → claim.leaseUntilMs ≠ x.2.leaseUntilMs) :
    Kept { v with row := row, clockMs := clockMs } job := by
  constructor
  · intro id' claim' hheld
    have hf := h.fenced id' claim' hheld
    rcases hrow with rfl | ⟨r, hr, hlease, hfree⟩
    · exact ⟨hf.positive, fun hruns => hf.running (lt_of_le_of_lt hclock hruns), hf.last⟩
    · refine ⟨hf.positive, fun hruns => ?_, fun r' hr' hlease' => ?_⟩
      · obtain ⟨r', hr', hlease'⟩ := hf.running (lt_of_le_of_lt hclock hruns)
        rw [hr] at hr'
        cases hr'
        exact absurd (hlease.symm.trans hlease') (hapart _ hheld)
      · exact absurd (hlease'.symm.trans (hfree r' hr')) hf.positive.ne'
  · rintro id' claim' rfl r' hr' hlease' hrevision
    rcases hrow with rfl | ⟨r, hr, hlease, hfree⟩
    · exact h.nothing id' claim' rfl r' hr' hlease' hrevision
    · exact absurd (hlease'.symm.trans (hfree r' hr')) (h.fenced id' claim' rfl).positive.ne'

variable {input : Input}

theorem Kept.recorded (h : Kept v job) (hclock : v.clockMs ≤ input.nowMs) :
    Kept (turn v .recording input).shared job := by
  have hmarked (r : OutboxRow) (hr : some (markExportDirty v.row) = some r)
      (claim : ExportOutboxClaim)
      (hpositive : 0 < claim.leaseUntilMs) (hlease : r.claimedUntilMs = claim.leaseUntilMs) :
      ∃ r₀, v.row = some r₀ ∧ r₀.claimedUntilMs = claim.leaseUntilMs ∧
        r.dirtyRevision = r₀.dirtyRevision+1 := by
    cases hrow : v.row with
    | none =>
      rw [hrow] at hr
      cases hr
      exact absurd hlease hpositive.ne
    | some r₀ =>
      rw [hrow] at hr
      cases hr
      exact ⟨r₀, rfl, hlease, rfl⟩
  constructor
  · intro id claim hheld
    have hf := h.fenced id claim hheld
    refine ⟨hf.positive, fun hruns => ?_, fun r hr hlease => ?_⟩
    · obtain ⟨r, hr, hlease⟩ := hf.running (lt_of_le_of_lt hclock hruns)
      refine ⟨_, rfl, ?_⟩
      rw [hr]
      exact hlease
    · obtain ⟨r₀, hr₀, hlease₀, hnext⟩ := hmarked r hr claim hf.positive hlease
      obtain ⟨hlast, hle, -⟩ := hf.last r₀ hr₀ hlease₀
      exact ⟨hlast, by omega, fun heq => by omega⟩
  · intro id claim hjob r hr hlease hrevision
    have hf := h.fenced id claim (hjob ▸ rfl)
    obtain ⟨r₀, hr₀, hlease₀, hnext⟩ := hmarked r hr claim hf.positive hlease
    have := (hf.last r₀ hr₀ hlease₀).2.1
    omega

theorem claimExportOutbox_eq {nowMs : ℤ} {first : Bool}
    (h : claimExportOutbox row nowMs first = some (row', claim)) :
    0 ≤ nowMs ∧ ∃ r, row = some r ∧ r.claimedUntilMs ≤ nowMs ∧ row'.dirtyRevision =
    r.dirtyRevision ∧ row'.claimedUntilMs = saturatingAdd nowMs 60000 ∧ claim.dirtyRevision =
    r.dirtyRevision ∧ claim.leaseUntilMs = saturatingAdd nowMs 60000 := by
  unfold claimExportOutbox at h
  split at h
  · cases h
  rename_i hnow
  split at h
  · cases h
  rename_i r hr
  obtain ⟨hrow, hdue⟩ := filter_eq_some_iff.mp hr
  simp only [Bool.and_eq_true, decide_eq_true_eq] at hdue
  cases h
  exact ⟨not_lt.mp hnow, r, hrow, hdue.2, rfl, rfl, rfl, rfl⟩

theorem Kept.claimed (h : Kept v job) (hclock : v.clockMs ≤ input.nowMs)
    (hbelow : input.nowMs < i64Max)
    (hclaim : claimExportOutbox v.row input.nowMs input.first = some (row', claim)) :
    Kept ⟨some row', v.unpublished, input.nowMs, v.claims+1, some v.claims, false⟩ job ∧
      ∀ x, job.held = some x → claim.leaseUntilMs ≠ x.2.leaseUntilMs := by
  obtain ⟨hnow, r, hr, hdue, -, hlease', -, hlease⟩ := claimExportOutbox_eq hclaim
  have hgt := lease_gt hnow hbelow
  have hended (id' : ℕ) (claim' : ExportOutboxClaim) (hheld : job.held = some (id', claim')) :
      claim'.leaseUntilMs ≤ input.nowMs := by
    by_contra hruns
    obtain ⟨r', hr', hlease''⟩ := (h.fenced id' claim' hheld).running (by omega)
    rw [hr] at hr'
    cases hr'
    omega
  refine ⟨⟨fun id' claim' hheld => ?_, ?_⟩, fun x hheld => ?_⟩
  · have := hended id' claim' hheld
    refine ⟨(h.fenced id' claim' hheld).positive, fun hruns => absurd hruns (not_lt.mpr this),
      fun r' hr' hlease'' => ?_⟩
    cases hr'
    omega
  · rintro id' claim' rfl r' hr' hlease'' -
    have := hended id' claim' rfl
    cases hr'
    omega
  · have := hended x.1 x.2 hheld
    omega

def Scheduled (v : Vehicle) : Prop := 0 < v.unpublished → v.row.isSome

theorem kept_of_free (h : job.held = none) : Kept v job := by
  refine ⟨fun id claim hheld => ?_, fun id claim hjob => ?_⟩
  · rw [h] at hheld
    cases hheld
  · rw [hjob] at h
    cases h

theorem Kept.waited (h : Kept v job) {clockMs : ℤ} {unpublished : ℕ}
    (hclock : v.clockMs ≤ clockMs) (hless : unpublished ≤ v.unpublished) :
    Kept { v with unpublished := unpublished, clockMs := clockMs } job := by
  refine ⟨fun id claim hheld => ?_, fun id claim hjob r hr hlease hrevision => ?_⟩
  · have hf := h.fenced id claim hheld
    exact ⟨hf.positive, fun hruns => hf.running (lt_of_le_of_lt hclock hruns), hf.last⟩
  · have hzero := h.nothing id claim hjob r hr hlease hrevision
    change unpublished = 0
    omega

theorem Kept.goesOn {job' : Job} (h : Kept v job) (hheld : job'.held = job.held)
    (hnothing : ∀ id claim, job' = .completing id claim → v.unpublished = 0) : Kept v job' :=
  ⟨fun id claim hj => h.fenced id claim (hheld ▸ hj), fun id claim hj _ _ _ _ => hnothing id
    claim hj⟩

/-- One turn of a job keeps the schedule, its own claim and the claims of the others. -/
theorem turn_kept (hscheduled : Scheduled v) (hkept : Kept v job)
    (hruns : v.clockMs ≤ input.nowMs ∧ input.nowMs < i64Max) : Scheduled (turn v job input).shared ∧
      (∀ job', (turn v job input).next = some job' → Kept (turn v job input).shared job' ∧
        ∀ other, Kept v other → Apart job other → Apart job' other) ∧
      ∀ other, Kept v other → Apart job other → Kept (turn v job input).shared other := by
  obtain ⟨hclock, hbelow⟩ := hruns
  have hsame (job' : Job) (hheld : job'.held = job.held) (other : Job) (hapart : Apart job other) :
      Apart job' other :=
    fun x y hx => hapart x y (hheld ▸ hx)
  cases job with
  | recording =>
    exact ⟨fun _ => rfl, nofun, fun other hother _ => hother.recorded hclock⟩
  | claiming =>
    unfold turn work
    cases hclaim : claimExportOutbox v.row input.nowMs input.first with
    | none => exact ⟨hscheduled, nofun, fun other hother _ => hother.waited hclock le_rfl⟩
    | some claimed =>
      obtain ⟨row', claim⟩ := claimed
      refine ⟨fun _ => rfl, fun job' hjob' => ?_, fun other hother _ =>
        (hother.claimed hclock hbelow hclaim).1⟩
      cases hjob'
      obtain ⟨hnow, r, -, -, hdirty', hlease', hdirty, hlease⟩ := claimExportOutbox_eq hclaim
      have hgt := lease_gt hnow hbelow
      refine ⟨⟨fun id' claim' hheld => ?_, nofun⟩, fun other hother _ x y hx hy => ?_⟩
      · cases hheld
        refine ⟨by omega, fun _ => ⟨row', rfl, by rw [hlease', hlease]⟩, fun r' hr' _ => ?_⟩
        cases hr'
        exact ⟨rfl, by omega, fun _ => rfl⟩
      · cases hx
        exact (hother.claimed hclock hbelow hclaim).2 y hy
  | publishing id claim =>
    unfold turn work
    cases input.outcome with
    | published count =>
      refine ⟨fun h => hscheduled (by dsimp only at h; omega), fun job' hjob' => ?_,
        fun other hother _ => hother.waited hclock (Nat.sub_le ..)⟩
      cases hjob'
      exact ⟨(hkept.waited hclock (Nat.sub_le ..)).goesOn rfl nofun, fun other _ => hsame _
        rfl other⟩
    | failed count =>
      refine ⟨fun h => hscheduled (by dsimp only at h; omega), fun job' hjob' => ?_,
        fun other hother _ => hother.waited hclock (Nat.sub_le ..)⟩
      cases hjob'
      exact ⟨(hkept.waited hclock (Nat.sub_le ..)).goesOn rfl nofun, fun other _ => hsame _
        rfl other⟩
    | deferred =>
      refine ⟨hscheduled, fun job' hjob' => ?_, fun other hother _ => hother.waited hclock le_rfl⟩
      cases hjob'
      exact ⟨(hkept.waited hclock le_rfl).goesOn rfl nofun, fun other _ => hsame _ rfl other⟩
  | checking id claim =>
    refine ⟨hscheduled, fun job' hjob' => ?_, fun other hother _ => hother.waited hclock le_rfl⟩
    cases hjob'
    have hwaited := hkept.waited hclock le_rfl
    by_cases hleft : 0 < v.unpublished
    · rw [if_pos hleft]
      exact ⟨hwaited.goesOn rfl nofun, fun other _ => hsame _ rfl other⟩
    · rw [if_neg hleft]
      exact ⟨hwaited.goesOn rfl fun _ _ _ => Nat.eq_zero_of_not_pos hleft, fun other _ => hsame _
        rfl other⟩
  | completing id claim =>
    refine ⟨fun hleft => ?_, nofun, fun other hother hapart => ?_⟩
    · -- the row goes only when the revision is the claimed one, and then nothing is unpublished
      obtain ⟨r, hr⟩ := isSome_iff_exists.mp (hscheduled hleft)
      change (completeExportOutbox claim v.row).isSome
      rw [hr]
      change isSome (if _ then _ else _)
      split_ifs with hmatch
      · have hzero := hkept.nothing id claim rfl r hr hmatch.2 hmatch.1
        exact absurd hleft (by change ¬0 < v.unpublished; omega)
      · rfl
    · exact hother.settled hclock (completeExportOutbox_settles v.row) fun x hx => hapart _ x rfl hx
  | failing id claim =>
    refine ⟨fun hleft => ?_, nofun, fun other hother hapart => ?_⟩
    · obtain ⟨r, hr⟩ := isSome_iff_exists.mp (hscheduled hleft)
      change (failExportOutbox claim claim.claimedAtMs v.row).isSome
      rw [hr]
      rfl
    · exact hother.settled hclock (failExportOutbox_settles _ v.row) fun x hx => hapart _ x rfl hx
  | releasing id claim =>
    refine ⟨fun hleft => ?_, nofun, fun other hother hapart => ?_⟩
    · obtain ⟨r, hr⟩ := isSome_iff_exists.mp (hscheduled hleft)
      change (releaseExportOutbox claim v.row).isSome
      rw [hr]
      rfl
    · exact hother.settled hclock (releaseExportOutbox_settles v.row) fun x hx => hapart _ x rfl hx

/-- Of claims that are kept apart at most one runs at a time. -/
theorem one_lease_runs {jobs : List Job} (hkept : ∀ job ∈ jobs, Kept v job)
    (hapart : jobs.Pairwise Apart) : (jobs.filter (Job.holdsAt v.clockMs)).length ≤ 1 := by
  have hruns (job : Job) (hjob : job ∈ jobs.filter (Job.holdsAt v.clockMs)) :
      ∃ x, job.held = some x ∧ ∃ r, v.row = some r ∧ r.claimedUntilMs = x.2.leaseUntilMs := by
    obtain ⟨hin, hholdsAt⟩ := List.mem_filter.mp hjob
    obtain ⟨x, hx, hlt⟩ := (any_eq_true _ _).mp hholdsAt
    exact ⟨x, hx, ((hkept job hin).fenced x.1 x.2 hx).running (of_decide_eq_true hlt)⟩
  have hpair := List.Pairwise.filter (Job.holdsAt v.clockMs) hapart
  match jobs.filter (Job.holdsAt v.clockMs), hpair, hruns with
  | [], _, _ => exact Nat.zero_le 1
  | [_], _, _ => exact le_rfl
  | a :: b :: rest, hpair, hruns =>
    obtain ⟨x, hx, r, hr, hlease⟩ := hruns a (by simp)
    obtain ⟨y, hy, r', hr', hlease'⟩ := hruns b (by simp)
    rw [hr] at hr'
    cases hr'
    exact absurd (hlease.symm.trans hlease') ((List.pairwise_cons.mp hpair).1 b (by simp) x y hx hy)

theorem Kept.deletes (h : Kept v job) (hsome : v.row.isSome)
    (hgone : (turn v job input).shared.row = none) :
    ∃ id claim r, job = .completing id claim ∧ v.row = some r ∧ r.claimedUntilMs =
    claim.leaseUntilMs ∧ v.lastClaim = some id ∧ v.markedSince = false := by
  obtain ⟨r, hr⟩ := isSome_iff_exists.mp hsome
  cases job with
  | recording => cases hgone
  | claiming =>
    unfold turn work at hgone
    cases hclaim : claimExportOutbox v.row input.nowMs input.first with
    | none =>
      rw [hclaim] at hgone
      exact absurd (hr.symm.trans hgone) nofun
    | some _ =>
      rw [hclaim] at hgone
      cases hgone
  | publishing id claim =>
    unfold turn work at hgone
    cases hout : input.outcome <;> rw [hout] at hgone <;> exact absurd (hr.symm.trans hgone) nofun
  | checking id claim => exact absurd (hr.symm.trans hgone) nofun
  | completing id claim =>
    change completeExportOutbox claim v.row = none at hgone
    rw [hr] at hgone
    change (if _ then _ else _) = none at hgone
    split at hgone
    · rename_i hmatch
      obtain ⟨hlast, -, hunmarked⟩ := (h.fenced id claim rfl).last r hr hmatch.2
      exact ⟨id, claim, r, rfl, hr, hmatch.2, hlast, hunmarked hmatch.1⟩
    · cases hgone
  | failing id claim =>
    change failExportOutbox claim claim.claimedAtMs v.row = none at hgone
    rw [hr] at hgone
    cases hgone
  | releasing id claim =>
    change releaseExportOutbox claim v.row = none at hgone
    rw [hr] at hgone
    cases hgone

/-- Whenever a mutation is unpublished the row is there, and a row is deleted only under its current
lease with no mark since. -/
theorem no_mutation_is_stranded {start : Vehicle} {ms : List (Move Request Input)}
    (hstart : Scheduled start)
    (hclock : Along step (fun w m => w.Meets (ClockRuns i64Max) m) ⟨start, [], []⟩ ms) :
    let w := ms.foldl step ⟨start, [], []⟩
    Scheduled w.shared ∧
      (∀ job ∈ w.clients, ∀ input, w.shared.row.isSome → (turn w.shared job input).shared.row =
        none →
        ∃ id claim r, job = .completing id claim ∧ w.shared.row = some r ∧ r.claimedUntilMs =
          claim.leaseUntilMs ∧
          w.shared.lastClaim = some id ∧ w.shared.markedSince = false) ∧
      (w.clients.filter (Job.holdsAt w.shared.clockMs)).length ≤ 1 := by
  have hsymm (a b : Job) (h : Apart a b) : Apart b a := fun x y hx hy => (h y x hy hx).symm
  have hholds : (ms.foldl step ⟨start, [], []⟩ : OutboxWorld).HoldsApart (fun v _ => Scheduled v)
      (fun v _ job => Kept v job) Apart := by
    refine World.HoldsApart.run hsymm ⟨⟨hstart, nofun⟩, .nil⟩ (fun r v _ _ => ?_)
      (fun v _ job input => turn_kept) hclock
    cases r with
    | mutation => exact ⟨kept_of_free rfl, fun _ _ _ _ hy => (nomatch hy)⟩
    | replay => exact ⟨kept_of_free rfl, fun _ _ _ _ hy => (nomatch hy)⟩
  exact ⟨hholds.shared, fun job hjob _ => (hholds.clients job hjob).deletes,
    one_lease_runs hholds.clients hholds.apart⟩

def newVehicle : Vehicle := ⟨none, 0, 0, 0, none, false⟩

def acts (nowMs : ℤ) (count client : ℕ) : Move Request Input :=
  .act client ⟨nowMs, true, .published count⟩

def claimedTwice (firstMs secondMs : ℤ) : List (Move Request Input) :=
  [.join .mutation, acts firstMs 0 0, .join .replay, acts firstMs 0 0, .join .replay,
    acts secondMs 0 1]

theorem no_mutation_is_stranded_claimedTwice :
    ((claimedTwice 5 60005).foldl step ⟨newVehicle, [], []⟩).shared.lastClaim = some 1 ∧
      Scheduled ((claimedTwice 5 60005).foldl step ⟨newVehicle, [], []⟩).shared :=
  ⟨by decide +kernel, (@no_mutation_is_stranded newVehicle (claimedTwice 5 60005) nofun
    (by decide +kernel)).1⟩

/-- In the last millisecond of the clock a lease has ended when it is made, and the next one is
equal to it. -/
theorem mutation_stranded_in_last_millisecond :
    let ms := claimedTwice i64Max i64Max++([1, 1, 1, 0, 0].map (acts i64Max 1)++
      [.join .mutation, acts i64Max 0 1, .join .replay, acts i64Max 0 1, acts i64Max 0 0])
    Along step (fun w m => w.Meets (ClockRuns (i64Max+1)) m) ⟨newVehicle, [], []⟩ ms ∧
      (ms.foldl step ⟨newVehicle, [], []⟩).shared.unpublished = 1 ∧
      (ms.foldl step ⟨newVehicle, [], []⟩).shared.row = none := by
  decide +kernel

end TeslatlasHub.Outbox
