import TeslatlasHub.FixedWidth

/-! The collector lease and the account-level downtime gaps over process lives, one life at a time
(C3 R8). -/
namespace TeslatlasHub.Downtime

open FixedWidth List

inductive GapKind where
  | hubStopped
  | hubDown
  deriving DecidableEq

structure Gap where
  kind : GapKind
  startedAtMs : ℤ
  endedAtMs : Option ℤ
  alert : Bool
  deriving DecidableEq

def Gap.isOpen (gap : Gap) : Bool := gap.endedAtMs.isNone

def Gap.isOpenOf (kind : GapKind) (gap : Gap) : Bool := gap.kind = kind && gap.isOpen

def Gap.close (gap : Gap) (endedAtMs alertAtOrOverMs : ℤ) : Gap :=
  let endMs := max gap.startedAtMs endedAtMs
  { gap with
    endedAtMs := some endMs, alert := gap.alert || alertAtOrOverMs ≤ endMs-gap.startedAtMs }

def closeGap (gaps : List Gap) (kind : GapKind) (endedAtMs alertAtOrOverMs : ℤ) : List Gap :=
  gaps.map fun gap => if gap.isOpenOf kind then gap.close endedAtMs alertAtOrOverMs else gap

def insertGap (gaps : List Gap) (gap : Gap) : List Gap :=
  if gap.endedAtMs.isSome || !gaps.any (Gap.isOpenOf gap.kind) then gaps++[gap] else gaps

structure Lease where
  owner : ℕ
  (heartbeatAtMs leaseUntilMs : ℤ)
  deriving DecidableEq

structure Store where
  lease : Option Lease := none
  gaps : List Gap := []

def supervisedCollectorLeaseMs : ℤ := 30000

def gapMinMs : ℤ := 5000+60000

variable (store : Store)

def recordPredecessorDowntime (nowMs : ℤ) (awake : Bool) : List Gap :=
  match store.lease with
  | none => store.gaps
  | some lease =>
    if nowMs < lease.leaseUntilMs then store.gaps
    else if store.gaps.any Gap.isOpen then store.gaps
    else insertGap store.gaps ⟨.hubDown, lease.heartbeatAtMs, none, awake⟩

def leaseDeadline (nowMs : ℤ) : Option ℤ :=
  if 0 ≤ nowMs ∧ nowMs+supervisedCollectorLeaseMs ≤ i64Max then
    some (nowMs+supervisedCollectorLeaseMs) else none

def acquireLease (owner : ℕ) (nowMs : ℤ) (awake : Bool) : Option Store :=
  (leaseDeadline nowMs).bind fun leaseUntilMs =>
    if store.lease.any fun lease => nowMs < lease.leaseUntilMs then none
    else some ⟨some ⟨owner, nowMs, leaseUntilMs⟩, recordPredecessorDowntime store nowMs awake⟩

def heartbeatLease (owner : ℕ) (nowMs : ℤ) : Option Store :=
  (leaseDeadline nowMs).bind fun leaseUntilMs =>
    if store.lease.any fun lease => lease.owner = owner then
      some { store with lease := some ⟨owner, nowMs, leaseUntilMs⟩ }
    else none

def releaseLease (owner : ℕ) : Store :=
  { store with lease := store.lease.filter fun lease => lease.owner ≠ owner }

structure StartRequest where
  startMs : ℤ
  previousHeartbeatMs : Option ℤ
  gapAlertMs : ℤ
  awake : Bool

def settleDown (gaps : List Gap) (request : StartRequest) : Option Gap → List Gap
  | none => gaps
  | some gap =>
    if gapMinMs < saturatingSub request.startMs gap.startedAtMs then
      closeGap gaps .hubDown request.startMs request.gapAlertMs
    else gaps.eraseP (Gap.isOpenOf .hubDown)

def recordDown (gaps : List Gap) (request : StartRequest) : Option ℤ → List Gap
  | none => gaps
  | some heartbeat =>
    if gapMinMs < saturatingSub request.startMs heartbeat then
      insertGap gaps ⟨.hubDown, heartbeat, some request.startMs,
        request.awake || request.gapAlertMs ≤ request.startMs-heartbeat⟩
    else gaps

def closeOrRecordDowntime (gaps : List Gap) (request : StartRequest) : List Gap :=
  let openDown := gaps.find? (Gap.isOpenOf .hubDown)
  let settled := settleDown gaps request openDown
  if gaps.any (Gap.isOpenOf .hubStopped) then closeGap settled .hubStopped request.startMs
    request.gapAlertMs
  else if openDown.isSome then settled
  else recordDown settled request request.previousHeartbeatMs

def beginCollectorRun (request : StartRequest) : Option Store :=
  if request.startMs < 0 then none else
    some { store with gaps := closeOrRecordDowntime store.gaps request }

def beginCadenceWait (request : StartRequest) : Option Store :=
  if request.startMs < 0 then none
  else some { store with
    gaps := insertGap (closeOrRecordDowntime store.gaps request) ⟨.hubStopped, request.startMs,
      none, request.awake⟩ }

def endCollectorRun (stopMs : ℤ) (awake : Bool) : Option Store :=
  if stopMs < 0 then none else some { store with gaps := insertGap store.gaps ⟨.hubStopped, stopMs,
    none, awake⟩ }

inductive Stage where
  | ended
  | read (previousHeartbeatMs : Option ℤ)
  | acquired (owner : ℕ) (previousHeartbeatMs : Option ℤ) (atMs : ℤ)
  | running (owner : ℕ)
  -- the stop could not be recorded
  | unrecorded (owner : ℕ)
  | stopped (owner : ℕ)
  | waiting (owner : ℕ)
  -- a wait that found no predecessor could not begin
  | waitFailed (owner : ℕ)
  deriving DecidableEq

structure LastSign where
  atMs : ℤ
  recorded : Bool

structure Hub where
  store : Store := {}
  stage : Stage := .ended
  owners : ℕ := 0
  lastSign : Option LastSign := none

inductive Action where
  | read
  | acquire
  | beginRun
  | beginWait
  | heartbeat
  | stop
  | release
  | crash
  deriving DecidableEq

structure Event where
  action : Action
  nowMs : ℤ
  awake : Bool
  gapAlertMs : ℤ
  fails : Bool

def Event.transaction (e : Event) (result : Option Store) : Option Store :=
  if e.fails then none else result

def Lease.sign (lease : Lease) : LastSign := ⟨lease.heartbeatAtMs, false⟩

def acquire (s : Hub) (e : Event) (previous : Option ℤ) : Hub :=
  match e.transaction (acquireLease s.store s.owners e.nowMs e.awake) with
  | none => { s with stage := .ended }
  | some store =>
    { s with store := store, stage := .acquired s.owners previous e.nowMs, owners := s.owners+1 }

def beginRun (s : Hub) (e : Event) (owner : ℕ) (previous : Option ℤ) : Hub :=
  match e.transaction (beginCollectorRun s.store ⟨e.nowMs, previous, e.gapAlertMs, e.awake⟩) with
  | none => { s with stage := .ended }
  | some store =>
    { s with store := store, stage := .running owner, lastSign := store.lease.map Lease.sign }

def beginWait (s : Hub) (e : Event) (owner : ℕ) (previous : Option ℤ) (atMs : ℤ) : Hub :=
  match e.transaction (beginCadenceWait s.store ⟨atMs, previous, e.gapAlertMs, e.awake⟩) with
  | none => { s with stage := if previous.isNone then .waitFailed owner else .ended }
  | some store => { s with store := store, stage := .waiting owner }

def renew (s : Hub) (e : Event) (owner : ℕ) (counts : Bool) : Hub :=
  match e.transaction (heartbeatLease s.store owner e.nowMs) with
  | none => s
  | some store =>
    { s with store := store, lastSign := if counts then store.lease.map Lease.sign else s.lastSign }

def stop (s : Hub) (e : Event) (owner : ℕ) : Hub :=
  match e.transaction (endCollectorRun s.store e.nowMs e.awake) with
  | none => { s with stage := .unrecorded owner }
  | some store =>
    { s with store := store, stage := .stopped owner, lastSign := some ⟨e.nowMs, true⟩ }

def release (s : Hub) (owner : ℕ) : Hub :=
  { s with store := releaseLease s.store owner, stage := .ended }

def step (s : Hub) (e : Event) : Hub :=
  match s.stage, e.action with
  | _, .crash => { s with stage := .ended }
  | .ended, .read => { s with stage := .read (s.store.lease.map Lease.heartbeatAtMs) }
  | .read previous, .acquire => acquire s e previous
  | .acquired owner previous _, .beginRun => beginRun s e owner previous
  | .acquired owner previous atMs, .beginWait => beginWait s e owner previous atMs
  | .running owner, .heartbeat => renew s e owner true
  | .unrecorded owner, .heartbeat => renew s e owner true
  | .stopped owner, .heartbeat => renew s e owner false
  | .waiting owner, .heartbeat => renew s e owner false
  | .running owner, .stop => stop s e owner
  | .stopped owner, .release => release s owner
  | .waiting owner, .release => release s owner
  | .waitFailed owner, .release => release s owner
  | _, _ => s

def opens (gaps : List Gap) : List Gap := gaps.filter Gap.isOpen

/-- Closed gaps cover the time from `fromMs` up to `toMs`. -/
def Covered (gaps : List Gap) (fromMs toMs : ℤ) : Prop :=
  ∀ t, fromMs ≤ t → t < toMs → ∃ gap ∈ gaps, ∃ endMs, gap.endedAtMs = some endMs ∧
    gap.startedAtMs ≤ t ∧ t < endMs

def LastSign.latestMs (sign : LastSign) : ℤ :=
  if sign.recorded then sign.atMs else sign.atMs+gapMinMs

variable {gaps gaps' : List Gap} {gap : Gap} {a b c : ℤ}

theorem covered_of_le (h : b ≤ a) : Covered gaps a b := fun _ _ _ => by omega

theorem Covered.trans (hab : Covered gaps a b) (hbc : Covered gaps b c) : Covered gaps a c := by
  intro t hat htc
  by_cases htb : t < b
  · exact hab t hat htb
  · exact hbc t (not_lt.mp htb) htc

def ClosedKept (gaps gaps' : List Gap) : Prop := ∀ gap ∈ gaps, gap.isOpen = false → gap ∈ gaps'

theorem ClosedKept.covered (h : ClosedKept gaps gaps') (hcovered : Covered gaps a b) :
    Covered gaps' a b := by
  intro t hat htb
  obtain ⟨gap, hgap, endMs, hend, hspan⟩ := hcovered t hat htb
  exact ⟨gap, h gap hgap (by simp [Gap.isOpen, hend]), endMs, hend, hspan⟩

variable (kind : GapKind)

theorem opens_closeGap (endMs alertMs : ℤ) :
    opens (closeGap gaps kind endMs alertMs) = (opens gaps).filter fun gap => gap.kind ≠ kind := by
  induction gaps with
  | nil => rfl
  | cons gap gaps ih =>
    have hclosed : (gap.close endMs alertMs).isOpen = false := rfl
    unfold opens closeGap at ih ⊢
    rw [map_cons, filter_cons, filter_cons, ih]
    by_cases hkind : gap.kind = kind <;> cases hopen : gap.isOpen <;> simp [Gap.isOpenOf, hkind,
      hopen, hclosed]

theorem closeGap_closedKept (endMs alertMs : ℤ) :
    ClosedKept gaps (closeGap gaps kind endMs alertMs) := by
  intro gap hgap hclosed
  exact mem_map.mpr ⟨gap, hgap, by simp [Gap.isOpenOf, hclosed]⟩

theorem covered_closeGap {kind : GapKind} {endMs alertMs : ℤ} (hgap : gap ∈ gaps)
    (hopen : gap.isOpenOf kind) :
    Covered (closeGap gaps kind endMs alertMs) gap.startedAtMs endMs := by
  intro t hstart hend
  refine ⟨_, mem_map.mpr ⟨gap, hgap, rfl⟩, max gap.startedAtMs endMs, ?_⟩
  rw [if_pos hopen]
  exact ⟨rfl, hstart, by omega⟩

theorem insertGap_closedKept (gap : Gap) : ClosedKept gaps (insertGap gaps gap) := by
  intro other hother _
  unfold insertGap
  split
  · exact mem_append_left _ hother
  · exact hother

theorem any_isOpenOf :
    gaps.any (Gap.isOpenOf kind) = (opens gaps).any fun gap => gap.kind = kind := by
  unfold opens
  rw [any_filter]
  refine congrArg (any gaps) (funext fun gap => ?_)
  rw [Gap.isOpenOf, Bool.and_comm]

theorem opens_insertGap (hclosed : opens gaps = []) :
    opens (insertGap gaps gap) = [gap].filter Gap.isOpen := by
  unfold insertGap
  rw [any_isOpenOf, hclosed, any_nil, Bool.not_false, Bool.or_true, if_pos rfl]
  unfold opens at hclosed ⊢
  rw [filter_append, hclosed, nil_append]

theorem eraseP_closedKept : ClosedKept gaps (gaps.eraseP (Gap.isOpenOf kind)) := by
  intro gap hgap hclosed
  exact (mem_eraseP_of_neg (by simp [Gap.isOpenOf, hclosed])).mpr hgap

theorem opens_eraseP (hone : opens gaps = [gap]) (hkind : gap.kind = kind) :
    opens (gaps.eraseP (Gap.isOpenOf kind)) = [] := by
  induction gaps with
  | nil => rfl
  | cons other gaps ih =>
    unfold opens at hone ih ⊢
    by_cases hopen : other.isOpen
    · rw [filter_cons_of_pos hopen] at hone
      obtain ⟨rfl, hrest⟩ := cons.inj hone
      rw [eraseP_cons_of_pos (by simp [Gap.isOpenOf, hkind, hopen])]
      exact hrest
    · rw [filter_cons_of_neg hopen] at hone
      rw [eraseP_cons_of_neg (by simp [Gap.isOpenOf, hopen]), filter_cons_of_neg hopen]
      exact ih hone

theorem mem_of_opens (hone : opens gaps = [gap]) : gap ∈ gaps ∧ gap.isOpen := by
  have hmem : gap ∈ opens gaps := hone ▸ mem_singleton_self gap
  exact mem_filter.mp hmem

theorem find_isOpenOf :
    gaps.find? (Gap.isOpenOf kind) = (opens gaps).find? fun gap => gap.kind = kind := by
  unfold opens
  rw [find?_filter]
  refine congrArg (fun p => find? p gaps) (funext fun gap => ?_)
  rw [Gap.isOpenOf, Bool.and_comm]
  simp

theorem sub_le_of_saturatingSub_le {x y m : ℤ} (h : saturatingSub x y ≤ m) (hm : m < i64Max) :
    x-y ≤ m := by
  unfold saturatingSub clampI64 at h
  split_ifs at h <;> omega

theorem recordDown_spec (request : StartRequest) (hopens : opens gaps = []) (previous : Option ℤ) :
    opens (recordDown gaps request previous) = [] ∧
    ClosedKept gaps (recordDown gaps request previous) := by
  cases previous with
  | none => exact ⟨hopens, fun _ hgap _ => hgap⟩
  | some heartbeat =>
    by_cases hlong : gapMinMs < saturatingSub request.startMs heartbeat
    · rw [recordDown, if_pos hlong]
      exact ⟨opens_insertGap hopens, insertGap_closedKept _⟩
    · rw [recordDown, if_neg hlong]
      exact ⟨hopens, fun _ hgap _ => hgap⟩

/-- A start leaves no gap open, keeps the closed ones and covers the time of the open one. -/
theorem closeOrRecordDowntime_spec (request : StartRequest) (hone : (opens gaps).length ≤ 1) :
    opens (closeOrRecordDowntime gaps request) = [] ∧
    ClosedKept gaps (closeOrRecordDowntime gaps request) ∧ ∀ gap, opens gaps = [gap] →
    Covered (closeOrRecordDowntime gaps request) gap.startedAtMs request.startMs ∨
    gap.kind = .hubDown ∧ request.startMs ≤ gap.startedAtMs+gapMinMs := by
  have hfind := @find_isOpenOf gaps .hubDown
  have hany := @any_isOpenOf gaps .hubStopped
  match hopens : opens gaps, hone with
  | [], _ =>
    have heq : closeOrRecordDowntime gaps request = recordDown gaps request
        request.previousHeartbeatMs := by
      rw [closeOrRecordDowntime, hfind, hany, hopens]
      rfl
    obtain ⟨hopens', hclosed⟩ := recordDown_spec request hopens request.previousHeartbeatMs
    rw [heq]
    exact ⟨hopens', hclosed, nofun⟩
  | [gap], _ =>
    obtain ⟨hgap, hopen⟩ := mem_of_opens hopens
    have hopenOf : gap.isOpenOf gap.kind := by simp [Gap.isOpenOf, hopen]
    have hclosing (alertMs : ℤ) : opens (closeGap gaps gap.kind request.startMs alertMs) = [] := by
      rw [opens_closeGap, hopens]
      simp
    cases hkind : gap.kind with
    | hubStopped =>
      have heq : closeOrRecordDowntime gaps request = closeGap gaps gap.kind request.startMs
          request.gapAlertMs := by
        rw [closeOrRecordDowntime, hfind, hany, hopens]
        simp [hkind, settleDown]
      rw [heq]
      refine ⟨hclosing _, closeGap_closedKept _ _ _, fun other hother => ?_⟩
      cases hother
      exact .inl (covered_closeGap hgap hopenOf)
    | hubDown =>
      have heq : closeOrRecordDowntime gaps request = settleDown gaps request (some gap) := by
        rw [closeOrRecordDowntime, hfind, hany, hopens]
        simp [hkind]
      rw [heq, settleDown, ← hkind]
      split_ifs with hshort
      · refine ⟨hclosing _, closeGap_closedKept _ _ _, fun other hother => ?_⟩
        cases hother
        exact .inl (covered_closeGap hgap hopenOf)
      · refine ⟨opens_eraseP _ hopens rfl, eraseP_closedKept _, fun other hother => ?_⟩
        cases hother
        have := sub_le_of_saturatingSub_le (not_lt.mp hshort) (by decide)
        exact .inr ⟨rfl, by omega⟩

def Carried (gaps : List Gap) (lastSign : Option LastSign) : Prop :=
  ∀ sign, lastSign = some sign → ∃ gap, opens gaps = [gap] ∧
    (gap.kind = .hubDown → gap.startedAtMs = sign.atMs ∧ sign.recorded = false) ∧
    ∃ c ≤ sign.latestMs, Covered gaps c gap.startedAtMs

def Leased (lastSign : Option LastSign) : Prop :=
  opens store.gaps = [] ∧ lastSign = store.lease.map Lease.sign

def Recorded (s : Hub) : Stage → Prop
  | .running _ | .unrecorded _ => Leased s.store s.lastSign
  | .ended | .read _ => Carried s.store.gaps s.lastSign ∨ Leased s.store s.lastSign
  | .acquired .. | .stopped _ | .waiting _ | .waitFailed _ => Carried s.store.gaps s.lastSign

structure Kept (s : Hub) : Prop where
  one : (opens s.store.gaps).length ≤ 1
  recorded : Recorded s s.stage

theorem acquireLease_eq {store store' : Store} {owner : ℕ} {nowMs : ℤ} {awake : Bool}
    (h : acquireLease store owner nowMs awake = some store') : (∀ lease, store.lease = some lease →
      lease.leaseUntilMs ≤ nowMs) ∧ store'.gaps = recordPredecessorDowntime store nowMs awake := by
  obtain ⟨leaseUntilMs, -, h⟩ := Option.bind_eq_some_iff.mp h
  split_ifs at h with hfree
  cases h
  refine ⟨fun lease hlease => ?_, rfl⟩
  simpa [hlease] using hfree

theorem any_isOpen_iff : gaps.any Gap.isOpen ↔ opens gaps ≠ [] := by
  rw [any_eq_true, opens, ne_eq, filter_eq_nil_iff]
  push Not
  rfl

variable {lastSign : Option LastSign}

theorem acquired_carried {store : Store} {nowMs : ℤ} {awake : Bool}
    (hexpired : ∀ lease, store.lease = some lease → lease.leaseUntilMs ≤ nowMs)
    (h : Carried store.gaps lastSign ∨ Leased store lastSign)
    (hone : (opens store.gaps).length ≤ 1) :
    (opens (recordPredecessorDowntime store nowMs awake)).length ≤ 1 ∧
      Carried (recordPredecessorDowntime store nowMs awake) lastSign := by
  have hkept : opens store.gaps ≠ [] → recordPredecessorDowntime store nowMs awake =
      store.gaps := by
    intro hopen
    unfold recordPredecessorDowntime
    split
    · rfl
    · rw [if_pos (any_isOpen_iff.mpr hopen), ite_self]
  cases hlease : store.lease with
  | none =>
    have hsame : recordPredecessorDowntime store nowMs awake = store.gaps := by
      unfold recordPredecessorDowntime
      rw [hlease]
    rw [hsame]
    refine ⟨hone, ?_⟩
    rcases h with h | ⟨-, hsign⟩
    · exact h
    · rw [hsign, hlease]
      exact nofun
  | some lease =>
    by_cases hopens : opens store.gaps = []
    · have hnew : opens (recordPredecessorDowntime store nowMs awake) =
          [⟨.hubDown, lease.heartbeatAtMs, none, awake⟩] := by
        unfold recordPredecessorDowntime
        rw [hlease]
        dsimp only
        rw [if_neg (not_lt.mpr (hexpired lease hlease)),
          if_neg (fun h => any_isOpen_iff.mp h hopens), opens_insertGap hopens]
        rfl
      refine ⟨hnew ▸ le_rfl, fun sign hsign => ⟨_, hnew, ?_⟩⟩
      rcases h with h | ⟨-, hlast⟩
      · obtain ⟨gap, hgap, -⟩ := h sign hsign
        exact absurd (hopens.symm.trans hgap) nofun
      · rw [hsign, hlease] at hlast
        cases hlast
        exact ⟨fun _ => ⟨rfl, rfl⟩, lease.heartbeatAtMs, le_add_of_nonneg_right (by decide),
          covered_of_le le_rfl⟩
    · rw [hkept hopens]
      rcases h with h | h
      · exact ⟨hone, h⟩
      · exact absurd h.1 hopens

theorem Carried.started {sign : LastSign} (h : Carried gaps (some sign)) (request : StartRequest) :
    ∃ c ≤ sign.latestMs, Covered (closeOrRecordDowntime gaps request) c request.startMs := by
  obtain ⟨gap, hgap, hdown, c, hc, hcovered⟩ := h sign rfl
  have hone : (opens gaps).length ≤ 1 := by rw [hgap, length_singleton]
  obtain ⟨-, hclosed, hspan⟩ := closeOrRecordDowntime_spec request hone
  rcases hspan gap hgap with hsince | ⟨hkind, hshort⟩
  · exact ⟨c, hc, (hclosed.covered hcovered).trans hsince⟩
  · obtain ⟨hstart, hunrecorded⟩ := hdown hkind
    refine ⟨request.startMs, ?_, covered_of_le le_rfl⟩
    rw [LastSign.latestMs, hunrecorded, if_neg Bool.false_ne_true]
    omega

theorem Carried.waits (h : Carried gaps lastSign) (hone : (opens gaps).length ≤ 1)
    (request : StartRequest) :
    Carried (insertGap (closeOrRecordDowntime gaps request) ⟨.hubStopped, request.startMs, none,
    request.awake⟩) lastSign := by
  rintro sign rfl
  obtain ⟨c, hc, hcovered⟩ := h.started request
  exact ⟨_, opens_insertGap (closeOrRecordDowntime_spec request hone).1, nofun, c, hc,
    (insertGap_closedKept _).covered hcovered⟩

theorem transaction_eq {e : Event} {result : Option Store} {store : Store}
    (h : e.transaction result = some store) : result = some store := by
  unfold Event.transaction at h
  split_ifs at h
  · exact h

theorem heartbeatLease_gaps {store store' : Store} {owner : ℕ} {nowMs : ℤ}
    (h : heartbeatLease store owner nowMs = some store') : store'.gaps = store.gaps := by
  obtain ⟨leaseUntilMs, -, h⟩ := Option.bind_eq_some_iff.mp h
  split at h
  · cases h
    rfl
  · cases h

variable {s : Hub} {e : Event}

theorem Recorded.ended {stage : Stage} (h : Recorded s stage) : Recorded s .ended := by
  cases stage
  case running | unrecorded => exact .inr h
  case ended | read => exact h
  case acquired | stopped | waiting | waitFailed => exact .inl h

theorem Kept.renew {owner : ℕ} {counts : Bool} (h : Kept s)
    (hstage : ∀ s' : Hub, s'.store.gaps = s.store.gaps →
    (if counts then s'.lastSign = s'.store.lease.map Lease.sign else s'.lastSign = s.lastSign) →
    Recorded s' s.stage) : Kept (renew s e owner counts) := by
  unfold Downtime.renew
  split
  · exact h
  rename_i store hstore
  have hgaps := heartbeatLease_gaps (transaction_eq hstore)
  refine ⟨hgaps ▸ h.one, hstage _ hgaps ?_⟩
  cases counts <;> rfl

theorem Kept.acquire (h : Kept s) (previous : Option ℤ)
    (hrecorded : Carried s.store.gaps s.lastSign ∨ Leased s.store s.lastSign) :
    Kept (acquire s e previous) := by
  unfold Downtime.acquire
  split
  · exact ⟨h.one, hrecorded⟩
  rename_i store hstore
  obtain ⟨hexpired, hgaps⟩ := acquireLease_eq (transaction_eq hstore)
  obtain ⟨hone, hcarried⟩ := @acquired_carried _ _ _ e.awake hexpired hrecorded h.one
  rw [← hgaps] at hone hcarried
  exact ⟨hone, hcarried⟩

theorem Kept.beginRun (h : Kept s) (hcarried : Carried s.store.gaps s.lastSign) (owner : ℕ)
    (previous : Option ℤ) :
    Kept (beginRun s e owner previous) ∧ ((beginRun s e owner previous).stage = .running owner →
      opens (beginRun s e owner previous).store.gaps = [] ∧ ∀ sign, s.lastSign = some sign →
        ∃ c ≤ sign.latestMs, Covered (beginRun s e owner previous).store.gaps c e.nowMs) := by
  unfold Downtime.beginRun
  split
  · exact ⟨⟨h.one, .inl hcarried⟩, nofun⟩
  rename_i store hstore
  have hbegin := transaction_eq hstore
  unfold beginCollectorRun at hbegin
  split_ifs at hbegin
  cases hbegin
  have hopens := (closeOrRecordDowntime_spec ⟨e.nowMs, previous, e.gapAlertMs, e.awake⟩ h.one).1
  refine ⟨⟨?_, hopens, rfl⟩, fun _ => ⟨hopens, fun sign hsign => ?_⟩⟩
  · rw [hopens]
    exact Nat.zero_le 1
  · rw [hsign] at hcarried
    exact hcarried.started _

theorem Kept.beginWait (h : Kept s) (hcarried : Carried s.store.gaps s.lastSign) (owner : ℕ)
    (previous : Option ℤ) (atMs : ℤ) : Kept (beginWait s e owner previous atMs) := by
  unfold Downtime.beginWait
  split
  · refine ⟨h.one, ?_⟩
    cases previous with
    | none => exact hcarried
    | some _ => exact .inl hcarried
  rename_i store hstore
  have hbegin := transaction_eq hstore
  unfold beginCadenceWait at hbegin
  split_ifs at hbegin
  cases hbegin
  have hopens := (closeOrRecordDowntime_spec ⟨atMs, previous, e.gapAlertMs, e.awake⟩ h.one).1
  refine ⟨?_, hcarried.waits h.one _⟩
  rw [opens_insertGap hopens]
  exact le_rfl

theorem Kept.stop (h : Kept s) (hleased : Leased s.store s.lastSign) (owner : ℕ) :
    Kept (stop s e owner) := by
  unfold Downtime.stop
  split
  · exact ⟨h.one, hleased⟩
  rename_i store hstore
  have hend := transaction_eq hstore
  unfold endCollectorRun at hend
  split_ifs at hend
  cases hend
  have hopens := @opens_insertGap s.store.gaps ⟨.hubStopped, e.nowMs, none, e.awake⟩ hleased.1
  refine ⟨?_, fun sign hsign => ⟨_, hopens, nofun, e.nowMs, ?_, covered_of_le le_rfl⟩⟩
  · rw [hopens]
    exact le_rfl
  · cases hsign
    exact le_rfl

/-- Every event of a process keeps what the gaps owe to the start before it. -/
theorem step_kept (h : Kept s) (e : Event) : Kept (step s e) := by
  have hrecorded := h.recorded
  have hleased (hrun : Leased s.store s.lastSign) (s' : Hub) (hgaps : s'.store.gaps = s.store.gaps)
      (hsign : s'.lastSign = s'.store.lease.map Lease.sign) : Leased s'.store s'.lastSign :=
        ⟨hgaps ▸ hrun.1, hsign⟩
  have hcarried (hgap : Carried s.store.gaps s.lastSign) (s' : Hub) (hgaps : s'.store.gaps =
      s.store.gaps)
      (hsign : s'.lastSign = s.lastSign) : Carried s'.store.gaps s'.lastSign := hgaps ▸ hsign ▸ hgap
  unfold step
  split <;> rename_i hstage _ <;> try rw [hstage] at hrecorded
  · exact ⟨h.one, hrecorded.ended⟩
  · exact ⟨h.one, hrecorded⟩
  · exact h.acquire _ hrecorded
  · exact (h.beginRun hrecorded _ _).1
  · exact h.beginWait hrecorded _ _ _
  · exact h.renew (hstage ▸ hleased hrecorded)
  · exact h.renew (hstage ▸ hleased hrecorded)
  · exact h.renew (hstage ▸ hcarried hrecorded)
  · exact h.renew (hstage ▸ hcarried hrecorded)
  · exact h.stop hrecorded _
  · exact ⟨h.one, .inl hrecorded⟩
  · exact ⟨h.one, .inl hrecorded⟩
  · exact ⟨h.one, .inl hrecorded⟩
  · exact h

/-- So every run of processes keeps it, from an empty store on. -/
theorem run_kept (es : List Event) : Kept (es.foldl step {}) :=
  foldlRecOn es step ⟨Nat.zero_le 1, .inl nofun⟩ fun _ h e _ => step_kept h e

/-- At most one gap is open, a run that begins leaves none open, and the time since the last sign of
life before it is covered but for a short stretch. -/
theorem downtime_is_never_lost (es : List Event) : let s := es.foldl step {}
    (opens s.store.gaps).length ≤ 1 ∧ ∀ owner previous atMs e, s.stage = .acquired owner previous
      atMs →
      e.action = .beginRun → (step s e).stage = .running owner → opens (step s e).store.gaps = [] ∧
        ∀ sign, s.lastSign = some sign → ∃ c ≤ sign.latestMs, Covered (step s e).store.gaps c
          e.nowMs := by
  intro s
  refine ⟨(run_kept es).one, fun owner previous atMs e hstage haction => ?_⟩
  have hcarried : Recorded s (.acquired owner previous atMs) := hstage ▸ (run_kept es).recorded
  have hstep : step s e = beginRun s e owner previous := by
    unfold step
    rw [hstage, haction]
  rw [hstep]
  exact ((run_kept es).beginRun hcarried owner previous).2

def event (action : Action) (nowMs : ℤ) (fails : Bool) : Event :=
  ⟨action, nowMs, true, 900000, fails⟩

def crashed : List Event :=
  [event .read 0 false, event .acquire 1000 false, event .beginRun 2000 false,
    event .heartbeat 7000 false, event .crash 8000 false, event .read 40000 false,
      event .acquire 40000 false, event .beginRun 41000 true,
    event .read 90000 false, event .acquire 90000 false]

theorem downtime_is_never_lost_crashed :
    (step (crashed.foldl step {}) (event .beginRun 91000 false)).store.gaps =
    [⟨.hubDown, 7000, some 91000, true⟩] ∧
    opens (step (crashed.foldl step {}) (event .beginRun 91000 false)).store.gaps = [] := by
  have hstage : (crashed.foldl step {}).stage = .acquired 2 (some 40000) 90000 := by decide +kernel
  exact ⟨by decide +kernel, ((downtime_is_never_lost crashed).2 _ _ _ _ hstage rfl
    (by decide +kernel)).1⟩

end TeslatlasHub.Downtime
