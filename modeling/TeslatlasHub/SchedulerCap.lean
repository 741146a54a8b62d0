import TeslatlasHub.RunRules
import TeslatlasHub.SchedulerEvents

namespace TeslatlasHub.Collector

open List LedgerState RequestCategory Function RunRules

/-! ### The ledger, its stored rows and the bill (C3 R24 to R27) -/

structure Bill where
  (unsent outstanding mayBill : ℕ := 0)
  deriving DecidableEq

inductive CounterWrite where
  | idle
  | captured (rows : List CollectorCounterRow)
  | committed (rows : List CollectorCounterRow)

structure MonthMoment (month : Month) where
  now : Instant
  wall : ℤ
  inside : Month.containing wall = some month

def MonthMoment.moment {month : Month} (m : MonthMoment month) : Moment := ⟨m.now, some m.wall⟩

structure CapState where
  ledger : LedgerState
  store : RequestCategory → Option CounterView := fun _ => none
  write : CounterWrite := .idle
  bills : RequestCategory → Bill := fun _ => {}

inductive CapEvent (month : Month) where
  | plan (requests : List (RequestCategory × ℕ))
  | start (category : RequestCategory)
  | send (category : RequestCategory)
  | complete (category : RequestCategory) (billable : Bool)
  /-- The guard is dropped before anything was sent. -/
  | takeBack (category : RequestCategory)
  /-- The guard is dropped after the request was sent. -/
  | dropSent (category : RequestCategory)
  /-- A request nobody admitted, from its sending to its answer. -/
  | recordCompleted (category : RequestCategory) (billable : Bool)
  | capture
  | commit
  | lose
  | markPersisted (now : Instant)
  /-- The process ends and another one loads the rows. -/
  | crash (m : MonthMoment month)

def CounterView.ofRow (row : CollectorCounterRow) : CounterView :=
  ⟨row.sent, row.billable, row.reserved⟩

def commitRows (rows : List CollectorCounterRow) (store : RequestCategory → Option CounterView) :
    RequestCategory → Option CounterView :=
  rows.foldl (fun store row => Function.update store row.category (some (.ofRow row))) store

def storedRows (month : Month) (mode : CollectorMode) (store : RequestCategory → Option CounterView)
    :
    List CollectorCounterRow :=
  RequestCategory.all.filterMap fun category =>
    (store category).map fun view => ⟨month, mode, category, view.sent, view.billable,
      view.reserved⟩

namespace CapState

variable (s : CapState)

def setBill (category : RequestCategory) (bill : Bill) : RequestCategory → Bill :=
  Function.update s.bills category bill

def stored (category : RequestCategory) : CounterView := (s.store category).getD {}

def step (mode : CollectorMode) (fleet : FleetPolicy) {month : Month} (s : CapState) :
    CapEvent month → CapState
  | .plan requests => { s with ledger := (s.ledger.plan requests).1 }
  | .start category =>
    let bill := s.bills category
    match s.ledger.start category with
    | (ledger, .admitted) =>
      { s with ledger, bills := s.setBill category { bill with unsent := bill.unsent+1 } }
    | (ledger, .withheld _) => { s with ledger }
  | .send category =>
    let bill := s.bills category
    if bill.unsent = 0 then s
    else
      { s with
        bills := s.setBill category
          ⟨bill.unsent-1, bill.outstanding+1, bill.mayBill+1⟩ }
  | .complete category billable =>
    let bill := s.bills category
    if bill.outstanding = 0 then s
    else
      { s with
        ledger := s.ledger.complete category billable
        bills := s.setBill category
          ⟨bill.unsent, bill.outstanding-1, bill.mayBill-(if billable then 0 else 1)⟩ }
  | .takeBack category =>
    let bill := s.bills category
    if bill.unsent = 0 then s
    else
      { s with
        ledger := s.ledger.unstart category
        bills := s.setBill category { bill with unsent := bill.unsent-1 } }
  | .dropSent category =>
    let bill := s.bills category
    if bill.outstanding = 0 then s
    else
      { s with
        ledger := s.ledger.unstart category
        bills := s.setBill category { bill with outstanding := bill.outstanding-1 } }
  | .recordCompleted category billable =>
    let bill := s.bills category
    { s with
      ledger := s.ledger.recordCompleted category billable
      bills := s.setBill category { bill with mayBill := bill.mayBill+(if billable then 1 else 0) }
        }
  | .capture =>
    match s.write with
    | .idle => { s with write := .captured s.ledger.rows }
    | .captured _ | .committed _ => s
  | .commit =>
    match s.write with
    | .captured rows => { s with store := commitRows rows s.store, write := .committed rows }
    | .idle | .committed _ => s
  | .lose =>
    match s.write with
    | .captured _ => { s with write := .idle }
    | .idle | .committed _ => s
  | .markPersisted now =>
    match s.write with
    | .committed rows => { s with ledger := s.ledger.markPersisted rows now, write := .idle }
    | .idle | .captured _ => s
  | .crash m =>
    { s with
      ledger := (LedgerState.new mode fleet m.moment).load (storedRows month mode s.store) m.moment
      write := .idle
      -- what was sent and not answered may be billed, and nobody will know
      bills := fun category => { s.bills category with unsent := 0, outstanding := 0 } }

def run (mode : CollectorMode) (fleet : FleetPolicy) {month : Month} (s : CapState)
    (events : List (CapEvent month)) :
    CapState :=
  events.foldl (step mode fleet) s

end CapState

structure Counted (count : CategoryCount) (bill : Bill) : Prop where
  may : bill.mayBill ≤ count.billable+bill.outstanding
  guards : bill.outstanding+bill.unsent = count.inFlight
  sent : count.billable+count.inFlight ≤ count.sent

structure Covers (view : CounterView) (count : CategoryCount) (bill : Bill) : Prop where
  known : view.billable ≤ view.sent
  since : bill.mayBill+bill.unsent+view.sent ≤ view.billable+count.sent

structure Moves (count : CategoryCount) (bill : Bill) (count' : CategoryCount) (bill' : Bill) :
    Prop where
  counted : Counted count' bill'
  since : bill'.mayBill+bill'.unsent+count.sent ≤ bill.mayBill+bill.unsent+count'.sent

variable {count : CategoryCount} {l : LedgerState}

variable {count' : CategoryCount}

theorem Covers.of_moves {view : CounterView} {bill bill' : Bill}
    (h : Covers view count bill) (hm : Moves count bill count' bill') :
    Covers view count' bill' := by
  have := h.since
  have := hm.since
  exact ⟨h.known, by omega⟩

theorem Counted.covers {bill : Bill} (h : Counted count bill) : Covers count.view count bill := by
  have := h.may
  have := h.guards
  have := h.sent
  unfold CategoryCount.view
  constructor
  · dsimp only
    omega
  · dsimp only
    omega

structure SameRequests (count count' : CategoryCount) : Prop where
  sent : count'.sent = count.sent
  billable : count'.billable = count.billable
  inFlight : count'.inFlight = count.inFlight

theorem SameRequests.refl (count : CategoryCount) : SameRequests count count := ⟨rfl, rfl, rfl⟩

theorem SameRequests.trans {a b c : CategoryCount} (h : SameRequests a b) (h' : SameRequests b c) :
    SameRequests a c :=
  ⟨h'.sent.trans h.sent, h'.billable.trans h.billable, h'.inFlight.trans h.inFlight⟩

theorem SameRequests.moves {bill : Bill} (h : SameRequests count count')
    (hc : Counted count bill) : Moves count bill count' bill := by
  refine ⟨⟨?_, ?_, ?_⟩, ?_⟩
  · rw [h.billable]
    exact hc.may
  · rw [h.inFlight]
    exact hc.guards
  · rw [h.billable, h.inFlight, h.sent]
    exact hc.sent
  · rw [h.sent]

namespace LedgerState

variable {l : LedgerState} {category : RequestCategory}

structure Configured (mode : CollectorMode) (fleet : FleetPolicy) (month : Month)
    (l : LedgerState) : Prop where
  mode : l.mode = mode
  pricing : l.pricing = fleet.pricing
  capUnits : l.capUnits = fleet.monthlyCapCents*costUnitsPerCent
  span : l.span = month

structure SameConfig (l l' : LedgerState) : Prop where
  mode : l'.mode = l.mode
  pricing : l'.pricing = l.pricing
  capUnits : l'.capUnits = l.capUnits
  span : l'.span = l.span

theorem SameConfig.refl (l : LedgerState) : SameConfig l l := ⟨rfl, rfl, rfl, rfl⟩

theorem SameConfig.trans {a b c : LedgerState} (h : SameConfig a b) (h' : SameConfig b c) :
    SameConfig a c :=
  ⟨h'.mode.trans h.mode, h'.pricing.trans h.pricing, h'.capUnits.trans h.capUnits,
    h'.span.trans h.span⟩

variable {l' : LedgerState}

theorem Configured.of_same {mode : CollectorMode} {fleet : FleetPolicy} {month : Month}
    (h : Configured mode fleet month l) (hs : SameConfig l l') : Configured mode fleet month l' :=
  ⟨hs.mode.trans h.mode, hs.pricing.trans h.pricing, hs.capUnits.trans h.capUnits,
    hs.span.trans h.span⟩

theorem SameConfig.billed (h : SameConfig l l') (category : RequestCategory) :
    l'.billed category = l.billed category := by
  unfold LedgerState.billed
  rw [h.mode, h.pricing]

structure SameCounts (l l' : LedgerState) : Prop where
  config : SameConfig l l'
  requests : ∀ category, SameRequests (l.counts category) (l'.counts category)

theorem SameCounts.refl (l : LedgerState) : SameCounts l l :=
  ⟨SameConfig.refl l, fun _ => SameRequests.refl _⟩

theorem SameCounts.foldl {α : Type} {step : LedgerState → α → LedgerState}
    (h : ∀ l x, SameCounts l (step l x)) (xs : List α) (l : LedgerState) :
    SameCounts l (xs.foldl step l) := by
  induction xs generalizing l with
  | nil => exact SameCounts.refl l
  | cons x xs ih =>
    have hx := h l x
    have hxs := ih (step l x)
    exact ⟨hx.config.trans hxs.config, fun category => (hx.requests category).trans
      (hxs.requests category)⟩

theorem setCount_sameRequests (h : SameRequests (l.counts category) count)
    (category' : RequestCategory) :
    SameRequests (l.counts category') ((l.setCount category count).counts category') := by
  unfold setCount
  dsimp only
  by_cases hc : category' = category
  · rw [hc, update_self]
    exact h
  · rw [update_of_ne hc]
    exact SameRequests.refl _

theorem planOne_same (l : LedgerState) (request : RequestCategory × ℕ) :
    SameCounts l (l.planOne request.1 request.2) := by
  unfold planOne
  dsimp only
  split_ifs
  · exact SameCounts.refl l
  · exact SameCounts.refl l
  · exact ⟨⟨rfl, rfl, rfl, rfl⟩, setCount_sameRequests ⟨rfl, rfl, rfl⟩⟩

theorem plan_same (l : LedgerState) (requests : List (RequestCategory × ℕ)) :
    SameCounts l (l.plan requests).1 := by
  unfold plan
  split_ifs
  · exact SameCounts.refl l
  · exact SameCounts.foldl planOne_same requests l

theorem markRow_same (l : LedgerState) (row : CollectorCounterRow) :
    SameCounts l (l.markRow row) := by
  unfold markRow
  split_ifs
  · exact SameCounts.refl l
  · exact ⟨⟨rfl, rfl, rfl, rfl⟩, setCount_sameRequests ⟨rfl, rfl, rfl⟩⟩

theorem markPersisted_same (l : LedgerState) (rows : List CollectorCounterRow) (now : Instant) :
    SameCounts l (l.markPersisted rows now) := by
  have h := SameCounts.foldl markRow_same rows l
  exact ⟨⟨h.config.mode, h.config.pricing, h.config.capUnits, h.config.span⟩, h.requests⟩

/-! Each operation on one category, with the bill of its request. -/

variable {count : CategoryCount} {bill : Bill}

theorem countStart_moves (h : Counted (l.counts category) bill) : Moves (l.counts category)
    bill ((l.countStart category).counts category) { bill with unsent := bill.unsent+1 } := by
  have hmay := h.may
  have hguards := h.guards
  have hsent := h.sent
  unfold countStart setCount
  dsimp only
  rw [update_self]
  refine ⟨⟨hmay, ?_, ?_⟩, ?_⟩ <;> dsimp only <;> omega

theorem send_moves (h : Counted count bill) (hunsent : bill.unsent ≠ 0) :
    Moves count bill count ⟨bill.unsent-1, bill.outstanding+1, bill.mayBill+1⟩ := by
  have hmay := h.may
  have hguards := h.guards
  refine ⟨⟨?_, ?_, h.sent⟩, ?_⟩ <;> dsimp only <;> omega

section

variable (h : Counted (l.counts category) bill)
include h

theorem complete_moves (hbilled : l.billed category) (hout : bill.outstanding ≠ 0)
    (billable : Bool) :
    Moves (l.counts category) bill ((l.complete category billable).counts category)
      ⟨bill.unsent, bill.outstanding-1, bill.mayBill-(if billable then 0 else 1)⟩ := by
  have hmay := h.may
  have hguards := h.guards
  have hsent := h.sent
  unfold complete setCount
  dsimp only
  rw [update_self, hbilled]
  cases billable with
  | true =>
    -- there is room for one more billable request, since one was in flight
    have hroom : (l.counts category).billable < (l.counts category).sent := by omega
    rw [Bool.true_and, Bool.true_and, decide_eq_true hroom, if_pos rfl]
    refine ⟨⟨?_, ?_, ?_⟩, ?_⟩ <;> dsimp only <;> omega
  | false =>
    simp only [Bool.and_false, Bool.false_and, Bool.false_eq_true, if_false]
    refine ⟨⟨?_, ?_, ?_⟩, ?_⟩ <;> dsimp only <;> omega

theorem unstart_moves (hunsent : bill.unsent ≠ 0) : Moves (l.counts category)
    bill ((l.unstart category).counts category) { bill with unsent := bill.unsent-1 } := by
  have hmay := h.may
  have hguards := h.guards
  have hsent := h.sent
  unfold unstart setCount
  dsimp only
  rw [update_self]
  refine ⟨⟨hmay, ?_, ?_⟩, ?_⟩ <;> dsimp only <;> omega

theorem recordCompleted_moves (hbilled : l.billed category) (billable : Bool) :
    Moves (l.counts category) bill ((l.recordCompleted category billable).counts category)
      { bill with mayBill := bill.mayBill+(if billable then 1 else 0) } := by
  have hmay := h.may
  have hguards := h.guards
  have hsent := h.sent
  unfold recordCompleted setCount
  dsimp only
  rw [update_self, hbilled, if_pos rfl]
  cases billable with
  | true =>
    simp only [if_true]
    refine ⟨⟨?_, ?_, ?_⟩, ?_⟩ <;> dsimp only <;> omega
  | false =>
    simp only [Bool.false_eq_true, if_false]
    refine ⟨⟨?_, ?_, ?_⟩, ?_⟩ <;> dsimp only <;> omega

end

end LedgerState

theorem RequestCategory.mem_all (category : RequestCategory) : category ∈ all := by
  cases category <;> decide

theorem RequestCategory.all_nodup : all.Nodup := by decide

instance : Fintype RequestCategory :=
  ⟨⟨RequestCategory.all, RequestCategory.all_nodup⟩, RequestCategory.mem_all⟩

theorem commitRows_rows (l : LedgerState) (store : RequestCategory → Option CounterView)
    (category : RequestCategory) :
    commitRows l.rows store category = if (l.counts category).view = l.persisted category then
      store category
      else some (l.counts category).view := by
  have hkey (a : RequestCategory) (row : CollectorCounterRow)
      (h : (if (l.counts a).view = l.persisted a then none
      else some ⟨l.span, l.mode, a, (l.counts a).view.sent, (l.counts a).view.billable,
        (l.counts a).view.reserved⟩) = some row) : row.category = a := by
    split_ifs at h
    cases h
    rfl
  obtain ⟨-, hlook⟩ := foldl_settles (P := fun _ => True)
    (L := fun (store : RequestCategory → Option CounterView) c => store c)
    (V := fun row => some (CounterView.ofRow row)) (fun _ _ _ _ => trivial)
    (fun store row _ _ c => update_apply store row.category _ c)
    (nodup_filterMap_key hkey all_nodup) trivial
  refine (hlook category).trans ?_
  rw [find?_filterMap_key hkey, if_pos category.mem_all]
  split_ifs
  · rfl
  · rfl

theorem foldl_max_const (month : Month) (months : List Month) (h : ∀ m ∈ months, m = month) :
    months.foldl max month = month := by
  induction months with
  | nil => rfl
  | cons m months ih =>
    rw [foldl_cons, h m mem_cons_self, max_self]
    exact ih fun m hm => h m (mem_cons_of_mem _ hm)

namespace LedgerState

theorem load_storedRows (mode : CollectorMode) (fleet : FleetPolicy) {month : Month}
    (m : MonthMoment month) (store : RequestCategory → Option CounterView) :
    Configured mode fleet month ((new mode fleet m.moment).load (storedRows month mode store)
      m.moment) ∧
    ∀ category, ((new mode fleet m.moment).load (storedRows month mode store) m.moment).counts
      category =
      match store category with
      | none => {}
      | some view =>
        (new mode fleet m.moment).restoredCount ⟨month, mode, category, view.sent, view.billable,
          view.reserved⟩ := by
  let base : LedgerState := { new mode fleet m.moment with
    anchor := m.moment.wall.elim (new mode fleet m.moment).anchor (m.now, ·)
    span := ((storedRows month mode store).map (·.month)).foldl max month
    frozen := false
    counts := fun _ => {}
    persisted := fun _ => {}
    lastFlush := m.now }
  have hload : (new mode fleet m.moment).load (storedRows month mode store) m.moment =
      (storedRows month mode store).foldl loadRow base := by
    unfold load
    rw [show m.moment.wall.bind Month.containing = some month from m.inside]
    rfl
  have hrow (row : CollectorCounterRow) (hmem : row ∈ storedRows month mode store) :
      row.month = month ∧ row.mode = mode := by
    obtain ⟨category, -, hc⟩ := mem_filterMap.mp hmem
    obtain ⟨view, -, rfl⟩ := Option.map_eq_some_iff.mp hc
    exact ⟨rfl, rfl⟩
  have hspan : base.span = month := by
    refine foldl_max_const month _ fun x hx => ?_
    obtain ⟨row, hmem, rfl⟩ := mem_map.mp hx
    exact (hrow row hmem).1
  have hstep (l : LedgerState) (row : CollectorCounterRow) (hmem : row ∈ storedRows month
      mode store)
      (hl : SameConfig base l) : SameConfig base (l.loadRow row) ∧ ∀ c, (l.loadRow row).counts c =
        if c = row.category then (new mode fleet m.moment).restoredCount row else l.counts c := by
    obtain ⟨hmonth, hmode⟩ := hrow row hmem
    have hread : (decide (row.month ≠ l.span) || decide (row.mode ≠ l.mode)) = false := by
      rw [hl.span, hl.mode, hspan, hmonth, hmode]
      exact congrArg₂ or (decide_eq_false fun hc => hc rfl) (decide_eq_false fun hc => hc rfl)
    unfold loadRow
    rw [hread]
    refine ⟨⟨hl.mode, hl.pricing, hl.capUnits, hl.span⟩, fun c => ?_⟩
    have hrestored : l.restoredCount row = (new mode fleet m.moment).restoredCount row := by
      unfold restoredCount
      rw [hl.billed]
      rfl
    rw [← hrestored]
    exact update_apply l.counts row.category _ c
  have hkey (a : RequestCategory) (row : CollectorCounterRow)
      (h : (store a).map (fun view => (⟨month, mode, a, view.sent, view.billable, view.reserved⟩ :
        CollectorCounterRow)) = some row) : row.category = a := by
    obtain ⟨view, -, rfl⟩ := Option.map_eq_some_iff.mp h
    rfl
  obtain ⟨hend, hlook⟩ := foldl_settles (P := SameConfig base) (L := fun l c => l.counts c)
    (V := (new mode fleet m.moment).restoredCount) (fun l row hmem hl => (hstep l row hmem hl).1)
    (fun l row hmem hl => (hstep l row hmem hl).2)
    (nodup_filterMap_key hkey all_nodup) (SameConfig.refl base)
  rw [hload]
  refine ⟨⟨hend.mode, hend.pricing, hend.capUnits, hend.span.trans hspan⟩, fun category => ?_⟩
  refine (hlook category).trans ?_
  rw [storedRows, find?_filterMap_key hkey, if_pos category.mem_all]
  cases store category with
  | none => rfl
  | some view => rfl

end LedgerState

namespace CapState

def written (s : CapState) (category : RequestCategory) : CounterView :=
  match s.write with
  | .captured rows => (commitRows rows s.store category).getD {}
  | .idle | .committed _ => s.stored category

structure Sound (s : CapState) (category : RequestCategory) : Prop where
  counted : Counted (s.ledger.counts category) (s.bills category)
  stored : Covers (s.stored category) (s.ledger.counts category) (s.bills category)
  written : Covers (s.written category) (s.ledger.counts category) (s.bills category)

structure InMonth (mode : CollectorMode) (fleet : FleetPolicy) (month : Month) (s : CapState) :
    Prop where
  configured : s.ledger.Configured mode fleet month
  sound : ∀ category, s.ledger.billed category → s.Sound category

variable {mode : CollectorMode} {fleet : FleetPolicy} {month : Month} {s s' : CapState}

section

variable (h : InMonth mode fleet month s)
include h

theorem InMonth.of_moves (hconfig : s.ledger.SameConfig s'.ledger)
    (hmoves : ∀ category, s.ledger.billed category → Moves (s.ledger.counts category)
    (s.bills category) (s'.ledger.counts category) (s'.bills category))
    (hstore : s'.store = s.store) (hwrite : s'.write = s.write) : InMonth mode fleet month s' := by
  refine ⟨h.configured.of_same hconfig, fun category hbilled => ?_⟩
  rw [hconfig.billed] at hbilled
  have hsound := h.sound category hbilled
  have hm := hmoves category hbilled
  have hstored : s'.stored category = s.stored category := by
    unfold CapState.stored
    rw [hstore]
  have hwritten : s'.written category = s.written category := by
    unfold CapState.written
    rw [hwrite, hstore, hstored]
  refine ⟨hm.counted, ?_, ?_⟩
  · rw [hstored]
    exact hsound.stored.of_moves hm
  · rw [hwritten]
    exact hsound.written.of_moves hm

theorem InMonth.of_moves_one {ledger : LedgerState} (category : RequestCategory) (bill : Bill)
    (hconfig : s.ledger.SameConfig ledger)
    (hother : ∀ category', category' ≠ category → ledger.counts category' =
    s.ledger.counts category')
    (hmoves : s.ledger.billed category → Counted (s.ledger.counts category) (s.bills category) →
    Moves (s.ledger.counts category) (s.bills category) (ledger.counts category) bill) :
    InMonth mode fleet month { s with ledger, bills := s.setBill category bill } := by
  refine h.of_moves hconfig (fun category' hbilled => ?_) rfl rfl
  have hcounted := (h.sound category' hbilled).counted
  unfold setBill
  dsimp only
  by_cases hc : category' = category
  · subst hc
    rw [update_self]
    exact hmoves hbilled hcounted
  · rw [update_of_ne hc, hother category' hc]
    exact (SameRequests.refl _).moves hcounted

theorem InMonth.capture : InMonth mode fleet month { s with write := .captured s.ledger.rows } := by
  refine ⟨h.configured, fun category hbilled => ?_⟩
  have hsound := h.sound category hbilled
  refine ⟨hsound.counted, hsound.stored, ?_⟩
  unfold written
  dsimp only
  rw [commitRows_rows]
  split_ifs
  · exact hsound.stored
  · exact hsound.counted.covers

/-- A commit of the rows stores what the ledger counts. -/
theorem InMonth.commit {rows : List CollectorCounterRow} (hwrite : s.write = .captured rows) :
    InMonth mode fleet month
    { s with store := commitRows rows s.store, write := .committed rows } := by
  refine ⟨h.configured, fun category hbilled => ?_⟩
  have hsound := h.sound category hbilled
  have hwritten := hsound.written
  unfold written at hwritten
  rw [hwrite] at hwritten
  exact ⟨hsound.counted, hwritten, hwritten⟩

theorem InMonth.endWrite : InMonth mode fleet month { s with write := .idle } := by
  refine ⟨h.configured, fun category hbilled => ?_⟩
  have hsound := h.sound category hbilled
  exact ⟨hsound.counted, hsound.stored, hsound.stored⟩

end

/-- No guard of a billed request is dropped after the request was sent, and a crash finds no more
requests counted than the stored row has counted or reserved. -/
def Guarded (s : CapState) : CapEvent month → Prop
  | .dropSent category => s.ledger.billed category = true → (s.bills category).outstanding = 0
  | .crash _ => ∀ category, s.ledger.billed category = true →
      (s.ledger.counts category).sent ≤ max (s.stored category).sent (s.stored category).reserved
  | _ => True

instance (s : CapState) : ∀ event : CapEvent month, Decidable (s.Guarded event)
  | .dropSent category =>
    inferInstanceAs (Decidable (s.ledger.billed category = true → (s.bills category).outstanding =
      0))
  | .crash _ =>
    inferInstanceAs (Decidable (∀ category, s.ledger.billed category = true →
      (s.ledger.counts category).sent ≤ max (s.stored category).sent (s.stored category).reserved))
  | .plan _ | .start _ | .send _ | .complete .. | .takeBack _ | .recordCompleted
      .. | .capture | .commit | .lose
  | .markPersisted _ => isTrue trivial

theorem load_counts (m : MonthMoment month) (category : RequestCategory)
    (hbilled : (new mode fleet m.moment).billed category) :
    ((new mode fleet m.moment).load (storedRows month mode s.store) m.moment).counts category =
      { sent := (s.stored category).sent+((s.stored category).reserved-(s.stored category).sent)
        billable := (s.stored category).billable+((s.stored category).reserved-(s.stored
          category).sent)
        reservedPending := (s.stored category).reserved
        reservedPersisted := (s.stored category).reserved } := by
  rw [(load_storedRows mode fleet m s.store).2]
  unfold stored
  cases s.store category with
  | none => rfl
  | some view =>
    unfold restoredCount
    dsimp only
    rw [if_pos hbilled]
    rfl

theorem InMonth.billed (h : InMonth mode fleet month s) (m : MonthMoment month)
    (category : RequestCategory) :
    (new mode fleet m.moment).billed category = s.ledger.billed category := by
  unfold LedgerState.billed
  rw [h.configured.mode, h.configured.pricing]
  rfl

theorem InMonth.crash (h : InMonth mode fleet month s) (m : MonthMoment month)
    (hg : s.Guarded (.crash m)) :
    InMonth mode fleet month (s.step mode fleet (.crash m)) ∧ ∀ category, s.ledger.billed category →
      ((s.step mode fleet (.crash m)).bills category).mayBill ≤
        ((s.step mode fleet (.crash m)).ledger.counts category).billable := by
  obtain ⟨hconfig, -⟩ := load_storedRows mode fleet m s.store
  have hbill (category : RequestCategory) (hbilled : s.ledger.billed category) :
      (s.bills category).mayBill ≤
        (s.stored category).billable+((s.stored category).reserved-(s.stored category).sent) := by
    have hsince := (h.sound category hbilled).stored.since
    have hsent := hg category hbilled
    omega
  have hsame (category : RequestCategory) : (s.step mode fleet (.crash m)).ledger.billed category =
      s.ledger.billed category := by
    unfold LedgerState.billed
    rw [h.configured.mode, h.configured.pricing, show (s.step mode fleet (.crash m)).ledger.mode =
      mode from
      hconfig.mode, show (s.step mode fleet (.crash m)).ledger.pricing =
        fleet.pricing from hconfig.pricing]
  have hcounts (category : RequestCategory) (hbilled : s.ledger.billed category) :=
    load_counts (s := s) m category ((h.billed m category).trans hbilled)
  refine ⟨⟨hconfig, fun category hbilled => ?_⟩, fun category hbilled => ?_⟩
  · rw [hsame] at hbilled
    have hknown := (h.sound category hbilled).stored.known
    have hmay := hbill category hbilled
    unfold step
    -- nothing is in flight, and the row is the one that was loaded
    have hcovers : Covers (s.stored category) (((new mode fleet m.moment).load
        (storedRows month mode s.store) m.moment).counts category)
        { s.bills category with unsent := 0, outstanding := 0 } := by
      rw [hcounts category hbilled]
      refine ⟨hknown, ?_⟩
      dsimp only
      omega
    refine ⟨?_, hcovers, hcovers⟩
    rw [hcounts category hbilled]
    refine ⟨?_, rfl, ?_⟩ <;> dsimp only <;> omega
  · have hmay := hbill category hbilled
    unfold step
    rw [hcounts category hbilled]
    exact hmay

theorem start_cases (l : LedgerState) (category : RequestCategory) :
    l.start category = (l.countStart category, .admitted) ∨ ∃ why, l.start category =
    (l, .withheld why) := by
  unfold start
  dsimp only
  split_ifs
  · exact .inl rfl
  · exact .inr ⟨_, rfl⟩
  · exact .inr ⟨_, rfl⟩
  · exact .inr ⟨_, rfl⟩
  · exact .inl rfl

/-- Every event within the month keeps the counters above what was billed. -/
theorem InMonth.step (h : InMonth mode fleet month s) (event : CapEvent month)
    (hg : s.Guarded event) : InMonth mode fleet month (s.step mode fleet event) := by
  have hne {β : Type} {f : RequestCategory → β} {category : RequestCategory} {v : β}
      (category' : RequestCategory)
      (hc : category' ≠ category) : update f category v category' = f category' :=
    update_of_ne hc v f
  cases event with
  | plan requests =>
    have hsame := s.ledger.plan_same requests
    exact h.of_moves hsame.config
      (fun category hbilled => (hsame.requests category).moves (h.sound category hbilled).counted)
        rfl rfl
  | start category =>
    unfold CapState.step
    dsimp only
    rcases start_cases s.ledger category with hstart | ⟨why, hstart⟩
    · rw [hstart]
      exact h.of_moves_one category _ ⟨rfl, rfl, rfl, rfl⟩ hne fun _ => countStart_moves
    · rw [hstart]
      exact h
  | send category =>
    unfold CapState.step
    dsimp only
    split_ifs with hunsent
    · exact h
    · exact h.of_moves_one category _ (LedgerState.SameConfig.refl _) (fun _ _ => rfl)
        fun _ hc => send_moves hc hunsent
  | complete category billable =>
    unfold CapState.step
    dsimp only
    by_cases hout : (s.bills category).outstanding = 0
    · rw [if_pos hout]
      exact h
    · rw [if_neg hout]
      exact h.of_moves_one category _ ⟨rfl, rfl, rfl, rfl⟩ hne
        fun hbilled hc => complete_moves hc hbilled hout billable
  | takeBack category =>
    unfold CapState.step
    dsimp only
    split_ifs with hunsent
    · exact h
    · exact h.of_moves_one category _ ⟨rfl, rfl, rfl, rfl⟩ hne fun _ hc => unstart_moves hc hunsent
  | dropSent category =>
    unfold CapState.step
    dsimp only
    split_ifs with hout
    · exact h
    · exact h.of_moves_one category _ ⟨rfl, rfl, rfl, rfl⟩ hne fun hbilled _ => absurd (hg hbilled)
        hout
  | recordCompleted category billable =>
    exact h.of_moves_one category _ ⟨rfl, rfl, rfl, rfl⟩ hne
      fun hbilled hc => recordCompleted_moves hc hbilled billable
  | capture =>
    unfold CapState.step
    dsimp only
    split
    · exact h.capture
    · exact h
    · exact h
  | commit =>
    unfold CapState.step
    dsimp only
    split
    · rename_i rows hwrite
      exact h.commit hwrite
    · exact h
    · exact h
  | lose =>
    unfold CapState.step
    dsimp only
    split
    · exact h.endWrite
    · exact h
    · exact h
  | markPersisted now =>
    unfold CapState.step
    dsimp only
    split
    · rename_i rows hwrite
      have hsame := s.ledger.markPersisted_same rows now
      have hmarked : InMonth mode fleet month
          { s with ledger := s.ledger.markPersisted rows now } :=
        h.of_moves hsame.config
          (fun category hbilled => (hsame.requests category).moves
            (h.sound category hbilled).counted) rfl rfl
      exact hmarked.endWrite
    · exact h
    · exact h
  | crash m => exact (h.crash m hg).1

end CapState

end TeslatlasHub.Collector
