import TeslatlasHub.SchedulerTypes

namespace TeslatlasHub.Collector

/-! ### Categories, prices and the calendar month (C3 R24 to R26) -/

inductive RequestCategory where
  | data | state | wake | command
  deriving DecidableEq

def RequestCategory.all : List RequestCategory := [data, state, wake, command]

def costUnitsPerDollar : ℕ := 150000
def costUnitsPerCent : ℕ := 1500
def kReserveBlock : ℕ := 20
def kCounterFlush : Duration := secs 3600

def priceUnits (pricing : FleetPricing) (category : RequestCategory) : Option ℕ :=
  let perDollar : Option ℕ :=
    match category with
    | .data => some pricing.data
    | .state => pricing.state
    | .wake => some pricing.wake
    | .command => some pricing.command
  perDollar.map fun n => (costUnitsPerDollar+max n 1-1)/max n 1

abbrev Month := ℤ

def Month.containing (epochMs : ℤ) : Option Month :=
  let z := epochMs/86400000+719468
  let era := z/146097
  let dayOfEra := z-era*146097
  let yearOfEra := (dayOfEra-dayOfEra/1460+dayOfEra/36524-dayOfEra/146096)/365
  let dayOfYear := dayOfEra-(365*yearOfEra+yearOfEra/4-yearOfEra/100)
  let mp := (5*dayOfYear+2)/153
  let month := if mp < 10 then mp+3 else mp-9
  let year := yearOfEra+era*400+(if month ≤ 2 then 1 else 0)
  if 0 ≤ year ∧ year ≤ 9998 then some (year*12+(month-1)) else none

example : Month.containing 1760486400000 = some (2025*12+9) := by decide

structure CategoryCount where
  (sent billable inFlight reservedPending reservedPersisted : ℕ := 0)
  deriving DecidableEq

structure CounterView where
  (sent billable reserved : ℕ := 0)
  deriving DecidableEq

structure CollectorCounterRow where
  month : Month
  mode : CollectorMode
  category : RequestCategory
  (sent billable reserved : ℕ)
  deriving DecidableEq

def CollectorCounterRow.sameKey (a b : CollectorCounterRow) : Bool :=
  a.month = b.month && a.mode = b.mode && a.category = b.category

inductive Withheld where
  | cap | reservation | account
  deriving DecidableEq

inductive Admission where
  | admitted
  | withheld (why : Withheld)
  deriving DecidableEq

inductive MonthEvent where
  | unchanged | rolled
  deriving DecidableEq

structure LedgerState where
  mode : CollectorMode
  pricing : FleetPricing
  capUnits : ℕ
  span : Month
  anchor : Instant × ℤ
  frozen : Bool := false
  counts : RequestCategory → CategoryCount := fun _ => {}
  persisted : RequestCategory → CounterView := fun _ => {}
  startedSinceStart : RequestCategory → ℕ := fun _ => 0
  lastFlush : Instant

namespace LedgerState

variable (l : LedgerState)

def new (mode : CollectorMode) (fleet : FleetPolicy) (m : Moment) : LedgerState :=
  let wall := m.wall.getD 0
  { mode
    pricing := fleet.pricing
    capUnits := fleet.monthlyCapCents*costUnitsPerCent
    span := (Month.containing wall).getD (1970*12)
    anchor := (m.now, wall)
    lastFlush := m.now }

variable (category : RequestCategory)

def billed : Bool :=
  l.mode = .fleetPolling && (priceUnits l.pricing category).isSome

def price : ℕ := (priceUnits l.pricing category).getD 0

def sumBilled (cost : RequestCategory → ℕ) : ℕ :=
  (RequestCategory.all.map fun category => if l.billed category then cost category else 0).sum

def grossUnits (includeInFlight : Bool) : ℕ :=
  l.sumBilled fun category =>
    ((l.counts category).billable+(if includeInFlight then (l.counts category).inFlight else 0))
      *l.price category

def setCount (count : CategoryCount) : LedgerState :=
  { l with counts := Function.update l.counts category count }

end LedgerState

namespace CategoryCount

variable (c : CategoryCount)

def notBilled : ℕ := c.sent-c.inFlight-c.billable

def exposureRequests (reserved : ℕ) : ℕ := max (c.billable+c.inFlight) (reserved-c.notBilled)

def view : CounterView := ⟨c.sent-c.inFlight, c.billable, c.reservedPending⟩

end CategoryCount

namespace LedgerState

variable (l : LedgerState)

def exposureUnits (without : Option RequestCategory) : ℕ :=
  l.sumBilled fun category =>
    if some category = without then 0
    else (l.counts category).exposureRequests (l.counts category).reservedPending*l.price category

variable (category : RequestCategory)

def maxReserved : ℕ :=
  (l.capUnits-l.exposureUnits (some category))/max (l.price category)
    1+(l.counts category).notBilled

def pendingReservation : Bool :=
  RequestCategory.all.any fun category =>
    (l.counts category).reservedPersisted < (l.counts category).reservedPending

def countStart : LedgerState :=
  let count := l.counts category
  { l.setCount category { count with sent := count.sent+1, inFlight := count.inFlight+1 } with
    startedSinceStart :=
      Function.update l.startedSinceStart category (l.startedSinceStart category+1) }

def start : LedgerState × Admission :=
  let count := l.counts category
  if !l.billed category then (l.countStart category, .admitted)
  else if l.capUnits < l.grossUnits true+l.price category then (l, .withheld .cap)
  else if count.reservedPersisted ≤ count.sent then
    let wanted := max count.reservedPending count.sent+1
    if count.reservedPersisted < count.reservedPending || wanted ≤ l.maxReserved category then
      (l, .withheld .reservation)
    else (l, .withheld .cap)
  else (l.countStart category, .admitted)

def unstart : LedgerState :=
  let count := l.counts category
  { l.setCount category { count with sent := count.sent-1, inFlight := count.inFlight-1 } with
    startedSinceStart :=
      Function.update l.startedSinceStart category (l.startedSinceStart category-1) }

def complete (billable : Bool) : LedgerState :=
  let count := l.counts category
  let count := { count with inFlight := count.inFlight-1 }
  l.setCount category <|
    if l.billed category && billable && count.billable < count.sent then
      { count with
        billable := count.billable+1
        reservedPending := max count.reservedPending (count.billable+1) }
    else count

def recordCompleted (billable : Bool) : LedgerState :=
  let count := l.counts category
  let count := { count with sent := count.sent+1 }
  l.setCount category <|
    if l.billed category then
      let count := { count with billable := count.billable+(if billable then 1 else 0) }
      { count with reservedPending := max count.reservedPending count.billable }
    else count

def planOne (planned : ℕ) : LedgerState :=
  let count := l.counts category
  if planned = 0 || !l.billed category || planned ≤ count.reservedPending-count.sent then l
  else
    let desired := max planned (min kReserveBlock (l.startedSinceStart category))
    -- a send needs `sent < reserved`, so the raise first lifts the reservation to `sent`
    let base := count.reservedPending+(count.sent-count.reservedPending)
    let ceiling := l.maxReserved category
    if ceiling < base then l
    else l.setCount category { count with reservedPending := base+min desired (ceiling-base) }

def plan (requests : List (RequestCategory × ℕ)) : LedgerState × Bool :=
  if l.mode ≠ .fleetPolling then (l, false)
  else
    let l := requests.foldl (fun l request => l.planOne request.1 request.2) l
    (l, l.pendingReservation)

def projectedWall (mono : Instant) (wall : ℤ) : LedgerState × ℤ :=
  if l.mode ≠ .fleetPolling then (l, wall)
  else
    let elapsedMs := asMillis (mono-l.anchor.1)
    let frozen := l.frozen || kClockDivergenceMs < wall-l.anchor.2-elapsedMs
    if frozen then ({ l with frozen := true }, l.anchor.2+elapsedMs)
    else ({ l with anchor := (mono, wall) }, wall)

def refresh (m : Moment) : LedgerState × MonthEvent :=
  match m.wall with
  | none => (l, .unchanged)
  | some wall =>
    let judged := l.projectedWall m.now wall
    let l := judged.1
    match Month.containing judged.2 with
    | none => (l, .unchanged)
    | some candidate =>
      if l.span < candidate then
        ({ l with
            span := candidate
            anchor := (m.now, wall)
            frozen := false
            counts := fun category =>
              { sent := (l.counts category).inFlight, inFlight := (l.counts category).inFlight }
            persisted := fun _ => {} },
          .rolled)
      else (l, .unchanged)

def dirty : Bool :=
  RequestCategory.all.any fun category => (l.counts category).view ≠ l.persisted category

def rows : List CollectorCounterRow :=
  RequestCategory.all.filterMap fun category =>
    let view := (l.counts category).view
    if view = l.persisted category then none
    else some ⟨l.span, l.mode, category, view.sent, view.billable, view.reserved⟩

variable (row : CollectorCounterRow)

def markRow : LedgerState :=
  if row.month ≠ l.span || row.mode ≠ l.mode then l
  else
    let count := l.counts row.category
    { l.setCount row.category
        { count with reservedPersisted := max count.reservedPersisted row.reserved } with
      persisted := Function.update l.persisted row.category ⟨row.sent, row.billable, row.reserved⟩ }

def markPersisted (rows : List CollectorCounterRow) (now : Instant) : LedgerState :=
  { rows.foldl markRow l with lastFlush := now }

def restoredCount : CategoryCount :=
  let converted := if l.billed row.category then row.reserved-row.sent else 0
  { sent := row.sent+converted
    billable := row.billable+converted
    reservedPending := row.reserved
    reservedPersisted := row.reserved }

def loadRow : LedgerState :=
  if row.month ≠ l.span || row.mode ≠ l.mode then l
  else
    { l.setCount row.category (l.restoredCount row) with
      persisted := Function.update l.persisted row.category ⟨row.sent, row.billable, row.reserved⟩ }

def load (rows : List CollectorCounterRow) (m : Moment) : LedgerState :=
  let calendar := (m.wall.bind Month.containing).getD l.span
  let l := { l with
    anchor := m.wall.elim l.anchor (m.now, ·)
    span := (rows.map (·.month)).foldl max calendar
    frozen := false
    counts := fun _ => {}
    persisted := fun _ => {}
    lastFlush := m.now }
  rows.foldl loadRow l

def capAllowsOneMore : Bool :=
  let prices := [RequestCategory.data, .state].filterMap fun category =>
    if l.billed category then some (l.price category) else none
  l.grossUnits true+prices.min?.getD 0 ≤ l.capUnits

end LedgerState

end TeslatlasHub.Collector
