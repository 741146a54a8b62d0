import TeslatlasHub.LegacyStatus

namespace TeslatlasHub.Credentials

open AuthStatus

def persistenceRetrySeconds : List ℕ := [5, 10, 20, 40, 80, 160, 300]

def persistenceRetryDelay (failures : ℕ) : ℕ :=
  persistenceRetrySeconds.getD (min failures (persistenceRetrySeconds.length-1)) 300

inductive WriteEnd where
  | ok
  | failed (committed : Bool)
  deriving DecidableEq

inductive StatusWrite where
  | unchanged
  | written
  | deferred (retryAtMs : ℤ)
  deriving DecidableEq

structure StatusRecorder where
  current : AuthStatus
  written : Option CollectorAuthRow
  failures : ℕ := 0
  nextAttemptMs : Option ℤ := none
  deriving DecidableEq

def writeCollectorAuthRow (stored : Option CollectorAuthRow) (row : CollectorAuthRow) :
    Option CollectorAuthRow :=
  if stored = some row then stored else some row

@[simp] theorem writeCollectorAuthRow_eq (stored : Option CollectorAuthRow)
    (row : CollectorAuthRow) :
    writeCollectorAuthRow stored row = some row := by
  unfold writeCollectorAuthRow
  split
  · assumption
  · rfl

structure Recording where
  recorder : StatusRecorder
  stored : Option CollectorAuthRow
  deriving DecidableEq

namespace StatusRecorder

def new (initial : AuthStatus) (stored : Option CollectorAuthRow) : StatusRecorder :=
  { current := initial, written := stored }

def isSynced (r : StatusRecorder) : Bool := r.written == some r.current.toRow

end StatusRecorder

namespace Recording

def start (initial : AuthStatus) (stored : Option CollectorAuthRow) : Recording :=
  { recorder := StatusRecorder.new initial stored, stored }

def hold (s : Recording) (status : AuthStatus) : Recording :=
  { s with recorder := { s.recorder with current := status } }

def attempt (s : Recording) (nowMs : ℤ) (write : WriteEnd) : Recording × StatusWrite :=
  let r := s.recorder
  let row := r.current.toRow
  match write with
  | .ok =>
    ({ recorder := { r with written := some row, failures := 0, nextAttemptMs := none }
       stored := writeCollectorAuthRow s.stored row }, .written)
  | .failed committed =>
    let retryAtMs := nowMs+persistenceRetryDelay r.failures*1000
    ({ recorder := { r with failures := r.failures+1, nextAttemptMs := some retryAtMs }
       stored := if committed then writeCollectorAuthRow s.stored row else s.stored },
         .deferred retryAtMs)

def set (s : Recording) (status : AuthStatus) (nowMs : ℤ) (write : WriteEnd) :
    Recording × StatusWrite :=
  let held := s.hold status
  if held.recorder.isSynced then
    ({ held with recorder := { held.recorder with failures := 0, nextAttemptMs := none } },
      .unchanged)
  else
    match held.recorder.nextAttemptMs with
    | some retryAtMs =>
      if nowMs < retryAtMs then (held, .deferred retryAtMs) else held.attempt nowMs write
    | none => held.attempt nowMs write

end Recording

inductive RecorderCall where
  | set (status : AuthStatus) (nowMs : ℤ) (write : WriteEnd)
  | hold (status : AuthStatus)
  | attempt (nowMs : ℤ) (write : WriteEnd)
  deriving DecidableEq

namespace Recording

variable (s : Recording)

def step : RecorderCall → Recording
  | .set status nowMs write => (s.set status nowMs write).1
  | .hold status => s.hold status
  | .attempt nowMs write => (s.attempt nowMs write).1

def Known : Prop := ∀ row, s.recorder.written = some row → s.stored = some row

/-- A write that reports an error but commits finds no other row known to be stored. -/
def failsKnown : RecorderCall → Prop
  | .set status _ write =>
    write = .failed true → s.recorder.written = none ∨ s.recorder.written = some status.toRow
  | .attempt _ write =>
    write = .failed true → s.recorder.written = none ∨ s.recorder.written =
      some s.recorder.current.toRow
  | .hold _ => True

instance (s : Recording) (call : RecorderCall) : Decidable (s.failsKnown call) :=
  match call with
  | .set _ _ write => inferInstanceAs (Decidable (write = .failed true → _ ∨ _))
  | .attempt _ write => inferInstanceAs (Decidable (write = .failed true → _ ∨ _))
  | .hold _ => isTrue trivial

theorem attempt_known {s : Recording} (h : s.Known) {nowMs : ℤ} {write : WriteEnd}
    (hfail : s.failsKnown (.attempt nowMs write)) :
    (s.attempt nowMs write).1.Known ∧ ((s.attempt nowMs write).2 = .written →
    (s.attempt nowMs write).1.stored = some s.recorder.current.toRow) ∧ (s.attempt nowMs write).2 ≠
    .unchanged := by
  cases write with
  | ok =>
    refine ⟨?_, fun _ => writeCollectorAuthRow_eq _ _, fun heq => (nomatch heq)⟩
    rintro row hrow
    cases hrow
    exact writeCollectorAuthRow_eq _ _
  | failed committed =>
    refine ⟨?_, fun heq => (nomatch heq), fun heq => (nomatch heq)⟩
    intro row (hrow : s.recorder.written = some row)
    cases committed with
    | false => exact h row hrow
    | true =>
      -- the committed row is the one already known
      obtain hnone | hsame := hfail rfl
      · cases hnone.symm.trans hrow
      · cases hsame.symm.trans hrow
        exact writeCollectorAuthRow_eq _ _

theorem set_known {s : Recording} (h : s.Known) {status : AuthStatus} {nowMs : ℤ} {write : WriteEnd}
    (hfail : s.failsKnown (.set status nowMs write)) : (s.set status nowMs write).1.Known ∧
      ((s.set status nowMs write).2 = .unchanged ∨ (s.set status nowMs write).2 = .written →
        (s.set status nowMs write).1.stored = some status.toRow) := by
  have hheld : (s.hold status).Known := h
  have hattempt : ((s.hold status).attempt nowMs write).1.Known ∧
      (((s.hold status).attempt nowMs write).2 = .unchanged ∨
        ((s.hold status).attempt nowMs write).2 = .written →
        ((s.hold status).attempt nowMs write).1.stored = some status.toRow) := by
    have hfail' : (s.hold status).failsKnown (.attempt nowMs write) := hfail
    obtain ⟨hknown, hwritten, hne⟩ := attempt_known hheld hfail'
    exact ⟨hknown, fun hanswer => hwritten (hanswer.resolve_left hne)⟩
  unfold set
  dsimp only
  split_ifs with hsynced
  · exact ⟨hheld, fun _ => hheld _ (beq_iff_eq.mp hsynced)⟩
  · split
    · split
      · exact ⟨hheld, fun hanswer => by obtain h | h := hanswer <;> cases h⟩
      · exact hattempt
    · exact hattempt

/-- What the recorder takes for stored is what the store has. -/
theorem step_known {s : Recording} {call : RecorderCall} (h : s.Known) (hfail : s.failsKnown call) :
    (s.step call).Known := by
  cases call with
  | set status nowMs write => exact (set_known h hfail).1
  | hold status => exact h
  | attempt nowMs write => exact (attempt_known h hfail).1

theorem attempt_current (nowMs : ℤ) (write : WriteEnd) :
    (s.attempt nowMs write).1.recorder.current = s.recorder.current := by
  cases write <;> rfl

theorem set_current (status : AuthStatus) (nowMs : ℤ) (write : WriteEnd) :
    (s.set status nowMs write).1.recorder.current = status := by
  unfold set
  dsimp only
  split
  · rfl
  split
  · split
    · rfl
    · exact attempt_current _ _ _
  · exact attempt_current _ _ _

/-- A `set` that answers `Unchanged` or `Written` leaves the current status in the store, and a
start reads it back. -/
theorem set_answers_for_the_store {initial : AuthStatus} {stored : Option CollectorAuthRow}
    {calls : List RecorderCall} {status : AuthStatus} {nowMs : ℤ} {write : WriteEnd}
    (hcalls : RunRules.Along step failsKnown (start initial stored) calls)
    (hlast : (calls.foldl step (start initial stored)).failsKnown (.set status nowMs write))
    (hanswer : ((calls.foldl step (start initial stored)).set status nowMs write).2 = .unchanged ∨
      ((calls.foldl step (start initial stored)).set status nowMs write).2 = .written) :
    let after := ((calls.foldl step (start initial stored)).set status nowMs write).1
    after.recorder.current = status ∧ after.stored = some after.recorder.current.toRow ∧
      (status.isConsistent = true → after.stored.map AuthStatus.fromRow = some (.ok status)) := by
  have hstart : (start initial stored).Known := fun _ h => h
  have hknown : (calls.foldl step (start initial stored)).Known :=
    RunRules.foldl_invariant (fun _ _ => step_known) hstart hcalls
  have hcurrent := set_current (calls.foldl step (start initial stored)) status nowMs write
  have hstored := (set_known hknown hlast).2 hanswer
  refine ⟨hcurrent, ?_, ?_⟩
  · rw [hcurrent]
    exact hstored
  · intro hconsistent
    rw [hstored, Option.map_some, AuthStatus.fromRow_toRow hconsistent]

/-- A write that fails without committing, then one that succeeds. -/
theorem set_answers_for_the_store_afterRetry :
    let ready := AuthStatus.ready {} false
    let clock := AuthStatus.idle .clockInvalid none {} false
    let calls : List RecorderCall := [.set clock 0 (.failed false), .hold ready]
    ((calls.foldl step (start ready none)).set clock 5000 .ok).2 = .written ∧
    ((calls.foldl step (start ready none)).set clock 5000 .ok).1.stored = some clock.toRow := by
  have hanswer : (([.set (AuthStatus.idle .clockInvalid none {} false) 0 (.failed false),
      .hold (AuthStatus.ready {} false)].foldl step (start (AuthStatus.ready {} false) none)).set
        (AuthStatus.idle .clockInvalid none {} false) 5000 .ok).2 = .written := by decide +kernel
  exact ⟨hanswer, (set_answers_for_the_store (by decide +kernel) (by decide +kernel)
    (.inr hanswer)).2.1⟩

/-- Setting a refusal again is answered `Unchanged` while the store holds the status in which it was
lifted. -/
theorem set_is_unchanged_over_another_row :
    let ready := AuthStatus.ready {} false
    let refused := AuthStatus.stopped (.apiRefused .ownerApi) 1 .legacy false {} false
    let calls : List RecorderCall := [.set ready 0 (.failed true)]
    ((calls.foldl step (start refused (some refused.toRow))).set refused 1 .ok).2 = .unchanged ∧
    ((calls.foldl step (start refused (some refused.toRow))).set refused 1 .ok).1.stored =
      some ready.toRow := by
  decide +kernel

end Recording

end TeslatlasHub.Credentials
