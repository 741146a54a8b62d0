import TeslatlasHub.LegacyExchange
import TeslatlasHub.SingleUse

namespace TeslatlasHub.Credentials

structure ExchangeInput where
  (accessToken refreshToken : List Char)
  pinnedIssuer : Option (List Char) := none
  deriving DecidableEq

inductive Proc where
  | idle
  | reserved (attempt : Attempt) (input : ExchangeInput)
  | cancelling (attempt : Attempt)
  | sent (attempt : Attempt) (input : ExchangeInput)
  | closing (attempt : Attempt) (closing : Closing)
  | persisting (successor : SuccessorPair)
  | owed (pending : PendingClose)
  | pending (successor : SuccessorPair)
  deriving DecidableEq

inductive LogEvent where
  | begun (receipt : ℤ) (input : Uuid)
  | presented (receipt : ℤ) (input : Uuid)
  | verdict (receipt : ℤ) (input : Uuid) (kind : AttemptClass)
  | cancelled (receipt : ℤ) (input : Uuid)
  | closed (receipt : ℤ) (input : Uuid) (release : Bool)
  | completed (receipt : ℤ) (input output : Uuid)
  | unrotated (receipt : ℤ) (input : Uuid)
  | replaced (generation : Option Uuid) (overtaken : List (ℤ × Uuid))
  deriving DecidableEq

def HubStore.openAttempts (s : HubStore) : List (ℤ × Uuid) :=
  (s.bindings.filter fun b => s.isStarted b.receiptId).map fun b => (b.receiptId, b.input)

def StoreOp.record (s : HubStore) : StoreOp → List LogEvent
  | .begin input .. => [.begun (s.lastReceiptId+1) input]
  | .complete receipt input output .. => [.completed receipt input output]
  | .completeUnrotated receipt generation .. => [.unrotated receipt generation]
  | .cancelUnsent receipt input .. => [.cancelled receipt input]
  | .close receipt input _ _ _ release _ => [.closed receipt input release]
  | .replace tokens .. => [.replaced tokens.credentialGeneration s.openAttempts]
  | .bind .. | .prune .. => []

structure System where
  store : HubStore := {}
  procs : ℕ → Proc := fun _ => .idle
  log : List LogEvent := []

inductive PortFault where
  | none | before | after
  deriving DecidableEq

namespace System

variable (sys : System)

def setProc (p : ℕ) (proc : Proc) : System :=
  { sys with procs := Function.update sys.procs p proc }

def note (events : List LogEvent) : System := { sys with log := sys.log++events }

def commit (op : StoreOp) : System :=
  match op.transact sys.store with
  | .ok store => { sys with store, log := sys.log++op.record sys.store }
  | .error _ => sys

def call (op : StoreOp) (fault : PortFault) : System × Bool :=
  match fault with
  | .none => (sys.commit op, (op.transact sys.store).isOk)
  | .before => (sys, false)
  | .after => (sys.commit op, false)

end System

def answered [TokenReading] (attempt : Attempt) (input : ExchangeInput) (exchange : Exchange) :
    AttemptClass × Proc :=
  match exchange with
  | .notSent => (.notSent, .closing attempt ⟨.transportError, none, none, true⟩)
  | .connectTimedOut => (.notSent, .closing attempt ⟨.timeout, none, none, true⟩)
  | .unknown => (.unknown, .idle)
  | .answer answer =>
    match classifyAnswer answer input.accessToken input.refreshToken input.pinnedIssuer with
    | .error failed =>
      (failed.kind,
        ((closingFor failed.kind answer.status answer.retryAfter).map (.closing attempt)).getD
          .idle)
    | .ok accepted =>
      if accepted.kind = .notRenewed then
        (.notRenewed, ((closingFor .notRenewed answer.status none).map (.closing attempt)).getD
          .idle)
      else
        match successorOf accepted attempt with
        | none => (.consumedWithoutSuccessor, .idle)
        | some successor => (accepted.kind.class, .persisting successor)

def PendingClose.op (pending : PendingClose) (clock : Option ℕ) : StoreOp :=
  match pending with
  | .cancel attempt => .cancelUnsent attempt.receipt attempt.input clock
  | .close attempt closing =>
    .close attempt.receipt attempt.input closing.outcome closing.httpStatus
      closing.retryAfterSeconds
      closing.releaseInput clock

def SuccessorPair.op (successor : SuccessorPair) (tokens : TeslaMateLegacyTokenStore)
    (clock : Option ℕ) : Except StoreError StoreOp := do
  let stored ← tokens.withCredentialGeneration successor.output
  pure (if successor.output = successor.attempt.input then
      .completeUnrotated successor.attempt.receipt successor.attempt.input stored clock
    else .complete successor.attempt.receipt successor.attempt.input successor.output stored clock)

inductive Action where
  | start (p : ℕ) (input : ExchangeInput) (generation : Uuid) (clock pruneClock : Option ℕ)
      (fault : PortFault)
  | stop (p : ℕ)
  | send (p : ℕ)
  | answer (p : ℕ) (exchange : Exchange)
  | settle (p : ℕ) (clock : Option ℕ) (fault : PortFault)
  | finish (p : ℕ) (clock : Option ℕ) (fault : PortFault) (unresolved : Option Bool)
  | persist (p : ℕ) (guard : Bool) (tokens : TeslaMateLegacyTokenStore) (clock : Option ℕ)
      (fault : PortFault)
  | retry (p : ℕ) (reread : PersistReread) (guard : Bool) (tokens : TeslaMateLegacyTokenStore)
      (clock : Option ℕ) (fault : PortFault)
  | crash (p : ℕ)
  | replace (tokens : TeslaMateLegacyTokenStore) (clock : Option ℕ)
  | bind (tokens : TeslaMateLegacyTokenStore) (generation : Uuid)
  | prune (clock : Option ℕ)

namespace System

def tryClose (sys : System) (p : ℕ) (pending : PendingClose) (clock : Option ℕ) (fault : PortFault)
    (doneAnyway : Bool) : System :=
  let (next, ok) := sys.call (pending.op clock) fault
  next.setProc p (if ok || doneAnyway then .idle else .owed pending)

def tryPersist (sys : System) (p : ℕ) (successor : SuccessorPair) (guard : Bool)
    (tokens : TeslaMateLegacyTokenStore) (clock : Option ℕ) (fault : PortFault) : System :=
  match guard, successor.op tokens clock with
  | true, .ok op =>
    let (next, ok) := sys.call op fault
    next.setProc p (if ok then .idle else .pending successor)
  | _, _ => sys.setProc p (.pending successor)

/-- One action; one that its process cannot take changes nothing. A process that stops while its
request is out leaves an exchange whose outcome is unknown. -/
def step [TokenReading] (sys : System) (action : Action) : System :=
  match action with
  | .start p input generation clock pruneClock fault =>
    match sys.procs p with
    | .idle =>
      let (next, ok) := sys.call (.begin generation clock pruneClock) fault
      if ok then next.setProc p (.reserved ⟨next.store.lastReceiptId, generation⟩ input) else next
    | _ => sys
  | .stop p =>
    match sys.procs p with
    | .reserved attempt _ => sys.setProc p (.cancelling attempt)
    | _ => sys
  | .send p =>
    match sys.procs p with
    | .reserved attempt input =>
      (sys.note [.presented attempt.receipt attempt.input]).setProc p (.sent attempt input)
    | _ => sys
  | .answer p exchange =>
    match sys.procs p with
    | .sent attempt input =>
      let (kind, next) := answered attempt input exchange
      (sys.note [.verdict attempt.receipt attempt.input kind]).setProc p next
    | _ => sys
  | .settle p clock fault =>
    match sys.procs p with
    | .cancelling attempt => sys.tryClose p (.cancel attempt) clock fault false
    | .closing attempt closing => sys.tryClose p (.close attempt closing) clock fault false
    | _ => sys
  | .finish p clock fault unresolved =>
    match sys.procs p with
    | .owed pending => sys.tryClose p pending clock fault (unresolved == some false)
    | _ => sys
  | .persist p guard tokens clock fault =>
    match sys.procs p with
    | .persisting successor => sys.tryPersist p successor guard tokens clock fault
    | _ => sys
  | .retry p reread guard tokens clock fault =>
    match sys.procs p with
    | .pending successor =>
      if rereadEnds successor reread then sys.setProc p .idle
      else sys.tryPersist p successor guard tokens clock fault
    | _ => sys
  | .crash p =>
    match sys.procs p with
    | .sent attempt _ =>
      (sys.note [.verdict attempt.receipt attempt.input .unknown]).setProc p .idle
    | _ => sys.setProc p .idle
  | .replace tokens clock => sys.commit (.replace tokens clock)
  | .bind tokens generation => sys.commit (.bind tokens generation)
  | .prune clock => sys.commit (.prune clock)

def run [TokenReading] (sys : System) (actions : List Action) : System := actions.foldl step sys

end System

end TeslatlasHub.Credentials

