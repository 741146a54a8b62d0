import TeslatlasHub.FixedWidth
import TeslatlasHub.Uuid

namespace TeslatlasHub.Credentials

open FixedWidth

inductive StoreError where
  | legacyRefreshReceipt
  | legacyRefreshOutcomeUnknown
  | invalidLegacyRefreshGeneration
  | outboundRequestClock
  | outboundRequestClockOverflow
  | invalidOutboundRequestHttpStatus
  | invalidOutboundRequestRetryAfter
  | outboundRequestAuditCapacityExhausted
  | teslaMateTokenPairEmpty
  | teslaMateTokenCiphertextTooLarge
  | invalidTeslaMateTokenSchedule
  | invalidStoredAuthStatus
  deriving DecidableEq

inductive OutboundRequestTransport where
  | ownerApi | fleetApi | stream | legacyAuth
  deriving DecidableEq

inductive OutboundRequestOperation where
  | products | vehicleProbe | vehicleData | vehicleWake | vehicleCommand | tokenRefresh
  | streamConnect | streamSubscribe | streamUnsubscribe
  deriving DecidableEq

inductive OutboundRequestOutcome where
  | success | httpError | timeout | transportError | authenticationRejected | protocolError
  | responseTooLarge | cancelled
  deriving DecidableEq

structure Completion where
  outcome : OutboundRequestOutcome
  (completedAtMs durationMs : ℤ)
  httpStatus : Option ℕ
  retryAfterSeconds : Option ℤ
  deriving DecidableEq

structure Receipt where
  (id startedAtMs : ℤ)
  transport : OutboundRequestTransport
  operation : OutboundRequestOperation
  completion : Option Completion := none
  deriving DecidableEq

def Receipt.isStarted (r : Receipt) : Bool := r.completion.isNone

def Receipt.isTokenRefresh (r : Receipt) : Bool :=
  r.transport == .legacyAuth && r.operation == .tokenRefresh

def Receipt.close (r : Receipt) (nowMs : ℤ) (outcome : OutboundRequestOutcome)
    (httpStatus : Option ℕ)
    (retryAfterSeconds : Option ℤ) : Receipt :=
  let completedAtMs := max nowMs r.startedAtMs
  let durationMs := completedAtMs-r.startedAtMs
  { r with completion := some ⟨outcome, completedAtMs, durationMs, httpStatus, retryAfterSeconds⟩ }

structure Binding where
  receiptId : ℤ
  input : Uuid
  output : Option Uuid := none
  deriving DecidableEq

def maxLegacyTokenCiphertextBytes : ℕ := 16424

structure TeslaMateLegacyTokenStore where
  (access refresh : List UInt8)
  (expiresAt nextRefreshAt : ℤ)
  credentialGeneration : Option Uuid
  nonempty : access ≠ [] ∧ refresh ≠ []
  bounded : access.length ≤ maxLegacyTokenCiphertextBytes ∧
    refresh.length ≤ maxLegacyTokenCiphertextBytes
  scheduled : expiresAt = 0 ∧ nextRefreshAt = 0 ∨ nextRefreshAt < expiresAt ∧ 0 < nextRefreshAt
  deriving DecidableEq

def TeslaMateLegacyTokenStore.withCredentialGeneration (tokens : TeslaMateLegacyTokenStore)
    (generation : Uuid) : Except StoreError TeslaMateLegacyTokenStore :=
  if generation.isNil then .error .invalidLegacyRefreshGeneration
  else .ok { tokens with credentialGeneration := some generation }

structure HubStore where
  pair : Option TeslaMateLegacyTokenStore := none
  receipts : List Receipt := []
  bindings : List Binding := []
  fences : List Uuid := []
  lastReceiptId : ℤ := 0
  deriving DecidableEq

def maxOutboundRequestReceipts : ℕ := 100000
def maxLegacyRefreshInputFences : ℕ := maxOutboundRequestReceipts
def outboundRequestRetentionMs : ℤ := 30*24*60*60*1000

def outboundRequestClockMs (elapsedMs : Option ℕ) : Except StoreError ℤ :=
  match elapsedMs with
  | none => .error .outboundRequestClock
  | some ms => if (ms : ℤ) ≤ i64Max then .ok ms else .error .outboundRequestClockOverflow

namespace HubStore

variable (s : HubStore)

def currentGeneration : Option Uuid := s.pair.bind (·.credentialGeneration)

def isFenced (generation : Uuid) : Bool := decide (generation ∈ s.fences)

def isStarted (id : ℤ) : Bool := s.receipts.any fun r => r.id == id && r.isStarted

def isStartedRefresh (id : ℤ) : Bool :=
  s.receipts.any fun r => r.id == id && r.isTokenRefresh && r.isStarted

def unresolvedInputs : List Uuid :=
  (s.bindings.filter fun b => s.isStarted b.receiptId).map (·.input)

def hasUnresolvedLegacyRefresh : Bool :=
  s.bindings.any fun b => s.isStartedRefresh b.receiptId

def isBound (id : ℤ) (input : Uuid) : Bool :=
  s.bindings.any (fun b => b.receiptId == id && b.input == input) && s.isStartedRefresh id

def closeReceipt (id nowMs : ℤ) (outcome : OutboundRequestOutcome) (httpStatus : Option ℕ)
    (retryAfterSeconds : Option ℤ) : HubStore :=
  { s with receipts := s.receipts.map fun r =>
      if r.id == id && r.isStarted then r.close nowMs outcome httpStatus retryAfterSeconds else r }

def releaseInput (id : ℤ) (input : Uuid) : HubStore :=
  { s with
    bindings := s.bindings.filter fun b => !(b.receiptId == id && b.input == input)
    fences := s.fences.filter (· != input) }

def growChain (bindings : List Binding) (chain : List Uuid) : List Uuid :=
  chain++(bindings.filter fun b => b.output.any (· ∈ chain) && decide (b.input ∉ chain)).map
    (·.input)

def generationChain : List Uuid :=
  (growChain s.bindings)^[s.bindings.length] s.currentGeneration.toList

def isExpired (cutoffMs : ℤ) (r : Receipt) : Bool :=
  r.completion.any (·.completedAtMs < cutoffMs) &&
    !s.bindings.any fun b => b.receiptId == r.id && b.output.any (· ∈ s.generationChain)

def pruneExpiredOutboundRequestReceipts (clock : Option ℕ) : Except StoreError HubStore := do
  let nowMs ← outboundRequestClockMs clock
  let cutoffMs := saturatingSub nowMs outboundRequestRetentionMs
  pure { s with
    receipts := s.receipts.filter fun r => !s.isExpired cutoffMs r
    bindings := s.bindings.filter fun b =>
      !s.receipts.any fun r => r.id == b.receiptId && s.isExpired cutoffMs r }

def ensureOutboundRequestCapacity (clock : Option ℕ) : Except StoreError HubStore := do
  let s ← s.pruneExpiredOutboundRequestReceipts clock
  if maxOutboundRequestReceipts ≤ s.receipts.length then
    .error .outboundRequestAuditCapacityExhausted
  else pure s

def replaceTeslamateLegacyTokens (tokens : TeslaMateLegacyTokenStore) (clock : Option ℕ) :
    Except StoreError HubStore :=
  let replacement := tokens.credentialGeneration
  if replacement.any s.isFenced then .error .legacyRefreshOutcomeUnknown
  else
    let inputs := s.unresolvedInputs
    if inputs = [] then .ok { s with pair := some tokens }
    else if inputs.length ≠ 1 ∨ s.currentGeneration ≠ inputs.head? ∨ replacement = none ∨
        replacement = inputs.head? then .error .legacyRefreshOutcomeUnknown
    else do
      let nowMs ← outboundRequestClockMs clock
      pure { s with
        receipts := s.receipts.map fun r =>
          if r.isStarted && s.bindings.any (·.receiptId == r.id) then r.close nowMs .cancelled none
            none
          else r
        pair := some tokens }

def bindTeslamateLegacyCredentialGeneration (tokens : TeslaMateLegacyTokenStore)
    (generation : Uuid) : Except StoreError HubStore :=
  if generation.isNil then .error .invalidLegacyRefreshGeneration
  else
    match s.pair with
    | none => .error .legacyRefreshOutcomeUnknown
    | some row =>
      if row.access ≠ tokens.access ∨ row.refresh ≠ tokens.refresh then
        .error .legacyRefreshOutcomeUnknown
      else
        match row.credentialGeneration with
        | some stored => if stored = generation then .ok s else .error .legacyRefreshOutcomeUnknown
        | none => .ok { s with pair := some { row with credentialGeneration := some generation } }

def beginLegacyRefresh (input : Uuid) (clock pruneClock : Option ℕ) :
    Except StoreError (HubStore × ℤ) :=
  if input.isNil then .error .invalidLegacyRefreshGeneration
  else do
    let startedAtMs ← outboundRequestClockMs clock
    if s.currentGeneration ≠ some input then .error .legacyRefreshOutcomeUnknown
    else if s.hasUnresolvedLegacyRefresh then .error .legacyRefreshOutcomeUnknown
    else if s.isFenced input then .error .legacyRefreshOutcomeUnknown
    else do
      let s ← s.ensureOutboundRequestCapacity pruneClock
      if maxLegacyRefreshInputFences ≤ s.fences.length then .error .legacyRefreshOutcomeUnknown
      else
        match checkedSucc s.lastReceiptId with
        | none => .error .legacyRefreshReceipt
        | some id =>
          pure ({ s with
            receipts := s.receipts++[{
              id, startedAtMs, transport := .legacyAuth, operation := .tokenRefresh }]
            fences := s.fences++[input]
            bindings := s.bindings++[{ receiptId := id, input }]
            lastReceiptId := id }, id)

def startedInput (id : ℤ) : Option Uuid :=
  ((s.bindings.find? (·.receiptId == id)).filter fun _ => s.isStarted id).map (·.input)

def completeLegacyRefresh (receipt : ℤ) (input output : Uuid)
    (tokens : TeslaMateLegacyTokenStore) (clock : Option ℕ) : Except StoreError HubStore :=
  if receipt ≤ 0 ∨ input.isNil ∨ output.isNil ∨ input = output ∨
      tokens.credentialGeneration ≠ some output then .error .invalidLegacyRefreshGeneration
  else if s.startedInput receipt ≠ some input then .error .legacyRefreshOutcomeUnknown
  else if s.currentGeneration ≠ some input then .error .legacyRefreshOutcomeUnknown
  else if s.isFenced output then .error .legacyRefreshOutcomeUnknown
  else if s.bindings.any fun b => b.receiptId == receipt && b.output.isSome then
    .error .legacyRefreshOutcomeUnknown
  else if s.bindings.any fun b => b.output == some output then .error .legacyRefreshReceipt
  else do
    let nowMs ← outboundRequestClockMs clock
    let published : HubStore := { s with
      pair := some tokens
      bindings := s.bindings.map fun b =>
        if b.receiptId == receipt then { b with output := some output } else b }
    pure (published.closeReceipt receipt nowMs .success (some 200) none)

def cancelUnsentLegacyRefresh (receipt : ℤ) (input : Uuid) (clock : Option ℕ) :
    Except StoreError HubStore :=
  if !(s.bindings.any (fun b => b.receiptId == receipt && b.input == input) &&
    s.isStarted receipt) then
    .error .legacyRefreshOutcomeUnknown
  else do
    let nowMs ← outboundRequestClockMs clock
    pure ((s.releaseInput receipt input).closeReceipt receipt nowMs .cancelled none none)

def acceptedOutcome : OutboundRequestOutcome → Bool
  | .transportError | .timeout | .httpError | .authenticationRejected | .success => true
  | .protocolError | .responseTooLarge | .cancelled => false

def closeLegacyRefreshAttempt (receipt : ℤ) (input : Uuid)
    (outcome : OutboundRequestOutcome) (httpStatus retryAfterSeconds : Option ℕ) (release : Bool)
    (clock : Option ℕ) : Except StoreError HubStore :=
  if receipt ≤ 0 ∨ input.isNil then .error .invalidLegacyRefreshGeneration
  else if !acceptedOutcome outcome then .error .legacyRefreshOutcomeUnknown
  else if httpStatus.any fun status => !(100 ≤ status && status ≤ 599) then
    .error .invalidOutboundRequestHttpStatus
  else if retryAfterSeconds.any fun seconds => decide (i64Max < seconds) then
    .error .invalidOutboundRequestRetryAfter
  else if !s.isBound receipt input then .error .legacyRefreshOutcomeUnknown
  else do
    let nowMs ← outboundRequestClockMs clock
    let s := s.closeReceipt receipt nowMs outcome httpStatus (retryAfterSeconds.map Nat.cast)
    pure (if release then s.releaseInput receipt input else s)

def completeUnrotatedLegacyRefresh (receipt : ℤ) (generation : Uuid)
    (tokens : TeslaMateLegacyTokenStore) (clock : Option ℕ) : Except StoreError HubStore :=
  if receipt ≤ 0 ∨ generation.isNil ∨ tokens.credentialGeneration ≠ some generation then
    .error .invalidLegacyRefreshGeneration
  else if !s.isBound receipt generation then .error .legacyRefreshOutcomeUnknown
  else if s.currentGeneration ≠ some generation then .error .legacyRefreshOutcomeUnknown
  else do
    let nowMs ← outboundRequestClockMs clock
    let published : HubStore := { s with pair := some tokens }
    pure ((published.closeReceipt receipt nowMs .success (some 200) none).releaseInput
      receipt generation)

end HubStore

inductive StoreOp where
  | begin (input : Uuid) (clock pruneClock : Option ℕ)
  | complete (receipt : ℤ) (input output : Uuid) (tokens : TeslaMateLegacyTokenStore)
      (clock : Option ℕ)
  | completeUnrotated (receipt : ℤ) (generation : Uuid) (tokens : TeslaMateLegacyTokenStore)
      (clock : Option ℕ)
  | cancelUnsent (receipt : ℤ) (input : Uuid) (clock : Option ℕ)
  | close (receipt : ℤ) (input : Uuid) (outcome : OutboundRequestOutcome)
      (httpStatus retryAfterSeconds : Option ℕ) (release : Bool) (clock : Option ℕ)
  | replace (tokens : TeslaMateLegacyTokenStore) (clock : Option ℕ)
  | bind (tokens : TeslaMateLegacyTokenStore) (generation : Uuid)
  | prune (clock : Option ℕ)

def StoreOp.transact (s : HubStore) : StoreOp → Except StoreError HubStore
  | .begin input clock pruneClock => (s.beginLegacyRefresh input clock pruneClock).map (·.1)
  | .complete receipt input output tokens clock =>
    s.completeLegacyRefresh receipt input output tokens clock
  | .completeUnrotated receipt generation tokens clock =>
    s.completeUnrotatedLegacyRefresh receipt generation tokens clock
  | .cancelUnsent receipt input clock => s.cancelUnsentLegacyRefresh receipt input clock
  | .close receipt input outcome httpStatus retryAfterSeconds release clock =>
    s.closeLegacyRefreshAttempt receipt input outcome httpStatus retryAfterSeconds release clock
  | .replace tokens clock => s.replaceTeslamateLegacyTokens tokens clock
  | .bind tokens generation => s.bindTeslamateLegacyCredentialGeneration tokens generation
  | .prune clock => s.pruneExpiredOutboundRequestReceipts clock

def StoreOp.apply (s : HubStore) (op : StoreOp) : HubStore :=
  match op.transact s with
  | .ok s' => s'
  | .error _ => s

def StoreOp.receipt? : StoreOp → Option ℤ
  | .complete receipt .. | .completeUnrotated receipt .. | .cancelUnsent receipt .. | .close receipt
      .. =>
    some receipt
  | .begin .. | .replace .. | .bind .. | .prune .. => none

end TeslatlasHub.Credentials
