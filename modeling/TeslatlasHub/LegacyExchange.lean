import TeslatlasHub.LegacyStore

namespace TeslatlasHub.Credentials

open FixedWidth

class TokenReading where
  issuer : List Char → Option (List Char)
  generation : List Char → Uuid

inductive AttemptClass where
  | notSent | rotated | notRotated | consumedWithoutSuccessor | unknown | clientRefused | dead
  | requestRejected | refused | misrouted | blocked | transient | notRenewed
  deriving DecidableEq

inductive LegacyAuthError where
  | clientRefused | refreshTokenRejected | httpStatus (status : ℕ) | ownerApiRefused
      | responseTooLarge
  | invalidResponse
  deriving DecidableEq

structure FailedAnswer where
  kind : AttemptClass
  error : LegacyAuthError
  deriving DecidableEq

inductive TokenErrorCode where
  | invalidRequest | invalidClient | invalidGrant | unauthorizedClient | unsupportedGrantType
  | invalidScope | loginRequired
  deriving DecidableEq

inductive Member where
  | text (value : List Char)
  | other
  deriving DecidableEq

structure WireAnswer where
  (accessToken refreshToken tokenType : Option Member := none)
  deriving DecidableEq

inductive AnswerBody where
  | complete (wire : Option WireAnswer) (code : Option TokenErrorCode) (namesFleetApi : Bool)
  | tooLarge
  deriving DecidableEq

structure RawAnswer where
  status : ℕ
  body : AnswerBody
  retryAfter : Option ℤ := none
  deriving DecidableEq

inductive Exchange where
  | notSent | connectTimedOut | unknown
  | answer (a : RawAnswer)
  deriving DecidableEq

inductive AcceptedKind where
  | rotated | notRotated | notRenewed
  deriving DecidableEq

def AcceptedKind.class : AcceptedKind → AttemptClass
  | .rotated => .rotated
  | .notRotated => .notRotated
  | .notRenewed => .notRenewed

structure AcceptedTokens where
  (accessToken refreshToken : List Char)
  kind : AcceptedKind
  deriving DecidableEq

def maxTokenBytes : ℕ := 16*1024

def isAccessToken (token : List Char) : Bool :=
  token.all (fun c => c.isAlphanum || "-._~+/=".toList.contains c) && token.any (· != '=')

def isRefreshToken (token : List Char) : Bool :=
  !token.isEmpty && token.all fun c => decide (0x20 ≤ c.toNat) && decide (c.toNat ≤ 0x7e)

def classifyErrorAnswer (status : ℕ) (code : Option TokenErrorCode) (namesFleetApi : Bool) :
    FailedAnswer :=
  if (status = 400 ∨ status = 401) ∧ (code = some .invalidClient ∨
    code = some .unauthorizedClient) then
    ⟨.clientRefused, .clientRefused⟩
  else if (status = 400 ∨ status = 401) ∧
    (code = some .invalidGrant ∨ code = some .loginRequired) then
    ⟨.dead, .refreshTokenRejected⟩
  else if status = 400 ∨ status = 401 ∧ code = none then ⟨.requestRejected, .httpStatus status⟩
  else if status = 403 ∧ namesFleetApi then ⟨.refused, .ownerApiRefused⟩
  else if status = 403 then ⟨.blocked, .httpStatus status⟩
  else if status = 408 ∨ status = 425 ∨ status = 429 ∨ 500 ≤ status ∧ status ≤ 599 then
    ⟨.transient, .httpStatus status⟩
  else ⟨.misrouted, .httpStatus status⟩

def readMember (accepts : List Char → Bool) : Option Member → Except Unit (Option (List Char))
  | none => .ok none
  | some (.text value) => if accepts value then .ok (some value) else .error ()
  | some .other => .error ()

def otherIssuer [TokenReading] (pinnedIssuer : Option (List Char)) (access : List Char) : Bool :=
  pinnedIssuer.any fun pinned => (TokenReading.issuer access).any (· != pinned)

def acceptTokens [TokenReading] (body : AnswerBody) (presentedAccess presentedRefresh : List Char)
    (pinnedIssuer : Option (List Char)) : Except FailedAnswer AcceptedTokens :=
  let invalid : Except FailedAnswer AcceptedTokens :=
    .error ⟨.consumedWithoutSuccessor, .invalidResponse⟩
  match body with
  | .tooLarge => .error ⟨.consumedWithoutSuccessor, .responseTooLarge⟩
  | .complete none _ _ => invalid
  | .complete (some wire) _ _ =>
    let bounded (grammar : List Char → Bool) (text : List Char) : Bool :=
      grammar text && decide (text.length ≤ maxTokenBytes)
    let bearer (text : List Char) : Bool := text.map Char.toLower == "bearer".toList
    match readMember (bounded isAccessToken) wire.accessToken,
      readMember (bounded isRefreshToken) wire.refreshToken, readMember bearer wire.tokenType with
    | .ok (some access), .ok newRefresh, .ok _ =>
      if otherIssuer pinnedIssuer access then invalid
      else
        let refresh := newRefresh.getD presentedRefresh
        let kind := if refresh ≠ presentedRefresh then .rotated
          else if access = presentedAccess then .notRenewed else .notRotated
        .ok { accessToken := access, refreshToken := refresh, kind }
    | _, _, _ => invalid

def classifyAnswer [TokenReading] (answer : RawAnswer)
    (presentedAccess presentedRefresh : List Char)
    (pinnedIssuer : Option (List Char)) : Except FailedAnswer AcceptedTokens :=
  if 200 ≤ answer.status ∧ answer.status < 300 then
    acceptTokens answer.body presentedAccess presentedRefresh pinnedIssuer
  else
    match answer.body with
    | .tooLarge => .error (classifyErrorAnswer answer.status none false)
    | .complete _ code namesFleetApi =>
      .error (classifyErrorAnswer answer.status code namesFleetApi)

structure Attempt where
  receipt : ℤ
  input : Uuid
  deriving DecidableEq

structure Closing where
  outcome : OutboundRequestOutcome
  (httpStatus retryAfterSeconds : Option ℕ)
  releaseInput : Bool
  deriving DecidableEq

def closingFor (kind : AttemptClass) (status : ℕ) (retryAfter : Option ℤ) : Option Closing :=
  let http (outcome : OutboundRequestOutcome) (releaseInput : Bool) : Closing :=
    { outcome, httpStatus := some status, retryAfterSeconds := none, releaseInput }
  match kind with
  | .dead => some (http .authenticationRejected false)
  | .clientRefused | .requestRejected | .refused | .misrouted | .blocked =>
    some (http .httpError true)
  | .transient => some { http .httpError true with
      retryAfterSeconds := (retryAfter.filter (0 ≤ ·)).map Int.toNat }
  | .notRenewed => some (http .success true)
  | .notSent | .rotated | .notRotated | .consumedWithoutSuccessor | .unknown => none

inductive PendingClose where
  | cancel (attempt : Attempt)
  | close (attempt : Attempt) (closing : Closing)
  deriving DecidableEq

structure SuccessorPair where
  (accessToken refreshToken : List Char)
  kind : AcceptedKind
  output : Uuid
  attempt : Attempt
  deriving DecidableEq

def validTokenComponent (value : List Char) : Bool :=
  !value.isEmpty && decide ((value.map Char.utf8Size).sum ≤ maxTokenBytes) &&
    value.all fun c => decide (0x20 ≤ c.toNat) && c.toNat != 0x7f

def successorOf [TokenReading] (accepted : AcceptedTokens) (attempt : Attempt) :
    Option SuccessorPair :=
  if !(validTokenComponent accepted.accessToken && validTokenComponent accepted.refreshToken) then
    none
  else
    let output := TokenReading.generation accepted.refreshToken
    if accepted.kind = .rotated ∧ output = attempt.input then none
    else some
      { accessToken := accepted.accessToken
        refreshToken := accepted.refreshToken
        kind := accepted.kind
        output
        attempt }

inductive PersistReread where
  | alreadyPersisted | closedForThisAttempt | stillInput | external | missing
  deriving DecidableEq

def rereadEnds (successor : SuccessorPair) : PersistReread → Bool
  | .alreadyPersisted => successor.kind == .rotated || successor.output != successor.attempt.input
  | .closedForThisAttempt | .external => true
  | .stillInput | .missing => false

end TeslatlasHub.Credentials
