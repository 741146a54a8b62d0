import TeslatlasHub.SchedulerTypes

namespace TeslatlasHub.Collector

/-! ### The errors a request can end with -/

inductive OwnerApiError where
  | invalidEndpoint
  | requestTimeout
  | transport
  | httpStatus (status : ℕ)
  | rateLimited (retryAfterSeconds : ℕ)
  | forbidden (fleetApiNamed : Bool)
  | gone
  | vehicleNotFound
  | vehicleInService
  | responseTooLarge
  | responseRead
  | invalidResponseEnvelope
  | invalidVehicleListCount
  | invalidVehicleRecord
  | invalidVehicleDataEnvelope
  | invalidCommandResponse
  | invalidCommand
  | commandRejected
  | sensitiveDataInResponse
  | streamPowerNotConfirmed
  | credentialAuthorityUnavailable
  | legacyAuth
  deriving DecidableEq

inductive FleetErrorCode where
  | mobileAccessDisabled | vehicleInService | other
  deriving DecidableEq

inductive FleetApiError where
  | invalidEndpoint
  | requestTimeout
  | requestNotSent
  | transport
  | httpStatus (status : ℕ)
  | providerHttpStatus (status : ℕ) (error : FleetErrorCode)
  | rateLimited (retryAfterSeconds : ℕ)
  | responseTooLarge
  | responseRead
  | invalidResponse
  | invalidCommand
  | commandRejected
  | invalidTelemetryConfig
  | telemetryConfigTooLarge
  | commandProxyUnavailable
  | invalidChargeLimit
  deriving DecidableEq

inductive CredentialRefusal where
  | ownerApi | client
  deriving DecidableEq

inductive LegacyAuthError where
  | invalidAccessToken
  | invalidIssuer
  | invalidRefreshToken
  | invalidResponse
  | responseTooLarge
  | transport
  | rotationOutcomeUnknown
  | sensitiveRotationOutcomeUnknown
  | httpStatus (status : ℕ)
  | refreshDeferred
  | invalidClock
  | invalidPersistedSchedule
  | persistence
  | sensitivePersistenceUnavailable
  | sensitiveAccessUnavailable
  | regionConflict
  | regionRequired
  | tokenUrlInvalid
  | tokenUrlNotAllowed
  | refreshTokenRejected
  | clientRefused
  | ownerApiRefused (reason : CredentialRefusal)
  | accessTokenRejected
  | providerTokenRejected
  | providerTokenExpired
  | refreshNotRenewed
  | refreshNotPossible
  | vehicleAccessRejected
  | authUnavailable (retryAt : Option ℤ)
  | retryNotPossible
  | signedOut
  deriving DecidableEq

def LegacyAuthError.isTerminalAuthFailure : LegacyAuthError → Bool
  | regionConflict | regionRequired | invalidIssuer | tokenUrlInvalid | tokenUrlNotAllowed => true
  | invalidAccessToken | invalidRefreshToken => true
  | accessTokenRejected | providerTokenRejected | providerTokenExpired | ownerApiRefused _
  | signedOut => true
  | _ => false

inductive LegacyAuthManagerError where
  | credential
  | auth (error : LegacyAuthError)
  | observerRefreshDisabled
  deriving DecidableEq

def LegacyAuthManagerError.isSensitiveAccessFailure : LegacyAuthManagerError → Bool
  | credential | auth .sensitiveAccessUnavailable | auth .sensitiveRotationOutcomeUnknown => true
  | _ => false

inductive OwnerApiAuthError where
  | owner (error : OwnerApiError)
  | auth (error : LegacyAuthManagerError)
  | notSignedIn
  deriving DecidableEq

inductive FleetCredentialError where
  | sensitiveAccessUnavailable
  | api (error : FleetApiError)
  | other
  deriving DecidableEq

def FleetCredentialError.isAdmissionLoss : FleetCredentialError → Bool
  | sensitiveAccessUnavailable => true
  | _ => false

inductive CollectorError where
  | sensitiveAccessUnavailable
  | ownerApi (error : OwnerApiError)
  | ownerApiAuth (error : OwnerApiAuthError)
  | legacyAuthManager (error : LegacyAuthManagerError)
  | legacyAuth (error : LegacyAuthError)
  | fleetApi (error : FleetApiError)
  | fleetCredential (error : FleetCredentialError)
  | other
  deriving DecidableEq

def legacyAuthErrorOf : CollectorError → Option LegacyAuthError
  | .legacyAuth error | .legacyAuthManager (.auth error) | .ownerApiAuth (.auth (.auth error)) =>
    some error
  | _ => none

def ownerApiErrorOf : CollectorError → Option OwnerApiError
  | .ownerApi error | .ownerApiAuth (.owner error) => some error
  | _ => none

def rateLimitRetryAfterSeconds : CollectorError → Option ℕ
  | .ownerApi (.rateLimited seconds) | .ownerApiAuth (.owner (.rateLimited seconds))
  | .fleetApi (.rateLimited seconds) => some seconds
  | _ => none

def OwnerApiError.statusOf : OwnerApiError → Option ℕ
  | httpStatus status => some status
  | rateLimited _ => some 429
  | forbidden _ => some 403
  | gone => some 410
  | vehicleNotFound => some 404
  | vehicleInService => some 405
  | _ => none

def FleetApiError.httpStatusOf : FleetApiError → Option ℕ
  | httpStatus status | providerHttpStatus status _ => some status
  | rateLimited _ => some 429
  | _ => none

def httpStatusOf : CollectorError → Option ℕ
  | .ownerApi error | .ownerApiAuth (.owner error) => error.statusOf
  | .fleetApi error => error.httpStatusOf
  | _ => none

variable (error : CollectorError)

def isOwnerWireForbidden : Bool :=
  match ownerApiErrorOf error with
  | some (.forbidden _) => true
  | some (.httpStatus status) => status = 403
  | _ => false

def fleetRefreshRetryDelay : FleetCredentialError → Option Duration
  | .api .requestNotSent => some fleetRefreshRequestNotSentRetry
  | _ => none

def ownerRefusal (provider : Bool) : ErrorClass :=
  if provider then .providerRefusal else .ownerApiRefusal

def classifyLegacyAuth (error : LegacyAuthError) (provider : Bool) : ErrorClass :=
  match error with
  | .authUnavailable _ => .authWait
  | .vehicleAccessRejected => .clientError
  | .ownerApiRefused _ => ownerRefusal provider
  | .sensitiveAccessUnavailable | .sensitiveRotationOutcomeUnknown => .credentialStop
  | .persistence | .sensitivePersistenceUnavailable => .auth
  | error => if error.isTerminalAuthFailure then .credentialStop else .auth

def ownerForbidden (fleetApiNamed : Bool) (request : RequestKind) (provider : Bool) : ErrorClass :=
  match request, fleetApiNamed with
  | .list, true => ownerRefusal provider
  | _, false => .clientError
  | _, true => .accessRefused

def ownerStatus (status : ℕ) (request : RequestKind) (provider : Bool) : ErrorClass :=
  match status with
  | 401 => .auth
  | 402 => if provider then .providerRefusal else .clientError
  | 403 => ownerForbidden false request provider
  | 404 => .notFound
  | 408 => .unavailable
  | 410 => ownerRefusal provider
  | 429 => .rateLimited
  | 451 => .legalPrivacy
  | status =>
    if 500 ≤ status ∧ status ≤ 599 then .transient
    else if 400 ≤ status ∧ status ≤ 499 then .clientError
    else .protocol

def classifyOwner (error : OwnerApiError) (request : RequestKind) (provider : Bool) : ErrorClass :=
  match error with
  | .rateLimited _ => .rateLimited
  | .vehicleNotFound => .notFound
  | .vehicleInService => .inService
  | .forbidden fleetApiNamed => ownerForbidden fleetApiNamed request provider
  | .gone => ownerRefusal provider
  | .requestTimeout | .transport => .unreachable
  | .streamPowerNotConfirmed => .gateNotConfirmed
  | .credentialAuthorityUnavailable | .legacyAuth => .auth
  | .httpStatus status => ownerStatus status request provider
  | .responseTooLarge | .responseRead | .invalidResponseEnvelope | .invalidVehicleListCount
  | .invalidVehicleRecord | .invalidVehicleDataEnvelope | .sensitiveDataInResponse
  | .invalidEndpoint | .invalidCommandResponse | .invalidCommand | .commandRejected => .protocol

def fleetStatus (status : ℕ) (code : Option FleetErrorCode) (request : RequestKind) : ErrorClass :=
  match status with
  | 401 => if code = some .mobileAccessDisabled then .mobileAccessDisabled else .auth
  | 402 => .billing
  | 403 => if request = .list then .fleetAccess else .accessRefused
  | 404 => .notFound
  | 405 => if code = some .vehicleInService then .inService else .clientError
  | 408 => .unavailable
  | 412 | 421 => .config
  | 423 => .locked
  | 429 => .rateLimited
  | 451 => .legalPrivacy
  | status =>
    if 500 ≤ status ∧ status ≤ 599 then .transient
    else if 400 ≤ status ∧ status ≤ 499 then .clientError
    else .protocol

def classifyFleet (error : FleetApiError) (request : RequestKind) : ErrorClass :=
  match error with
  | .rateLimited _ => .rateLimited
  | .requestTimeout | .requestNotSent | .transport => .unreachable
  | .httpStatus status => fleetStatus status none request
  | .providerHttpStatus status error => fleetStatus status (some error) request
  | .responseTooLarge | .responseRead | .invalidResponse | .invalidEndpoint | .invalidCommand
  | .commandRejected | .invalidTelemetryConfig | .telemetryConfigTooLarge
  | .commandProxyUnavailable | .invalidChargeLimit => .protocol

def listClass : ErrorClass → ErrorClass
  | .unavailable => .transient
  | .notFound | .inService | .mobileAccessDisabled | .legalPrivacy | .accessRefused => .clientError
  | other => other

def classifyAny (request : RequestKind) (provider : Bool) : ErrorClass :=
  match error with
  | .sensitiveAccessUnavailable => .transient
  | .fleetCredential error => if error.isAdmissionLoss then .transient else .auth
  | .ownerApiAuth (.auth error) | .legacyAuthManager error =>
    if error.isSensitiveAccessFailure then .transient
    else
      match error with
      | .auth error => classifyLegacyAuth error provider
      | _ => .auth
  | .ownerApiAuth .notSignedIn => .credentialStop
  | .legacyAuth error => classifyLegacyAuth error provider
  | .ownerApi error | .ownerApiAuth (.owner error) => classifyOwner error request provider
  | .fleetApi error => classifyFleet error request
  | .other => .transient

def classify (request : RequestKind) (mode : CollectorMode) : ErrorClass :=
  let cls := classifyAny error request (mode = .provider)
  if request = .list then listClass cls else cls

def ErrorClass.isAccountStateClass : ErrorClass → Bool
  | ownerApiRefusal | providerRefusal | fleetAccess | billing | config | locked => true
  | _ => false

def ErrorClass.isAccountWaitClass : ErrorClass → Bool
  | auth | authWait | credentialStop | rateLimited | unreachable => true
  | _ => false

inductive RefusalCause where
  | forbidden | gone | paymentRequired | credentialUnitOwnerApi | credentialUnitClient
  deriving DecidableEq

def CredentialRefusal.cause : CredentialRefusal → RefusalCause
  | ownerApi => .credentialUnitOwnerApi
  | client => .credentialUnitClient

def refusalFor (mode : CollectorMode) (cause : RefusalCause) : AccountState × Reason :=
  if mode = .provider then
    (.providerRefused,
      match cause with
      | .forbidden | .credentialUnitOwnerApi => .providerForbidden
      | .gone => .providerGone
      | .paymentRequired => .providerPaymentRequired
      | .credentialUnitClient => .providerClientRefused)
  else
    (.ownerApiRefused,
      match cause with
      | .forbidden | .credentialUnitOwnerApi | .paymentRequired => .ownerApiRefused
      | .gone => .ownerApiGone
      | .credentialUnitClient => .ownerApiClientRefused)

inductive CredentialOutcome where
  | authUnavailable (retryAfter : Duration)
  | ownerApiRefused (refusal : CredentialRefusal)
  | vehicleAccessRejected
  | terminalStop
  deriving DecidableEq

inductive CredentialStateSeen where
  | ready
  | terminalStop
  | apiRefused (refusal : CredentialRefusal)
  deriving DecidableEq

def legacyAuthRetryAfter (wallMs : ℤ) : Option Duration :=
  match legacyAuthErrorOf error with
  | some (.authUnavailable retryAt) =>
    let seconds := retryAt.elim 60 (·-wallMs/1000)
    some (secs (max 1 (min seconds 3600)).toNat)
  | _ => none

def credentialOutcomeFor (wallMs : ℤ) : Option CredentialOutcome :=
  match legacyAuthErrorOf error with
  | none => none
  | some (.authUnavailable _) => (legacyAuthRetryAfter error wallMs).map .authUnavailable
  | some (.ownerApiRefused reason) => some (.ownerApiRefused reason)
  | some .vehicleAccessRejected => some .vehicleAccessRejected
  | some error => if error.isTerminalAuthFailure then some .terminalStop else none

end TeslatlasHub.Collector
