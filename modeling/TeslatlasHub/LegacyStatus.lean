import TeslatlasHub.ClosedVocabulary
import TeslatlasHub.LegacyStore
import TeslatlasHub.RunRules

namespace TeslatlasHub.Credentials

open ClosedVocabulary Option

inductive SignOutReason where
  | refreshTokenRejected | refreshOutcomeUnknown | refreshResponseUnusable | accessTokenRejected
  | storedPairInvalid | providerTokenRejected | providerTokenExpired
  deriving DecidableEq

def SignOutReason.code : SignOutReason → String
  | .refreshTokenRejected => "refresh_token_rejected"
  | .refreshOutcomeUnknown => "refresh_outcome_unknown"
  | .refreshResponseUnusable => "refresh_response_unusable"
  | .accessTokenRejected => "access_token_rejected"
  | .storedPairInvalid => "stored_pair_invalid"
  | .providerTokenRejected => "provider_token_rejected"
  | .providerTokenExpired => "provider_token_expired"

instance : Vocabulary SignOutReason where
  all := [.refreshTokenRejected, .refreshOutcomeUnknown, .refreshResponseUnusable,
    .accessTokenRejected, .storedPairInvalid, .providerTokenRejected, .providerTokenExpired]
  code := SignOutReason.code
  mem_all a := by cases a <;> decide
  nodup_codes := by decide

inductive RefusalReason where
  | ownerApi | client
  deriving DecidableEq

def RefusalReason.code : RefusalReason → String
  | .ownerApi => "owner_api"
  | .client => "client"

instance : Vocabulary RefusalReason where
  all := [.ownerApi, .client]
  code := RefusalReason.code
  mem_all a := by cases a <;> decide
  nodup_codes := by decide

inductive RetryReason where
  | network | sensitiveAccess | teslaUnavailable | refreshBlocked | refreshRequestRejected
  | tokenEndpointMisrouted | clientCheck | shortTokenLifetime | clockSkew | refreshNotRenewed
  | storeUnavailable
  deriving DecidableEq

def RetryReason.code : RetryReason → String
  | .network => "network"
  | .sensitiveAccess => "sensitive_access"
  | .teslaUnavailable => "tesla_unavailable"
  | .refreshBlocked => "refresh_blocked"
  | .refreshRequestRejected => "refresh_request_rejected"
  | .tokenEndpointMisrouted => "token_endpoint_misrouted"
  | .clientCheck => "client_check"
  | .shortTokenLifetime => "short_token_lifetime"
  | .clockSkew => "clock_skew"
  | .refreshNotRenewed => "refresh_not_renewed"
  | .storeUnavailable => "store_unavailable"

instance : Vocabulary RetryReason where
  all := [.network, .sensitiveAccess, .teslaUnavailable, .refreshBlocked, .refreshRequestRejected,
    .tokenEndpointMisrouted, .clientCheck, .shortTokenLifetime, .clockSkew, .refreshNotRenewed,
    .storeUnavailable]
  code := RetryReason.code
  mem_all a := by cases a <;> decide
  nodup_codes := by decide

inductive ConfigurationReason where
  | regionConflict | regionRequired | issuerNotAllowed | tokenUrlInvalid | tokenUrlNotAllowed
  deriving DecidableEq

def ConfigurationReason.code : ConfigurationReason → String
  | .regionConflict => "region_conflict"
  | .regionRequired => "region_required"
  | .issuerNotAllowed => "issuer_not_allowed"
  | .tokenUrlInvalid => "token_url_invalid"
  | .tokenUrlNotAllowed => "token_url_not_allowed"

instance : Vocabulary ConfigurationReason where
  all := [.regionConflict, .regionRequired, .issuerNotAllowed, .tokenUrlInvalid,
    .tokenUrlNotAllowed]
  code := ConfigurationReason.code
  mem_all a := by cases a <;> decide
  nodup_codes := by decide

inductive ObserverReason where
  | tokenRejected | tokenExpired | clockSkew
  deriving DecidableEq

def ObserverReason.code : ObserverReason → String
  | .tokenRejected => "token_rejected"
  | .tokenExpired => "token_expired"
  | .clockSkew => "clock_skew"

instance : Vocabulary ObserverReason where
  all := [.tokenRejected, .tokenExpired, .clockSkew]
  code := ObserverReason.code
  mem_all a := by cases a <;> decide
  nodup_codes := by decide

inductive AuthState where
  | ready | refreshing | retrying | persistencePending | awaitingConfirmation | observerWaiting
  | clockInvalid | configurationError | signInRequired | signedOut | apiRefused
  deriving DecidableEq

def AuthState.code : AuthState → String
  | .ready => "ready"
  | .refreshing => "refreshing"
  | .retrying => "retrying"
  | .persistencePending => "persistence_pending"
  | .awaitingConfirmation => "awaiting_confirmation"
  | .observerWaiting => "observer_waiting"
  | .clockInvalid => "clock_invalid"
  | .configurationError => "configuration_error"
  | .signInRequired => "sign_in_required"
  | .signedOut => "signed_out"
  | .apiRefused => "api_refused"

instance : Vocabulary AuthState where
  all := [.ready, .refreshing, .retrying, .persistencePending, .awaitingConfirmation,
    .observerWaiting, .clockInvalid, .configurationError, .signInRequired, .signedOut, .apiRefused]
  code := AuthState.code
  mem_all a := by cases a <;> decide
  nodup_codes := by decide

inductive StatusReason where
  | retry (reason : RetryReason)
  | signOut (reason : SignOutReason)
  | refusal (reason : RefusalReason)
  | configuration (reason : ConfigurationReason)
  | observer (reason : ObserverReason)
  deriving DecidableEq

def StatusReason.code : StatusReason → String
  | .retry reason => reason.code
  | .signOut reason => reason.code
  | .refusal reason => reason.code
  | .configuration reason => reason.code
  | .observer reason => reason.code

def SignOutReason.needsSignIn : SignOutReason → Bool
  | .refreshTokenRejected | .refreshOutcomeUnknown | .refreshResponseUnusable => true
  | .accessTokenRejected | .storedPairInvalid | .providerTokenRejected | .providerTokenExpired =>
    false

def AuthState.admits : AuthState → Option StatusReason → Bool
  | .ready, none | .refreshing, none | .persistencePending, none | .clockInvalid, none => true
  | .retrying, some (.retry _) | .observerWaiting, some (.observer _)
  | .configurationError, some (.configuration _) | .apiRefused, some (.refusal _)
  | .signedOut, some (.signOut _) => true
  | .awaitingConfirmation, some (.signOut reason) => reason == .accessTokenRejected
  | .signInRequired, some (.signOut reason) => reason.needsSignIn
  | _, _ => false

def StatusReason.parse (state : AuthState) (code : String) : Option StatusReason :=
  match state with
  | .retrying => (fromCode code).map .retry
  | .observerWaiting => (fromCode code).map .observer
  | .configurationError => (fromCode code).map .configuration
  | .signInRequired | .signedOut | .awaitingConfirmation =>
    ((fromCode code).map .signOut).filter fun reason => state.admits (some reason)
  | .apiRefused => (fromCode code).map .refusal
  | .ready | .refreshing | .persistencePending | .clockInvalid => none

inductive AuthMode where
  | tesla | provider
  deriving DecidableEq

inductive StoppedMode where
  | legacy | provider
  deriving DecidableEq

namespace StoppedMode

def of : AuthMode → StoppedMode
  | .tesla => .legacy
  | .provider => .provider

def code : StoppedMode → String
  | .legacy => "legacy"
  | .provider => "provider"

end StoppedMode

instance : Vocabulary StoppedMode where
  all := [.legacy, .provider]
  code := StoppedMode.code
  mem_all a := by cases a <;> decide
  nodup_codes := by decide

/-- A stop of the account (R43): a sign-in stop ends token requests only, the other two end
everything, until the credentials change or the owner acts. -/
inductive AuthStop where
  | signInRequired (reason : SignOutReason)
  | signedOut (reason : SignOutReason)
  | apiRefused (reason : RefusalReason)
  deriving DecidableEq

namespace AuthStop

def state : AuthStop → AuthState
  | .signInRequired _ => .signInRequired
  | .signedOut _ => .signedOut
  | .apiRefused _ => .apiRefused

def reason : AuthStop → StatusReason
  | .signInRequired reason | .signedOut reason => .signOut reason
  | .apiRefused reason => .refusal reason

def blocksRequests : AuthStop → Bool
  | .signInRequired _ => false
  | .signedOut _ | .apiRefused _ => true

def liftedByExternalWrite : AuthStop → Bool
  | .apiRefused _ => false
  | .signInRequired _ | .signedOut _ => true

def liftedByOwnerRetry : AuthStop → Bool
  | .signedOut .accessTokenRejected | .signedOut .providerTokenRejected | .apiRefused _ => true
  | _ => false

end AuthStop

def fuseLimit : ℕ := 3

def fuseWindowSeconds : ℤ := 3600

structure FuseSnapshot where
  consecutive : ℕ := 0
  generation : Option Uuid := none
  (lastRejectionAt pauseUntil : Option ℤ := none)
  rejectedAccess : Option Uuid := none
  deriving DecidableEq

def FuseSnapshot.isConsistent (fuse : FuseSnapshot) : Bool :=
  decide (fuse.consecutive ≤ fuseLimit) && ((fuse.consecutive == 0) == fuse.generation.isNone) &&
    (fuse.rejectedAccess.isNone || decide (0 < fuse.consecutive))

def rejectionWindowOpen (lastRejectionAt now : ℤ) : Bool :=
  decide (now-lastRejectionAt ≤ fuseWindowSeconds)

structure CollectorAuthRow where
  state : String
  reason : Option String
  collecting : Bool
  retryAt : Option ℤ
  stoppedGeneration : Option Uuid
  stoppedMode : Option String
  fuseConsecutive : ℕ
  fuseGeneration : Option Uuid
  (fuseLastRejectionAt fusePauseUntil : Option ℤ)
  fuseRejectedAccessDigest : Option Uuid
  clockSkew : Bool
  deriving DecidableEq

structure AuthStatus where
  state : AuthState
  reason : Option StatusReason
  collecting : Bool
  retryAt : Option ℤ
  stoppedGeneration : Option Uuid
  stoppedMode : Option StoppedMode
  fuse : FuseSnapshot
  clockSkew : Bool
  deriving DecidableEq

namespace AuthStatus

def ready (fuse : FuseSnapshot) (clockSkew : Bool) : AuthStatus :=
  { state := .ready, reason := none, collecting := true, retryAt := none, stoppedGeneration := none
    stoppedMode := none, fuse, clockSkew }

def idle (state : AuthState) (reason : Option StatusReason) (fuse : FuseSnapshot) (skew : Bool) :
    AuthStatus :=
  { state, reason, collecting := false, retryAt := none, stoppedGeneration := none
    stoppedMode := none, fuse, clockSkew := skew }

def observerWaiting (reason : ObserverReason) (fuse : FuseSnapshot) (skew : Bool) : AuthStatus :=
  idle .observerWaiting (some (.observer reason)) fuse skew

def awaitingConfirmation (fuse : FuseSnapshot) (skew : Bool) : AuthStatus :=
  idle .awaitingConfirmation (some (.signOut .accessTokenRejected)) fuse skew

def stopped (stop : AuthStop) (generation : Uuid) (mode : StoppedMode) (usable : Bool)
    (fuse : FuseSnapshot) (clockSkew : Bool) : AuthStatus :=
  let status := idle stop.state (some stop.reason) fuse clockSkew
  match stop with
  | .signInRequired _ => { status with stoppedGeneration := some generation, collecting := usable }
  | .signedOut _ => { status with stoppedGeneration := some generation }
  | .apiRefused _ => { status with stoppedMode := some mode }

variable (status : AuthStatus)

def stop : Option AuthStop :=
  match status.state, status.reason with
  | .signInRequired, some (.signOut reason) => some (.signInRequired reason)
  | .signedOut, some (.signOut reason) => some (.signedOut reason)
  | .apiRefused, some (.refusal reason) => some (.apiRefused reason)
  | _, _ => none

def withUsability (usable : Bool) : AuthStatus :=
  match status.state with
  | .retrying | .persistencePending | .signInRequired => { status with collecting := usable }
  | _ => status

def withSignInExpired : AuthStatus :=
  match status.state, status.reason with
  | .signInRequired, some reason =>
    { status with state := .signedOut, reason := some reason, collecting := false }
  | _, _ => status

end AuthStatus

namespace AuthState

def signStop (state : AuthState) : Bool := state == .signInRequired || state == .signedOut

def alwaysCollects (state : AuthState) : Bool := state == .ready || state == .refreshing

def neverCollects : AuthState → Bool
  | .awaitingConfirmation | .observerWaiting | .clockInvalid | .configurationError | .signedOut
  | .apiRefused => true
  | .ready | .refreshing | .retrying | .persistencePending | .signInRequired => false

end AuthState

namespace AuthStatus

variable (status : AuthStatus)

def isConsistent : Bool :=
  status.state.admits status.reason && (status.state.signStop == status.stoppedGeneration.isSome) &&
    ((status.state == .apiRefused) == status.stoppedMode.isSome) && status.fuse.isConsistent &&
    (!status.state.alwaysCollects || status.collecting) &&
    (!status.state.neverCollects || !status.collecting) &&
    (status.state == .retrying || status.retryAt.isNone)

def toRow : CollectorAuthRow :=
  { state := status.state.code
    reason := status.reason.map StatusReason.code
    collecting := status.collecting
    retryAt := status.retryAt
    stoppedGeneration := status.stoppedGeneration
    stoppedMode := status.stoppedMode.map StoppedMode.code
    fuseConsecutive := status.fuse.consecutive
    fuseGeneration := status.fuse.generation
    fuseLastRejectionAt := status.fuse.lastRejectionAt
    fusePauseUntil := status.fuse.pauseUntil
    fuseRejectedAccessDigest := status.fuse.rejectedAccess
    clockSkew := status.clockSkew }

def readCode {α : Type} (read : String → Option α) : Option String → Except StoreError (Option α)
  | none => .ok none
  | some code =>
    match read code with
    | some word => .ok (some word)
    | none => .error .invalidStoredAuthStatus

def checked : Except StoreError AuthStatus :=
  if status.isConsistent then .ok status else .error .invalidStoredAuthStatus

def fromRow (row : CollectorAuthRow) : Except StoreError AuthStatus :=
  match (fromCode row.state : Option AuthState) with
  | none => .error .invalidStoredAuthStatus
  | some state => do
    let reason ← readCode (StatusReason.parse state) row.reason
    let stoppedMode ← readCode fromCode row.stoppedMode
    checked
      { state, reason, collecting := row.collecting, retryAt := row.retryAt
        stoppedGeneration := row.stoppedGeneration, stoppedMode
        fuse :=
          { consecutive := row.fuseConsecutive, generation := row.fuseGeneration
            lastRejectionAt := row.fuseLastRejectionAt, pauseUntil := row.fusePauseUntil
            rejectedAccess := row.fuseRejectedAccessDigest }
        clockSkew := row.clockSkew }

structure Consistent (status : AuthStatus) : Prop where
  admitted : status.state.admits status.reason
  generation : status.state.signStop = status.stoppedGeneration.isSome
  mode : (status.state == .apiRefused) = status.stoppedMode.isSome
  fuse : status.fuse.isConsistent
  always : status.state.alwaysCollects → status.collecting
  never : status.state.neverCollects → status.collecting = false
  retry : status.state = .retrying ∨ status.retryAt = none

theorem isConsistent_iff : status.isConsistent ↔ status.Consistent := by
  have hnot {a b : Bool} : (!a || b) ↔ (a → b) := by
    cases a <;> cases b <;> decide
  unfold isConsistent
  simp only [Bool.and_eq_true, hnot, Bool.or_eq_true, beq_iff_eq, Bool.not_eq_true',
    isNone_iff_eq_none]
  constructor
  · rintro ⟨⟨⟨⟨⟨⟨ha, hg⟩, hm⟩, hf⟩, hal⟩, hn⟩, hr⟩
    exact ⟨ha, hg, hm, hf, hal, hn, hr⟩
  · intro h
    exact ⟨⟨⟨⟨⟨⟨h.admitted, h.generation⟩, h.mode⟩, h.fuse⟩, h.always⟩, h.never⟩, h.retry⟩

end AuthStatus

theorem StatusReason.parse_code {state : AuthState} {reason : StatusReason}
    (h : state.admits (some reason)) : StatusReason.parse state reason.code = some reason := by
  have hread {α : Type} [Vocabulary α] (wrap : α → StatusReason) (a : α) :
      ((fromCode (Vocabulary.code a) : Option α).map wrap) = some (wrap a) := by
    rw [fromCode_code, map_some]
  cases reason with
  | retry r =>
    cases state with
    | retrying => exact hread .retry r
    | _ => cases h
  | observer r =>
    cases state with
    | observerWaiting => exact hread .observer r
    | _ => cases h
  | configuration r =>
    cases state with
    | configurationError => exact hread .configuration r
    | _ => cases h
  | refusal r =>
    cases state with
    | apiRefused => exact hread .refusal r
    | _ => cases h
  | signOut r =>
    have hfilter {state : AuthState} (h : state.admits (some (.signOut r))) :
        ((fromCode (Vocabulary.code r)).map StatusReason.signOut).filter
          (fun reason => state.admits (some reason)) = some (.signOut r) := by
      rw [hread .signOut r, filter_some, if_pos h]
    cases state with
    | signInRequired | signedOut | awaitingConfirmation => exact hfilter h
    | _ => cases h

theorem StatusReason.code_of_parse {state : AuthState} {code : String} {reason : StatusReason}
    (h : StatusReason.parse state code = some reason) : reason.code = code := by
  have hread {α : Type} [Vocabulary α] {wrap : α → StatusReason}
      (hwrap : ∀ a, (wrap a).code = Vocabulary.code a)
      (h : (fromCode code : Option α).map wrap = some reason) : reason.code = code := by
    obtain ⟨a, ha, rfl⟩ := map_eq_some_iff.mp h
    rw [hwrap, code_of_fromCode ha]
  cases state with
  | retrying | observerWaiting | configurationError | apiRefused => exact hread (fun _ => rfl) h
  | signInRequired | signedOut | awaitingConfirmation =>
    exact hread (fun _ => rfl) (filter_eq_some_iff.mp h).1
  | _ => cases h

namespace AuthStatus

theorem readCode_map {α : Type} {read : String → Option α} {code : α → String} {word : Option α}
    (h : ∀ a, word = some a → read (code a) = some a) :
    readCode read (word.map code) = .ok word := by
  cases word with
  | none => rfl
  | some a =>
    change (match read (code a) with
      | some word => Except.ok (some word)
      | none => .error StoreError.invalidStoredAuthStatus) = _
    rw [h a rfl]

variable {status : AuthStatus}

theorem checked_eq_ok {status' : AuthStatus} :
    status.checked = .ok status' ↔ status.isConsistent ∧ status = status' := by
  unfold checked
  split_ifs with h
  · simp only [h, true_and, Except.ok.injEq]
  · simp only [h, false_and, reduceCtorEq]

theorem fromRow_toRow (h : status.isConsistent) : fromRow status.toRow = .ok status := by
  have hstate : (fromCode status.toRow.state : Option AuthState) = some status.state :=
    fromCode_code status.state
  have hreason : readCode (StatusReason.parse status.state) status.toRow.reason =
      .ok status.reason := by
    refine readCode_map fun reason hr => StatusReason.parse_code ?_
    rw [← hr]
    exact ((isConsistent_iff status).mp h).admitted
  have hmode : readCode fromCode status.toRow.stoppedMode = .ok status.stoppedMode :=
    readCode_map fun mode _ => fromCode_code mode
  unfold fromRow
  rw [hstate]
  change (readCode (StatusReason.parse status.state) status.toRow.reason >>= _) = _
  rw [hreason]
  rw [hmode]
  exact checked_eq_ok.mpr ⟨h, rfl⟩

theorem map_of_readCode {α : Type} {read : String → Option α} {code : α → String}
    {stored : Option String} {word : Option α} (hread : ∀ c a, read c = some a → code a = c)
    (h : readCode read stored = .ok word) : word.map code = stored := by
  cases stored with
  | none =>
    cases h
    rfl
  | some c =>
    cases hword : read c with
    | none =>
      simp only [readCode, hword] at h
      cases h
    | some a =>
      simp only [readCode, hword] at h
      cases h
      rw [map_some, hread c a hword]

theorem written_of_fromRow {row : CollectorAuthRow} (h : fromRow row = .ok status) :
    status.isConsistent ∧ status.toRow = row := by
  unfold fromRow at h
  split at h
  · cases h
  rename_i state hstate
  obtain ⟨reason, hreason, h⟩ := RunRules.bind_eq_ok.mp h
  obtain ⟨mode, hmode, h⟩ := RunRules.bind_eq_ok.mp h
  obtain ⟨hc, rfl⟩ := checked_eq_ok.mp h
  have hcode : state.code = row.state := code_of_fromCode hstate
  have hreason := map_of_readCode (fun _ _ => StatusReason.code_of_parse) hreason
  have hmode : mode.map StoppedMode.code = row.stoppedMode :=
    map_of_readCode (fun _ _ => code_of_fromCode) hmode
  refine ⟨hc, ?_⟩
  unfold toRow
  rw [hcode, hreason, hmode]

theorem isConsistent_of_fromRow {row : CollectorAuthRow} (h : fromRow row = .ok status) :
    status.isConsistent :=
  (written_of_fromRow h).1

/-- The rows that decode are those a consistent status writes, and each decodes to the status that
wrote it. -/
theorem row_decodes_to_what_wrote_it (row : CollectorAuthRow) (status : AuthStatus) :
    fromRow row = .ok status ↔ status.isConsistent = true ∧ status.toRow = row := by
  refine ⟨written_of_fromRow, ?_⟩
  rintro ⟨hconsistent, rfl⟩
  exact fromRow_toRow hconsistent

end AuthStatus

end TeslatlasHub.Credentials
