import TeslatlasHub.LegacyAuthority

namespace TeslatlasHub.Credentials

def rejectionPauseSeconds : ℤ := 300

def confirmationSpacingSeconds : ℤ := 60

inductive RequestScope where
  | account
  | vehicle (id : ℕ)
  | action (id : ℕ)
  deriving DecidableEq

def RequestScope.vehicle? : RequestScope → Option ℕ
  | .account => none
  | .vehicle id | .action id => some id

structure RejectionContext where
  scope : RequestScope
  (generation current : Uuid)
  (tokenUsable remedyPending : Bool)
  holder : HolderKind
  accessDigest : Uuid
  signIn : Option SignOutReason
  deriving DecidableEq

inductive RejectionAction where
  | retryWithCurrent | notCounted | coalesced
  | vehicleRejected (id : ℕ)
  | confirm
  | forceRefreshThenRetry
  | pauseThenRefresh (time : ℤ)
  | pauseThenConfirm (time : ℤ)
  | stop (reason : SignOutReason)
  | observerWait
  deriving DecidableEq

structure ConfirmationState where
  lastStartedAt : Option ℤ := none
  inFlight : Bool := false
  deriving DecidableEq

structure LegacyAuthFuse where
  rejectedGeneration : Option Uuid := none
  consecutive : ℕ := 0
  (lastRejectionAt pauseUntil : Option ℤ := none)
  rejectedAccess : Option Uuid := none
  vehicleRejected : ℕ → Option Uuid := fun _ => none
  streamClearedGeneration : Option Uuid := none
  confirmation : ConfirmationState := {}
  blown : Bool := false

namespace LegacyAuthFuse

def fromSnapshot (snapshot : FuseSnapshot) : LegacyAuthFuse :=
  { rejectedGeneration := snapshot.generation
    consecutive := min snapshot.consecutive fuseLimit
    lastRejectionAt := snapshot.lastRejectionAt
    pauseUntil := snapshot.pauseUntil
    rejectedAccess := snapshot.rejectedAccess }

variable (fuse : LegacyAuthFuse)

def snapshot : FuseSnapshot :=
  { consecutive := fuse.consecutive
    generation := fuse.rejectedGeneration
    lastRejectionAt := fuse.lastRejectionAt
    pauseUntil := fuse.pauseUntil
    rejectedAccess := fuse.rejectedAccess }

def noteStop (stopped : Bool) : LegacyAuthFuse := { fuse with blown := stopped }

def clearPause : LegacyAuthFuse := { fuse with pauseUntil := none }

def reset : LegacyAuthFuse :=
  { fuse with
    rejectedGeneration := none, consecutive := 0, lastRejectionAt := none, pauseUntil := none
    rejectedAccess := none, vehicleRejected := fun _ => none, streamClearedGeneration := none
    blown := false }

def recordSuccess (scope : RequestScope) : LegacyAuthFuse :=
  { fuse with
    rejectedGeneration := none, consecutive := 0, lastRejectionAt := none, pauseUntil := none
    rejectedAccess := none
    vehicleRejected := match scope.vehicle? with
      | some id => Function.update fuse.vehicleRejected id none
      | none => fuse.vehicleRejected }

def windowPassed (now : ℤ) : Bool :=
  fuse.lastRejectionAt.any fun time => !rejectionWindowOpen time now

def alreadyCounted (generation : Uuid) (now : ℤ) : Bool :=
  fuse.rejectedGeneration == some generation && fuse.lastRejectionAt.any (rejectionWindowOpen · now)

def countRejection (now : ℤ) (ctx : RejectionContext) : LegacyAuthFuse × RejectionAction :=
  let consecutive := min ((if fuse.windowPassed now then 0 else fuse.consecutive)+1) fuseLimit
  let pause := FixedWidth.saturatingAdd now rejectionPauseSeconds
  let (pauseUntil, action) : Option ℤ × RejectionAction :=
    match ctx.holder with
    | .observer => (fuse.pauseUntil, .observerWait)
    | .accessTokenOnly =>
      if consecutive = 1 then (some pause, .pauseThenConfirm pause)
      else (fuse.pauseUntil, .stop .providerTokenRejected)
    | .managed =>
      match ctx.signIn, consecutive with
      | some reason, _ => (fuse.pauseUntil, .stop reason)
      | none, 1 => (fuse.pauseUntil, .forceRefreshThenRetry)
      | none, 2 => (some pause, .pauseThenRefresh pause)
      | none, _ => (fuse.pauseUntil, .stop .accessTokenRejected)
  let stops : Bool := match action with
    | .stop _ => true
    | _ => false
  ({ fuse with
      consecutive, pauseUntil
      rejectedGeneration := some ctx.generation
      lastRejectionAt := some now
      rejectedAccess := if stops then none else some ctx.accessDigest
      blown := fuse.blown || stops }, action)

def judgeRejection (now : ℤ) (ctx : RejectionContext) : LegacyAuthFuse × RejectionAction :=
  match ctx.scope.vehicle? with
  | some id =>
    if fuse.vehicleRejected id = some ctx.generation then (fuse, .vehicleRejected id) else (fuse,
      .confirm)
  | none => fuse.countRejection now ctx

def recordRejection (now : ℤ) (ctx : RejectionContext) : LegacyAuthFuse × RejectionAction :=
  if ctx.generation ≠ ctx.current then (fuse, .retryWithCurrent)
  else if !ctx.tokenUsable || ctx.remedyPending then (fuse, .notCounted)
  else if fuse.alreadyCounted ctx.generation now then
    -- a rejection after the pause is the confirmation's own answer, for a pair that cannot be
    -- renewed (R8a)
    if !(ctx.holder == .accessTokenOnly && fuse.pauseUntil.any fun u => decide (u ≤ now)) then
      (fuse, .coalesced)
    else if ctx.scope = .account then
      ({ fuse with blown := true }, .stop .providerTokenRejected)
    else fuse.judgeRejection now ctx
  else fuse.judgeRejection now ctx

def beginConfirmation (now : ℤ) : Option LegacyAuthFuse :=
  if fuse.confirmation.lastStartedAt.any fun started =>
      fuse.confirmation.inFlight ||
        decide (now < FixedWidth.saturatingAdd started confirmationSpacingSeconds) then none
  else some { fuse with confirmation := { lastStartedAt := some now, inFlight := true } }

def finishConfirmation : LegacyAuthFuse :=
  { fuse with confirmation := { fuse.confirmation with inFlight := false } }

def markVehicleRejected (id : ℕ) (generation : Uuid) : LegacyAuthFuse :=
  { fuse with vehicleRejected := Function.update fuse.vehicleRejected id (some generation) }

def noteStreamCleared (generation : Uuid) : LegacyAuthFuse :=
  { fuse with streamClearedGeneration := some generation }

end LegacyAuthFuse

end TeslatlasHub.Credentials
