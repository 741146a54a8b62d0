import TeslatlasHub.FixedWidth
import TeslatlasHub.Interleaving
import TeslatlasHub.OrderedMap

namespace TeslatlasHub.Devices

open FixedWidth

abbrev PairingId := ℕ

abbrev DeviceId := ℕ

def pairedDeviceTokenLifetimeMs : ℤ := 30*24*60*60*1000
def pairedDeviceRotationGraceMs : ℤ := 24*60*60*1000
def pairedDeviceAuthWriteIntervalMs : ℤ := 15*60*1000
def maxDeviceNameBytes : ℕ := 128
def pairingSecretBytes : ℕ := 32

class BearerCrypto (Digest Sealed : Type) where
  sha256 : String → Digest
  sha256_injective : Function.Injective sha256
  sealSuccessor : String → DeviceId → String → ℕ → Sealed
  unsealSuccessor : String → DeviceId → Sealed → Option String
  unseal_seal : ∀ bearer device successor nonce,
    unsealSuccessor bearer device (sealSuccessor bearer device successor nonce) = some successor
  unseal_other : ∀ bearer device successor nonce bearer' device', (bearer', device') ≠ (bearer,
    device) →
    unsealSuccessor bearer' device' (sealSuccessor bearer device successor nonce) = none

def validWireSecret (value : String) : Bool :=
  value.utf8ByteSize = pairingSecretBytes*2 && value.toList.all fun c =>
    ('0' ≤ c && c ≤ '9') || ('a' ≤ c && c ≤ 'f') || ('A' ≤ c && c ≤ 'F')

def validPairedDeviceName (name : String) : Bool :=
  name ≠ "" && name.utf8ByteSize ≤ maxDeviceNameBytes &&
    name.toList.all fun c => !(c.toNat ≤ 0x1F || (0x7F ≤ c.toNat && c.toNat ≤ 0x9F))

structure PairingChallenge (Digest : Type) where
  secretSha256 : Digest
  expiresAtMs : ℤ

structure PairedDevice (Digest : Type) where
  displayName : String
  tokenSha256 : Digest
  (createdAtMs expiresAtMs : ℤ)
  (revokedAtMs lastAuthenticatedAtMs maxExpiresAtMs : Option ℤ)

structure TokenGrace (Digest Sealed : Type) where
  tokenSha256 : Digest
  validUntilMs : ℤ
  sealedSuccessor : Option Sealed

structure Catalogue (Digest Sealed : Type) where
  challenges : OrderedMap PairingId (PairingChallenge Digest)
  devices : OrderedMap DeviceId (PairedDevice Digest)
  grace : OrderedMap DeviceId (TokenGrace Digest Sealed)

structure PairedDeviceRecord where
  deviceId : DeviceId
  displayName : String
  (createdAtMs expiresAtMs : ℤ)
  (revokedAtMs lastAuthenticatedAtMs : Option ℤ)
  deriving DecidableEq

structure PairedDeviceAccess where
  deviceId : DeviceId
  accessToken : String
  expiresAtMs : ℤ
  atMaximumLifetime : Bool
  deriving DecidableEq

def capExpiry (expiresAtMs : ℤ) (maxExpiresAtMs : Option ℤ) : ℤ :=
  maxExpiresAtMs.elim expiresAtMs (min expiresAtMs ·)

namespace PairedDevice

variable {Digest : Type} (p : PairedDevice Digest)

variable (nowMs : ℤ)

def usableAt : Bool :=
  p.revokedAtMs = none && nowMs < p.expiresAtMs && p.maxExpiresAtMs.all (nowMs < ·)

def record (id : DeviceId) : PairedDeviceRecord where
  deviceId := id
  displayName := p.displayName
  createdAtMs := p.createdAtMs
  expiresAtMs := capExpiry p.expiresAtMs p.maxExpiresAtMs
  revokedAtMs := p.revokedAtMs
  lastAuthenticatedAtMs := p.lastAuthenticatedAtMs

def nextExpiry : ℤ :=
  capExpiry (max (capExpiry p.expiresAtMs p.maxExpiresAtMs)
    (saturatingAdd nowMs pairedDeviceTokenLifetimeMs))
    p.maxExpiresAtMs

def nextAuthenticated : ℤ := max (p.lastAuthenticatedAtMs.getD 0) nowMs

def wantsRefresh : Bool :=
  saturatingAdd (capExpiry p.expiresAtMs p.maxExpiresAtMs) pairedDeviceAuthWriteIntervalMs <
    p.nextExpiry nowMs ||
    p.lastAuthenticatedAtMs.all fun last =>
      pairedDeviceAuthWriteIntervalMs < saturatingSub (p.nextAuthenticated nowMs) last

def slid (nextExpiry : ℤ) : ℤ := min (max p.expiresAtMs nextExpiry) (p.maxExpiresAtMs.getD i64Max)

def refreshDue (nextExpiry nowMs : ℤ) : Bool :=
  p.lastAuthenticatedAtMs.all (fun last => pairedDeviceAuthWriteIntervalMs < nowMs-last) ||
    pairedDeviceAuthWriteIntervalMs < p.slid nextExpiry-min p.expiresAtMs
      (p.maxExpiresAtMs.getD i64Max)

end PairedDevice

inductive RotationOutcome (Digest : Type) where
  | answered (access : PairedDeviceAccess)
  | issue (deviceId : DeviceId) (target : PairedDevice Digest)

namespace Catalogue

variable {Digest Sealed : Type} [DecidableEq Digest] [BearerCrypto Digest Sealed]
  (c : Catalogue Digest Sealed)

def readCurrentBearerDevice (digest : Digest) (nowMs : ℤ) :
    Option (DeviceId × PairedDevice Digest) :=
  c.devices.entries.find? fun e => e.2.tokenSha256 = digest && e.2.usableAt nowMs

variable (id : DeviceId)

def inGrace (digest : Digest) (nowMs : ℤ) : Bool :=
  (c.grace.get? id).any fun g => g.tokenSha256 = digest && nowMs < g.validUntilMs

def readGraceBearerDevice (digest : Digest) (nowMs : ℤ) : Option (DeviceId × PairedDevice Digest) :=
  c.devices.entries.find? fun e =>
    c.inGrace e.1 digest nowMs && e.2.createdAtMs ≤ nowMs && e.2.usableAt nowMs

def rotationOutcome (accessToken : String) (nowMs : ℤ) : Option (RotationOutcome Digest) :=
  let digest : Digest := BearerCrypto.sha256 Sealed accessToken
  let row := c.devices.entries.find? fun e =>
    (e.2.tokenSha256 = digest || c.inGrace e.1 digest nowMs) && e.2.createdAtMs ≤ nowMs &&
      e.2.usableAt nowMs
  row.bind fun (id, p) =>
    if p.tokenSha256 = digest then
      if p.maxExpiresAtMs.any (· ≤ p.expiresAtMs) then
        some (.answered ⟨id, accessToken, capExpiry p.expiresAtMs p.maxExpiresAtMs, true⟩)
      else some (.issue id p)
    else
      ((c.grace.get? id).bind (·.sealedSuccessor)).bind fun sealed =>
        (BearerCrypto.unsealSuccessor Digest accessToken id sealed).bind fun successor =>
          if validWireSecret successor && BearerCrypto.sha256 Sealed successor = p.tokenSha256 then
            some (.answered ⟨id, successor, capExpiry p.expiresAtMs p.maxExpiresAtMs, false⟩)
          else none

def challengeAccepts (pairingId : PairingId) (secret : String) (claimedAtMs : ℤ) : Bool :=
  (c.challenges.get? pairingId).any fun challenge =>
    claimedAtMs < challenge.expiresAtMs && challenge.secretSha256 = BearerCrypto.sha256 Sealed
      secret

def unsealed (g : TokenGrace Digest Sealed) : TokenGrace Digest Sealed :=
  { g with sealedSuccessor := none }

def endedUnsealed (nowMs : ℤ) (g : TokenGrace Digest Sealed) : TokenGrace Digest Sealed :=
  if g.validUntilMs ≤ nowMs then unsealed g else g

def claimed (pairingId : PairingId) (deviceName : String) (claimedAtMs maxLifetimeMs : ℤ)
    (deviceId : DeviceId)
    (token : String) : Catalogue Digest Sealed × PairedDeviceAccess :=
  let maxExpiresAtMs := saturatingAdd claimedAtMs maxLifetimeMs
  let expiresAtMs := min (saturatingAdd claimedAtMs pairedDeviceTokenLifetimeMs) maxExpiresAtMs
  ({ c with
      devices := c.devices.insert deviceId
        { displayName := deviceName
          tokenSha256 := BearerCrypto.sha256 Sealed token
          createdAtMs := claimedAtMs
          expiresAtMs
          revokedAtMs := none
          lastAuthenticatedAtMs := none
          maxExpiresAtMs := some maxExpiresAtMs }
      challenges := c.challenges.erase pairingId },
    ⟨deviceId, token, expiresAtMs, false⟩)

def refreshed (nextExpiry nowMs : ℤ) : Catalogue Digest Sealed :=
  { c with
    devices := c.devices.modify id fun p => { p with
      expiresAtMs := p.slid nextExpiry
      lastAuthenticatedAtMs := some (p.nextAuthenticated nowMs) }
    grace := c.grace.modify id (endedUnsealed nowMs) }

def issued (accessToken : String) (nowMs : ℤ) (id : DeviceId) (target : PairedDevice Digest)
    (token : String)
    (nonce : ℕ) : Catalogue Digest Sealed × PairedDeviceAccess :=
  let expiresAtMs :=
    capExpiry (max target.expiresAtMs (saturatingAdd nowMs pairedDeviceTokenLifetimeMs))
      target.maxExpiresAtMs
  ({ c with
      grace := c.grace.insert id
        { tokenSha256 := BearerCrypto.sha256 Sealed accessToken
          validUntilMs := saturatingAdd nowMs pairedDeviceRotationGraceMs
          sealedSuccessor := some (BearerCrypto.sealSuccessor Digest accessToken id token nonce) }
      devices := c.devices.modify id fun p => { p with
        tokenSha256 := BearerCrypto.sha256 Sealed token
        expiresAtMs
        lastAuthenticatedAtMs := some nowMs } },
    ⟨id, token, expiresAtMs, false⟩)

def revoked (revokedAtMs : ℤ) : Catalogue Digest Sealed :=
  { c with
    devices := c.devices.modify id fun p =>
      { p with revokedAtMs := some (p.revokedAtMs.getD revokedAtMs) }
    grace := c.grace.modify id unsealed }

def repaired (nowMs : ℤ) : Catalogue Digest Sealed :=
  { c with grace := c.grace.map fun _ => endedUnsealed nowMs }

def digestTaken (digest : Digest) : Bool :=
  c.devices.entries.any fun e => e.1 ≠ id && e.2.tokenSha256 = digest

def graceDigestTaken (digest : Digest) : Bool :=
  c.grace.entries.any fun e => e.1 ≠ id && e.2.tokenSha256 = digest

end Catalogue

inductive Request where
  | claimPairing (pairingId : PairingId) (secret deviceName : String)
      (claimedAtMs maxLifetimeMs : I64)
  | authenticateDevice (accessToken : String) (nowMs : I64)
  | rotateDevice (accessToken : String) (nowMs : I64)
  | revokeDevice (deviceId : DeviceId) (revokedAtMs : I64)
  | repair (nowMs : I64)
  deriving DecidableEq

def Request.timeMs : Request → ℤ
  | .claimPairing _ _ _ atMs _ | .authenticateDevice _ atMs | .rotateDevice _ atMs | .revokeDevice _
      atMs
  | .repair atMs => atMs

inductive Stage (Digest : Type) where
  | reading
  | claiming
  | refreshing (deviceId : DeviceId) (seen : PairedDevice Digest)
  | rereading
  | inGraceRow
  | issuing

structure Client (Digest : Type) where
  request : Request
  stage : Stage Digest := .reading

inductive Answer where
  | claimed (access : PairedDeviceAccess)
  | authenticated (record : Option PairedDeviceRecord)
  | rotated (access : PairedDeviceAccess)
  | revoked
  | repaired
  | rejected
  /-- A constraint of the tables refused the transaction. -/
  | failed
  deriving DecidableEq

structure Access where
  request : Request
  answer : Option Answer
  committed : Bool
  deriving DecidableEq

structure Fresh where
  deviceId : DeviceId
  token : String
  nonce : ℕ

section Turns

variable {Digest Sealed : Type} [DecidableEq Digest] [BearerCrypto Digest Sealed]

abbrev Turn (Digest Sealed : Type) :=
  Interleaving.Turn (Catalogue Digest Sealed) (Client Digest) Access

variable (c : Catalogue Digest Sealed)

def refuses : Turn Digest Sealed := ⟨c, none, []⟩

variable (request : Request)

def answers (answer : Answer) : Turn Digest Sealed := ⟨c, none, [⟨request, some answer, false⟩]⟩

def commits (committed : Catalogue Digest Sealed) (request : Request) (answer : Answer) :
    Turn Digest Sealed :=
  ⟨committed, none, [⟨request, some answer, true⟩]⟩

def goesOn (stage : Stage Digest) : Turn Digest Sealed :=
  ⟨c, some ⟨request, stage⟩, [⟨request, none, false⟩]⟩

variable (stage : Stage Digest)

def claimTurn (pairingId : PairingId) (secret deviceName : String)
    (claimedAtMs maxLifetimeMs : I64) (fresh : Fresh) : Turn Digest Sealed :=
  let request : Request := .claimPairing pairingId secret deviceName claimedAtMs maxLifetimeMs
  match stage with
  | .claiming =>
    if !c.challengeAccepts pairingId secret claimedAtMs then answers c request .rejected
    else
      let claimed := c.claimed pairingId deviceName claimedAtMs maxLifetimeMs fresh.deviceId
          fresh.token
      if c.devices.contains fresh.deviceId || c.digestTaken fresh.deviceId
          (BearerCrypto.sha256 Sealed fresh.token) ||
          claimed.2.expiresAtMs ≤ claimedAtMs then
        answers c request .failed
      else commits claimed.1 request (.claimed claimed.2)
  | _ =>
    if !validPairedDeviceName deviceName || claimedAtMs.val < 0 || maxLifetimeMs.val ≤ 0 ||
        !validWireSecret secret then refuses c
    else if !c.challengeAccepts pairingId secret claimedAtMs then answers c request .rejected
    else goesOn c request .claiming

def authenticatedBy (id : DeviceId) (p : PairedDevice Digest) (nowMs : ℤ) : Turn Digest Sealed :=
  answers c request (.authenticated (if nowMs < p.createdAtMs then none else some (p.record id)))

def authenticateTurn (accessToken : String) (nowMs : I64) : Turn Digest Sealed :=
  let request : Request := .authenticateDevice accessToken nowMs
  let digest : Digest := BearerCrypto.sha256 Sealed accessToken
  match stage with
  | .refreshing id seen =>
    let changed := (c.devices.get? id).any fun p =>
      p.tokenSha256 = digest && p.usableAt nowMs && p.refreshDue (seen.nextExpiry nowMs) nowMs
    if changed then
      commits (c.refreshed id (seen.nextExpiry nowMs) nowMs) request
        (.authenticated (some { seen.record id with
        expiresAtMs := seen.nextExpiry nowMs
        lastAuthenticatedAtMs := some (seen.nextAuthenticated nowMs) }))
    else goesOn c request .rereading
  | .rereading =>
    match c.readCurrentBearerDevice digest nowMs with
    | some (id, p) => authenticatedBy c request id p nowMs
    | none => goesOn c request .inGraceRow
  | .inGraceRow =>
    answers c request (.authenticated ((c.readGraceBearerDevice digest nowMs).map fun e =>
      e.2.record e.1))
  | _ =>
    if !validWireSecret accessToken then refuses c
    else
      match c.readCurrentBearerDevice digest nowMs with
      | some (id, p) =>
        if nowMs.val < p.createdAtMs || !p.wantsRefresh nowMs then authenticatedBy c request id p
          nowMs
        else goesOn c request (.refreshing id p)
      | none => goesOn c request .inGraceRow

def rotateTurn (accessToken : String) (nowMs : I64) (fresh : Fresh) : Turn Digest Sealed :=
  let request : Request := .rotateDevice accessToken nowMs
  match stage with
  | .issuing =>
    match c.rotationOutcome accessToken nowMs with
    | none => answers c request .rejected
    | some (.answered access) => answers c request (.rotated access)
    | some (.issue id target) =>
      if c.graceDigestTaken id (BearerCrypto.sha256 Sealed accessToken) ||
          c.digestTaken id (BearerCrypto.sha256 Sealed fresh.token) then
        answers c request .failed
      else
        let issued := c.issued accessToken nowMs id target fresh.token fresh.nonce
        commits issued.1 request (.rotated issued.2)
  | _ =>
    if !validWireSecret accessToken then refuses c
    else
      match c.rotationOutcome accessToken nowMs with
      | none => answers c request .rejected
      | some (.answered access) => answers c request (.rotated access)
      | some (.issue ..) => goesOn c request .issuing

def revokeTurn (deviceId : DeviceId) (revokedAtMs : I64) : Turn Digest Sealed :=
  let request : Request := .revokeDevice deviceId revokedAtMs
  match c.devices.get? deviceId with
  | none => answers c request .rejected
  | some p =>
    if p.revokedAtMs.getD revokedAtMs < p.createdAtMs then answers c request .failed
    else commits (c.revoked deviceId revokedAtMs) request .revoked

def turn (client : Client Digest) (fresh : Fresh) : Turn Digest Sealed :=
  match client.request with
  | .claimPairing pairingId secret deviceName claimedAtMs maxLifetimeMs =>
    claimTurn c client.stage pairingId secret deviceName claimedAtMs maxLifetimeMs fresh
  | .authenticateDevice accessToken nowMs => authenticateTurn c client.stage accessToken nowMs
  | .rotateDevice accessToken nowMs => rotateTurn c client.stage accessToken nowMs fresh
  | .revokeDevice deviceId revokedAtMs => revokeTurn c deviceId revokedAtMs
  | .repair nowMs => commits (c.repaired nowMs) (.repair nowMs) .repaired

end Turns

end TeslatlasHub.Devices
