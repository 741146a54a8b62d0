import TeslatlasHub.DeviceStore

namespace TeslatlasHub.Devices

open BearerCrypto OrderedMap FixedWidth Interleaving RunRules List Option Access Catalogue

variable {Digest Sealed : Type}

/-! ### What the log of the store accesses says -/

structure Issue where
  device : DeviceId
  token : String
  atMs : ℤ
  deriving DecidableEq

structure Claim where
  pairing : PairingId
  device : DeviceId
  (atMs maxLifetimeMs : ℤ)
  deriving DecidableEq

structure Acceptance where
  device : DeviceId
  token : String
  nowMs : ℤ
  deriving DecidableEq

namespace Access

def issue? : Access → Option Issue
  | ⟨.claimPairing _ _ _ atMs _, some (.claimed access), true⟩ =>
    some ⟨access.deviceId, access.accessToken, atMs⟩
  | ⟨.rotateDevice _ nowMs, some (.rotated access), true⟩ =>
    some ⟨access.deviceId, access.accessToken, nowMs⟩
  | _ => none

def claim? : Access → Option Claim
  | ⟨.claimPairing pairing _ _ atMs maxLifetimeMs, some (.claimed access), true⟩ =>
    some ⟨pairing, access.deviceId, atMs, maxLifetimeMs⟩
  | _ => none

def revokes? : Access → Option DeviceId
  | ⟨.revokeDevice device _, some .revoked, true⟩ => some device
  | _ => none

def acceptance? : Access → Option Acceptance
  | ⟨.authenticateDevice token nowMs, some (.authenticated (some record)), _⟩ =>
    some ⟨record.deviceId, token, nowMs⟩
  | ⟨.rotateDevice token nowMs, some (.rotated access), _⟩ => some ⟨access.deviceId, token, nowMs⟩
  | _ => none

end Access

def bearers (log : List Access) (device : DeviceId) : List Issue :=
  (log.filterMap Access.issue?).filter (·.device = device)

def claimsOf (log : List Access) (device : DeviceId) : List Claim :=
  (log.filterMap Access.claim?).filter (·.device = device)

def OfUse (before : List Access) (x : Acceptance) : Prop :=
  ∃ i, ((bearers before x.device)[i]?).map (·.token) = some x.token ∧
    (∀ a ∈ before, a.revokes? ≠ some x.device) ∧ (bearers before x.device).length ≤ i+2 ∧
    (∀ next, (bearers before x.device)[i+1]? = some next →
      x.nowMs < next.atMs+pairedDeviceRotationGraceMs) ∧
    ∀ claim ∈ claimsOf before x.device, x.nowMs < claim.atMs+claim.maxLifetimeMs

structure Lawful (before : List Access) (a : Access) : Prop where
  /-- A challenge makes one device, which begins with its first bearer. -/
  claimed : ∀ claim, a.claim? = some claim →
    (∀ earlier ∈ before, ∀ claim', earlier.claim? = some claim' → claim'.pairing ≠ claim.pairing) ∧
      bearers before claim.device = [] ∧ claimsOf before claim.device = []
  /-- Only the last bearer of a device issues another. -/
  issued : ∀ token nowMs access, a = ⟨.rotateDevice token nowMs, some (.rotated access), true⟩ →
    ∃ earlier last, bearers before access.deviceId = earlier++[last] ∧ last.token = token
  /-- A rotation is answered with the bearer itself at the maximum lifetime, and otherwise with the
  one successor. -/
  answered : ∀ token nowMs access committed, a = ⟨.rotateDevice token nowMs, some (.rotated access),
    committed⟩ →
    access.atMaximumLifetime ∧ access.accessToken = token ∨
      access.atMaximumLifetime = false ∧ ∃ i, ((bearers (before++[a]) access.deviceId)[i]?).map
        (·.token) = some token ∧
        ((bearers (before++[a]) access.deviceId)[i+1]?).map (·.token) = some access.accessToken
  accepted : ∀ x, a.acceptance? = some x → OfUse before x

namespace Catalogue

variable [DecidableEq Digest] (c : Catalogue Digest Sealed)

theorem of_readCurrentBearerDevice {digest : Digest} {nowMs : ℤ} {id : DeviceId}
    {p : PairedDevice Digest} (h : c.readCurrentBearerDevice digest nowMs = some (id, p)) :
    c.devices.get? id = some p ∧ p.tokenSha256 = digest ∧ p.usableAt nowMs := by
  have hfound := find?_some h
  simp only [Bool.and_eq_true, decide_eq_true_eq] at hfound
  exact ⟨get?_eq_some.mpr (mem_of_find?_eq_some h), hfound.1, hfound.2⟩

theorem of_readGraceBearerDevice {digest : Digest} {nowMs : ℤ} {id : DeviceId}
    {p : PairedDevice Digest} (h : c.readGraceBearerDevice digest nowMs = some (id, p)) :
    c.devices.get? id = some p ∧ c.inGrace id digest nowMs ∧ p.usableAt nowMs := by
  have hfound := find?_some h
  simp only [Bool.and_eq_true] at hfound
  exact ⟨get?_eq_some.mpr (mem_of_find?_eq_some h), hfound.1.1, hfound.2⟩

variable [BearerCrypto Digest Sealed]

inductive Decided (token : String) (nowMs : ℤ) : RotationOutcome Digest → Prop
  | atMaximum {id p} (hp : c.devices.get? id = some p)
      (htoken : p.tokenSha256 = sha256 Sealed token) (husable : p.usableAt nowMs) :
      Decided token nowMs (.answered ⟨id, token, capExpiry p.expiresAtMs p.maxExpiresAtMs, true⟩)
  | issue {id p} (hp : c.devices.get? id = some p)
      (htoken : p.tokenSha256 = sha256 Sealed token) (husable : p.usableAt nowMs)
      (hcreated : p.createdAtMs ≤ nowMs) (hroom : p.maxExpiresAtMs.all (p.expiresAtMs < ·)) :
      Decided token nowMs (.issue id p)
  | retried {id p g sealed successor} (hp : c.devices.get? id = some p)
      (hgrace : c.inGrace id (sha256 Sealed token) nowMs) (husable : p.usableAt nowMs)
      (hg : c.grace.get? id = some g) (hsealed : g.sealedSuccessor = some sealed)
      (hopens : unsealSuccessor Digest token id sealed = some successor)
      (hcurrent : sha256 Sealed successor = p.tokenSha256) :
      Decided token nowMs (.answered ⟨id, successor, capExpiry p.expiresAtMs p.maxExpiresAtMs,
        false⟩)

theorem rotationOutcome_decided {token : String} {nowMs : ℤ} {outcome : RotationOutcome Digest}
    (h : c.rotationOutcome token nowMs = some outcome) : c.Decided token nowMs outcome := by
  obtain ⟨⟨id, p⟩, hrow, h⟩ := bind_eq_some_iff.mp h
  have hfound := find?_some hrow
  have hp := get?_eq_some.mpr (mem_of_find?_eq_some hrow)
  simp only [Bool.and_eq_true, Bool.or_eq_true, decide_eq_true_eq] at hfound
  obtain ⟨⟨hbearer, hcreated⟩, husable⟩ := hfound
  dsimp only at h
  split at h
  · rename_i htoken
    split_ifs at h with hroom
    · cases h
      exact .atMaximum hp htoken husable
    · cases h
      refine .issue hp htoken husable hcreated ?_
      cases hmax : p.maxExpiresAtMs with
      | none => rfl
      | some maximum =>
        rw [hmax] at hroom
        simpa using hroom
  · rename_i hother
    obtain ⟨sealed, hsealed, h⟩ := bind_eq_some_iff.mp h
    obtain ⟨successor, hopens, h⟩ := bind_eq_some_iff.mp h
    obtain ⟨g, hg, hsealed⟩ := bind_eq_some_iff.mp hsealed
    split at h
    · rename_i hvalid
      simp only [Bool.and_eq_true, decide_eq_true_eq] at hvalid
      cases h
      exact .retried hp (hbearer.resolve_left hother) husable hg hsealed hopens hvalid.2
    · cases h

end Catalogue

def Client.Checked (client : Client Digest) : Prop :=
  client.stage = .claiming → ∀ pairingId secret deviceName claimedAtMs maxLifetimeMs,
    client.request = .claimPairing pairingId secret deviceName claimedAtMs maxLifetimeMs →
      0 ≤ claimedAtMs.val ∧ 0 < maxLifetimeMs.val

inductive Accessed [DecidableEq Digest] [BearerCrypto Digest Sealed] (c : Catalogue Digest Sealed)
    (fresh : Fresh) : Request → Turn Digest Sealed → Prop
  | refused (request : Request) : Accessed c fresh request (refuses c)
  | onward {request stage} (hchecked : Client.Checked ⟨request, stage⟩) :
      Accessed c fresh request (goesOn c request stage)
  | turnedAway (request : Request) {answer}
      (h : answer = .rejected ∨ answer = .failed ∨ answer = .authenticated none) :
      Accessed c fresh request (answers c request answer)
  | current {token} {nowMs : I64} {p} {record : PairedDeviceRecord}
      (hp : c.devices.get? record.deviceId = some p) (htoken : p.tokenSha256 = sha256 Sealed token)
      (husable : p.usableAt nowMs) : Accessed c fresh (.authenticateDevice token nowMs)
        (answers c (.authenticateDevice token nowMs) (.authenticated (some record)))
  | graced {token} {nowMs : I64} {p} {record : PairedDeviceRecord}
      (hp : c.devices.get? record.deviceId = some p)
      (hgrace : c.inGrace record.deviceId (sha256 Sealed token) nowMs)
      (husable : p.usableAt nowMs) : Accessed c fresh (.authenticateDevice token nowMs)
        (answers c (.authenticateDevice token nowMs) (.authenticated (some record)))
  | refreshed {token} {nowMs : I64} {p} {record : PairedDeviceRecord} (nextExpiry : ℤ)
      (hp : c.devices.get? record.deviceId = some p)
      (htoken : p.tokenSha256 = sha256 Sealed token) (husable : p.usableAt nowMs) :
      Accessed c fresh (.authenticateDevice token nowMs)
        (commits (c.refreshed record.deviceId nextExpiry nowMs)
        (.authenticateDevice token nowMs) (.authenticated (some record)))
  | rotated {token} {nowMs : I64} {access}
      (hdecided : c.Decided token nowMs (.answered access)) :
        Accessed c fresh (.rotateDevice token nowMs)
        (answers c (.rotateDevice token nowMs) (.rotated access))
  | issued {token} {nowMs : I64} {id p}
      (hdecided : c.Decided token nowMs (.issue id p)) :
        Accessed c fresh (.rotateDevice token nowMs)
        (commits (c.issued token nowMs id p fresh.token fresh.nonce).1 (.rotateDevice token nowMs)
          (.rotated (c.issued token nowMs id p fresh.token fresh.nonce).2))
  | claimed {pairingId secret deviceName} {claimedAtMs maxLifetimeMs : I64}
      (hnew : c.devices.get? fresh.deviceId = none)
        (hchallenge : (c.challenges.get? pairingId).isSome)
      (hlife : 0 < maxLifetimeMs.val) :
      Accessed c fresh (.claimPairing pairingId secret deviceName claimedAtMs maxLifetimeMs)
        (commits (c.claimed pairingId deviceName claimedAtMs maxLifetimeMs
          fresh.deviceId fresh.token).1
          (.claimPairing pairingId secret deviceName claimedAtMs maxLifetimeMs)
          (.claimed (c.claimed pairingId deviceName claimedAtMs maxLifetimeMs
            fresh.deviceId fresh.token).2))
  | revoked {deviceId} {revokedAtMs : I64} {p}
      (hp : c.devices.get? deviceId = some p) :
        Accessed c fresh (.revokeDevice deviceId revokedAtMs)
        (commits (c.revoked deviceId revokedAtMs) (.revokeDevice deviceId revokedAtMs) .revoked)
  | repaired (nowMs : I64) : Accessed c fresh (.repair nowMs)
        (commits (c.repaired nowMs) (.repair nowMs) .repaired)

variable {p : PairedDevice Digest} {token : String} {d : DeviceId} {log : List Access}
  {fresh : Fresh} {a : Access}

section Accesses

variable [DecidableEq Digest] [BearerCrypto Digest Sealed] (c : Catalogue Digest Sealed)
  (fresh : Fresh)

theorem authenticatedBy_accessed {nowMs : I64} {id : DeviceId}
    (h : c.readCurrentBearerDevice (sha256 Sealed token) nowMs = some (id, p)) :
    Accessed c fresh (.authenticateDevice token nowMs)
      (authenticatedBy c (.authenticateDevice token nowMs) id p nowMs) := by
  obtain ⟨hp, htoken, husable⟩ := c.of_readCurrentBearerDevice h
  unfold authenticatedBy
  split
  · exact .turnedAway _ (.inr (.inr rfl))
  · exact .current hp htoken husable

variable (stage : Stage Digest)

theorem authenticateTurn_accessed (token : String) (nowMs : I64) :
    Accessed c fresh (.authenticateDevice token nowMs) (authenticateTurn c stage token nowMs) := by
  have hgrace : Accessed c fresh (.authenticateDevice token nowMs)
      (answers c (.authenticateDevice token nowMs)
      (.authenticated ((c.readGraceBearerDevice (sha256 Sealed token) nowMs).map fun e =>
        e.2.record e.1))) := by
    cases hread : c.readGraceBearerDevice (sha256 Sealed token) nowMs with
    | none => exact .turnedAway _ (.inr (.inr rfl))
    | some e =>
      obtain ⟨hp, hgrace, husable⟩ := c.of_readGraceBearerDevice hread
      exact .graced hp hgrace husable
  have hfirst : Accessed c fresh (.authenticateDevice token nowMs)
      (authenticateTurn c .reading token nowMs) := by
    unfold authenticateTurn
    dsimp only
    split
    · exact .refused _
    split
    · rename_i id p hread
      split
      · exact authenticatedBy_accessed c fresh hread
      · exact .onward nofun
    · exact .onward nofun
  cases stage with
  | refreshing id seen =>
    unfold authenticateTurn
    dsimp only
    split_ifs with hchanged
    · obtain ⟨p, hp, hrow⟩ := (any_eq_true _ _).mp hchanged
      simp only [Bool.and_eq_true, decide_eq_true_eq] at hrow
      let record : PairedDeviceRecord := { seen.record id with
        expiresAtMs := seen.nextExpiry nowMs
        lastAuthenticatedAtMs := some (seen.nextAuthenticated nowMs) }
      have hrecord : c.devices.get? record.deviceId = some p := hp
      exact .refreshed (seen.nextExpiry nowMs) hrecord hrow.1.1 hrow.1.2
    · exact .onward nofun
  | rereading =>
    unfold authenticateTurn
    dsimp only
    split
    · rename_i id p hread
      exact authenticatedBy_accessed c fresh hread
    · exact .onward nofun
  | inGraceRow => exact hgrace
  | reading => exact hfirst
  | claiming => exact hfirst
  | issuing => exact hfirst

theorem rotateTurn_accessed (token : String) (nowMs : I64) :
    Accessed c fresh (.rotateDevice token nowMs) (rotateTurn c stage token nowMs fresh) := by
  have hfirst : Accessed c fresh (.rotateDevice token nowMs)
      (rotateTurn c .reading token nowMs fresh) := by
    unfold rotateTurn
    dsimp only
    split
    · exact .refused _
    split
    · exact .turnedAway _ (.inl rfl)
    · rename_i access hread
      exact .rotated (c.rotationOutcome_decided hread)
    · exact .onward nofun
  cases stage with
  | issuing =>
    unfold rotateTurn
    dsimp only
    split
    · exact .turnedAway _ (.inl rfl)
    · rename_i access hread
      exact .rotated (c.rotationOutcome_decided hread)
    · rename_i id target hread
      split
      · exact .turnedAway _ (.inr (.inl rfl))
      · exact .issued (c.rotationOutcome_decided hread)
  | reading => exact hfirst
  | claiming => exact hfirst
  | refreshing => exact hfirst
  | rereading => exact hfirst
  | inGraceRow => exact hfirst

theorem claimTurn_accessed {pairingId : PairingId} {secret deviceName : String}
    {claimedAtMs maxLifetimeMs : I64}
    (hchecked : Client.Checked
    ⟨.claimPairing pairingId secret deviceName claimedAtMs maxLifetimeMs, stage⟩) :
    Accessed c fresh (.claimPairing pairingId secret deviceName claimedAtMs maxLifetimeMs)
      (claimTurn c stage pairingId secret deviceName claimedAtMs maxLifetimeMs fresh) := by
  have hfirst : Accessed c fresh (.claimPairing pairingId secret deviceName
      claimedAtMs maxLifetimeMs)
      (claimTurn c .reading pairingId secret deviceName claimedAtMs maxLifetimeMs fresh) := by
    unfold claimTurn
    dsimp only
    split
    · exact .refused _
    rename_i hvalid
    simp only [Bool.or_eq_true, Bool.not_eq_true', decide_eq_true_eq, not_or, not_lt,
      not_le] at hvalid
    split
    · exact .turnedAway _ (.inl rfl)
    · refine .onward ?_
      intro _ _ _ _ _ _ heq
      cases heq
      exact ⟨hvalid.1.1.2, hvalid.1.2⟩
  cases stage with
  | claiming =>
    obtain ⟨_, hlife⟩ := hchecked rfl _ _ _ _ _ rfl
    unfold claimTurn
    dsimp only
    split
    · exact .turnedAway _ (.inl rfl)
    rename_i haccepts
    rw [Bool.not_eq_true', Bool.not_eq_false] at haccepts
    obtain ⟨challenge, hchallenge, _⟩ := (any_eq_true _ _).mp haccepts
    split
    · exact .turnedAway _ (.inr (.inl rfl))
    · rename_i hfree
      simp only [Bool.or_eq_true, not_or, OrderedMap.contains] at hfree
      refine .claimed ?_ (by rw [hchallenge]; rfl) hlife
      simpa using hfree.1.1
  | reading => exact hfirst
  | refreshing => exact hfirst
  | rereading => exact hfirst
  | inGraceRow => exact hfirst
  | issuing => exact hfirst

/-- One access of any request ends in one of the listed ways. -/
theorem turn_accessed (client : Client Digest) (hchecked : client.Checked) :
    Accessed c fresh client.request (turn c client fresh) := by
  obtain ⟨request, stage⟩ := client
  cases request with
  | claimPairing => exact claimTurn_accessed c fresh stage hchecked
  | authenticateDevice token nowMs => exact authenticateTurn_accessed c fresh stage token nowMs
  | rotateDevice token nowMs => exact rotateTurn_accessed c fresh stage token nowMs
  | revokeDevice deviceId revokedAtMs =>
    unfold turn revokeTurn
    dsimp only
    split
    · exact .turnedAway _ (.inl rfl)
    · rename_i p hp
      split
      · exact .turnedAway _ (.inr (.inl rfl))
      · exact .revoked hp
  | repair nowMs => exact .repaired nowMs

theorem Accessed.next_checked {request : Request} {t : Turn Digest Sealed}
    (h : Accessed c fresh request t) {next : Client Digest} (hnext : t.next = some next) :
    next.Checked := by
  cases h with
  | onward hchecked =>
    cases hnext
    exact hchecked
  | _ => cases hnext

end Accesses

theorem bearers_concat (log : List Access) (a : Access) (d : DeviceId) :
    bearers (log++[a]) d = bearers log d++(a.issue?.filter (·.device = d)).toList := by
  unfold bearers
  cases h : a.issue? with
  | none => simp [h]
  | some issue =>
    by_cases hd : issue.device = d
    · simp [h, hd, Option.filter]
    · simp [h, hd, Option.filter]

theorem claimsOf_concat (log : List Access) (a : Access) (d : DeviceId) :
    claimsOf (log++[a]) d = claimsOf log d++(a.claim?.filter (·.device = d)).toList := by
  unfold claimsOf
  cases h : a.claim? with
  | none => simp [h]
  | some claim =>
    by_cases hd : claim.device = d
    · simp [h, hd, Option.filter]
    · simp [h, hd, Option.filter]

def GraceOf [BearerCrypto Digest Sealed] (c : Catalogue Digest Sealed) (d : DeviceId)
    (earlier : List Issue) (last : Issue) : Prop :=
  earlier = [] ∧ c.grace.get? d = none ∨
    ∃ older replaced g, earlier = older++[replaced] ∧ c.grace.get? d = some g ∧
      g.tokenSha256 = sha256 Sealed replaced.token ∧
      g.validUntilMs = saturatingAdd last.atMs pairedDeviceRotationGraceMs ∧
      ∀ sealed, g.sealedSuccessor = some sealed →
        ∃ nonce, sealed = sealSuccessor Digest replaced.token d last.token nonce

structure RowOf [BearerCrypto Digest Sealed] (c : Catalogue Digest Sealed) (log : List Access)
    (d : DeviceId)
    (p : PairedDevice Digest) : Prop where
  claim : ∃ claim, claimsOf log d = [claim] ∧ p.createdAtMs = claim.atMs ∧ i64Min ≤ claim.atMs ∧
    0 < claim.maxLifetimeMs ∧ p.maxExpiresAtMs = some (saturatingAdd claim.atMs claim.maxLifetimeMs)
  expiry : p.maxExpiresAtMs.all (p.expiresAtMs ≤ ·)
  chain : ∃ earlier last, bearers log d = earlier++[last] ∧ p.tokenSha256 = sha256 Sealed
    last.token ∧
    i64Min ≤ last.atMs ∧ GraceOf c d earlier last
  revoked : (∃ a ∈ log, a.revokes? = some d) → p.revokedAtMs ≠ none

structure Consistent [BearerCrypto Digest Sealed] (c : Catalogue Digest Sealed)
    (log : List Access) : Prop where
  lawful : AtEach Lawful log
  known : ∀ d p, c.devices.get? d = some p → RowOf c log d p
  unknown : ∀ d, c.devices.get? d = none → bearers log d = [] ∧ claimsOf log d = [] ∧
    c.grace.get? d = none ∧
    ∀ a ∈ log, a.revokes? ≠ some d
  pairings : ∀ a ∈ log, ∀ claim, a.claim? = some claim → c.challenges.get? claim.pairing = none
  tokens : ((log.filterMap Access.issue?).map (·.token)).Nodup

section Rows

variable {c : Catalogue Digest Sealed} {log : List Access} {d : DeviceId} {p : PairedDevice Digest}
  {nowMs : ℤ}

theorem PairedDevice.usableAt_iff : p.usableAt nowMs ↔
    p.revokedAtMs = none ∧ nowMs < p.expiresAtMs ∧ p.maxExpiresAtMs.all (nowMs < ·) := by
  unfold usableAt
  rw [Bool.and_eq_true, Bool.and_eq_true, decide_eq_true_eq, decide_eq_true_eq, and_assoc]

variable [BearerCrypto Digest Sealed]

theorem RowOf.within_lifetime (h : RowOf c log d p) (husable : p.usableAt nowMs) :
    ∀ claim ∈ claimsOf log d, nowMs < claim.atMs+claim.maxLifetimeMs := by
  obtain ⟨claim, hclaims, _, hrange, hlife, hmax⟩ := h.claim
  have hall := (PairedDevice.usableAt_iff.mp husable).2.2
  rw [hmax, all_some, decide_eq_true_eq, saturatingAdd_eq_min hrange hlife.le] at hall
  intro claim' hin
  rw [hclaims, mem_singleton] at hin
  rw [hin]
  exact lt_of_lt_of_le hall (min_le_left _ _)

theorem RowOf.not_revoked (h : RowOf c log d p) (husable : p.usableAt nowMs) :
    ∀ a ∈ log, a.revokes? ≠ some d :=
  fun a ha hrevokes => h.revoked ⟨a, ha, hrevokes⟩ (PairedDevice.usableAt_iff.mp husable).1

theorem RowOf.ofUse_current (h : RowOf c log d p)
    (htoken : p.tokenSha256 = sha256 Sealed token) (husable : p.usableAt nowMs) :
    OfUse log ⟨d, token, nowMs⟩ := by
  obtain ⟨earlier, last, hbearers, hlast, _⟩ := h.chain
  have heq : last.token = token := sha256_injective (hlast.symm.trans htoken)
  refine ⟨earlier.length, ?_, h.not_revoked husable, ?_, ?_, h.within_lifetime husable⟩
  · rw [hbearers, getElem?_concat_length, map_some, heq]
  · rw [hbearers, length_append]
    simp
  · intro next hnext
    rw [hbearers, getElem?_eq_none (by simp)] at hnext
    cases hnext

theorem RowOf.ofUse_grace [DecidableEq Digest] (h : RowOf c log d p)
    (hgrace : c.inGrace d (sha256 Sealed token) nowMs) (husable : p.usableAt nowMs) :
    OfUse log ⟨d, token, nowMs⟩ := by
  obtain ⟨earlier, last, hbearers, _, hrange, hnone | ⟨older, replaced, g, rfl, hg, hreplaced,
      huntil, _⟩⟩ := h.chain
  · unfold inGrace at hgrace
    rw [hnone.2] at hgrace
    cases hgrace
  unfold inGrace at hgrace
  rw [hg, any_some, Bool.and_eq_true, decide_eq_true_eq, decide_eq_true_eq] at hgrace
  have heq : replaced.token = token := sha256_injective (hreplaced.symm.trans hgrace.1)
  have hlast : (bearers log d)[older.length+1]? = some last := by
    rw [hbearers, append_assoc, getElem?_append_right (by omega)]
    simp
  refine ⟨older.length, ?_, h.not_revoked husable, ?_, ?_, h.within_lifetime husable⟩
  · rw [hbearers, append_assoc, getElem?_append_right (le_refl _)]
    simp [heq]
  · rw [hbearers]
    simp
  · intro next hnext
    rw [hlast] at hnext
    cases hnext
    have hbefore := hgrace.2
    rw [huntil, saturatingAdd_eq_min hrange (by decide)] at hbefore
    exact lt_of_lt_of_le hbefore (min_le_left _ _)

end Rows

structure Softened (c c' : Catalogue Digest Sealed) : Prop where
  challenges : c'.challenges = c.challenges
  devices : ∀ d p', c'.devices.get? d = some p' → ∃ p, c.devices.get? d = some p ∧
    p'.tokenSha256 = p.tokenSha256 ∧
    p'.createdAtMs = p.createdAtMs ∧ p'.maxExpiresAtMs = p.maxExpiresAtMs ∧
    (p.maxExpiresAtMs.all (p.expiresAtMs ≤ ·) → p'.maxExpiresAtMs.all (p'.expiresAtMs ≤ ·)) ∧
    (p.revokedAtMs ≠ none → p'.revokedAtMs ≠ none)
  unknown : ∀ d, c'.devices.get? d = none → c.devices.get? d = none
  grace : ∀ d, c.grace.get? d = none ∧ c'.grace.get? d = none ∨ ∃ g g', c.grace.get? d = some g ∧
    c'.grace.get? d = some g' ∧ g'.tokenSha256 = g.tokenSha256 ∧ g'.validUntilMs = g.validUntilMs ∧
    ∀ sealed, g'.sealedSuccessor = some sealed → g.sealedSuccessor = some sealed

section Soft

variable {c c' : Catalogue Digest Sealed} {log : List Access} {a : Access}

theorem Softened.refl (c : Catalogue Digest Sealed) : Softened c c where
  challenges := rfl
  devices := fun _ p hp => ⟨p, hp, rfl, rfl, rfl, id, id⟩
  unknown := fun _ h => h
  grace := fun d => by
    cases hg : c.grace.get? d with
    | none => exact .inl ⟨rfl, rfl⟩
    | some g => exact .inr ⟨g, g, rfl, rfl, rfl, rfl, fun _ => id⟩

theorem softened_grace {f : DeviceId → TokenGrace Digest Sealed → TokenGrace Digest Sealed}
    (hf : ∀ d g, (f d g).tokenSha256 = g.tokenSha256 ∧ (f d g).validUntilMs = g.validUntilMs ∧
      ∀ sealed, (f d g).sealedSuccessor = some sealed → g.sealedSuccessor = some sealed)
    (d : DeviceId) (hmap : c'.grace.get? d = (c.grace.get? d).map (f d)) :
    c.grace.get? d = none ∧ c'.grace.get? d = none ∨ ∃ g g', c.grace.get? d = some g ∧
    c'.grace.get? d = some g' ∧ g'.tokenSha256 = g.tokenSha256 ∧ g'.validUntilMs = g.validUntilMs ∧
    ∀ sealed, g'.sealedSuccessor = some sealed → g.sealedSuccessor = some sealed := by
  cases hg : c.grace.get? d with
  | none => exact .inl ⟨rfl, by rw [hmap, hg]; rfl⟩
  | some g => exact .inr ⟨g, f d g, rfl, by rw [hmap, hg]; rfl, hf d g⟩

theorem endedUnsealed_keeps (nowMs : ℤ) (g : TokenGrace Digest Sealed) :
    (endedUnsealed nowMs g).tokenSha256 = g.tokenSha256 ∧ (endedUnsealed nowMs g).validUntilMs =
    g.validUntilMs ∧ ∀ sealed, (endedUnsealed nowMs g).sealedSuccessor = some sealed →
    g.sealedSuccessor = some sealed := by
  unfold endedUnsealed
  split
  · exact ⟨rfl, rfl, fun _ h => (nomatch h)⟩
  · exact ⟨rfl, rfl, fun _ => id⟩

theorem PairedDevice.slid_le (p : PairedDevice Digest) (nextExpiry : ℤ) :
    p.maxExpiresAtMs.all (p.slid nextExpiry ≤ ·) := by
  unfold slid
  cases p.maxExpiresAtMs with
  | none => rfl
  | some maximum => simp

theorem softened_refreshed (c : Catalogue Digest Sealed) (id : DeviceId) (nextExpiry nowMs : ℤ) :
    Softened c (c.refreshed id nextExpiry nowMs) where
  challenges := rfl
  devices := fun d p' hp' => by
    change (c.devices.modify id _).get? d = some p' at hp'
    rw [OrderedMap.get?_modify] at hp'
    split at hp'
    · obtain ⟨p, hp, rfl⟩ := map_eq_some_iff.mp hp'
      exact ⟨p, hp, rfl, rfl, rfl, fun _ => p.slid_le nextExpiry, fun h => h⟩
    · exact ⟨p', hp', rfl, rfl, rfl, fun h => h, fun h => h⟩
  unknown := fun d h => by
    change (c.devices.modify id _).get? d = none at h
    rw [OrderedMap.get?_modify] at h
    split at h
    · exact map_eq_none_iff.mp h
    · exact h
  grace := fun d => by
    refine softened_grace (f := fun d g => if d = id then endedUnsealed nowMs g else g) ?_ d ?_
    · intro d g
      split
      · exact endedUnsealed_keeps nowMs g
      · exact ⟨rfl, rfl, fun _ => fun h => h⟩
    · change (c.grace.modify id _).get? d = _
      rw [OrderedMap.get?_modify]
      split
      · rfl
      · rw [Option.map_id']

theorem softened_revoked (c : Catalogue Digest Sealed) (id : DeviceId) (revokedAtMs : ℤ) :
    Softened c (c.revoked id revokedAtMs) where
  challenges := rfl
  devices := fun d p' hp' => by
    change (c.devices.modify id _).get? d = some p' at hp'
    rw [OrderedMap.get?_modify] at hp'
    split at hp'
    · obtain ⟨p, hp, rfl⟩ := map_eq_some_iff.mp hp'
      exact ⟨p, hp, rfl, rfl, rfl, fun h => h, fun _ => nofun⟩
    · exact ⟨p', hp', rfl, rfl, rfl, fun h => h, fun h => h⟩
  unknown := fun d h => by
    change (c.devices.modify id _).get? d = none at h
    rw [OrderedMap.get?_modify] at h
    split at h
    · exact map_eq_none_iff.mp h
    · exact h
  grace := fun d => by
    refine softened_grace (f := fun d g => if d = id then unsealed g else g) ?_ d ?_
    · intro d g
      split
      · exact ⟨rfl, rfl, fun _ h => (nomatch h)⟩
      · exact ⟨rfl, rfl, fun _ => fun h => h⟩
    · change (c.grace.modify id _).get? d = _
      rw [OrderedMap.get?_modify]
      split
      · rfl
      · rw [Option.map_id']

theorem softened_repaired (c : Catalogue Digest Sealed) (nowMs : ℤ) :
    Softened c (c.repaired nowMs) where
  challenges := rfl
  devices := fun _ p hp => ⟨p, hp, rfl, rfl, rfl, fun h => h, fun h => h⟩
  unknown := fun _ h => h
  grace := fun d => softened_grace (f := fun _ => endedUnsealed nowMs)
    (fun _ => endedUnsealed_keeps nowMs) d OrderedMap.get?_map

variable [BearerCrypto Digest Sealed]

theorem GraceOf.soften (hs : Softened c c') {earlier : List Issue} {last : Issue}
    (h : GraceOf c d earlier last) : GraceOf c' d earlier last := by
  rcases h with ⟨hfirst, hnone⟩ | ⟨older, replaced, g, hearlier, hg, htoken, huntil, hsealed⟩
  · rcases hs.grace d with ⟨_, hnone'⟩ | ⟨g, _, hg, _⟩
    · exact .inl ⟨hfirst, hnone'⟩
    · rw [hnone] at hg
      cases hg
  · rcases hs.grace d with ⟨hnone, _⟩ | ⟨g₀, g', hg₀, hg', htoken', huntil', hsealed'⟩
    · rw [hnone] at hg
      cases hg
    · rw [hg] at hg₀
      cases hg₀
      exact .inr ⟨older, replaced, g', hearlier, hg', htoken'.trans htoken, huntil'.trans huntil,
        fun sealed h => hsealed sealed (hsealed' sealed h)⟩

theorem Consistent.soften (h : Consistent c log) (hs : Softened c c') (hissue : a.issue? = none)
    (hclaim : a.claim? = none)
    (hrevokes : ∀ d, a.revokes? = some d → (∃ p, c.devices.get? d = some p) ∧
    ∀ p', c'.devices.get? d = some p' → p'.revokedAtMs ≠ none) (hlaw : Lawful log a) :
    Consistent c' (log++[a]) := by
  have hbearers (d : DeviceId) : bearers (log++[a]) d = bearers log d := by
    rw [bearers_concat, hissue]
    exact append_nil _
  have hclaims (d : DeviceId) : claimsOf (log++[a]) d = claimsOf log d := by
    rw [claimsOf_concat, hclaim]
    exact append_nil _
  refine ⟨atEach_concat.mpr ⟨h.lawful, hlaw⟩, ?_, ?_, ?_, ?_⟩
  · intro d p' hp'
    obtain ⟨p, hp, htoken, hcreated, hmax, hexpiry, hrevoked⟩ := hs.devices d p' hp'
    have hrow := h.known d p hp
    obtain ⟨earlier, last, hchain, hlast, hrange, hgrace⟩ := hrow.chain
    refine ⟨?_, hexpiry hrow.expiry,
      ⟨earlier, last, by rw [hbearers, hchain], htoken.trans hlast, hrange, hgrace.soften hs⟩, ?_⟩
    · rw [hclaims, hcreated, hmax]
      exact hrow.claim
    · rintro ⟨x, hx, hxd⟩
      rcases mem_concat.mp hx with hx | rfl
      · exact hrevoked (hrow.revoked ⟨x, hx, hxd⟩)
      · exact (hrevokes d hxd).2 p' hp'
  · intro d hd
    obtain ⟨hnone, hnoClaim, hnoGrace, hnoRevoke⟩ := h.unknown d (hs.unknown d hd)
    refine ⟨by rw [hbearers, hnone], by rw [hclaims, hnoClaim], ?_, ?_⟩
    · rcases hs.grace d with ⟨_, hg⟩ | ⟨g, _, hg, _⟩
      · exact hg
      · rw [hnoGrace] at hg
        cases hg
    · intro x hx hxd
      rcases mem_concat.mp hx with hx | rfl
      · exact hnoRevoke x hx hxd
      · obtain ⟨p, hp⟩ := (hrevokes d hxd).1
        rw [hs.unknown d hd] at hp
        cases hp
  · intro x hx claim hxclaim
    rw [hs.challenges]
    rcases mem_concat.mp hx with hx | rfl
    · exact h.pairings x hx claim hxclaim
    · rw [hclaim] at hxclaim
      cases hxclaim
  · rw [filterMap_append, filterMap_cons_none hissue]
    simpa using h.tokens

end Soft

def freshIn (log : List Access) (fresh : Fresh) : Bool :=
  validWireSecret fresh.token && log.all fun a => a.issue?.all (·.token ≠ fresh.token)

theorem freshIn_ne (h : freshIn log fresh) (ha : a ∈ log)
    {issue : Issue} (hissue : a.issue? = some issue) : issue.token ≠ fresh.token := by
  have hall := all_eq_true.mp (Bool.and_eq_true_iff.mp h).2 a ha
  rw [hissue] at hall
  simpa using hall

theorem tokens_concat (h : ((log.filterMap issue?).map (·.token)).Nodup)
    (hfresh : freshIn log fresh) {device : DeviceId} {atMs : ℤ}
    (ha : a.issue? = some ⟨device, fresh.token, atMs⟩) :
    (((log++[a]).filterMap issue?).map (·.token)).Nodup := by
  rw [filterMap_append, filterMap_cons_some ha, filterMap_nil, map_append, nodup_append]
  refine ⟨h, nodup_cons.mpr ⟨not_mem_nil, nodup_nil⟩, ?_⟩
  intro token htoken token' htoken'
  obtain ⟨issue, hissue, rfl⟩ := mem_map.mp htoken
  obtain ⟨x, hx, hxissue⟩ := mem_filterMap.mp hissue
  rw [map_cons, map_nil, mem_singleton] at htoken'
  rw [htoken']
  exact freshIn_ne hfresh hx hxissue

section Issuing

variable [BearerCrypto Digest Sealed] {c : Catalogue Digest Sealed} {log : List Access}
  {fresh : Fresh}

theorem capExpiry_le (expiresAtMs : ℤ) (maximum : Option ℤ) :
    maximum.all (capExpiry expiresAtMs maximum ≤ ·) := by
  cases maximum with
  | none => rfl
  | some maximum => simp [capExpiry]

theorem RowOf.other {c' : Catalogue Digest Sealed} (h : RowOf c log d p)
    (hissue : ∀ issue, a.issue? = some issue → issue.device ≠ d)
    (hclaim : ∀ claim, a.claim? = some claim → claim.device ≠ d) (hrevokes : a.revokes? ≠ some d)
    (hgrace : c'.grace.get? d = c.grace.get? d) : RowOf c' (log++[a]) d p := by
  have hbearers : bearers (log++[a]) d = bearers log d := by
    rw [bearers_concat]
    cases hi : a.issue? with
    | none => exact append_nil _
    | some issue => simp [Option.filter, hissue issue hi]
  have hclaims : claimsOf (log++[a]) d = claimsOf log d := by
    rw [claimsOf_concat]
    cases hi : a.claim? with
    | none => exact append_nil _
    | some claim => simp [Option.filter, hclaim claim hi]
  refine ⟨by rw [hclaims]; exact h.claim, h.expiry, ?_, ?_⟩
  · rw [hbearers]
    unfold GraceOf
    rw [hgrace]
    exact h.chain
  · rintro ⟨x, hx, hxd⟩
    rcases mem_concat.mp hx with hx | rfl
    · exact h.revoked ⟨x, hx, hxd⟩
    · exact absurd hxd hrevokes

theorem Consistent.issued [DecidableEq Digest] (h : Consistent c log) (hfresh : freshIn log fresh)
    {nowMs : I64} {id : DeviceId} (hdecided : c.Decided token nowMs (.issue id p)) :
    Consistent (c.issued token nowMs id p fresh.token fresh.nonce).1
    (log++[⟨.rotateDevice token nowMs,
    some (.rotated (c.issued token nowMs id p fresh.token fresh.nonce).2), true⟩]) := by
  cases hdecided with
  | issue hp htoken husable hcreated hroom =>
  have hrow := h.known id p hp
  obtain ⟨earlier, last, hbearers, hlast, hrange, hgrace⟩ := hrow.chain
  have heq : last.token = token := sha256_injective (hlast.symm.trans htoken)
  set a : Access := ⟨.rotateDevice token nowMs,
    some (.rotated (c.issued token nowMs id p fresh.token fresh.nonce).2), true⟩ with ha
  have hissue : a.issue? = some ⟨id, fresh.token, nowMs⟩ := rfl
  have hchain : bearers (log++[a]) id = (earlier++[last])++[⟨id, fresh.token, nowMs⟩] := by
    rw [bearers_concat, hbearers, hissue]
    simp [Option.filter]
  have hother (d : DeviceId) (hd : d ≠ id) (issue : Issue) (hi : a.issue? = some issue) :
      issue.device ≠ d := by
    cases hi
    exact Ne.symm hd
  refine ⟨atEach_concat.mpr ⟨h.lawful, ?_⟩, ?_, ?_, ?_, tokens_concat h.tokens hfresh hissue⟩
  · refine ⟨nofun, ?_, ?_, ?_⟩
    · intro token' nowMs' access hax
      rw [ha] at hax
      cases hax
      exact ⟨earlier, last, hbearers, heq⟩
    · intro token' nowMs' access committed hax
      rw [ha] at hax
      cases hax
      refine .inr ⟨rfl, earlier.length, ?_, ?_⟩
      · change ((bearers (log++[a]) id)[earlier.length]?).map _ = _
        rw [hchain, append_assoc, getElem?_append_right (le_refl _)]
        simp [heq]
      · change ((bearers (log++[a]) id)[earlier.length+1]?).map _ = _
        rw [hchain, append_assoc, getElem?_append_right (by omega)]
        simp [Catalogue.issued]
    · intro x hx
      cases hx
      exact hrow.ofUse_current htoken husable
  · intro d p' hp'
    change (c.devices.modify id _).get? d = some p' at hp'
    rw [get?_modify] at hp'
    by_cases hd : d = id
    · subst hd
      rw [if_pos rfl, hp, map_some, some.injEq] at hp'
      subst hp'
      have hclaims : claimsOf (log++[a]) d = claimsOf log d := by
        rw [claimsOf_concat]
        exact append_nil _
      refine ⟨hclaims ▸ hrow.claim, capExpiry_le _ _, ⟨earlier++[last], _, hchain, rfl, nowMs.2.1,
        .inr ?_⟩, ?_⟩
      · refine ⟨earlier, last, _, rfl, get?_insert.trans (if_pos rfl), ?_, rfl, ?_⟩
        · rw [heq]
        · intro sealed hsealed
          cases hsealed
          exact ⟨fresh.nonce, by rw [heq]⟩
      · rintro ⟨x, hx, hxd⟩
        rcases mem_concat.mp hx with hx | rfl
        · exact hrow.revoked ⟨x, hx, hxd⟩
        · cases hxd
    · rw [if_neg hd] at hp'
      refine (h.known d p' hp').other (hother d hd) nofun nofun ?_
      exact get?_insert.trans (if_neg hd)
  · intro d hnone
    change (c.devices.modify id _).get? d = none at hnone
    have hd : d ≠ id := by
      rintro rfl
      rw [get?_modify, if_pos rfl, hp] at hnone
      cases hnone
    rw [get?_modify, if_neg hd] at hnone
    obtain ⟨hnobearers, hnoclaims, hnograce, hnorevoke⟩ := h.unknown d hnone
    refine ⟨?_, ?_, (get?_insert.trans (if_neg hd)).trans hnograce, ?_⟩
    · rw [bearers_concat, hnobearers, hissue]
      simp [Option.filter, Ne.symm hd]
    · rw [claimsOf_concat, hnoclaims]
      rfl
    · intro x hx hxd
      rcases mem_concat.mp hx with hx | rfl
      · exact hnorevoke x hx hxd
      · cases hxd
  · intro x hx claim hclaim
    rcases mem_concat.mp hx with hx | rfl
    · exact h.pairings x hx claim hclaim
    · cases hclaim

theorem Consistent.claimed (h : Consistent c log) (hfresh : freshIn log fresh)
    {pairingId : PairingId} {secret deviceName : String} {claimedAtMs maxLifetimeMs : I64}
    (hnew : c.devices.get? fresh.deviceId = none)
    (hchallenge : (c.challenges.get? pairingId).isSome) (hlife : 0 < maxLifetimeMs.val) :
    Consistent (c.claimed pairingId deviceName claimedAtMs maxLifetimeMs
    fresh.deviceId fresh.token).1
    (log++[⟨.claimPairing pairingId secret deviceName claimedAtMs maxLifetimeMs,
    some (.claimed (c.claimed pairingId deviceName claimedAtMs maxLifetimeMs
    fresh.deviceId fresh.token).2), true⟩]) := by
  obtain ⟨hnobearers, hnoclaims, hnograce, hnorevoke⟩ := h.unknown _ hnew
  set a : Access := ⟨.claimPairing pairingId secret deviceName claimedAtMs maxLifetimeMs,
    some (.claimed (c.claimed pairingId deviceName claimedAtMs maxLifetimeMs
      fresh.deviceId fresh.token).2),
    true⟩ with ha
  have hissue : a.issue? = some ⟨fresh.deviceId, fresh.token, claimedAtMs⟩ := rfl
  have hclaim : a.claim? = some ⟨pairingId, fresh.deviceId, claimedAtMs, maxLifetimeMs⟩ := rfl
  have hchain : bearers (log++[a]) fresh.deviceId =
      []++[⟨fresh.deviceId, fresh.token, claimedAtMs⟩] := by
    rw [bearers_concat, hnobearers, hissue]
    simp [Option.filter]
  have hclaims : claimsOf (log++[a]) fresh.deviceId = [⟨pairingId, fresh.deviceId, claimedAtMs,
      maxLifetimeMs⟩] := by
    rw [claimsOf_concat, hnoclaims, hclaim]
    simp [Option.filter]
  refine ⟨atEach_concat.mpr ⟨h.lawful, ?_⟩, ?_, ?_, ?_, tokens_concat h.tokens hfresh hissue⟩
  · refine ⟨?_, fun _ _ _ hx => Request.noConfusion (congrArg request hx),
      fun _ _ _ _ hx => Request.noConfusion (congrArg request hx), nofun⟩
    intro claim hx
    cases hx
    refine ⟨?_, hnobearers, hnoclaims⟩
    -- a challenge that made a device is gone
    rintro x hx claim' hx' rfl
    rw [h.pairings x hx claim' hx'] at hchallenge
    cases hchallenge
  · intro d p hp
    change (c.devices.insert fresh.deviceId _).get? d = some p at hp
    rw [get?_insert] at hp
    by_cases hd : d = fresh.deviceId
    · subst hd
      rw [if_pos rfl, some.injEq] at hp
      subst hp
      refine ⟨⟨_, hclaims, rfl, claimedAtMs.2.1, hlife, rfl⟩, ?_,
        ⟨[], _, hchain, rfl, claimedAtMs.2.1, Or.inl ⟨rfl, hnograce⟩⟩, ?_⟩
      · rw [all_some, decide_eq_true_eq]
        exact min_le_right _ _
      · rintro ⟨x, hx, hxd⟩
        rcases mem_concat.mp hx with hx | rfl
        · exact absurd hxd (hnorevoke x hx)
        · cases hxd
    · rw [if_neg hd] at hp
      refine (h.known d p hp).other ?_ ?_ nofun rfl
      · intro issue hi
        cases hi
        exact Ne.symm hd
      · intro claim hi
        cases hi
        exact Ne.symm hd
  · intro d hnone
    change (c.devices.insert fresh.deviceId _).get? d = none at hnone
    rw [get?_insert] at hnone
    have hd : d ≠ fresh.deviceId := by
      rintro rfl
      rw [if_pos rfl] at hnone
      cases hnone
    rw [if_neg hd] at hnone
    obtain ⟨hnobearers', hnoclaims', hnograce', hnorevoke'⟩ := h.unknown d hnone
    refine ⟨?_, ?_, hnograce', ?_⟩
    · rw [bearers_concat, hnobearers', hissue]
      simp [Option.filter, Ne.symm hd]
    · rw [claimsOf_concat, hnoclaims', hclaim]
      simp [Option.filter, Ne.symm hd]
    · intro x hx hxd
      rcases mem_concat.mp hx with hx | rfl
      · exact hnorevoke' x hx hxd
      · cases hxd
  · intro x hx claim hxclaim
    change (c.challenges.erase pairingId).get? claim.pairing = none
    rw [get?_erase]
    split
    · rfl
    rcases mem_concat.mp hx with hx | rfl
    · exact h.pairings x hx claim hxclaim
    · rw [hclaim] at hxclaim
      cases hxclaim
      rename_i hne
      exact absurd rfl hne

end Issuing

theorem Access.of_read (request : Request) (answer : Option Answer) :
    (⟨request, answer, false⟩ : Access).issue? = none ∧ (⟨request, answer, false⟩ : Access).claim? =
    none ∧ (⟨request, answer, false⟩ : Access).revokes? = none := by
  refine ⟨?_, ?_, ?_⟩
  · unfold issue?
    split <;> simp_all
  · unfold claim?
    split <;> simp_all
  · unfold revokes?
    split <;> simp_all

theorem Lawful.of_plain (hclaim : a.claim? = none) (haccepts : a.acceptance? = none) :
    Lawful log a := by
  refine ⟨fun claim h => ?_, fun token nowMs access h => ?_, fun token nowMs access committed h =>
    ?_, fun x h => ?_⟩
  · rw [hclaim] at h
    cases h
  · rw [h] at haccepts
    cases haccepts
  · rw [h] at haccepts
    cases haccepts
  · rw [haccepts] at h
    cases h

section Turns

variable [BearerCrypto Digest Sealed] {c : Catalogue Digest Sealed} {log : List Access}

theorem Consistent.read (h : Consistent c log) {request : Request} {answer : Option Answer}
    (hlaw : Lawful log ⟨request, answer, false⟩) :
    Consistent c (log++[⟨request, answer, false⟩]) := by
  obtain ⟨hissue, hclaim, hrevokes⟩ := of_read request answer
  refine h.soften (.refl c) hissue hclaim (fun d hd => ?_) hlaw
  rw [hrevokes] at hd
  cases hd

theorem lawful_authenticated {nowMs : I64} {record : PairedDeviceRecord} {committed : Bool}
    (h : OfUse log ⟨record.deviceId, token, nowMs⟩) :
    Lawful log ⟨.authenticateDevice token nowMs, some (.authenticated (some record)),
    committed⟩ := by
  refine ⟨nofun, fun _ _ _ hx => Request.noConfusion (congrArg request hx),
    fun _ _ _ _ hx => Request.noConfusion (congrArg request hx), fun x hx => ?_⟩
  cases hx
  exact h

variable [DecidableEq Digest]

theorem Consistent.lawful_rotated (h : Consistent c log) {nowMs : I64} {access : PairedDeviceAccess}
    (hdecided : c.Decided token nowMs (.answered access)) :
    Lawful log ⟨.rotateDevice token nowMs, some (.rotated access), false⟩ := by
  have hsame (d : DeviceId) :
      bearers (log++[⟨.rotateDevice token nowMs, some (.rotated access), false⟩]) d = bearers log
        d := by
    rw [bearers_concat]
    exact append_nil _
  refine ⟨nofun, fun _ _ _ hx => (nomatch congrArg committed hx), fun token' nowMs' access'
    committed hx => ?_, fun x hx => ?_⟩
  · cases hx
    cases hdecided with
    | atMaximum => exact .inl ⟨rfl, rfl⟩
    | @retried id p g sealed successor hp hgrace husable hg hsealed hopens hcurrent =>
      obtain ⟨earlier, last, hbearers, hlast, _, hnone | ⟨older, replaced, g', rfl, hg', hreplaced,
          _, hseal⟩⟩ :=
        (h.known id p hp).chain
      · rw [hnone.2] at hg
        cases hg
      rw [hg] at hg'
      cases hg'
      unfold inGrace at hgrace
      rw [hg, any_some, Bool.and_eq_true, decide_eq_true_eq] at hgrace
      have heq : replaced.token = token := sha256_injective (hreplaced.symm.trans hgrace.1)
      have hsuccessor : last.token = successor := sha256_injective (hlast.symm.trans hcurrent.symm)
      refine .inr ⟨rfl, older.length, ?_, ?_⟩
      · rw [hsame, hbearers, append_assoc, getElem?_append_right (le_refl _)]
        simp [heq]
      · rw [hsame, hbearers, append_assoc, getElem?_append_right (by omega)]
        simp [hsuccessor]
  · cases hx
    cases hdecided with
    | atMaximum hp htoken husable => exact (h.known _ _ hp).ofUse_current htoken husable
    | retried hp hgrace husable => exact (h.known _ _ hp).ofUse_grace hgrace husable

/-- One access keeps the tables and the log consistent. -/
theorem Consistent.turn (h : Consistent c log) {client : Client Digest}
    (hchecked : client.Checked) (hfresh : freshIn log fresh) :
    Consistent (turn c client fresh).shared (log++(turn c client fresh).events) := by
  generalize hrequest : client.request = request
  have hturn : Accessed c fresh request (Devices.turn c client fresh) := hrequest ▸ turn_accessed c
      fresh client hchecked
  generalize Devices.turn c client fresh = t at hturn
  cases hturn with
  | refused => exact (append_nil log).symm ▸ h
  | onward =>
    refine h.read (.of_plain (of_read request none).2.1 ?_)
    unfold acceptance?
    split <;> simp_all
  | turnedAway _ hanswer =>
    refine h.read (.of_plain (of_read request _).2.1 ?_)
    rcases hanswer with rfl | rfl | rfl <;>
    · unfold acceptance?
      split <;> simp_all
  | current hp htoken husable =>
    exact h.read (lawful_authenticated ((h.known _ _ hp).ofUse_current htoken husable))
  | graced hp hgrace husable =>
    exact h.read (lawful_authenticated ((h.known _ _ hp).ofUse_grace hgrace husable))
  | refreshed nextExpiry hp htoken husable =>
    exact h.soften (softened_refreshed c _ nextExpiry _) rfl rfl nofun
      (lawful_authenticated ((h.known _ _ hp).ofUse_current htoken husable))
  | rotated hdecided => exact h.read (h.lawful_rotated hdecided)
  | issued hdecided => exact h.issued hfresh hdecided
  | claimed hnew hchallenge hlife => exact h.claimed hfresh hnew hchallenge hlife
  | @revoked deviceId revokedAtMs p hp =>
    refine h.soften (softened_revoked c deviceId revokedAtMs) rfl rfl (fun d hd => ?_)
      (.of_plain rfl rfl)
    cases hd
    refine ⟨⟨p, hp⟩, fun p' hp' => ?_⟩
    change (c.devices.modify deviceId _).get? deviceId = some p' at hp'
    rw [get?_modify_self, hp, map_some, some.injEq] at hp'
    rw [← hp']
    exact nofun
  | repaired nowMs => exact h.soften (softened_repaired c nowMs) rfl rfl nofun (.of_plain rfl rfl)

theorem Consistent.expiry_turn (h : Consistent c log) {client : Client Digest}
    (hchecked : client.Checked) (fresh : Fresh) (hp : c.devices.get? d = some p) :
    ∃ p', (Devices.turn c client fresh).shared.devices.get? d = some p' ∧
    p.expiresAtMs ≤ p'.expiresAtMs := by
  have hrow := h.known d p hp
  obtain ⟨claim, _, _, _, _, hmax⟩ := hrow.claim
  have hexpiry := hrow.expiry
  rw [hmax, all_some, decide_eq_true_eq] at hexpiry
  have hsame : ∃ p', c.devices.get? d = some p' ∧ p.expiresAtMs ≤ p'.expiresAtMs :=
    ⟨p, hp, le_refl _⟩
  generalize hrequest : client.request = request
  have hturn : Accessed c fresh request (Devices.turn c client fresh) := hrequest ▸ turn_accessed c
      fresh client hchecked
  generalize Devices.turn c client fresh = t at hturn
  cases hturn with
  | refreshed nextExpiry hq =>
    change ∃ p', (c.devices.modify _ _).get? d = some p' ∧ _
    rw [get?_modify]
    split
    · rw [hp]
      refine ⟨_, rfl, ?_⟩
      change p.expiresAtMs ≤ min (max p.expiresAtMs nextExpiry) (p.maxExpiresAtMs.getD i64Max)
      rw [hmax, getD_some]
      exact le_min (le_max_left _ _) hexpiry
    · exact hsame
  | @issued token nowMs id q hdecided =>
    change ∃ p', (c.devices.modify id _).get? d = some p' ∧ _
    rw [get?_modify]
    cases hdecided with
    | issue hq =>
    split_ifs with hd
    · rw [hd, hq] at hp
      cases hp
      rw [hd, hq]
      refine ⟨_, rfl, ?_⟩
      unfold capExpiry
      rw [hmax, elim_some]
      exact le_min (le_max_left _ _) hexpiry
    · exact hsame
  | claimed hnew =>
    change ∃ p', (c.devices.insert fresh.deviceId _).get? d = some p' ∧ _
    have hd : d ≠ fresh.deviceId := by
      rintro rfl
      rw [hnew] at hp
      cases hp
    rw [get?_insert, if_neg hd]
    exact hsame
  | @revoked deviceId revokedAtMs =>
    change ∃ p', (c.devices.modify deviceId _).get? d = some p' ∧ _
    rw [get?_modify]
    split
    · rw [hp]
      exact ⟨_, rfl, le_refl _⟩
    · exact hsame
  | _ => exact hsame

end Turns

section Worlds

abbrev World (Digest Sealed : Type) :=
  Interleaving.World (Catalogue Digest Sealed) (Client Digest) Access

def enter (request : Request) : Client Digest := ⟨request, .reading⟩

theorem checked_enter (request : Request) : (enter request : Client Digest).Checked :=
  fun h => Stage.noConfusion rfl (heq_of_eq h)

def start (challenges : OrderedMap PairingId (PairingChallenge Digest)) : World Digest Sealed where
  shared := ⟨challenges, .empty, .empty⟩
  clients := []
  log := []

variable [BearerCrypto Digest Sealed]

theorem consistent_start (challenges : OrderedMap PairingId (PairingChallenge Digest)) :
    (start challenges : World Digest Sealed).Holds Consistent
      (fun _ _ client => client.Checked) where
  shared := by
    refine ⟨atEach_nil, fun d p hp => ?_, fun d _ => ⟨rfl, rfl, rfl, fun a ha => ?_⟩, fun a ha =>
      ?_, nodup_nil⟩
    · cases hp
    · exact absurd ha not_mem_nil
    · exact absurd ha not_mem_nil
  clients := fun _ h => absurd h not_mem_nil

variable [DecidableEq Digest]

variable (w : World Digest Sealed)

def step (m : Move Request Fresh) : World Digest Sealed := w.step enter turn m

def run (ms : List (Move Request Fresh)) : World Digest Sealed := ms.foldl step w

def FreshTokens (m : Move Request Fresh) : Prop :=
  w.Meets (fun _ log _ fresh => freshIn log fresh = true) m

instance (w : World Digest Sealed) (m : Move Request Fresh) : Decidable (FreshTokens w m) :=
  inferInstanceAs (Decidable (w.Meets (fun _ log _ fresh => freshIn log fresh = true) m))

/-- What any number of clients can make of some challenges, every issued bearer being new. -/
def Reachable (challenges : OrderedMap PairingId (PairingChallenge Digest))
    (w : World Digest Sealed) : Prop :=
  ∃ ms, RunRules.Along step FreshTokens (start challenges : World Digest Sealed) ms ∧
    w = run (start challenges) ms

/-- So they are consistent after any interleaving of clients. -/
theorem consistent_of_reachable {challenges : OrderedMap PairingId (PairingChallenge Digest)}
    {w : World Digest Sealed} (h : Reachable challenges w) :
    w.Holds Consistent (fun _ _ client => client.Checked) := by
  obtain ⟨ms, hfresh, rfl⟩ := h
  refine World.Holds.run (consistent_start challenges) (fun r _ _ _ => checked_enter r) ?_ hfresh
  intro c log client fresh hc hchecked hfresh
  refine ⟨hc.turn hchecked hfresh, fun next hnext => ?_, fun _ hm => hm⟩
  exact (turn_accessed c fresh client hchecked).next_checked c fresh hnext

theorem bearers_append (pre post : List Access) (d : DeviceId) :
    bearers (pre++post) d = bearers pre d++bearers post d := by
  unfold bearers
  rw [filterMap_append, filter_append]

theorem token_append {xs : List Issue} (ys : List Issue) {i : ℕ}
    (hi : (xs[i]?).map (·.token) = some token) : ((xs++ys)[i]?).map (·.token) = some token := by
  obtain ⟨issue, hissue, htoken⟩ := map_eq_some_iff.mp hi
  rw [List.getElem?_append_left (List.getElem?_eq_some_iff.mp hissue).1, hissue]
  exact congrArg some htoken

/-- Paired devices' bearers, over every interleaving of claims, authentications, rotations and
revocations. -/
theorem bearers_form_one_chain {challenges : OrderedMap PairingId (PairingChallenge Digest)}
    {w : World Digest Sealed} (h : Reachable challenges w) :
    AtEach Lawful w.log ∧ ((w.log.filterMap Access.issue?).map (·.token)).Nodup ∧
    (∀ token nowMs access committed,
      ⟨.rotateDevice token nowMs, some (.rotated access), committed⟩ ∈ w.log →
      access.atMaximumLifetime = true ∧ access.accessToken = token ∨
        access.atMaximumLifetime = false ∧
        ∃ i, ((bearers w.log access.deviceId)[i]?).map (·.token) = some token ∧
          ((bearers w.log access.deviceId)[i+1]?).map (·.token) = some access.accessToken) ∧
    ∀ d p, w.shared.devices.get? d = some p →
      (∀ claim ∈ claimsOf w.log d, p.expiresAtMs ≤ claim.atMs+claim.maxLifetimeMs) ∧
      ∀ m, ∃ p', (step w m).shared.devices.get? d = some p' ∧ p.expiresAtMs ≤ p'.expiresAtMs := by
  have hrun := consistent_of_reachable h
  have hc := hrun.shared
  refine ⟨hc.lawful, hc.tokens, ?_, ?_⟩
  · intro token nowMs access committed hin
    obtain ⟨pre, post, hlog⟩ := List.mem_iff_append.mp hin
    have hlaw := hc.lawful pre _ post hlog
    rw [hlog, List.append_cons, bearers_append]
    refine (hlaw.answered token nowMs access committed rfl).imp_right fun ⟨hmax, i, hi, hnext⟩ =>
      ⟨hmax, i, ?_, ?_⟩
    · exact token_append _ hi
    · exact token_append _ hnext
  · intro d p hp
    have hrow := hc.known d p hp
    refine ⟨?_, fun m => ?_⟩
    · obtain ⟨claim, hclaims, _, hrange, hlife, hmax⟩ := hrow.claim
      have hexpiry := hrow.expiry
      rw [hmax, Option.all_some, decide_eq_true_eq, saturatingAdd_eq_min hrange hlife.le] at hexpiry
      intro claim' hin
      rw [hclaims, List.mem_singleton] at hin
      rw [hin]
      exact hexpiry.trans (min_le_left _ _)
    · have hsame : ∃ p', w.shared.devices.get? d = some p' ∧ p.expiresAtMs ≤ p'.expiresAtMs :=
        ⟨p, hp, le_refl _⟩
      cases m with
      | join => exact hsame
      | leave => exact hsame
      | act k fresh =>
        unfold step Interleaving.World.step
        dsimp only
        cases hk : w.clients[k]? with
        | none => exact hsame
        | some client =>
          exact hc.expiry_turn (hrun.clients client (List.mem_of_getElem? hk)) fresh hp

end Worlds

instance plainBearers : BearerCrypto String (String × DeviceId × String) where
  sha256 := id
  sha256_injective := Function.injective_id
  sealSuccessor := fun bearer device successor _ => (bearer, device, successor)
  unsealSuccessor := fun bearer device sealed =>
    if sealed.1 = bearer ∧ sealed.2.1 = device then some sealed.2.2 else none
  unseal_seal := fun _ _ _ _ => if_pos ⟨rfl, rfl⟩
  unseal_other := fun _ _ _ _ _ _ h => if_neg fun ⟨hbearer, hdevice⟩ =>
    h (by rw [← hbearer, ← hdevice])

def wireText (digit : Char) : String := String.ofList (replicate 64 digit)

def oneChallenge : OrderedMap PairingId (PairingChallenge String) :=
  OrderedMap.empty.insert 1 ⟨wireText '5', 1000⟩

def rotatedTwice : List (Move Request Fresh) :=
  [.join (.claimPairing 1 (wireText '5') "phone" ⟨10, by decide⟩ ⟨100000000000, by decide⟩),
    .act 0 ⟨7, wireText 'a', 0⟩, .act 0 ⟨7, wireText 'a', 0⟩,
      .join (.rotateDevice (wireText 'a') ⟨20, by decide⟩),
    .join (.rotateDevice (wireText 'a') ⟨30, by decide⟩), .act 0 ⟨7, wireText 'b', 0⟩,
      .act 1 ⟨7, wireText 'b', 0⟩,
    .act 1 ⟨7, wireText 'b', 0⟩, .act 0 ⟨7, wireText 'c', 0⟩]

theorem bearers_form_one_chain_rotatedTwice :
    AtEach Lawful (run (start oneChallenge : World String (String × DeviceId × String))
    rotatedTwice).log ∧
    (bearers (run (start oneChallenge : World String (String × DeviceId × String)) rotatedTwice).log
    7).map (·.token) = [wireText 'a', wireText 'b'] :=
  ⟨(bearers_form_one_chain ⟨rotatedTwice, by decide +kernel, rfl⟩).1, by decide +kernel⟩

end TeslatlasHub.Devices
