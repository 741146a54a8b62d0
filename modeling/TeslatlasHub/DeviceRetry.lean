import TeslatlasHub.DeviceBearers

namespace TeslatlasHub.Devices

open OrderedMap BearerCrypto FixedWidth Interleaving List Option

variable {Digest Sealed : Type}

structure Retriable (c : Catalogue Digest Sealed) (log : List Access) : Prop where
  tokens : ∀ a ∈ log, ∀ issue, a.issue? = some issue → validWireSecret issue.token
  lasting : ∀ d p, c.devices.get? d = some p → ∀ earlier last, bearers log d = earlier++[last] →
    capExpiry (saturatingAdd last.atMs pairedDeviceTokenLifetimeMs) p.maxExpiresAtMs ≤
      p.expiresAtMs ∧
      p.createdAtMs ≤ last.atMs
  revoked : ∀ d p, c.devices.get? d = some p → p.revokedAtMs ≠ none → ∃ a ∈ log, a.revokes? = some d
  sealed : ∀ d g, c.grace.get? d = some g → g.sealedSuccessor = none →
    (∃ a ∈ log, a.revokes? = some d) ∨ ∃ a ∈ log, g.validUntilMs ≤ a.request.timeMs

variable {d : DeviceId}

section Keeping

variable {c c' : Catalogue Digest Sealed} {log : List Access} {a : Access}

theorem Retriable.keep (h : Retriable c log) (hissue : a.issue? = none)
    (hdevices : ∀ d p', c'.devices.get? d = some p' → ∃ p, c.devices.get? d = some p ∧
    p'.maxExpiresAtMs = p.maxExpiresAtMs ∧ p'.createdAtMs = p.createdAtMs ∧
    p.expiresAtMs ≤ p'.expiresAtMs ∧ (p'.revokedAtMs = p.revokedAtMs ∨ a.revokes? = some d))
    (hgrace : ∀ d g', c'.grace.get? d = some g' → ∃ g, c.grace.get? d = some g ∧
    g'.validUntilMs = g.validUntilMs ∧
    (g'.sealedSuccessor = g.sealedSuccessor ∨ a.revokes? = some d ∨
    g.validUntilMs ≤ a.request.timeMs)) : Retriable c' (log++[a]) := by
  refine ⟨?_, ?_, ?_, ?_⟩
  · intro x hx issue hxissue
    rcases mem_append.mp hx with hx | hx
    · exact h.tokens x hx issue hxissue
    · rw [mem_singleton.mp hx, hissue] at hxissue
      cases hxissue
  · intro d p' hp' earlier last hbearers
    rw [bearers_concat, hissue] at hbearers
    obtain ⟨p, hp, hmax, hcreated, hle, _⟩ := hdevices d p' hp'
    obtain ⟨hexpiry, hafter⟩ := h.lasting d p hp earlier last ((append_nil _).symm.trans hbearers)
    rw [hmax, hcreated]
    exact ⟨hexpiry.trans hle, hafter⟩
  · intro d p' hp' hrevoked
    obtain ⟨p, hp, _, _, _, hsame | hrevokes⟩ := hdevices d p' hp'
    · obtain ⟨x, hx, hxd⟩ := h.revoked d p hp (hsame ▸ hrevoked)
      exact ⟨x, mem_append_left _ hx, hxd⟩
    · exact ⟨a, mem_append_right _ mem_cons_self, hrevokes⟩
  · intro d g' hg' hnone
    obtain ⟨g, hg, huntil, hsame | hrevokes | hended⟩ := hgrace d g' hg'
    · rw [hsame] at hnone
      rw [huntil]
      refine (h.sealed d g hg hnone).imp ?_ ?_
      · exact fun ⟨x, hx, hxd⟩ => ⟨x, mem_append_left _ hx, hxd⟩
      · exact fun ⟨x, hx, hxt⟩ => ⟨x, mem_append_left _ hx, hxt⟩
    · exact .inl ⟨a, mem_append_right _ mem_cons_self, hrevokes⟩
    · rw [huntil]
      exact .inr ⟨a, mem_append_right _ mem_cons_self, hended⟩

theorem Retriable.read (h : Retriable c log) (request : Request) (answer : Option Answer) :
    Retriable c (log++[⟨request, answer, false⟩]) :=
  h.keep (Access.of_read request answer).1 (fun _ p hp => ⟨p, hp, rfl, rfl, le_refl _, .inl rfl⟩)
    (fun _ g hg => ⟨g, hg, rfl, .inl rfl⟩)

theorem endedUnsealed_reason (nowMs : ℤ) (g : TokenGrace Digest Sealed) :
    (Catalogue.endedUnsealed nowMs g).sealedSuccessor = g.sealedSuccessor ∨
    g.validUntilMs ≤ nowMs := by
  unfold Catalogue.endedUnsealed
  split_ifs with hended
  · exact .inr hended
  · exact .inl rfl

theorem last_of_issue {issue : Issue} (hissue : a.issue? = some issue) {earlier : List Issue}
    {last : Issue} (hbearers : bearers (log++[a]) issue.device = earlier++[last]) :
    last = issue := by
  rw [bearers_concat, hissue] at hbearers
  simp only [filter_some, decide_true, ↓reduceIte, toList_some] at hbearers
  have htail := (append_inj' hbearers rfl).2
  cases htail
  rfl

theorem bearers_of_other {issue : Issue} (hissue : a.issue? = some issue) (hd : issue.device ≠ d) :
    bearers (log++[a]) d = bearers log d := by
  rw [bearers_concat, hissue]
  simp [Option.filter, hd]

theorem Retriable.issue (h : Retriable c log) {issue : Issue} (hissue : a.issue? = some issue)
    (hvalid : validWireSecret issue.token)
    (hnew : ∀ p', c'.devices.get? issue.device = some p' →
    capExpiry (saturatingAdd issue.atMs pairedDeviceTokenLifetimeMs) p'.maxExpiresAtMs ≤
    p'.expiresAtMs ∧ p'.createdAtMs ≤ issue.atMs ∧
    (p'.revokedAtMs ≠ none → ∃ a ∈ log, a.revokes? = some issue.device))
    (hdevices : ∀ d, d ≠ issue.device → c'.devices.get? d = c.devices.get? d)
    (hgrace : ∀ d g', c'.grace.get? d = some g' → g'.sealedSuccessor = none →
    c.grace.get? d = some g') : Retriable c' (log++[a]) := by
  refine ⟨?_, ?_, ?_, ?_⟩
  · intro x hx issue' hxissue
    rcases mem_append.mp hx with hx | hx
    · exact h.tokens x hx issue' hxissue
    · rw [mem_singleton.mp hx, hissue] at hxissue
      cases hxissue
      exact hvalid
  · intro d p' hp' earlier last hbearers
    by_cases hd : d = issue.device
    · subst hd
      rw [last_of_issue hissue hbearers]
      exact ⟨(hnew p' hp').1, (hnew p' hp').2.1⟩
    · rw [bearers_of_other hissue (Ne.symm hd)] at hbearers
      exact h.lasting d p' (hdevices d hd ▸ hp') earlier last hbearers
  · intro d p' hp' hrevoked
    obtain ⟨x, hx, hxd⟩ : ∃ x ∈ log, x.revokes? = some d := by
      by_cases hd : d = issue.device
      · subst hd
        exact (hnew p' hp').2.2 hrevoked
      · exact h.revoked d p' (hdevices d hd ▸ hp') hrevoked
    exact ⟨x, mem_append_left _ hx, hxd⟩
  · intro d g' hg' hnone
    refine (h.sealed d g' (hgrace d g' hg' hnone) hnone).imp ?_ ?_
    · exact fun ⟨x, hx, hxd⟩ => ⟨x, mem_append_left _ hx, hxd⟩
    · exact fun ⟨x, hx, hxt⟩ => ⟨x, mem_append_left _ hx, hxt⟩

end Keeping

section Turns

variable [BearerCrypto Digest Sealed] {c : Catalogue Digest Sealed} {log : List Access}

theorem Consistent.rotated_row (h : Consistent c log) {older : List Issue} {replaced last : Issue}
    (hbearers : bearers log d = (older++[replaced])++[last]) :
    ∃ p g, c.devices.get? d = some p ∧ RowOf c log d p ∧ p.tokenSha256 = sha256 Sealed last.token ∧
    i64Min ≤ last.atMs ∧ c.grace.get? d = some g ∧ g.tokenSha256 = sha256 Sealed replaced.token ∧
    g.validUntilMs = saturatingAdd last.atMs pairedDeviceRotationGraceMs ∧
    ∀ sealed, g.sealedSuccessor = some sealed → ∃ nonce, sealed = sealSuccessor Digest
    replaced.token d last.token nonce := by
  cases hp : c.devices.get? d with
  | none =>
    rw [(h.unknown d hp).1] at hbearers
    exact absurd hbearers.symm (append_ne_nil_of_right_ne_nil _ (cons_ne_nil _ _))
  | some p =>
  have hrow := h.known d p hp
  obtain ⟨earlier, last', hchain, hlast, hrange, hgrace⟩ := hrow.chain
  obtain ⟨hearlier, hlastEq⟩ := append_inj' (hchain.symm.trans hbearers) rfl
  cases hlastEq
  rcases hgrace with ⟨hnil, _⟩ | ⟨older', replaced', g, hearlier', hg, htoken, huntil, hseal⟩
  · rw [hearlier] at hnil
    exact absurd hnil (append_ne_nil_of_right_ne_nil _ (cons_ne_nil _ _))
  obtain ⟨_, hreplacedEq⟩ := append_inj' (hearlier.symm.trans hearlier') rfl
  cases hreplacedEq
  exact ⟨p, g, rfl, hrow, hlast, hrange, hg, htoken, huntil, hseal⟩

variable [DecidableEq Digest]

/-- One access keeps what a lost rotation needs to be answered again. -/
theorem Retriable.turn (h : Retriable c log) (hc : Consistent c log) {client : Client Digest}
    (hchecked : client.Checked) {fresh : Fresh} (hfresh : freshIn log fresh) :
    Retriable (Devices.turn c client fresh).shared (log++(Devices.turn c client fresh).events) := by
  have hvalid : validWireSecret fresh.token := (Bool.and_eq_true_iff.mp hfresh).1
  have hslides (d : DeviceId) (p : PairedDevice Digest) (hp : c.devices.get? d = some p)
      (nextExpiry : ℤ) :
      p.expiresAtMs ≤ p.slid nextExpiry := by
    have hrow := hc.known d p hp
    obtain ⟨claim, _, _, _, _, hmax⟩ := hrow.claim
    have hexpiry := hrow.expiry
    rw [hmax, all_some, decide_eq_true_eq] at hexpiry
    unfold PairedDevice.slid
    rw [hmax, getD_some]
    exact le_min (le_max_left _ _) hexpiry
  generalize hrequest : client.request = request
  have hturn : Accessed c fresh request (Devices.turn c client fresh) := hrequest ▸ turn_accessed c
      fresh client hchecked
  generalize Devices.turn c client fresh = t at hturn
  cases hturn with
  | refused => exact (append_nil log).symm ▸ h
  | onward => exact h.read request none
  | turnedAway => exact h.read request _
  | current => exact h.read _ _
  | graced => exact h.read _ _
  | rotated => exact h.read _ _
  | @refreshed token nowMs p record nextExpiry hp =>
    refine h.keep rfl (fun d p' hp' => ?_) (fun d g' hg' => ?_)
    · change (c.devices.modify _ _).get? d = some p' at hp'
      rw [get?_modify] at hp'
      split at hp'
      · obtain ⟨q, hq, rfl⟩ := map_eq_some_iff.mp hp'
        exact ⟨q, hq, rfl, rfl, hslides d q hq nextExpiry, .inl rfl⟩
      · exact ⟨p', hp', rfl, rfl, le_refl _, .inl rfl⟩
    · change (c.grace.modify _ _).get? d = some g' at hg'
      rw [get?_modify] at hg'
      split at hg'
      · obtain ⟨g, hg, rfl⟩ := map_eq_some_iff.mp hg'
        exact ⟨g, hg, (endedUnsealed_keeps nowMs.val g).2.1,
          (endedUnsealed_reason nowMs.val g).imp_right Or.inr⟩
      · exact ⟨g', hg', rfl, .inl rfl⟩
  | @issued token nowMs id p hdecided =>
    cases hdecided with
    | issue hp _ _ hcreated =>
    refine h.issue (show _ = some (⟨id, fresh.token, nowMs⟩ : Issue) from rfl) hvalid
      (fun p' hp' => ?_)
      (fun d hd => ?_) (fun d g' hg' hnone => ?_)
    · change (c.devices.modify id _).get? id = some p' at hp'
      rw [get?_modify_self, hp, map_some, some.injEq] at hp'
      subst hp'
      refine ⟨?_, hcreated, h.revoked id p hp⟩
      cases p.maxExpiresAtMs with
      | none => exact le_max_right _ _
      | some maximum => exact min_le_min_right _ (le_max_right _ _)
    · exact get?_modify.trans (if_neg hd)
    · change (c.grace.insert id _).get? d = some g' at hg'
      rw [get?_insert] at hg'
      split at hg'
      · cases hg'
        cases hnone
      · exact hg'
  | @claimed pairingId secret deviceName claimedAtMs maxLifetimeMs hnew =>
    refine h.issue (show _ = some (⟨fresh.deviceId, fresh.token, claimedAtMs⟩ : Issue) from rfl)
      hvalid
      (fun p' hp' => ?_) (fun d hd => ?_) (fun d g' hg' _ => hg')
    · change (c.devices.insert fresh.deviceId _).get? fresh.deviceId = some p' at hp'
      rw [get?_insert, if_pos rfl, some.injEq] at hp'
      subst hp'
      exact ⟨le_refl _, le_refl _, fun hnone => absurd rfl hnone⟩
    · exact get?_insert.trans (if_neg hd)
  | @revoked deviceId revokedAtMs =>
    refine h.keep rfl (fun d p' hp' => ?_) (fun d g' hg' => ?_)
    · change (c.devices.modify deviceId _).get? d = some p' at hp'
      rw [get?_modify] at hp'
      split at hp'
      · rename_i hd
        obtain ⟨q, hq, rfl⟩ := map_eq_some_iff.mp hp'
        exact ⟨q, hq, rfl, rfl, le_refl _, .inr (congrArg some hd.symm)⟩
      · exact ⟨p', hp', rfl, rfl, le_refl _, .inl rfl⟩
    · change (c.grace.modify deviceId _).get? d = some g' at hg'
      rw [get?_modify] at hg'
      split at hg'
      · rename_i hd
        obtain ⟨g, hg, rfl⟩ := map_eq_some_iff.mp hg'
        exact ⟨g, hg, rfl, .inr (.inl (congrArg some hd.symm))⟩
      · exact ⟨g', hg', rfl, .inl rfl⟩
  | repaired nowMs =>
    refine h.keep rfl (fun d p' hp' => ⟨p', hp', rfl, rfl, le_refl _, .inl rfl⟩)
      (fun d g' hg' => ?_)
    change (c.grace.map _).get? d = some g' at hg'
    rw [get?_map] at hg'
    obtain ⟨g, hg, rfl⟩ := map_eq_some_iff.mp hg'
    exact ⟨g, hg, (endedUnsealed_keeps nowMs.val g).2.1,
      (endedUnsealed_reason nowMs.val g).imp_right Or.inr⟩

/-- So it is kept after any interleaving of clients. -/
theorem retriable_of_reachable {challenges : OrderedMap PairingId (PairingChallenge Digest)}
    {w : World Digest Sealed} (h : Reachable challenges w) :
    w.Holds (fun c log => Consistent c log ∧ Retriable c log)
    (fun _ _ client => client.Checked) := by
  obtain ⟨ms, hfresh, rfl⟩ := h
  have hstart : (start challenges : World Digest Sealed).Holds Consistent
      (fun _ _ client => client.Checked) :=
    consistent_start challenges
  have hnone : Retriable (start challenges : World Digest Sealed).shared [] := by
    refine ⟨fun a ha => absurd ha not_mem_nil, fun d p hp => ?_, fun d p hp => ?_, fun d g hg => ?_⟩
    · cases hp
    · cases hp
    · cases hg
  refine World.Holds.run ⟨⟨hstart.shared, hnone⟩, hstart.clients⟩ (fun r _ _ _ => checked_enter r)
    ?_ hfresh
  intro c log client fresh ⟨hc, hr⟩ hchecked hfresh
  refine ⟨⟨hc.turn hchecked hfresh, hr.turn hc hchecked hfresh⟩, fun next hnext => ?_, fun _ hm =>
    hm⟩
  exact (turn_accessed c fresh client hchecked).next_checked c fresh hnext

theorem issue_unique (hnodup : ((log.filterMap Access.issue?).map (·.token)).Nodup) {x y : Issue}
    {d' : DeviceId} (hx : x ∈ bearers log d) (hy : y ∈ bearers log d') (heq : x.token = y.token) :
    d = d' ∧ x = y := by
  obtain ⟨hx, hxd⟩ := mem_filter.mp hx
  obtain ⟨hy, hyd⟩ := mem_filter.mp hy
  have hxy : x = y := inj_on_of_nodup_map hnodup hx hy heq
  rw [decide_eq_true_eq] at hxd hyd
  exact ⟨by rw [← hxd, ← hyd, hxy], hxy⟩

variable {p : PairedDevice Digest}

theorem Consistent.device_unique (h : Consistent c log) {token : String} {nowMs : ℤ}
    {issue : Issue} (hissue : issue ∈ bearers log d) (htoken : issue.token = token)
    {id : DeviceId} (hp : c.devices.get? id = some p)
    (hof : p.tokenSha256 = sha256 Sealed token ∨ c.inGrace id (sha256 Sealed token) nowMs) :
    id = d := by
  obtain ⟨earlier, last, hbearers, hlast, _, hgrace⟩ := (h.known id p hp).chain
  rcases hof with hof | hof
  · have heq : last.token = token := sha256_injective (hlast.symm.trans hof)
    exact (issue_unique h.tokens (hbearers ▸ by simp) hissue (heq.trans htoken.symm)).1
  · obtain ⟨g, hg, hof⟩ := (Option.any_eq_true _ _).mp hof
    rw [Bool.and_eq_true, decide_eq_true_eq] at hof
    rcases hgrace with ⟨_, hnone⟩ | ⟨older, replaced, g', rfl, hg', hreplaced, _⟩
    · rw [hnone] at hg
      cases hg
    · rw [hg] at hg'
      cases hg'
      have heq : replaced.token = token := sha256_injective (hreplaced.symm.trans hof.1)
      exact (issue_unique h.tokens (hbearers ▸ by simp) hissue (heq.trans htoken.symm)).1

theorem rotationOutcome_of_grace {token successor : String} {nowMs : ℤ}
    {g : TokenGrace Digest Sealed} {sealed : Sealed} (hp : c.devices.get? d = some p)
    (hgrace : c.inGrace d (sha256 Sealed token) nowMs) (hcreated : p.createdAtMs ≤ nowMs)
    (husable : p.usableAt nowMs) (hother : p.tokenSha256 ≠ sha256 Sealed token)
    (hunique : ∀ id q, c.devices.get? id = some q → (q.tokenSha256 = sha256 Sealed token ∨
      c.inGrace id (sha256 Sealed token) nowMs) → id = d)
    (hg : c.grace.get? d = some g) (hsealed : g.sealedSuccessor = some sealed)
    (hopens : unsealSuccessor Digest token d sealed = some successor)
    (hvalid : validWireSecret successor) (hcurrent : sha256 Sealed successor = p.tokenSha256) :
    c.rotationOutcome token nowMs =
      some (.answered ⟨d, successor, capExpiry p.expiresAtMs p.maxExpiresAtMs, false⟩) := by
  have hfind : c.devices.entries.find? (fun e => (e.2.tokenSha256 = sha256 Sealed token ||
      c.inGrace e.1 (sha256 Sealed token) nowMs) && e.2.createdAtMs ≤ nowMs && e.2.usableAt nowMs) =
        some (d, p) := by
    cases hfound : c.devices.entries.find? (fun e => (e.2.tokenSha256 = sha256 Sealed token ||
        c.inGrace e.1 (sha256 Sealed token) nowMs) && e.2.createdAtMs ≤ nowMs &&
          e.2.usableAt nowMs) with
    | none =>
      have hmiss := find?_eq_none.mp hfound (d, p) (get?_eq_some.mp hp)
      simp [hgrace, hcreated, husable] at hmiss
    | some e =>
      have hin := mem_of_find?_eq_some hfound
      have hrow := find?_some hfound
      simp only [Bool.and_eq_true, Bool.or_eq_true, decide_eq_true_eq] at hrow
      have hid := hunique e.1 e.2 (get?_eq_some.mpr hin) hrow.1.1
      rw [key_unique hin (get?_eq_some.mp hp) hid]
  unfold Catalogue.rotationOutcome
  dsimp only
  rw [hfind, bind_some]
  rw [if_neg hother, hg, bind_some, hsealed, bind_some, hopens, bind_some, if_pos]
  simp [hvalid, hcurrent]

theorem bearers_after_rotation {pre post : List Access} {token : String} {issuedAtMs : I64}
    {access : PairedDeviceAccess}
    (hlaw : Lawful pre ⟨.rotateDevice token issuedAtMs, some (.rotated access), true⟩)
    (hrotated : ∀ a ∈ post, ∀ issue, a.issue? = some issue → issue.device ≠ access.deviceId) :
    ∃ older replaced, replaced.token = token ∧
    bearers (pre++⟨.rotateDevice token issuedAtMs, some (.rotated access), true⟩ :: post)
    access.deviceId = (older++[replaced])++[⟨access.deviceId, access.accessToken, issuedAtMs⟩] := by
  obtain ⟨older, replaced, hbefore, hreplaced⟩ := hlaw.issued token issuedAtMs access rfl
  refine ⟨older, replaced, hreplaced, ?_⟩
  have hpost : bearers post access.deviceId = [] := by
    unfold bearers
    rw [filter_eq_nil_iff]
    intro issue hissue
    obtain ⟨a, ha, haissue⟩ := mem_filterMap.mp hissue
    simpa using hrotated a ha issue haissue
  have hone : bearers [⟨.rotateDevice token issuedAtMs, some (.rotated access), true⟩]
      access.deviceId =
      [⟨access.deviceId, access.accessToken, issuedAtMs⟩] := by
    simp [bearers, Access.issue?]
  rw [append_cons, bearers_append, bearers_append, hbefore, hone, hpost, append_nil]

/-- A lost rotation answer can be fetched again: inside the grace window, and while the successor is
not rotated, the old bearer is answered with the successor and nothing is written. -/
theorem lost_rotation_is_answered_again {challenges : OrderedMap PairingId
    (PairingChallenge Digest)} {w : World Digest Sealed} (h : Reachable challenges w)
    {pre post : List Access} {token : String} {issuedAtMs : I64} {access : PairedDeviceAccess}
    (hlog : w.log = pre++⟨.rotateDevice token issuedAtMs, some (.rotated access), true⟩ :: post)
    (hrevoked : ∀ a ∈ post, a.revokes? ≠ some access.deviceId)
    (hrotated : ∀ a ∈ post, ∀ issue, a.issue? = some issue → issue.device ≠ access.deviceId)
    {client : Client Digest} {nowMs : I64} (hrequest : client.request = .rotateDevice token nowMs)
    (htimes : ∀ a ∈ w.log, a.request.timeMs ≤ nowMs)
    (hwindow : nowMs.val < issuedAtMs.val+pairedDeviceRotationGraceMs)
    (hmaximum : ∀ p, w.shared.devices.get? access.deviceId = some p →
    p.maxExpiresAtMs.all (nowMs.val < ·) = true) (fresh : Fresh) :
    ∃ expiresAtMs, Devices.turn w.shared client fresh = answers w.shared (.rotateDevice token nowMs)
      (.rotated ⟨access.deviceId, access.accessToken, expiresAtMs, false⟩) := by
  obtain ⟨hc, hr⟩ := (retriable_of_reachable h).shared
  set issueAccess : Access := ⟨.rotateDevice token issuedAtMs, some (.rotated access), true⟩ with
    hissueAccess
  have hin : issueAccess ∈ w.log := hlog ▸ mem_append_right _ mem_cons_self
  have hlaw := hc.lawful pre issueAccess post hlog
  obtain ⟨older, replaced, hreplaced, hbearers⟩ := bearers_after_rotation hlaw hrotated
  rw [← hissueAccess, ← hlog] at hbearers
  obtain ⟨p, g, hp, hrow, hlast, hrange, hg, htoken, huntil, hseal⟩ := hc.rotated_row hbearers
  have hnotRevoked : ∀ a ∈ w.log, a.revokes? ≠ some access.deviceId := by
    obtain ⟨_, _, hpre, _⟩ := hlaw.accepted _ rfl
    intro a ha
    rw [hlog] at ha
    rcases mem_append.mp ha with ha | ha
    · exact hpre a ha
    · rcases mem_cons.mp ha with rfl | ha
      · exact nofun
      · exact hrevoked a ha
  -- the times: the window is open and the row has not expired
  obtain ⟨hexpires, hcreated⟩ := hr.lasting _ p hp _ _ hbearers
  have hissuedTime : issuedAtMs.val ≤ nowMs.val := htimes issueAccess hin
  obtain ⟨claim, _, _, hclaimRange, hlife, hmax⟩ := hrow.claim
  have hbelow := hmaximum p hp
  rw [hmax, all_some, decide_eq_true_eq, saturatingAdd_eq_min hclaimRange hlife.le] at hbelow
  have hbelowMax : nowMs.val < i64Max := lt_of_lt_of_le hbelow (min_le_right _ _)
  have hopen : nowMs.val < g.validUntilMs := by
    rw [huntil, saturatingAdd_eq_min hrange (by decide)]
    exact lt_min hwindow hbelowMax
  have hunexpired : nowMs.val < p.expiresAtMs := by
    refine lt_of_lt_of_le ?_ hexpires
    unfold capExpiry
    rw [hmax, elim_some, saturatingAdd_eq_min hrange (by decide),
      saturatingAdd_eq_min hclaimRange hlife.le]
    refine lt_min (lt_min (hwindow.trans ?_) hbelowMax) hbelow
    exact Int.add_lt_add_left (by decide) _
  have husable : p.usableAt nowMs := by
    refine PairedDevice.usableAt_iff.mpr ⟨?_, hunexpired, hmaximum p hp⟩
    by_contra hne
    obtain ⟨a, ha, had⟩ := hr.revoked _ p hp hne
    exact hnotRevoked a ha had
  -- the sealed successor is still there: nothing since came after the window's end
  obtain ⟨sealed, hsealed⟩ : ∃ sealed, g.sealedSuccessor = some sealed := by
    rw [← ne_none_iff_exists']
    intro hnone
    rcases hr.sealed _ g hg hnone with ⟨a, ha, had⟩ | ⟨a, ha, hat⟩
    · exact hnotRevoked a ha had
    · exact absurd (hat.trans (htimes a ha)) (not_le.mpr hopen)
  obtain ⟨nonce, hsealedEq⟩ := hseal sealed hsealed
  have hmember : replaced ∈ bearers w.log access.deviceId := by
    rw [hbearers]
    simp
  have hdiffer : access.accessToken ≠ token := by
    have htokens : ((bearers w.log access.deviceId).map Issue.token).Nodup :=
      List.Nodup.sublist (filter_sublist.map Issue.token) hc.tokens
    rw [hbearers, map_append, nodup_append] at htokens
    exact hreplaced ▸ (htokens.2.2 replaced.token (by simp) access.accessToken (by simp)).symm
  have hgraced : w.shared.inGrace access.deviceId (sha256 Sealed token) nowMs := by
    unfold Catalogue.inGrace
    rw [hg, any_some, htoken, hreplaced]
    simpa using hopen
  have houtcome : w.shared.rotationOutcome token nowMs =
      some (.answered ⟨access.deviceId, access.accessToken,
        capExpiry p.expiresAtMs p.maxExpiresAtMs, false⟩) := by
    refine rotationOutcome_of_grace hp hgraced (hcreated.trans hissuedTime) husable ?_ ?_ hg hsealed
      ?_
      (hr.tokens issueAccess hin _ rfl) hlast.symm
    · rw [hlast]
      exact fun heq => hdiffer (sha256_injective heq)
    · exact fun id q hq hof => hc.device_unique hmember hreplaced hq hof
    · rw [hsealedEq, hreplaced]
      exact unseal_seal ..
  have hvalid : validWireSecret token = true := by
    obtain ⟨hissued, _⟩ := mem_filter.mp hmember
    obtain ⟨a, ha, haissue⟩ := mem_filterMap.mp hissued
    exact hreplaced ▸ hr.tokens a ha replaced haissue
  refine ⟨capExpiry p.expiresAtMs p.maxExpiresAtMs, ?_⟩
  unfold Devices.turn
  rw [hrequest]
  unfold rotateTurn
  dsimp only
  rw [houtcome, hvalid]
  cases client.stage <;> rfl

end Turns

def rotatedOnce : List (Move Request Fresh) :=
  rotatedTwice.take 4++[.act 0 ⟨7, wireText 'b', 0⟩, .act 0 ⟨7, wireText 'b', 0⟩,
    .join (.authenticateDevice (wireText 'b') ⟨25, by decide⟩), .act 0 ⟨7, wireText 'c', 0⟩]

def afterRotation : World String (String × DeviceId × String) :=
  run (start oneChallenge) rotatedOnce

theorem lost_rotation_is_answered_again_rotatedOnce :
    afterRotation.log.length = 5 ∧ ∃ expiresAtMs, Devices.turn afterRotation.shared
      ⟨.rotateDevice (wireText 'a') ⟨30, by decide⟩, .reading⟩
      ⟨7, wireText 'c', 0⟩ = answers afterRotation.shared (.rotateDevice (wireText 'a')
        ⟨30, by decide⟩)
        (.rotated ⟨7, wireText 'b', expiresAtMs, false⟩) := by
  have hlog : afterRotation.log = afterRotation.log.take 3++⟨.rotateDevice (wireText 'a')
      ⟨20, by decide⟩, some (.rotated ⟨7, wireText 'b', 2592000020, false⟩),
        true⟩ :: afterRotation.log.drop 4 := by decide +kernel
  have hunissued : ∀ a ∈ afterRotation.log.drop 4, a.issue? = none := by decide +kernel
  refine ⟨by decide +kernel, lost_rotation_is_answered_again ⟨rotatedOnce, by
    decide +kernel, rfl⟩ hlog
    (by decide +kernel) (fun a ha issue hissue => ?_) rfl (by decide +kernel) (by decide)
      (by decide +kernel) _⟩
  cases (hunissued a ha).symm.trans hissue

end TeslatlasHub.Devices
