import TeslatlasHub.LegacyUnit

namespace TeslatlasHub.Credentials

open LegacyAuthManager

structure StopRule (P : AuthStop → Prop) : Prop where
  outcomeUnknown : P (.signedOut .refreshOutcomeUnknown)
  pairInvalid : P (.signedOut .storedPairInvalid)
  providerExpired : P (.signedOut .providerTokenExpired)
  signInUnusable : P (.signInRequired .refreshResponseUnusable)
  signInUnknown : P (.signInRequired .refreshOutcomeUnknown)
  signInRejected : P (.signInRequired .refreshTokenRejected)
  refused : ∀ reason, P (.apiRefused reason)
  expires : ∀ reason, P (.signInRequired reason) → P (.signedOut reason)

namespace LegacyAuth

def StopsIn (P : AuthStop → Prop) (auth : LegacyAuth) : Prop :=
  ∀ stop, auth.stop = some stop → P stop

variable {P : AuthStop → Prop}

theorem StopsIn.setStop {stop : AuthStop} (h : P stop) (auth : LegacyAuth) :
    (auth.setStop stop).StopsIn P := by
  intro stop' hstop
  cases hstop
  exact h

variable {auth : LegacyAuth}

theorem StopsIn.settleStop (rule : StopRule P) (h : auth.StopsIn P) (now : ℤ) :
    (auth.settleStop now).StopsIn P := by
  unfold LegacyAuth.settleStop
  split
  · rename_i stop hstop
    intro stop' hstop'
    cases hstop'
    unfold effectiveStop at hstop
    split at hstop
    · rename_i reason hreason
      split at hstop
      · exact h stop hstop
      · cases hstop
        exact rule.expires reason (h _ hreason)
    · split at hstop
      · cases hstop
        exact rule.providerExpired
      · cases hstop
    · exact h stop hstop
  · exact h

theorem StopsIn.applyPersisted (h : auth.StopsIn P) (successor : ScheduledSuccessor)
    (now : ℤ) (spread : Option ℚ) : (auth.applyPersisted successor now spread).StopsIn P := by
  unfold LegacyAuth.applyPersisted
  split
  · exact h
  · exact h

theorem StopsIn.applyFailure (rule : StopRule P) (h : auth.StopsIn P) (kind : AttemptClass)
    (error : AuthError) (status : Option ℕ) (retryAfter : Option ℤ) (now : ℤ) (spread : Option ℚ) :
    (auth.applyFailure kind error status retryAfter now spread).1.StopsIn P := by
  unfold LegacyAuth.applyFailure
  cases kind with
  | consumedWithoutSuccessor => exact StopsIn.setStop rule.signInUnusable _
  | unknown => exact StopsIn.setStop rule.signInUnknown _
  | dead => exact StopsIn.setStop rule.signInRejected _
  | refused => exact StopsIn.setStop (rule.refused .ownerApi) _
  | clientRefused =>
    simp only [if_true]
    split_ifs
    · exact StopsIn.setStop (rule.refused .client) _
    · exact h
  | requestRejected | misrouted | blocked | transient | notRenewed | notSent | rotated
  | notRotated => exact h

theorem StopsIn.applyResult (rule : StopRule P) (h : auth.StopsIn P)
    (result : ExchangeResult) (spread : Option ℚ) :
    (auth.applyResult result spread).1.StopsIn P := by
  have hnoted : (auth.noted result).StopsIn P := by
    unfold noted
    split
    · exact h
    · exact h
  unfold LegacyAuth.applyResult
  cases result.kind with
  | notSent | aborted | external | pending => exact hnoted
  | rowChanged failure =>
    cases failure with
    | externalWrite | ownOutput | store => exact hnoted
    | unresolved => exact StopsIn.setStop rule.outcomeUnknown _
  | persisted successor => exact hnoted.applyPersisted successor _ spread
  | failed kind error status retryAfter =>
    exact hnoted.applyFailure rule kind error status retryAfter _ spread

end LegacyAuth

structure StopFrame (P : AuthStop → Prop) (m next : LegacyAuthManager) : Prop where
  stops : m.auth.StopsIn P → next.auth.StopsIn P
  handoff : next.fuseHandoff = m.fuseHandoff

namespace StopFrame

variable {P : AuthStop → Prop}

theorem refl (m : LegacyAuthManager) : StopFrame P m m := ⟨id, rfl⟩

theorem trans {a b c : LegacyAuthManager} (hab : StopFrame P a b) (hbc : StopFrame P b c) :
    StopFrame P a c := ⟨fun h => hbc.stops (hab.stops h), hbc.handoff.trans hab.handoff⟩

theorem adoptStoredPair (rule : StopRule P) (m : LegacyAuthManager) (external : Bool) (now : ℤ)
    (adoption : Adoption) : StopFrame P m (m.adoptStoredPair external now adoption).1 := by
  unfold LegacyAuthManager.adoptStoredPair
  cases adoption with
  | failed => exact refl m
  | loaded generation pair =>
    cases external with
    | false => exact ⟨id, rfl⟩
    | true =>
      -- what remains of a stop is the stop that was there
      refine ⟨fun h stop hstop => ?_, rfl⟩
      obtain ⟨hstop, -⟩ := Option.filter_eq_some_iff.mp hstop
      exact h stop hstop
  | misconfigured generation reason =>
    dsimp only
    split
    · exact ⟨fun _ _ hstop => (nomatch hstop), rfl⟩
    · exact ⟨id, rfl⟩
  | invalid generation => exact ⟨fun _ => LegacyAuth.StopsIn.setStop rule.pairInvalid _, rfl⟩

theorem adoptIfStoredPairChanged (rule : StopRule P) (m : LegacyAuthManager) (now : ℤ)
    (store : StoreAnswers) : StopFrame P m (m.adoptIfStoredPairChanged now store).1 := by
  unfold LegacyAuthManager.adoptIfStoredPairChanged
  split
  · exact adoptStoredPair rule m true now store.adoption
  · exact adoptStoredPair rule m false now store.adoption
  all_goals exact refl m

theorem takeResult (rule : StopRule P) (m : LegacyAuthManager) (now : ℤ) (store : StoreAnswers) :
    StopFrame P m (m.takeResult now store) := by
  unfold LegacyAuthManager.takeResult
  split
  · rename_i result _
    unfold applyFlightResult
    have happlied : StopFrame P m
        { m with flight := .idle, auth := (m.auth.applyResult result store.spread).1 } :=
      ⟨fun h => h.applyResult rule result store.spread, rfl⟩
    dsimp only
    split
    · split
      · exact happlied.trans ⟨id, rfl⟩
      · exact happlied
    · rename_i external _
      have hadopted := happlied.trans (adoptStoredPair rule _ external now store.adoption)
      split
      · exact hadopted
      · exact hadopted.trans ⟨id, rfl⟩
  all_goals exact refl m

theorem settle (rule : StopRule P) (m : LegacyAuthManager) (now : ℤ) (store : StoreAnswers) :
    StopFrame P m (m.settle now store) := by
  have hclose (n : LegacyAuthManager) : StopFrame P n (n.retryPendingClose now store) := by
    unfold retryPendingClose
    split
    · split
      · exact ⟨id, rfl⟩
      · exact ⟨id, rfl⟩
    · exact refl n
  have hsuccessor (n : LegacyAuthManager) : StopFrame P n (n.retryPendingSuccessor now store) := by
    unfold retryPendingSuccessor
    split
    · exact refl n
    rename_i successor _
    split
    · split
      · exact ⟨fun h => h.applyPersisted successor now store.spread, rfl⟩
      · exact ⟨id, rfl⟩
      · have hdropped : StopFrame P n { n with auth := { n.auth with pendingSuccessor := none } } :=
          ⟨id, rfl⟩
        exact hdropped.trans (adoptStoredPair rule _ true now store.adoption)
    · exact refl n
  have hstop (n : LegacyAuthManager) : StopFrame P n { n with auth := n.auth.settleStop now } :=
    ⟨fun h => h.settleStop rule now, rfl⟩
  exact (((takeResult rule m now store).trans (hclose _)).trans (hsuccessor _)).trans (hstop _)

theorem adoptChanged (rule : StopRule P) (m : LegacyAuthManager) (now : ℤ) (store : StoreAnswers) :
    StopFrame P m (if (m.adoptIfStoredPairChanged now store).2 then
      (m.adoptIfStoredPairChanged now store).1.settle now store else (m.adoptIfStoredPairChanged
        now store).1) := by
  have hadopted := adoptIfStoredPairChanged rule m now store
  split
  · exact hadopted.trans (settle rule _ now store)
  · exact hadopted

theorem recheckStopped (rule : StopRule P) (m : LegacyAuthManager) (now : ℤ)
    (store : StoreAnswers) : StopFrame P m (m.recheckStopped now store) := by
  unfold LegacyAuthManager.recheckStopped
  split
  · have hchecked : StopFrame P m { m with lastStoredCheck := now } := ⟨id, rfl⟩
    exact hchecked.trans (adoptChanged rule _ now store)
  · exact refl m

theorem startExchange (m : LegacyAuthManager) (now : ℤ) (pinnedIssuer : Option (List Char)) :
    StopFrame P m (m.startExchange now pinnedIssuer) := by
  unfold LegacyAuthManager.startExchange
  split
  · dsimp only
    split
    · exact ⟨id, rfl⟩
    · exact ⟨id, rfl⟩
  all_goals exact refl m

theorem refresh (rule : StopRule P) (m : LegacyAuthManager) (now : ℤ) (forced : Bool) (later : ℤ)
    (first second : StoreAnswers) (pinnedIssuer : Option (List Char)) :
    StopFrame P m (m.refresh now forced later first second pinnedIssuer) := by
  have hbegun : StopFrame P m { m with adopted := false } := ⟨id, rfl⟩
  have hsettled := hbegun.trans (settle rule _ now first)
  unfold LegacyAuthManager.refresh
  generalize LegacyAuthManager.settle { m with adopted := false } now first = n at hsettled ⊢
  dsimp only
  split
  · exact hsettled
  split
  · unfold recheckWaitingObserver
    split
    · have hchecked : StopFrame P n { n with lastStoredCheck := now } := ⟨id, rfl⟩
      exact (hsettled.trans hchecked).trans (adoptChanged rule _ now second)
    · exact hsettled
  split
  · exact hsettled
  split
  · rename_i time _
    unfold refreshPermitted
    have hadopted := hsettled.trans (adoptIfStoredPairChanged rule n time second)
    dsimp only
    split
    · exact hsettled
    split
    · exact hadopted.trans (settle rule _ time second)
    split
    · exact hadopted
    · exact hadopted.trans (startExchange _ time pinnedIssuer)
  · rename_i time _
    exact hsettled.trans (recheckStopped rule n time second)
  · exact hsettled

theorem ownerRetry (rule : StopRule P) (m : LegacyAuthManager) (now : ℤ) (unresolved : Bool) :
    StopFrame P m (m.ownerRetry now unresolved) := by
  unfold LegacyAuthManager.ownerRetry
  dsimp only
  split
  · split
    · exact ⟨fun _ => LegacyAuth.StopsIn.setStop rule.outcomeUnknown _, rfl⟩
    · exact ⟨fun _ _ hstop => (nomatch hstop), rfl⟩
  · exact ⟨fun h => h.settleStop rule now, rfl⟩

end StopFrame

namespace CredentialUnit

theorem syncFuse_stop (u : CredentialUnit) : u.syncFuse.auth.stop = u.auth.stop := by
  unfold syncFuse
  dsimp only
  split_ifs <;> split <;> rfl

theorem syncFuse_handoff (u : CredentialUnit) : u.syncFuse.manager.fuseHandoff = none := by
  unfold syncFuse
  dsimp only
  split_ifs <;> split <;> first | rfl | assumption

variable {P : AuthStop → Prop}

theorem exchangeStep_frame [TokenClaims] (u : CredentialUnit) (action : UnitAction) :
    ∃ flight sent,
      u.exchangeStep action = { u with manager := { u.manager with flight }, sent } := by
  unfold exchangeStep
  split
  case h_4 =>
    split
    · exact ⟨_, _, rfl⟩
    · exact ⟨_, _, rfl⟩
  all_goals exact ⟨_, _, rfl⟩

section

variable {u : CredentialUnit} (h : u.auth.StopsIn P)
include h

theorem syncFuse_stopsIn : u.syncFuse.auth.StopsIn P := by
  intro stop hstop
  rw [syncFuse_stop] at hstop
  exact h stop hstop

theorem noteSuccess_stopsIn (scope : RequestScope) (carried : Carried) :
    (u.noteSuccess scope carried).auth.StopsIn P := by
  unfold noteSuccess
  split
  · exact syncFuse_stopsIn (u := { u with fuse := _, evidence := _ }) h
  · exact syncFuse_stopsIn h

theorem confirmationRead_stopsIn (carried : Carried) (read : ReadAnswer) (later : ℤ) :
    (u.confirmationRead carried read later).1.auth.StopsIn P := by
  unfold confirmationRead
  split
  · exact h
  rename_i fuse _
  split
  · exact h
  split
  · exact noteSuccess_stopsIn (u := { u with fuse, now := later }) h _ _
  · exact syncFuse_stopsIn (u := { u with fuse, now := later }) h

theorem judged_stopsIn (generation : Uuid) (decision : LegacyAuthFuse × RejectionAction) :
    (u.judged generation decision).auth.StopsIn P :=
  syncFuse_stopsIn (u := { u with fuse := _, evidence := _ }) h

variable (hsigned : ∀ reason, P (.signedOut reason))
include hsigned

theorem carryOut_stopsIn (action : RejectionAction) : (u.carryOut action).auth.StopsIn P := by
  cases action with
  | stop reason =>
    have hstopped := LegacyAuth.StopsIn.setStop (hsigned reason) u.auth
    exact syncFuse_stopsIn (u := u.stopAccount reason) hstopped
  | observerWait => exact syncFuse_stopsIn (u := { u with manager := _ }) h
  | retryWithCurrent | notCounted | coalesced | vehicleRejected | confirm | forceRefreshThenRetry
  | pauseThenRefresh | pauseThenConfirm => exact h

theorem handleUnauthorised_stopsIn [TokenClaims] (scope : RequestScope) (carried : Carried)
    (read : ReadAnswer) (later : ℤ) :
    (u.handleUnauthorised scope carried read later).auth.StopsIn P := by
  unfold handleUnauthorised
  generalize (if u.isCurrent carried then
    u.fuse.recordRejection u.now (u.rejectionContext scope carried.generation)
    else (u.fuse, .retryWithCurrent)) = decision
  have hjudged := judged_stopsIn h carried.generation decision
  have hread := confirmationRead_stopsIn hjudged carried read later
  dsimp only
  split
  · split
    · rename_i found hfind
      rw [hfind] at hread
      split
      · exact syncFuse_stopsIn (u := { found with fuse := _ }) hread
      · exact syncFuse_stopsIn hread
    · rename_i found hfind
      rw [hfind] at hread
      exact carryOut_stopsIn (judged_stopsIn hread _ _) hsigned _
    · rename_i found _ _ _ hfind
      rw [hfind] at hread
      exact hread
  · exact carryOut_stopsIn hjudged hsigned _

theorem confirmStreamRejection_stopsIn [TokenClaims] (read : ReadAnswer) (later : ℤ) :
    (u.confirmStreamRejection read later).auth.StopsIn P := by
  unfold confirmStreamRejection
  have hsynced := syncFuse_stopsIn h
  have hread := confirmationRead_stopsIn hsynced u.syncFuse.carried read later
  dsimp only
  split
  · exact hsynced
  split
  · rename_i found hfind
    rw [hfind] at hread
    exact hread
  · rename_i found hfind
    rw [hfind] at hread
    exact carryOut_stopsIn (judged_stopsIn hread _ _) hsigned _
  · rename_i found _ _ _ hfind
    rw [hfind] at hread
    exact hread

/-- A rule for stops that also allows every sign-out holds after any action of the unit. -/
theorem step_stopsIn [TokenClaims] (rule : StopRule P) (action : UnitAction) :
    (u.step action).auth.StopsIn P := by
  cases action with
  | clock | dated | shutdown => exact h
  | sync => exact syncFuse_stopsIn h
  | service store => exact (StopFrame.settle rule u.manager u.now store).stops h
  | refresh forced later first second pinnedIssuer =>
    exact (StopFrame.refresh rule u.manager u.now forced later first second pinnedIssuer).stops h
  | recheck store =>
    change LegacyAuth.StopsIn P (CredentialUnit.auth (if u.manager.stopView u.now then
      { u with manager := u.manager.recheckStopped u.now store } else u))
    split
    · exact (StopFrame.recheckStopped rule u.manager u.now store).stops h
    · exact h
  | unauthorised scope carried read later =>
    exact handleUnauthorised_stopsIn h hsigned scope carried read later
  | streamRejected read later => exact confirmStreamRejection_stopsIn h hsigned read later
  | succeeded scope carried => exact noteSuccess_stopsIn h scope carried
  | ownerRetry unresolved => exact (StopFrame.ownerRetry rule u.manager u.now unresolved).stops h
  | begin | cancel | send | answer | panic =>
    obtain ⟨flight, sent, hstep⟩ := u.exchangeStep_frame _
    change LegacyAuth.StopsIn P (u.exchangeStep _).auth
    rw [hstep]
    exact h

end

/-- Every place that sets a stop gives it a reason of its own state. -/
theorem admitted_rule : StopRule fun stop => stop.admitted = true := by
  constructor
  case refused => exact fun _ => rfl
  case expires => exact fun _ _ => rfl
  all_goals rfl

/-- Every stop a unit comes to, from what its start restored on, stands in the table of stop
reasons. So the status shown under it is consistent, and where a status does not collect no token is
handed out. -/
theorem shown_status_agrees_with_the_token [TokenClaims] {inputs : StartInputs}
    {facts : StartFacts} {restored : RestoredAuth}
    (hstart : restoreFromFacts inputs facts = .ok restored) {u : CredentialUnit}
    (hrestored : u.auth.stop = restored.status.stop) (actions : List UnitAction)
    (auth : LegacyAuth) (hstop : auth.stop = (actions.foldl CredentialUnit.step u).auth.stop)
    (now : ℤ) (generation : Uuid) (mode : StoppedMode) (inFlight : Bool) (fuse : FuseSnapshot)
    (holder : HolderKind) :
    (fuse.isConsistent = true →
      (auth.deriveFullStatus now generation mode inFlight fuse holder).isConsistent = true) ∧
    ((auth.deriveFullStatus now generation mode inFlight fuse holder).collecting = false →
      ∃ error, auth.tokenAvailable now = .error error) := by
  have hbegun : u.auth.StopsIn fun stop => stop.admitted = true := fun stop hs =>
    AuthStatus.admitted_of_stop (restoreFromFacts_isConsistent hstart) (hrestored.symm.trans hs)
  have hreached := List.foldlRecOn (motive := fun u : CredentialUnit => u.auth.StopsIn fun stop =>
      stop.admitted = true)
    actions CredentialUnit.step hbegun fun u h action _ => step_stopsIn h (fun _ => rfl)
      admitted_rule action
  refine ⟨fun hfuse => ?_, LegacyAuth.tokenAvailable_of_not_collecting⟩
  exact LegacyAuth.deriveFullStatus_isConsistent now generation mode inFlight holder hfuse
    fun stop hs => hreached stop (hstop.symm.trans hs)

def tokenDies : List UnitAction :=
  [.refresh true validNow {} {} none, .begin (.ok 7), .send,
    .answer { exchange := .answer {
      status := 401, body := .complete none (some .invalidGrant) false } }, .service {}]

/-- A refresh token that the provider calls dead. Past the end of its access token the account is
signed out. -/
theorem shown_status_agrees_with_the_token_tokenDies :
    let auth := LegacyAuth.inUse (some (validNow+9)) (some (.signInRequired .refreshTokenRejected))
    auth.stop = (tokenDies.foldl (@CredentialUnit.step opaqueTokens) (managedUnit 1)).auth.stop ∧
      (auth.deriveFullStatus validNow 1 .legacy false {} .managed).isConsistent = true ∧
      (auth.deriveFullStatus (validNow+9) 1 .legacy false {} .managed).collecting = false ∧
      ∃ error, auth.tokenAvailable (validNow+9) = .error error := by
  have hreached : (tokenDies.foldl (@CredentialUnit.step opaqueTokens) (managedUnit 1)).auth.stop =
      some (.signInRequired .refreshTokenRejected) := by decide +kernel
  have hstart : restoreFromFacts (startWith validNow (.loaded 1 none)) ⟨false, none, false, none⟩ =
      .ok ⟨AuthStatus.ready {} false, true, 0, false⟩ := rfl
  have hagrees := @shown_status_agrees_with_the_token opaqueTokens _ _ _ hstart (managedUnit 1) rfl
      tokenDies
    (LegacyAuth.inUse (some (validNow+9)) (some (.signInRequired .refreshTokenRejected)))
      hreached.symm
  exact ⟨hreached.symm, (hagrees validNow 1 .legacy false {} .managed).1 rfl, by decide +kernel,
    (hagrees (validNow+9) 1 .legacy false {} .managed).2 (by decide +kernel)⟩

end CredentialUnit

end TeslatlasHub.Credentials
