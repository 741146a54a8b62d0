import TeslatlasHub.LegacyPacing

namespace TeslatlasHub.Credentials

open LegacyAuthManager CredentialUnit FixedWidth

/-! ### What an answer says about the pace -/

theorem classifyErrorAnswer_fails (status : ℕ) (code : Option TokenErrorCode)
    (namesFleetApi : Bool) : (classifyErrorAnswer status code namesFleetApi).kind.fails := by
  unfold classifyErrorAnswer
  split_ifs <;> rfl

variable {access refresh : List Char} {pinnedIssuer : Option (List Char)} {failed : FailedAnswer}

theorem acceptTokens_fails [TokenReading] {body : AnswerBody}
    (h : acceptTokens body access refresh pinnedIssuer = .error failed) : failed.kind.fails := by
  unfold acceptTokens at h
  dsimp only at h
  split at h
  · cases h
    rfl
  · cases h
    rfl
  · split at h
    · split at h
      · cases h
        rfl
      · cases h
    · cases h
      rfl

theorem classifyAnswer_fails [TokenReading] {answer : RawAnswer}
    (h : classifyAnswer answer access refresh pinnedIssuer = .error failed) :
    failed.kind.fails := by
  unfold classifyAnswer at h
  split at h
  · exact acceptTokens_fails h
  split at h
  · cases h
    exact classifyErrorAnswer_fails _ _ _
  · cases h
    exact classifyErrorAnswer_fails _ _ _

/-- Whatever the answer, the result keeps the requests paced. -/
theorem runAnswer_paced [TokenClaims] (attempt : Attempt) (input : ExchangeInput) {t sentAt now : ℤ}
    (hsent : t ≤ sentAt) (hnow : t ≤ now) (answer : ExchangeAnswer) :
    ResultPaced t now (runAnswer attempt input sentAt now answer) := by
  unfold runAnswer
  dsimp only
  split
  · exact .inr hnow
  · exact .inr hnow
  · exact .inr ⟨hnow, rfl⟩
  · split
    · rename_i failed hfailed
      exact .inr ⟨hnow, classifyAnswer_fails hfailed⟩
    · split
      · exact .inr ⟨hnow, rfl⟩
      · split
        · exact .inr ⟨hnow, rfl⟩
        · split
          · exact .inr ⟨hnow, rfl⟩
          · split
            · exact .inr hsent
            · exact .inr hsent
            · rename_i hexternal
              exact (nomatch persistStep_external hexternal)

structure PaceFrame (u next : CredentialUnit) : Prop where
  sent : next.sent = u.sent
  now : u.now ≤ next.now
  view : next.manager.view = u.manager.view ∨
    ∃ stop retryAt, next.manager.view = { u.manager.view with stop := some stop, retryAt }

theorem PaceFrame.refl (u : CredentialUnit) : PaceFrame u u := ⟨rfl, le_rfl, .inl rfl⟩

theorem PaceFrame.trans {a b c : CredentialUnit} (hab : PaceFrame a b) (hbc : PaceFrame b c) :
    PaceFrame a c := by
  refine ⟨hbc.sent.trans hab.sent, hab.now.trans hbc.now, ?_⟩
  obtain hb | ⟨stop, retryAt, hb⟩ := hab.view
  · rw [← hb]
    exact hbc.view
  · refine .inr ?_
    obtain hc | ⟨stop', retryAt', hc⟩ := hbc.view
    · exact ⟨stop, retryAt, hc.trans hb⟩
    · refine ⟨stop', retryAt', ?_⟩
      rw [hc, hb]

namespace CredentialUnit

variable (u : CredentialUnit)

theorem syncFuse_same :
    u.syncFuse.sent = u.sent ∧ u.syncFuse.now = u.now ∧ u.syncFuse.manager.view =
    u.manager.view := by
  unfold syncFuse
  dsimp only
  split_ifs <;> split <;> exact ⟨rfl, rfl, rfl⟩

theorem syncFuse_frame : PaceFrame u u.syncFuse := by
  obtain ⟨hsent, hnow, hview⟩ := u.syncFuse_same
  exact ⟨hsent, hnow.ge, .inl hview⟩

theorem judged_frame (generation : Uuid) (decision : LegacyAuthFuse × RejectionAction) :
    PaceFrame u (u.judged generation decision) := by
  have hnoted : PaceFrame u
      { u with
        fuse := decision.1
        evidence := if decision.2.counts then .counted generation u.now decision.2 ::
          u.evidence else u.evidence } :=
    ⟨rfl, le_rfl, .inl rfl⟩
  exact hnoted.trans (syncFuse_frame _)

theorem judged_now (generation : Uuid) (decision : LegacyAuthFuse × RejectionAction) :
    (u.judged generation decision).now = u.now := (syncFuse_same _).2.1

theorem carryOut_frame (action : RejectionAction) : PaceFrame u (u.carryOut action) := by
  cases action with
  | stop reason =>
    have hstopped : PaceFrame u (u.stopAccount reason) :=
      ⟨rfl, le_rfl, .inr ⟨.signedOut reason, none, rfl⟩⟩
    exact hstopped.trans (syncFuse_frame _)
  | observerWait =>
    have hwaits : PaceFrame u { u with manager := { u.manager with
        auth := { u.auth with observerRejected := true }, lastStoredCheck := u.now } } :=
      ⟨rfl, le_rfl, .inl rfl⟩
    exact hwaits.trans (syncFuse_frame _)
  | retryWithCurrent | notCounted | coalesced | vehicleRejected | confirm | forceRefreshThenRetry
  | pauseThenRefresh | pauseThenConfirm => exact PaceFrame.refl u

theorem noteSuccess_frame (scope : RequestScope) (carried : Carried) :
    PaceFrame u (u.noteSuccess scope carried) := by
  unfold noteSuccess
  split
  · have hcleared : PaceFrame u
        { u with fuse := u.fuse.recordSuccess scope, evidence := .cleared :: u.evidence } :=
      ⟨rfl, le_rfl, .inl rfl⟩
    exact hcleared.trans (syncFuse_frame _)
  · exact syncFuse_frame u

theorem withFuse_frame (fuse : LegacyAuthFuse) : PaceFrame u { u with fuse } :=
  ⟨rfl, le_rfl, .inl rfl⟩

theorem confirmationRead_frame {u : CredentialUnit} {later : ℤ} (hlater : u.now ≤ later)
    (carried : Carried) (read : ReadAnswer) :
    PaceFrame u (u.confirmationRead carried read later).1 := by
  unfold confirmationRead
  split
  · exact PaceFrame.refl u
  rename_i fuse _
  split
  · exact withFuse_frame u _
  · have hanswered : PaceFrame u { u with fuse, now := later } := ⟨rfl, hlater, .inl rfl⟩
    split
    · exact (hanswered.trans (noteSuccess_frame _ _ _)).trans (withFuse_frame _ _)
    · exact (hanswered.trans (syncFuse_frame _)).trans (withFuse_frame _ _)

theorem countConfirmed_frame [TokenClaims] (u : CredentialUnit) (carried : Carried) :
    PaceFrame u (u.countConfirmed carried) := (judged_frame u _ _).trans (carryOut_frame _ _)

theorem handleUnauthorised_frame [TokenClaims] {u : CredentialUnit} {later : ℤ}
    (hlater : u.now ≤ later) (scope : RequestScope) (carried : Carried) (read : ReadAnswer) :
    PaceFrame u (u.handleUnauthorised scope carried read later) := by
  unfold handleUnauthorised
  generalize (if u.isCurrent carried then
    u.fuse.recordRejection u.now (u.rejectionContext scope carried.generation)
    else (u.fuse, .retryWithCurrent)) = decision
  have hjudged := judged_frame u carried.generation decision
  have hread := confirmationRead_frame ((judged_now u carried.generation decision).trans_le hlater)
      carried read
  have hfound := hjudged.trans hread
  dsimp only
  split
  · split
    · rename_i found hfind
      rw [hfind] at hfound
      split
      · exact (hfound.trans (withFuse_frame _ _)).trans (syncFuse_frame _)
      · exact hfound.trans (syncFuse_frame _)
    · rename_i found hfind
      rw [hfind] at hfound
      exact hfound.trans (countConfirmed_frame _ _)
    · rename_i found _ _ _ hfind
      rw [hfind] at hfound
      exact hfound
  · exact hjudged.trans (carryOut_frame _ _)

theorem confirmStreamRejection_frame [TokenClaims] {u : CredentialUnit} {later : ℤ}
    (hlater : u.now ≤ later) (read : ReadAnswer) :
    PaceFrame u (u.confirmStreamRejection read later) := by
  unfold confirmStreamRejection
  have hsynced := u.syncFuse_frame
  have hread := confirmationRead_frame (u.syncFuse_same.2.1.trans_le hlater) u.syncFuse.carried read
  have hfound := hsynced.trans hread
  dsimp only
  split
  · exact hsynced
  split
  · rename_i found hfind
    rw [hfind] at hfound
    exact hfound.trans (withFuse_frame _ _)
  · rename_i found hfind
    rw [hfind] at hfound
    exact hfound.trans (countConfirmed_frame _ _)
  · rename_i found _ _ _ hfind
    rw [hfind] at hfound
    exact hfound

structure RequestsPaced (u : CredentialUnit) : Prop where
  spaced : u.sent.IsChain fun later earlier => earlier+minRefreshIntervalSeconds ≤ later
  recent : ∀ t, u.sent.head? = some t → t ≤ u.now
  paced : Paced u.sent.head? u.now u.manager.view

theorem RequestsPaced.frame {u next : CredentialUnit} (h : u.RequestsPaced)
    (hframe : PaceFrame u next) : next.RequestsPaced := by
  refine ⟨?_, fun t ht => ?_, ?_⟩
  · rw [hframe.sent]
    exact h.spaced
  · rw [hframe.sent] at ht
    exact (h.recent t ht).trans hframe.now
  · rw [hframe.sent]
    obtain hview | ⟨stop, retryAt, hview⟩ := hframe.view
    · rw [hview]
      exact h.paced.mono hframe.now
    · rw [hview]
      exact (h.paced.mono hframe.now).stopped rfl rfl rfl fun _ => id

theorem RequestsPaced.managed {u : CredentialUnit} (h : u.RequestsPaced)
    {manager : LegacyAuthManager} {later : ℤ} (hlater : u.now ≤ later)
    (hpaced : Paced u.sent.head? later manager.view) :
    RequestsPaced { u with now := later, manager } :=
  ⟨h.spaced, fun t ht => (h.recent t ht).trans hlater, hpaced⟩

variable {input : ExchangeInput} {phase : ExchangePhase}

theorem RequestsPaced.advance {u : CredentialUnit} (h : u.RequestsPaced)
    (hrunning : u.manager.flight = .running input phase) {flight : Flight}
    (hpaced : ∀ t, u.sent.head? = some t → FlightPaced t u.now { u.manager.view with flight }) :
    RequestsPaced { u with manager := { u.manager with flight } } := by
  refine ⟨h.spaced, h.recent, h.paced.advance ?_ hpaced⟩
  rw [show u.manager.view.flight = .running input phase from hrunning]
  exact fun hc => (nomatch hc)

theorem RequestsPaced.running {u : CredentialUnit} (h : u.RequestsPaced)
    (hrunning : u.manager.flight = .running input phase) {t : ℤ}
    (ht : u.sent.head? = some t) : match phase with
      | .reserving | .reserved _ => t+minRefreshIntervalSeconds ≤ u.now
      | .sent _ sentAt => t ≤ sentAt := by
  have hpaced := h.paced.flight t ht
  unfold FlightPaced at hpaced
  rw [show u.manager.view.flight = .running input phase from hrunning] at hpaced
  cases phase with
  | reserving | reserved | sent => exact hpaced

/-- The steps of an exchange keep the requests paced. -/
theorem exchangeStep_paced [TokenClaims] {u : CredentialUnit} (h : u.RequestsPaced)
    (action : UnitAction) : (u.exchangeStep action).RequestsPaced := by
  unfold exchangeStep
  split
  · rename_i hflight
    exact h.advance hflight fun t ht => h.running hflight ht
  · rename_i hflight
    exact h.advance hflight fun t ht => .inl (h.running hflight ht)
  · rename_i hflight
    exact h.advance hflight fun t ht => .inl (h.running hflight ht)
  · -- the request is sent: its time is that of the last one from here on
    rename_i input attempt hflight
    split
    · exact h
    refine ⟨List.isChain_cons.mpr ⟨fun t ht => h.running hflight ht, h.spaced⟩, fun t ht => ?_, ?_⟩
    · cases ht
      exact le_rfl
    · refine h.paced.advance ?_ fun t ht => ?_
      · rw [show u.manager.view.flight = _ from hflight]
        exact fun hc => (nomatch hc)
      · cases ht
        exact le_rfl
  · rename_i hflight
    refine h.advance hflight fun t ht => ?_
    exact runAnswer_paced _ _ (h.running hflight ht) (h.recent t ht) _
  · rename_i hflight
    exact h.advance hflight fun t ht => .inr ⟨h.recent t ht, rfl⟩
  · exact h

end CredentialUnit

/-- The clock does not go back, no other writer's pair is adopted, and the owner asks for no retry.
-/
def UnitAction.keepsPace (u : CredentialUnit) : UnitAction → Prop
  | .clock now => u.now ≤ now
  | .service store | .recheck store => store.Own
  | .refresh _ later first second _ => u.now ≤ later ∧ first.Own ∧ second.Own
  | .unauthorised _ _ _ later | .streamRejected _ later => u.now ≤ later
  | .ownerRetry _ => False
  | .dated _ | .sync | .begin _ | .cancel .. | .send | .answer _ | .panic | .succeeded ..
  | .shutdown => True

instance (u : CredentialUnit) : (action : UnitAction) → Decidable (action.keepsPace u)
  | .clock now => inferInstanceAs (Decidable (u.now ≤ now))
  | .service store | .recheck store => inferInstanceAs (Decidable store.Own)
  | .refresh _ later first second _ =>
    inferInstanceAs (Decidable (u.now ≤ later ∧ first.Own ∧ second.Own))
  | .unauthorised _ _ _ later | .streamRejected _ later =>
    inferInstanceAs (Decidable (u.now ≤ later))
  | .ownerRetry _ => inferInstanceAs (Decidable False)
  | .dated _ | .sync | .begin _ | .cancel .. | .send | .answer _ | .panic | .succeeded
      .. | .shutdown =>
    inferInstanceAs (Decidable True)

/-- A refresh is asked for before the last second a clock can show, where every later time
saturates. -/
def UnitAction.inTime : UnitAction → Bool
  | .refresh _ later .. => later < i64Max
  | _ => true

namespace CredentialUnit

/-- Every action of the unit keeps its requests paced. -/
theorem RequestsPaced.step [TokenClaims] {u : CredentialUnit} (h : u.RequestsPaced)
    {action : UnitAction} (htime : action.inTime) (hkeeps : action.keepsPace u) :
    (u.step action).RequestsPaced := by
  cases action with
  | clock now => exact h.managed hkeeps (h.paced.mono hkeeps)
  | dated serverDate => exact h.frame ⟨rfl, le_rfl, .inl rfl⟩
  | sync => exact h.frame u.syncFuse_frame
  | service store => exact h.managed le_rfl (settle_paced h.paced u.now hkeeps.2)
  | refresh forced later first second pinnedIssuer =>
    obtain ⟨hlater, hfirst, hsecond⟩ := hkeeps
    exact h.managed hlater
      (refresh_paced h.paced hlater (of_decide_eq_true htime) forced hfirst hsecond pinnedIssuer)
  | recheck store =>
    change RequestsPaced (if u.manager.stopView u.now then
      { u with manager := u.manager.recheckStopped u.now store } else u)
    split_ifs with hview
    · refine h.managed le_rfl (recheckStopped_paced h.paced ?_ u.now hkeeps)
      exact keeps_of_stopView h.paced hview
    · exact h
  | unauthorised scope carried read later =>
    exact h.frame (handleUnauthorised_frame hkeeps scope carried read)
  | streamRejected read later => exact h.frame (confirmStreamRejection_frame hkeeps read)
  | succeeded scope carried => exact h.frame (noteSuccess_frame u scope carried)
  | ownerRetry unresolved => exact hkeeps.elim
  | shutdown => exact h.frame ⟨rfl, le_rfl, .inl rfl⟩
  | begin | cancel | send | answer | panic => exact exchangeStep_paced h _

/-- In one process, while the clock does not go back, no other writer's pair is adopted and the
owner asks for no retry, token requests before the last second of the clock start a minute or more
apart. -/
theorem token_requests_start_a_minute_apart [TokenClaims] {u : CredentialUnit}
    (hidle : u.manager.flight = .idle) (hsent : u.sent = []) {actions : List UnitAction}
    (htime : ∀ action ∈ actions, action.inTime = true)
    (hkeeps : RunRules.Along CredentialUnit.step (fun u action => action.keepsPace u) u actions) :
    (actions.foldl CredentialUnit.step u).sent.IsChain
        (fun later earlier => earlier+minRefreshIntervalSeconds ≤ later) ∧
      ∀ now inFlight, (actions.foldl CredentialUnit.step u).auth.gate now inFlight = none →
        (actions.foldl CredentialUnit.step u).auth.stop = none ∧
        (actions.foldl CredentialUnit.step u).auth.pendingSuccessor = none ∧
        (actions.foldl CredentialUnit.step u).auth.pendingClose = none := by
  have hstart : u.RequestsPaced := by
    refine ⟨?_, fun t ht => ?_, Paced.of_rested hidle (fun t ht => ?_) fun _ => ?_⟩
    · rw [hsent]
      exact List.isChain_nil
    all_goals rw [hsent] at *
    · cases ht
    · cases ht
    · rfl
  have hreached := RunRules.foldl_invariant (I := RequestsPaced) (fun _ _ h hk => h.step hk.1 hk.2)
      hstart
    (RunRules.Along.of_forall htime hkeeps)
  refine ⟨hreached.spaced, fun now inFlight hgate => ?_⟩
  obtain ⟨-, hpending, hclose, hstop, -, -⟩ := LegacyAuth.gate_eq_none hgate
  exact ⟨LegacyAuth.stop_of_effectiveStop hstop, hpending, hclose⟩

def twoRequests : List UnitAction :=
  [.refresh true validNow {} {} none, .begin (.ok 7), .send,
    .answer { exchange := .answer { status := 500, body := .tooLarge } }, .clock (validNow+3600),
    .refresh false (validNow+3600) {} {} none, .begin (.ok 8), .send]

theorem token_requests_start_a_minute_apart_twoRequests :
    (twoRequests.foldl (@CredentialUnit.step opaqueTokens) (managedUnit 1)).sent = [validNow+3600,
    validNow] ∧ (twoRequests.foldl (@CredentialUnit.step opaqueTokens) (managedUnit 1)).sent.IsChain
    (fun later earlier => earlier+minRefreshIntervalSeconds ≤ later) :=
  ⟨by decide +kernel, (@token_requests_start_a_minute_apart opaqueTokens (managedUnit 1) rfl rfl
    twoRequests
    (by decide +kernel) (by decide +kernel)).1⟩

def lastSeconds : List UnitAction :=
  [.clock (i64Max-10), .refresh true (i64Max-10) {} {} none, .begin (.ok 7), .send,
    .answer { exchange := .answer { status := 500, body := .tooLarge } }, .clock i64Max,
    .refresh false i64Max {} {} none, .begin (.ok 8), .send]

/-- At the end of `i64` the retry time saturates, and the gate opens ten seconds after the first
request. -/
theorem requests_of_the_last_seconds_are_close :
    RunRules.Along (@CredentialUnit.step opaqueTokens) (fun u action => action.keepsPace u)
    (managedUnit 1) lastSeconds ∧ (lastSeconds.foldl (@CredentialUnit.step opaqueTokens)
    (managedUnit 1)).sent = [i64Max, i64Max-10] := by
  decide +kernel

end CredentialUnit

end TeslatlasHub.Credentials
