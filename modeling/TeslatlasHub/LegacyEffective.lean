import TeslatlasHub.LegacyRestartRuns

/-! The status a reader without a manager derives from the stored row and the current pair. -/
namespace TeslatlasHub.Credentials

open AuthStatus StartInputs StoppedMode

structure EffectiveAuth where
  row : CollectorAuthRow
  usableUntil : Option ℤ

inductive EffectiveAuthError where
  | store (error : StoreError)
  | key
  | cipher

def EffectiveAuth.ofLoaded (row : CollectorAuthRow) (status : AuthStatus) (generation : Uuid)
    (usableUntil : Option ℤ) (nowMs : ℤ) : EffectiveAuth :=
  if (row.state = "sign_in_required" ∨ row.state = "signed_out") ∧ status.stoppedGeneration ≠
    some generation then
    -- R44a: an external write with another generation lifts a credential stop, in the view only
    ⟨(AuthStatus.ready {} status.clockSkew).toRow, none⟩
  else
    let now := nowMs/1000
    if !clockIsValid now then ⟨(status.withUsability false).toRow, none⟩
    else
      let usable := usableUntil.all fun u => decide (now < u)
      let status :=
        if row.state = "sign_in_required" then
          if usable then status.withUsability true else status.withSignInExpired
        else status.withUsability (status.collecting && usable)
      ⟨status.toRow, if status.state = .signInRequired then usableUntil else none⟩

def effectiveAuthRow (stored : Option CollectorAuthRow)
    (pair : Except EffectiveAuthError (Option PairLoad))
    (mode : StoppedMode) (nowMs : ℤ) : Except EffectiveAuthError (Option EffectiveAuth) :=
  match stored with
  | none => .ok none
  | some row =>
    if row.state = "api_refused" then do
      let status ← (AuthStatus.fromRow row).mapError .store
      -- R44 c: a refusal does not outlive a change of mode
      if status.stoppedMode = some mode then return some ⟨row, none⟩
      else return some ⟨(AuthStatus.ready {} status.clockSkew).toRow, none⟩
    else if row.state ∈ ["sign_in_required", "signed_out", "retrying", "persistence_pending"] then
      do
      let status ← (AuthStatus.fromRow row).mapError .store
      match ← pair with
      | none => return some ⟨row, none⟩
      | some (.invalid generation) =>
        return some ⟨(AuthStatus.stopped (.signedOut .storedPairInvalid) generation mode false {}
          status.clockSkew).toRow, none⟩
      | some (.loaded generation usableUntil) =>
        return some (.ofLoaded row status generation usableUntil nowMs)
    else return some ⟨row, none⟩

variable {stop : AuthStop}

theorem AuthStop.of_state_apiRefused (h : stop.state = .apiRefused) :
    ∃ reason, stop = .apiRefused reason := by
  cases stop with
  | apiRefused reason => exact ⟨reason, rfl⟩
  | _ => cases h

namespace AuthStatus

variable {status : AuthStatus}

theorem state_of_stop (h : status.stop = some stop) : status.state = stop.state := by
  unfold AuthStatus.stop at h
  split at h
  case h_4 => cases h
  all_goals
    rename_i hstate _
    cases h
    exact hstate

theorem eq_stopped (hc : status.isConsistent) (hstop : status.stop = some stop)
    (generation : Uuid) (mode : StoppedMode)
    (hgeneration : (∀ reason, stop ≠ .apiRefused reason) → status.stoppedGeneration =
    some generation)
    (hmode : ∀ reason, stop = .apiRefused reason → status.stoppedMode = some mode) :
    status = stopped stop generation mode status.collecting status.fuse status.clockSkew := by
  have hcon := (isConsistent_iff status).mp hc
  have hnone {α : Type} {x : Option α} (h : false = x.isSome) : x = none :=
    Option.not_isSome_iff_eq_none.mp fun hx => nomatch h.trans hx
  obtain ⟨state, reason, collecting, retryAt, stoppedGeneration, stoppedMode, fuse, skew⟩ := status
  unfold AuthStatus.stop at hstop
  split at hstop
  case h_4 => cases hstop
  all_goals
    rename_i hstate hreason
    subst hstate hreason
    cases hstop
    cases hcon.retry.resolve_left (nomatch ·)
  · cases hgeneration fun _ hc => nomatch hc
    cases hnone hcon.mode
    rfl
  · cases hgeneration fun _ hc => nomatch hc
    cases hnone hcon.mode
    cases hcon.never rfl
    rfl
  · cases hmode _ rfl
    cases hnone hcon.generation
    cases hcon.never rfl
    rfl

end AuthStatus

namespace StartInputs

variable {inputs : StartInputs} {facts : StartFacts} {status : AuthStatus}

/-- The pause in a stored fuse is still to be waited for by the unit that starts: the rejections
before it are those of the current pair, in an open window. -/
def pauseAhead (inputs : StartInputs) (facts : StartFacts) (fuse : FuseSnapshot) : Bool :=
  !inputs.observer && fuse.consecutive ≠ 0 &&
    (fuse.generation == some inputs.pair.generation || facts.currentIsRefreshOutput) &&
    fuse.lastRejectionAt.any (rejectionWindowOpen · inputs.now) && fuse.pauseUntil.any
      (decide <| inputs.now < ·)

/-- The starts that the view foretells: a refusal needs a pair that passes the grammar, and a
scheduler that has not reset it where its mode is the current one. Where the stop is lifted, no
pause of the fuse may be ahead. -/
def Foretold (inputs : StartInputs) (facts : StartFacts) (status : AuthStatus) : Prop :=
  if status.state = .apiRefused then
    inputs.pair.isLoaded = true ∧
      if status.stoppedMode = some (of inputs.mode) then inputs.c3ResetRefusal = false
      else inputs.pauseAhead facts status.fuse = false
  else inputs.pair.isLoaded = true → status.stoppedGeneration ≠ some inputs.pair.generation →
    inputs.pauseAhead facts status.fuse = false

theorem pauseAhead_eq (facts : StartFacts) (status : AuthStatus) :
    inputs.pauseAhead facts status.fuse =
    (!inputs.observer && (restoredFuse (some status) inputs.pair.generation
    facts.currentIsRefreshOutput inputs.now true).pauseUntil.any fun u =>
    decide (inputs.now < u)) := by
  unfold pauseAhead restoredFuse
  dsimp only
  by_cases hcount : status.fuse.consecutive = 0
  · simp [hcount]
  rw [if_neg hcount, Bool.not_true, Bool.false_or, decide_eq_true hcount, Bool.and_true]
  split_ifs with hkept
  · rw [Bool.and_assoc, Bool.and_assoc, ← Bool.and_assoc (_ || _), hkept, Bool.true_and]
  · rw [Bool.and_assoc !inputs.observer, Bool.eq_false_iff.mpr hkept, Bool.and_false,
      Bool.false_and]
    exact (Bool.and_false _).symm

theorem statusOf_lifted (hclock : inputs.clockValid) (hconfig : inputs.configuration = .ok ())
    (fuse : FuseSnapshot) (skew : Bool) : inputs.statusOf none fuse skew =
      if !inputs.observer && fuse.pauseUntil.any (fun u => decide (inputs.now < u)) then
        awaitingConfirmation fuse skew
      else ready fuse skew := by
  unfold statusOf
  rw [hclock, hconfig]
  rfl

theorem stop_of_stored (inputs : StartInputs) (hstop : status.stop = some stop) :
    inputs.stop false (some status) =
    if inputs.pair.isLoaded = false then some (.signedOut .storedPairInvalid)
    else match stop with
      | .apiRefused _ =>
        if status.stoppedMode = some (of inputs.mode) ∧ inputs.c3ResetRefusal = false then
          some stop else none
      | _ =>
        if status.stoppedGeneration = some inputs.pair.generation then some stop else none := by
  unfold StartInputs.stop refusal pairStop storedStop
  cases hpair : inputs.pair with
  | invalid generation => rfl
  | loaded generation usableUntil =>
    simp only [Option.bind_some, hstop]
    cases stop with
    | apiRefused reason => split_ifs <;> simp_all [PairLoad.isLoaded]
    | signInRequired reason => simp [PairLoad.isLoaded, PairLoad.generation]
    | signedOut reason => simp [PairLoad.isLoaded, PairLoad.generation]

end StartInputs

theorem AuthStatus.state_of_fromRow {row : CollectorAuthRow} {status : AuthStatus}
    (h : fromRow row = .ok status) : row.state = status.state.code := by
  unfold fromRow at h
  split at h
  · cases h
  rename_i state hstate
  obtain ⟨reason, -, h⟩ := RunRules.bind_eq_ok.mp h
  obtain ⟨mode, -, h⟩ := RunRules.bind_eq_ok.mp h
  obtain ⟨-, rfl⟩ := checked_eq_ok.mp h
  exact (ClosedVocabulary.code_of_fromCode hstate).symm

section View

variable {row : CollectorAuthRow} {status : AuthStatus} (hrow : AuthStatus.fromRow row = .ok status)
  (mode : StoppedMode)
  (nowMs : ℤ)

include hrow

theorem effectiveAuthRow_refused (hstate : status.state = .apiRefused)
    (pair : Except EffectiveAuthError (Option PairLoad)) :
    effectiveAuthRow (some row) pair mode nowMs = .ok (some
      ⟨if status.stoppedMode = some mode then row else (ready {} status.clockSkew).toRow,
        none⟩) := by
  have hcode : row.state = "api_refused" := (state_of_fromRow hrow).trans
      (congrArg AuthState.code hstate)
  unfold effectiveAuthRow
  dsimp only
  rw [if_pos hcode, hrow]
  change (if status.stoppedMode = some mode then _ else _) = _
  split_ifs <;> rfl

omit mode nowMs in
theorem AuthStatus.word_of_signStop (hstate : status.state.signStop) :
    row.state = "sign_in_required" ∨ row.state = "signed_out" := by
  have hcode := state_of_fromRow hrow
  unfold AuthState.signStop at hstate
  rw [Bool.or_eq_true, beq_iff_eq, beq_iff_eq] at hstate
  rcases hstate with h | h
  · exact .inl (hcode.trans (congrArg AuthState.code h))
  · exact .inr (hcode.trans (congrArg AuthState.code h))

theorem effectiveAuthRow_signStop (hstate : status.state.signStop) (pair : PairLoad) :
    effectiveAuthRow (some row) (.ok (some pair)) mode nowMs = .ok (some (match pair with
      | .invalid generation => ⟨(stopped (.signedOut .storedPairInvalid) generation mode false {}
          status.clockSkew).toRow, none⟩
      | .loaded generation usableUntil => .ofLoaded row status generation usableUntil nowMs)) := by
  have hword := word_of_signStop hrow hstate
  unfold effectiveAuthRow
  dsimp only
  rw [if_neg (by rcases hword with h | h <;> rw [h] <;> decide),
    if_pos (by rcases hword with h | h <;> rw [h] <;> decide), hrow]
  cases pair <;> rfl

theorem ofLoaded_row {inputs : StartInputs} {generation : Uuid} {usableUntil : Option ℤ}
    (hpair : inputs.pair = .loaded generation usableUntil) (hnow : inputs.now = nowMs/1000)
    (hclock : inputs.clockValid) (hstop : status.stop = some stop)
    (hne : ∀ reason, stop ≠ .apiRefused reason)
    (hgeneration : status.stoppedGeneration = some generation) :
    (EffectiveAuth.ofLoaded row status generation usableUntil nowMs).row =
      (inputs.statusOf (some stop) status.fuse status.clockSkew).toRow := by
  have hcode := state_of_fromRow hrow
  have heq := eq_stopped (isConsistent_of_fromRow hrow) hstop
    generation (of inputs.mode) (fun _ => hgeneration) fun reason hc => absurd hc (hne reason)
  have husable : (usableUntil.all fun u => decide (nowMs/1000 < u)) = inputs.usable := by
    unfold usable
    rw [hclock, hpair, hnow]
    rfl
  have hvalid : clockIsValid (nowMs/1000) = true := hnow ▸ hclock
  rw [statusOf_some, hpair]
  unfold EffectiveAuth.ofLoaded shown
  rw [state_of_stop hstop] at hcode
  rw [if_neg fun hc => hc.2 hgeneration, hclock]
  dsimp only
  rw [hvalid, husable]
  cases stop with
  | apiRefused reason => exact absurd rfl (hne reason)
  | signInRequired reason =>
    have hword : row.state = "sign_in_required" := hcode
    rw [hword, heq]
    cases inputs.usable <;> rfl
  | signedOut reason =>
    have hword : row.state = "signed_out" := hcode
    rw [hword, heq]
    cases inputs.usable <;> rfl

end View

def Foretells (row : CollectorAuthRow) (status : AuthStatus) : Prop :=
  ∃ fuse, AuthStatus.fromRow row = .ok { status with fuse }

theorem foretells_stopped (inputs : StartInputs) (hadmitted : stop.admitted) {fuse : FuseSnapshot}
    (hfuse : fuse.isConsistent) (other : FuseSnapshot) (skew : Bool) :
    Foretells (inputs.statusOf (some stop) fuse skew).toRow
    (inputs.statusOf (some stop) other skew) := by
  have hconsistent := inputs.statusOf_isConsistent skew (fun s hs => Option.some.inj hs ▸ hadmitted)
      hfuse
  refine ⟨fuse, (fromRow_toRow hconsistent).trans (congrArg Except.ok ?_)⟩
  rw [statusOf_some, statusOf_some]
  cases inputs.shown stop <;> rfl

theorem not_foretells_of_state {row : CollectorAuthRow} {seen status : AuthStatus}
    (hrow : AuthStatus.fromRow row = .ok seen) (hne : seen.state ≠ status.state) :
    ¬Foretells row status := by
  rintro ⟨fuse, h⟩
  cases hrow.symm.trans h
  exact hne rfl

theorem foretells_lifted {inputs : StartInputs} (hclock : inputs.clockValid)
    (hconfig : inputs.configuration = .ok ()) (fuse : FuseSnapshot) (skew : Bool) :
    Foretells (ready {} skew).toRow (inputs.statusOf none fuse skew) ↔
    (!inputs.observer && fuse.pauseUntil.any fun u => decide (inputs.now < u)) = false := by
  have hready : AuthStatus.fromRow (ready {} skew).toRow = .ok (ready {} skew) :=
    fromRow_toRow (ready_isConsistent _ _ rfl)
  rw [statusOf_lifted hclock hconfig]
  split_ifs with hpause
  · rw [hpause]
    exact iff_of_false (not_foretells_of_state hready nofun) nofun
  · exact iff_of_true ⟨{}, hready⟩ (Bool.eq_false_iff.mpr hpause)

/-- For a stored stop the offline view shows what the next start restores exactly when the start is
foretold. -/
theorem view_shows_the_stop_to_be_restored {inputs : StartInputs} {facts : StartFacts}
    {row : CollectorAuthRow} {status : AuthStatus} {nowMs : ℤ} (hstored : facts.stored = some row)
    (hrow : AuthStatus.fromRow row = .ok status) (hstop : status.stop.isSome = true)
    (hnow : inputs.now = nowMs/1000) (hclock : inputs.clockValid = true)
    (hconfig : inputs.configuration = .ok ()) (hunresolved : facts.unresolvedAttempt = false) :
    ∃ view restored,
      effectiveAuthRow facts.stored (.ok (some inputs.pair)) (StoppedMode.of inputs.mode) nowMs =
        .ok (some view) ∧
      restoreFromFacts inputs facts = .ok restored ∧
      (Foretells view.row restored.status ↔ inputs.Foretold facts status) := by
  obtain ⟨stop, hstop⟩ := Option.isSome_iff_exists.mp hstop
  have hconsistent := AuthStatus.isConsistent_of_fromRow hrow
  have hadmitted := AuthStatus.admitted_of_stop hconsistent hstop
  have hfuse := ((AuthStatus.isConsistent_iff status).mp hconsistent).fuse
  have hstate := AuthStatus.state_of_stop hstop
  have hforce := inputs.stop_of_stored hstop
  have hrestore : restoreFromFacts inputs facts = .ok (inputs.restored facts (some status)) := by
    refine restoreFromFacts_eq_ok.mpr ⟨some status, ?_, rfl⟩
    unfold StartFacts.readStored
    rw [hstored]
    exact RunRules.map_eq_ok.mpr ⟨status, hrow, rfl⟩
  have hpause := inputs.pauseAhead_eq facts status
  rw [hstored, hrestore]
  -- what is left is to read the view off for each stored stop and pair
  suffices hview : ∃ view, effectiveAuthRow (some row) (.ok (some inputs.pair))
      (StoppedMode.of inputs.mode) nowMs =
      .ok (some view) ∧ (Foretells view.row (inputs.restored facts (some status)).status ↔
        inputs.Foretold facts status) from
    hview.imp fun view hv => ⟨_, hv.1, rfl, hv.2⟩
  rw [StartInputs.restored_status, hunresolved, hclock]
  unfold StartInputs.Foretold
  rw [hpause]
  generalize restoredFuse (some status) inputs.pair.generation facts.currentIsRefreshOutput
    inputs.now true = fuse
  by_cases hrefused : status.state = .apiRefused
  · have hshow := effectiveAuthRow_refused hrow (StoppedMode.of inputs.mode) nowMs hrefused
        (.ok (some inputs.pair))
    obtain ⟨reason, rfl⟩ := AuthStop.of_state_apiRefused (hstate.symm.trans hrefused)
    refine ⟨_, hshow, ?_⟩
    rw [if_pos hrefused]
    by_cases hloaded : inputs.pair.isLoaded
    · rw [if_neg (by rw [hloaded]; decide)] at hforce
      rw [hloaded, hforce, eq_self_iff_true, true_and]
      by_cases hmode : status.stoppedMode = some (StoppedMode.of inputs.mode)
      · rw [if_pos hmode, if_pos hmode]
        by_cases hkept : inputs.c3ResetRefusal = false
        · rw [if_pos ⟨hmode, hkept⟩, StartInputs.statusOf_some, StartInputs.shown_apiRefused]
          have heq := AuthStatus.eq_stopped hconsistent hstop inputs.pair.generation _
            (fun hc => absurd rfl (hc reason)) fun _ _ => hmode
          exact iff_of_true ⟨status.fuse, hrow.trans (congrArg Except.ok heq)⟩ hkept
        · -- the unit lifts the refusal that the scheduler reset, and the view still shows it
          rw [if_neg fun h => hkept h.2, StartInputs.statusOf_lifted hclock hconfig]
          refine iff_of_false (not_foretells_of_state hrow ?_) hkept
          rw [hrefused]
          split_ifs <;> exact nofun
      · rw [if_neg hmode, if_neg hmode, if_neg fun h => hmode h.1]
        exact foretells_lifted hclock hconfig fuse _
    · -- a refusal is shown without a look at the pair
      rw [if_pos (Bool.eq_false_iff.mpr hloaded)] at hforce
      rw [hforce, StartInputs.statusOf_some, StartInputs.shown_signedOut]
      refine iff_of_false ?_ fun h => hloaded h.1
      split_ifs
      · refine not_foretells_of_state hrow ?_
        rw [hrefused]
        exact nofun
      · exact not_foretells_of_state (fromRow_toRow (ready_isConsistent _ _ rfl)) nofun
  · have hne (reason : RefusalReason) : stop ≠ .apiRefused reason := fun hc =>
      hrefused (hstate.trans (congrArg AuthStop.state hc))
    have hsign : status.state.signStop = true := by
      rw [hstate]
      cases stop with
      | apiRefused reason => exact absurd rfl (hne reason)
      | _ => rfl
    have hshow := effectiveAuthRow_signStop hrow (StoppedMode.of inputs.mode) nowMs hsign
        inputs.pair
    refine ⟨_, hshow, ?_⟩
    rw [if_neg hrefused]
    cases hpair : inputs.pair with
    | invalid generation =>
      have hinvalid : inputs.stop false (some status) = some (.signedOut .storedPairInvalid) := by
        rw [hforce, hpair]
        rfl
      rw [hinvalid, StartInputs.statusOf_some, StartInputs.shown_signedOut, hpair]
      exact iff_of_true ⟨{}, AuthStatus.fromRow_toRow (AuthStatus.stopped_isConsistent _ _ _ _ _ _
        rfl rfl)⟩ nofun
    | loaded generation usableUntil =>
      have hpick : inputs.stop false (some status) =
          if status.stoppedGeneration = some generation then some stop else none := by
        rw [hforce, hpair, if_neg fun hc => nomatch hc]
        cases stop with
        | apiRefused reason => exact absurd rfl (hne reason)
        | _ => rfl
      dsimp only
      by_cases hgeneration : status.stoppedGeneration = some generation
      · rw [ofLoaded_row hrow nowMs hpair hnow hclock hstop hne hgeneration, hpick,
          if_pos hgeneration]
        exact iff_of_true (foretells_stopped inputs hadmitted hfuse fuse _) fun _ hne =>
          absurd hgeneration hne
      · rw [if_neg hgeneration] at hpick
        unfold EffectiveAuth.ofLoaded
        rw [if_pos ⟨AuthStatus.word_of_signStop hrow hsign, hgeneration⟩, hpick]
        exact (foretells_lifted hclock hconfig fuse _).trans ⟨fun h _ _ => h, fun h =>
          h rfl hgeneration⟩

/-- A sign-in stop of the current pair whose access token has run out: both sides show the sign-out
it became. -/
theorem view_shows_the_stop_to_be_restored_signIn :
    ∃ view restored,
      effectiveAuthRow (some (stopRow (.signInRequired .refreshTokenRejected) true))
        (.ok (some (.loaded 1 (some validNow)))) .legacy (validNow*1000) = .ok (some view) ∧
      restoreFromFacts (startWith validNow (.loaded 1 (some validNow)))
        (factsWith (stopRow (.signInRequired .refreshTokenRejected) true)) = .ok restored ∧
      Foretells view.row restored.status := by
  have hrow : AuthStatus.fromRow (stopRow (.signInRequired .refreshTokenRejected) true) =
      .ok (AuthStatus.stopped (.signInRequired .refreshTokenRejected) 1 .legacy true {} false) :=
    AuthStatus.fromRow_toRow (by decide)
  obtain ⟨view, restored, hview, hrestored, hiff⟩ := @view_shows_the_stop_to_be_restored
    (startWith validNow (.loaded 1 (some validNow)))
    (factsWith (stopRow (.signInRequired .refreshTokenRejected) true)) _ _ (validNow*1000) rfl hrow
      rfl (by decide)
    (by decide) rfl rfl
  exact ⟨view, restored, hview, hrestored, hiff.mpr fun _ hne => absurd rfl hne⟩

theorem view_of_a_refusal_overlooks_the_pair :
    (effectiveAuthRow (some (stopRow (.apiRefused .ownerApi) false)) (.ok (some (.invalid 1)))
      .provider
      (validNow*1000)).toOption.map (Option.map (·.row)) =
        some (some (AuthStatus.ready {} false).toRow) ∧
    restoredStopOf { startWith validNow (.invalid 1) with mode := .provider }
      (factsWith (stopRow (.apiRefused .ownerApi) false)) =
        some (some (.signedOut .storedPairInvalid), false) ∧
    (effectiveAuthRow (some (stopRow (.apiRefused .ownerApi) false)) (.ok (some (.invalid 1)))
      .legacy
      (validNow*1000)).toOption.map (Option.map (·.row)) =
        some (some (stopRow (.apiRefused .ownerApi) false)) ∧
    restoredStopOf (startWith validNow (.invalid 1))
      (factsWith (stopRow (.apiRefused .ownerApi) false)) =
      some (some (.signedOut .storedPairInvalid), false) := by
  decide +kernel

end TeslatlasHub.Credentials
