import TeslatlasHub.LegacyStatus

namespace TeslatlasHub.Credentials

open Option AuthStatus FixedWidth

def clockFloorEpochSeconds : ℤ := 1577836800

def minRefreshIntervalSeconds : ℤ := 60

def clockIsValid (now : ℤ) : Bool := decide (clockFloorEpochSeconds ≤ now)

inductive PairLoad where
  | loaded (generation : Uuid) (usableUntil : Option ℤ)
  | invalid (generation : Uuid)
  deriving DecidableEq

namespace PairLoad

def generation : PairLoad → Uuid
  | .loaded generation _ | .invalid generation => generation

def isUsable (pair : PairLoad) (now : ℤ) : Bool :=
  match pair with
  | .loaded _ usableUntil => usableUntil.all fun u => decide (now < u)
  | .invalid _ => false

def isLoaded : PairLoad → Bool
  | .loaded .. => true
  | .invalid _ => false

end PairLoad

structure StartInputs where
  now : ℤ
  mode : AuthMode
  observer : Bool
  pair : PairLoad
  configuration : Except ConfigurationReason Unit
  c3ResetRefusal : Bool

structure StartFacts where
  unresolvedAttempt : Bool
  stored : Option CollectorAuthRow
  currentIsRefreshOutput : Bool
  lastReceiptStartedAtMs : Option ℤ

structure RestoredAuth where
  status : AuthStatus
  clockValid : Bool
  tokenRequestsNotBefore : ℤ
  pauseElapsed : Bool
  deriving DecidableEq

def restoredFuse (stored : Option AuthStatus) (current : Uuid) (currentIsRefreshOutput : Bool)
    (now : ℤ)
    (clockValid : Bool) : FuseSnapshot :=
  match stored with
  | none => {}
  | some status =>
    let fuse := status.fuse
    if fuse.consecutive = 0 then {}
    else
      let sameHistory := fuse.generation == some current || currentIsRefreshOutput
      let recent := !clockValid || fuse.lastRejectionAt.any (rejectionWindowOpen · now)
      if sameHistory && recent then fuse else {}

def restartFloor (now : ℤ) : Option ℤ → ℤ
  | none => 0
  | some startedMs =>
    min (saturatingAdd (saturatingAdd startedMs (minRefreshIntervalSeconds*1000)) 999/1000)
      (saturatingAdd now minRefreshIntervalSeconds)

namespace StartInputs

variable (inputs : StartInputs)

def clockValid : Bool := clockIsValid inputs.now

def usable : Bool := inputs.clockValid && inputs.pair.isUsable inputs.now

def refusal (stored : Option AuthStatus) : Option RefusalReason :=
  stored.bind fun status =>
    match status.stop with
    | some (.apiRefused reason) =>
      if status.stoppedMode = some (StoppedMode.of inputs.mode) ∧ inputs.c3ResetRefusal = false then
        some reason
      else none
    | _ => none

def pairStop (unresolvedAttempt : Bool) : Option AuthStop :=
  match inputs.pair with
  | .invalid _ => some (.signedOut .storedPairInvalid)
  | .loaded .. => if unresolvedAttempt then some (.signedOut .refreshOutcomeUnknown) else none

def storedStop (stored : Option AuthStatus) : Option AuthStop :=
  stored.bind fun status =>
    match status.stop with
    | some (.apiRefused _) | none => none
    | some stop =>
      if status.stoppedGeneration = some inputs.pair.generation then some stop else none

def stop (unresolvedAttempt : Bool) (stored : Option AuthStatus) : Option AuthStop :=
  match inputs.pair, inputs.refusal stored with
  | .invalid _, _ => inputs.pairStop unresolvedAttempt
  | .loaded .., some reason => some (.apiRefused reason)
  | .loaded .., none => (inputs.pairStop unresolvedAttempt).or (inputs.storedStop stored)

def statusOf (stop : Option AuthStop) (fuse : FuseSnapshot) (skew : Bool) : AuthStatus :=
  match stop with
  | some stop =>
    let status := AuthStatus.stopped stop inputs.pair.generation (StoppedMode.of inputs.mode)
        inputs.usable
      fuse skew
    -- with an invalid clock the token cannot be judged, so the stored word stands
    if inputs.clockValid && !inputs.usable then status.withSignInExpired else status
  | none =>
    if !inputs.clockValid then AuthStatus.idle .clockInvalid none fuse skew
    else
      match inputs.configuration with
      | .error reason =>
        AuthStatus.idle .configurationError (some (.configuration reason)) fuse skew
      | .ok () =>
        if !inputs.observer && fuse.pauseUntil.any (fun u => decide (inputs.now < u)) then
          AuthStatus.awaitingConfirmation fuse skew
        else AuthStatus.ready fuse skew

def restored (facts : StartFacts) (stored : Option AuthStatus) : RestoredAuth :=
  let fuse := restoredFuse stored inputs.pair.generation facts.currentIsRefreshOutput inputs.now
    inputs.clockValid
  { status := inputs.statusOf (inputs.stop facts.unresolvedAttempt stored) fuse
      (stored.any AuthStatus.clockSkew)
    clockValid := inputs.clockValid
    tokenRequestsNotBefore := restartFloor inputs.now facts.lastReceiptStartedAtMs
    pauseElapsed := inputs.clockValid && !inputs.observer &&
      fuse.pauseUntil.any (fun u => decide (u ≤ inputs.now)) }

end StartInputs

def StartFacts.readStored (facts : StartFacts) : Except StoreError (Option AuthStatus) :=
  match facts.stored with
  | none => .ok none
  | some row => (AuthStatus.fromRow row).map some

def restoreFromFacts (inputs : StartInputs) (facts : StartFacts) : Except StoreError RestoredAuth :=
  facts.readStored.map (inputs.restored facts)

def AuthStop.admitted (stop : AuthStop) : Bool := stop.state.admits (some stop.reason)

variable {status : AuthStatus} {stop : AuthStop} {stored : Option AuthStatus} {inputs : StartInputs}
  {facts : StartFacts}

namespace AuthStatus

section Projections

variable (stop : AuthStop) (generation : Uuid) (mode : StoppedMode) (usable : Bool)
  (fuse : FuseSnapshot)
  (skew : Bool)

@[simp] theorem stopped_fuse : (stopped stop generation mode usable fuse skew).fuse = fuse := by
  cases stop <;> rfl

@[simp] theorem stopped_clockSkew : (stopped stop generation mode usable fuse skew).clockSkew =
    skew := by
  cases stop <;> rfl

@[simp] theorem stopped_stop :
    (stopped stop generation mode usable fuse skew).stop = some stop := by
  cases stop <;> rfl

theorem stopped_isConsistent (hstop : stop.admitted) (hfuse : fuse.isConsistent) :
    (stopped stop generation mode usable fuse skew).isConsistent := by
  refine (isConsistent_iff _).mpr ?_
  cases stop with
  | signInRequired reason =>
    exact ⟨hstop, rfl, rfl, hfuse, fun h => (nomatch h), fun h => (nomatch h), .inr rfl⟩
  | signedOut reason => exact ⟨rfl, rfl, rfl, hfuse, fun h => (nomatch h), fun _ => rfl, .inr rfl⟩
  | apiRefused reason => exact ⟨rfl, rfl, rfl, hfuse, fun h => (nomatch h), fun _ => rfl, .inr rfl⟩

theorem ready_isConsistent (hfuse : fuse.isConsistent) : (ready fuse skew).isConsistent :=
  (isConsistent_iff _).mpr ⟨rfl, rfl, rfl, hfuse, fun _ => rfl, fun h => (nomatch h), .inr rfl⟩

theorem idle_isConsistent {state : AuthState} {reason : Option StatusReason}
    (hreason : state.admits reason) (hsign : state.signStop = false)
    (hrefused : (state == .apiRefused) = false) (halways : state.alwaysCollects = false)
    (hfuse : fuse.isConsistent) : (idle state reason fuse skew).isConsistent := by
  refine (isConsistent_iff _).mpr ⟨hreason, hsign, hrefused, hfuse, ?_, fun _ => rfl, .inr rfl⟩
  intro h
  exact absurd (halways.symm.trans h) (by decide)

theorem admitted_of_stop {stop : AuthStop} (hc : status.isConsistent)
    (h : status.stop = some stop) : stop.admitted := by
  have hadmit := ((isConsistent_iff status).mp hc).admitted
  unfold AuthStatus.stop at h
  split at h
  case h_4 => cases h
  all_goals
    rename_i hstate hreason
    rw [hstate, hreason] at hadmit
    cases h
    exact hadmit

end Projections

end AuthStatus

def AuthStop.expire : AuthStop → AuthStop
  | .signInRequired reason => .signedOut reason
  | stop => stop

namespace StartInputs

variable (inputs : StartInputs)

def shown (stop : AuthStop) : AuthStop :=
  if inputs.clockValid && !inputs.usable then stop.expire else stop

theorem statusOf_some (stop : AuthStop) (fuse : FuseSnapshot) (skew : Bool) :
    inputs.statusOf (some stop) fuse skew = stopped (inputs.shown stop) inputs.pair.generation
    (StoppedMode.of inputs.mode) inputs.usable fuse skew := by
  unfold statusOf shown
  dsimp only
  by_cases hexpired : (inputs.clockValid && !inputs.usable)
  · rw [if_pos hexpired, if_pos hexpired]
    cases stop with
    | signInRequired reason => rfl
    | signedOut reason => rfl
    | apiRefused reason => rfl
  · rw [if_neg hexpired, if_neg hexpired]

theorem statusOf_none (fuse : FuseSnapshot) (skew : Bool) :
    (∃ state reason, inputs.statusOf none fuse skew = idle state reason fuse skew ∧
    state.admits reason ∧ state.signStop = false ∧ (state == .apiRefused) = false ∧
    state.alwaysCollects = false) ∨ inputs.statusOf none fuse skew = ready fuse skew := by
  unfold statusOf
  dsimp only
  split
  · exact .inl ⟨.clockInvalid, none, rfl, rfl, rfl, rfl, rfl⟩
  split
  · rename_i reason _
    exact .inl ⟨.configurationError, some (.configuration reason), rfl, rfl, rfl, rfl, rfl⟩
  · split
    · exact .inl ⟨.awaitingConfirmation, some (.signOut .accessTokenRejected), rfl, rfl, rfl, rfl,
        rfl⟩
    · exact .inr rfl

theorem statusOf_fuse (stop : Option AuthStop) (fuse : FuseSnapshot) (skew : Bool) :
    (inputs.statusOf stop fuse skew).fuse = fuse := by
  cases stop with
  | some stop => rw [statusOf_some, stopped_fuse]
  | none =>
    obtain ⟨state, reason, h, -⟩ | h := inputs.statusOf_none fuse skew
    · rw [h]
      rfl
    · rw [h]
      rfl

theorem statusOf_clockSkew (stop : Option AuthStop) (fuse : FuseSnapshot)
    (skew : Bool) : (inputs.statusOf stop fuse skew).clockSkew = skew := by
  cases stop with
  | some stop => rw [statusOf_some, stopped_clockSkew]
  | none =>
    obtain ⟨state, reason, h, -⟩ | h := inputs.statusOf_none fuse skew
    · rw [h]
      rfl
    · rw [h]
      rfl

theorem statusOf_stop (stop : Option AuthStop) (fuse : FuseSnapshot) (skew : Bool) :
    (inputs.statusOf stop fuse skew).stop = stop.map inputs.shown := by
  cases stop with
  | some stop => rw [statusOf_some, stopped_stop, map_some]
  | none =>
    obtain ⟨state, reason, h, -, hsign, hrefused, -⟩ | h := inputs.statusOf_none fuse skew
    · rw [h]
      cases state with
      | signInRequired | signedOut => exact absurd hsign (by decide)
      | apiRefused => exact absurd hrefused (by decide)
      | _ => rfl
    · rw [h]
      rfl

theorem statusOf_isConsistent {stop : Option AuthStop} {fuse : FuseSnapshot}
    (skew : Bool) (hstop : ∀ s, stop = some s → s.admitted) (hfuse : fuse.isConsistent) :
    (inputs.statusOf stop fuse skew).isConsistent := by
  cases stop with
  | some stop =>
    rw [statusOf_some]
    refine stopped_isConsistent _ _ _ _ _ _ ?_ hfuse
    unfold shown
    split
    · cases stop with
      | signInRequired reason => rfl
      | signedOut reason => rfl
      | apiRefused reason => rfl
    · exact hstop stop rfl
  | none =>
    obtain ⟨state, reason, h, hadmit, hsign, hrefused, halways⟩ | h := inputs.statusOf_none fuse
        skew
    · rw [h]
      exact idle_isConsistent _ _ hadmit hsign hrefused halways hfuse
    · rw [h]
      exact ready_isConsistent _ _ hfuse

end StartInputs

theorem restoredFuse_isConsistent {current : Uuid} {output : Bool} {now : ℤ} {valid : Bool}
    (h : ∀ s, stored = some s → s.isConsistent) :
    (restoredFuse stored current output now valid).isConsistent := by
  unfold restoredFuse
  cases stored with
  | none => rfl
  | some status =>
    dsimp only
    split_ifs
    · rfl
    · exact ((isConsistent_iff status).mp (h status rfl)).fuse
    · rfl

variable {reason : RefusalReason}

namespace StartInputs

theorem refusal_eq_some :
    inputs.refusal stored = some reason ↔ ∃ status, stored = some status ∧
    status.stop = some (.apiRefused reason) ∧ status.stoppedMode = some (StoppedMode.of inputs.mode)
    ∧ inputs.c3ResetRefusal = false := by
  unfold refusal
  rw [bind_eq_some_iff]
  refine exists_congr fun status => and_congr Iff.rfl ?_
  split
  · rename_i r hstop
    rw [hstop, some.injEq, AuthStop.apiRefused.injEq]
    constructor
    · intro h
      split at h
      · rename_i hc
        exact ⟨some.inj h, hc⟩
      · cases h
    · rintro ⟨rfl, hc⟩
      rw [if_pos hc]
  · rename_i hstop
    refine ⟨fun h => (nomatch h), ?_⟩
    rintro ⟨h, -⟩
    exact absurd h (hstop reason)

theorem storedStop_eq_some :
    inputs.storedStop stored = some stop ↔ ∃ status, stored = some status ∧
    status.stop = some stop ∧ (∀ reason, stop ≠ .apiRefused reason) ∧ status.stoppedGeneration =
    some inputs.pair.generation := by
  unfold storedStop
  rw [bind_eq_some_iff]
  refine exists_congr fun status => and_congr Iff.rfl ?_
  split
  · rename_i r hstop
    refine ⟨fun h => (nomatch h), ?_⟩
    rintro ⟨h, hne, -⟩
    rw [hstop] at h
    exact absurd (some.inj h).symm (hne r)
  · rename_i hstop
    refine ⟨fun h => (nomatch h), ?_⟩
    rintro ⟨h, -⟩
    rw [hstop] at h
    cases h
  · rename_i s hne hstop
    rw [hstop, some.injEq]
    constructor
    · intro h
      split at h
      · rename_i hg
        cases h
        exact ⟨rfl, hne, hg⟩
      · cases h
    · rintro ⟨rfl, -, hg⟩
      rw [if_pos hg]

theorem stop_eq_some {unresolved : Bool} (h : inputs.stop unresolved stored = some stop) :
    (∃ reason, stop = .signedOut reason) ∨ (∃ reason, inputs.refusal stored = some reason ∧
    stop = .apiRefused reason) ∨ inputs.storedStop stored = some stop := by
  have hpair {stop : AuthStop} (h : inputs.pairStop unresolved = some stop) :
      ∃ reason, stop = .signedOut reason := by
    unfold pairStop at h
    split at h
    · exact ⟨_, (some.inj h).symm⟩
    · split at h
      · exact ⟨_, (some.inj h).symm⟩
      · cases h
  unfold StartInputs.stop at h
  split at h
  · exact .inl (hpair h)
  · rename_i reason _ hrefusal
    exact .inr (.inl ⟨reason, hrefusal, (some.inj h).symm⟩)
  · obtain h | ⟨-, h⟩ := or_eq_some_iff.mp h
    · exact .inl (hpair h)
    · exact .inr (.inr h)

theorem admitted_of_stop {unresolved : Bool} (hstored : ∀ s, stored = some s → s.isConsistent)
    (h : inputs.stop unresolved stored = some stop) : stop.admitted := by
  obtain ⟨reason, rfl⟩ | ⟨reason, -, rfl⟩ | h := stop_eq_some h
  · rfl
  · rfl
  · obtain ⟨status, hs, hstop, -⟩ := storedStop_eq_some.mp h
    exact AuthStatus.admitted_of_stop (hstored status hs) hstop

theorem restored_isConsistent (inputs : StartInputs) (facts : StartFacts)
    (hstored : ∀ s, stored = some s → s.isConsistent) :
    (inputs.restored facts stored).status.isConsistent :=
  inputs.statusOf_isConsistent _ (fun _ h => admitted_of_stop hstored h)
    (restoredFuse_isConsistent hstored)

end StartInputs

theorem StartFacts.readStored_isConsistent
    (h : facts.readStored = .ok stored) : ∀ s, stored = some s → s.isConsistent := by
  rintro s rfl
  unfold StartFacts.readStored at h
  split at h
  · cases h
  · obtain ⟨status, hrow, hs⟩ := RunRules.map_eq_ok.mp h
    cases hs
    exact isConsistent_of_fromRow hrow

theorem restoreFromFacts_eq_ok {restored : RestoredAuth} :
    restoreFromFacts inputs facts = .ok restored ↔ ∃ stored, facts.readStored = .ok stored ∧
    inputs.restored facts stored = restored :=
  RunRules.map_eq_ok

theorem restoreFromFacts_isConsistent {restored : RestoredAuth}
    (h : restoreFromFacts inputs facts = .ok restored) : restored.status.isConsistent := by
  obtain ⟨stored, hstored, rfl⟩ := restoreFromFacts_eq_ok.mp h
  exact inputs.restored_isConsistent facts (StartFacts.readStored_isConsistent hstored)

def StartFacts.storing (facts : StartFacts) (status : AuthStatus) : StartFacts :=
  { facts with stored := some status.toRow }

theorem restoreFromFacts_storing (inputs : StartInputs) (facts : StartFacts)
    (h : status.isConsistent) :
    restoreFromFacts inputs (facts.storing status) = .ok (inputs.restored facts (some status)) := by
  refine restoreFromFacts_eq_ok.mpr ⟨some status, ?_, rfl⟩
  exact RunRules.map_eq_ok.mpr ⟨status, fromRow_toRow h, rfl⟩

namespace StartInputs

variable (inputs : StartInputs)

def withClock (now : ℤ) : StartInputs := { inputs with now }

@[simp] theorem shown_signedOut (reason : SignOutReason) : inputs.shown (.signedOut reason) =
    .signedOut reason := by
  exact ite_self _

@[simp] theorem shown_apiRefused (reason : RefusalReason) : inputs.shown (.apiRefused reason) =
    .apiRefused reason := by
  exact ite_self _

theorem shown_eq_apiRefused {inputs : StartInputs}
    (h : inputs.shown stop = .apiRefused reason) : stop = .apiRefused reason := by
  unfold shown at h
  split at h
  · cases stop with
    | apiRefused r => exact h
    | _ => cases h
  · exact h

theorem shown_shown (stop : AuthStop) : inputs.shown (inputs.shown stop) = inputs.shown stop := by
  unfold shown
  split
  · cases stop with
    | signInRequired reason => rfl
    | signedOut reason => rfl
    | apiRefused reason => rfl
  · rfl

theorem shown_of_clockInvalid {inputs : StartInputs} (h : inputs.clockValid = false)
    (stop : AuthStop) : inputs.shown stop = stop := by
  unfold shown
  rw [h, Bool.false_and, if_neg Bool.false_ne_true]

theorem statusOf_stoppedMode (reason : RefusalReason) (fuse : FuseSnapshot) (skew : Bool) :
    (inputs.statusOf (some (.apiRefused reason)) fuse skew).stoppedMode =
    some (StoppedMode.of inputs.mode) := by
  rw [statusOf_some, shown_apiRefused]
  rfl

theorem statusOf_stoppedGeneration (h : ∀ reason, stop ≠ .apiRefused reason) (fuse : FuseSnapshot)
    (skew : Bool) :
    (inputs.statusOf (some stop) fuse skew).stoppedGeneration = some inputs.pair.generation := by
  rw [statusOf_some]
  cases hs : inputs.shown stop with
  | signInRequired reason => rfl
  | signedOut reason => rfl
  | apiRefused reason => exact absurd (shown_eq_apiRefused hs) (h reason)

theorem stop_statusOf (now : ℤ) (unresolved : Bool) (stored : Option AuthStatus)
    (fuse : FuseSnapshot) (skew : Bool) :
    inputs.stop unresolved (some ((inputs.withClock now).statusOf (inputs.stop unresolved stored)
    fuse skew)) = (inputs.stop unresolved stored).map (inputs.withClock now).shown := by
  have hstop := (inputs.withClock now).statusOf_stop (inputs.stop unresolved stored) fuse skew
  cases hpair : inputs.pair with
  | invalid generation =>
    have hinvalid (s : Option AuthStatus) :
        inputs.stop unresolved s = some (.signedOut .storedPairInvalid) := by
      unfold StartInputs.stop pairStop
      rw [hpair]
    rw [hinvalid, hinvalid, map_some, shown_signedOut]
  | loaded generation usableUntil =>
    have hloaded (s : Option AuthStatus) : inputs.stop unresolved s = match inputs.refusal s with
        | some reason => some (.apiRefused reason)
        | none => (inputs.pairStop unresolved).or (inputs.storedStop s) := by
      unfold StartInputs.stop
      rw [hpair]
      cases inputs.refusal s <;> rfl
    cases hrefusal : inputs.refusal stored with
    | some reason =>
      have hforce : inputs.stop unresolved stored = some (.apiRefused reason) := by
        rw [hloaded, hrefusal]
      have hagain : inputs.refusal
          (some ((inputs.withClock now).statusOf (some (.apiRefused reason)) fuse skew)) =
            some reason := by
        obtain ⟨-, -, -, -, hreset⟩ := refusal_eq_some.mp hrefusal
        refine refusal_eq_some.mpr ⟨_, rfl, ?_, statusOf_stoppedMode _ _ _ _, hreset⟩
        rw [statusOf_stop, map_some, shown_apiRefused]
      rw [hforce, hloaded, hagain, map_some, shown_apiRefused]
    | none =>
      have hforce : inputs.stop unresolved stored = (inputs.pairStop unresolved).or
          (inputs.storedStop stored) := by
        rw [hloaded, hrefusal]
      -- the status the first start stored is no refusal, so the second start sees none
      have hagain : inputs.refusal
          (some ((inputs.withClock now).statusOf (inputs.stop unresolved stored)
          fuse skew)) = none := by
        refine eq_none_iff_forall_ne_some.mpr fun reason h => ?_
        obtain ⟨status, hs, hrefused, -⟩ := refusal_eq_some.mp h
        cases hs
        rw [hstop] at hrefused
        obtain ⟨stop, hin, hshown⟩ := map_eq_some_iff.mp hrefused
        have heq := shown_eq_apiRefused hshown
        subst heq
        obtain ⟨r, hr⟩ | ⟨r, hr, -⟩ | hr := stop_eq_some hin
        · cases hr
        · exact absurd (hrefusal.symm.trans hr) (by simp only [reduceCtorEq, not_false_eq_true])
        · obtain ⟨-, -, -, hne, -⟩ := storedStop_eq_some.mp hr
          exact absurd rfl (hne reason)
      rw [hloaded, hagain]
      rw [hforce]
      rw [hforce] at hstop
      have hpairStop : inputs.pairStop unresolved = none ∨
          ∃ reason, inputs.pairStop unresolved = some (.signedOut reason) := by
        unfold pairStop
        rw [hpair]
        cases unresolved with
        | true => exact .inr ⟨_, rfl⟩
        | false => exact .inl rfl
      obtain hnone | ⟨reason, hsome⟩ := hpairStop
      · rw [hnone, none_or] at hstop ⊢
        rw [none_or]
        cases hs : inputs.storedStop stored with
        | none =>
          rw [hs] at hstop
          unfold storedStop
          rw [bind_some, hstop]
          rfl
        | some stop =>
          rw [hs] at hstop
          obtain ⟨-, -, -, hne, -⟩ := storedStop_eq_some.mp hs
          refine storedStop_eq_some.mpr ⟨_, rfl, hstop, ?_, statusOf_stoppedGeneration _ hne _ _⟩
          exact fun reason h => hne reason (shown_eq_apiRefused h)
      · rw [hsome, some_or, some_or, map_some, shown_signedOut]

theorem statusOf_map_shown {now : ℤ} (hnow : clockIsValid now = false ∨ now = inputs.now)
    (stop : Option AuthStop) (fuse : FuseSnapshot) (skew : Bool) :
    inputs.statusOf (stop.map (inputs.withClock now).shown) fuse skew = inputs.statusOf stop fuse
    skew := by
  cases stop with
  | none => rfl
  | some stop =>
    rw [map_some]
    obtain hinvalid | rfl := hnow
    · have hclock : (inputs.withClock now).clockValid = false := hinvalid
      rw [shown_of_clockInvalid hclock]
    · rw [statusOf_some, statusOf_some]
      exact congrArg (fun s => stopped s _ _ _ _ _) (inputs.shown_shown stop)

end StartInputs

theorem restoredFuse_again {current : Uuid} {output valid : Bool} {now now' : ℤ}
    (hnow : clockIsValid now' = false ∨ now' = now) (hvalid : valid = clockIsValid now)
    (hfuse : status.fuse = restoredFuse stored current output now' (clockIsValid now')) :
    restoredFuse (some status) current output now valid = restoredFuse stored current output now
    valid := by
  have hempty {s : AuthStatus} (h : s.fuse = {}) : restoredFuse (some s) current output now valid =
      {} := by
    unfold restoredFuse
    dsimp only
    rw [h]
    rfl
  cases stored with
  | none => exact hempty hfuse
  | some first =>
    unfold restoredFuse at hfuse
    dsimp only at hfuse
    have hkept (h : status.fuse = first.fuse) : restoredFuse (some status) current output now
        valid =
        restoredFuse (some first) current output now valid := by
      unfold restoredFuse
      dsimp only
      rw [h]
    split_ifs at hfuse with hzero hrecent
    · rw [hempty hfuse]
      unfold restoredFuse
      dsimp only
      rw [if_pos hzero]
    · exact hkept hfuse
    · -- the first start dropped the fuse, and the second one finds the same history and window
      rw [hempty hfuse]
      unfold restoredFuse
      dsimp only
      rw [if_neg hzero, if_neg]
      intro h
      refine hrecent ?_
      obtain hinvalid | rfl := hnow
      · rw [Bool.and_eq_true] at h
        rw [Bool.and_eq_true, hinvalid]
        exact ⟨h.1, rfl⟩
      · rw [← hvalid]
        exact h

theorem StartInputs.restored_again (inputs : StartInputs) (facts : StartFacts)
    (stored : Option AuthStatus) {now : ℤ} (hnow : clockIsValid now = false ∨ now = inputs.now) :
    inputs.restored facts (some ((inputs.withClock now).restored facts stored).status) =
      inputs.restored facts stored := by
  have hcongr {a b : Option AuthStatus}
      (hfuse : restoredFuse a inputs.pair.generation facts.currentIsRefreshOutput inputs.now
        inputs.clockValid =
        restoredFuse b inputs.pair.generation facts.currentIsRefreshOutput
          inputs.now inputs.clockValid)
      (hskew : a.any clockSkew = b.any clockSkew)
      (hstatus : ∀ fuse skew, inputs.statusOf (inputs.stop facts.unresolvedAttempt a) fuse skew =
        inputs.statusOf (inputs.stop facts.unresolvedAttempt b) fuse skew) :
      inputs.restored facts a = inputs.restored facts b := by
    unfold StartInputs.restored
    dsimp only
    rw [hfuse, hskew, hstatus]
  refine hcongr (restoredFuse_again hnow rfl (StartInputs.statusOf_fuse _ _ _ _)) ?_ fun fuse
    skew => ?_
  · exact StartInputs.statusOf_clockSkew _ _ _ _
  · have hstop := inputs.stop_statusOf now facts.unresolvedAttempt stored
      (restoredFuse stored inputs.pair.generation facts.currentIsRefreshOutput now
        (clockIsValid now))
      (stored.any clockSkew)
    exact (congrArg (inputs.statusOf · fuse skew) hstop).trans (inputs.statusOf_map_shown hnow _
      fuse skew)

/-- A start with an invalid clock is transparent, and for a fixed clock the restore is idempotent.
-/
theorem restore_again_is_restore (inputs : StartInputs) (facts : StartFacts) :
    (∀ now, clockIsValid now = false →
      (do
        let faulty ← restoreFromFacts (inputs.withClock now) facts
        restoreFromFacts inputs (facts.storing faulty.status)) = restoreFromFacts inputs facts) ∧
    (do
      let first ← restoreFromFacts inputs facts
      restoreFromFacts inputs (facts.storing first.status)) = restoreFromFacts inputs facts := by
  have hagain (now : ℤ) (hnow : clockIsValid now = false ∨ now = inputs.now) :
      (do
        let first ← restoreFromFacts (inputs.withClock now) facts
        restoreFromFacts inputs (facts.storing first.status)) = restoreFromFacts inputs facts := by
    unfold restoreFromFacts
    cases hread : facts.readStored with
    | error e => rfl
    | ok stored =>
      have hconsistent := (inputs.withClock now).restored_isConsistent facts
        (StartFacts.readStored_isConsistent hread)
      have hstoring := restoreFromFacts_storing inputs facts hconsistent
      exact hstoring.trans (congrArg Except.ok (inputs.restored_again facts stored hnow))
  exact ⟨fun now hinvalid => hagain now (.inl hinvalid), hagain inputs.now (.inr rfl)⟩

def startWith (now : ℤ) (pair : PairLoad) : StartInputs :=
  { now, mode := .tesla, observer := false, pair, configuration := .ok (), c3ResetRefusal := false }

def validNow : ℤ := 1800000000

def stopRow (stop : AuthStop) (usable : Bool) : CollectorAuthRow :=
  (AuthStatus.stopped stop 1 .legacy usable {} false).toRow

def factsWith (row : CollectorAuthRow) : StartFacts :=
  { unresolvedAttempt := false, stored := some row, currentIsRefreshOutput := false
    lastReceiptStartedAtMs := none }

theorem restore_again_is_restore_signIn :
    clockIsValid 0 = false ∧
    (do
      let faulty ← restoreFromFacts ((startWith validNow (.loaded 1 none)).withClock 0)
        (factsWith (stopRow (.signInRequired .refreshTokenRejected) true))
      restoreFromFacts (startWith validNow (.loaded 1 none))
        ((factsWith (stopRow (.signInRequired .refreshTokenRejected) true)).storing faulty.status))
          =
    restoreFromFacts (startWith validNow (.loaded 1 none))
      (factsWith (stopRow (.signInRequired .refreshTokenRejected) true)) :=
  ⟨by decide, (restore_again_is_restore _ _).1 0 (by decide)⟩

end TeslatlasHub.Credentials
