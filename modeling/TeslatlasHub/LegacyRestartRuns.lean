import TeslatlasHub.LegacyRestart

namespace TeslatlasHub.Credentials

open StartInputs AuthStatus Option

structure Restart where
  inputs : StartInputs
  (unresolvedAttempt currentIsRefreshOutput : Bool := false)
  lastReceiptStartedAtMs : Option ℤ := none

namespace Restart

def facts (start : Restart) (stored : Option CollectorAuthRow) : StartFacts :=
  { unresolvedAttempt := start.unresolvedAttempt, stored
    currentIsRefreshOutput := start.currentIsRefreshOutput
    lastReceiptStartedAtMs := start.lastReceiptStartedAtMs }

def restore (start : Restart) (stored : Option CollectorAuthRow) : Except StoreError RestoredAuth :=
  restoreFromFacts start.inputs (start.facts stored)

end Restart

def storedAfter (stored : Option CollectorAuthRow) (start : Restart) : Option CollectorAuthRow :=
  match start.restore stored with
  | .ok restored => some restored.status.toRow
  | .error _ => stored

def Stored (P : AuthStatus → Prop) (stored : Option CollectorAuthRow) : Prop :=
  ∃ row status, stored = some row ∧ AuthStatus.fromRow row = .ok status ∧ P status

variable {status : AuthStatus} {stop : AuthStop} {inputs : StartInputs}

variable {start : Restart} {reason : RefusalReason}

theorem Restart.restore_some {row : CollectorAuthRow} (h : AuthStatus.fromRow row = .ok status) :
    start.restore (some row) = .ok (start.inputs.restored (start.facts (some row)) (some status)) :=
  restoreFromFacts_eq_ok.mpr ⟨some status, RunRules.map_eq_ok.mpr ⟨status, h, rfl⟩, rfl⟩

theorem Stored.storedAfter_all {P : AuthStatus → Prop} {starts : List Restart}
    (hkeep : ∀ start ∈ starts, ∀ facts status, P status →
    P (start.inputs.restored facts (some status)).status) :
    ∀ {stored : Option CollectorAuthRow}, Stored P stored →
    Stored P (starts.foldl storedAfter stored) := by
  induction starts with
  | nil => exact id
  | cons start starts ih =>
    rintro stored ⟨row, status, rfl, hrow, hP⟩
    refine ih (fun start' hin => hkeep start' (List.mem_cons_of_mem start hin)) ?_
    let restored := start.inputs.restored (start.facts (some row)) (some status)
    have hrestore : start.restore (some row) = .ok restored := Restart.restore_some hrow
    have hconsistent : restored.status.isConsistent := restoreFromFacts_isConsistent hrestore
    refine ⟨restored.status.toRow, restored.status, ?_, fromRow_toRow hconsistent,
      hkeep start List.mem_cons_self _ status hP⟩
    unfold storedAfter
    rw [hrestore]

variable (inputs : StartInputs)

theorem StartInputs.restored_status (facts : StartFacts) (stored : Option AuthStatus) :
    (inputs.restored facts stored).status = inputs.statusOf
      (inputs.stop facts.unresolvedAttempt stored)
      (restoredFuse stored inputs.pair.generation facts.currentIsRefreshOutput
        inputs.now inputs.clockValid)
      (stored.any AuthStatus.clockSkew) := rfl

theorem StartInputs.restored_stop (facts : StartFacts) (stored : Option AuthStatus) :
    (inputs.restored facts stored).status.stop = (inputs.stop facts.unresolvedAttempt stored).map
    inputs.shown :=
  inputs.statusOf_stop _ _ _

theorem StartInputs.blocksRequests_shown (h : stop.blocksRequests) :
    (inputs.shown stop).blocksRequests := by
  cases stop with
  | signInRequired reason => cases h
  | signedOut reason => rw [shown_signedOut, h]
  | apiRefused reason => rw [shown_apiRefused, h]

theorem AuthStatus.stopped_collecting {generation : Uuid} {mode : StoppedMode}
    {usable : Bool} {fuse : FuseSnapshot} {skew : Bool}
    (h : (stopped stop generation mode usable fuse skew).collecting) :
    stop.blocksRequests = false ∧ usable := by
  cases stop with
  | signInRequired reason => exact ⟨rfl, h⟩
  | signedOut reason => cases h
  | apiRefused reason => cases h

/-- Whether what a stored stop is tied to is still there: its generation, or the mode of a refusal
that C3 has not reset. -/
def AuthStatus.stands (status : AuthStatus) (inputs : StartInputs) : Prop :=
  match status.stop with
  | some (.apiRefused _) =>
    status.stoppedMode = some (StoppedMode.of inputs.mode) ∧ inputs.c3ResetRefusal = false
  | some _ => status.stoppedGeneration = some inputs.pair.generation
  | none => False

namespace StartInputs

theorem stop_of_invalid {inputs : StartInputs} (h : inputs.pair.isLoaded = false)
    (unresolved : Bool) (stored : Option AuthStatus) :
    inputs.stop unresolved stored = some (.signedOut .storedPairInvalid) := by
  unfold stop pairStop
  cases hpair : inputs.pair with
  | loaded generation usableUntil =>
    rw [hpair] at h
    cases h
  | invalid generation => rfl

theorem stop_of_loaded {inputs : StartInputs} (h : inputs.pair.isLoaded) (unresolved : Bool)
    (stored : Option AuthStatus) :
    inputs.stop unresolved stored = match inputs.refusal stored with
      | some reason => some (.apiRefused reason)
      | none =>
        if unresolved then some (.signedOut .refreshOutcomeUnknown) else inputs.storedStop
          stored := by
  unfold stop pairStop
  cases hpair : inputs.pair with
  | invalid generation =>
    rw [hpair] at h
    cases h
  | loaded generation usableUntil =>
    cases inputs.refusal stored with
    | some reason => rfl
    | none => cases unresolved <;> rfl

theorem stop_of_refusal {inputs : StartInputs} (hloaded : inputs.pair.isLoaded)
    (hstop : status.stop = some (.apiRefused reason))
    (hmode : status.stoppedMode = some (StoppedMode.of inputs.mode))
    (hreset : inputs.c3ResetRefusal = false) (unresolved : Bool) :
    inputs.stop unresolved (some status) = some (.apiRefused reason) := by
  rw [stop_of_loaded hloaded, refusal_eq_some.mpr ⟨status, rfl, hstop, hmode, hreset⟩]

theorem stop_of_credential {inputs : StartInputs} (hstop : status.stop = some stop)
    (hne : ∀ reason, stop ≠ .apiRefused reason)
    (hgeneration : status.stoppedGeneration = some inputs.pair.generation) (unresolved : Bool) :
    inputs.stop unresolved (some status) = some stop ∨ ∃ reason, inputs.stop unresolved
    (some status) = some (.signedOut reason) := by
  cases hloaded : inputs.pair.isLoaded with
  | false => exact .inr ⟨_, stop_of_invalid hloaded unresolved _⟩
  | true =>
    have hrefusal : inputs.refusal (some status) = none := by
      refine eq_none_iff_forall_ne_some.mpr fun reason h => ?_
      obtain ⟨s, hs, hrefused, -⟩ := refusal_eq_some.mp h
      cases hs
      exact hne reason (some.inj (hstop.symm.trans hrefused))
    rw [stop_of_loaded hloaded, hrefusal]
    cases unresolved with
    | true => exact .inr ⟨_, rfl⟩
    | false => exact .inl (storedStop_eq_some.mpr ⟨status, rfl, hstop, hne, hgeneration⟩)

theorem stop_of_stands {inputs : StartInputs}
    (hstop : status.stop = some stop) (hstands : status.stands inputs) (unresolved : Bool) :
    ∃ force, inputs.stop unresolved (some status) = some force ∧
    (stop.blocksRequests → force.blocksRequests) := by
  unfold stands at hstands
  rw [hstop] at hstands
  have hcredential (hne : ∀ reason, stop ≠ .apiRefused reason)
      (hgeneration : status.stoppedGeneration = some inputs.pair.generation) :
      ∃ force, inputs.stop unresolved (some status) = some force ∧
        (stop.blocksRequests → force.blocksRequests) := by
    obtain h | ⟨reason, h⟩ := stop_of_credential hstop hne hgeneration unresolved
    · exact ⟨stop, h, id⟩
    · exact ⟨_, h, fun _ => rfl⟩
  cases stop with
  | signInRequired reason => exact hcredential (fun _ h => (nomatch h)) hstands
  | signedOut reason => exact hcredential (fun _ h => (nomatch h)) hstands
  | apiRefused reason =>
    cases hloaded : inputs.pair.isLoaded with
    | false => exact ⟨_, stop_of_invalid hloaded unresolved _, fun _ => rfl⟩
    | true => exact ⟨_, stop_of_refusal hloaded hstop hstands.1 hstands.2 unresolved, id⟩

end StartInputs

def AuthStatus.SignedOutOf (generation : Uuid) (status : AuthStatus) : Prop :=
  (∃ reason, status.stop = some (.signedOut reason)) ∧ status.stoppedGeneration = some generation

theorem AuthStatus.SignedOutOf.restored {inputs : StartInputs} {generation : Uuid}
    (h : status.SignedOutOf generation) (hpair : inputs.pair.generation = generation)
    (facts : StartFacts) : (inputs.restored facts (some status)).status.SignedOutOf generation := by
  obtain ⟨⟨reason, hstop⟩, hgeneration⟩ := h
  subst hpair
  have hforce : ∃ r, inputs.stop facts.unresolvedAttempt (some status) = some (.signedOut r) := by
    obtain h | h := inputs.stop_of_credential hstop (fun _ h => (nomatch h)) hgeneration
      facts.unresolvedAttempt
    · exact ⟨reason, h⟩
    · exact h
  obtain ⟨r, hr⟩ := hforce
  refine ⟨⟨r, ?_⟩, ?_⟩
  · rw [restored_stop, hr, map_some, shown_signedOut]
  · have hne : ∀ reason, AuthStop.signedOut r ≠ .apiRefused reason := fun _ h => (nomatch h)
    rw [restored_status, hr]
    exact inputs.statusOf_stoppedGeneration hne _ _

/-- While what it is tied to is still there, a stored stop is restored as one that blocks what it
blocked; a sign-out stays one over any number of starts with its generation. -/
theorem stored_stop_stands :
    (∀ (inputs : StartInputs) (facts : StartFacts) (row : CollectorAuthRow) (status : AuthStatus)
      (stop : AuthStop), facts.stored = some row → AuthStatus.fromRow row = .ok status →
      status.stop = some stop → status.stands inputs →
      ∃ restored shown, restoreFromFacts inputs facts = .ok restored ∧
        restored.status.stop = some shown ∧
        (stop.blocksRequests = true → shown.blocksRequests = true) ∧
        (restored.status.collecting = true → stop.blocksRequests = false ∧ inputs.usable = true)) ∧
    (∀ (generation : Uuid) (starts : List Restart) (stored : Option CollectorAuthRow),
      Stored (AuthStatus.SignedOutOf generation) stored →
      (∀ start ∈ starts, start.inputs.pair.generation = generation) →
      Stored (AuthStatus.SignedOutOf generation) (starts.foldl storedAfter stored)) ∧
    ∀ (inputs : StartInputs) (facts : StartFacts) (restored : RestoredAuth),
      restoreFromFacts inputs facts = .ok restored → restored.status.isConsistent = true := by
  refine ⟨?_, ?_, fun _ _ _ => restoreFromFacts_isConsistent⟩
  · intro inputs facts row status stop hstored hrow hstop hstands
    obtain ⟨force, hforce, hblocks⟩ := inputs.stop_of_stands hstop hstands facts.unresolvedAttempt
    have hread : facts.readStored = .ok (some status) := by
      unfold StartFacts.readStored
      rw [hstored]
      exact RunRules.map_eq_ok.mpr ⟨status, hrow, rfl⟩
    refine ⟨inputs.restored facts (some status), inputs.shown force,
      restoreFromFacts_eq_ok.mpr ⟨some status, hread, rfl⟩, ?_, ?_, ?_⟩
    · rw [restored_stop, hforce, map_some]
    · exact fun h => inputs.blocksRequests_shown (hblocks h)
    · intro hcollecting
      rw [restored_status, hforce, statusOf_some] at hcollecting
      obtain ⟨hshown, husable⟩ := stopped_collecting hcollecting
      refine ⟨?_, husable⟩
      cases hstop' : stop.blocksRequests with
      | false => rfl
      | true => exact absurd (inputs.blocksRequests_shown (hblocks hstop')) (by rw [hshown]; decide)
  · intro generation starts stored h hpairs
    exact Stored.storedAfter_all (fun start hin facts status hs => hs.restored (hpairs start hin)
      facts) h

def restoredStopOf (facts : StartFacts) : Option (Option AuthStop × Bool) :=
  (restoreFromFacts inputs facts).toOption.map fun restored =>
    (restored.status.stop, restored.status.collecting)

theorem stored_stop_stands_signedOut :
    ∃ restored shown, restoreFromFacts (startWith validNow (.loaded 1 none))
        (factsWith (stopRow (.signedOut .accessTokenRejected) false)) = .ok restored ∧
      restored.status.stop = some shown ∧ shown.blocksRequests = true := by
  have hrow : fromRow (stopRow (.signedOut .accessTokenRejected) false) =
      .ok (stopped (.signedOut .accessTokenRejected) 1 .legacy false {} false) :=
    fromRow_toRow (by decide)
  obtain ⟨restored, shown, hrestore, hshown, hblocks, -⟩ := stored_stop_stands.1
    (startWith validNow (.loaded 1 none))
      (factsWith (stopRow (.signedOut .accessTokenRejected) false))
    _ _ _ rfl hrow rfl rfl
  exact ⟨restored, shown, hrestore, hshown, hblocks rfl⟩

/-- A sign-in stop that a start with an invalid clock stored as not collecting collects again once
the clock is right, and a refusal is lifted by a change of the mode. -/
theorem restored_stop_collects_more :
    restoredStopOf (startWith 0 (.loaded 1 none))
        (factsWith (stopRow (.signInRequired .refreshTokenRejected) true)) =
      some (some (.signInRequired .refreshTokenRejected), false) ∧
    restoredStopOf (startWith validNow (.loaded 1 none))
        (factsWith (stopRow (.signInRequired .refreshTokenRejected) false)) =
      some (some (.signInRequired .refreshTokenRejected), true) ∧
    restoredStopOf { startWith validNow (.loaded 1 none) with mode := .provider }
        (factsWith (stopRow (.apiRefused .ownerApi) false)) = some (none, true) := by
  decide +kernel

def AuthStatus.RefusedIn (mode : StoppedMode) (reason : RefusalReason) (status : AuthStatus) :
    Prop :=
  status.stop = some (.apiRefused reason) ∧ status.stoppedMode = some mode

def Restart.keepsRefusal (mode : AuthMode) (start : Restart) : Prop :=
  start.inputs.mode = mode ∧ start.inputs.c3ResetRefusal = false ∧ start.inputs.pair.isLoaded = true

instance (mode : AuthMode) (start : Restart) : Decidable (start.keepsRefusal mode) :=
  inferInstanceAs (Decidable (_ ∧ _ ∧ _))

theorem AuthStatus.RefusedIn.restored {mode : AuthMode}
    (h : status.RefusedIn (StoppedMode.of mode) reason) (hstart : start.keepsRefusal mode)
    (facts : StartFacts) :
    (start.inputs.restored facts (some status)).status.RefusedIn (StoppedMode.of mode) reason := by
  obtain ⟨rfl, hreset, hloaded⟩ := hstart
  have hforce := start.inputs.stop_of_refusal hloaded h.1 h.2 hreset facts.unresolvedAttempt
  refine ⟨?_, ?_⟩
  · rw [restored_stop, hforce, map_some, shown_apiRefused]
  · rw [restored_status, hforce]
    exact start.inputs.statusOf_stoppedMode reason _ _

/-- A stored refusal outlives every start of its mode that finds a pair it can load: each of them
restores it. -/
theorem refusal_outlives_restarts {mode : AuthMode} {reason : RefusalReason} {starts : List Restart}
    {last : Restart} {stored : Option CollectorAuthRow}
    (hstored : Stored (AuthStatus.RefusedIn (StoppedMode.of mode) reason) stored)
    (hstarts : ∀ start ∈ starts, start.keepsRefusal mode) (hlast : last.keepsRefusal mode) :
    ∃ restored, last.restore (starts.foldl storedAfter stored) = .ok restored ∧
      restored.status.stop = some (.apiRefused reason) := by
  obtain ⟨row, status, hrow, hread, hrefused⟩ := Stored.storedAfter_all
    (fun start hin facts status (hs : status.RefusedIn (StoppedMode.of mode) reason) =>
      hs.restored (hstarts start hin) facts) hstored
  rw [hrow]
  exact ⟨_, Restart.restore_some hread, (hrefused.restored hlast _).1⟩

theorem refusal_outlives_restarts_newCredentials :
    ∃ restored, Restart.restore ⟨startWith validNow (.loaded 3 none), false, false, none⟩
        ([(⟨startWith validNow (.loaded 2 none), true, false, none⟩ : Restart)].foldl storedAfter
          (some (stopRow (.apiRefused .ownerApi) false))) = .ok restored ∧
      restored.status.stop = some (.apiRefused .ownerApi) := by
  have hrow : fromRow (stopRow (.apiRefused .ownerApi) false) =
      .ok (stopped (.apiRefused .ownerApi) 1 .legacy false {} false) :=
    fromRow_toRow (by decide)
  have hstored : Stored (AuthStatus.RefusedIn (StoppedMode.of .tesla) .ownerApi)
      (some (stopRow (.apiRefused .ownerApi) false)) := ⟨_, _, rfl, hrow, rfl, rfl⟩
  exact refusal_outlives_restarts hstored (by decide) (by decide)

/-- One start that finds a pair it cannot parse replaces the stored refusal with a sign-out, and the
next external write lifts that. -/
theorem refusal_is_lost_to_an_invalid_pair :
    let stored := some (stopRow (.apiRefused .ownerApi) false)
    let broken : Restart := ⟨startWith validNow (.invalid 1), false, false, none⟩
    let next : Restart := ⟨startWith validNow (.loaded 2 none), false, false, none⟩
    (next.restore stored).toOption.map (·.status.stop) = some (some (.apiRefused .ownerApi)) ∧
    (broken.restore stored).toOption.map (·.status.stop) =
      some (some (.signedOut .storedPairInvalid)) ∧
    (next.restore ([broken].foldl storedAfter stored)).toOption.map (·.status) =
      some (AuthStatus.ready {} false) := by
  decide +kernel

end TeslatlasHub.Credentials
