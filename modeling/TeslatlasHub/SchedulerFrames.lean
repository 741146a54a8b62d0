import TeslatlasHub.SchedulerEvents

namespace TeslatlasHub.Collector

structure Frame where
  mode : CollectorMode
  timing : Timing
  createdAt : Instant
  configFingerprint : String
  persistedAccount : AccountView
  persistedVehicles : OrderedMap VehicleId VehicleView
  openGaps : OrderedMap GapKey OpenGap
  gapEpisodes : OrderedMap GapKind (Instant × ℤ)
  baseline : Option TickBaseline
  unsent : PendingTick

namespace VehicleScheduler

variable (s : VehicleScheduler)

def frame : Frame where
  mode := s.mode
  timing := s.timing
  createdAt := s.createdAt
  configFingerprint := s.configFingerprint
  persistedAccount := s.persistedAccount
  persistedVehicles := s.persistedVehicles
  openGaps := s.openGaps
  gapEpisodes := s.gapEpisodes
  baseline := s.baseline
  unsent := { s.pending with gaps := [], appliedActions := [] }

theorem mode_eq_of_frame {s s' : VehicleScheduler} (h : s'.frame = s.frame) : s'.mode = s.mode :=
  congrArg Frame.mode h

theorem timing_eq_of_frame {s s' : VehicleScheduler} (h : s'.frame = s.frame) :
    s'.timing = s.timing :=
  congrArg Frame.timing h

theorem baseline_eq_of_frame {s s' : VehicleScheduler} (h : s'.frame = s.frame) :
    s'.baseline = s.baseline :=
  congrArg Frame.baseline h

end VehicleScheduler

def AccountState.isRefusal : AccountState → Bool
  | ownerApiRefused | providerRefused | fleetAccessRefused | configError | accountLocked => true
  | _ => false

def Input.retriesCollection : Input → Bool
  | .ownerActions actions => actions.any (·.kind = .retryCollection)
  | _ => false

def Input.failure : Input → Option (CollectorError × RequestKind)
  | .listFailed error => some (error, .list)
  | .recordFailed _ error => some (error, .record)
  | .readFailed _ error => some (error, .read)
  | .probeFinished _ (.failed error) => some (error, .probe)
  | _ => none

namespace AccountRecord

structure SameState (a b : AccountRecord) : Prop where
  state : b.state = a.state
  reason : b.stateReason = a.stateReason
  probe : b.nextBillingProbe = a.nextBillingProbe

variable {a b : AccountRecord}

theorem SameState.refl (a : AccountRecord) : a.SameState a := ⟨rfl, rfl, rfl⟩

theorem SameState.extendWait (h : a.SameState b) (u : Instant) (r : WaitReason) :
    a.SameState (b.extendWait u r) := by
  unfold AccountRecord.extendWait
  repeat' split
  all_goals exact ⟨h.state, h.reason, h.probe⟩

theorem SameState.endWait (h : a.SameState b) (r : WaitReason) : a.SameState (b.endWait r) := by
  unfold AccountRecord.endWait
  split <;> exact ⟨h.state, h.reason, h.probe⟩

variable (a)

variable (t : Timing)

theorem rateLimited_sameState (seconds : ℕ) (u : ℚ) (now : Instant) :
    a.SameState (a.rateLimited t seconds u now) := by
  apply SameState.extendWait
  exact ⟨rfl, rfl, rfl⟩

theorem unreachable_sameState (u : ℚ) (now : Instant) : a.SameState (a.unreachable t u now) := by
  unfold unreachable
  split
  · exact .refl a
  · apply SameState.extendWait
    exact ⟨rfl, rfl, rfl⟩

theorem authFailed_sameState (retry : Option Duration) (u : ℚ) (now : Instant) :
    a.SameState (a.authFailed t retry u now) := by
  unfold authFailed
  split
  · exact .refl a
  · apply SameState.extendWait
    exact ⟨rfl, rfl, rfl⟩

theorem storeFailed_sameState (u : ℚ) (now : Instant) : a.SameState (a.storeFailed t u now) := by
  apply SameState.extendWait
  exact ⟨rfl, rfl, rfl⟩

inductive Answered : AccountRecord → Prop
  | silent : Answered a
  | answer : Answered a.noteAnswered
  | success : Answered a.noteSuccess
  | ready (now : Instant) : Answered (a.endAuthWait now)

end AccountRecord

inductive AccountMove (mode : CollectorMode) (i : Input) : AccountRecord → AccountRecord → Prop
  | keep {a b} : a.SameState b → (i.failure = none → b.wait = a.wait) → AccountMove mode i a b
  | refuse {a state reason now wallMs} :
      state.isRefusal → AccountMove mode i a (a.enterAccountState state reason now wallMs)
  | bill {a reason now wallMs} : (i.sentIn mode → mode = .fleetPolling) →
      AccountMove mode i a (a.enterAccountState .billingSuspended reason now wallMs)
  | stop {a wallMs} : AccountMove mode i a (a.enterCredentialStop wallMs)
  | stopAtStart {a wallMs} : i = .refreshStopAtStart →
      AccountMove mode i a (a.enterFleetRefreshStopAtStart wallMs)
  | clearStop {a now wallMs} : (i.sentIn mode → mode.isOwnerWire) →
      AccountMove mode i a (a.clearCredentialStop now wallMs)
  | resume {a wallMs} : AccountMove mode i a (a.resumeFromBilling wallMs)
  | newMonth {a now} : AccountMove mode i a (a.noteNewMonth now)
  | leaveCap {a now wallMs} : a.state = .capReached →
      AccountMove mode i a (a.resumeFromCap now wallMs)
  | reachCap {a wallMs} : AccountMove mode i a (a.enterCapReached wallMs)
  | armProbe {a armed ofTheTick} : a.state = .billingSuspended →
      AccountMove mode i a
        { a with nextBillingProbe := some armed, probeTimeOfTheTick := ofTheTick }
  | retry {a now wallMs} : i.retriesCollection → AccountMove mode i a (a.ownerRetry mode now wallMs)

theorem classifyLegacyAuth_mem (error : LegacyAuthError) (provider : Bool) :
    classifyLegacyAuth error provider ∈ [ErrorClass.authWait, .clientError, .ownerApiRefusal,
    .providerRefusal, .credentialStop, .auth] := by
  unfold classifyLegacyAuth ownerRefusal
  split <;> (try split) <;> simp

variable {error : CollectorError} {request : RequestKind} {mode : CollectorMode}

theorem classifyAny_eq_of_classify
    {cls : ErrorClass} (h : classify error request mode = cls) (htransient : cls ≠ .transient)
    (hclient : cls ≠ .clientError) : classifyAny error request (mode = .provider) = cls := by
  unfold classify at h
  split at h
  · generalize classifyAny error request (mode = .provider) = any at h ⊢
    cases any <;> simp_all [listClass]
  · exact h

theorem isFleet_of_classify_billing (h : classify error request mode = .billing) :
    error.isFleet := by
  have hany := classifyAny_eq_of_classify h (by decide) (by decide)
  have hlegacy (legacy : LegacyAuthError) (provider : Bool) :
      classifyLegacyAuth legacy provider ≠ .billing := fun heq => by
    have hmem := classifyLegacyAuth_mem legacy provider
    rw [heq] at hmem
    revert hmem
    decide
  have howner (owner : OwnerApiError) (provider : Bool) : classifyOwner owner request provider ≠
      .billing := by
    unfold classifyOwner ownerForbidden ownerRefusal ownerStatus ownerForbidden ownerRefusal
    repeat' split
    all_goals simp
  unfold classifyAny at hany
  split at hany
  · cases hany
  · rfl
  · split at hany
    · cases hany
    · split at hany
      · exact absurd hany (hlegacy _ _)
      · cases hany
  · split at hany
    · cases hany
    · split at hany
      · exact absurd hany (hlegacy _ _)
      · cases hany
  · cases hany
  · exact absurd hany (hlegacy _ _)
  · exact absurd hany (howner _ _)
  · exact absurd hany (howner _ _)
  · rfl
  · cases hany

theorem fleet_of_billing (h : classify error request mode = .billing)
    (hsent : !error.isFleet || mode = .fleetPolling) : mode = .fleetPolling := by
  simpa [isFleet_of_classify_billing h] using hsent

namespace VehicleScheduler

structure Lasts (i : Input) (s s' : VehicleScheduler) : Prop where
  frame : s'.frame = s.frame
  account : Relation.ReflTransGen (AccountMove s.mode i) s.account s'.account

structure Moves (i : Input) (s s' : VehicleScheduler) : Prop where
  frame : s'.frame = s.frame
  account : ∃ a, s.account.Answered a ∧ Relation.ReflTransGen (AccountMove s.mode i) a s'.account

variable {i : Input} (s : VehicleScheduler)

theorem Lasts.refl : Lasts i s s := ⟨rfl, .refl⟩

variable {s} {s' s'' : VehicleScheduler}

theorem Lasts.trans (h : Lasts i s s') (h' : Lasts i s' s'') : Lasts i s s'' :=
  ⟨h'.frame.trans h.frame, h.account.trans (mode_eq_of_frame h.frame ▸ h'.account)⟩

theorem Lasts.one (hframe : s'.frame = s.frame) (h : AccountMove s.mode i s.account s'.account) :
    Lasts i s s' :=
  ⟨hframe, .single h⟩

theorem Lasts.same (hframe : s'.frame = s.frame) (h : s'.account = s.account) : Lasts i s s' :=
  ⟨hframe, h ▸ .refl⟩

theorem Lasts.aside (hframe : s'.frame = s.frame) (h : s.account.SameState s'.account)
    (hwait : s'.account.wait = s.account.wait) : Lasts i s s' :=
  .one hframe (.keep h fun _ => hwait)

theorem Lasts.moves (h : Lasts i s s') : Moves i s s' := ⟨h.frame, s.account, .silent, h.account⟩

theorem Moves.trans (h : Moves i s s') (h' : Lasts i s' s'') : Moves i s s'' := by
  obtain ⟨a, hanswered, hmoves⟩ := h.account
  exact ⟨h'.frame.trans h.frame, a, hanswered, hmoves.trans (mode_eq_of_frame h.frame ▸ h'.account)⟩

variable (s)

theorem noteAnswered_moves : Moves i s s.noteAnswered := ⟨rfl, _, .answer, .refl⟩

theorem noteSuccess_moves : Moves i s s.noteSuccess := ⟨rfl, _, .success, .refl⟩

theorem answered_moves (c : Prop) [Decidable c] : Moves i s (if c then s else s.noteAnswered) := by
  split
  · exact (Lasts.refl s).moves
  · exact noteAnswered_moves s

theorem refusalFor_isRefusal (mode : CollectorMode) (cause : RefusalCause) :
    (refusalFor mode cause).1.isRefusal := by
  unfold refusalFor
  split <;> rfl

theorem enterRefusal_lasts (cause : RefusalCause) (m : Moment) :
    Lasts i s (s.enterRefusal cause m) :=
  .one rfl (.refuse (refusalFor_isRefusal s.mode cause))

variable (id : VehicleId)

theorem pauseVehicle_lasts (reason : PauseReason) (cls : ErrorClass) (m : Moment) :
    Lasts i s (s.pauseVehicle id reason cls m) := by
  have hrefused (s : VehicleScheduler) : Lasts i s (s.checkEveryVehicleRefused m) := by
    unfold checkEveryVehicleRefused
    dsimp only
    split
    · exact enterRefusal_lasts ..
    · exact .refl s
  have hpaused : Lasts i s (s.modifyCar id (·.pause reason cls m.now)) := .same rfl rfl
  unfold pauseVehicle
  split
  · exact hpaused.trans (hrefused _)
  · exact hpaused

variable (now : Instant)

theorem scheduleOfflineStateFetch_lasts : Lasts i s (s.scheduleOfflineStateFetch id now) := by
  unfold scheduleOfflineStateFetch
  repeat' split
  all_goals exact .aside rfl ⟨rfl, rfl, rfl⟩ rfl

theorem vehicleNotFound_lasts : Lasts i s (s.vehicleNotFound id now) := by
  unfold vehicleNotFound
  split <;> exact .aside rfl ⟨rfl, rfl, rfl⟩ rfl

theorem checkRefusal_lasts (error : CollectorError) (now : Instant) :
    Lasts i s (s.checkRefusal error now) := by
  unfold checkRefusal
  split <;> exact .aside rfl ⟨rfl, rfl, rfl⟩ rfl

theorem vehicleClassFailure_lasts (cls : ErrorClass) (m : Moment) :
    Lasts i s (s.vehicleClassFailure id cls m).1 := by
  unfold vehicleClassFailure
  split
  · exact .refl s
  split
  · exact .same rfl rfl
  have hfailed : Lasts i s (s.modifyCar id (·.readFailed s.timing m.now (s.wallOrLast m))) :=
    .same rfl rfl
  split
  · refine (hfailed.trans ?_).trans (scheduleOfflineStateFetch_lasts ..)
    exact .same rfl rfl
  · exact hfailed.trans (vehicleNotFound_lasts ..)
  · exact .same rfl rfl
  · exact hfailed.trans (pauseVehicle_lasts _ id .mobileAccessDisabled _ m)
  · exact hfailed.trans (pauseVehicle_lasts _ id .legalPrivacy _ m)
  · exact hfailed.trans (pauseVehicle_lasts _ id .accessRefused _ m)
  · exact .same rfl rfl

theorem accountFailed_lasts (cls : ErrorClass) (error : CollectorError) (m : Moment)
    (hfailed : i.failure ≠ none)
    (hbill : cls = .billing → i.sentIn s.mode → s.mode = .fleetPolling) :
    Lasts i s (s.accountFailed cls error m).1 := by
  unfold accountFailed
  split
  · refine .one rfl ?_
    cases cls with
    | ownerApiRefusal => exact .refuse (refusalFor_isRefusal ..)
    | providerRefusal => exact .refuse (refusalFor_isRefusal ..)
    | fleetAccess => exact .refuse rfl
    | billing => exact .bill (hbill rfl)
    | config => exact .refuse rfl
    | locked => exact .refuse rfl
    | _ => exact .keep (.refl s.account) fun _ => rfl
  · split
    · exact .refl s
    · split
      · exact .one rfl (.keep (AccountRecord.rateLimited_sameState ..) fun h => absurd h hfailed)
      · exact .one rfl (.keep (AccountRecord.unreachable_sameState ..) fun h => absurd h hfailed)
      · exact .one rfl .stop
      · exact .one rfl (.keep (AccountRecord.authFailed_sameState ..) fun h => absurd h hfailed)

theorem answered_accountFailed_moves (c : Prop) [Decidable c] (cls : ErrorClass)
    (error : CollectorError) (m : Moment) (hfailed : i.failure ≠ none)
    (hbill : cls = .billing → i.sentIn s.mode → s.mode = .fleetPolling) :
    Moves i s ((if c then s else s.noteAnswered).accountFailed cls error m).1 := by
  refine (s.answered_moves c).trans (accountFailed_lasts _ cls error m hfailed ?_)
  rw [mode_eq_of_frame (s.answered_moves (i := i) c).frame]
  exact hbill

theorem credentialOutcome_moves (id : Option VehicleId) (outcome : CredentialOutcome) (m : Moment)
    (hfailed : i.failure ≠ none) :
    Moves i s (s.credentialOutcome id outcome m).1 := by
  have hrelease {s' : VehicleScheduler} (h : Moves i s s') (cls : ErrorClass) :
      Moves i s (id.elim s' (s'.releaseAfterAccountFailure · cls m)) := by
    cases id with
    | none => exact h
    | some id => exact h.trans (.same rfl rfl)
  cases outcome with
  | authUnavailable retryAfter =>
    have hwaits : Lasts i s (s.authFailed (some retryAfter) m.now).1 :=
      .one rfl (.keep (AccountRecord.authFailed_sameState ..) fun h => absurd h hfailed)
    exact hrelease hwaits.moves .authWait
  | ownerApiRefused refusal =>
    exact hrelease ((noteAnswered_moves s).trans (enterRefusal_lasts ..)) _
  | vehicleAccessRejected =>
    cases id with
    | none => exact noteAnswered_moves s
    | some id => exact (noteAnswered_moves s).trans (vehicleClassFailure_lasts ..)
  | terminalStop =>
    have hstops : Lasts i s (s.enterCredentialStop m) := .one rfl .stop
    exact hrelease hstops.moves .credentialStop

theorem discoveryFailedForError_moves (error : CollectorError) (m : Moment) :
    Moves (.listFailed error) s (s.discoveryFailedForError error m).1 := by
  unfold discoveryFailedForError
  dsimp only
  rw [apply_ite Prod.fst, ite_self]
  split
  · exact credentialOutcome_moves _ _ _ _ nofun
  have h := s.answered_accountFailed_moves (i := .listFailed error) (classify error .list s.mode =
      .unreachable)
    (classify error .list s.mode) error m nofun fleet_of_billing
  split <;> (rename_i heq; rw [heq] at h)
  · exact h
  · exact h.trans (.aside rfl ⟨rfl, rfl, rfl⟩ rfl)

theorem vehicleFailedForError_moves (error : CollectorError) (m : Moment) :
    Moves (.readFailed id error) s (s.vehicleFailedForError id error m).1 := by
  unfold vehicleFailedForError
  split
  · exact credentialOutcome_moves _ _ _ _ nofun
  dsimp only
  split
  · exact Lasts.moves (.same rfl rfl)
  have h := s.answered_accountFailed_moves (i := .readFailed id error)
    (classify error .read s.mode = .unreachable) (classify error .read s.mode) error m nofun
      fleet_of_billing
  split <;> (rename_i heq; rw [heq] at h)
  · exact h.trans (.same rfl rfl)
  · exact h.trans ((checkRefusal_lasts ..).trans (vehicleClassFailure_lasts ..))

theorem offlineStateFailedForError_moves (error : CollectorError) (m : Moment) :
    Moves (.recordFailed id error) s (s.offlineStateFailedForError id error m) := by
  have h := s.answered_accountFailed_moves (i := .recordFailed id error)
    ((classify error .record s.mode = .unreachable || classify error .record s.mode =
      .gateNotConfirmed))
    (classify error .record s.mode) error m nofun fleet_of_billing
  unfold offlineStateFailedForError
  dsimp only
  split <;> (rename_i failed heq; rw [heq] at h)
  · exact h
  · have hchecked := h.trans (checkRefusal_lasts failed error m.now)
    have hended {s' : VehicleScheduler} (h' : Lasts (.recordFailed id error)
        (failed.checkRefusal error m.now) s') :
        Moves (.recordFailed id error) s (s'.modifyCar id (·.endHeldCheck)) :=
      hchecked.trans (h'.trans (.same rfl rfl))
    split
    · exact hended (vehicleNotFound_lasts ..)
    · exact hended (pauseVehicle_lasts _ id .mobileAccessDisabled _ m)
    · exact hended (pauseVehicle_lasts _ id .legalPrivacy _ m)
    · exact hended (pauseVehicle_lasts _ id .accessRefused _ m)
    all_goals exact hended (.same rfl rfl)

theorem probeFailed_moves (error : CollectorError) (m : Moment) :
    Moves (.probeFinished id (.failed error)) s (s.probeFailed id error m).1 := by
  have h := s.answered_accountFailed_moves (i := .probeFinished id (.failed error))
    (classify error .probe s.mode = .unreachable) (classify error .probe s.mode) error m nofun
      fleet_of_billing
  unfold probeFailed
  dsimp only
  split <;> (rename_i failed heq; rw [heq] at h)
  · exact h
  · have hchecked := h.trans (checkRefusal_lasts failed error m.now)
    split
    · exact hchecked.trans (pauseVehicle_lasts _ id .mobileAccessDisabled _ m)
    · exact hchecked.trans (pauseVehicle_lasts _ id .legalPrivacy _ m)
    · exact hchecked.trans (pauseVehicle_lasts _ id .accessRefused _ m)
    · exact hchecked.trans ((vehicleNotFound_lasts ..).trans (.same rfl rfl))
    · split <;> exact hchecked.trans (.same rfl rfl)
    · exact hchecked.trans (.same rfl rfl)

theorem probeFinished_moves (outcome : ProbeOutcome) (m : Moment) :
    Moves (.probeFinished id outcome) s (s.probeFinished id outcome m).1 := by
  have hsuccess := noteSuccess_moves (i := .probeFinished id outcome) s
  unfold probeFinished
  dsimp only
  split
  · exact hsuccess.trans (.same rfl rfl)
  · exact hsuccess.trans (.same rfl rfl)
  · split <;> exact hsuccess.trans (.same rfl rfl)
  · have h := probeFailed_moves (s.modifyCar id ({ · with inFlight := false })) id ‹_› m
    exact ⟨h.frame, h.account⟩

variable (m : Moment)

theorem acceptEntries_same (vehicles : List ListedVehicle) :
    ∀ s : VehicleScheduler, (acceptEntries m s vehicles).1.frame = s.frame ∧
      (acceptEntries m s vehicles).1.account = s.account := by
  induction vehicles with
  | nil => exact fun _ => ⟨rfl, rfl⟩
  | cons incoming rest ih => exact fun s => ih (s.acceptEntry m incoming).1

theorem countFailures_same (ids : List VehicleId) : ∀ s : VehicleScheduler,
      (ids.foldl (fun s id => s.countVehicleFailure id .transient m) s).frame = s.frame ∧
        (ids.foldl (fun s id => s.countVehicleFailure id .transient m) s).account = s.account := by
  induction ids with
  | nil => exact fun _ => ⟨rfl, rfl⟩
  | cons id ids ih => exact fun s => ih (s.countVehicleFailure id .transient m)

theorem acceptDiscovery_moves (vehicles : List ListedVehicle) (m : Moment) :
    Moves i s (s.acceptDiscovery vehicles m) := by
  have hentries := acceptEntries_same m vehicles s
  have hcounted := countFailures_same m (acceptEntries m s vehicles).2
      (acceptEntries m s vehicles).1
  refine ⟨hcounted.1.trans hentries.1, _, .success, ?_⟩
  unfold acceptDiscovery
  dsimp only [noteSuccess, noteUnlisted]
  rw [hcounted.2, hentries.2]
  exact .head .resume (.single (.keep ⟨rfl, rfl, rfl⟩ fun _ => rfl))

theorem acceptVehicleState_moves (state : ReportedState) (m : Moment) :
    Moves i s (s.acceptVehicleState id state m) := by
  unfold acceptVehicleState
  split
  · exact (Lasts.refl s).moves
  · dsimp only
    split <;> exact ⟨rfl, _, .success, .refl⟩

theorem refreshMonth_lasts : Lasts i s (s.refreshMonth m) := by
  unfold refreshMonth
  dsimp only
  split
  · exact .same rfl rfl
  refine ⟨rfl, .head (b := s.account.noteNewMonth m.now) .newMonth ?_⟩
  split_ifs with hcap
  · exact .single (.leaveCap hcap)
  · exact .refl

theorem admitRequest_lasts (category : RequestCategory) (m : Moment) :
    Lasts i s (s.admitRequest category m).1 := by
  have hmonth := s.refreshMonth_lasts (i := i) m
  unfold admitRequest
  dsimp only
  split
  · exact hmonth
  refine hmonth.trans ⟨rfl, .single ?_⟩
  have hbilling : (s.refreshMonth m).billingProbeAdmissible category m.now →
      (s.refreshMonth m).account.state = .billingSuspended := by
    intro h
    unfold billingProbeAdmissible at h
    simp only [Bool.and_eq_true, decide_eq_true_eq] at h
    exact h.1.1.1.2
  split
  · rename_i hprobe
    exact .armProbe (hbilling hprobe)
  · rename_i hprobe
    exact .armProbe (hbilling hprobe)
  · exact .reachCap
  · exact .keep (.refl _) fun _ => rfl

theorem planReservation_lasts (requests : List (RequestCategory × ℕ)) (m : Moment) :
    Lasts i s (s.planReservation requests m).1 := by
  have hmonth := s.refreshMonth_lasts (i := i) m
  unfold planReservation
  dsimp only
  split
  · exact hmonth.trans (.same rfl rfl)
  · exact hmonth

theorem listResendWithheld_lasts : Lasts i s (s.listResendWithheld m) := by
  unfold listResendWithheld resendWithheld
  split_ifs with hs
  · refine Lasts.trans ?_ (planReservation_lasts ..)
    exact .one rfl (.armProbe hs)
  · exact planReservation_lasts ..

theorem observeClock_lasts : Lasts i s (s.observeClock m) := by
  refine Lasts.trans ?_ (refreshMonth_lasts (s.observeClockDrift m) m)
  unfold observeClockDrift
  split
  · exact .refl s
  · dsimp only
    split <;> exact .same rfl rfl

theorem ownerResume_lasts (hubId : Option Uuid) (m : Moment) :
    Lasts i s (s.ownerResume hubId m) := by
  unfold ownerResume
  split
  · exact .refl s
  · split
    · split <;> exact .same rfl rfl
    · exact .same rfl rfl

theorem applyOwnerActions_lasts (actions : List OwnerActionRow)
    (hretry : ∀ action ∈ actions, action.kind = .retryCollection → i.retriesCollection) :
    ∀ s : VehicleScheduler, Lasts i s (s.applyOwnerActions actions m) := by
  induction actions with
  | nil => exact fun s => .refl s
  | cons action rest ih =>
    intro s
    refine Lasts.trans ?_ (ih (fun a ha => hretry a (List.mem_cons_of_mem _ ha))
      (s.applyOwnerAction m action))
    unfold applyOwnerAction
    split
    · exact .refl s
    · cases hkind : action.kind with
      | retryCollection => exact .one rfl (.retry (hretry action List.mem_cons_self hkind))
      | resumeVehicle => exact .trans (ownerResume_lasts s action.vehicle m) (.same rfl rfl)

theorem credentialStateSeen_lasts (seen : CredentialStateSeen) (m : Moment) :
    Lasts (.credentialSeen seen) s (s.credentialStateSeen seen m) := by
  cases seen with
  | ready => exact .one rfl (.clearStop id)
  | terminalStop => exact .one rfl .stop
  | apiRefused refusal => exact enterRefusal_lasts ..

/-- An input changes the account by an answer and then by moves of the listed kinds. -/
theorem react_moves (i : Input) (hi : i ≠ .beginTick) : Moves i s (s.react m i) := by
  cases i with
  | beginTick => exact absurd rfl hi
  | ownerActions actions =>
    refine (applyOwnerActions_lasts m actions (fun action hmem hkind => ?_) s).moves
    exact List.any_eq_true.mpr ⟨action, hmem, by simpa using hkind⟩
  | clock => exact (observeClock_lasts s m).moves
  | list vehicles => exact acceptDiscovery_moves ..
  | listFailed error => exact discoveryFailedForError_moves ..
  | listRefused => exact (noteAnswered_moves s).trans (enterRefusal_lasts ..)
  | listResendWithheld => exact (listResendWithheld_lasts s m).moves
  | record id state => exact acceptVehicleState_moves ..
  | recordFailed id error => exact offlineStateFailedForError_moves ..
  | dueReads =>
    simp only [react, dueVehicles]
    split <;> exact Lasts.moves (.same rfl rfl)
  | dueProbes =>
    simp only [react, dueProbeVehicles]
    split <;> exact Lasts.moves (.same rfl rfl)
  | readSucceeded id phase sleepEligible => exact (noteSuccess_moves s).trans (.same rfl rfl)
  | readFailed id error => exact vehicleFailedForError_moves ..
  | probeFinished id outcome => exact probeFinished_moves ..
  | resendWithheld category => exact (planReservation_lasts ..).moves
  | admitRequest category => exact (admitRequest_lasts ..).moves
  | plan requests => exact (planReservation_lasts ..).moves
  | streamOffline id => exact (scheduleOfflineStateFetch_lasts ..).moves
  | gateRevoked id =>
    simp only [react, revokeGate]
    split <;> exact Lasts.moves (.same rfl rfl)
  | credentialSeen seen => exact (credentialStateSeen_lasts ..).moves
  | authReady => exact ⟨rfl, _, .ready m.now, .refl⟩
  | credentialStop => exact Lasts.moves (.one rfl .stop)
  | refreshStopAtStart => exact Lasts.moves (.one rfl (.stopAtStart rfl))
  | _ => exact Lasts.moves (.aside rfl ⟨rfl, rfl, rfl⟩ rfl)

theorem react_frame (i : Input) (hi : i ≠ .beginTick) : (s.react m i).frame = s.frame :=
  (s.react_moves m i hi).frame

theorem react_mode (i : Input) : (s.react m i).mode = s.mode := by
  by_cases hi : i = .beginTick
  · rw [hi]
    rfl
  · exact mode_eq_of_frame (s.react_frame m i hi)

theorem react_timing (i : Input) : (s.react m i).timing = s.timing := by
  by_cases hi : i = .beginTick
  · rw [hi]
    rfl
  · exact timing_eq_of_frame (s.react_frame m i hi)

theorem rollBack_account :
    s.rollBack.account = s.baseline.elim s.account fun base => s.account.restoreBaseline
    base.account := by
  unfold rollBack
  cases s.baseline <;> rfl

theorem rollBack_vehicles : s.rollBack.vehicles = s.baseline.elim s.vehicles fun base =>
    (s.vehicles.filter fun id _ => base.vehicles.contains id).map fun id v =>
      (base.vehicles.get? id).elim v v.restoreBaseline := by
  unfold rollBack
  cases s.baseline <;> rfl

variable (tick : PendingTick)

theorem commitFailed_eq : s.commitFailed tick now = { s.rollBack with
      pending := { s.pending with gaps := tick.gaps++s.pending.gaps }
      account := ((s.rollBack.account.retainStop s.account).retainProbe).storeFailed s.timing
        (s.jitter 0) now
      jitter := s.jitterTail } := by
  unfold commitFailed rollBack
  cases s.baseline <;> rfl

theorem commitFailed_vehicles : (s.commitFailed tick now).vehicles = s.rollBack.vehicles := by
  rw [commitFailed_eq]

theorem commitFailed_account :
    (s.commitFailed tick now).account =
    ((s.rollBack.account.retainStop s.account).retainProbe).storeFailed s.timing (s.jitter 0)
    now := by
  rw [commitFailed_eq]

theorem commitFailed_mode_timing :
    (s.commitFailed tick now).mode = s.mode ∧ (s.commitFailed tick now).timing = s.timing := by
  rw [commitFailed_eq]
  unfold rollBack
  cases s.baseline <;> exact ⟨rfl, rfl⟩

inductive Committed (m : Moment) : TickOutcome → VehicleScheduler × PendingTick → Prop
  | idle : Committed m .idle ((s.takeTick m).1, {})
  | failed (otherWrites : Bool) :
      Committed m .failed ((s.takeTick m).1.commitFailed (s.handedTick otherWrites m) m.now, {})
  | succeeded (otherWrites : Bool) : Committed m (.committed true)
      ((s.takeTick m).1.commitSucceeded (s.handedTick otherWrites m) m.now,
        s.handedTick otherWrites m)
  | renewed : Committed m (.committed false) ((s.takeTick m).1.renewBaseline, {})

/-- What the end of a tick leaves, for each outcome of its transaction. -/
theorem commitTick_committed (needsStore : Bool) (transaction : TransactionEnd) (m : Moment) :
    s.Committed m (s.tickOutcome needsStore transaction m)
    (s.commitTick needsStore transaction m) := by
  unfold commitTick
  cases s.tickOutcome needsStore transaction m with
  | idle => exact .idle
  | failed => exact .failed _
  | committed wrote =>
    cases wrote
    · exact .renewed
    · exact .succeeded _

theorem finishRun_committed (recorded : Bool) (m : Moment) :
    s.Committed m (if recorded then .committed true else .idle) (s.finishRun recorded m) := by
  cases recorded
  · exact .idle
  · exact .succeeded true

theorem tickOutcome_ran_ne_failed (needsStore batchWrote : Bool) (m : Moment) :
    s.tickOutcome needsStore (.ran batchWrote) m ≠ .failed := by
  unfold tickOutcome
  dsimp only
  split <;> simp

theorem Committed.mode_timing {m : Moment} {outcome : TickOutcome}
    {out : VehicleScheduler × PendingTick} (h : s.Committed m outcome out) :
    out.1.mode = s.mode ∧ out.1.timing = s.timing := by
  cases h with
  | idle => exact ⟨rfl, rfl⟩
  | failed otherWrites => exact commitFailed_mode_timing (s.takeTick m).1 _ _
  | succeeded => exact ⟨rfl, rfl⟩
  | renewed => exact ⟨rfl, rfl⟩

theorem attachCounters_account (otherWrites : Bool) (now : Instant) :
    (s.attachCounters tick otherWrites now).account = tick.account := by
  unfold attachCounters
  dsimp only
  split <;> rfl

end VehicleScheduler

namespace CollectorStore

variable (store : CollectorStore)

theorem write_account (tick : PendingTick) :
    (store.write tick).account = (tick.account.map (·.row)).or store.account := by
  have hfold {α : Type} (f : CollectorStore → α → CollectorStore)
      (hf : ∀ store x, (f store x).account = store.account) (xs : List α) :
      ∀ store, (xs.foldl f store).account = store.account := by
    induction xs with
    | nil => exact fun _ => rfl
    | cons x xs ih => exact fun store => (ih (f store x)).trans (hf store x)
  have hopen (store : CollectorStore) (gap : StoredGap) : (store.openGap gap).account =
      store.account := by
    unfold openGap
    split <;> rfl
  unfold write
  rw [hfold (fun store (gap : GapOpen) => store.openGap _) (fun store _ => hopen store _),
    hfold (fun store (close : GapClose) => store.closeGap close.key.kind close.hubId)
      (fun _ _ => rfl),
    hfold putCounter (fun _ _ => rfl),
    hfold (fun store (write : VehicleWrite) => store.putVehicle write.row) (fun _ _ => rfl)]

end CollectorStore

namespace VehicleScheduler

structure Loaded (s s' : VehicleScheduler) : Prop where
  mode : s'.mode = s.mode
  timing : s'.timing = s.timing
  baseline : s'.baseline = s.baseline
  pending : s'.pending = s.pending
  vehicles : s.vehicles = .empty → s'.vehicles = .empty

variable (s : VehicleScheduler)

theorem Loaded.refl : Loaded s s := ⟨rfl, rfl, rfl, rfl, id⟩

theorem Loaded.trans {s s' s'' : VehicleScheduler} (h : Loaded s s') (h' : Loaded s' s'') :
    Loaded s s'' :=
  ⟨h'.mode.trans h.mode, h'.timing.trans h.timing, h'.baseline.trans h.baseline,
    h'.pending.trans h.pending, fun hs => h'.vehicles (h.vehicles hs)⟩

theorem loadVehicle_loaded (m : Moment) (restored : RestoredVehicle) :
    Loaded s (s.loadVehicle m restored) ∧ (s.loadVehicle m restored).account = s.account := by
  unfold loadVehicle
  dsimp only
  split_ifs with hknown
  · refine ⟨⟨rfl, rfl, rfl, rfl, fun hs => ?_⟩, rfl⟩
    rw [hs] at hknown
    cases hknown
  · exact ⟨⟨rfl, rfl, rfl, rfl, id⟩, rfl⟩

theorem loadGap_loaded (vehicleIds : List (Uuid × VehicleId)) (gap : StoredGap) :
    Loaded s (s.loadGap vehicleIds gap) ∧ (s.loadGap vehicleIds gap).account = s.account := by
  unfold loadGap
  split
  · exact ⟨⟨rfl, rfl, rfl, rfl, id⟩, rfl⟩
  · cases vehicleIds.lookup _ <;> exact ⟨⟨rfl, rfl, rfl, rfl, id⟩, rfl⟩

theorem foldl_loaded {α : Type} {f : VehicleScheduler → α → VehicleScheduler}
    (hf : ∀ s x, Loaded s (f s x) ∧ (f s x).account = s.account) (xs : List α) :
    ∀ s, Loaded s (xs.foldl f s) ∧ (xs.foldl f s).account = s.account := by
  induction xs with
  | nil => exact fun s => ⟨.refl s, rfl⟩
  | cons x xs ih =>
    intro s
    have hx := hf s x
    have hrest := ih (f s x)
    exact ⟨hx.1.trans hrest.1, hrest.2.trans hx.2⟩

variable (snapshot : CollectorStateSnapshot)

def loadRows (m : Moment) : VehicleScheduler :=
  let s := { s with configFingerprint := snapshot.configFingerprint }
  let s := snapshot.account.elim s fun row => s.loadAccount row snapshot.configFingerprint m
  let s := snapshot.vehicles.foldl (fun s restored => s.loadVehicle m restored) s
  snapshot.openGaps.foldl (fun s gap => s.loadGap snapshot.vehicleIds gap) s

theorem loadRows_loaded (m : Moment) :
    Loaded s (s.loadRows snapshot m) ∧ (s.loadRows snapshot m).account = snapshot.account.elim
    s.account fun row => (s.loadAccount row snapshot.configFingerprint m).account := by
  unfold loadRows
  have hgaps := foldl_loaded (fun s => loadGap_loaded s snapshot.vehicleIds) snapshot.openGaps
  have hcars := foldl_loaded (fun s => loadVehicle_loaded s m) snapshot.vehicles
  cases snapshot.account with
  | none =>
    refine ⟨Loaded.trans ?_ ((hcars _).1.trans (hgaps _).1), (hgaps _).2.trans (hcars _).2⟩
    exact ⟨rfl, rfl, rfl, rfl, id⟩
  | some row =>
    refine ⟨Loaded.trans ?_ ((hcars _).1.trans (hgaps _).1), (hgaps _).2.trans (hcars _).2⟩
    exact ⟨rfl, rfl, rfl, rfl, id⟩

theorem load_loaded (m : Moment) : Loaded s (s.load snapshot m) :=
  (loadRows_loaded s snapshot m).1.trans ⟨rfl, rfl, rfl, rfl, id⟩

end VehicleScheduler

namespace Hub

def commitFails (hub : Hub) (e : Event) : Bool :=
  match e.what with
  | .commit needsStore transaction =>
    hub.scheduler.tickOutcome needsStore transaction e.time = .failed
  | _ => false

variable (store : CollectorStore) (process : ProcessStart) (m : Moment)

theorem start_loaded : VehicleScheduler.Loaded
    (VehicleScheduler.newWith process.cadence process.mode process.fleet m process.jitter)
    (start store process m).scheduler :=
  VehicleScheduler.load_loaded ..

end Hub

end TeslatlasHub.Collector
