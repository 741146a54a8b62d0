import TeslatlasHub.LegacyUnit

namespace TeslatlasHub.Credentials

open LegacyAuthManager LegacyAuth FixedWidth List Option

/-! ### What the gate lets through -/

variable {auth : LegacyAuth} {now : ℤ}

theorem LegacyAuth.gate_eq_none {inFlight : Bool} (h : auth.gate now inFlight = none) :
    inFlight = false ∧ auth.pendingSuccessor = none ∧ auth.pendingClose = none ∧
    auth.effectiveStop now = none ∧ auth.tokenEndpoint.isSome ∧ ∀ u ∈ auth.timeGates, u ≤ now := by
  unfold gate at h
  split at h
  · cases h
  rename_i hflight
  split at h
  · cases h
  rename_i hsuccessor
  split at h
  · cases h
  rename_i hclose
  split at h
  · cases h
  rename_i hstop
  split at h
  · cases h
  rename_i hendpoint
  split at h
  · cases h
  rw [map_eq_none_iff, max?_eq_none_iff, filter_eq_nil_iff] at h
  refine ⟨Bool.eq_false_iff.mpr hflight, not_isSome_iff_eq_none.mp hsuccessor,
    not_isSome_iff_eq_none.mp hclose, not_isSome_iff_eq_none.mp hstop, ?_, ?_⟩
  · exact isSome_iff_ne_none.mpr fun hnone => hendpoint (isNone_iff_eq_none.mpr hnone)
  · intro u hu
    have := h u hu
    rw [decide_eq_true_iff] at this
    omega

theorem LegacyAuth.effectiveStop_of_gate {inFlight : Bool}
    (h : auth.gate now inFlight = some .stopped) : (auth.effectiveStop now).isSome := by
  by_contra hnone
  unfold gate at h
  split at h
  · cases h
  split at h
  · cases h
  split at h
  · cases h
  split at h
  · cases h
  split at h
  · cases h
  obtain ⟨_, -, hc⟩ := map_eq_some_iff.mp h
  cases hc

theorem LegacyAuth.stop_of_effectiveStop (h : auth.effectiveStop now = none) :
    auth.stop = none := by
  unfold effectiveStop at h
  split at h
  · split at h
    · exact h
    · cases h
  · assumption
  · exact h

theorem LegacyAuth.endpoint_of_effectiveStop {stop : AuthStop}
    (h : auth.effectiveStop now = some stop) (hnone : auth.stop = none) :
    auth.tokenEndpoint = none := by
  unfold effectiveStop at h
  rw [hnone] at h
  dsimp only at h
  split at h
  · rename_i hc
    rw [Bool.and_eq_true] at hc
    exact isNone_iff_eq_none.mp hc.1
  · cases h

structure PaceView where
  flight : Flight
  stop : Option AuthStop
  tokenEndpoint : Option (List Char)
  pendingSuccessor : Option ScheduledSuccessor
  (retryAt lastSuccessAt : Option ℤ)
  configError : Option ConfigurationReason
  observer : Bool

def LegacyAuthManager.view (m : LegacyAuthManager) : PaceView :=
  { flight := m.flight, stop := m.auth.stop, tokenEndpoint := m.auth.tokenEndpoint
    pendingSuccessor := m.auth.pendingSuccessor, retryAt := m.auth.retryAt
    lastSuccessAt := m.auth.lastSuccessAt, configError := m.configError, observer := m.observer }

def Rested (last : Option ℤ) (now : ℤ) : Prop :=
  ∀ t, last = some t → t+minRefreshIntervalSeconds ≤ now

def AttemptClass.fails : AttemptClass → Bool
  | .notSent | .rotated | .notRotated => false
  | _ => true

def ResultPaced (t now : ℤ) (result : ExchangeResult) : Prop :=
  t+minRefreshIntervalSeconds ≤ now ∨
    match result.kind with
    | .notSent _ => t ≤ result.finishedAt
    | .persisted successor | .pending successor => t ≤ successor.sentAt
    | .failed kind .. => t ≤ result.finishedAt ∧ kind.fails = true
    | .aborted | .rowChanged _ | .external => False

structure Held (t now : ℤ) (v : PaceView) : Prop where
  pending : ∀ s, v.pendingSuccessor = some s → t ≤ s.sentAt ∨ t+minRefreshIntervalSeconds ≤ now
  gated : v.pendingSuccessor = none → v.stop.isSome ∨ t+minRefreshIntervalSeconds ≤ now ∨
    (∃ r, v.retryAt = some r ∧ min (t+minRefreshIntervalSeconds) i64Max ≤ r) ∨
      ∃ a, v.lastSuccessAt = some a ∧ t ≤ a

def FlightPaced (t now : ℤ) (v : PaceView) : Prop :=
  match v.flight with
  | .idle => Held t now v
  | .running _ (.sent _ sentAt) => t ≤ sentAt
  | .running _ .reserving | .running _ (.reserved _) => t+minRefreshIntervalSeconds ≤ now
  | .finished result => ResultPaced t now result

structure Paced (last : Option ℤ) (now : ℤ) (v : PaceView) : Prop where
  flight : ∀ t, last = some t → FlightPaced t now v
  successor : v.flight ≠ .idle → v.pendingSuccessor = none
  busy : v.flight ≠ .idle → v.stop = none → v.configError = none ∧ v.tokenEndpoint.isSome
  quiet : v.stop = none → v.configError.isSome ∨ v.tokenEndpoint = none → Rested last now
  observer : v.observer → last = none ∧ v.flight = .idle

variable {last : Option ℤ} {later : ℤ}

theorem Rested.mono (h : Rested last now) (hnow : now ≤ later) : Rested last later :=
  fun t ht => (h t ht).trans hnow

variable {t : ℤ} {v : PaceView}

theorem Held.mono (h : Held t now v) (hnow : now ≤ later) : Held t later v := by
  refine ⟨fun s hs => (h.pending s hs).imp_right (·.trans hnow), fun hnone => ?_⟩
  obtain hstop | hold | hrest := h.gated hnone
  · exact .inl hstop
  · exact .inr (.inl (hold.trans hnow))
  · exact .inr (.inr hrest)

theorem FlightPaced.mono (h : FlightPaced t now v) (hnow : now ≤ later) :
    FlightPaced t later v := by
  unfold FlightPaced at h ⊢
  split at h
  · exact h.mono hnow
  · exact h
  · exact h.trans hnow
  · exact h.trans hnow
  · exact h.imp (·.trans hnow) id

theorem Paced.mono (h : Paced last now v) (hnow : now ≤ later) : Paced last later v :=
  ⟨fun t ht => (h.flight t ht).mono hnow, h.successor, h.busy, fun hs hc => (h.quiet hs hc).mono
    hnow, h.observer⟩

theorem Paced.stopped {w : PaceView} (h : Paced last now v)
    (hstop : w.stop.isSome) (hflight : w.flight = v.flight) (hobserver : w.observer = v.observer)
    (hpending : ∀ s, w.pendingSuccessor = some s → v.pendingSuccessor = some s) :
    Paced last now w := by
  have hset (hnone : w.stop = none) : False := by
    rw [hnone] at hstop
    cases hstop
  refine ⟨fun t ht => ?_, fun hbusy => ?_, fun _ hs => (hset hs).elim, fun hs => (hset hs).elim, ?_⟩
  · have hpaced := h.flight t ht
    unfold FlightPaced at hpaced ⊢
    rw [hflight]
    split
    · rename_i hidle
      rw [hidle] at hpaced
      exact ⟨fun s hs => hpaced.pending s (hpending s hs), fun _ => .inl hstop⟩
    all_goals
      rename_i hbusy
      rw [hbusy] at hpaced
      exact hpaced
  · rw [hflight] at hbusy
    have hnone := h.successor hbusy
    cases hw : w.pendingSuccessor with
    | none => rfl
    | some s =>
      rw [hpending s hw] at hnone
      cases hnone
  · rw [hobserver, hflight]
    exact h.observer

theorem Paced.advance {next : Option ℤ} (h : Paced last now v) (hbusy : v.flight ≠ .idle)
    {flight : Flight} (hpaced : ∀ t, next = some t → FlightPaced t now { v with flight }) :
    Paced next now { v with flight } := by
  refine ⟨hpaced, fun _ => h.successor hbusy, fun _ => h.busy hbusy, fun hstop hquiet => ?_,
    fun ho => ?_⟩
  · obtain ⟨hconfig, hendpoint⟩ := h.busy hbusy hstop
    obtain hc | he := hquiet
    · rw [show v.configError = none from hconfig] at hc
      cases hc
    · rw [show v.tokenEndpoint = none from he] at hendpoint
      cases hendpoint
  · exact absurd (h.observer ho).2 hbusy

theorem Paced.of_rested (hidle : v.flight = .idle)
    (hrested : Rested last now) (hobserver : v.observer → last = none) : Paced last now v := by
  refine ⟨fun t ht => ?_, fun h => absurd hidle h, fun h => absurd hidle h, fun _ _ => hrested,
    fun h => ⟨hobserver h, hidle⟩⟩
  unfold FlightPaced
  rw [hidle]
  exact ⟨fun _ _ => .inr (hrested t ht), fun _ => .inr (.inl (hrested t ht))⟩

theorem Paced.of_held (hidle : v.flight = .idle) (hheld : ∀ t, last = some t → Held t now v)
    (hquiet : v.stop = none → v.configError.isSome ∨ v.tokenEndpoint = none → Rested last now)
    (hobserver : v.observer → last = none) : Paced last now v := by
  refine ⟨fun t ht => ?_, fun h => absurd hidle h, fun h => absurd hidle h, hquiet,
    fun h => ⟨hobserver h, hidle⟩⟩
  unfold FlightPaced
  rw [hidle]
  exact hheld t ht

theorem Paced.held (h : Paced last now v) (hidle : v.flight = .idle) (ht : last = some t) :
    Held t now v := by
  have hflight := h.flight t ht
  unfold FlightPaced at hflight
  rw [hidle] at hflight
  exact hflight

variable {successor : ScheduledSuccessor} {result : ExchangeResult} {spread : Option ℚ}

namespace LegacyAuth

def view (auth : LegacyAuth) : PaceView :=
  { flight := .idle, stop := auth.stop, tokenEndpoint := auth.tokenEndpoint
    pendingSuccessor := auth.pendingSuccessor, retryAt := auth.retryAt
    lastSuccessAt := auth.lastSuccessAt, configError := none, observer := false }

structure Kept (auth next : LegacyAuth) : Prop where
  endpoint : next.tokenEndpoint = auth.tokenEndpoint
  stop : auth.stop.isSome → next.stop.isSome

theorem Kept.trans {a b c : LegacyAuth} (hab : Kept a b) (hbc : Kept b c) : Kept a c :=
  ⟨hbc.endpoint.trans hab.endpoint, fun h => hbc.stop (hab.stop h)⟩

def Waits (auth : LegacyAuth) (time : ℤ) : Prop :=
  auth.stop.isSome = true ∨ ∃ r, auth.retryAt = some r ∧ min (time+minRefreshIntervalSeconds)
    i64Max ≤ r

variable {auth : LegacyAuth} {t now : ℤ}

theorem Waits.held {time : ℤ} (h : auth.Waits time)
    (hnone : auth.pendingSuccessor = none) (ht : t ≤ time) : Held t now auth.view := by
  refine ⟨fun s hs => ?_, fun _ => ?_⟩
  · rw [show auth.view.pendingSuccessor = none from hnone] at hs
    cases hs
  · obtain hstop | ⟨r, hr, hle⟩ := h
    · exact .inl hstop
    · exact .inr (.inr (.inl ⟨r, hr, (by omega)⟩))

theorem scheduleRetry_waits (auth : LegacyAuth) (reason : RetryReason) (plan : RetryPlan) (now : ℤ)
    (spread : Option ℚ) : (auth.scheduleRetry reason plan now spread).Waits now := by
  refine .inr ⟨saturatingAdd now (retryDelay plan auth.retryStep spread).1, rfl, ?_⟩
  have hdelay := retryDelay_ge plan auth.retryStep spread
  have hretry := min_le_saturatingAdd now (retryDelay plan auth.retryStep spread).1
  omega

theorem applyFailure_kept (auth : LegacyAuth) (kind : AttemptClass) (error : AuthError)
    (status : Option ℕ) (retryAfter : Option ℤ) (now : ℤ) (spread : Option ℚ) :
    Kept auth (auth.applyFailure kind error status retryAfter now spread).1 ∧
    (auth.applyFailure kind error status retryAfter now spread).1.pendingSuccessor =
    auth.pendingSuccessor := by
  unfold applyFailure
  cases kind with
  | clientRefused =>
    simp only [if_true]
    split_ifs
    · exact ⟨⟨rfl, fun _ => rfl⟩, rfl⟩
    · exact ⟨⟨rfl, id⟩, rfl⟩
  | consumedWithoutSuccessor | unknown | dead | refused => exact ⟨⟨rfl, fun _ => rfl⟩, rfl⟩
  | requestRejected | misrouted | blocked | transient | notRenewed | notSent | rotated
      | notRotated =>
    exact ⟨⟨rfl, id⟩, rfl⟩

theorem applyFailure_waits (auth : LegacyAuth) {kind : AttemptClass} (hkind : kind.fails)
    (error : AuthError) (status : Option ℕ) (retryAfter : Option ℤ) (now : ℤ) (spread : Option ℚ) :
    (auth.applyFailure kind error status retryAfter now spread).1.Waits now := by
  unfold applyFailure
  cases kind with
  | clientRefused =>
    simp only [if_true]
    split_ifs
    · exact .inl rfl
    · exact scheduleRetry_waits _ _ _ _ _
  | consumedWithoutSuccessor | unknown | dead | refused => exact .inl rfl
  | requestRejected | misrouted | blocked | transient | notRenewed =>
    exact scheduleRetry_waits _ _ _ _ _
  | notSent | rotated | notRotated => cases hkind

/-- A persisted successor takes the place of the pair and leaves none waiting. -/
theorem applyPersisted_spec (auth : LegacyAuth) (successor : ScheduledSuccessor) (now : ℤ)
    (spread : Option ℚ) :
    Kept auth (auth.applyPersisted successor now spread) ∧
    (auth.applyPersisted successor now spread).pendingSuccessor = none ∧
    (auth.applyPersisted successor now spread).lastSuccessAt = some successor.sentAt := by
  unfold applyPersisted
  split
  · exact ⟨⟨rfl, id⟩, rfl, rfl⟩
  · exact ⟨⟨rfl, id⟩, rfl, rfl⟩

theorem applyPersisted_held (auth : LegacyAuth)
    (h : t ≤ successor.sentAt ∨ t+minRefreshIntervalSeconds ≤ now) (time : ℤ) (spread : Option ℚ) :
    Held t now (auth.applyPersisted successor time spread).view := by
  obtain ⟨-, hnone, hsuccess⟩ := auth.applyPersisted_spec successor time spread
  refine ⟨fun s hs => ?_, fun _ => ?_⟩
  · rw [show (auth.applyPersisted successor time spread).view.pendingSuccessor =
      none from hnone] at hs
    cases hs
  · obtain hle | hrested := h
    · exact .inr (.inr (.inr ⟨successor.sentAt, hsuccess, hle⟩))
    · exact .inr (.inl hrested)

theorem noted_frame (auth : LegacyAuth) (result : ExchangeResult) :
    Kept auth (auth.noted result) ∧ (auth.noted result).pendingSuccessor =
    auth.pendingSuccessor := by
  unfold noted
  split
  · exact ⟨⟨rfl, id⟩, rfl⟩
  · exact ⟨⟨rfl, id⟩, rfl⟩

theorem held_of_rested (h : t+minRefreshIntervalSeconds ≤ now) :
    Held t now auth.view := ⟨fun _ _ => .inr h, fun _ => .inr (.inl h)⟩

theorem applyResult_done {error : Option AuthError}
    (hdone : (auth.applyResult result spread).2 = .done error)
    (hnone : auth.pendingSuccessor = none) : Kept auth (auth.applyResult result spread).1 ∧
      ∀ t now, ResultPaced t now result → Held t now (auth.applyResult result spread).1.view := by
  obtain ⟨hkept, hframe⟩ := auth.noted_frame result
  rw [hnone] at hframe
  -- it is enough to look at the request the result answers
  have hspec {next : LegacyAuth} (hk : Kept (auth.noted result) next)
      (hw : ∀ t now, ¬t+minRefreshIntervalSeconds ≤ now → ResultPaced t now result →
        Held t now next.view) :
      Kept auth next ∧ ∀ t now, ResultPaced t now result → Held t now next.view := by
    refine ⟨hkept.trans hk, fun t now hr => ?_⟩
    by_cases hrested : t+minRefreshIntervalSeconds ≤ now
    · exact held_of_rested hrested
    · exact hw t now hrested hr
  unfold applyResult at hdone ⊢
  unfold ResultPaced at hspec ⊢
  cases hkind : result.kind with
  | notSent reason =>
    rw [hkind] at hspec
    refine hspec ⟨rfl, id⟩ fun t now hlate hr => ?_
    exact (scheduleRetry_waits _ _ _ _ _).held hframe (hr.resolve_left hlate)
  | aborted =>
    rw [hkind] at hspec
    exact hspec ⟨rfl, id⟩ fun t now hlate hr => (hr.resolve_left hlate).elim
  | rowChanged failure =>
    rw [hkind] at hspec hdone
    cases failure with
    | externalWrite | ownOutput => cases hdone
    | unresolved =>
      exact hspec ⟨rfl, fun _ => rfl⟩ fun t now hlate hr => (hr.resolve_left hlate).elim
    | store => exact hspec ⟨rfl, id⟩ fun t now hlate hr => (hr.resolve_left hlate).elim
  | persisted successor =>
    rw [hkind] at hspec
    refine hspec ((auth.noted result).applyPersisted_spec successor _ spread).1 fun t now hlate
      hr => ?_
    exact applyPersisted_held _ (.inl (hr.resolve_left hlate)) _ _
  | pending successor =>
    rw [hkind] at hspec
    refine hspec ⟨rfl, id⟩ fun t now hlate hr => ⟨fun s hs => ?_, fun hs => (nomatch hs)⟩
    cases hs
    exact .inl (hr.resolve_left hlate)
  | external =>
    rw [hkind] at hdone
    cases hdone
  | failed kind error status retryAfter =>
    rw [hkind] at hspec
    obtain ⟨hk, hp⟩ := applyFailure_kept (auth.noted result) kind error status retryAfter
      result.finishedAt spread
    refine hspec hk fun t now hlate hr => ?_
    obtain ⟨ht, hfails⟩ := hr.resolve_left hlate
    exact (applyFailure_waits _ hfails _ _ _ _ _).held (hp.trans hframe) ht

end LegacyAuth

def StoreAnswers.Own (store : StoreAnswers) : Prop :=
  store.relation ≠ some .external ∧ store.reread ≠ .external

instance (store : StoreAnswers) : Decidable store.Own :=
  inferInstanceAs (Decidable (store.relation ≠ some .external ∧ store.reread ≠ .external))

namespace LegacyAuthManager

theorem adoptStoredPair_flight (m : LegacyAuthManager) (external : Bool) (now : ℤ)
    (adoption : Adoption) :
    (m.adoptStoredPair external now adoption).1.flight = m.flight ∧
      (m.adoptStoredPair external now adoption).1.observer = m.observer := by
  cases adoption with
  | loaded => cases external <;> exact ⟨rfl, rfl⟩
  | failed | misconfigured | invalid => exact ⟨rfl, rfl⟩

theorem persistStep_external {reread : Option PersistReread}
    {guard written : Bool} (h : persistStep successor reread guard written = .external) :
    reread = some .external := by
  unfold persistStep at h
  rcases reread with - | reread
  · split_ifs at h
  · cases reread with
    | external => rfl
    | closedForThisAttempt => cases h
    | alreadyPersisted | stillInput | missing =>
      split_ifs at h

variable {m : LegacyAuthManager} {last : Option ℤ} {now : ℤ}

theorem adoptStoredPair_paced (h : Paced last now m.view) {external : Bool}
    (hkeeps : external = false ∧ m.auth.stop.isSome ∨ m.flight = .idle ∧ Rested last now) (time : ℤ)
    (adoption : Adoption) : Paced last now (m.adoptStoredPair external time adoption).1.view := by
  obtain ⟨rfl, hstop⟩ | ⟨hidle, hrested⟩ := hkeeps
  · cases adoption with
    | failed => exact h
    | loaded => exact h.stopped hstop rfl rfl fun _ hs => (nomatch hs)
    | misconfigured => exact h.stopped hstop rfl rfl fun _ => id
    | invalid => exact h.stopped rfl rfl rfl fun _ => id
  · obtain ⟨hflight, hobserver⟩ := m.adoptStoredPair_flight external time adoption
    refine Paced.of_rested (hflight.trans hidle) hrested fun ho => (h.observer ?_).1
    exact hobserver.symm.trans ho

theorem rested_of_adopt {auth : LegacyAuth} {external : Bool}
    (h : (auth.applyResult result spread).2 = .adopt external) {t : ℤ}
    (hr : ResultPaced t now result) : t+minRefreshIntervalSeconds ≤ now := by
  unfold applyResult at h
  unfold ResultPaced at hr
  cases hkind : result.kind with
  | rowChanged | external =>
    rw [hkind] at hr
    exact hr.resolve_right id
  | notSent | aborted | persisted | pending | failed =>
    rw [hkind] at h
    cases h

theorem takeResult_paced (h : Paced last now m.view)
    (time : ℤ) (store : StoreAnswers) : Paced last now (m.takeResult time store).view := by
  unfold takeResult
  split
  · rename_i result hfinished
    have hbusy : m.view.flight ≠ .idle := by
      rw [show m.view.flight = .finished result from hfinished]
      exact fun hc => (nomatch hc)
    have hresult (t : ℤ) (ht : last = some t) : ResultPaced t now result := by
      have hpaced := h.flight t ht
      unfold FlightPaced at hpaced
      rw [show m.view.flight = .finished result from hfinished] at hpaced
      exact hpaced
    have hobserver (ho : m.view.observer) : last = none := (h.observer ho).1
    unfold applyFlightResult
    dsimp only
    split
    · rename_i error hdone
      obtain ⟨hkept, hheld⟩ := applyResult_done hdone (h.successor hbusy)
      have hpaced : Paced last now (view
          { m with flight := .idle, auth := (m.auth.applyResult result store.spread).1 }) := by
        refine Paced.of_held rfl (fun t ht => ?_) (fun hstop hquiet => ?_) hobserver
        · have := hheld t now (hresult t ht)
          exact ⟨this.pending, this.gated⟩
        · -- an exchange was under way, so the pair can be renewed unless a stop is set
          have hnone : m.view.stop = none := by
            refine not_isSome_iff_eq_none.mp fun hsome => ?_
            have := hkept.stop hsome
            rw [show (m.auth.applyResult result store.spread).1.stop = none from hstop] at this
            cases this
          obtain ⟨hconfig, hendpoint⟩ := h.busy hbusy hnone
          obtain hc | he := hquiet
          · rw [show m.configError = none from hconfig] at hc
            cases hc
          · rw [show m.view.tokenEndpoint = none from hkept.endpoint.symm.trans he] at hendpoint
            cases hendpoint
      split
      · exact hpaced
      · exact hpaced
    · rename_i external hadopt
      have hrested : Rested last now := fun t ht => rested_of_adopt hadopt (hresult t ht)
      obtain ⟨hflight, hadopter⟩ := adoptStoredPair_flight
        { m with flight := .idle, auth := (m.auth.applyResult result store.spread).1 } external time
        store.adoption
      split
      · exact Paced.of_rested hflight hrested fun ho => hobserver (hadopter.symm.trans ho)
      · exact Paced.of_rested hflight hrested fun ho => hobserver (hadopter.symm.trans ho)
  · exact h
  · exact h

theorem retryPendingClose_view (m : LegacyAuthManager) (now : ℤ) (store : StoreAnswers) :
    (m.retryPendingClose now store).view = m.view := by
  unfold retryPendingClose
  split
  · cases store.closed <;> rfl
  · rfl

variable {store : StoreAnswers}

theorem retryPendingSuccessor_paced (h : Paced last now m.view) (time : ℤ)
    (hstore : store.reread ≠ .external) :
    Paced last now (m.retryPendingSuccessor time store).view := by
  unfold retryPendingSuccessor
  split
  · exact h
  rename_i successor hpending
  -- a successor is held only between exchanges
  have hidle : m.view.flight = .idle := by
    by_contra hbusy
    have hnone := h.successor hbusy
    rw [show m.view.pendingSuccessor = some successor from hpending] at hnone
    cases hnone
  split
  · split
    · obtain ⟨hkept, -, -⟩ := m.auth.applyPersisted_spec successor time store.spread
      refine Paced.of_held hidle (fun t ht => ?_) (fun hstop hquiet => ?_) fun ho =>
        (h.observer ho).1
      · have := m.auth.applyPersisted_held ((h.held hidle ht).pending successor hpending) time
            store.spread
        exact ⟨this.pending, this.gated⟩
      · refine h.quiet ?_ (hquiet.imp id fun he => hkept.endpoint.symm.trans he)
        refine not_isSome_iff_eq_none.mp fun hsome => ?_
        have := hkept.stop hsome
        rw [show (m.auth.applyPersisted successor time store.spread).stop = none from hstop] at this
        cases this
    · exact h
    · rename_i hexternal
      exact absurd (some.inj (persistStep_external hexternal)) hstore
  · exact h

theorem settleStop_paced (h : Paced last now m.view)
    (time : ℤ) :
    Paced last now (LegacyAuthManager.view { m with auth := m.auth.settleStop time }) := by
  unfold settleStop
  split
  · exact h.stopped rfl rfl rfl fun _ => id
  · exact h

theorem settle_paced (h : Paced last now m.view) (time : ℤ) (hstore : store.reread ≠ .external) :
    Paced last now (m.settle time store).view := by
  have htaken := takeResult_paced h time store
  rw [← retryPendingClose_view _ time store] at htaken
  exact settleStop_paced (retryPendingSuccessor_paced htaken time hstore) time

variable {time : ℤ}

theorem settle_flight (h : (m.settle time store).flight.isRunning = false) :
    (m.settle time store).flight = .idle := by
  have hclose (n : LegacyAuthManager) : (n.retryPendingClose time store).flight = n.flight :=
    congrArg PaceView.flight (n.retryPendingClose_view time store)
  have hsuccessor (n : LegacyAuthManager) : (n.retryPendingSuccessor time store).flight =
      n.flight := by
    unfold retryPendingSuccessor
    split
    · rfl
    split
    · split
      · rfl
      · rfl
      · exact (adoptStoredPair_flight _ true time store.adoption).1
    · rfl
  have hsettle : (m.settle time store).flight = (m.takeResult time store).flight :=
    (hsuccessor _).trans (hclose _)
  rw [hsettle] at h ⊢
  unfold takeResult at h ⊢
  split at h
  · unfold applyFlightResult
    dsimp only
    split
    · split <;> rfl
    · split
      · exact (adoptStoredPair_flight _ _ time store.adoption).1
      · exact (adoptStoredPair_flight _ _ time store.adoption).1
  · assumption
  · rename_i hrunning
    rw [hrunning] at h
    cases h

theorem adoptIfStoredPairChanged_paced (h : Paced last now m.view)
    (hkeeps : m.auth.stop.isSome ∨ m.flight = .idle ∧ Rested last now) (time : ℤ)
    (hstore : store.relation ≠ some .external) :
    Paced last now (m.adoptIfStoredPairChanged time store).1.view := by
  unfold adoptIfStoredPairChanged
  split
  · contradiction
  · exact adoptStoredPair_paced h (hkeeps.imp (fun hs => ⟨rfl, hs⟩) id) time store.adoption
  all_goals exact h

theorem adoptIfStoredPairChanged_unchanged
    (h : (m.adoptIfStoredPairChanged now store).2 = false) :
    (m.adoptIfStoredPairChanged now store).1 = m := by
  have hadopt {external : Bool} (h : (m.adoptStoredPair external now store.adoption).2 = false) :
      (m.adoptStoredPair external now store.adoption).1 = m := by
    cases hadoption : store.adoption with
    | failed => rfl
    | loaded | misconfigured | invalid =>
      rw [hadoption] at h
      cases h
  unfold adoptIfStoredPairChanged at h ⊢
  split at h
  · exact hadopt h
  · exact hadopt h
  all_goals rfl

section

variable (h : Paced last now m.view)
include h

theorem adoptChanged_paced (hkeeps : m.auth.stop.isSome ∨ m.flight = .idle ∧ Rested last now)
    (time : ℤ) (hstore : store.Own) : Paced last now (LegacyAuthManager.view
      (if (m.adoptIfStoredPairChanged time store).2 then
        (m.adoptIfStoredPairChanged time store).1.settle time store
        else (m.adoptIfStoredPairChanged time store).1)) := by
  have hadopted := adoptIfStoredPairChanged_paced h hkeeps time hstore.1
  split
  · exact settle_paced hadopted time hstore.2
  · exact hadopted

theorem recheckStopped_paced (hkeeps : m.auth.stop.isSome ∨ m.flight = .idle ∧ Rested last now)
    (time : ℤ) (hstore : store.Own) : Paced last now (m.recheckStopped time store).view := by
  unfold recheckStopped
  split
  · have hchecked : Paced last now (view { m with lastStoredCheck := time }) := h
    exact adoptChanged_paced hchecked hkeeps time hstore
  · exact h

theorem recheckWaitingObserver_paced (hobserver : m.observer) (time : ℤ)
    (hstore : store.Own) : Paced last now (m.recheckWaitingObserver time store).view := by
  obtain ⟨hlast, hidle⟩ := h.observer hobserver
  unfold recheckWaitingObserver
  split
  · have hchecked : Paced last now (view { m with lastStoredCheck := time }) := h
    refine adoptChanged_paced hchecked (.inr ⟨hidle, fun t ht => ?_⟩) time hstore
    rw [hlast] at ht
    cases ht
  · exact h

theorem keeps_of_effectiveStop (hstop : (m.auth.effectiveStop time).isSome) :
    m.auth.stop.isSome ∨ m.flight = .idle ∧ Rested last now := by
  by_cases hset : m.auth.stop.isSome
  · exact .inl hset
  obtain ⟨stop, hstop⟩ := isSome_iff_exists.mp hstop
  have hnone : m.view.stop = none := not_isSome_iff_eq_none.mp hset
  have hendpoint : m.view.tokenEndpoint = none := endpoint_of_effectiveStop hstop hnone
  refine .inr ⟨?_, h.quiet hnone (.inr hendpoint)⟩
  by_contra hbusy
  have := (h.busy hbusy hnone).2
  rw [hendpoint] at this
  cases this

theorem keeps_of_stopView (hview : m.stopView time) :
    m.auth.stop.isSome ∨ m.flight = .idle ∧ Rested last now := by
  unfold stopView at hview
  rw [Bool.or_eq_true, Bool.and_eq_true] at hview
  obtain ⟨hconfig, hnone⟩ | hstop := hview
  · have hnone : m.view.stop = none := isNone_iff_eq_none.mp hnone
    refine .inr ⟨?_, h.quiet hnone (.inl hconfig)⟩
    by_contra hbusy
    rw [show m.configError = none from (h.busy hbusy hnone).1] at hconfig
    cases hconfig
  · exact keeps_of_effectiveStop h (isSome_of_any hstop)

theorem rested_of_gate (hidle : m.flight = .idle) (htime : now ≤ time) (hmax : time < i64Max)
    {inFlight : Bool} (hgate : m.auth.gate time inFlight = none) : Rested last time := by
  intro t ht
  obtain ⟨-, hpending, -, hstop, -, hgates⟩ := gate_eq_none hgate
  have hnone := stop_of_effectiveStop hstop
  obtain hset | hold | ⟨r, hr, hle⟩ | ⟨a, ha, hle⟩ := (h.held hidle ht).gated hpending
  · rw [show m.view.stop = none from hnone] at hset
    cases hset
  · omega
  · have := hgates r (by
      unfold timeGates
      rw [reduceOption_mem_iff, show m.auth.retryAt = some r from hr]
      exact mem_cons_self)
    omega
  · have hopen := hgates (saturatingAdd a minRefreshIntervalSeconds) (by
      unfold timeGates
      rw [reduceOption_mem_iff, show m.auth.lastSuccessAt = some a from ha]
      exact mem_cons_of_mem _ mem_cons_self)
    have hminute := min_le_saturatingAdd a minRefreshIntervalSeconds
    omega

end

theorem gateAfterWait_eq {later : ℤ} {forced : Bool} {block : Option Block}
    (h : m.gateAfterWait now forced later = (time, block)) :
    m.auth.gate time m.flight.isRunning = block ∧ (time = now ∨ time = later) := by
  unfold gateAfterWait at h
  split at h
  · rename_i hgate
    split at h
    · cases h
      exact ⟨rfl, .inr rfl⟩
    · cases h
      exact ⟨hgate, .inl rfl⟩
  · cases h
    exact ⟨rfl, .inl rfl⟩

theorem startExchange_paced (h : Paced last now m.view) (hrested : Rested last now)
    (hobserver : m.observer = false) (hpending : m.auth.pendingSuccessor = none)
    (hconfig : m.configError = none) (hendpoint : m.auth.tokenEndpoint.isSome) (time : ℤ)
    (pinnedIssuer : Option (List Char)) :
    Paced last now (m.startExchange time pinnedIssuer).view := by
  unfold startExchange
  split
  · have hstarted (input : ExchangeInput) (forcedAfterHold fusePauseSpent : Bool) :
        Paced last now (view { m with
            flight := .running input .reserving
            auth := { m.auth with forcedAfterHold }, fusePauseSpent }) := by
      refine ⟨fun t ht => hrested t ht, fun _ => hpending, fun _ _ => ⟨hconfig, hendpoint⟩,
        fun _ _ => hrested, fun ho => ?_⟩
      rw [show m.observer from ho] at hobserver
      cases hobserver
    dsimp only
    split
    · exact hstarted _ false true
    · exact hstarted _ m.auth.forcedAfterHold m.fusePauseSpent
  all_goals exact h

theorem refreshPermitted_paced (h : Paced last now m.view) (hidle : m.flight = .idle)
    (hrested : Rested last now) (hobserver : m.observer = false)
    (hpending : m.auth.pendingSuccessor = none) (hconfig : m.configError = none)
    (hendpoint : m.auth.tokenEndpoint.isSome) (forced : Bool) (hstore : store.Own)
    (pinnedIssuer : Option (List Char)) :
    Paced last now (m.refreshPermitted now forced store pinnedIssuer).view := by
  unfold refreshPermitted
  dsimp only
  split
  · exact h
  have hadopted := adoptIfStoredPairChanged_paced h (.inr ⟨hidle, hrested⟩) now hstore.1
  split
  · exact settle_paced hadopted now hstore.2
  rename_i hsame
  split
  · exact hadopted
  rw [adoptIfStoredPairChanged_unchanged (Bool.eq_false_iff.mpr hsame)]
  exact startExchange_paced h hrested hobserver hpending hconfig hendpoint now pinnedIssuer

theorem refresh_paced {later : ℤ} (h : Paced last now m.view) (hlater : now ≤ later)
    (hmax : later < i64Max) (forced : Bool) {first second : StoreAnswers} (hfirst : first.Own)
    (hsecond : second.Own) (pinnedIssuer : Option (List Char)) :
    Paced last later (m.refresh now forced later first second pinnedIssuer).view := by
  have hbegun : Paced last now (view { m with adopted := false }) := h
  have hsettled := settle_paced hbegun now hfirst.2
  unfold refresh
  dsimp only
  split
  · exact hsettled.mono hlater
  rename_i hrunning
  rw [Bool.or_eq_true, not_or] at hrunning
  have hidle := settle_flight (Bool.eq_false_iff.mpr hrunning.1)
  split
  · rename_i hobserver
    exact (recheckWaitingObserver_paced hsettled hobserver now hsecond).mono hlater
  rename_i hobserver
  split_ifs with hconfig
  · exact hsettled.mono hlater
  split
  · rename_i time hwait
    obtain ⟨hgate, htime⟩ := gateAfterWait_eq hwait
    have hge : now ≤ time := by omega
    have hle : time ≤ later := by omega
    obtain ⟨-, hpending, -, -, hendpoint, -⟩ := gate_eq_none hgate
    have hrested := rested_of_gate hsettled hidle hge (hle.trans_lt hmax) hgate
    exact (refreshPermitted_paced (hsettled.mono hge) hidle hrested
      (Bool.eq_false_iff.mpr hobserver)
      hpending (not_isSome_iff_eq_none.mp hconfig) hendpoint forced hsecond pinnedIssuer).mono hle
  · rename_i time hwait
    obtain ⟨hgate, -⟩ := gateAfterWait_eq hwait
    have hkeeps := keeps_of_effectiveStop hsettled (effectiveStop_of_gate hgate)
    exact (recheckStopped_paced hsettled hkeeps time hsecond).mono hlater
  · exact hsettled.mono hlater

end LegacyAuthManager

end TeslatlasHub.Credentials
