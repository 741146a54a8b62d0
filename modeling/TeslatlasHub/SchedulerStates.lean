import TeslatlasHub.SchedulerWaits

namespace TeslatlasHub.Collector

open Option AccountRecord

variable {mode : CollectorMode} {i : Input} {a b : AccountRecord} {s s' : VehicleScheduler}
  {m : Moment}
  {outcome : TickOutcome} {out : VehicleScheduler × PendingTick}

theorem AccountMove.keeps_refusal (h : AccountMove mode i a b)
    (hretry : i.retriesCollection = false) (hstart : i ≠ .refreshStopAtStart)
    (ha : a.state.isRefusal) : b.state = a.state ∧ b.stateReason = a.stateReason := by
  have hne (state : AccountState) (hs : state.isRefusal = false) : a.state ≠ state :=
    fun heq => by rw [heq, hs] at ha; cases ha
  have hcollecting := hne .collecting rfl
  cases h with
  | keep hsame => exact ⟨hsame.state, hsame.reason⟩
  | refuse _ =>
    unfold enterAccountState
    split <;> [(split <;> exact ⟨rfl, rfl⟩); exact ⟨rfl, rfl⟩]
  | bill _ =>
    unfold enterAccountState
    split <;> [(split <;> exact ⟨rfl, rfl⟩); exact ⟨rfl, rfl⟩]
  | stop => simp [enterCredentialStop, hcollecting]
  | clearStop _ => simp [clearCredentialStop, hne .credentialStop rfl]
  | resume => simp [resumeFromBilling, hne .billingSuspended rfl]
  | newMonth => simp [noteNewMonth, hne .billingSuspended rfl]
  | leaveCap hcap => exact absurd hcap (hne .capReached rfl)
  | reachCap => simp [enterCapReached, hcollecting]
  | armProbe _ => exact ⟨rfl, rfl⟩
  | stopAtStart hi => exact absurd hi hstart
  | retry hretries => rw [hretry] at hretries; cases hretries

structure ProbeHeld {α : Type} (mode : CollectorMode) (state : AccountState) (probe : Option α) :
    Prop where
  billing : state = .billingSuspended → mode = .fleetPolling
  probe : probe.isSome → state = .billingSuspended ∨ state = .credentialStop ∧ mode = .fleetPolling

theorem ProbeHeld.none {α : Type} {state : AccountState}
    (h : state ≠ .billingSuspended) : ProbeHeld mode state (none : Option α) :=
  ⟨fun hs => absurd hs h, fun hp => nomatch hp⟩

def AccountRecord.ProbeHeld (mode : CollectorMode) (a : AccountRecord) : Prop :=
  Collector.ProbeHeld mode a.state a.nextBillingProbe

theorem AccountRecord.ProbeHeld.eq_none (h : a.ProbeHeld mode)
    (hbill : a.state ≠ .billingSuspended) (hstop : a.state ≠ .credentialStop) :
    a.nextBillingProbe = none := by
  cases hp : a.nextBillingProbe with
  | none => rfl
  | some probe =>
    rcases h.probe (by rw [hp]; rfl) with hs | ⟨hs, _⟩
    · exact absurd hs hbill
    · exact absurd hs hstop

theorem AccountRecord.ProbeHeld.congr (h : a.ProbeHeld mode) (hsame : a.SameState b) :
    b.ProbeHeld mode := by
  unfold AccountRecord.ProbeHeld
  rw [hsame.state, hsame.probe]
  exact h

theorem AccountRecord.ownerRetry_probeHeld (h : a.ProbeHeld mode)
    (now : Instant) (wallMs : ℤ) : (a.ownerRetry mode now wallMs).ProbeHeld mode := by
  unfold ownerRetry
  dsimp only
  split_ifs with hstays
  · exact ProbeHeld.none (fun hs => nomatch hs)
  have hbill : a.state ≠ .billingSuspended := fun hs => hstays (.inr (by rw [hs]; decide))
  have hnone : a.nextBillingProbe = none := by
    cases hp : a.nextBillingProbe with
    | none => rfl
    | some probe =>
      rcases h.probe (by rw [hp]; rfl) with hs | hfleet
      · exact absurd hs hbill
      · exact absurd (.inl hfleet) hstays
  unfold AccountRecord.ProbeHeld
  rw [hnone]
  exact ProbeHeld.none hbill

theorem AccountRecord.enterFleetRefreshStopAtStart_probeHeld (h : a.ProbeHeld .fleetPolling)
    (wallMs : ℤ) : (a.enterFleetRefreshStopAtStart wallMs).ProbeHeld .fleetPolling := by
  unfold enterFleetRefreshStopAtStart
  split
  · exact h
  · exact ⟨fun hs => (nomatch hs), fun _ => .inr ⟨rfl, rfl⟩⟩

theorem AccountMove.probeHeld
    (h : AccountMove mode i a b) (hsent : i.sentIn mode) (ha : a.ProbeHeld mode) :
    b.ProbeHeld mode := by
  cases h with
  | keep hlasts => exact ha.congr hlasts
  | @refuse state reason now wallMs hstate =>
    have hne : state ≠ .billingSuspended := fun heq => by rw [heq] at hstate; cases hstate
    unfold enterAccountState
    split
    · exact ha
    · split
      · exact ProbeHeld.none hne
      · exact ha
  | bill hmode =>
    unfold enterAccountState
    split
    · rename_i hsame
      exact ⟨fun _ => hmode hsent, fun _ => .inl hsame.1⟩
    · split
      · exact ⟨fun _ => hmode hsent, fun _ => .inl rfl⟩
      · exact ha
  | stop =>
    unfold enterCredentialStop
    split
    · rename_i hc
      have hnone := ha.eq_none (by rw [hc]; decide) (by rw [hc]; decide)
      refine ⟨fun hs => (nomatch hs), fun hp => ?_⟩
      simp [hnone] at hp
    · exact ha
  | clearStop hmode =>
    unfold clearCredentialStop
    split
    · rename_i hs
      refine ⟨fun hc => (nomatch hc), fun hp => ?_⟩
      rcases ha.probe hp with hb | ⟨_, hfleet⟩
      · rw [hs] at hb
        cases hb
      · have howner := hmode hsent
        rw [hfleet] at howner
        cases howner
    · exact ha
  | resume =>
    unfold resumeFromBilling
    split
    · exact ProbeHeld.none (fun hs => nomatch hs)
    · exact ha
  | newMonth =>
    unfold noteNewMonth
    split
    · rename_i hs
      exact ⟨ha.billing, fun _ => .inl hs⟩
    · exact ha
  | leaveCap hcap =>
    have hnone := ha.eq_none (by rw [hcap]; decide) (by rw [hcap]; decide)
    refine ⟨fun hs => (nomatch hs), fun hp => ?_⟩
    simp [resumeFromCap, hnone] at hp
  | reachCap =>
    unfold enterCapReached
    split
    · rename_i hc
      have hnone := ha.eq_none (by rw [hc]; decide) (by rw [hc]; decide)
      refine ⟨fun hs => (nomatch hs), fun hp => ?_⟩
      simp [hnone] at hp
    · exact ha
  | armProbe hs => exact ⟨ha.billing, fun _ => .inl hs⟩
  | retry _ => exact ownerRetry_probeHeld ha ..
  | stopAtStart hi =>
    have hmode : mode = .fleetPolling := by simpa [hi, Input.sentIn] using hsent
    subst hmode
    exact enterFleetRefreshStopAtStart_probeHeld ha _

namespace AccountRecord

variable (a : AccountRecord)

theorem noteAnswered_sameState : a.SameState a.noteAnswered := by
  unfold noteAnswered
  split
  · exact SameState.refl a
  · apply SameState.endWait
    exact ⟨rfl, rfl, rfl⟩

theorem noteSuccess_sameState : a.SameState a.noteSuccess := by
  have h := noteAnswered_sameState a
  apply SameState.endWait
  exact ⟨h.state, h.reason, h.probe⟩

theorem endAuthWait_sameState (now : Instant) : a.SameState (a.endAuthWait now) := by
  unfold endAuthWait
  split <;> exact ⟨rfl, rfl, rfl⟩

theorem Answered.sameState {a b : AccountRecord} (h : a.Answered b) : a.SameState b := by
  cases h with
  | silent => exact SameState.refl a
  | answer => exact noteAnswered_sameState a
  | success => exact noteSuccess_sameState a
  | ready now => exact endAuthWait_sameState a now

theorem storeRecovered_sameState : a.SameState a.storeRecovered := by
  unfold storeRecovered
  split
  · exact SameState.refl a
  · apply SameState.endWait
    exact ⟨rfl, rfl, rfl⟩

end AccountRecord

namespace VehicleScheduler

variable (s : VehicleScheduler)

theorem Moves.probeHeld {s : VehicleScheduler} (h : Moves i s s') (hsent : i.sentIn s.mode)
    (hs : s.account.ProbeHeld s.mode) : s'.account.ProbeHeld s'.mode := by
  obtain ⟨a, hanswered, hmoves⟩ := h.account
  rw [mode_eq_of_frame h.frame]
  generalize s'.account = b at hmoves ⊢
  induction hmoves with
  | refl => exact hs.congr hanswered.sameState
  | tail _ hmove ih => exact hmove.probeHeld hsent ih

theorem Moves.keeps_refusal {s : VehicleScheduler} (h : Moves i s s')
    (hretry : i.retriesCollection = false) (hstart : i ≠ .refreshStopAtStart)
    (hs : s.account.state.isRefusal) :
    s'.account.state = s.account.state ∧ s'.account.stateReason = s.account.stateReason := by
  obtain ⟨a, hanswered, hmoves⟩ := h.account
  generalize s'.account = b at hmoves ⊢
  induction hmoves with
  | refl => exact ⟨hanswered.sameState.state, hanswered.sameState.reason⟩
  | tail _ hmove ih =>
    have hkeep := hmove.keeps_refusal hretry hstart (by rw [ih.1]; exact hs)
    exact ⟨hkeep.1.trans ih.1, hkeep.2.trans ih.2⟩

theorem commitSucceeded_sameState (tick : PendingTick) (now : Instant) :
    s.account.SameState (s.commitSucceeded tick now).account := by
  have h := storeRecovered_sameState { s.account with probeTimeOfTheTick := none }
  exact ⟨h.state, h.reason, h.probe⟩

theorem Committed.sameState
    (h : s.Committed m outcome out) (hne : outcome ≠ .failed) :
    s.account.SameState out.1.account := by
  cases h with
  | idle => exact .refl _
  | failed => exact absurd rfl hne
  | succeeded => exact commitSucceeded_sameState (s.takeTick m).1 _ _
  | renewed => exact .refl _

end VehicleScheduler

namespace AccountRecord

theorem ProbeHeld.retainStop {entered : AccountRecord} (h : a.ProbeHeld mode) :
    (a.retainStop entered).ProbeHeld mode := by
  unfold AccountRecord.retainStop
  split
  · refine ⟨fun hs => (nomatch hs), fun hp => .inr ⟨rfl, ?_⟩⟩
    rcases h.probe hp with hs | ⟨_, hfleet⟩
    · exact h.billing hs
    · exact hfleet
  · exact h

theorem ProbeHeld.retainProbe (h : a.ProbeHeld mode) : a.retainProbe.ProbeHeld mode := by
  unfold AccountRecord.retainProbe
  split
  · refine ⟨h.billing, fun hp => ?_⟩
    split_ifs at hp with hs
    · exact .inl hs
    · exact h.probe hp
  · exact h

end AccountRecord

namespace VehicleScheduler

variable (s : VehicleScheduler)

structure ProbesHeld : Prop where
  account : s.account.ProbeHeld s.mode
  baseline : ∀ base, s.baseline = some base →
    ProbeHeld s.mode base.account.state base.account.nextBillingProbe
  unsent : s.pending.account = none

theorem ProbesHeld.of_frame {s : VehicleScheduler} (h : s.ProbesHeld) (hframe : s'.frame = s.frame)
    (haccount : s'.account.ProbeHeld s'.mode) : s'.ProbesHeld where
  account := haccount
  baseline base hbase := by
    rw [mode_eq_of_frame hframe]
    exact h.baseline base ((baseline_eq_of_frame hframe).symm.trans hbase)
  unsent := (congrArg (fun frame : Frame => frame.unsent.account) hframe).trans h.unsent

/-- An input arms the list probe of a suspended account only. -/
theorem react_probesHeld {s : VehicleScheduler} (h : s.ProbesHeld) (m : Moment) (i : Input)
    (hsent : i.sentIn s.mode) : (s.react m i).ProbesHeld := by
  by_cases hi : i = .beginTick
  · subst hi
    refine ⟨h.account, ?_, h.unsent⟩
    intro base hbase
    cases hbase
    exact h.account
  · have hmoves := s.react_moves m i hi
    exact h.of_frame hmoves.frame (hmoves.probeHeld hsent h.account)

theorem commitFailed_probesHeld {s : VehicleScheduler} (h : s.ProbesHeld) (tick : PendingTick)
    (now : Instant) : (s.commitFailed tick now).ProbesHeld := by
  have hback : s.rollBack.account.ProbeHeld s.mode := by
    rw [rollBack_account]
    cases hbase : s.baseline with
    | none => exact h.account
    | some base => exact h.baseline base hbase
  refine ⟨?_, fun base hbase => ?_, ?_⟩
  · rw [(commitFailed_mode_timing ..).1, commitFailed_account]
    exact (hback.retainStop.retainProbe).congr (storeFailed_sameState ..)
  · cases hbase
  · rw [commitFailed_eq]
    exact h.unsent

theorem Committed.probesHeld {s : VehicleScheduler} (hc : s.Committed m outcome out)
    (h : s.ProbesHeld) : out.1.ProbesHeld := by
  have htaken : ((s.takeTick m).1).ProbesHeld := ⟨h.account, h.baseline, rfl⟩
  cases hc with
  | idle => exact htaken
  | failed otherWrites => exact commitFailed_probesHeld htaken _ _
  | succeeded otherWrites =>
    have haccount := h.account.congr (commitSucceeded_sameState (s.takeTick m).1
        (s.handedTick otherWrites m) m.now)
    refine ⟨haccount, ?_, rfl⟩
    intro base hbase
    cases hbase
    exact haccount
  | renewed =>
    refine ⟨h.account, ?_, rfl⟩
    intro base hbase
    cases hbase
    exact h.account

end VehicleScheduler

structure CollectorAccountRow.ProbeHeld (row : CollectorAccountRow) : Prop where
  held : Collector.ProbeHeld row.mode row.state row.nextProbeMs
  stored : row.state ≠ .credentialStop

namespace VehicleScheduler

theorem handedTick_probeHeld (h : s.ProbesHeld) (otherWrites : Bool) (m : Moment)
    {write : AccountWrite} (hwrite : (s.handedTick otherWrites m).account = some write) :
    write.row.ProbeHeld := by
  rw [handedTick, attachCounters_account] at hwrite
  have htick : (s.takeTick m).2.account =
      if s.accountView = s.persistedAccount then s.pending.account
      else some ⟨s.accountView, s.accountRow s.accountView m⟩ := rfl
  rw [htick, h.unsent] at hwrite
  split at hwrite
  · cases hwrite
  rename_i hview
  cases hwrite
  have hstop : s.account.state ≠ .credentialStop := fun hs => hview (by rw [accountView, if_pos hs])
  simp only [accountView, if_neg hstop, accountRow]
  refine ⟨⟨h.account.billing, fun hp => ?_⟩, hstop⟩
  rw [isSome_map] at hp
  exact h.account.probe hp

theorem loadAccount_probeHeld (s : VehicleScheduler) (row : CollectorAccountRow)
    (fingerprint : String) (m : Moment) (hrow : row.ProbeHeld)
    (hstate₀ : s.account.state = .collecting) (hprobe₀ : s.account.nextBillingProbe = none) :
    (s.loadAccount row fingerprint m).account.ProbeHeld s.mode := by
  have hstate : accountStateFromCode row.state = row.state := by
    have hstop := hrow.stored
    cases hs : row.state <;> first | rfl | exact absurd hs hstop
  unfold loadAccount
  dsimp only
  rw [hstate]
  split
  · rename_i hsame
    refine ⟨fun hs => hsame.1 ▸ hrow.held.billing hs, fun hp => ?_⟩
    rw [isSome_map] at hp
    exact hsame.1 ▸ hrow.held.probe hp
  · unfold AccountRecord.ProbeHeld
    split
    · rw [hprobe₀]
      exact ProbeHeld.none (fun hs => nomatch hs)
    · rw [hprobe₀, hstate₀]
      exact ProbeHeld.none (fun hs => nomatch hs)

theorem loadCounters_probeHeld (h : s.account.ProbeHeld s.mode)
    (rows : List CollectorCounterRow) (m : Moment) :
    (s.loadCounters rows m).account.ProbeHeld s.mode := by
  -- the counters move the account as a new month does
  have hmoved {a b : AccountRecord} (hmove : AccountMove s.mode .clock a b)
      (ha : a.ProbeHeld s.mode) :
      b.ProbeHeld s.mode := hmove.probeHeld rfl ha
  have hcap : (if (s.account.state = .capReached && (s.ledger.load rows m).capAllowsOneMore) then
      s.account.resumeFromCap m.now (s.wallOrLast m) else s.account).ProbeHeld s.mode := by
    split_ifs with hreached
    · simp only [Bool.and_eq_true, decide_eq_true_eq] at hreached
      exact hmoved (.leaveCap hreached.1) h
    · exact h
  have hmonth (a : AccountRecord) (ha : a.ProbeHeld s.mode) (c : Prop) [Decidable c] :
      (if c then a.noteNewMonth m.now else a).ProbeHeld s.mode := by
    split
    · exact hmoved .newMonth ha
    · exact ha
  exact hmonth _ hcap _

end VehicleScheduler

namespace Hub

structure ProbesHeld (hub : Hub) : Prop where
  scheduler : hub.scheduler.ProbesHeld
  row : ∀ row, hub.store.account = some row → row.ProbeHeld

variable {store : CollectorStore}

theorem beginRun_probeHeld (h : ∀ row, store.account = some row → row.ProbeHeld)
    (mode : CollectorMode) (fingerprint : String) (startMs : ℤ) :
    ∀ row, (store.beginRun mode fingerprint startMs).account = some row → row.ProbeHeld := by
  intro row hrow
  unfold CollectorStore.beginRun at hrow
  split at hrow
  · exact h row hrow
  rename_i old hold
  have hheld := h old hold
  split at hrow
  · exact h row hrow
  -- another mode or configuration: a state is reset, and a collecting row has no probe
  have hreset : row.state = .collecting ∧ row.nextProbeMs = none := by
    cases hrow
    split_ifs with hstate
    · refine ⟨hstate, ?_⟩
      cases hp : old.nextProbeMs with
      | none => rfl
      | some probe =>
        rcases hheld.held.probe (by rw [hp]; rfl) with hs | ⟨hs, _⟩ <;> rw [hstate] at hs <;>
          cases hs
    · exact ⟨rfl, rfl⟩
  refine ⟨?_, by rw [hreset.1]; decide⟩
  rw [hreset.1, hreset.2]
  exact ProbeHeld.none (fun hs => nomatch hs)

theorem start_probesHeld (h : ∀ row, store.account = some row → row.ProbeHeld)
    (process : ProcessStart) (m : Moment) : (start store process m).ProbesHeld := by
  have hrows := beginRun_probeHeld h process.mode process.fingerprint (m.wall.getD 0)
  have hloaded := start_loaded store process m
  refine ⟨⟨?_, ?_, ?_⟩, hrows⟩
  · let fresh := VehicleScheduler.newWith process.cadence process.mode process.fleet m
        process.jitter
    let snapshot := CollectorStateSnapshot.fromRows
      (store.beginRun process.mode process.fingerprint (m.wall.getD 0)) process.fingerprint
        process.configured
    have hloadedRows := VehicleScheduler.loadRows_loaded fresh snapshot m
    have haccount : (fresh.loadRows snapshot m).account.ProbeHeld fresh.mode := by
      rw [hloadedRows.2]
      cases hrow : snapshot.account with
      | none => exact ProbeHeld.none (fun hs => nomatch hs)
      | some row =>
        exact VehicleScheduler.loadAccount_probeHeld fresh row _ m (hrows row hrow) rfl rfl
    have hcounted := VehicleScheduler.loadCounters_probeHeld (hloadedRows.1.mode.symm ▸ haccount)
      snapshot.counters m
    exact hcounted
  · intro base hbase
    rw [hloaded.baseline] at hbase
    cases hbase
  · rw [hloaded.pending]
    rfl

theorem committed_probesHeld {hub : Hub} (h : hub.ProbesHeld)
    (hc : hub.scheduler.Committed m outcome out) :
    Hub.ProbesHeld ⟨hub.store.write out.2, out.1⟩ := by
  refine ⟨hc.probesHeld h.scheduler, fun row hrow => ?_⟩
  rw [CollectorStore.write_account] at hrow
  have hidle (hnone : out.2.account = none) : row.ProbeHeld := by
    rw [hnone] at hrow
    exact h.row row hrow
  cases hc with
  | idle => exact hidle rfl
  | failed => exact hidle rfl
  | renewed => exact hidle rfl
  | succeeded otherWrites =>
    cases hwrite : (hub.scheduler.handedTick otherWrites m).account with
    | none => exact hidle hwrite
    | some write =>
      rw [hwrite] at hrow
      cases hrow
      exact VehicleScheduler.handedTick_probeHeld h.scheduler otherWrites m hwrite

/-- So does every event, the stored row included. -/
theorem step_probesHeld (hub : Hub) (e : Event) (h : hub.ProbesHeld) (hsent : hub.sends e) :
    (hub.step e).ProbesHeld := by
  obtain ⟨time, what⟩ := e
  cases what with
  | input i => exact ⟨VehicleScheduler.react_probesHeld h.scheduler time i hsent, h.row⟩
  | commit needsStore transaction =>
    exact committed_probesHeld h (hub.scheduler.commitTick_committed needsStore transaction time)
  | stop recorded => exact committed_probesHeld h (hub.scheduler.finishRun_committed recorded time)
  | start process => exact start_probesHeld h.row process time

end Hub

def Happening.beginsRun : Happening → Bool
  | .start _ | .input .refreshStopAtStart => true
  | _ => false

def Happening.failsCommit : Happening → Bool
  | .commit _ .failed => true
  | _ => false

def Happening.isRoutine (what : Happening) : Bool :=
  !what.retriesCollection && !what.beginsRun && !what.failsCommit

namespace Hub

/-- No event but the owner's retry or a new run leaves a refusal. -/
theorem step_keeps_refusal (hub : Hub) (e : Event) (hroutine : e.what.isRoutine)
    (hs : hub.scheduler.account.state.isRefusal) :
    (hub.step e).scheduler.account.state = hub.scheduler.account.state ∧
    (hub.step e).scheduler.account.stateReason = hub.scheduler.account.stateReason := by
  obtain ⟨time, what⟩ := e
  cases what with
  | input i =>
    simp only [Happening.isRoutine, Bool.and_eq_true, Bool.not_eq_true'] at hroutine
    by_cases hi : i = .beginTick
    · subst hi
      exact ⟨rfl, rfl⟩
    · refine (hub.scheduler.react_moves time i hi).keeps_refusal hroutine.1.1 ?_ hs
      rintro rfl
      exact absurd hroutine.1.2 (by decide)
  | commit needsStore transaction =>
    cases transaction with
    | failed => cases hroutine
    | ran batchWrote =>
      have hsame := (hub.scheduler.commitTick_committed needsStore (.ran batchWrote) time).sameState
        hub.scheduler (hub.scheduler.tickOutcome_ran_ne_failed needsStore batchWrote time)
      exact ⟨hsame.state, hsame.reason⟩
  | stop recorded =>
    have hsame := (hub.scheduler.finishRun_committed recorded time).sameState hub.scheduler
      (by cases recorded <;> decide)
    exact ⟨hsame.state, hsame.reason⟩
  | start process => cases hroutine

theorem run_keeps_refusal (hub : Hub) (es : List Event) (hroutine : ∀ e ∈ es, e.what.isRoutine)
    (hs : hub.scheduler.account.state.isRefusal) :
    (hub.run es).scheduler.account.state = hub.scheduler.account.state ∧
    (hub.run es).scheduler.account.stateReason = hub.scheduler.account.stateReason := by
  refine List.foldlRecOn (motive := fun now : Hub => now.scheduler.account.state =
    hub.scheduler.account.state ∧
    now.scheduler.account.stateReason = hub.scheduler.account.stateReason) es _ ⟨rfl, rfl⟩ ?_
  rintro now ⟨hstate, hreason⟩ e he
  have hkeep := now.step_keeps_refusal e (hroutine e he) (by rw [hstate]; exact hs)
  exact ⟨hkeep.1.trans hstate, hkeep.2.trans hreason⟩

theorem run_probesHeld (process : ProcessStart) (m : Moment) (es : List Event)
    (hsent : RunRules.Along Hub.step (fun hub e => hub.sends e = true) (Hub.first process m) es) :
    ((Hub.first process m).run es).ProbesHeld :=
  RunRules.foldl_invariant step_probesHeld
    (start_probesHeld (fun row hrow => by cases hrow) process m) hsent

end Hub

namespace VehicleScheduler

variable (s : VehicleScheduler)

theorem nothing_due_of_ne_collecting (h : s.account.state ≠ .collecting) (m : Moment) :
    (s.dueVehicles m).2 = [] ∧ s.dueOfflineStateVehicles m.now = [] ∧ (s.dueProbeVehicles m.now).2 =
    [] := by
  have hallowed : s.requestsAllowed m.now = false := by
    simp [requestsAllowed, AccountRecord.requestsAllowed, h]
  have hadvanced : (s.advanceTimers m).requestsAllowed m.now = false := hallowed
  refine ⟨?_, ?_, ?_⟩
  · simp [dueVehicles, hadvanced]
  · simp [dueOfflineStateVehicles, hallowed]
  · simp [dueProbeVehicles, hallowed]

theorem ProbesHeld.discoveryDue {s : VehicleScheduler} (hheld : s.ProbesHeld)
    (h : s.account.state ≠ .collecting) {now : Instant} (hdue : s.discoveryDue now) :
    s.account.state = .billingSuspended ∧ s.account.nextBillingProbe.any (· ≤ now) := by
  unfold VehicleScheduler.discoveryDue listDueAt at hdue
  by_cases hstop : s.account.state = .credentialStop
  · rw [if_pos hstop] at hdue
    cases hdue
  · rw [if_neg hstop, if_pos h] at hdue
    cases hp : s.account.nextBillingProbe with
    | none =>
      rw [hp] at hdue
      cases hdue
    | some probe =>
      rw [hp] at hdue
      simp only [map_some, any_some, decide_eq_true_eq] at hdue ⊢
      have hle : probe ≤ s.account.afterWait probe := by
        unfold afterWait
        cases s.account.wait with
        | none => exact le_refl probe
        | some wait => exact le_max_left _ _
      refine ⟨?_, hle.trans hdue⟩
      rcases hheld.account.probe (by rw [hp]; rfl) with hs | ⟨hs, _⟩
      · exact hs
      · exact absurd hs hstop

end VehicleScheduler

namespace Hub

/-- A refused account stays in the refusal it entered first until the owner retries. -/
theorem refused_account_waits_for_the_owner (process : ProcessStart) (m : Moment) (es : List Event)
    (hsent : RunRules.Along Hub.step (fun hub e => hub.sends e = true) (Hub.first process m) es) :
    let hub := (Hub.first process m).run es
    (hub.scheduler.account.state.isRefusal → ∀ later, (∀ e ∈ later, e.what.isRoutine = true) →
      (hub.run later).scheduler.account.state = hub.scheduler.account.state ∧
        (hub.run later).scheduler.account.stateReason = hub.scheduler.account.stateReason) ∧
    (hub.scheduler.account.state ≠ .collecting → ∀ t : Moment,
      (hub.scheduler.dueVehicles t).2 = [] ∧ hub.scheduler.dueOfflineStateVehicles t.now = [] ∧
        (hub.scheduler.dueProbeVehicles t.now).2 = [] ∧
        (hub.scheduler.discoveryDue t.now → hub.scheduler.account.state = .billingSuspended ∧
          hub.scheduler.account.nextBillingProbe.any (· ≤ t.now))) := by
  intro hub
  have hheld := run_probesHeld process m es hsent
  refine ⟨fun hs later hroutine => run_keeps_refusal hub later hroutine hs, fun hs t => ?_⟩
  obtain ⟨hreads, hchecks, hprobes⟩ := hub.scheduler.nothing_due_of_ne_collecting hs t
  exact ⟨hreads, hchecks, hprobes, fun hdue => hheld.scheduler.discoveryDue hs hdue⟩

/-- A Fleet account whose list is refused with 403 stays refused through a later list and a new
month. -/
theorem refused_account_waits_for_the_owner_fleet :
    let hub := (Hub.first (.default .fleetPolling []) (.atSecond 0)).run
      [Input.atSecond 1 (.listFailed (.fleetApi (.httpStatus 403)))]
    let later := [Input.atSecond 2 (.list [.reported 1 .online]), Input.atSecond 4000000 .clock]
    hub.scheduler.account.state = .fleetAccessRefused ∧
      (hub.run later).scheduler.account.state = .fleetAccessRefused ∧
      (hub.scheduler.dueVehicles (.atSecond 2)).2 = [] := by
  have h := refused_account_waits_for_the_owner (.default .fleetPolling []) (.atSecond 0)
    [Input.atSecond 1 (.listFailed (.fleetApi (.httpStatus 403)))] (by decide +kernel)
  have hstate : ((Hub.first (.default .fleetPolling []) (.atSecond 0)).run
      [Input.atSecond 1 (.listFailed (.fleetApi (.httpStatus 403)))]).scheduler.account.state =
      .fleetAccessRefused := by decide +kernel
  refine ⟨hstate, ?_, ?_⟩
  · exact ((h.1 (by rw [hstate]; rfl) _ (by decide +kernel)).1).trans hstate
  · exact (h.2 (by rw [hstate]; decide) _).1

end Hub

end TeslatlasHub.Collector
