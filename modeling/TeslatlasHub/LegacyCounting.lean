import TeslatlasHub.LegacyStops

namespace TeslatlasHub.Credentials

open CredentialUnit LegacyAuthFuse

/-! ### The evidence -/

def Streak : ℕ → List Evidence → Prop
  | 0, _ => True
  | 1, .counted .. :: _ => True
  | k+2, .counted g t _ :: .counted g' t' a' :: older =>
    g ≠ g' ∧ rejectionWindowOpen t' t = true ∧ Streak (k+1) (.counted g' t' a' :: older)
  | _, _ => False

def Fresh (g : Uuid) (t : ℤ) (older : List Evidence) : Prop :=
  ∀ g' t' a' rest, older = .counted g' t' a' :: rest → rejectionWindowOpen t' t = true → g ≠ g'

def SoundLog : List Evidence → Prop
  | [] => True
  | .cleared :: older => SoundLog older
  | .counted g t action :: older =>
    Fresh g t older ∧ (action = .stop .accessTokenRejected →
      Streak 3 (.counted g t action :: older)) ∧
      SoundLog older

theorem Streak.pred :
    ∀ {k : ℕ} {evidence : List Evidence}, Streak (k+1) evidence → Streak k evidence
  | 0, _, _ => trivial
  | 1, .counted .. :: .counted .. :: _, _ => trivial
  | _+2, .counted .. :: .counted .. :: _, ⟨hne, hopen, hrest⟩ => ⟨hne, hopen, hrest.pred⟩

theorem Streak.mono {j k : ℕ} (hjk : j ≤ k) {evidence : List Evidence} (h : Streak k evidence) :
    Streak j evidence := by
  induction hjk with
  | refl => exact h
  | step _ ih => exact ih h.pred

variable {older newer : List Evidence}

theorem Streak.three {g : Uuid} {t : ℤ} {a : RejectionAction}
    (h : Streak 3 (.counted g t a :: older)) :
    ∃ g₂ t₂ a₂ g₁ t₁ a₁ rest, older = .counted g₂ t₂ a₂ :: .counted g₁ t₁ a₁ :: rest ∧
      g ≠ g₂ ∧ rejectionWindowOpen t₂ t ∧ g₂ ≠ g₁ ∧ rejectionWindowOpen t₁ t₂ := by
  match older, h with
  | .counted g₂ t₂ a₂ :: .counted g₁ t₁ a₁ :: rest, ⟨hne, hopen, hne', hopen', _⟩ =>
    exact ⟨g₂, t₂, a₂, g₁, t₁, a₁, rest, rfl, hne, hopen, hne', hopen'⟩

theorem SoundLog.entry {g : Uuid} {t : ℤ} {action : RejectionAction}
    (h : SoundLog (newer++.counted g t action :: older)) :
    Fresh g t older ∧ (action = .stop .accessTokenRejected →
    Streak 3 (.counted g t action :: older)) := by
  induction newer with
  | nil => exact ⟨h.1, h.2.1⟩
  | cons entry newer ih =>
    cases entry with
    | cleared => exact ih h
    | counted => exact ih h.2.2

namespace LegacyAuthFuse

def tally (fuse : LegacyAuthFuse) : Option Uuid × Option ℤ × ℕ :=
  (fuse.rejectedGeneration, fuse.lastRejectionAt, fuse.consecutive)

def Shows (tally : Option Uuid × Option ℤ × ℕ) : List Evidence → Prop
  | .counted g t a :: older =>
    tally.1 = some g ∧ tally.2.1 = some t ∧ 0 < tally.2.2 ∧
      Streak tally.2.2 (.counted g t a :: older)
  | _ => tally = (none, none, 0)

def Decided (fuse : LegacyAuthFuse) (evidence : List Evidence) (g : Uuid) (now : ℤ)
    (decision : LegacyAuthFuse × RejectionAction) : Prop :=
  decision.2.counts = false ∧ decision.1.tally = fuse.tally ∨
    decision.2.counts = true ∧ Shows decision.1.tally (.counted g now decision.2 :: evidence) ∧
      SoundLog (.counted g now decision.2 :: evidence)

variable {fuse : LegacyAuthFuse} {evidence : List Evidence}

variable {g : Uuid} {now : ℤ}

theorem fresh_of_not_alreadyCounted (hshows : Shows fuse.tally evidence)
    (h : fuse.alreadyCounted g now = false) : Fresh g now evidence := by
  rintro g' t' a' rest rfl hopen rfl
  obtain ⟨hgeneration, htime, -⟩ := hshows
  unfold alreadyCounted at h
  rw [show fuse.rejectedGeneration = some g from hgeneration, show fuse.lastRejectionAt =
    some t' from htime] at h
  simp only [beq_self_eq_true, Option.any_some, hopen, Bool.and_self, Bool.true_eq_false] at h

theorem streak_counted (hshows : Shows fuse.tally evidence) (hfresh : Fresh g now evidence)
    (action : RejectionAction) :
    Streak ((if fuse.windowPassed now then 0 else fuse.consecutive)+1)
      (.counted g now action :: evidence) := by
  split_ifs with hwindow
  · trivial
  match evidence with
  | [] | .cleared :: _ =>
    rw [show fuse.consecutive = 0 from congrArg (fun tally => tally.2.2) hshows]
    trivial
  | .counted g' t' a' :: older =>
    obtain ⟨hgeneration, htime, hpos, hstreak⟩ := hshows
    have hopen : rejectionWindowOpen t' now := by
      unfold windowPassed at hwindow
      rw [show fuse.lastRejectionAt = some t' from htime] at hwindow
      simpa only [Option.any_some, Bool.not_eq_true, Bool.not_eq_false'] using hwindow
    obtain ⟨k, hk⟩ := Nat.exists_eq_succ_of_ne_zero (Nat.pos_iff_ne_zero.mp hpos)
    rw [show fuse.consecutive = k+1 from hk]
    rw [hk] at hstreak
    exact ⟨hfresh g' t' a' older rfl hopen, hopen, hstreak⟩

theorem countRejection_decided (hshows : Shows fuse.tally evidence) (hsound : SoundLog evidence)
    {ctx : RejectionContext} (hholder : ctx.holder = .managed) (hsignIn : ctx.signIn = none)
    (hnew : fuse.alreadyCounted ctx.generation now = false) :
    Decided fuse evidence ctx.generation now (fuse.countRejection now ctx) := by
  have hfresh := fresh_of_not_alreadyCounted hshows hnew
  have hstreak (action : RejectionAction) := streak_counted hshows hfresh action
  unfold countRejection
  rw [hholder, hsignIn]
  generalize (if fuse.windowPassed now then 0 else fuse.consecutive) = k at hstreak ⊢
  have hcounted (action : RejectionAction) :
      Streak (min (k+1) fuseLimit) (.counted ctx.generation now action :: evidence) :=
    (hstreak action).mono (min_le_left _ _)
  have hpos : 0 < min (k+1) fuseLimit := lt_min (Nat.succ_pos k) (by decide)
  have hle : min (k+1) fuseLimit ≤ 3 := min_le_right _ _
  generalize min (k+1) fuseLimit = consecutive at hcounted hpos hle ⊢
  refine .inr ?_
  dsimp only
  split
  · rename_i hc
    cases hc
  · exact ⟨rfl, ⟨rfl, rfl, hpos, hcounted _⟩, hfresh, fun hc => (nomatch hc), hsound⟩
  · exact ⟨rfl, ⟨rfl, rfl, hpos, hcounted _⟩, hfresh, fun hc => (nomatch hc), hsound⟩
  · rename_i count _ _ _ hone htwo
    have hthree : count = 3 := by
      have h1 : count ≠ 1 := hone
      have h2 : count ≠ 2 := htwo
      omega
    refine ⟨rfl, ⟨rfl, rfl, hpos, hcounted _⟩, hfresh, fun _ => ?_, hsound⟩
    rw [hthree] at hcounted
    exact hcounted _

theorem countRejection_counts (fuse : LegacyAuthFuse) (now : ℤ) (ctx : RejectionContext) :
    (fuse.countRejection now ctx).2.counts := by
  unfold countRejection
  generalize min ((if fuse.windowPassed now then 0 else fuse.consecutive)+1) fuseLimit = consecutive
  dsimp only
  split
  · rfl
  · split <;> rfl
  · split <;> rfl

theorem recordRejection_decided (hshows : Shows fuse.tally evidence) (hsound : SoundLog evidence)
    (ctx : RejectionContext) (hholder : ctx.holder = .managed) (hsignIn : ctx.signIn = none) :
    Decided fuse evidence ctx.generation now (fuse.recordRejection now ctx) ∧
    ((fuse.recordRejection now ctx).2 = .confirm → (fuse.recordRejection now ctx).1 = fuse ∧
    fuse.alreadyCounted ctx.generation now = false) := by
  have hkept (action : RejectionAction) (hcounts : action.counts = false) :
      Decided fuse evidence ctx.generation now (fuse, action) := .inl ⟨hcounts, rfl⟩
  unfold recordRejection
  split
  · exact ⟨hkept .retryWithCurrent rfl, fun hc => (nomatch hc)⟩
  split
  · exact ⟨hkept .notCounted rfl, fun hc => (nomatch hc)⟩
  split
  · rw [hholder, if_pos (by rfl)]
    exact ⟨hkept .coalesced rfl, fun hc => (nomatch hc)⟩
  rename_i hnew
  rw [Bool.not_eq_true] at hnew
  unfold judgeRejection
  split
  · split
    · exact ⟨hkept (.vehicleRejected _) rfl, fun hc => (nomatch hc)⟩
    · exact ⟨hkept .confirm rfl, fun _ => ⟨rfl, hnew⟩⟩
  · have hdecided := countRejection_decided hshows hsound hholder hsignIn hnew
    refine ⟨hdecided, fun hconfirm => ?_⟩
    have hcounts := countRejection_counts fuse now ctx
    rw [hconfirm] at hcounts
    cases hcounts

theorem alreadyCounted_congr {fuse' : LegacyAuthFuse} (h : fuse'.tally = fuse.tally) (g : Uuid)
    (now : ℤ) : fuse'.alreadyCounted g now = fuse.alreadyCounted g now := by
  unfold alreadyCounted
  rw [show fuse'.rejectedGeneration = fuse.rejectedGeneration from congrArg Prod.fst h,
    show fuse'.lastRejectionAt = fuse.lastRejectionAt from congrArg (fun tally => tally.2.1) h]

theorem alreadyCounted_later {later : ℤ} (hlater : now ≤ later)
    (h : fuse.alreadyCounted g now = false) : fuse.alreadyCounted g later = false := by
  unfold alreadyCounted at h ⊢
  rw [Bool.and_eq_false_iff] at h ⊢
  refine h.imp_right fun hclosed => ?_
  cases htime : fuse.lastRejectionAt with
  | none => rfl
  | some t =>
    rw [htime] at hclosed
    simp only [Option.any_some, rejectionWindowOpen, decide_eq_false_iff_not, not_le] at hclosed ⊢
    omega

theorem alreadyCounted_cleared (h : fuse.tally = (none, none, 0)) (g : Uuid) (now : ℤ) :
    fuse.alreadyCounted g now = false := by
  unfold alreadyCounted
  rw [show fuse.rejectedGeneration = none from congrArg Prod.fst h]
  rfl

end LegacyAuthFuse

def AuthStop.blamesToken : AuthStop → Bool
  | .signInRequired .accessTokenRejected | .signedOut .accessTokenRejected => true
  | _ => false

def Blamed (evidence : List Evidence) : Prop :=
  ∃ g t, .counted g t (.stop .accessTokenRejected) ∈ evidence

def Accounted (evidence : List Evidence) (stop : AuthStop) : Prop :=
  stop.blamesToken = true → Blamed evidence

theorem Accounted.rule (evidence : List Evidence) : StopRule (Accounted evidence) := by
  constructor
  case refused => exact fun reason hb => (nomatch hb)
  case expires =>
    intro reason h hb
    refine h ?_
    cases reason <;> exact hb
  all_goals exact fun hb => (nomatch hb)

theorem Blamed.mono {evidence : List Evidence} (h : Blamed evidence) (hsub : evidence ⊆ newer) :
    Blamed newer := by
  obtain ⟨g, t, hmem⟩ := h
  exact ⟨g, t, hsub hmem⟩

namespace CredentialUnit

structure CountingSound (u : CredentialUnit) : Prop where
  handoff : u.manager.fuseHandoff = none
  shows : LegacyAuthFuse.Shows u.fuse.tally u.evidence
  sound : SoundLog u.evidence
  stops : u.auth.StopsIn (Accounted u.evidence)

variable {u : CredentialUnit}

theorem syncFuse_tally (h : u.manager.fuseHandoff = none) :
    u.syncFuse.evidence = u.evidence ∧ u.syncFuse.fuse.tally = u.fuse.tally ∨ u.syncFuse.evidence =
    .cleared :: u.evidence ∧ u.syncFuse.fuse.tally = (none, none, 0) := by
  unfold syncFuse
  dsimp only
  by_cases hreset : u.manager.fuseResetPending
  · rw [if_pos hreset]
    refine .inr ?_
    split_ifs <;> exact ⟨rfl, rfl⟩
  · rw [if_neg hreset]
    refine .inl ?_
    rw [h]
    split_ifs <;> exact ⟨rfl, rfl⟩

theorem syncFuse_holder (u : CredentialUnit) :
    u.syncFuse.now = u.now ∧ u.syncFuse.manager.holder = u.manager.holder ∧ u.syncFuse.signIn =
    u.signIn := by
  unfold syncFuse
  dsimp only
  split_ifs <;> split <;> exact ⟨rfl, rfl, rfl⟩

theorem syncFuse_evidence (h : u.manager.fuseHandoff = none) :
    u.evidence ⊆ u.syncFuse.evidence := by
  obtain ⟨hevidence, -⟩ | ⟨hevidence, -⟩ := syncFuse_tally h
  · rw [hevidence]
    exact List.Subset.refl _
  · rw [hevidence]
    exact List.subset_cons_self _ _

variable {g : Uuid} {now : ℤ}

theorem syncFuse_alreadyCounted (h : u.manager.fuseHandoff = none)
    (hnew : u.fuse.alreadyCounted g now = false) :
    u.syncFuse.fuse.alreadyCounted g now = false := by
  obtain ⟨-, htally⟩ | ⟨-, htally⟩ := syncFuse_tally h
  · rw [alreadyCounted_congr htally]
    exact hnew
  · exact alreadyCounted_cleared htally g now

theorem CountingSound.syncFuse (h : u.CountingSound) : u.syncFuse.CountingSound := by
  have hstops : u.syncFuse.auth.StopsIn (Accounted u.syncFuse.evidence) := by
    intro stop hstop hblames
    rw [syncFuse_stop] at hstop
    exact (h.stops stop hstop hblames).mono (syncFuse_evidence h.handoff)
  obtain ⟨hevidence, htally⟩ | ⟨hevidence, htally⟩ := syncFuse_tally h.handoff
  · refine ⟨u.syncFuse_handoff, ?_, ?_, hstops⟩
    · rw [hevidence, htally]
      exact h.shows
    · rw [hevidence]
      exact h.sound
  · refine ⟨u.syncFuse_handoff, ?_, ?_, hstops⟩
    · rw [hevidence]
      exact htally
    · rw [hevidence]
      exact h.sound

theorem CountingSound.withFuse (h : u.CountingSound) {fuse : LegacyAuthFuse}
    (htally : fuse.tally = u.fuse.tally) (now : ℤ) : CountingSound { u with fuse, now } := by
  refine ⟨h.handoff, ?_, h.sound, h.stops⟩
  rw [htally]
  exact h.shows

theorem judged_holder (u : CredentialUnit) (g : Uuid) (decision : LegacyAuthFuse × RejectionAction)
    :
    (u.judged g decision).now = u.now ∧ (u.judged g decision).manager.holder = u.manager.holder ∧
      (u.judged g decision).signIn = u.signIn := syncFuse_holder _

variable {decision : LegacyAuthFuse × RejectionAction}

theorem judged_alreadyCounted (h : u.manager.fuseHandoff = none)
    (hnew : decision.1.alreadyCounted g now = false) :
    (u.judged g decision).fuse.alreadyCounted g now = false := by
  unfold judged
  generalize (if decision.2.counts then _ else u.evidence) = evidence
  exact syncFuse_alreadyCounted (u := { u with fuse := decision.1, evidence }) h hnew

theorem CountingSound.judged (h : u.CountingSound)
    (hdecided : LegacyAuthFuse.Decided u.fuse u.evidence g u.now decision) :
    (u.judged g decision).CountingSound ∧ (decision.2.counts → .counted g u.now decision.2 ∈
    (u.judged g decision).evidence) := by
  unfold CredentialUnit.judged
  obtain ⟨hcounts, htally⟩ | ⟨hcounts, hshows, hsound⟩ := hdecided
  · rw [hcounts]
    exact ⟨(h.withFuse htally u.now).syncFuse, fun hc => (nomatch hc)⟩
  · rw [hcounts]
    have hnoted : CountingSound
        { u with fuse := decision.1, evidence := .counted g u.now decision.2 :: u.evidence } :=
      ⟨h.handoff, hshows, hsound, fun stop hstop hb => (h.stops stop hstop hb).mono
        (List.subset_cons_self _ _)⟩
    exact ⟨hnoted.syncFuse, fun _ => syncFuse_evidence hnoted.handoff List.mem_cons_self⟩

theorem CountingSound.carryOut (h : u.CountingSound)
    (hdecided : LegacyAuthFuse.Decided u.fuse u.evidence g u.now decision) :
    ((u.judged g decision).carryOut decision.2).CountingSound := by
  obtain ⟨hjudged, hentry⟩ := h.judged hdecided
  cases haction : decision.2 with
  | stop reason =>
    have hstopped : ((u.judged g decision).stopAccount reason).CountingSound := by
      refine ⟨hjudged.handoff, hjudged.shows, hjudged.sound, fun stop hstop hblames => ?_⟩
      cases hstop
      have hreason : reason = .accessTokenRejected := by
        cases reason <;> first | rfl | cases hblames
      rw [haction, hreason] at hentry
      exact ⟨g, u.now, hentry rfl⟩
    exact hstopped.syncFuse
  | observerWait =>
    have hwaits : CountingSound
        { u.judged g decision with manager := { (u.judged g decision).manager with
        auth := { (u.judged g decision).auth with observerRejected := true }
        lastStoredCheck := (u.judged g decision).now } } :=
      ⟨hjudged.handoff, hjudged.shows, hjudged.sound, hjudged.stops⟩
    exact hwaits.syncFuse
  | retryWithCurrent | notCounted | coalesced | vehicleRejected | confirm | forceRefreshThenRetry
  | pauseThenRefresh | pauseThenConfirm => exact hjudged

theorem CountingSound.noteSuccess (h : u.CountingSound) (scope : RequestScope)
    (carried : Carried) : (u.noteSuccess scope carried).CountingSound := by
  unfold CredentialUnit.noteSuccess
  split
  · have hcleared : CountingSound
        { u with fuse := u.fuse.recordSuccess scope, evidence := .cleared :: u.evidence } :=
      ⟨h.handoff, rfl, h.sound, fun stop hstop hb => (h.stops stop hstop hb).mono
        (List.subset_cons_self _ _)⟩
    exact hcleared.syncFuse
  · exact h.syncFuse

theorem CountingSound.finished (h : u.CountingSound) :
    CountingSound { u with fuse := u.fuse.finishConfirmation } := ⟨h.handoff, h.shows, h.sound,
      h.stops⟩

theorem beginConfirmation_tally {fuse begun : LegacyAuthFuse}
    (h : fuse.beginConfirmation now = some begun) : begun.tally = fuse.tally := by
  unfold beginConfirmation at h
  split at h
  · cases h
  · cases h
    rfl

theorem CountingSound.confirmationRead (h : u.CountingSound) (carried : Carried)
    (read : ReadAnswer) (later : ℤ) : (u.confirmationRead carried read later).1.CountingSound := by
  unfold CredentialUnit.confirmationRead
  split
  · exact h
  rename_i fuse hbegun
  have htally := beginConfirmation_tally hbegun
  split
  · exact (h.withFuse htally u.now).finished
  · have hanswered := h.withFuse htally later
    split
    · exact (hanswered.noteSuccess .account carried).finished
    · exact hanswered.syncFuse.finished

variable {later : ℤ}

variable {read : ReadAnswer}

theorem confirmationRead_found {found : CredentialUnit} {carried : Carried}
    (h : u.manager.fuseHandoff = none)
    (hfind : u.confirmationRead carried read later = (found, some .unauthorised)) :
    read = .unauthorised ∧ found.now = later ∧ found.manager.holder = u.manager.holder ∧
    found.signIn = u.signIn ∧ ∀ g, u.fuse.alreadyCounted g later = false → found.fuse.alreadyCounted
    g later = false := by
  unfold confirmationRead at hfind
  split at hfind
  · cases hfind
  rename_i fuse hbegun
  split at hfind
  · cases hfind
  rw [Prod.mk.injEq, Option.some.injEq] at hfind
  obtain ⟨hfound, rfl⟩ := hfind
  subst hfound
  obtain ⟨hnow, hholder, hsignIn⟩ := syncFuse_holder { u with fuse, now := later }
  refine ⟨rfl, hnow, hholder, hsignIn, fun g hnew => ?_⟩
  refine syncFuse_alreadyCounted (u := { u with fuse, now := later }) h ?_
  rw [alreadyCounted_congr (beginConfirmation_tally hbegun)]
  exact hnew

/-- A confirmed rejection is counted once for its generation. -/
theorem CountingSound.countConfirmed [TokenClaims] (h : u.CountingSound)
    (hholder : u.manager.holder = .managed) (hsignIn : u.signIn = none) (carried : Carried)
    (hnew : u.fuse.alreadyCounted carried.generation u.now = false) :
    (u.countConfirmed carried).CountingSound := by
  have hdecided : LegacyAuthFuse.Decided u.fuse u.evidence carried.generation u.now
      (u.fuse.countRejection u.now (u.rejectionContext .account carried.generation)) :=
    countRejection_decided h.shows h.sound hholder hsignIn hnew
  exact h.carryOut hdecided

theorem CountingSound.handleUnauthorised [TokenClaims] (h : u.CountingSound)
    (hholder : u.manager.holder = .managed) (hsignIn : u.signIn = none) (scope : RequestScope)
    (carried : Carried) (read : ReadAnswer) (hlater : u.now ≤ later)  :
    (u.handleUnauthorised scope carried read later).CountingSound := by
  unfold CredentialUnit.handleUnauthorised
  generalize hdecision : (if u.isCurrent carried then
    u.fuse.recordRejection u.now (u.rejectionContext scope carried.generation)
    else (u.fuse, .retryWithCurrent)) = decision
  have hdecided : LegacyAuthFuse.Decided u.fuse u.evidence carried.generation u.now decision ∧
      (decision.2 = .confirm → decision.1 = u.fuse ∧ u.fuse.alreadyCounted carried.generation
        u.now = false) := by
    rw [← hdecision]
    split
    · exact recordRejection_decided h.shows h.sound
        (u.rejectionContext scope carried.generation) hholder hsignIn
    · exact ⟨.inl ⟨rfl, rfl⟩, fun hc => (nomatch hc)⟩
  obtain ⟨hdecided, hconfirm⟩ := hdecided
  obtain ⟨hjudged, -⟩ := h.judged hdecided
  have hread := hjudged.confirmationRead carried read later
  dsimp only
  split_ifs with hc
  · obtain ⟨hfuse, hnew⟩ := hconfirm hc
    split
    · rename_i found hfind
      rw [hfind] at hread
      split
      · have hmarked (id : ℕ) : CountingSound
            { found with fuse := found.fuse.markVehicleRejected id carried.generation } :=
          ⟨hread.handoff, hread.shows, hread.sound, hread.stops⟩
        exact (hmarked _).syncFuse
      · exact hread.syncFuse
    · rename_i found hfind
      rw [hfind] at hread
      obtain ⟨-, hnow, hholder', hsignIn', hcounted⟩ := confirmationRead_found hjudged.handoff hfind
      obtain ⟨-, hjudgedHolder, hjudgedSignIn⟩ := judged_holder u carried.generation decision
      refine hread.countConfirmed (hholder'.trans (hjudgedHolder.trans hholder))
        (hsignIn'.trans (hjudgedSignIn.trans hsignIn)) carried ?_
      rw [hnow]
      refine hcounted _ (judged_alreadyCounted h.handoff ?_)
      rw [hfuse]
      exact alreadyCounted_later hlater hnew
    · rename_i found _ _ _ hfind
      rw [hfind] at hread
      exact hread
  · exact h.carryOut hdecided

theorem CountingSound.confirmStreamRejection [TokenClaims] (h : u.CountingSound)
    (hholder : u.manager.holder = .managed) (hsignIn : u.signIn = none)
    (hnew : read = .unauthorised → u.syncFuse.fuse.alreadyCounted u.syncFuse.manager.generation
    later = false) : (u.confirmStreamRejection read later).CountingSound := by
  unfold CredentialUnit.confirmStreamRejection
  have hsynced := h.syncFuse
  have hread := hsynced.confirmationRead u.syncFuse.carried read later
  obtain ⟨-, hholder', hsignIn'⟩ := u.syncFuse_holder
  dsimp only
  split
  · exact hsynced
  split
  · rename_i found hfind
    rw [hfind] at hread
    exact ⟨hread.handoff, hread.shows, hread.sound, hread.stops⟩
  · rename_i found hfind
    rw [hfind] at hread
    obtain ⟨hunauthorised, hnow, hfoundHolder, hfoundSignIn, hcounted⟩ :=
      confirmationRead_found hsynced.handoff hfind
    refine hread.countConfirmed (hfoundHolder.trans (hholder'.trans hholder))
      (hfoundSignIn.trans (hsignIn'.trans hsignIn)) _ ?_
    rw [hnow]
    exact hcounted _ (hnew hunauthorised)
  · rename_i found _ _ _ hfind
    rw [hfind] at hread
    exact hread

end CredentialUnit

/-- A rejection is met by a pair that can be renewed, outside `sign_in_required`, and a stream's by
one not counted yet in an open window. -/
def UnitAction.countsOnce (u : CredentialUnit) : UnitAction → Prop
  | .unauthorised _ _ _ later => u.manager.holder = .managed ∧ u.signIn = none ∧ u.now ≤ later
  | .streamRejected read later =>
    u.manager.holder = .managed ∧ u.signIn = none ∧
      (read = .unauthorised → u.syncFuse.fuse.alreadyCounted u.syncFuse.manager.generation later =
        false)
  | _ => True

instance (u : CredentialUnit) : (action : UnitAction) → Decidable (action.countsOnce u)
  | .unauthorised _ _ _ later =>
    inferInstanceAs (Decidable (u.manager.holder = .managed ∧ u.signIn = none ∧ u.now ≤ later))
  | .streamRejected read later =>
    inferInstanceAs (Decidable (u.manager.holder = .managed ∧ u.signIn = none ∧
      (read = .unauthorised → u.syncFuse.fuse.alreadyCounted u.syncFuse.manager.generation later =
        false)))
  | .clock _ | .dated _ | .sync | .service _ | .refresh .. | .recheck _ | .begin _ | .cancel
      .. | .send
  | .answer _ | .panic | .succeeded .. | .ownerRetry _ | .shutdown =>
    inferInstanceAs (Decidable True)

namespace CredentialUnit

/-- Whatever the unit does, its fuse counts what the evidence says. -/
theorem CountingSound.step [TokenClaims] {u : CredentialUnit} (h : u.CountingSound)
    {action : UnitAction} (hcounts : action.countsOnce u) : (u.step action).CountingSound := by
  have rule := Accounted.rule u.evidence
  have hmanaged {manager : LegacyAuthManager} (hframe : StopFrame (Accounted u.evidence)
      u.manager manager)
      (now : ℤ) : CountingSound { u with now, manager } :=
    ⟨hframe.handoff.trans h.handoff, h.shows, h.sound, hframe.stops h.stops⟩
  cases action with
  | clock now => exact hmanaged (StopFrame.refl _) now
  | dated | shutdown => exact ⟨h.handoff, h.shows, h.sound, h.stops⟩
  | sync => exact h.syncFuse
  | service store => exact hmanaged (StopFrame.settle rule u.manager u.now store) u.now
  | refresh forced later first second pinnedIssuer =>
    exact hmanaged (StopFrame.refresh rule u.manager u.now forced later first second pinnedIssuer)
      later
  | recheck store =>
    change CountingSound (if u.manager.stopView u.now then
      { u with manager := u.manager.recheckStopped u.now store } else u)
    split
    · exact hmanaged (StopFrame.recheckStopped rule u.manager u.now store) u.now
    · exact h
  | unauthorised scope carried read later =>
    obtain ⟨hholder, hsignIn, hlater⟩ := hcounts
    exact h.handleUnauthorised hholder hsignIn scope carried read hlater
  | streamRejected read later =>
    obtain ⟨hholder, hsignIn, hnew⟩ := hcounts
    exact h.confirmStreamRejection hholder hsignIn hnew
  | succeeded scope carried => exact h.noteSuccess scope carried
  | ownerRetry unresolved =>
    exact hmanaged (StopFrame.ownerRetry rule u.manager u.now unresolved) u.now
  | begin | cancel | send | answer | panic =>
    obtain ⟨flight, sent, hstep⟩ := u.exchangeStep_frame _
    change CountingSound (u.exchangeStep _)
    rw [hstep]
    exact ⟨h.handoff, h.shows, h.sound, h.stops⟩

/-- A pair that can be renewed is signed out because of its token only after three counted
rejections, each of another generation than the one before it and within its window. -/
theorem token_is_blamed_after_three_generations [TokenClaims] {u : CredentialUnit}
    (hfuse : u.fuse.tally = (none, none, 0)) (hhandoff : u.manager.fuseHandoff = none)
    (hlog : u.evidence = []) (hstop : u.auth.StopsIn fun stop => stop.blamesToken = false)
    {actions : List UnitAction}
    (hcounts : RunRules.Along CredentialUnit.step (fun u action => action.countsOnce u) u actions) :
    (∀ newer g t action older,
        (actions.foldl CredentialUnit.step u).evidence = newer++.counted g t action :: older →
        (∀ g' t' a' rest, older = .counted g' t' a' :: rest → rejectionWindowOpen t' t = true →
          g ≠ g') ∧
        (action = .stop .accessTokenRejected → ∃ g₂ t₂ a₂ g₁ t₁ a₁ rest,
          older = .counted g₂ t₂ a₂ :: .counted g₁ t₁ a₁ :: rest ∧
          g ≠ g₂ ∧ rejectionWindowOpen t₂ t = true ∧ g₂ ≠ g₁ ∧ rejectionWindowOpen t₁ t₂ = true)) ∧
      ((actions.foldl CredentialUnit.step u).auth.stop = some (.signedOut .accessTokenRejected) →
        ∃ g t, .counted g t (.stop .accessTokenRejected) ∈
          (actions.foldl CredentialUnit.step u).evidence) := by
  have hstart : u.CountingSound := by
    refine ⟨hhandoff, ?_, ?_, fun stop hs hb => ?_⟩
    · rw [hlog]
      exact hfuse
    · rw [hlog]
      trivial
    · rw [hstop stop hs] at hb
      cases hb
  have hreached := RunRules.foldl_invariant (I := CountingSound) (fun _ _ h hc => h.step hc) hstart
      hcounts
  refine ⟨fun newer g t action older hsplit => ?_, fun hs => hreached.stops _ hs rfl⟩
  have hsound := hreached.sound
  rw [hsplit] at hsound
  obtain ⟨hfresh, hthree⟩ := hsound.entry
  exact ⟨hfresh, fun haction => (hthree haction).three⟩

def rotates (access refresh : String) : ExchangeAnswer :=
  let wire : WireAnswer :=
    { accessToken := some (.text access.toList), refreshToken := some (.text refresh.toList) }
  { exchange := .answer { status := 200, body := .complete (some wire) none false } }

def threePairs : List UnitAction :=
  [.unauthorised .account ⟨1, "a".toList⟩ .other validNow,
    .refresh true validNow {} {} none, .begin (.ok 7), .send, .answer (rotates "bb" "rr"),
      .service {},
    .unauthorised .account ⟨2, "bb".toList⟩ .other validNow, .clock (validNow+400),
    .refresh false (validNow+400) {} {} none, .begin (.ok 8), .send, .answer (rotates "ccc" "rrr"),
      .service {},
    .unauthorised .account ⟨3, "ccc".toList⟩ .other (validNow+400)]

theorem token_is_blamed_after_three_generations_threePairs :
    (threePairs.foldl (@CredentialUnit.step opaqueTokens) (managedUnit 1)).auth.stop =
        some (.signedOut .accessTokenRejected) ∧
      ∃ g t, .counted g t (.stop .accessTokenRejected) ∈
        (threePairs.foldl (@CredentialUnit.step opaqueTokens) (managedUnit 1)).evidence := by
  have hstopped : (threePairs.foldl (@CredentialUnit.step opaqueTokens) (managedUnit 1)).auth.stop =
      some (.signedOut .accessTokenRejected) := by decide +kernel
  exact ⟨hstopped, (@token_is_blamed_after_three_generations opaqueTokens (managedUnit 1) rfl rfl
    rfl
    (fun _ hs => (nomatch hs)) threePairs (by decide +kernel)).2 hstopped⟩

def streamReports : List UnitAction :=
  let fails : ExchangeAnswer := { exchange := .answer { status := 500, body := .tooLarge } }
  [.unauthorised .account ⟨1, "a".toList⟩ .other validNow,
    .refresh true validNow {} {} none, .begin (.ok 7), .send, .answer fails, .clock (validNow+60),
    .streamRejected .unauthorised (validNow+60), .clock (validNow+400),
    .refresh false (validNow+400) {} {} none, .begin (.ok 8), .send, .answer fails,
    .streamRejected .unauthorised (validNow+400)]

/-- A stream's confirmation read counts a generation again: one pair signs the account out within
seven minutes. -/
theorem one_generation_is_counted_three_times :
    (streamReports.foldl (@CredentialUnit.step opaqueTokens) (managedUnit 1)).auth.stop =
        some (.signedOut .accessTokenRejected) ∧
      (streamReports.foldl (@CredentialUnit.step opaqueTokens) (managedUnit 1)).evidence =
        [.counted 1 (validNow+400) (.stop .accessTokenRejected),
          .counted 1 (validNow+60) (.pauseThenRefresh (validNow+360)),
          .counted 1 validNow .forceRefreshThenRetry] := by
  decide +kernel

end CredentialUnit

end TeslatlasHub.Credentials
