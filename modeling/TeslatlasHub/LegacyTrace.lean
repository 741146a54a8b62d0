import TeslatlasHub.Interleaving
import TeslatlasHub.LegacyRegister

namespace TeslatlasHub.Credentials

open LogEvent RunRules SingleUse List Option
open Interleaving (AtEach atEach_nil atEach_concat)

variable {sys : System} {r : ℤ} {g : Uuid} {log pre es : List LogEvent}

def AttemptClass.spends : AttemptClass → Bool
  | .rotated | .unknown | .consumedWithoutSuccessor | .dead => true
  | .notSent | .notRotated | .clientRefused | .requestRejected | .refused | .misrouted | .blocked
  | .transient | .notRenewed => false

namespace LogEvent

def shows (r : ℤ) : LogEvent → Bool
  | .presented receipt _ => receipt == r
  | _ => false

def judges (r : ℤ) : LogEvent → Bool
  | .verdict receipt _ _ => receipt == r
  | _ => false

def condemns (r : ℤ) : LogEvent → Bool
  | .verdict receipt _ kind => receipt == r && kind.spends
  | _ => false

def frees (r : ℤ) : LogEvent → Bool
  | .cancelled receipt _ | .unrotated receipt _ => receipt == r
  | .closed receipt _ release => receipt == r && release
  | _ => false

theorem judges_of_condemns {e : LogEvent} (h : e.condemns r) : e.judges r := by
  cases e with
  | verdict receipt input kind => exact (Bool.and_eq_true_iff.mp h).1
  | _ => cases h

end LogEvent

theorem not_condemned_of_not_judged (h : log.any (LogEvent.judges r) = false) :
    log.any (LogEvent.condemns r) = false := by
  rw [List.any_eq_false] at h ⊢
  intro e he hc
  exact h e he (judges_of_condemns hc)

def Justified (pre : List LogEvent) : LogEvent → Prop
  | .presented r g => .begun r g ∈ pre ∧ pre.any (LogEvent.shows r) = false ∧
      pre.any (LogEvent.judges r) = false ∧ pre.any (LogEvent.frees r) = false
  | .verdict r g _ => .presented r g ∈ pre ∧ pre.any (LogEvent.frees r) = false
  | .cancelled r g | .unrotated r g => .begun r g ∈ pre ∧ pre.any (LogEvent.condemns r) = false
  | .closed r g release =>
    .begun r g ∈ pre ∧ (release = true → pre.any (LogEvent.condemns r) = false)
  | .replaced _ overtaken => ∀ a ∈ overtaken, .begun a.1 a.2 ∈ pre
  | .begun .. | .completed .. => True

def Orderly (log : List LogEvent) : Prop := AtEach Justified log

variable {e : LogEvent}

theorem Orderly.presented_begun (h : Orderly log) (hm : .presented r g ∈ log) :
    .begun r g ∈ log := by
  obtain ⟨pre, post, rfl⟩ := append_of_mem hm
  exact mem_append_left _ (h pre _ post rfl).1

variable {k : AttemptClass} {s s' : HubStore} {pruneClock : Option ℕ} {successor : SuccessorPair}
  {x : ExchangeInput}

theorem Orderly.verdict_begun (h : Orderly log) (hm : .verdict r g k ∈ log) : .begun r g ∈ log := by
  obtain ⟨pre, post, rfl⟩ := append_of_mem hm
  exact h.presented_begun (mem_append_left _ (h pre _ post rfl).1)

theorem Orderly.begun_of_frees (h : Orderly log) (hm : e ∈ log) (hf : e.frees r) :
    ∃ g, .begun r g ∈ log := by
  obtain ⟨pre, post, rfl⟩ := append_of_mem hm
  have hj := h pre _ post rfl
  cases e with
  | cancelled receipt input | unrotated receipt input =>
    cases beq_iff_eq.mp hf
    exact ⟨input, mem_append_left _ hj.1⟩
  | closed receipt input release =>
    cases beq_iff_eq.mp (Bool.and_eq_true_iff.mp hf).1
    exact ⟨input, mem_append_left _ hj.1⟩
  | begun | presented | verdict | completed | replaced => cases hf

def Proc.attempt? : Proc → Option Attempt
  | .idle => none
  | .reserved attempt _ | .cancelling attempt | .sent attempt _ | .closing attempt _ => some attempt
  | .owed (.cancel attempt) | .owed (.close attempt _) => some attempt
  | .persisting successor | .pending successor => some successor.attempt

def Proc.unsettled : Proc → Option ℤ
  | .reserved attempt _ | .sent attempt _ => some attempt.receipt
  | .idle | .cancelling .. | .closing .. | .persisting .. | .owed .. | .pending .. => none

variable {proc : Proc}

theorem Proc.attempt_of_unsettled (h : proc.unsettled = some r) :
    ∃ a, proc.attempt? = some a ∧ a.receipt = r := by
  cases proc with
  | reserved a | sent a => exact ⟨a, rfl, some.inj h⟩
  | idle | cancelling | closing | persisting | owed | pending => cases h

def Phase (log : List LogEvent) : Proc → Prop
  | .idle => True
  | .reserved a _ => log.any (LogEvent.shows a.receipt) = false ∧
      log.any (LogEvent.judges a.receipt) = false ∧ log.any (LogEvent.frees a.receipt) = false
  | .sent a _ => .presented a.receipt a.input ∈ log ∧ log.any (LogEvent.judges a.receipt) = false ∧
      log.any (LogEvent.frees a.receipt) = false
  | .cancelling a | .owed (.cancel a) => log.any (LogEvent.condemns a.receipt) = false
  | .closing a c | .owed (.close a c) =>
    c.releaseInput = true → log.any (LogEvent.condemns a.receipt) = false
  | .persisting s | .pending s =>
    s.output = s.attempt.input → log.any (LogEvent.condemns s.attempt.receipt) = false

theorem Phase.append (h : Phase log proc)
    (hjudges : ∀ a, proc.attempt? = some a → es.any (LogEvent.judges a.receipt) = false)
    (hshows : ∀ r, proc.unsettled = some r → es.any (LogEvent.shows r) = false)
    (hfrees : ∀ r, proc.unsettled = some r → es.any (LogEvent.frees r) = false) :
    Phase (log++es) proc := by
  have hcondemns (a : Attempt) (ha : proc.attempt? = some a)
      (hlog : log.any (condemns a.receipt) = false) :
      (log++es).any (condemns a.receipt) = false := by
    rw [any_append, hlog, not_condemned_of_not_judged (hjudges a ha)]
    rfl
  cases proc with
  | idle => trivial
  | reserved a x =>
    obtain ⟨hs, hj, hf⟩ := h
    refine ⟨?_, ?_, ?_⟩
    · rw [any_append, hs, hshows _ rfl]
      rfl
    · rw [any_append, hj, hjudges a rfl]
      rfl
    · rw [any_append, hf, hfrees _ rfl]
      rfl
  | sent a x =>
    obtain ⟨hs, hj, hf⟩ := h
    refine ⟨mem_append_left _ hs, ?_, ?_⟩
    · rw [any_append, hj, hjudges a rfl]
      rfl
    · rw [any_append, hf, hfrees _ rfl]
      rfl
  | cancelling a => exact hcondemns a rfl h
  | closing a c => exact fun hc => hcondemns a rfl (h hc)
  | persisting s | pending s => exact fun hs => hcondemns s.attempt rfl (h hs)
  | owed pending =>
    cases pending with
    | cancel a => exact hcondemns a rfl h
    | close a c => exact fun hc => hcondemns a rfl (h hc)

structure Sound (sys : System) : Prop where
  tidy : Tidy sys.store
  matched : ∃ uses, run step [] (sys.log.flatMap LogEvent.register) = .ok uses ∧
    Matches sys.store uses
  orderly : Orderly sys.log
  owners : ∀ p q a b, (sys.procs p).attempt? = some a → (sys.procs q).attempt? = some b →
    a.receipt = b.receipt → p = q
  owned : ∀ p a, (sys.procs p).attempt? = some a → .begun a.receipt a.input ∈ sys.log
  phase : ∀ p, Phase sys.log (sys.procs p)

theorem Sound.new : Sound {} :=
  ⟨.new, ⟨[], rfl, .new⟩, atEach_nil, fun _ _ _ _ h => (nomatch h), fun _ _ h => (nomatch h),
    fun _ => trivial⟩

theorem Sound.begun_iff {uses : List (Use ℤ Uuid)}
    (hrun : run step [] (log.flatMap LogEvent.register) = .ok uses) :
    .begun r g ∈ log ↔ ∃ u ∈ uses, u.id = r ∧ u.input = g := by
  rw [mem_uses_iff hrun, mem_flatMap]
  constructor
  · intro h
    exact ⟨_, h, mem_cons_self⟩
  · rintro ⟨e, he, hm⟩
    cases e with
    | begun receipt input =>
      cases mem_singleton.mp hm
      exact he
    | closed receipt input release =>
      cases release with
      | true => cases mem_singleton.mp hm
      | false => cases mem_singleton.mp hm
    | cancelled | unrotated | completed => cases mem_singleton.mp hm
    | replaced generation overtaken =>
      obtain ⟨a, -, ha⟩ := List.mem_map.mp hm
      cases ha
    | presented | verdict => cases hm

theorem Sound.begun_of_open (h : Sound sys) (ho : sys.store.Open r g) : .begun r g ∈ sys.log := by
  obtain ⟨uses, hrun, hm⟩ := h.matched
  obtain ⟨u, hu, hid, hin, -⟩ := (hm.held r g).mp ho
  exact (begun_iff hrun).mpr ⟨u, hu, hid, hin⟩

theorem Sound.given (h : Sound sys) (hb : .begun r g ∈ sys.log) : r ≤ sys.store.lastReceiptId := by
  obtain ⟨uses, hrun, hm⟩ := h.matched
  obtain ⟨u, hu, rfl, -⟩ := (begun_iff hrun).mp hb
  exact hm.given u hu

theorem Sound.unmentioned (h : Sound sys) (hr : sys.store.lastReceiptId < r) :
    sys.log.any (LogEvent.shows r) = false ∧ sys.log.any (LogEvent.judges r) = false ∧
    sys.log.any (LogEvent.frees r) = false := by
  have hno (g : Uuid) : .begun r g ∉ sys.log := fun hb => absurd (h.given hb) (not_le.mpr hr)
  refine ⟨?_, ?_, ?_⟩
  · refine List.any_eq_false.mpr fun e he hs => ?_
    cases e with
    | presented receipt input =>
      cases beq_iff_eq.mp hs
      exact hno input (h.orderly.presented_begun he)
    | begun | verdict | cancelled | closed | completed | unrotated | replaced => cases hs
  · refine List.any_eq_false.mpr fun e he hs => ?_
    cases e with
    | verdict receipt input kind =>
      cases beq_iff_eq.mp hs
      exact hno input (h.orderly.verdict_begun he)
    | begun | presented | cancelled | closed | completed | unrotated | replaced => cases hs
  · refine List.any_eq_false.mpr fun e he hs => ?_
    obtain ⟨g, hb⟩ := h.orderly.begun_of_frees he hs
    exact hno g hb

theorem setProc_procs {p q : ℕ} {proc : Proc} :
    (sys.setProc p proc).procs q = proc ∧ q = p ∨ (sys.setProc p proc).procs q = sys.procs q ∧
    q ≠ p := by
  by_cases hq : q = p
  · subst hq
    exact .inl ⟨Function.update_self .., rfl⟩
  · exact .inr ⟨Function.update_of_ne hq .., hq⟩

structure OwnedBy (sys : System) (p : ℕ) (a : Attempt) : Prop where
  begun : .begun a.receipt a.input ∈ sys.log
  only : ∀ q b, (sys.procs q).attempt? = some b → b.receipt = a.receipt → q = p

variable {p : ℕ} {a : Attempt}

theorem Sound.ownedBy (h : Sound sys) (ha : (sys.procs p).attempt? = some a) : OwnedBy sys p a :=
  ⟨h.owned p a ha, fun q b hb he => h.owners q p b a hb ha he⟩

theorem Sound.setProc (h : Sound sys) (hown : ∀ a, proc.attempt? = some a → OwnedBy sys p a)
    (hphase : Phase sys.log proc) : Sound (sys.setProc p proc) := by
  refine ⟨h.tidy, h.matched, h.orderly, ?_, ?_, ?_⟩
  · intro q q' a b ha hb hr
    obtain ⟨hq, hp⟩ | ⟨hq, hne⟩ := @setProc_procs sys p q proc <;>
      obtain ⟨hq', hp'⟩ | ⟨hq', hne'⟩ := @setProc_procs sys p q' proc <;>
      rw [hq] at ha <;> rw [hq'] at hb
    · exact hp.trans hp'.symm
    · exact absurd ((hown a ha).only q' b hb hr.symm) hne'
    · exact absurd ((hown b hb).only q a ha hr) hne
    · exact h.owners q q' a b ha hb hr
  · intro q a ha
    obtain ⟨hq, -⟩ | ⟨hq, -⟩ := @setProc_procs sys p q proc <;> rw [hq] at ha
    · exact (hown a ha).begun
    · exact h.owned q a ha
  · intro q
    obtain ⟨hq, -⟩ | ⟨hq, -⟩ := @setProc_procs sys p q proc <;> rw [hq]
    · exact hphase
    · exact h.phase q

def StoreOp.releases : StoreOp → Option ℤ
  | .cancelUnsent receipt .. | .completeUnrotated receipt .. => some receipt
  | .close receipt _ _ _ _ release _ => if release then some receipt else none
  | .begin .. | .complete .. | .replace .. | .bind .. | .prune .. => none

variable {op : StoreOp}

theorem record_shows : (op.record s).any (LogEvent.shows r) = false ∧
    (op.record s).any (LogEvent.judges r) = false := by
  cases op with
  | begin | complete | completeUnrotated | cancelUnsent | close | replace | bind | prune =>
    exact ⟨rfl, rfl⟩

theorem releases_of_record (h : (op.record s).any (LogEvent.frees r)) : op.releases = some r := by
  obtain ⟨e, he, hf⟩ := List.any_eq_true.mp h
  cases op with
  | cancelUnsent receipt input clock =>
    cases mem_singleton.mp he
    exact congrArg some (beq_iff_eq.mp hf)
  | completeUnrotated receipt generation tokens clock =>
    cases mem_singleton.mp he
    exact congrArg some (beq_iff_eq.mp hf)
  | close receipt input outcome httpStatus retryAfterSeconds release clock =>
    cases mem_singleton.mp he
    obtain ⟨hid, hrelease⟩ := Bool.and_eq_true_iff.mp hf
    exact (if_pos hrelease).trans (congrArg some (beq_iff_eq.mp hid))
  | begin | complete | replace =>
    cases mem_singleton.mp he
    cases hf
  | bind | prune => cases he

def Permitted (sys : System) (op : StoreOp) : Prop :=
  ∀ r, op.releases = some r → sys.log.any (LogEvent.condemns r) = false ∧
    ∀ p, (sys.procs p).unsettled ≠ some r

theorem Sound.record_justified (h : Sound sys) (hop : Permitted sys op)
    (hok : op.transact sys.store = .ok s') : Orderly (sys.log++op.record sys.store) := by
  cases op with
  | begin input clock pruneClock => exact atEach_concat.mpr ⟨h.orderly, trivial⟩
  | complete receipt input output tokens clock => exact atEach_concat.mpr ⟨h.orderly, trivial⟩
  | completeUnrotated receipt generation tokens clock =>
    have hopen := (completeUnrotatedLegacyRefresh_ok h.tidy hok).2.2.1
    exact atEach_concat.mpr ⟨h.orderly, h.begun_of_open hopen, (hop receipt rfl).1⟩
  | cancelUnsent receipt input clock =>
    have hopen := (cancelUnsentLegacyRefresh_ok hok).1
    exact atEach_concat.mpr ⟨h.orderly, h.begun_of_open hopen, (hop receipt rfl).1⟩
  | close receipt input outcome httpStatus retryAfterSeconds release clock =>
    have hopen := (closeLegacyRefreshAttempt_ok h.tidy hok).1
    exact atEach_concat.mpr ⟨h.orderly, h.begun_of_open hopen, fun hr =>
      (hop receipt (if_pos hr)).1⟩
  | replace tokens clock =>
    exact atEach_concat.mpr ⟨h.orderly, fun a ha => h.begun_of_open
      (HubStore.mem_openAttempts.mp ha)⟩
  | bind | prune =>
    rw [StoreOp.record, append_nil]
    exact h.orderly

/-- A permitted transaction keeps the store, the register and the log sound. -/
theorem Sound.commit (h : Sound sys) (hop : Permitted sys op) : Sound (sys.commit op) := by
  unfold System.commit
  split
  · rename_i s' hok
    obtain ⟨htidy, heffect⟩ := StoreOp.transact_effect h.tidy hok
    obtain ⟨uses, hrun, hm⟩ := h.matched
    obtain ⟨uses', hrun', hm'⟩ := hm.effect (register_run hrun) heffect
    refine ⟨htidy, ⟨uses', ?_, hm'⟩, h.record_justified hop hok, h.owners, ?_, ?_⟩
    · rw [flatMap_append]
      exact run_append.mpr ⟨uses, hrun, hrun'⟩
    · intro p a ha
      exact mem_append_left _ (h.owned p a ha)
    · intro p
      refine (h.phase p).append (fun _ _ => record_shows.2) (fun _ _ => record_shows.1) ?_
      intro r hr
      by_contra hf
      exact (hop r (releases_of_record (Bool.not_eq_false _ ▸ hf))).2 p hr
  · exact h

theorem Sound.note (h : Sound sys)
    (ha : (sys.procs p).attempt? = some a) (hregister : e.register = []) (he : Justified sys.log e)
    (hother : ∀ r, r ≠ a.receipt → e.judges r = false ∧ e.shows r = false ∧ e.frees r = false)
    (hown : ∀ b, proc.attempt? = some b → b = a) (hphase : Phase (sys.log++[e]) proc) :
    Sound ((sys.note [e]).setProc p proc) := by
  have hidle : Sound (sys.setProc p .idle) := h.setProc (fun b hb => nomatch hb) trivial
  have hnoted : Sound ((sys.note [e]).setProc p .idle) := by
    refine ⟨h.tidy, ?_, atEach_concat.mpr ⟨h.orderly, he⟩, hidle.owners, ?_, ?_⟩
    · obtain ⟨uses, hrun, hm⟩ := h.matched
      refine ⟨uses, ?_, hm⟩
      change run step [] ((sys.log++[e]).flatMap register) = _
      rw [flatMap_append, flatMap_singleton, hregister, append_nil]
      exact hrun
    · intro q b hb
      exact mem_append_left _ (hidle.owned q b hb)
    · intro q
      obtain ⟨hq, -⟩ | ⟨hq, hne⟩ := @setProc_procs (sys.note [e]) p q .idle <;> rw [hq]
      · trivial
      · have hreceipt (b : Attempt) (hb : (sys.procs q).attempt? = some b) :
            b.receipt ≠ a.receipt :=
          fun hx => hne (h.owners q p b a hb ha hx)
        refine (h.phase q).append ?_ ?_ ?_
        · intro b hb
          rw [any_cons, any_nil, Bool.or_false]
          exact (hother _ (hreceipt b hb)).1
        · intro r hr
          obtain ⟨b, hb, rfl⟩ := Proc.attempt_of_unsettled hr
          rw [any_cons, any_nil, Bool.or_false]
          exact (hother _ (hreceipt b hb)).2.1
        · intro r hr
          obtain ⟨b, hb, rfl⟩ := Proc.attempt_of_unsettled hr
          rw [any_cons, any_nil, Bool.or_false]
          exact (hother _ (hreceipt b hb)).2.2
  have hset : ((sys.note [e]).setProc p .idle).setProc p proc = (sys.note [e]).setProc p proc := by
    unfold System.setProc
    rw [Function.update_idem]
  rw [← hset]
  refine hnoted.setProc ?_ hphase
  intro b hb
  rw [hown b hb]
  refine ⟨mem_append_left _ (h.owned p a ha), ?_⟩
  intro q c hc he
  obtain ⟨hq, hp⟩ | ⟨hq, -⟩ := @setProc_procs (sys.note [e]) p q .idle <;> rw [hq] at hc
  · exact hp
  · exact h.owners q p c a hc ha he

theorem commit_procs : (sys.commit op).procs = sys.procs := by
  unfold System.commit
  split
  · rfl
  · rfl

/-- A call may fail before or after its commit, and both leave the system sound. -/
theorem Sound.call {op : StoreOp} {fault : PortFault} (h : Sound sys) (hop : Permitted sys op) :
    Sound (sys.call op fault).1 ∧ (sys.call op fault).1.procs = sys.procs := by
  cases fault with
  | none | after => exact ⟨h.commit hop, commit_procs⟩
  | before => exact ⟨h, rfl⟩

variable {clock : Option ℕ}

variable {input : ExchangeInput}

theorem Sound.start (h : Sound sys)
    (hok : StoreOp.transact sys.store (.begin g clock pruneClock) = .ok s') :
    Sound ((sys.commit (.begin g clock pruneClock)).setProc p (.reserved ⟨s'.lastReceiptId, g⟩
    input)) := by
  have hpermitted : Permitted sys (.begin g clock pruneClock) := fun r hr => nomatch hr
  have hcommit := h.commit hpermitted
  obtain ⟨⟨s₁, id⟩, hb, rfl⟩ := map_eq_ok.mp hok
  obtain ⟨hreserves, -⟩ := beginLegacyRefresh_reserves h.tidy hb
  have hreceipt : s₁.lastReceiptId = sys.store.lastReceiptId+1 := hreserves.lastReceiptId.trans
      hreserves.receipt
  have hsys : sys.commit (.begin g clock pruneClock) = { sys with
      store := s₁
      log := sys.log++[.begun (sys.store.lastReceiptId+1) g] } := by
    unfold System.commit
    rw [hok]
    rfl
  have hold (q : ℕ) (b : Attempt) (hq : (sys.procs q).attempt? = some b) :
      b.receipt ≠ sys.store.lastReceiptId+1 := by
    have := h.given (h.owned q b hq)
    omega
  obtain ⟨hshows, hjudges, hfrees⟩ := h.unmentioned (lt_add_one sys.store.lastReceiptId)
  rw [hsys] at hcommit ⊢
  rw [hreceipt]
  refine hcommit.setProc ?_ ⟨?_, ?_, ?_⟩
  · intro a ha
    cases ha
    exact ⟨mem_append_right _ mem_cons_self, fun q b hb he => absurd he (hold q b hb)⟩
  · exact (any_append ..).trans (by rw [hshows]; rfl)
  · exact (any_append ..).trans (by rw [hjudges]; rfl)
  · exact (any_append ..).trans (by rw [hfrees]; rfl)

theorem successorOf_spec [TokenReading] {accepted : AcceptedTokens}
    (h : successorOf accepted a = some successor) :
    successor.attempt = a ∧ (accepted.kind = .rotated → successor.output ≠ a.input) := by
  unfold successorOf at h
  split at h
  · cases h
  simp only at h
  split at h
  · cases h
  · rename_i hnew
    cases h
    exact ⟨rfl, fun hkind hout => hnew ⟨hkind, hout⟩⟩

theorem answered_cases [TokenReading] {a : Attempt} {exchange : Exchange} :
    (∀ b, (answered a input exchange).2.attempt? = some b → b = a) ∧
    (log.any (LogEvent.judges a.receipt) = false →
    Phase (log++[.verdict a.receipt a.input (answered a input exchange).1])
    (answered a input exchange).2) := by
  -- A verdict that does not spend the token condemns nobody.
  have hkept {k : AttemptClass} (hk : k.spends = false) (hlog : log.any (judges a.receipt) = false)
      :
      (log++[verdict a.receipt a.input k]).any (condemns a.receipt) = false := by
    have hone : condemns a.receipt (.verdict a.receipt a.input k) = false := by
      change (_ && k.spends) = false
      rw [hk, Bool.and_false]
    rw [any_append, not_condemned_of_not_judged hlog, any_cons, hone]
    rfl
  have hclosing {k : AttemptClass} {status : ℕ} {retryAfter : Option ℤ} :
      (∀ b, (((closingFor k status retryAfter).map (Proc.closing a)).getD .idle).attempt? = some b →
        b = a) ∧
        (log.any (judges a.receipt) = false → Phase (log++[.verdict a.receipt a.input k])
          (((closingFor k status retryAfter).map (.closing a)).getD .idle)) := by
    cases k with
    | dead => exact ⟨fun b hb => (some.inj hb).symm, fun _ hc => nomatch hc⟩
    | notSent | rotated | notRotated | consumedWithoutSuccessor | unknown =>
      exact ⟨fun b hb => (nomatch hb), fun _ => trivial⟩
    | clientRefused | requestRejected | refused | misrouted | blocked | transient | notRenewed =>
      exact ⟨fun b hb => (some.inj hb).symm, fun hlog _ => hkept rfl hlog⟩
  unfold answered
  split
  · exact ⟨fun b hb => (some.inj hb).symm, fun hlog _ => hkept rfl hlog⟩
  · exact ⟨fun b hb => (some.inj hb).symm, fun hlog _ => hkept rfl hlog⟩
  · exact ⟨fun b hb => (nomatch hb), fun _ => trivial⟩
  · split
    · exact hclosing
    · split
      · exact @hclosing .notRenewed _ none
      · split
        · exact ⟨fun b hb => (nomatch hb), fun _ => trivial⟩
        · rename_i accepted _ _ _ successor hsuccessor
          obtain ⟨hattempt, hrotated⟩ := successorOf_spec hsuccessor
          refine ⟨fun b hb => (some.inj hb).symm.trans hattempt, fun hlog hout => ?_⟩
          rw [hattempt] at hout ⊢
          refine hkept ?_ hlog
          cases hkind : accepted.kind with
          | rotated => exact absurd hout (hrotated hkind)
          | notRotated | notRenewed => rfl

theorem Sound.permitted (h : Sound sys) (ha : (sys.procs p).attempt? = some a)
    (hsettled : (sys.procs p).unsettled = none)
    (hreleases : ∀ r, op.releases = some r → r = a.receipt ∧ sys.log.any (LogEvent.condemns r) =
    false) : Permitted sys op := by
  intro r hr
  obtain ⟨rfl, hlog⟩ := hreleases r hr
  refine ⟨hlog, ?_⟩
  intro q hq
  obtain ⟨b, hb, he⟩ := Proc.attempt_of_unsettled hq
  have hqp := h.owners q p b a hb ha he
  subst hqp
  rw [hsettled] at hq
  cases hq

variable {fault : PortFault}

theorem Sound.tryClose {pending : PendingClose} {done : Bool} (h : Sound sys)
    (ha : (sys.procs p).attempt? = (Proc.owed pending).attempt?)
    (hsettled : (sys.procs p).unsettled = none)
    (hsame : ∀ log, Phase log (sys.procs p) → Phase log (.owed pending)) :
    Sound (sys.tryClose p pending clock fault done) := by
  have hphase := hsame sys.log (h.phase p)
  have hpermitted : Permitted sys (pending.op clock) := by
    cases pending with
    | cancel a =>
      refine h.permitted ha hsettled fun r hr => ?_
      cases hr
      exact ⟨rfl, hphase⟩
    | close a c =>
      refine h.permitted ha hsettled fun r hr => ?_
      change (if c.releaseInput then some a.receipt else none) = some r at hr
      split at hr
      · rename_i hrelease
        cases hr
        exact ⟨rfl, hphase hrelease⟩
      · cases hr
  obtain ⟨hcall, hprocs⟩ := @Sound.call sys _ fault h hpermitted
  change Sound ((sys.call (pending.op clock) fault).1.setProc p
    (if (sys.call (pending.op clock) fault).2 || done then .idle else .owed pending))
  split
  · exact hcall.setProc (fun b hb => nomatch hb) trivial
  refine hcall.setProc (fun b hb => hcall.ownedBy ?_) (hsame _ ?_)
  · rw [hprocs, ha]
    exact hb
  · rw [← hprocs]
    exact hcall.phase p

theorem Sound.tryPersist {guard : Bool} {tokens : TeslaMateLegacyTokenStore} (h : Sound sys)
    (ha : (sys.procs p).attempt? = some successor.attempt)
    (hsettled : (sys.procs p).unsettled = none)
    (hsame : ∀ log, Phase log (sys.procs p) → Phase log (.pending successor)) :
    Sound (sys.tryPersist p successor guard tokens clock fault) := by
  have hphase := hsame sys.log (h.phase p)
  unfold System.tryPersist
  split
  · rename_i op hop
    have hpermitted : Permitted sys op := by
      obtain ⟨stored, -, hop⟩ := bind_eq_ok.mp hop
      cases hop
      refine h.permitted ha hsettled fun r hr => ?_
      split_ifs at hr with hkept
      · cases hr
        exact ⟨rfl, hphase hkept⟩
      · cases hr
    obtain ⟨hcall, hprocs⟩ := @Sound.call sys _ fault h hpermitted
    change Sound ((sys.call op fault).1.setProc p
      (if (sys.call op fault).2 then .idle else .pending successor))
    split
    · exact hcall.setProc (fun b hb => nomatch hb) trivial
    refine hcall.setProc (fun b hb => hcall.ownedBy ?_) (hsame _ ?_)
    · rw [hprocs, ha]
      exact hb
    · rw [← hprocs]
      exact hcall.phase p
  · refine h.setProc (fun b hb => h.ownedBy ?_) hphase
    rw [ha]
    exact hb

theorem Sound.begin (h : Sound sys) : Sound (if (sys.call (.begin g clock pruneClock) fault).2 then
        (sys.call (.begin g clock pruneClock) fault).1.setProc p
          (.reserved ⟨(sys.call (.begin g clock pruneClock) fault).1.store.lastReceiptId, g⟩ input)
      else (sys.call (.begin g clock pruneClock) fault).1) := by
  have hcommit : Sound (sys.commit (.begin g clock pruneClock)) := h.commit fun r hr => nomatch hr
  cases fault with
  | before => exact h
  | after => exact hcommit
  | none =>
    change Sound (if (StoreOp.transact sys.store (.begin g clock pruneClock)).isOk then
        (sys.commit (.begin g clock pruneClock)).setProc p
          (.reserved ⟨(sys.commit (.begin g clock pruneClock)).store.lastReceiptId, g⟩ input)
      else sys.commit (.begin g clock pruneClock))
    cases hok : StoreOp.transact sys.store (.begin g clock pruneClock) with
    | error e => exact hcommit
    | ok s' =>
      have hstore : (sys.commit (.begin g clock pruneClock)).store = s' := by
        unfold System.commit
        rw [hok]
      rw [hstore]
      exact h.start hok

theorem Sound.send (h : Sound sys) (hp : sys.procs p = .reserved a x) :
    Sound ((sys.note [.presented a.receipt a.input]).setProc p (.sent a x)) := by
  have hphase := h.phase p
  rw [hp] at hphase
  obtain ⟨hshows, hjudges, hfrees⟩ := hphase
  have ha : (sys.procs p).attempt? = some a := by
    rw [hp]
    rfl
  refine h.note ha rfl ⟨h.owned p a ha, hshows, hjudges, hfrees⟩ ?_ (fun b hb => (some.inj hb).symm)
    ?_
  · intro r hr
    exact ⟨rfl, beq_false_of_ne hr.symm, rfl⟩
  · refine ⟨mem_append_right _ mem_cons_self, ?_, ?_⟩
    · rw [any_append, hjudges]
      rfl
    · rw [any_append, hfrees]
      rfl

theorem Sound.judge (h : Sound sys) (hp : sys.procs p = .sent a x)
    (hown : ∀ b, proc.attempt? = some b → b = a)
    (hphase : sys.log.any (LogEvent.judges a.receipt) = false →
    Phase (sys.log++[.verdict a.receipt a.input k]) proc) :
    Sound ((sys.note [.verdict a.receipt a.input k]).setProc p proc) := by
  have hsent := h.phase p
  rw [hp] at hsent
  obtain ⟨hshown, hjudges, hfrees⟩ := hsent
  have ha : (sys.procs p).attempt? = some a := by
    rw [hp]
    rfl
  refine h.note ha rfl ⟨hshown, hfrees⟩ ?_ hown (hphase hjudges)
  intro r hr
  exact ⟨beq_false_of_ne hr.symm, rfl, rfl⟩

/-- Each action of any process keeps the system sound. -/
theorem Sound.step [TokenReading] (h : Sound sys) (action : Action) : Sound (sys.step action) := by
  have hquiet {op : StoreOp} (hop : op.releases = none) : Permitted sys op := by
    intro r hr
    rw [hop] at hr
    cases hr
  have hidle {p : ℕ} : Sound (sys.setProc p .idle) := h.setProc (fun b hb => nomatch hb) trivial
  cases action with
  | start p input generation clock pruneClock fault =>
    unfold System.step
    simp only
    split
    · exact h.begin
    · exact h
  | stop p =>
    unfold System.step
    simp only
    split
    · rename_i a x hp
      have hphase := h.phase p
      rw [hp] at hphase
      refine h.setProc (fun b hb => h.ownedBy ?_) (not_condemned_of_not_judged hphase.2.1)
      rw [hp]
      exact hb
    · exact h
  | send p =>
    unfold System.step
    simp only
    split
    · rename_i a x hp
      exact h.send hp
    · exact h
  | answer p exchange =>
    unfold System.step
    simp only
    split
    · rename_i a x hp
      obtain ⟨hown, hphase⟩ := @answered_cases sys.log x _ a exchange
      exact h.judge hp hown hphase
    · exact h
  | settle p clock fault =>
    unfold System.step
    simp only
    split
    · rename_i a hp
      exact h.tryClose (by rw [hp]; rfl) (by rw [hp]; rfl) fun log hx => by rw [hp] at hx; exact hx
    · rename_i a c hp
      exact h.tryClose (by rw [hp]; rfl) (by rw [hp]; rfl) fun log hx => by rw [hp] at hx; exact hx
    · exact h
  | finish p clock fault unresolved =>
    unfold System.step
    simp only
    split
    · rename_i pending hp
      exact h.tryClose (by rw [hp]) (by rw [hp]; rfl) fun log hx => hp ▸ hx
    · exact h
  | persist p guard tokens clock fault =>
    unfold System.step
    simp only
    split
    · rename_i successor hp
      exact h.tryPersist (by rw [hp]; rfl) (by rw [hp]; rfl) fun log hx => by
        rw [hp] at hx; exact hx
    · exact h
  | retry p reread guard tokens clock fault =>
    unfold System.step
    simp only
    split
    · rename_i successor hp
      split
      · exact hidle
      · exact h.tryPersist (by rw [hp]; rfl) (by rw [hp]; rfl) fun log hx => hp ▸ hx
    · exact h
  | crash p =>
    unfold System.step
    simp only
    split
    · rename_i a x hp
      exact h.judge hp (fun b hb => nomatch hb) fun _ => trivial
    · exact hidle
  | replace tokens clock => exact h.commit (hquiet rfl)
  | bind tokens generation => exact h.commit (hquiet rfl)
  | prune clock => exact h.commit (hquiet rfl)

/-- So every interleaving does. -/
theorem Sound.run [TokenReading] (h : Sound sys) (actions : List Action) :
    Sound (sys.run actions) :=
  foldlRecOn actions System.step h fun _ h action _ => h.step action

end TeslatlasHub.Credentials
