import TeslatlasHub.Interleaving
import TeslatlasHub.LegacyStore

/-! The Fleet token pair, its refresh attempts and the detached exchange jobs. -/
namespace TeslatlasHub.Fleet

open Credentials Interleaving RunRules List Option

structure FleetTokenStore where
  (access refresh : List UInt8)
  credentialGeneration : Option Uuid

structure RefreshAttempt where
  receiptId : ℕ
  input : Uuid
  output : Option Uuid := none
  outcome : Option OutboundRequestOutcome := none

def RefreshAttempt.isStarted (a : RefreshAttempt) : Bool := a.outcome.isNone

structure Store where
  tokens : Option FleetTokenStore := none
  attempts : List RefreshAttempt := []
  fences : List Uuid := []
  lastReceiptId : ℕ := 0

namespace Store

def started (s : Store) : List RefreshAttempt := s.attempts.filter RefreshAttempt.isStarted

def currentGeneration (s : Store) : Option Uuid :=
  s.tokens.bind FleetTokenStore.credentialGeneration

def startedInput (s : Store) (receiptId : ℕ) : Option Uuid :=
  (s.started.find? fun a => a.receiptId = receiptId).map RefreshAttempt.input

def close (s : Store) (p : RefreshAttempt → Bool) (outcome : OutboundRequestOutcome) : Store :=
  { s with attempts := s.attempts.map fun a =>
      if a.isStarted && p a then { a with outcome := some outcome } else a }

def bindOutput (s : Store) (receiptId : ℕ) (output : Uuid) : Store :=
  { s with attempts := s.attempts.map fun a =>
      if a.receiptId = receiptId then { a with output := some output } else a }

def prune (s : Store) (expired : ℕ → Bool) : Store :=
  { s with attempts := s.attempts.filter fun a => a.isStarted || !expired a.receiptId }

def replaceFleetTokens (s : Store) (tokens : FleetTokenStore) : Option Store :=
  let generation := tokens.credentialGeneration
  let inputs := s.started.map RefreshAttempt.input
  if generation.any (· ∈ s.fences) then none
  else if inputs = [] then some { s with tokens := some tokens }
  else if inputs.length ≠ 1 ∨ s.currentGeneration ≠ inputs.head? ∨ generation = none ∨
    generation = inputs.head? then none
  else some { s.close (fun _ => true) .cancelled with tokens := some tokens }

def bindFleetCredentialGeneration (s : Store) (tokens : FleetTokenStore) (generation : Uuid) :
    Option Store :=
  if generation.isNil then none
  else
    match s.tokens with
    | none => none
    | some row =>
      if row.access ≠ tokens.access ∨ row.refresh ≠ tokens.refresh then none
      else
        match row.credentialGeneration with
        | some stored => if stored = generation then some s else none
        | none =>
          if s.started.isEmpty then
            some { s with tokens := some { row with credentialGeneration := some generation } }
          else none

def beginFleetRefresh (s : Store) (input : Uuid) (expired : ℕ → Bool) : Option Store :=
  if input.isNil ∨ s.currentGeneration ≠ some input ∨ s.started ≠ [] ∨ input ∈ s.fences ∨
      maxLegacyRefreshInputFences ≤ s.fences.length then none
  else
    let id := s.lastReceiptId+1
    some { s with
      attempts := (s.prune expired).attempts++[{ receiptId := id, input }]
      fences := s.fences++[input]
      lastReceiptId := id }

def completeRetryableFleetRefreshFailure (s : Store) (receiptId : ℕ) (input : Uuid)
    (expired : ℕ → Bool) :
    Option Store :=
  if receiptId = 0 ∨ input.isNil ∨ s.startedInput receiptId ≠ some input ∨ s.currentGeneration ≠
      some input ∨
      input ∉ s.fences then none
  else
    let closed := s.close (fun a => a.receiptId = receiptId) .transportError
    some ({ closed with fences := s.fences.filter (· ≠ input) }.prune expired)

def completeFleetRefresh (s : Store) (receiptId : ℕ) (input output : Uuid)
    (tokens : FleetTokenStore) : Option Store :=
  if receiptId = 0 ∨ input.isNil ∨ output.isNil ∨ input = output ∨ tokens.credentialGeneration ≠
    some output then none
  else if s.startedInput receiptId ≠ some input ∨ s.currentGeneration ≠ some input ∨
    output ∈ s.fences then none
  -- the bindings' outputs are unique
  else if s.attempts.any fun a => a.receiptId = receiptId ∧ a.output.isSome ∨
    a.output = some output then none
  else
    let closed := s.close (fun a => a.receiptId = receiptId) .success
    some { closed.bindOutput receiptId output with tokens := some tokens }

def clearFleetTokens (s : Store) : Store :=
  { s.close (fun _ => true) .cancelled with tokens := none }

end Store

structure Job where
  receiptId : ℕ
  generation : Uuid
  began : ℕ

inductive Request where
  | replace (tokens : FleetTokenStore)
  | bind (tokens : FleetTokenStore) (generation : Uuid)
  | clear
  | prune
  | begin (generation : Uuid)

inductive Client where
  | request (request : Request)
  | sending (job : Job)
  | unsent (job : Job)
  | sent (job : Job)

structure Input where
  fails : Bool
  expired : ℕ → Bool
  goesOut : Bool
  answer : Option FleetTokenStore

structure Books where
  store : Store := {}
  writes : ℕ := 0

def Input.transaction (input : Input) (result : Option Store) : Option Store :=
  if input.fails then none else result

def Books.commit (v : Books) (result : Option Store) (replaces : Bool) : Books :=
  match result with
  | none => v
  | some store => ⟨store, if replaces then v.writes+1 else v.writes⟩

def Store.completed (s : Store) (job : Job) (answer : Option FleetTokenStore) : Option Store :=
  answer.bind fun tokens => tokens.credentialGeneration.bind fun output =>
    s.completeFleetRefresh job.receiptId job.generation output tokens

def turn (v : Books) (client : Client) (input : Input) : Turn Books Client Uuid :=
  match client with
  | .request (.replace tokens) =>
    ⟨v.commit (input.transaction (v.store.replaceFleetTokens tokens)) true, none, []⟩
  | .request (.bind tokens generation) =>
    ⟨v.commit (input.transaction (v.store.bindFleetCredentialGeneration tokens generation)) false,
      none, []⟩
  | .request .clear => ⟨v.commit (input.transaction (some v.store.clearFleetTokens)) true, none, []⟩
  | .request .prune =>
    ⟨v.commit (input.transaction (some (v.store.prune input.expired))) false, none, []⟩
  | .request (.begin generation) =>
    match input.transaction (v.store.beginFleetRefresh generation input.expired) with
    | none => ⟨v, none, []⟩
    | some store =>
      ⟨{ v with store := store }, some (.sending ⟨store.lastReceiptId, generation, v.writes⟩), []⟩
  | .sending job =>
    if input.goesOut then ⟨v, some (.sent job), [job.generation]⟩ else ⟨v, some (.unsent job), []⟩
  | .unsent job =>
    ⟨v.commit (input.transaction
      (v.store.completeRetryableFleetRefreshFailure job.receiptId job.generation input.expired))
        false, none, []⟩
  | .sent job =>
    ⟨v.commit (input.transaction (v.store.completed job input.answer)) true, none, []⟩

abbrev FleetWorld := World Books Client Uuid

def step (w : FleetWorld) (m : Move Request Input) : FleetWorld := w.step Client.request turn m

structure Keeps (s s' : Store) (own : Option Uuid) (replaces : Bool) : Prop where
  one : s'.started.length ≤ 1
  fences : ∀ g ∈ s.fences, some g ≠ own → g ∈ s'.fences
  started : ∀ a ∈ s'.started, replaces = false ∧ (a ∈ s.started ∨ some a.input = own)

variable {s s' : Store} {tokens : FleetTokenStore} {g output : Uuid} {id : ℕ} {expired : ℕ → Bool}

namespace Store

theorem started_close (p : RefreshAttempt → Bool) (outcome : OutboundRequestOutcome) :
    (s.close p outcome).started = s.started.filter fun a => !p a := by
  unfold started close
  induction s.attempts with
  | nil => rfl
  | cons a attempts ih =>
    have hclosed : ({ a with outcome := some outcome } : RefreshAttempt).isStarted = false := rfl
    rw [map_cons, filter_cons, filter_cons, ih]
    cases hstarted : a.isStarted <;> cases hp : p a <;> simp [hstarted, hp, hclosed]

theorem started_prune : (s.prune expired).started = s.started := by
  unfold started prune
  rw [List.filter_filter]
  refine filter_congr fun a _ => ?_
  cases a.isStarted <;> rfl

theorem started_of_startedInput (h : s.startedInput id = some g) :
    ∃ a ∈ s.started, a.receiptId = id ∧ a.input = g := by
  obtain ⟨a, ha, hinput⟩ := map_eq_some_iff.mp h
  exact ⟨a, mem_of_find?_eq_some ha, by simpa using find?_some ha, hinput⟩

theorem close_own (hone : s.started.length ≤ 1) (h : s.startedInput id = some g)
    (outcome : OutboundRequestOutcome) :
    (s.close (fun a => a.receiptId = id) outcome).started = [] := by
  obtain ⟨a, ha, hid, -⟩ := started_of_startedInput h
  rw [started_close]
  match hs : s.started, hone with
  | [], _ => rfl
  | [b], _ =>
    rw [hs, mem_singleton] at ha
    simp [← ha, hid]

theorem keeps_of_closed (hstarted : s'.started = []) (hfences : s'.fences = s.fences) :
    Keeps s s' none true :=
  ⟨by simp [hstarted], fun _ hg _ => hfences ▸ hg, by simp [hstarted]⟩

theorem cancelled_started : (s.close (fun _ => true) .cancelled).started = [] := by
  rw [started_close]
  exact filter_eq_nil_iff.mpr fun _ _ => Bool.false_ne_true

theorem started_bindOutput : (s.bindOutput id output).started =
    s.started.map fun a => if a.receiptId = id then { a with output := some output } else a := by
  unfold started bindOutput
  rw [List.filter_map]
  refine congrArg (map _) (filter_congr fun a _ => ?_)
  rw [Function.comp_apply]
  split <;> rfl

theorem prune_keeps (hone : s.started.length ≤ 1) : Keeps s (s.prune expired) none false := by
  refine ⟨?_, fun _ hg _ => hg, fun a ha => ⟨rfl, .inl ?_⟩⟩
  · rw [started_prune]
    exact hone
  · rwa [started_prune] at ha

theorem replaceFleetTokens_keeps (h : s.replaceFleetTokens tokens = some s') :
    Keeps s s' none true := by
  unfold replaceFleetTokens at h
  dsimp only at h
  split at h
  · cases h
  split at h
  · rename_i hnone
    cases h
    exact keeps_of_closed (map_eq_nil_iff.mp hnone) rfl
  split_ifs at h
  cases h
  exact keeps_of_closed cancelled_started rfl

theorem clearFleetTokens_keeps : Keeps s s.clearFleetTokens none true :=
  keeps_of_closed cancelled_started rfl

theorem bindFleetCredentialGeneration_keeps (hone : s.started.length ≤ 1)
    (h : s.bindFleetCredentialGeneration tokens g = some s') : Keeps s s' none false := by
  have hsame : s'.attempts = s.attempts ∧ s'.fences = s.fences := by
    unfold bindFleetCredentialGeneration at h
    split at h
    · cases h
    split at h
    · cases h
    split at h
    · cases h
    split at h <;> split at h <;> cases h <;> exact ⟨rfl, rfl⟩
  have hstarted : s'.started = s.started := congrArg (filter _) hsame.1
  exact ⟨hstarted ▸ hone, fun _ hg _ => hsame.2 ▸ hg, fun a ha => ⟨rfl, .inl (hstarted ▸ ha)⟩⟩

theorem beginFleetRefresh_keeps (h : s.beginFleetRefresh g expired = some s') :
    Keeps s s' (some g) false ∧ g ∉ s.fences ∧ g ∈ s'.fences := by
  unfold beginFleetRefresh at h
  split_ifs at h with hfree
  push Not at hfree
  cases h
  have hstarted : ((s.prune expired).attempts++[({ receiptId := s.lastReceiptId+1, input := g }
      : RefreshAttempt)]).filter
      RefreshAttempt.isStarted = [{ receiptId := s.lastReceiptId+1, input := g }] := by
    rw [filter_append, show (s.prune expired).attempts.filter RefreshAttempt.isStarted = [] from
      started_prune.trans hfree.2.2.1]
    rfl
  refine ⟨⟨le_of_eq (congrArg length hstarted), fun x hx _ => mem_append_left _ hx, fun a ha => ?_⟩,
    hfree.2.2.2.1, mem_append_right _ (mem_singleton_self g)⟩
  change a ∈ ((s.prune expired).attempts++[_]).filter RefreshAttempt.isStarted at ha
  rw [hstarted, mem_singleton] at ha
  exact ⟨rfl, .inr (ha ▸ rfl)⟩

theorem completeRetryable_keeps (hone : s.started.length ≤ 1)
    (h : s.completeRetryableFleetRefreshFailure id g expired = some s') :
    Keeps s s' (some g) false ∧ s.startedInput id = some g := by
  unfold completeRetryableFleetRefreshFailure at h
  split_ifs at h with hopen
  push Not at hopen
  cases h
  refine ⟨⟨?_, fun x hx hne => ?_, ?_⟩, hopen.2.2.1⟩
  · rw [started_prune]
    exact le_of_eq_of_le (congrArg length (close_own hone hopen.2.2.1 _)) (Nat.zero_le 1)
  · exact mem_filter.mpr ⟨hx, by simpa using fun hxg => hne (congrArg some hxg)⟩
  · rw [started_prune]
    intro a ha
    have hnone : a ∈ (s.close (fun a => a.receiptId = id) .transportError).started := ha
    rw [close_own hone hopen.2.2.1] at hnone
    cases hnone

theorem completeFleetRefresh_keeps (hone : s.started.length ≤ 1)
    (h : s.completeFleetRefresh id g output tokens = some s') :
    Keeps s s' none true ∧ s.startedInput id = some g := by
  unfold completeFleetRefresh at h
  split at h
  · cases h
  split at h
  · cases h
  rename_i hopen
  push Not at hopen
  split_ifs at h
  cases h
  refine ⟨keeps_of_closed ?_ rfl, hopen.1⟩
  refine started_bindOutput.trans ?_
  rw [close_own hone hopen.1]
  rfl

end Store

structure Accounted (v : Books) (log : List Uuid) : Prop where
  nodup : log.Nodup
  fenced : ∀ g ∈ log, g ∈ v.store.fences
  one : v.store.started.length ≤ 1

def Client.job : Client → Option Job
  | .request _ => none
  | .sending job | .unsent job | .sent job => some job

structure Reserved (v : Books) (log : List Uuid) (client : Client) : Prop where
  fenced : ∀ job, client.job = some job → job.generation ∈ v.store.fences
  unsent : ∀ job, client = .sending job ∨ client = .unsent job → job.generation ∉ log
  current : ∀ job, client.job = some job → ∀ a ∈ v.store.started, a.receiptId = job.receiptId →
    a.input = job.generation → job.began = v.writes

def Apart (a b : Client) : Prop :=
  ∀ x y, a.job = some x → b.job = some y → x.generation ≠ y.generation

variable {v : Books} {log : List Uuid} {client other : Client} {input : Input} {own : Option Uuid}
  {replaces : Bool}

variable {result : Option Store}

theorem Accounted.commit (h : Accounted v log)
    (hkeeps : ∀ s', result = some s' → Keeps v.store s' own replaces)
    (hown : ∀ g ∈ log, some g ≠ own) : Accounted (v.commit result replaces) log := by
  cases result with
  | none => exact h
  | some s' =>
    exact ⟨h.nodup, fun g hg => (hkeeps s' rfl).fences g (h.fenced g hg) (hown g hg),
      (hkeeps s' rfl).one⟩

theorem Reserved.commit (h : Reserved v log client)
    (hkeeps : ∀ s', result = some s' → Keeps v.store s' own replaces)
    (hown : ∀ job, client.job = some job → some job.generation ≠ own) :
    Reserved (v.commit result replaces) log client := by
  cases result with
  | none => exact h
  | some s' =>
    obtain ⟨-, hfences, hstarted⟩ := hkeeps s' rfl
    refine ⟨fun job hjob => hfences _ (h.fenced job hjob) (hown job hjob),
      h.unsent, fun job hjob a ha hid hinput => ?_⟩
    obtain ⟨hsame, hbefore | hnew⟩ := hstarted a ha
    · rw [hsame]
      exact h.current job hjob a hbefore hid hinput
    · exact absurd (hinput ▸ hnew) (hown job hjob)

theorem transaction_eq (h : input.transaction result = some s') : result = some s' := by
  unfold Input.transaction at h
  split_ifs at h
  · exact h

theorem completed_keeps {job : Job} (hone : s.started.length ≤ 1)
    (h : input.transaction (s.completed job input.answer) = some s') :
    Keeps s s' none true ∧ s.startedInput job.receiptId = some job.generation := by
  obtain ⟨tokens, -, h⟩ := bind_eq_some_iff.mp (transaction_eq h)
  obtain ⟨output, -, h⟩ := bind_eq_some_iff.mp h
  exact Store.completeFleetRefresh_keeps hone h

theorem committed_kept (hbooks : Accounted v log)
    (hkeeps : ∀ s', result = some s' → Keeps v.store s' own replaces)
    (hown : ∀ g ∈ log, some g ≠ own) :
    Accounted (v.commit result replaces) (log++[]) ∧ ∀ other, Reserved v log other →
    (∀ job, other.job = some job → some job.generation ≠ own) → Reserved (v.commit result replaces)
    (log++[]) other := by
  rw [append_nil]
  exact ⟨hbooks.commit hkeeps hown, fun other hother => hother.commit hkeeps⟩

theorem sending_kept {job : Job} (hbooks : Accounted v log) (hjob : Reserved v log (.sending job)) :
    Accounted v (log++[job.generation]) ∧ Reserved v (log++[job.generation]) (.sent job) ∧
    ∀ other, Reserved v log other → Apart (.sending job) other → Reserved v (log++[job.generation])
    other := by
  have hfresh := hjob.unsent job (.inl rfl)
  have hnever (job' : Job) (h : Client.sent job = .sending job' ∨ Client.sent job = .unsent job') :
      False := by
    rcases h with h | h <;> cases h
  refine ⟨⟨?_, fun g hg => ?_, hbooks.one⟩, ⟨hjob.fenced, fun job' h => (hnever job' h).elim,
    hjob.current⟩, fun other hother hapart => ?_⟩
  · refine nodup_append.mpr ⟨hbooks.nodup, pairwise_singleton .., fun a ha b hb hab => hfresh ?_⟩
    rw [← mem_singleton.mp hb, ← hab]
    exact ha
  · rcases mem_concat.mp hg with hg | rfl
    · exact hbooks.fenced g hg
    · exact hjob.fenced job rfl
  · refine ⟨hother.fenced, fun job' hjob' hmem => ?_, hother.current⟩
    rcases mem_append.mp hmem with hmem | hmem
    · exact hother.unsent job' hjob' hmem
    · exact hapart job job' rfl (by rcases hjob' with h | h <;> rw [h] <;> rfl)
        (mem_singleton.mp hmem).symm

/-- One turn keeps the books, the client's own reservation and those of the others. -/
theorem turn_kept (hbooks : Accounted v log) (hclient : Reserved v log client) :
    Accounted (turn v client input).shared (log++(turn v client input).events) ∧
      (∀ next, (turn v client input).next = some next →
        Reserved (turn v client input).shared (log++(turn v client input).events) next ∧
          ∀ other, Reserved v log other → Apart client other → Apart next other) ∧
      ∀ other, Reserved v log other → Apart client other →
        Reserved (turn v client input).shared (log++(turn v client input).events) other := by
  -- a transaction that touches no generation of its own
  have hplain {result : Option Store} {replaces : Bool}
      (hkeeps : ∀ s', result = some s' → Keeps v.store s' none replaces) :
      Accounted (v.commit result replaces) (log++[]) ∧
        ∀ other, Reserved v log other → Reserved (v.commit result replaces) (log++[]) other := by
    obtain ⟨hshared, hothers⟩ := committed_kept hbooks hkeeps nofun
    exact ⟨hshared, fun other hother => hothers other hother nofun⟩
  have hsure {store : Store} {replaces : Bool} (hkeeps : Keeps v.store store none replaces)
      (s' : Store)
      (h : input.transaction (some store) = some s') : Keeps v.store s' none replaces := by
    cases transaction_eq h
    exact hkeeps
  cases client with
  | request request =>
    cases request with
    | replace tokens =>
      obtain ⟨hshared, hothers⟩ := hplain fun s' h => Store.replaceFleetTokens_keeps
          (transaction_eq h)
      exact ⟨hshared, nofun, fun other hother _ => hothers other hother⟩
    | bind tokens generation =>
      obtain ⟨hshared, hothers⟩ := hplain fun s' h =>
        Store.bindFleetCredentialGeneration_keeps hbooks.one (transaction_eq h)
      exact ⟨hshared, nofun, fun other hother _ => hothers other hother⟩
    | clear =>
      obtain ⟨hshared, hothers⟩ := hplain (hsure Store.clearFleetTokens_keeps)
      exact ⟨hshared, nofun, fun other hother _ => hothers other hother⟩
    | prune =>
      obtain ⟨hshared, hothers⟩ := hplain (hsure (Store.prune_keeps hbooks.one))
      exact ⟨hshared, nofun, fun other hother _ => hothers other hother⟩
    | begin generation =>
      unfold turn
      dsimp only
      split
      · rw [append_nil]
        exact ⟨hbooks, nofun, fun other hother _ => hother⟩
      rename_i store hstore
      obtain ⟨hkeeps, hfree, hfenced⟩ := Store.beginFleetRefresh_keeps (transaction_eq hstore)
      -- what is fenced is not the generation that begins
      have hother (g : Uuid) (hg : g ∈ v.store.fences) : some g ≠ some generation := fun h =>
        hfree (some_inj.mp h ▸ hg)
      obtain ⟨hshared, hothers⟩ := @committed_kept v log (some generation) false (some store) hbooks
        (fun s' h => some_inj.mp h ▸ hkeeps) fun g hg => hother g (hbooks.fenced g hg)
      refine ⟨hshared, fun next hnext => ?_, fun other ho _ => hothers other ho fun job hjob =>
        hother _ (ho.fenced job hjob)⟩
      cases hnext
      refine ⟨⟨fun job hjob => ?_, fun job hjob hmem => ?_, fun job hjob a ha _ _ => ?_⟩, fun other
        ho _ x y hx hy => ?_⟩
      · cases hjob
        exact hfenced
      · rw [append_nil] at hmem
        rcases hjob with hjob | hjob <;> cases hjob
        exact hfree (hbooks.fenced _ hmem)
      · cases hjob
        rfl
      · cases hx
        intro h
        change generation = y.generation at h
        exact hfree (h ▸ ho.fenced y hy)
  | sending job =>
    unfold turn
    dsimp only
    split
    · obtain ⟨hshared, hsent, hothers⟩ := sending_kept hbooks hclient
      refine ⟨hshared, fun next hnext => ?_, hothers⟩
      cases hnext
      exact ⟨hsent, fun other _ hapart => hapart⟩
    · rw [append_nil]
      refine ⟨hbooks, fun next hnext => ?_, fun other hother _ => hother⟩
      cases hnext
      refine ⟨⟨hclient.fenced, fun job' hjob' => ?_, hclient.current⟩, fun other _ hapart => hapart⟩
      rcases hjob' with hjob' | hjob' <;> cases hjob'
      exact hclient.unsent job (.inl rfl)
  | unsent job =>
    obtain ⟨hshared, hothers⟩ := committed_kept hbooks
      (fun s' h => (Store.completeRetryable_keeps hbooks.one (transaction_eq h)).1)
      (fun g hg h => by
        cases h
        exact hclient.unsent job (.inr rfl) hg)
    exact ⟨hshared, nofun, fun other hother hapart => hothers other hother fun job' hjob' h =>
      hapart job job' rfl hjob' (some_inj.mp h).symm⟩
  | sent job =>
    obtain ⟨hshared, hothers⟩ := hplain fun s' h => (completed_keeps hbooks.one h).1
    exact ⟨hshared, nofun, fun other hother _ => hothers other hother⟩

theorem Reserved.overtaken {job : Job} (hbooks : Accounted v log) (h : Reserved v log client)
    (hjob : client.job = some job) (hwritten : job.began ≠ v.writes) :
    (turn v client input).shared = v := by
  have hnone : v.store.startedInput job.receiptId ≠ some job.generation := by
    intro hstarted
    obtain ⟨a, ha, hid, hinput⟩ := Store.started_of_startedInput hstarted
    exact hwritten (h.current job hjob a ha hid hinput)
  cases client with
  | request request => cases hjob
  | sending job' =>
    unfold turn
    dsimp only
    split <;> rfl
  | unsent job' =>
    cases hjob
    change v.commit (input.transaction _) false = v
    cases hresult : input.transaction
        (v.store.completeRetryableFleetRefreshFailure job.receiptId job.generation input.expired)
          with
    | none => rfl
    | some s' =>
      exact absurd (Store.completeRetryable_keeps hbooks.one (transaction_eq hresult)).2 hnone
  | sent job' =>
    cases hjob
    change v.commit (input.transaction _) true = v
    cases hresult : input.transaction (v.store.completed job input.answer) with
    | none => rfl
    | some s' => exact absurd (completed_keeps hbooks.one hresult).2 hnone

/-- Over every interleaving of managers, detached jobs and writers the token of a generation goes
out at most once, and a job whose pair was replaced or cleared leaves the pair and the fences as
they are. -/
theorem fleet_refresh_token_goes_out_once (ms : List (Move Request Input)) :
    let w := ms.foldl step ⟨{}, [], []⟩
    w.log.Nodup ∧ w.shared.store.started.length ≤ 1 ∧
      ∀ client ∈ w.clients, ∀ job, client.job = some job → job.began ≠ w.shared.writes →
        ∀ input, (turn w.shared client input).shared.store = w.shared.store := by
  have hsymm (a b : Client) (h : Apart a b) : Apart b a := fun x y hx hy => (h y x hy hx).symm
  have hholds : (ms.foldl step ⟨{}, [], []⟩ : FleetWorld).HoldsApart Accounted Reserved Apart := by
    have hstart : (⟨{}, [], []⟩ : FleetWorld).HoldsApart Accounted Reserved Apart := by
      refine ⟨⟨⟨nodup_nil, ?_, Nat.zero_le 1⟩, ?_⟩, .nil⟩
      · exact fun g hg => absurd hg not_mem_nil
      · exact fun client hclient => absurd hclient not_mem_nil
    have hrequest (r : Request) (v : Books) (log : List Uuid) : Reserved v log (.request r) := by
      refine ⟨nofun, fun job h => ?_, nofun⟩
      rcases h with h | h <;> cases h
    exact hstart.run hsymm (fun r v log _ => ⟨hrequest r v log, fun _ _ _ _ hy => nomatch hy⟩)
      (fun v log client input hbooks hclient _ => @turn_kept v log client input hbooks hclient)
      (along_of_always World.meets_true _ ms)
  refine ⟨hholds.shared.nodup, hholds.shared.one, fun client hclient job hjob hwritten input => ?_⟩
  exact congrArg Books.store ((hholds.clients client hclient).overtaken hholds.shared hjob hwritten)

def pairOf (generation : Uuid) : FleetTokenStore := ⟨[1], [2], some generation⟩

def granted : Input := ⟨false, fun _ => false, true, some (pairOf 9)⟩

def overtaken : List (Move Request Input) :=
  [.join (.replace (pairOf 1)), .act 0 granted, .join (.begin 1), .act 0 granted,
    .join (.replace (pairOf 2)), .act 1 granted, .act 0 granted]

theorem fleet_refresh_token_goes_out_once_overtaken :
    (overtaken.foldl step ⟨{}, [], []⟩).log = [1] ∧
      (turn (overtaken.foldl step ⟨{}, [], []⟩).shared (.sent ⟨1, 1, 1⟩) granted).shared.store =
        (overtaken.foldl step ⟨{}, [], []⟩).shared.store := by
  have hjob : Client.sent ⟨1, 1, 1⟩ ∈ (overtaken.foldl step ⟨{}, [], []⟩).clients :=
    mem_singleton_self _
  exact ⟨by decide +kernel, (fleet_refresh_token_goes_out_once overtaken).2.2 _ hjob ⟨1, 1, 1⟩ rfl
    (by decide +kernel) granted⟩

end TeslatlasHub.Fleet
