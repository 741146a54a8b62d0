import TeslatlasHub.LegacyOvertaken
import TeslatlasHub.LinkWalk

namespace TeslatlasHub.Credentials

open HubStore LinkWalk RunRules List

variable {s s' : HubStore} {r : ℤ} {g output : Uuid} {op : StoreOp}

def producer (bindings : List Binding) (generation : Uuid) : Option Uuid :=
  (bindings.find? (·.output == some generation)).map (·.input)

def HubStore.ownerWireCredentialIdentity (s : HubStore) : Except StoreError (Option Uuid) :=
  match s.currentGeneration with
  | none => .ok none
  | some current =>
    match walk (producer s.bindings) (s.bindings.length+1) [] current with
    | none => .error .invalidLegacyRefreshGeneration
    | some generation => .ok (some generation)

def StoreOp.isExternal : StoreOp → Bool
  | .replace .. | .bind .. => true
  | .begin .. | .complete .. | .completeUnrotated .. | .cancelUnsent .. | .close .. | .prune .. =>
    false

variable {bindings : List Binding} {path : List Uuid}

theorem producer_target {k m : Uuid} (h : producer bindings k = some m) :
    ∃ b ∈ bindings, b.output = some k ∧ b.input = m := by
  obtain ⟨b, hb, rfl⟩ := Option.map_eq_some_iff.mp h
  have hout := find?_some hb
  exact ⟨b, mem_of_find?_eq_some hb, beq_iff_eq.mp hout, rfl⟩

theorem producer_eq_none {k : Uuid} :
    producer bindings k = none ↔ ∀ b ∈ bindings, b.output ≠ some k := by
  unfold producer
  rw [Option.map_eq_none_iff, find?_eq_none]
  exact forall₂_congr fun b _ => not_congr beq_iff_eq

def OutputsUnique (bindings : List Binding) : Prop :=
  ∀ b ∈ bindings, ∀ c ∈ bindings, ∀ o, b.output = some o → c.output = some o → b.input = c.input

theorem producer_eq_some {b : Binding} {k : Uuid} (hunique : OutputsUnique bindings)
    (hb : b ∈ bindings) (hk : b.output = some k) : producer bindings k = some b.input := by
  cases hp : producer bindings k with
  | none => exact absurd hk (producer_eq_none.mp hp b hb)
  | some m =>
    obtain ⟨c, hc, hout, rfl⟩ := producer_target hp
    rw [hunique c hc b hb k hout hk]

theorem producer_subset {kept : List Binding} (hunique : OutputsUnique bindings)
    (hsub : kept ⊆ bindings) (k : Uuid) :
    producer kept k = producer bindings k ∨ producer kept k = none := by
  cases hp : producer kept k with
  | none => exact .inr rfl
  | some m =>
    obtain ⟨b, hb, hout, rfl⟩ := producer_target hp
    exact .inl (producer_eq_some hunique (hsub hb) hout).symm

variable {others : List Binding} {ops : List StoreOp}

theorem producer_congr (hunique : OutputsUnique others)
    (h : ∀ o i, (∃ b ∈ bindings, b.output = some o ∧ b.input = i) ↔ ∃ b ∈ others, b.output =
    some o ∧ b.input = i) : producer others = producer bindings := by
  funext k
  cases hp : producer bindings k with
  | none =>
    refine producer_eq_none.mpr fun b hb hk => ?_
    obtain ⟨c, hc, hout, -⟩ := (h k b.input).mpr ⟨b, hb, hk, rfl⟩
    exact producer_eq_none.mp hp c hc hout
  | some m =>
    obtain ⟨b, hb, hout, rfl⟩ := (h k m).mp (producer_target hp)
    exact producer_eq_some hunique hb hout

structure Lineage (s : HubStore) : Prop where
  fenced : ∀ b ∈ s.bindings, b.output.isSome → b.input ∈ s.fences
  unique : OutputsUnique s.bindings
  grounded : Grounded (producer s.bindings)

theorem Lineage.new : Lineage {} :=
  ⟨fun _ h => absurd h not_mem_nil, fun _ h => absurd h not_mem_nil, grounded_none⟩

structure Unproductive (s : HubStore) : Prop where
  alone : ∀ r g r' g', s.Open r g → s.Open r' g' → r' = r
  fenced : ∀ r g, s.Open r g → g ∈ s.fences
  fresh : ∀ r g, s.Open r g → ∀ b ∈ s.bindings, b.output.isSome → b.input ≠ g

theorem Unproductive.of_closed (h : ∀ r g, ¬s.Open r g) : Unproductive s :=
  ⟨fun r g _ _ ho => absurd ho (h r g), fun r g ho => absurd ho (h r g), fun r g ho => absurd ho
    (h r g)⟩

theorem Unproductive.ends {release : Bool} (h : Unproductive s) (he : Ends s s' r g release) :
    Unproductive s' := by
  refine .of_closed fun r' g' ho => ?_
  obtain ⟨ho, hne⟩ := (he.opened r' g').mp ho
  exact hne (h.alone r g r' g' he.before ho)

theorem Unproductive.quiet (h : Unproductive s) (hq : Quiet s s')
    (hbindings : s'.bindings ⊆ s.bindings) : Unproductive s' := by
  refine ⟨?_, ?_, ?_⟩
  · intro r g r' g' ho ho'
    exact h.alone r g r' g' ((hq.opened r g).mp ho) ((hq.opened r' g').mp ho')
  · intro r g ho
    rw [hq.fences]
    exact h.fenced r g ((hq.opened r g).mp ho)
  · intro r g ho b hb
    exact h.fresh r g ((hq.opened r g).mp ho) b (hbindings hb)

theorem trail_length_bindings {x : Uuid} (h : Trail (producer s.bindings) g path x) :
    path.length ≤ s.bindings.length+1 := by
  have htargets (k m : Uuid) (hkm : producer s.bindings k = some m) :
      m ∈ s.bindings.map (·.input) := by
    obtain ⟨b, hb, -, rfl⟩ := producer_target hkm
    exact mem_map_of_mem hb
  have hle := trail_length_le htargets h
  rw [length_map] at hle
  exact hle

theorem walk_of_trail {x : Uuid} (h : Trail (producer s.bindings) g path x) :
    walk (producer s.bindings) (s.bindings.length+1) [] g = some x := by
  refine walk_eq_of_trail h (fun _ _ => not_mem_nil) (trail_length_bindings h)

theorem identity_of_trail {x : Uuid} (hg : s.currentGeneration = some g)
    (h : Trail (producer s.bindings) g path x) : s.ownerWireCredentialIdentity = .ok (some x) := by
  unfold ownerWireCredentialIdentity
  rw [hg]
  change (match walk (producer s.bindings) (s.bindings.length+1) [] g with
    | none => _ | some generation => _) = _
  rw [walk_of_trail h]

theorem identity_of_none (hg : s.currentGeneration = none) :
    s.ownerWireCredentialIdentity = .ok none := by
  unfold ownerWireCredentialIdentity
  rw [hg]

theorem Lineage.identity_ok (h : Lineage s) : ∃ x, s.ownerWireCredentialIdentity = .ok x := by
  cases hg : s.currentGeneration with
  | none => exact ⟨none, identity_of_none hg⟩
  | some g =>
    obtain ⟨path, x, ht⟩ := h.grounded g
    exact ⟨some x, identity_of_trail hg ht⟩

theorem Lineage.identity_eq (h : Lineage s)
    (hcurrent : s'.currentGeneration = s.currentGeneration)
    (htrail : ∀ g path x, s.currentGeneration = some g → Trail (producer s.bindings) g path x →
    Trail (producer s'.bindings) g path x) :
    s'.ownerWireCredentialIdentity = s.ownerWireCredentialIdentity := by
  cases hg : s.currentGeneration with
  | none => rw [identity_of_none hg, identity_of_none (hcurrent.trans hg)]
  | some g =>
    obtain ⟨path, x, ht⟩ := h.grounded g
    rw [identity_of_trail hg ht, identity_of_trail (hcurrent.trans hg) (htrail g path x hg ht)]

theorem OutputsUnique.of_subset (h : OutputsUnique bindings)
    (hsub : ∀ b ∈ others, b ∈ bindings ∨ b.output = none) : OutputsUnique others := by
  intro b hb c hc o hbo hco
  rcases hsub b hb with hb | hb
  · rcases hsub c hc with hc | hc
    · exact h b hb c hc o hbo hco
    · cases hc.symm.trans hco
  · cases hb.symm.trans hbo

structure SameLinks (s s' : HubStore) : Prop where
  bindings : ∀ b ∈ s'.bindings, b ∈ s.bindings ∨ b.output = none
  kept : ∀ b ∈ s.bindings, b.output.isSome → b ∈ s'.bindings
  fences : ∀ b ∈ s.bindings, b.output.isSome → b.input ∈ s.fences → b.input ∈ s'.fences

theorem SameLinks.of_eq (hbindings : s'.bindings = s.bindings) (hfences : s'.fences = s.fences) :
    SameLinks s s' :=
  ⟨fun _ hb => .inl (hbindings ▸ hb), fun _ hb _ => hbindings ▸ hb, fun _ _ _ hf => hfences ▸ hf⟩

theorem SameLinks.producer_eq (hsame : SameLinks s s') (h : Lineage s) :
    producer s'.bindings = producer s.bindings := by
  refine producer_congr (h.unique.of_subset hsame.bindings) fun o i => ?_
  constructor
  · rintro ⟨b, hb, hout, hin⟩
    exact ⟨b, hsame.kept b hb (hout ▸ rfl), hout, hin⟩
  · rintro ⟨b, hb, hout, hin⟩
    rcases hsame.bindings b hb with hb | hb
    · exact ⟨b, hb, hout, hin⟩
    · cases hb.symm.trans hout

theorem SameLinks.lineage (hsame : SameLinks s s') (h : Lineage s) : Lineage s' := by
  refine ⟨?_, h.unique.of_subset hsame.bindings, hsame.producer_eq h ▸ h.grounded⟩
  intro b hb hsome
  rcases hsame.bindings b hb with hb | hb
  · exact hsame.fences b hb hsome (h.fenced b hb hsome)
  · rw [hb] at hsome
    cases hsome

def Produced (s s' : HubStore) : Prop :=
  ∀ b ∈ s'.bindings, b ∈ s.bindings ∨ b.output = none ∨ b.output = s'.currentGeneration

theorem SameLinks.produced (hsame : SameLinks s s') : Produced s s' := fun b hb =>
  (hsame.bindings b hb).imp_right Or.inl

theorem SameLinks.identity_eq (hsame : SameLinks s s') (h : Lineage s)
    (hcurrent : s'.currentGeneration = s.currentGeneration) :
    s'.ownerWireCredentialIdentity = s.ownerWireCredentialIdentity :=
  h.identity_eq hcurrent fun _ _ _ _ ht => hsame.producer_eq h ▸ ht

theorem ended_sameLinks {release : Bool} (hun : Unproductive s) (hopen : s.Open r g)
    (hbindings : s'.bindings = (if release then s.releaseInput r g else s).bindings)
    (hfences : s'.fences = (if release then s.releaseInput r g else s).fences) :
    SameLinks s s' := by
  cases release with
  | false => exact .of_eq hbindings hfences
  | true =>
    refine ⟨?_, ?_, ?_⟩
    · intro b hb
      rw [hbindings] at hb
      exact .inl (mem_filter.mp hb).1
    · intro b hb hsome
      rw [hbindings]
      refine mem_filter.mpr ⟨hb, ?_⟩
      rw [Bool.not_eq_true', Bool.and_eq_false_iff, beq_eq_false_iff_ne, beq_eq_false_iff_ne]
      exact .inr (hun.fresh r g hopen b hb hsome)
    · intro b hb hsome hfence
      rw [hfences]
      exact mem_filter.mpr ⟨hfence, bne_iff_ne.mpr (hun.fresh r g hopen b hb hsome)⟩

theorem trail_subset_generationChain {x : Uuid} (hg : s.currentGeneration = some g)
    (h : Trail (producer s.bindings) g path x) : path ⊆ s.generationChain := by
  unfold generationChain
  rw [hg]
  refine trail_subset_iterate (fun c => subset_append_left c _) ?_ h mem_cons_self
    (trail_length_bindings h)
  intro c k m hk hkm
  obtain ⟨b, hb, hout, rfl⟩ := producer_target hkm
  by_cases hin : b.input ∈ c
  · exact mem_append_left _ hin
  · refine mem_append_right _ (mem_map_of_mem (mem_filter.mpr ⟨hb, ?_⟩))
    rw [hout, Bool.and_eq_true]
    exact ⟨decide_eq_true hk, decide_eq_true hin⟩

theorem prunedAt_producer {cutoffMs : ℤ} {k : Uuid} (h : Lineage s) (hk : k ∈ s.generationChain) :
    producer (prunedAt s cutoffMs).bindings k = producer s.bindings k := by
  have hsub : (prunedAt s cutoffMs).bindings ⊆ s.bindings := filter_sublist.subset
  cases hp : producer s.bindings k with
  | none => exact producer_eq_none.mpr fun b hb => producer_eq_none.mp hp b (hsub hb)
  | some m =>
    obtain ⟨b, hb, hout, rfl⟩ := producer_target hp
    refine producer_eq_some (h.unique.of_subset fun b hb => .inl (hsub hb)) ?_ hout
    refine mem_prunedAt_bindings.mpr ⟨hb, ?_⟩
    intro x _ hid
    unfold isExpired
    rw [Bool.and_eq_false_iff, Bool.not_eq_false']
    refine .inr (any_eq_true.mpr ⟨b, hb, ?_⟩)
    rw [hout, hid, beq_self_eq_true, Bool.true_and]
    exact decide_eq_true hk

theorem prunedAt_lineage {cutoffMs : ℤ} (h : Lineage s) : Lineage (prunedAt s cutoffMs) ∧
    (prunedAt s cutoffMs).ownerWireCredentialIdentity = s.ownerWireCredentialIdentity := by
  have hsub : (prunedAt s cutoffMs).bindings ⊆ s.bindings := filter_sublist.subset
  refine ⟨⟨fun b hb => h.fenced b (hsub hb), h.unique.of_subset fun b hb => .inl (hsub hb),
    h.grounded.cut (producer_subset h.unique hsub)⟩, h.identity_eq rfl ?_⟩
  intro g path x hg ht
  exact trail_congr ht fun k hk => prunedAt_producer h (trail_subset_generationChain hg ht hk)

theorem reservedAs_sameLinks {id startedAtMs : ℤ} :
    SameLinks s (reservedAs s id startedAtMs g) := by
  refine ⟨?_, fun b hb _ => mem_append_left _ hb, fun b _ _ hf => mem_append_left _ hf⟩
  intro b hb
  rcases mem_concat.mp hb with hb | rfl
  · exact .inl hb
  · exact .inr rfl

theorem recordOutput_cases (b : Binding) :
    b.receiptId = r ∧ recordOutput r output b = { b with output := some output } ∨
      b.receiptId ≠ r ∧ recordOutput r output b = b := by
  by_cases h : b.receiptId = r
  · exact .inl ⟨h, if_pos (beq_iff_eq.mpr h)⟩
  · exact .inr ⟨h, if_neg fun hc => h (beq_iff_eq.mp hc)⟩

section

variable {clock : Option ℕ} {tokens : TeslaMateLegacyTokenStore}

theorem completeLegacyRefresh_lineage (htidy : Tidy s) (hun : Unproductive s) (h : Lineage s)
    (hok : s.completeLegacyRefresh r g output tokens clock = .ok s') : Lineage s' ∧ Produced s s' ∧
      s'.ownerWireCredentialIdentity = s.ownerWireCredentialIdentity := by
  obtain ⟨hne, htokens, hcurrent, ⟨hs, c, hc, rfl, rfl⟩, hfenced, hnone, hfresh, nowMs, rfl⟩ :=
    completeLegacyRefresh_ok hok
  have hmem (b : Binding) : b ∈ s.bindings.map (recordOutput c.receiptId output) ↔
      b = { c with output := some output } ∨ b ∈ s.bindings ∧ b.receiptId ≠ c.receiptId := by
    rw [mem_map]
    constructor
    · rintro ⟨a, ha, rfl⟩
      rcases recordOutput_cases a with ⟨hid, he⟩ | ⟨hid, he⟩
      · rw [he, htidy.binding_eq ha hc hid]
        exact .inl rfl
      · rw [he]
        exact .inr ⟨ha, hid⟩
    · rintro (rfl | ⟨hb, hid⟩)
      · exact ⟨c, hc, ((recordOutput_cases c).resolve_right fun hx => hx.1 rfl).2⟩
      · exact ⟨b, hb, ((recordOutput_cases b).resolve_left fun hx => hid hx.1).2⟩
  have hunique : OutputsUnique (s.bindings.map (recordOutput c.receiptId output)) := by
    intro a ha b hb o hao hbo
    rcases (hmem a).mp ha with rfl | ⟨ha, -⟩ <;> rcases (hmem b).mp hb with rfl | ⟨hb, -⟩
    · rfl
    · cases hao
      exact absurd hbo (hfresh b hb)
    · cases hbo
      exact absurd hao (hfresh a ha)
    · exact h.unique a ha b hb o hao hbo
  have hnew : producer (s.bindings.map (recordOutput c.receiptId output)) output = some c.input :=
    producer_eq_some (b := { c with output := some output }) hunique ((hmem _).mpr (.inl rfl)) rfl
  have hother (k : Uuid) (hk : k ≠ output) :
      producer (s.bindings.map (recordOutput c.receiptId output)) k = producer s.bindings k := by
    cases hp : producer s.bindings k with
    | none =>
      refine producer_eq_none.mpr fun b hb he => ?_
      rcases (hmem b).mp hb with rfl | ⟨hb, -⟩
      · exact hk (Option.some.inj he).symm
      · exact producer_eq_none.mp hp b hb he
    | some m =>
      obtain ⟨b, hb, hout, rfl⟩ := producer_target hp
      refine producer_eq_some hunique ((hmem b).mpr (.inr ⟨hb, fun hid => ?_⟩)) hout
      cases (hnone b hb hid).symm.trans hout
  -- Whatever a completed refresh had as its input is fenced, and the output is not.
  have huntargeted (k : Uuid) : producer s.bindings k ≠ some output := by
    intro hk
    obtain ⟨b, hb, hout, rfl⟩ := producer_target hk
    exact hfenced (h.fenced b hb (hout ▸ rfl))
  refine ⟨⟨?_, hunique, h.grounded.link huntargeted hother hnew hne⟩, ?_, ?_⟩
  · intro b hb hsome
    rcases (hmem b).mp hb with rfl | ⟨hb, -⟩
    · exact hun.fenced c.receiptId c.input ⟨hs, c, hc, rfl, rfl⟩
    · exact h.fenced b hb hsome
  · intro b hb
    rcases (hmem b).mp hb with rfl | ⟨hb, -⟩
    · exact .inr (.inr htokens.symm)
    · exact .inl hb
  · obtain ⟨path, x, ht⟩ := h.grounded c.input
    rw [identity_of_trail hcurrent ht]
    exact identity_of_trail htokens (.step hnew (trail_linked huntargeted hother ht hne))

end

structure Traceable (s : HubStore) : Prop where
  tidy : Tidy s
  lineage : Lineage s
  unproductive : Unproductive s

theorem Traceable.new : Traceable {} :=
  ⟨.new, .new, .of_closed fun _ _ ho => absurd ho.1 Bool.false_ne_true⟩

/-- A transaction keeps the pair traceable, and only an external one gives it a new identity. -/
theorem Traceable.transact (h : Traceable s) (hok : op.transact s = .ok s') :
    Traceable s' ∧ Produced s s' ∧ (op.isExternal = false → s'.ownerWireCredentialIdentity =
    s.ownerWireCredentialIdentity) := by
  obtain ⟨htidy, hlineage, hun⟩ := h
  cases op with
  | begin input clock pruneClock =>
    obtain ⟨⟨s₁, id⟩, hb, rfl⟩ := map_eq_ok.mp hok
    obtain ⟨hreserves, htidy'⟩ := beginLegacyRefresh_reserves htidy hb
    obtain ⟨-, -, hfenced, cutoffMs, startedAtMs, rfl, -⟩ := beginLegacyRefresh_ok hb
    obtain ⟨hpruned, hidentity⟩ := @prunedAt_lineage s cutoffMs hlineage
    have hsame := @reservedAs_sameLinks (prunedAt s cutoffMs) input id startedAtMs
    refine ⟨⟨htidy', hsame.lineage hpruned, ⟨?_, ?_, ?_⟩⟩,
      ?_, fun _ => (hsame.identity_eq hpruned rfl).trans hidentity⟩
    · intro r g r' g' ho ho'
      exact ((hreserves.opened r' g').mp ho').1.trans ((hreserves.opened r g).mp ho).1.symm
    · intro r g ho
      rw [((hreserves.opened r g).mp ho).2]
      exact mem_append_right _ mem_cons_self
    · -- What a completed refresh consumed is fenced, and this input was not.
      intro r g ho b hb hsome he
      rw [((hreserves.opened r g).mp ho).2] at he
      rcases hsame.bindings b hb with hb | hb
      · exact hfenced (he ▸ hpruned.fenced b hb hsome)
      · rw [hb] at hsome
        cases hsome
    · intro b hb
      exact (hsame.produced b hb).imp_left fun hb => filter_sublist.subset hb
  | complete receipt input output tokens clock =>
    obtain ⟨hends, htidy'⟩ := completeLegacyRefresh_ends htidy hok
    obtain ⟨hl, hproduced, hidentity⟩ := completeLegacyRefresh_lineage htidy hun hlineage hok
    exact ⟨⟨htidy', hl, hun.ends hends⟩, hproduced, fun _ => hidentity⟩
  | completeUnrotated receipt generation tokens clock =>
    obtain ⟨hends, htidy'⟩ := completeUnrotatedLegacyRefresh_ends htidy hok
    obtain ⟨htokens, hcurrent, hopen, nowMs, he⟩ := completeUnrotatedLegacyRefresh_ok htidy hok
    have hsame := @ended_sameLinks s s' receipt generation true hun hopen (he ▸ rfl) (he ▸ rfl)
    have hkept : s'.currentGeneration = s.currentGeneration := by
      rw [he]
      exact htokens.trans hcurrent.symm
    exact ⟨⟨htidy', hsame.lineage hlineage, hun.ends hends⟩, hsame.produced, fun _ =>
      hsame.identity_eq hlineage hkept⟩
  | cancelUnsent receipt input clock =>
    obtain ⟨hends, htidy'⟩ := cancelUnsentLegacyRefresh_ends htidy hok
    obtain ⟨hopen, nowMs, he⟩ := cancelUnsentLegacyRefresh_ok hok
    have hsame := @ended_sameLinks s s' receipt input true hun hopen (he ▸ rfl) (he ▸ rfl)
    exact ⟨⟨htidy', hsame.lineage hlineage, hun.ends hends⟩, hsame.produced,
      fun _ => hsame.identity_eq hlineage (he ▸ rfl)⟩
  | close receipt input outcome httpStatus retryAfterSeconds release clock =>
    obtain ⟨hends, htidy'⟩ := closeLegacyRefreshAttempt_ends htidy hok
    obtain ⟨hopen, nowMs, he⟩ := closeLegacyRefreshAttempt_ok htidy hok
    have hsame := @ended_sameLinks s s' receipt input release hun hopen (he ▸ rfl) (he ▸ rfl)
    refine ⟨⟨htidy', hsame.lineage hlineage, hun.ends hends⟩, hsame.produced, fun _ =>
      hsame.identity_eq hlineage ?_⟩
    rw [he]
    cases release with
    | true => rfl
    | false => rfl
  | replace tokens clock =>
    obtain ⟨htidy', hcases⟩ := replaceTeslamateLegacyTokens_cases htidy hok
    have heq : s'.bindings = s.bindings ∧ s'.fences = s.fences := by
      obtain ⟨-, ⟨-, rfl⟩ | ⟨r, g, nowMs, -, rfl⟩⟩ := replaceTeslamateLegacyTokens_ok hok
      · exact ⟨rfl, rfl⟩
      · exact ⟨rfl, rfl⟩
    have hsame := SameLinks.of_eq heq.1 heq.2
    refine ⟨⟨htidy', hsame.lineage hlineage, ?_⟩, hsame.produced, fun hx => nomatch hx⟩
    rcases hcases with ⟨-, hq⟩ | ⟨r, g, -, hends⟩
    · exact hun.quiet hq fun _ hb => heq.1 ▸ hb
    · exact hun.ends hends
  | bind tokens generation =>
    obtain ⟨hq, htidy'⟩ := bindTeslamateLegacyCredentialGeneration_quiet htidy hok
    have heq : s'.bindings = s.bindings ∧ s'.fences = s.fences := by
      obtain rfl | ⟨-, row, rfl⟩ := bindTeslamateLegacyCredentialGeneration_ok hok
      · exact ⟨rfl, rfl⟩
      · exact ⟨rfl, rfl⟩
    have hsame := SameLinks.of_eq heq.1 heq.2
    exact ⟨⟨htidy', hsame.lineage hlineage, hun.quiet hq fun _ hb => heq.1 ▸ hb⟩, hsame.produced,
      fun hx => nomatch hx⟩
  | prune clock =>
    obtain ⟨cutoffMs, rfl⟩ := pruneExpiredOutboundRequestReceipts_ok hok
    obtain ⟨hq, htidy'⟩ := @prunedAt_quiet s cutoffMs htidy
    obtain ⟨hl, hidentity⟩ := @prunedAt_lineage s cutoffMs hlineage
    exact ⟨⟨htidy', hl, hun.quiet hq filter_sublist.subset⟩,
      fun b hb => .inl (filter_sublist.subset hb), fun _ => hidentity⟩

theorem Traceable.apply (h : Traceable s) :
    Traceable (op.apply s) ∧ Produced s (op.apply s) ∧
    (op.isExternal = false → (op.apply s).ownerWireCredentialIdentity =
    s.ownerWireCredentialIdentity) := by
  unfold StoreOp.apply
  split
  · rename_i s' hok
    exact h.transact hok
  · exact ⟨h, fun _ hb => .inl hb, fun _ => rfl⟩

theorem Traceable.applyAll (h : Traceable s) : Traceable (s.applyAll ops) :=
  foldlRecOn ops StoreOp.apply h fun _ h _ _ => h.apply.1

theorem Traceable.identity_applyAll (h : Traceable s) (hown : ∀ op ∈ ops, op.isExternal = false) :
    (s.applyAll ops).ownerWireCredentialIdentity = s.ownerWireCredentialIdentity := by
  induction ops generalizing s with
  | nil => rfl
  | cons op rest ih =>
    obtain ⟨hnext, -, hidentity⟩ := @Traceable.apply s op h
    have hrest := ih hnext fun op hop => hown op (mem_cons_of_mem _ hop)
    exact hrest.trans (hidentity (hown op mem_cons_self))

theorem produced_was_held (ops : List StoreOp) (b : Binding)
    (hb : b ∈ (HubStore.applyAll {} ops).bindings) (o : Uuid) (ho : b.output = some o) :
    ∃ pre, pre <+: ops ∧ (HubStore.applyAll {} pre).currentGeneration = some o := by
  induction ops using reverseRecOn with
  | nil => exact absurd hb not_mem_nil
  | append_singleton rest op ih =>
    have happly : applyAll {} (rest++[op]) = op.apply (applyAll {} rest) := foldl_concat ..
    have hb' := happly ▸ hb
    obtain ⟨-, hproduced, -⟩ := @Traceable.apply (applyAll {} rest) op Traceable.new.applyAll
    rcases hproduced b hb' with hb | hb | hb
    · obtain ⟨pre, hpre, hheld⟩ := ih hb
      exact ⟨pre, hpre.trans (prefix_append rest [op]), hheld⟩
    · cases hb.symm.trans ho
    · exact ⟨rest++[op], prefix_refl _, happly ▸ hb.symm.trans ho⟩

theorem identity_of_new_write {tokens : TeslaMateLegacyTokenStore} {clock : Option ℕ}
    (hgen : tokens.credentialGeneration = some g) (hnew : ∀ b ∈ s.bindings, b.output ≠ some g)
    (hok : s.replaceTeslamateLegacyTokens tokens clock = .ok s') :
    s'.ownerWireCredentialIdentity = .ok (some g) := by
  have heq : s'.bindings = s.bindings ∧ s'.pair = some tokens := by
    obtain ⟨-, ⟨-, rfl⟩ | ⟨r, g, nowMs, -, rfl⟩⟩ := replaceTeslamateLegacyTokens_ok hok
    · exact ⟨rfl, rfl⟩
    · exact ⟨rfl, rfl⟩
  have hcurrent : s'.currentGeneration = some g := by
    unfold currentGeneration
    rw [heq.2]
    exact hgen
  refine identity_of_trail hcurrent (.stop (producer_eq_none.mpr ?_))
  rw [heq.1]
  exact hnew

/-- Whatever the credential operations and the clock do, only external writes change the identity of
the last external write. -/
theorem credential_identity_changes_with_external_writes_only (ops : List StoreOp) :
    (∃ identity, (HubStore.applyAll {} ops).ownerWireCredentialIdentity = .ok identity) ∧
    (∀ own : List StoreOp, (∀ op ∈ own, op.isExternal = false) →
      (HubStore.applyAll {} (ops++own)).ownerWireCredentialIdentity =
        (HubStore.applyAll {} ops).ownerWireCredentialIdentity) ∧
    ∀ (tokens : TeslaMateLegacyTokenStore) (clock : Option ℕ) (generation : Uuid)
      (replaced : HubStore),
      tokens.credentialGeneration = some generation →
      (∀ pre, pre <+: ops → (HubStore.applyAll {} pre).currentGeneration ≠ some generation) →
      (HubStore.applyAll {} ops).replaceTeslamateLegacyTokens tokens clock = .ok replaced →
      replaced.ownerWireCredentialIdentity = .ok (some generation) := by
  have htraceable : Traceable (applyAll {} ops) := Traceable.new.applyAll
  refine ⟨htraceable.lineage.identity_ok, ?_, ?_⟩
  · intro own hown
    have hsplit : applyAll {} (ops++own) = (applyAll {} ops).applyAll own :=
      foldl_append
    rw [hsplit]
    exact htraceable.identity_applyAll hown
  · intro tokens clock generation replaced hgen hnever hok
    refine identity_of_new_write hgen ?_ hok
    intro b hb ho
    obtain ⟨pre, hpre, hheld⟩ := produced_was_held ops b hb generation ho
    exact hnever pre hpre hheld

/-- An import, a refresh of it, months of pruning and another import. -/
theorem credential_identity_changes_with_external_writes_only_refreshed :
    (HubStore.applyAll {} ([.replace (importedPair 1) (some 0), .begin 1 (some 5) (some 5),
    .complete 1 1 2 (importedPair 2)
    (some 6)]++[.prune (some 9000000000)])).ownerWireCredentialIdentity = .ok (some 1) ∧
    ∃ replaced, (HubStore.applyAll {} [.replace (importedPair 1) (some 0),
    .begin 1 (some 5) (some 5), .complete 1 1 2 (importedPair 2)
    (some 6)]).replaceTeslamateLegacyTokens (importedPair 3) (some 7) = .ok replaced ∧
    replaced.ownerWireCredentialIdentity = .ok (some 3) := by
  obtain ⟨-, hown, hwrite⟩ := credential_identity_changes_with_external_writes_only
    [.replace (importedPair 1) (some 0), .begin 1 (some 5) (some 5),
      .complete 1 1 2 (importedPair 2) (some 6)]
  refine ⟨?_, _, rfl, hwrite (importedPair 3) (some 7) 3 _ rfl ?_ rfl⟩
  · decide +kernel
  · intro pre hpre
    have hall : ∀ p ∈ inits [.replace (importedPair 1) (some 0), .begin 1 (some 5) (some 5),
        .complete 1 1 2 (importedPair 2) (some 6)], (applyAll {} p).currentGeneration ≠ some 3 := by
      decide +kernel
    exact hall pre ((mem_inits ..).mpr hpre)

end TeslatlasHub.Credentials
