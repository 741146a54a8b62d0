import TeslatlasHub.LegacySystem

namespace TeslatlasHub.Credentials

open HubStore FixedWidth RunRules SingleUse List

variable {s s' : HubStore} {r : ℤ} {g : Uuid}

variable {outcome : OutboundRequestOutcome} {status : Option ℕ} {op : StoreOp}

namespace HubStore

def Open (s : HubStore) (r : ℤ) (g : Uuid) : Prop :=
  s.isStarted r = true ∧ ∃ b ∈ s.bindings, b.receiptId = r ∧ b.input = g

theorem isStarted_iff : s.isStarted r ↔ ∃ x ∈ s.receipts, x.id = r ∧ x.isStarted := by
  unfold isStarted
  simp only [any_eq_true, Bool.and_eq_true, beq_iff_eq]

theorem mem_openAttempts : (r, g) ∈ s.openAttempts ↔ s.Open r g := by
  unfold openAttempts Open
  rw [mem_map]
  constructor
  · rintro ⟨b, hb, he⟩
    obtain ⟨hmem, hstarted⟩ := mem_filter.mp hb
    cases he
    exact ⟨hstarted, b, hmem, rfl, rfl⟩
  · rintro ⟨hstarted, b, hb, rfl, rfl⟩
    exact ⟨b, mem_filter.mpr ⟨hb, hstarted⟩, rfl⟩

theorem isStarted_closeReceipt {id nowMs : ℤ} {retryAfter : Option ℤ} :
    (s.closeReceipt id nowMs outcome status retryAfter).isStarted r ↔ s.isStarted r ∧ r ≠ id := by
  rw [isStarted_iff, isStarted_iff]
  unfold closeReceipt
  simp only [mem_map]
  constructor
  · rintro ⟨x, ⟨y, hy, rfl⟩, hid, hstarted⟩
    split_ifs at hid with hc
    · rw [if_pos hc] at hstarted
      cases hstarted
    · rw [if_neg hc] at hstarted
      refine ⟨⟨y, hy, hid, hstarted⟩, ?_⟩
      rintro rfl
      exact hc (by rw [hid, hstarted, beq_self_eq_true]; rfl)
  · rintro ⟨⟨y, hy, hid, hstarted⟩, hne⟩
    refine ⟨y, ⟨y, hy, if_neg ?_⟩, hid, hstarted⟩
    rw [hid, beq_false_of_ne hne]
    exact Bool.false_ne_true

end HubStore

structure Tidy (s : HubStore) : Prop where
  refresh : ∀ x ∈ s.receipts, x.isTokenRefresh
  ids : (s.receipts.map (·.id)).Nodup
  receipt_le : ∀ x ∈ s.receipts, x.id ≤ s.lastReceiptId
  binding_le : ∀ b ∈ s.bindings, b.receiptId ≤ s.lastReceiptId
  nodup : (s.bindings.map (·.receiptId)).Nodup
  started_bound : ∀ id, s.isStarted id → ∃ b ∈ s.bindings, b.receiptId = id

theorem Tidy.new : Tidy {} :=
  ⟨fun _ h => absurd h not_mem_nil, nodup_nil, fun _ h => absurd h not_mem_nil,
    fun _ h => absurd h not_mem_nil, nodup_nil, fun _ h => nomatch h⟩

theorem Tidy.binding_eq {b c : Binding} (h : Tidy s) (hb : b ∈ s.bindings) (hc : c ∈ s.bindings)
    (hid : b.receiptId = c.receiptId) : b = c :=
  inj_on_of_nodup_map h.nodup hb hc hid

theorem Tidy.isStartedRefresh_eq (h : Tidy s) : s.isStartedRefresh r = s.isStarted r := by
  unfold isStartedRefresh isStarted
  rw [Bool.eq_iff_iff, any_eq_true, any_eq_true]
  constructor
  · rintro ⟨x, hx, hc⟩
    rw [h.refresh x hx, Bool.and_true] at hc
    exact ⟨x, hx, hc⟩
  · rintro ⟨x, hx, hc⟩
    refine ⟨x, hx, ?_⟩
    rw [h.refresh x hx, Bool.and_true]
    exact hc

structure Quiet (s s' : HubStore) : Prop where
  opened : ∀ r g, s'.Open r g ↔ s.Open r g
  fences : s'.fences = s.fences
  lastReceiptId : s'.lastReceiptId = s.lastReceiptId

structure Ends (s s' : HubStore) (r : ℤ) (g : Uuid) (release : Bool) : Prop where
  before : s.Open r g
  opened : ∀ r' g', s'.Open r' g' ↔ s.Open r' g' ∧ r' ≠ r
  fences : s'.fences = if release then s.fences.filter (· != g) else s.fences
  lastReceiptId : s'.lastReceiptId = s.lastReceiptId

structure Reserves (s s' : HubStore) (r : ℤ) (g : Uuid) : Prop where
  before : ∀ r' g', ¬s.Open r' g'
  current : s.currentGeneration = some g
  unfenced : g ∉ s.fences
  receipt : r = s.lastReceiptId+1
  opened : ∀ r' g', s'.Open r' g' ↔ r' = r ∧ g' = g
  fences : s'.fences = s.fences++[g]
  lastReceiptId : s'.lastReceiptId = r

structure Thinned (s s' : HubStore) : Prop where
  receipts : ∀ x ∈ s'.receipts, ∃ y ∈ s.receipts, x.isTokenRefresh = y.isTokenRefresh
  ids : (s'.receipts.map (·.id)).Sublist (s.receipts.map (·.id))
  bindings : (s'.bindings.map (·.receiptId)).Sublist (s.bindings.map (·.receiptId))
  lastReceiptId : s'.lastReceiptId = s.lastReceiptId

theorem Tidy.thinned (h : Tidy s) (ht : Thinned s s')
    (hbound : ∀ id, s'.isStarted id → ∃ b ∈ s'.bindings, b.receiptId = id) : Tidy s' := by
  refine ⟨?_, h.ids.sublist ht.ids, ?_, ?_, h.nodup.sublist ht.bindings, hbound⟩
  · intro x hx
    obtain ⟨y, hy, he⟩ := ht.receipts x hx
    exact he.trans (h.refresh y hy)
  · intro x hx
    obtain ⟨y, hy, he⟩ := mem_map.mp (ht.ids.mem (mem_map_of_mem hx))
    rw [← he, ht.lastReceiptId]
    exact h.receipt_le y hy
  · intro b hb
    obtain ⟨c, hc, he⟩ := mem_map.mp (ht.bindings.mem (mem_map_of_mem hb))
    rw [← he, ht.lastReceiptId]
    exact h.binding_le c hc

section

variable {id nowMs : ℤ} {outcome : OutboundRequestOutcome} {status : Option ℕ}
  {retryAfter : Option ℤ}

theorem closeWhere_thinned {p : Receipt → Bool} {pair : Option TeslaMateLegacyTokenStore} :
    Thinned s { s with
      receipts := s.receipts.map fun x => if p x then x.close nowMs outcome status retryAfter else x
      pair := pair } := by
  refine ⟨?_, ?_, List.Sublist.refl _, rfl⟩
  · intro x hx
    obtain ⟨y, hy, rfl⟩ := mem_map.mp hx
    refine ⟨y, hy, ?_⟩
    split
    · rfl
    · rfl
  · rw [map_map]
    have hid : ((·.id) ∘ fun x : Receipt => if p x then x.close nowMs outcome status
        retryAfter else x) = (·.id) := by
      funext x
      change (if p x then x.close nowMs outcome status retryAfter else x).id = x.id
      split
      · rfl
      · rfl
    rw [hid]

theorem closeReceipt_thinned : Thinned s (s.closeReceipt id nowMs outcome status retryAfter) :=
  closeWhere_thinned

theorem releaseInput_thinned : Thinned s (s.releaseInput id g) :=
  ⟨fun x hx => ⟨x, hx, rfl⟩, List.Sublist.refl _, (filter_sublist).map _, rfl⟩

theorem Thinned.trans {t : HubStore} (h : Thinned s t) (h' : Thinned t s') : Thinned s s' := by
  refine ⟨?_, h'.ids.trans h.ids, h'.bindings.trans h.bindings,
    h'.lastReceiptId.trans h.lastReceiptId⟩
  intro x hx
  obtain ⟨y, hy, hr⟩ := h'.receipts x hx
  obtain ⟨z, hz, hr'⟩ := h.receipts y hy
  exact ⟨z, hz, hr.trans hr'⟩

theorem Ends.of_parts {release : Bool} (htidy : Tidy s) (ht : Thinned s s') (hbefore : s.Open r g)
    (hstarted : ∀ r', s'.isStarted r' ↔ s.isStarted r' ∧ r' ≠ r)
    (hbindings : ∀ r' g', r' ≠ r → ((∃ b ∈ s'.bindings, b.receiptId = r' ∧ b.input = g') ↔
      ∃ b ∈ s.bindings, b.receiptId = r' ∧ b.input = g'))
    (hfences : s'.fences = if release then s.fences.filter (· != g) else s.fences) :
    Ends s s' r g release ∧ Tidy s' := by
  refine ⟨⟨hbefore, ?_, hfences, ht.lastReceiptId⟩, htidy.thinned ht ?_⟩
  · intro r' g'
    unfold HubStore.Open
    rw [hstarted]
    constructor
    · rintro ⟨⟨hs, hne⟩, hb⟩
      exact ⟨⟨hs, (hbindings r' g' hne).mp hb⟩, hne⟩
    · rintro ⟨⟨hs, hb⟩, hne⟩
      exact ⟨⟨hs, hne⟩, (hbindings r' g' hne).mpr hb⟩
  · intro id hid
    obtain ⟨hs, hne⟩ := (hstarted id).mp hid
    obtain ⟨b, hb, he⟩ := htidy.started_bound id hs
    obtain ⟨c, hc, hcid, -⟩ := (hbindings id b.input hne).mpr ⟨b, hb, he, rfl⟩
    exact ⟨c, hc, hcid⟩

theorem releaseInput_bindings {r' : ℤ} {g' : Uuid} (hne : r' ≠ r) :
    (∃ b ∈ (s.releaseInput r g).bindings, b.receiptId = r' ∧ b.input = g') ↔
      ∃ b ∈ s.bindings, b.receiptId = r' ∧ b.input = g' := by
  unfold releaseInput
  simp only [mem_filter]
  constructor
  · rintro ⟨b, ⟨hb, -⟩, he⟩
    exact ⟨b, hb, he⟩
  · rintro ⟨b, hb, he⟩
    refine ⟨b, ⟨hb, ?_⟩, he⟩
    rw [he.1, beq_false_of_ne hne]
    rfl

theorem ends_released (htidy : Tidy s) (hbefore : s.Open r g) :
    Ends s ((s.releaseInput r g).closeReceipt r nowMs outcome status retryAfter) r g true ∧
      Tidy ((s.releaseInput r g).closeReceipt r nowMs outcome status retryAfter) :=
  Ends.of_parts htidy (releaseInput_thinned.trans closeReceipt_thinned) hbefore
    (fun _ => isStarted_closeReceipt) (fun _ _ hne => releaseInput_bindings hne) rfl

theorem ends_kept (htidy : Tidy s) (hbefore : s.Open r g) :
    Ends s (s.closeReceipt r nowMs outcome status retryAfter) r g false ∧
    Tidy (s.closeReceipt r nowMs outcome status retryAfter) :=
  Ends.of_parts htidy closeReceipt_thinned hbefore (fun _ => isStarted_closeReceipt)
    (fun _ _ _ => Iff.rfl) rfl

end

section

variable {clock pruneClock : Option ℕ} {tokens : TeslaMateLegacyTokenStore} {output : Uuid}
  {b : Binding}

theorem isBound_open (htidy : Tidy s) (h : s.isBound r g) : s.Open r g := by
  unfold isBound at h
  rw [htidy.isStartedRefresh_eq, Bool.and_eq_true, any_eq_true] at h
  obtain ⟨⟨b, hb, he⟩, hs⟩ := h
  rw [Bool.and_eq_true, beq_iff_eq, beq_iff_eq] at he
  exact ⟨hs, b, hb, he⟩

theorem cancelUnsentLegacyRefresh_ok (h : s.cancelUnsentLegacyRefresh r g clock = .ok s') :
    s.Open r g ∧ ∃ nowMs, s' = (s.releaseInput r g).closeReceipt r nowMs .cancelled none none := by
  unfold cancelUnsentLegacyRefresh at h
  split_ifs at h with hc
  obtain ⟨nowMs, -, hr⟩ := bind_eq_ok.mp h
  cases hr
  rw [Bool.not_eq_true', Bool.not_eq_false, Bool.and_eq_true, any_eq_true] at hc
  obtain ⟨⟨b, hb, he⟩, hs⟩ := hc
  rw [Bool.and_eq_true, beq_iff_eq, beq_iff_eq] at he
  exact ⟨⟨hs, b, hb, he⟩, nowMs, rfl⟩

theorem cancelUnsentLegacyRefresh_ends (htidy : Tidy s)
    (h : s.cancelUnsentLegacyRefresh r g clock = .ok s') : Ends s s' r g true ∧ Tidy s' := by
  obtain ⟨hopen, nowMs, rfl⟩ := cancelUnsentLegacyRefresh_ok h
  exact ends_released htidy hopen

theorem closeLegacyRefreshAttempt_ok {retryAfter : Option ℕ} {release : Bool} (htidy : Tidy s)
    (h : s.closeLegacyRefreshAttempt r g outcome status retryAfter release clock = .ok s') :
    s.Open r g ∧ ∃ nowMs, s' =
      (if release then s.releaseInput r g else s).closeReceipt r nowMs outcome status
        (retryAfter.map Nat.cast) := by
  unfold closeLegacyRefreshAttempt at h
  split at h
  · cases h
  split at h
  · cases h
  split at h
  · cases h
  split at h
  · cases h
  split at h
  · cases h
  rename_i hb
  rw [Bool.not_eq_true', Bool.not_eq_false] at hb
  obtain ⟨nowMs, -, hr⟩ := bind_eq_ok.mp h
  cases hr
  refine ⟨isBound_open htidy hb, nowMs, ?_⟩
  cases release with
  | true => rfl
  | false => rfl

theorem closeLegacyRefreshAttempt_ends {retryAfter : Option ℕ} {release : Bool} (htidy : Tidy s)
    (h : s.closeLegacyRefreshAttempt r g outcome status retryAfter release clock = .ok s') :
    Ends s s' r g release ∧ Tidy s' := by
  obtain ⟨hopen, nowMs, rfl⟩ := closeLegacyRefreshAttempt_ok htidy h
  cases release with
  | true => exact ends_released htidy hopen
  | false => exact ends_kept htidy hopen

theorem completeUnrotatedLegacyRefresh_ok (htidy : Tidy s)
    (h : s.completeUnrotatedLegacyRefresh r g tokens clock = .ok s') :
    tokens.credentialGeneration = some g ∧ s.currentGeneration = some g ∧ s.Open r g ∧ ∃ nowMs, s' =
      (({ s with pair := some tokens } : HubStore).releaseInput r g).closeReceipt r nowMs .success
        (some 200) none := by
  unfold completeUnrotatedLegacyRefresh at h
  split at h
  · cases h
  rename_i hgen
  split at h
  · cases h
  rename_i hb
  rw [Bool.not_eq_true', Bool.not_eq_false] at hb
  split_ifs at h with hcurrent
  obtain ⟨nowMs, -, hr⟩ := bind_eq_ok.mp h
  cases hr
  rw [not_or, not_or, not_not] at hgen
  exact ⟨hgen.2.2, not_not.mp hcurrent, isBound_open htidy hb, nowMs, rfl⟩

theorem Tidy.published (h : Tidy s) : Tidy { s with pair := some tokens } :=
  ⟨h.refresh, h.ids, h.receipt_le, h.binding_le, h.nodup, h.started_bound⟩

theorem completeUnrotatedLegacyRefresh_ends (htidy : Tidy s)
    (h : s.completeUnrotatedLegacyRefresh r g tokens clock = .ok s') :
    Ends s s' r g true ∧ Tidy s' := by
  obtain ⟨-, -, hopen, nowMs, rfl⟩ := completeUnrotatedLegacyRefresh_ok htidy h
  have hends := @ends_released { s with pair := some tokens } r g nowMs .success (some 200) none
    htidy.published hopen
  exact ⟨⟨hends.1.before, hends.1.opened, hends.1.fences, hends.1.lastReceiptId⟩, hends.2⟩

theorem startedInput_open (h : s.startedInput r = some g) : s.Open r g := by
  obtain ⟨b, hb, rfl⟩ := Option.map_eq_some_iff.mp h
  obtain ⟨hfind, hs⟩ := Option.filter_eq_some_iff.mp hb
  have hid := find?_some hfind
  exact ⟨hs, b, mem_of_find?_eq_some hfind, beq_iff_eq.mp hid, rfl⟩

def recordOutput (r : ℤ) (output : Uuid) (b : Binding) : Binding :=
  if b.receiptId == r then { b with output := some output } else b

theorem recordOutput_keys : (recordOutput r output b).receiptId = b.receiptId ∧
    (recordOutput r output b).input = b.input := by
  unfold recordOutput
  split
  · exact ⟨rfl, rfl⟩
  · exact ⟨rfl, rfl⟩

theorem completeLegacyRefresh_ok (h : s.completeLegacyRefresh r g output tokens clock = .ok s') :
    g ≠ output ∧ tokens.credentialGeneration = some output ∧ s.currentGeneration = some g ∧
      s.Open r g ∧
      output ∉ s.fences ∧ (∀ b ∈ s.bindings, b.receiptId = r → b.output = none) ∧
      (∀ b ∈ s.bindings, b.output ≠ some output) ∧ ∃ nowMs, s' = ({ s with
          pair := some tokens
          bindings := s.bindings.map (recordOutput r output) } : HubStore).closeReceipt r nowMs
            .success
          (some 200) none := by
  unfold completeLegacyRefresh at h
  split at h
  · cases h
  rename_i hargs
  split at h
  · cases h
  rename_i hinput
  split at h
  · cases h
  rename_i hcurrent
  split at h
  · cases h
  rename_i hfenced
  split at h
  · cases h
  rename_i hown
  split at h
  · cases h
  rename_i hunique
  obtain ⟨nowMs, -, hr⟩ := bind_eq_ok.mp h
  cases hr
  rw [not_or, not_or, not_or, not_or, not_not] at hargs
  refine ⟨hargs.2.2.2.1, hargs.2.2.2.2, not_not.mp hcurrent, startedInput_open (not_not.mp hinput),
    fun hx => hfenced (decide_eq_true hx), ?_, ?_, nowMs, rfl⟩
  · intro b hb hid
    by_contra hsome
    refine hown (any_eq_true.mpr ⟨b, hb, ?_⟩)
    rw [hid, beq_self_eq_true, Bool.true_and]
    exact Option.isSome_iff_ne_none.mpr hsome
  · intro b hb he
    exact hunique (any_eq_true.mpr ⟨b, hb, beq_iff_eq.mpr he⟩)

theorem completeLegacyRefresh_ends (htidy : Tidy s)
    (h : s.completeLegacyRefresh r g output tokens clock = .ok s') :
    Ends s s' r g false ∧ Tidy s' := by
  obtain ⟨-, -, -, hopen, -, -, -, nowMs, rfl⟩ := completeLegacyRefresh_ok h
  -- The output changes neither the receipt nor the input of a binding.
  have hthinned : Thinned s { s with
      pair := some tokens
      bindings := s.bindings.map (recordOutput r output) } := by
    refine ⟨fun x hx => ⟨x, hx, rfl⟩, List.Sublist.refl _, ?_, rfl⟩
    have hids : (s.bindings.map (recordOutput r output)).map (·.receiptId) = s.bindings.map
        (·.receiptId) := by
      rw [map_map]
      exact map_congr_left fun _ _ => recordOutput_keys.1
    rw [hids]
  refine Ends.of_parts htidy (hthinned.trans closeReceipt_thinned) hopen
    (fun _ => isStarted_closeReceipt) ?_ rfl
  intro r' g' _
  constructor
  · rintro ⟨b, hb, hid, hin⟩
    obtain ⟨c, hc, rfl⟩ := mem_map.mp hb
    exact ⟨c, hc, recordOutput_keys.1.symm.trans hid, recordOutput_keys.2.symm.trans hin⟩
  · rintro ⟨b, hb, hid, hin⟩
    exact ⟨_, mem_map_of_mem hb, recordOutput_keys.1.trans hid, recordOutput_keys.2.trans hin⟩

theorem unresolvedInputs_eq : s.unresolvedInputs = s.openAttempts.map (·.2) := by
  unfold unresolvedInputs openAttempts
  rw [map_map]
  rfl

theorem replaceTeslamateLegacyTokens_ok (h : s.replaceTeslamateLegacyTokens tokens clock = .ok s') :
    (∀ g, tokens.credentialGeneration = some g → g ∉ s.fences) ∧
      (s.openAttempts = [] ∧ s' = { s with pair := some tokens } ∨
        ∃ r g nowMs, s.openAttempts = [(r, g)] ∧ s' = { s with
          receipts := s.receipts.map fun x =>
            if x.isStarted && s.bindings.any (·.receiptId == x.id) then x.close nowMs .cancelled
              none none
            else x
          pair := some tokens }) := by
  unfold replaceTeslamateLegacyTokens at h
  simp only at h
  split at h
  · cases h
  rename_i hfenced
  refine ⟨?_, ?_⟩
  · intro g hg hmem
    rw [hg] at hfenced
    exact hfenced (decide_eq_true hmem)
  split at h
  · rename_i hnone
    cases h
    rw [unresolvedInputs_eq, map_eq_nil_iff] at hnone
    exact .inl ⟨hnone, rfl⟩
  split_ifs at h with hrefuse
  obtain ⟨nowMs, -, hr⟩ := bind_eq_ok.mp h
  cases hr
  rw [not_or, not_not, unresolvedInputs_eq, length_map] at hrefuse
  obtain ⟨⟨r, g⟩, hone⟩ := length_eq_one_iff.mp hrefuse.1
  exact .inr ⟨r, g, nowMs, hone, rfl⟩

theorem replaceTeslamateLegacyTokens_cases (htidy : Tidy s)
    (h : s.replaceTeslamateLegacyTokens tokens clock = .ok s') :
    Tidy s' ∧ (s.openAttempts = [] ∧ Quiet s s' ∨ ∃ r g, s.openAttempts = [(r, g)] ∧
    Ends s s' r g false) := by
  obtain ⟨-, ⟨hnone, rfl⟩ | ⟨r, g, nowMs, hone, rfl⟩⟩ := replaceTeslamateLegacyTokens_ok h
  · exact ⟨htidy.published, .inl ⟨hnone, ⟨fun _ _ => Iff.rfl, rfl, rfl⟩⟩⟩
  have hopen : s.Open r g := HubStore.mem_openAttempts.mp (hone ▸ mem_cons_self)
  -- Every started receipt is bound, so this is the only one and it is closed.
  have honly (r' : ℤ) (hs : s.isStarted r') : r' = r := by
    obtain ⟨b, hb, hid⟩ := htidy.started_bound r' hs
    have hmem : (r', b.input) ∈ s.openAttempts := HubStore.mem_openAttempts.mpr ⟨hs, b, hb, hid,
        rfl⟩
    rw [hone] at hmem
    exact congrArg Prod.fst (mem_singleton.mp hmem)
  have hstarted (r' : ℤ) : isStarted { s with
      receipts := s.receipts.map fun x =>
        if x.isStarted && s.bindings.any (·.receiptId == x.id) then x.close nowMs .cancelled none
          none
        else x
      pair := some tokens } r' = true ↔ s.isStarted r' = true ∧ r' ≠ r := by
    constructor
    · intro hs
      obtain ⟨x, hx, hid, hst⟩ := HubStore.isStarted_iff.mp hs
      obtain ⟨y, hy, rfl⟩ := mem_map.mp hx
      split_ifs at hst with hc
      · cases hst
      · obtain ⟨b, hb, hbid⟩ := htidy.started_bound y.id (HubStore.isStarted_iff.mpr ⟨y, hy, rfl,
            hst⟩)
        rw [hst, Bool.true_and] at hc
        exact (hc (any_eq_true.mpr ⟨b, hb, beq_iff_eq.mpr hbid⟩)).elim
    · rintro ⟨hs, hne⟩
      exact absurd (honly r' hs) hne
  have hends := @Ends.of_parts s _ r g false htidy closeWhere_thinned hopen hstarted
    (fun _ _ _ => Iff.rfl) rfl
  exact ⟨hends.2, .inr ⟨r, g, hone, hends.1⟩⟩

theorem bindTeslamateLegacyCredentialGeneration_ok (h : s.bindTeslamateLegacyCredentialGeneration
    tokens g = .ok s') :
    s' = s ∨ s.currentGeneration = none ∧ ∃ row : TeslaMateLegacyTokenStore, s' =
    { s with pair := some { row with credentialGeneration := some g } } := by
  unfold bindTeslamateLegacyCredentialGeneration at h
  split_ifs at h
  split at h
  · cases h
  rename_i row hrow
  split_ifs at h
  split at h
  · split at h
    · cases h
      exact .inl rfl
    · cases h
  · rename_i hgen
    cases h
    refine .inr ⟨?_, row, rfl⟩
    unfold currentGeneration
    rw [hrow]
    exact hgen

theorem bindTeslamateLegacyCredentialGeneration_quiet (htidy : Tidy s)
    (h : s.bindTeslamateLegacyCredentialGeneration tokens g = .ok s') : Quiet s s' ∧ Tidy s' := by
  obtain rfl | ⟨-, row, rfl⟩ := bindTeslamateLegacyCredentialGeneration_ok h
  · exact ⟨⟨fun _ _ => Iff.rfl, rfl, rfl⟩, htidy⟩
  · exact ⟨⟨fun _ _ => Iff.rfl, rfl, rfl⟩, htidy.published⟩

def prunedAt (s : HubStore) (cutoffMs : ℤ) : HubStore :=
  { s with
    receipts := s.receipts.filter fun x => !s.isExpired cutoffMs x
    bindings := s.bindings.filter fun b =>
      !s.receipts.any fun x => x.id == b.receiptId && s.isExpired cutoffMs x }

theorem pruneExpiredOutboundRequestReceipts_ok
    (h : s.pruneExpiredOutboundRequestReceipts clock = .ok s') :
    ∃ cutoffMs, s' = prunedAt s cutoffMs := by
  obtain ⟨nowMs, -, hr⟩ := bind_eq_ok.mp h
  cases hr
  exact ⟨_, rfl⟩

theorem mem_prunedAt_bindings {cutoffMs : ℤ} : b ∈ (prunedAt s cutoffMs).bindings ↔
    b ∈ s.bindings ∧ ∀ x ∈ s.receipts, x.id = b.receiptId → s.isExpired cutoffMs x = false := by
  change b ∈ s.bindings.filter _ ↔ _
  rw [mem_filter, Bool.not_eq_true', any_eq_false]
  refine and_congr_right fun _ => forall₂_congr fun x _ => ?_
  rw [Bool.and_eq_true, beq_iff_eq, not_and, Bool.not_eq_true]

theorem not_isExpired_of_isStarted {cutoffMs : ℤ} {x : Receipt} (h : x.isStarted) :
    s.isExpired cutoffMs x = false := by
  unfold isExpired
  rw [Option.isNone_iff_eq_none.mp h]
  rfl

theorem prunedAt_isStarted {cutoffMs : ℤ} : (prunedAt s cutoffMs).isStarted r ↔ s.isStarted r := by
  rw [isStarted_iff, isStarted_iff]
  constructor
  · rintro ⟨x, hx, hid, hs⟩
    exact ⟨x, (mem_filter.mp hx).1, hid, hs⟩
  · rintro ⟨x, hx, hid, hs⟩
    refine ⟨x, mem_filter.mpr ⟨hx, ?_⟩, hid, hs⟩
    rw [not_isExpired_of_isStarted hs]
    rfl

theorem prunedAt_binding {cutoffMs : ℤ} (htidy : Tidy s) (hb : b ∈ s.bindings)
    (hs : s.isStarted b.receiptId) : b ∈ (prunedAt s cutoffMs).bindings := by
  obtain ⟨y, hy, hid, hstarted⟩ := HubStore.isStarted_iff.mp hs
  refine mem_prunedAt_bindings.mpr ⟨hb, ?_⟩
  intro x hx he
  rw [inj_on_of_nodup_map htidy.ids hx hy (he.trans hid.symm)]
  exact not_isExpired_of_isStarted hstarted

theorem prunedAt_quiet {cutoffMs : ℤ} (htidy : Tidy s) :
    Quiet s (prunedAt s cutoffMs) ∧ Tidy (prunedAt s cutoffMs) := by
  refine ⟨⟨?_, rfl, rfl⟩, htidy.thinned ⟨?_, ?_, ?_, rfl⟩ ?_⟩
  · intro r g
    unfold HubStore.Open
    rw [prunedAt_isStarted]
    constructor
    · rintro ⟨hs, b, hb, he⟩
      exact ⟨hs, b, (mem_filter.mp hb).1, he⟩
    · rintro ⟨hs, b, hb, he⟩
      exact ⟨hs, b, prunedAt_binding htidy hb (he.1 ▸ hs), he⟩
  · intro x hx
    exact ⟨x, (mem_filter.mp hx).1, rfl⟩
  · exact (filter_sublist).map _
  · exact (filter_sublist).map _
  · intro id hs
    have hs' := prunedAt_isStarted.mp hs
    obtain ⟨b, hb, rfl⟩ := htidy.started_bound id hs'
    exact ⟨b, prunedAt_binding htidy hb hs', rfl⟩

def reservedAs (s : HubStore) (id startedAtMs : ℤ) (input : Uuid) : HubStore :=
  { s with
    receipts := s.receipts++[{
      id, startedAtMs, transport := .legacyAuth, operation := .tokenRefresh }]
    fences := s.fences++[input]
    bindings := s.bindings++[{ receiptId := id, input }]
    lastReceiptId := id }

theorem beginLegacyRefresh_ok {id : ℤ}
    (h : s.beginLegacyRefresh g clock pruneClock = .ok (s', id)) :
    s.currentGeneration = some g ∧ s.hasUnresolvedLegacyRefresh = false ∧ g ∉ s.fences ∧
    ∃ cutoffMs startedAtMs, s' = reservedAs (prunedAt s cutoffMs) id startedAtMs g ∧
    id = s.lastReceiptId+1 := by
  unfold beginLegacyRefresh at h
  split at h
  · cases h
  obtain ⟨startedAtMs, -, h⟩ := bind_eq_ok.mp h
  split at h
  · cases h
  rename_i hcurrent
  split at h
  · cases h
  rename_i hunresolved
  split at h
  · cases h
  rename_i hfenced
  obtain ⟨t, ht, h⟩ := bind_eq_ok.mp h
  split at h
  · cases h
  split at h
  · cases h
  rename_i id' hsucc
  cases h
  obtain ⟨t', hprune, ht⟩ := bind_eq_ok.mp ht
  obtain ⟨cutoffMs, rfl⟩ := pruneExpiredOutboundRequestReceipts_ok hprune
  split at ht
  · cases ht
  · cases ht
    exact ⟨not_not.mp hcurrent, Bool.not_eq_true _ ▸ hunresolved, fun hx => hfenced
      (decide_eq_true hx), cutoffMs, startedAtMs, rfl, checkedSucc_eq_some hsucc⟩

theorem reservedAs_isStarted {id startedAtMs : ℤ} : (reservedAs s id startedAtMs g).isStarted r ↔
    s.isStarted r ∨ r = id := by
  rw [isStarted_iff, isStarted_iff]
  constructor
  · rintro ⟨x, hx, hid, hs⟩
    rcases mem_concat.mp hx with hx | rfl
    · exact .inl ⟨x, hx, hid, hs⟩
    · exact .inr hid.symm
  · rintro (⟨x, hx, hid, hs⟩ | rfl)
    · exact ⟨x, mem_append_left _ hx, hid, hs⟩
    · exact ⟨_, mem_append_right _ mem_cons_self, rfl, rfl⟩

theorem Tidy.reservedAs {startedAtMs : ℤ} (h : Tidy s) :
    Tidy (reservedAs s (s.lastReceiptId+1) startedAtMs g) := by
  have hle {n : ℤ} (hn : n ≤ s.lastReceiptId) : n ≤ s.lastReceiptId+1 := by omega
  have hnew {ns : List ℤ} (hnodup : ns.Nodup) (hns : ∀ n ∈ ns, n ≤ s.lastReceiptId) :
      (ns++[s.lastReceiptId+1]).Nodup := by
    refine nodup_append.mpr ⟨hnodup, nodup_singleton _, ?_⟩
    intro n hn m hm
    have := hns n hn
    have := mem_singleton.mp hm
    omega
  refine ⟨?_, ?_, ?_, ?_, ?_, ?_⟩
  · intro x hx
    rcases mem_concat.mp hx with hx | rfl
    · exact h.refresh x hx
    · rfl
  · change (map (·.id) (s.receipts++[_])).Nodup
    rw [map_append]
    exact hnew h.ids (forall_mem_map.mpr h.receipt_le)
  · intro x hx
    rcases mem_concat.mp hx with hx | rfl
    · exact hle (h.receipt_le x hx)
    · exact le_refl _
  · intro b hb
    rcases mem_concat.mp hb with hb | rfl
    · exact hle (h.binding_le b hb)
    · exact le_refl _
  · change (map (·.receiptId) (s.bindings++[_])).Nodup
    rw [map_append]
    exact hnew h.nodup (forall_mem_map.mpr h.binding_le)
  · intro id hs
    rcases reservedAs_isStarted.mp hs with hs | rfl
    · obtain ⟨b, hb, hid⟩ := h.started_bound id hs
      exact ⟨b, mem_append_left _ hb, hid⟩
    · exact ⟨_, mem_append_right _ mem_cons_self, rfl⟩

theorem not_open_of_resolved (htidy : Tidy s) (h : s.hasUnresolvedLegacyRefresh = false) :
    ¬s.Open r g := by
  rintro ⟨hs, b, hb, rfl, -⟩
  refine any_eq_false.mp h b hb ?_
  rw [htidy.isStartedRefresh_eq]
  exact hs

theorem beginLegacyRefresh_reserves {id : ℤ} (htidy : Tidy s)
    (h : s.beginLegacyRefresh g clock pruneClock = .ok (s', id)) :
    Reserves s s' id g ∧ Tidy s' := by
  obtain ⟨hcurrent, hresolved, hfenced, cutoffMs, startedAtMs, rfl, rfl⟩ := beginLegacyRefresh_ok h
  obtain ⟨hquiet, htidy'⟩ := @prunedAt_quiet s cutoffMs htidy
  have hnone (r : ℤ) (g' : Uuid) : ¬s.Open r g' := not_open_of_resolved htidy hresolved
  refine ⟨⟨hnone, hcurrent, hfenced, rfl, ?_, rfl, rfl⟩, htidy'.reservedAs⟩
  intro r' g'
  constructor
  · rintro ⟨hs, b, hb, hid, hin⟩
    rcases mem_concat.mp hb with hb | rfl
    · rcases reservedAs_isStarted.mp hs with hs | hs
      · exact absurd ((hquiet.opened r' g').mp ⟨hs, b, hb, hid, hin⟩) (hnone r' g')
      · -- A kept binding is older than the receipt just given out.
        have hle := htidy'.binding_le b hb
        have hlast : (prunedAt s cutoffMs).lastReceiptId = s.lastReceiptId := rfl
        omega
    · exact ⟨hid.symm, hin.symm⟩
  · rintro ⟨rfl, rfl⟩
    exact ⟨reservedAs_isStarted.mpr (.inr rfl), _, mem_append_right _ mem_cons_self, rfl, rfl⟩

end

def LogEvent.register : LogEvent → List (Event ℤ Uuid)
  | .begun receipt input => [.reserve receipt input]
  | .cancelled receipt _ | .unrotated receipt _ => [.release receipt]
  | .closed receipt _ release => [if release then .release receipt else .spend receipt]
  | .completed receipt _ _ => [.spend receipt]
  | .replaced _ overtaken => overtaken.map fun a => .spend a.1
  | .presented .. | .verdict .. => []

inductive Effect (s s' : HubStore) : List (Event ℤ Uuid) → Prop where
  | quiet (h : Quiet s s') : Effect s s' []
  | ends (r : ℤ) (g : Uuid) (release : Bool) (h : Ends s s' r g release) :
    Effect s s' [if release then .release r else .spend r]
  | reserves (r : ℤ) (g : Uuid) (h : Reserves s s' r g) : Effect s s' [.reserve r g]

/-- Every transaction keeps the tables tidy and does to the uses what its record says. -/
theorem StoreOp.transact_effect (htidy : Tidy s) (h : op.transact s = .ok s') :
    Tidy s' ∧ Effect s s' ((op.record s).flatMap LogEvent.register) := by
  cases op with
  | begin input clock pruneClock =>
    obtain ⟨⟨s₁, id⟩, hb, rfl⟩ := map_eq_ok.mp h
    obtain ⟨hreserves, ht⟩ := beginLegacyRefresh_reserves htidy hb
    have hid := hreserves.receipt
    subst hid
    exact ⟨ht, .reserves _ input hreserves⟩
  | complete receipt input output tokens clock =>
    obtain ⟨he, ht⟩ := completeLegacyRefresh_ends htidy h
    exact ⟨ht, .ends receipt input false he⟩
  | completeUnrotated receipt generation tokens clock =>
    obtain ⟨he, ht⟩ := completeUnrotatedLegacyRefresh_ends htidy h
    exact ⟨ht, .ends receipt generation true he⟩
  | cancelUnsent receipt input clock =>
    obtain ⟨he, ht⟩ := cancelUnsentLegacyRefresh_ends htidy h
    exact ⟨ht, .ends receipt input true he⟩
  | close receipt input outcome httpStatus retryAfterSeconds release clock =>
    obtain ⟨he, ht⟩ := closeLegacyRefreshAttempt_ends htidy h
    exact ⟨ht, .ends receipt input release he⟩
  | replace tokens clock =>
    obtain ⟨ht, ⟨hnone, hq⟩ | ⟨r, g, hone, he⟩⟩ := replaceTeslamateLegacyTokens_cases htidy h
    · refine ⟨ht, ?_⟩
      unfold StoreOp.record
      rw [hnone]
      exact .quiet hq
    · refine ⟨ht, ?_⟩
      unfold StoreOp.record
      rw [hone]
      exact .ends r g false he
  | bind tokens generation =>
    obtain ⟨hq, ht⟩ := bindTeslamateLegacyCredentialGeneration_quiet htidy h
    exact ⟨ht, .quiet hq⟩
  | prune clock =>
    obtain ⟨cutoffMs, rfl⟩ := pruneExpiredOutboundRequestReceipts_ok h
    obtain ⟨hq, ht⟩ := prunedAt_quiet htidy
    exact ⟨ht, .quiet hq⟩

theorem StoreOp.open_of_receipt (htidy : Tidy s) (h : op.transact s = .ok s')
    (hr : op.receipt? = some r) : ∃ g, s.Open r g := by
  cases op with
  | complete receipt input output tokens clock =>
    cases hr
    exact ⟨input, (completeLegacyRefresh_ends htidy h).1.before⟩
  | completeUnrotated receipt generation tokens clock =>
    cases hr
    exact ⟨generation, (completeUnrotatedLegacyRefresh_ends htidy h).1.before⟩
  | cancelUnsent receipt input clock =>
    cases hr
    exact ⟨input, (cancelUnsentLegacyRefresh_ends htidy h).1.before⟩
  | close receipt input outcome httpStatus retryAfterSeconds release clock =>
    cases hr
    exact ⟨input, (closeLegacyRefreshAttempt_ends htidy h).1.before⟩
  | begin | replace | bind | prune => cases hr

theorem Tidy.apply (htidy : Tidy s) : Tidy (op.apply s) := by
  unfold StoreOp.apply
  split
  · rename_i s' h
    exact (StoreOp.transact_effect htidy h).1
  · exact htidy

def HubStore.applyAll (s : HubStore) (ops : List StoreOp) : HubStore := ops.foldl StoreOp.apply s

theorem Tidy.applyAll {ops : List StoreOp} (htidy : Tidy s) : Tidy (s.applyAll ops) :=
  foldlRecOn ops StoreOp.apply htidy fun _ h _ _ => h.apply

end TeslatlasHub.Credentials
