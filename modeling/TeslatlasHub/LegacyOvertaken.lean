import TeslatlasHub.LegacyEffects

namespace TeslatlasHub.Credentials

open SingleUse StoreOp HubStore

variable {s s' : HubStore} {r : ℤ} {g : Uuid} {op : StoreOp}

structure Settled (s : HubStore) (r : ℤ) : Prop where
  given : r ≤ s.lastReceiptId
  closed : ∀ g, ¬s.Open r g

variable {es : List (Event ℤ Uuid)} {ops : List StoreOp}

theorem Settled.effect (h : Settled s r) (he : Effect s s' es) : Settled s' r := by
  cases he with
  | quiet hq =>
    refine ⟨?_, ?_⟩
    · rw [hq.lastReceiptId]
      exact h.given
    · intro g ho
      exact h.closed g ((hq.opened r g).mp ho)
  | ends r' g' release hx =>
    refine ⟨?_, ?_⟩
    · rw [hx.lastReceiptId]
      exact h.given
    · intro g ho
      exact h.closed g ((hx.opened r g).mp ho).1
  | reserves r' g' hx =>
    -- The sequence never goes back, so the new receipt is another one.
    have hgiven := h.given
    have hreceipt := hx.receipt
    refine ⟨?_, ?_⟩
    · rw [hx.lastReceiptId]
      omega
    · intro g ho
      have := ((hx.opened r g).mp ho).1
      omega

theorem Settled.apply (htidy : Tidy s) (h : Settled s r) : Settled (op.apply s) r := by
  unfold StoreOp.apply
  split
  · rename_i s' hok
    exact h.effect (transact_effect htidy hok).2
  · exact h

theorem Settled.applyAll (htidy : Tidy s) (h : Settled s r) : Settled (s.applyAll ops) r := by
  have hboth : Tidy (s.applyAll ops) ∧ Settled (s.applyAll ops) r := by
    refine List.foldlRecOn ops StoreOp.apply (motive := fun t => Tidy t ∧ Settled t r) ⟨htidy, h⟩ ?_
    intro t ht op _
    exact ⟨ht.1.apply, ht.2.apply ht.1⟩
  exact hboth.2

theorem Settled.refused (htidy : Tidy s) (h : Settled s r) (hr : op.receipt? = some r) :
    (∃ e, op.transact s = .error e) ∧ op.apply s = s := by
  cases hx : op.transact s with
  | error e =>
    refine ⟨⟨e, rfl⟩, ?_⟩
    unfold StoreOp.apply
    rw [hx]
  | ok s' =>
    obtain ⟨g, ho⟩ := open_of_receipt htidy hx hr
    exact absurd ho (h.closed g)

theorem Effect.lastReceiptId_le (he : Effect s s' es) : s.lastReceiptId ≤ s'.lastReceiptId := by
  cases he with
  | quiet hq => exact hq.lastReceiptId.ge
  | ends r' g' release hx => exact hx.lastReceiptId.ge
  | reserves r' g' hx =>
    rw [hx.lastReceiptId, hx.receipt]
    omega

theorem lastReceiptId_le_applyAll (htidy : Tidy s) :
    s.lastReceiptId ≤ (s.applyAll ops).lastReceiptId := by
  have hboth : Tidy (s.applyAll ops) ∧ s.lastReceiptId ≤ (s.applyAll ops).lastReceiptId := by
    refine List.foldlRecOn ops apply
      (motive := fun t => Tidy t ∧ s.lastReceiptId ≤ t.lastReceiptId) ⟨htidy, le_refl _⟩ ?_
    rintro t ⟨ht, hle⟩ op _
    refine ⟨ht.apply, hle.trans ?_⟩
    unfold apply
    split
    · rename_i t' hok
      exact (transact_effect ht hok).2.lastReceiptId_le
    · exact le_refl _
  exact hboth.2

theorem settled_of_replace {tokens : TeslaMateLegacyTokenStore} {clock : Option ℕ}
    (htidy : Tidy s) (hgiven : r ≤ s.lastReceiptId)
    (h : s.replaceTeslamateLegacyTokens tokens clock = .ok s') : Settled s' r := by
  obtain ⟨-, ⟨hnone, hq⟩ | ⟨r', g', hone, he⟩⟩ := replaceTeslamateLegacyTokens_cases htidy h
  · refine ⟨hq.lastReceiptId ▸ hgiven, ?_⟩
    intro g ho
    have hmem := mem_openAttempts.mpr ((hq.opened r g).mp ho)
    rw [hnone] at hmem
    exact List.not_mem_nil hmem
  · refine ⟨he.lastReceiptId ▸ hgiven, ?_⟩
    intro g ho
    obtain ⟨hbefore, hne⟩ := (he.opened r g).mp ho
    have hmem := mem_openAttempts.mpr hbefore
    rw [hone] at hmem
    exact hne (congrArg Prod.fst (List.mem_singleton.mp hmem))

/-- Once an external write committed behind a reservation, no operation that carries its receipt
commits or changes anything. -/
theorem overtaken_receipt_refused (before between after : List StoreOp) (g : Uuid)
    (clock pruneClock : Option ℕ) (reserved : HubStore) (receipt : ℤ)
    (hbegin : (HubStore.applyAll {} before).beginLegacyRefresh g clock pruneClock =
    .ok (reserved, receipt)) (tokens : TeslaMateLegacyTokenStore) (replaceClock : Option ℕ)
    (replaced : HubStore)
    (hreplace : (reserved.applyAll between).replaceTeslamateLegacyTokens tokens replaceClock =
    .ok replaced) (op : StoreOp) (hop : op.receipt? = some receipt) :
    (∃ e, op.transact (replaced.applyAll after) = .error e) ∧
      op.apply (replaced.applyAll after) = replaced.applyAll after := by
  have htidy : Tidy (HubStore.applyAll {} before) := Tidy.new.applyAll
  obtain ⟨hreserves, htidy₁⟩ := beginLegacyRefresh_reserves htidy hbegin
  have hgiven : receipt ≤ (reserved.applyAll between).lastReceiptId := by
    rw [← hreserves.lastReceiptId]
    exact lastReceiptId_le_applyAll htidy₁
  have hsettled := settled_of_replace htidy₁.applyAll hgiven hreplace
  have htidy₂ := (replaceTeslamateLegacyTokens_cases htidy₁.applyAll hreplace).1
  exact (hsettled.applyAll htidy₂).refused htidy₂.applyAll hop

theorem Ends.settled {release : Bool} (hx : Ends s s' r g release) (htidy : Tidy s) :
    Settled s' r := by
  obtain ⟨-, b, hb, rfl, -⟩ := hx.before
  exact ⟨hx.lastReceiptId ▸ htidy.binding_le b hb, fun g ho => ((hx.opened _ g).mp ho).2 rfl⟩

/-- An attempt is settled at most once: when an operation with its receipt has committed, every
other one is refused and changes nothing. No later attempt is given the receipt again, prunes or
not. -/
theorem receipt_is_settled_once (before between : List StoreOp) (op other : StoreOp) (receipt : ℤ)
    (settled : HubStore) (hop : op.receipt? = some receipt)
    (hok : op.transact (HubStore.applyAll {} before) = .ok settled) :
    (other.receipt? = some receipt → (∃ e, other.transact (settled.applyAll between) = .error e) ∧
      other.apply (settled.applyAll between) = settled.applyAll between) ∧
    ∀ g clock pruneClock reserved later,
      (settled.applyAll between).beginLegacyRefresh g clock pruneClock = .ok (reserved, later) →
        receipt < later := by
  have htidy : Tidy (HubStore.applyAll {} before) := Tidy.new.applyAll
  have hsettled : Settled settled receipt := by
    cases op with
    | complete =>
      cases hop
      exact (completeLegacyRefresh_ends htidy hok).1.settled htidy
    | completeUnrotated =>
      cases hop
      exact (completeUnrotatedLegacyRefresh_ends htidy hok).1.settled htidy
    | cancelUnsent =>
      cases hop
      exact (cancelUnsentLegacyRefresh_ends htidy hok).1.settled htidy
    | close =>
      cases hop
      exact (closeLegacyRefreshAttempt_ends htidy hok).1.settled htidy
    | begin | replace | bind | prune => cases hop
  have htidy₁ := (transact_effect htidy hok).1
  have hlater : Settled (settled.applyAll between) receipt := hsettled.applyAll htidy₁
  refine ⟨hlater.refused htidy₁.applyAll, ?_⟩
  intro g clock pruneClock reserved later hbegin
  have hnext := (beginLegacyRefresh_reserves htidy₁.applyAll hbegin).1.receipt
  exact hnext ▸ Int.lt_add_one_of_le hlater.given

def importedPair (generation : Uuid) : TeslaMateLegacyTokenStore :=
  ⟨[1], [2], 0, 0, some generation, by decide, by decide, .inl ⟨rfl, rfl⟩⟩

/-- A rotated answer that comes back after an import, another attempt on the imported pair and its
cancellation. -/
theorem overtaken_receipt_refused_late_completion :
    StoreOp.apply (HubStore.applyAll {} [.replace (importedPair 1) (some 0),
    .begin 1 (some 5) (some 5), .replace (importedPair 2) (some 6), .begin 2 (some 7) (some 7),
    .cancelUnsent 2 2 (some 8)]) (.complete 1 1 3 (importedPair 3) (some 9)) = HubStore.applyAll {}
    [.replace (importedPair 1) (some 0), .begin 1 (some 5) (some 5),
    .replace (importedPair 2) (some 6), .begin 2 (some 7) (some 7), .cancelUnsent 2 2 (some 8)] :=
  (overtaken_receipt_refused [.replace (importedPair 1) (some 0)] []
    [.begin 2 (some 7) (some 7), .cancelUnsent 2 2 (some 8)] 1 (some 5) (some 5) _ 1 rfl
    (importedPair 2) (some 6) _ rfl (.complete 1 1 3 (importedPair 3) (some 9)) rfl).2

theorem receipt_is_settled_once_cancelled :
    ∃ e, StoreOp.transact (HubStore.applyAll {} [.replace (importedPair 1) (some 0),
    .begin 1 (some 5) (some 5), .cancelUnsent 1 1 (some 6)]) (.complete 1 1 3 (importedPair 3)
    (some 9)) = .error e :=
  ((receipt_is_settled_once [.replace (importedPair 1) (some 0), .begin 1 (some 5) (some 5)] []
    (.cancelUnsent 1 1 (some 6)) (.complete 1 1 3 (importedPair 3) (some 9)) 1 _ rfl rfl).1 rfl).1

end TeslatlasHub.Credentials
