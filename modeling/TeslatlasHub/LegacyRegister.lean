import TeslatlasHub.LegacyEffects

namespace TeslatlasHub.Credentials

open RunRules SingleUse List

variable {s s' : HubStore} {r : ℤ} {g : Uuid} {uses uses' : List (Use ℤ Uuid)}

structure Matches (s : HubStore) (uses : List (Use ℤ Uuid)) : Prop where
  held : ∀ r g, s.Open r g ↔ ∃ u ∈ uses, u.id = r ∧ u.input = g ∧ u.fate = .held
  fenced : ∀ u ∈ uses, u.fate ≠ .released → u.input ∈ s.fences
  given : ∀ u ∈ uses, u.id ≤ s.lastReceiptId

theorem Matches.new : Matches {} [] :=
  ⟨fun _ _ => ⟨fun h => absurd h.1 Bool.false_ne_true, fun ⟨_, hu, _⟩ => absurd hu not_mem_nil⟩,
    fun _ hu => absurd hu not_mem_nil, fun _ hu => absurd hu not_mem_nil⟩

theorem Matches.quiet (h : Matches s uses) (hq : Quiet s s') : Matches s' uses := by
  refine ⟨fun r g => (hq.opened r g).trans (h.held r g), ?_, ?_⟩
  · intro u hu hne
    rw [hq.fences]
    exact h.fenced u hu hne
  · intro u hu
    rw [hq.lastReceiptId]
    exact h.given u hu

theorem Matches.reserves (h : Matches s uses) (hx : Reserves s s' r g) :
    ∃ uses', step uses (.reserve r g) = .ok uses' ∧ Matches s' uses' := by
  have hnone (u : Use ℤ Uuid) (hu : u ∈ uses) : u.fate ≠ .held := fun hheld =>
    hx.before u.id u.input ((h.held u.id u.input).mpr ⟨u, hu, rfl, rfl, hheld⟩)
  have hreceipt := hx.receipt
  refine ⟨uses++[⟨r, g, .held⟩], step_reserve.mpr ⟨?_, rfl⟩, ⟨?_, ?_, ?_⟩⟩
  · intro u hu
    refine ⟨?_, hnone u hu, ?_⟩
    · have := h.given u hu
      omega
    · intro hin
      by_contra hne
      exact hx.unfenced (hin ▸ h.fenced u hu hne)
  · intro r' g'
    rw [hx.opened]
    constructor
    · rintro ⟨rfl, rfl⟩
      exact ⟨_, mem_append_right _ mem_cons_self, rfl, rfl, rfl⟩
    · rintro ⟨u, hu, rfl, rfl, hheld⟩
      rcases mem_concat.mp hu with hu | rfl
      · exact absurd hheld (hnone u hu)
      · exact ⟨rfl, rfl⟩
  · intro u hu hne
    rw [hx.fences]
    rcases mem_concat.mp hu with hu | rfl
    · exact mem_append_left _ (h.fenced u hu hne)
    · exact mem_append_right _ mem_cons_self
  · intro u hu
    rw [hx.lastReceiptId]
    rcases mem_append.mp hu with hu | hu
    · have := h.given u hu
      omega
    · rw [mem_singleton.mp hu]

theorem Matches.ends {release : Bool} (hreg : Register uses) (h : Matches s uses)
    (hx : Ends s s' r g release) :
    ∃ uses', step uses (if release then .release r else .spend r) = .ok uses' ∧
      Matches s' uses' := by
  obtain ⟨v, hv, hvid, hvin, hvheld⟩ := (h.held r g).mp hx.before
  have hsettled : step uses (if release then .release r else .spend r) =
      .ok (settle r (if release then .released else .spent) uses) := by
    cases release with
    | true => exact step_release.mpr ⟨⟨v, hv, hvid, hvheld⟩, rfl⟩
    | false => exact step_spend.mpr ⟨⟨v, hv, hvid, hvheld⟩, rfl⟩
  refine ⟨_, hsettled, ⟨?_, ?_, ?_⟩⟩
  · intro r' g'
    rw [hx.opened, h.held]
    constructor
    · rintro ⟨⟨u, hu, hid, hin, hheld⟩, hne⟩
      refine ⟨u, mem_map.mpr ⟨u, hu, if_neg ?_⟩, hid, hin, hheld⟩
      exact fun hc => hne (hid.symm.trans hc.1)
    · rintro ⟨u, hu, hid, hin, hheld⟩
      obtain ⟨w, hw, -, -, ⟨-, hfate⟩ | ⟨hother, rfl⟩⟩ := mem_settle hu
      · rw [hheld] at hfate
        cases release with
        | true => cases hfate
        | false => cases hfate
      · exact ⟨⟨u, hw, hid, hin, hheld⟩, fun he => hother ⟨hid.trans he, hheld⟩⟩
  · intro u hu hne
    rw [hx.fences]
    obtain ⟨w, hw, -, hin, ⟨hdone, hfate⟩ | ⟨hother, rfl⟩⟩ := mem_settle hu
    · cases release with
      | true => exact absurd hfate hne
      | false =>
        rw [hin]
        exact h.fenced w hw (by rw [hdone.2]; decide)
    · have hfence := h.fenced u hw hne
      cases release with
      | false => exact hfence
      | true =>
        -- The released input has no other use that was not released, so its fence bars nobody else.
        refine mem_filter.mpr ⟨hfence, bne_iff_ne.mpr fun he => hother ?_⟩
        have hv' : v.fate ≠ .released := by
          rw [hvheld]
          decide
        rw [hreg.once u hw v hv (he.trans hvin.symm) hne hv']
        exact ⟨hvid, hvheld⟩
  · intro u hu
    rw [hx.lastReceiptId]
    obtain ⟨w, hw, hid, -⟩ := mem_settle hu
    rw [hid]
    exact h.given w hw

theorem Matches.effect {es : List (Event ℤ Uuid)} (hreg : Register uses) (h : Matches s uses)
    (he : Effect s s' es) : ∃ uses', run step uses es = .ok uses' ∧ Matches s' uses' := by
  have hone {e : Event ℤ Uuid} (hx : ∃ uses', step uses e = .ok uses' ∧ Matches s' uses') :
      ∃ uses', run step uses [e] = .ok uses' ∧ Matches s' uses' := by
    obtain ⟨uses', hs, hm⟩ := hx
    exact ⟨uses', bind_eq_ok.mpr ⟨uses', hs, rfl⟩, hm⟩
  cases he with
  | quiet hq => exact ⟨uses, rfl, h.quiet hq⟩
  | ends r g release hx => exact hone (h.ends hreg hx)
  | reserves r g hx => exact hone (h.reserves hx)

end TeslatlasHub.Credentials
