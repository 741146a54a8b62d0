import TeslatlasHub.LifecycleEvidence
import TeslatlasHub.RunRules

namespace TeslatlasHub.Lifecycle

open FixedWidth JsonValue RunRules Option Bool

structure ParsedSample.Sound (p : ParsedSample) : Prop where
  latitude_of_position : p.carried.position → p.latitude.isSome
  longitude_of_position : p.carried.position → p.longitude.isSome
  latitude_rounded : ∀ x, p.latitude = some x → roundToPrecision x 6 = x
  longitude_rounded : ∀ x, p.longitude = some x → roundToPrecision x 6 = x
  energy_nonneg : ∀ x, p.chargeEnergyAdded = some x → 0 ≤ x
  energy_rounded : ∀ x, p.chargeEnergyAdded = some x → roundToPrecision x 2 = x
  vehicleData_of_carried : p.carried.any → p.kind.hasVehicleData
  hubEvent_of_event : p.hubEvent ≠ none → p.kind = .hubEvent

theorem ParsedSample.bare_sound (kind : SourceKind) (event : Option HubEventKind) (t : ℤ)
    (h : event ≠ none → kind = .hubEvent) : (ParsedSample.bare kind event t).Sound where
  latitude_of_position := fun hp => by cases hp
  longitude_of_position := fun hp => by cases hp
  latitude_rounded := fun _ hx => by cases hx
  longitude_rounded := fun _ hx => by cases hx
  energy_nonneg := fun _ hx => by cases hx
  energy_rounded := fun _ hx => by cases hx
  vehicleData_of_carried := fun hc => by cases hc
  hubEvent_of_event := h

theorem readCoordinates_rounded {drive : Option Map} {x y : ℚ}
    (h : readCoordinates drive = some (x, y)) :
    roundToPrecision x 6 = x ∧ roundToPrecision y 6 = y := by
  obtain ⟨fields, -, hv⟩ := bind_eq_some_iff.mp h
  unfold validCoordinates at hv
  split at hv
  · rename_i a b ha hb
    split at hv
    · obtain ⟨rfl, rfl⟩ := Prod.mk.inj (some.inj hv)
      obtain ⟨u, -, rfl⟩ := map_eq_some_iff.mp ha
      obtain ⟨v, -, rfl⟩ := map_eq_some_iff.mp hb
      exact ⟨roundToPrecision_idem u 6, roundToPrecision_idem v 6⟩
    · cases hv
  · cases hv

theorem scaledField_spec {map : Option Map} {key : String} {n : ℕ} {lo hi x : ℚ}
    (h : scaledField map key n lo hi = some x) : lo ≤ x ∧ roundToPrecision x n = x := by
  obtain ⟨hx, hr⟩ := filter_eq_some_iff.mp h
  obtain ⟨u, -, rfl⟩ := map_eq_some_iff.mp hx
  exact ⟨(of_decide_eq_true hr).1, roundToPrecision_idem u n⟩

variable {data : Option Map} {kind : SourceKind} {sample : LifecycleSample}

theorem readValues_sound {root : Map} {groups : Groups}
    (h : (carriedFamilies (readValues root data groups kind sample)).any → kind.hasVehicleData) :
    ({ readValues root data groups kind sample with carried := carriedFamilies (readValues root data
    groups kind sample) } : ParsedSample).Sound := by
  have hcoords (x : ℚ) (f : ℚ × ℚ → ℚ) (hf : (readCoordinates groups.drive).map f = some x)
      (hr : ∀ u v, readCoordinates groups.drive = some (u, v) → roundToPrecision (f (u, v)) 6 =
        f (u, v)) :
      roundToPrecision x 6 = x := by
    obtain ⟨⟨u, v⟩, huv, rfl⟩ := map_eq_some_iff.mp hf
    exact hr u v huv
  refine ⟨?_, ?_, ?_, ?_, ?_, ?_, h, ?_⟩
  · intro hp
    exact (and_eq_true_iff.mp hp).1
  · intro hp
    exact (and_eq_true_iff.mp hp).2
  · intro x hx
    exact hcoords x (·.1) hx fun u v huv => (readCoordinates_rounded huv).1
  · intro x hx
    exact hcoords x (·.2) hx fun u v huv => (readCoordinates_rounded huv).2
  · intro x hx
    exact (scaledField_spec hx).1
  · intro x hx
    exact (scaledField_spec hx).2
  · intro he
    exact absurd rfl he

theorem recordKind_spec {root : Map} {event : Option HubEventKind}
    (h : recordKind root = .ok (kind, event, data)) :
    (event ≠ none → kind = .hubEvent) ∧ (kind.hasVehicleData ∨ data = none) := by
  have hobject {k : SourceKind} (hk : k.hasVehicleData)
      (hb : (vehicleDataObject root >>= fun fields => pure (k, none, some fields) :
        Except LifecycleError _) = .ok (kind, event, data)) :
      (event ≠ none → kind = .hubEvent) ∧ (kind.hasVehicleData ∨ data = none) := by
    obtain ⟨fields, -, hr⟩ := bind_eq_ok.mp hb
    cases hr
    exact ⟨fun he => absurd rfl he, .inl hk⟩
  unfold recordKind at h
  split at h
  · exact hobject rfl h
  · split at h
    · exact hobject rfl h
    · exact hobject rfl h
  · cases h
    exact ⟨fun he => absurd rfl he, .inr rfl⟩
  · cases h
    exact ⟨fun he => absurd rfl he, .inr rfl⟩
  · split at h
    · cases h
      exact ⟨fun he => absurd rfl he, .inl rfl⟩
    · cases h
  · cases h
    exact ⟨fun _ => rfl, .inr rfl⟩
  · cases h
    exact ⟨fun he => absurd rfl he, .inr rfl⟩

variable {p : ParsedSample}

theorem parseSample_sound (h : parseSample sample = .ok p) : p.Sound := by
  unfold parseSample at h
  split at h
  · cases h
  obtain ⟨⟨kind, event, data⟩, hk, h⟩ := bind_eq_ok.mp h
  obtain ⟨hevent, hdata⟩ := recordKind_spec hk
  simp only at h
  split at h
  · cases h
    exact ParsedSample.bare_sound kind event sample.observedAtMs hevent
  · obtain ⟨groups, hg, hr⟩ := bind_eq_ok.mp h
    cases hr
    apply readValues_sound
    intro hany
    obtain hv | rfl := hdata
    · exact hv
    · -- Without a data object no group is present, so no family is carried.
      cases hg
      cases kind <;> cases hany

structure Observation.Sound (o : Observation) : Prop where
  parsed : o.parsed.Sound
  motion_fresh : o.drive = .motion → o.fresh.motion
  park_fresh : o.drive = .park → o.fresh.motion
  charge_fresh : o.charge ≠ .none → o.fresh.chargeSession
  not_motion_plugged : o.drive = .motion → o.charge.isPlugged = false
  position_carried : o.fresh.position → o.parsed.carried.position
  any_carried : o.fresh.any → o.parsed.carried.any
  reach_event : o.parsed.kind = .hubEvent → o.reach = none
  asleep_stale : o.reach = some .asleep → o.fresh.any = false
  energy_fresh : o.fresh.chargeSession → o.parsed.carried.chargeSession

structure FreshAt (marks : Watermarks) (o : Observation) : Prop where
  motion : o.fresh.motion →
    laterThan o.parsed.driveTimestampMs marks.lastDriveTimestampMs
  position : o.fresh.position →
    laterThan o.parsed.driveTimestampMs (marks.lastPositionFactMs.or marks.lastDriveTimestampMs)
  chargeSession : o.fresh.chargeSession →
    laterThan o.parsed.chargeTimestampMs marks.lastChargeTimestampMs
  reach : o.reach ≠ none → marks.lastObservedAtMs.all (· ≤ o.parsed.observedAtMs)

theorem carryForwardRow_sound {memory : PositionMemory} (h : p.Sound) :
    (carryForwardRow memory p).Sound :=
  ⟨h.latitude_of_position, h.longitude_of_position, h.latitude_rounded, h.longitude_rounded,
    h.energy_nonneg, h.energy_rounded, h.vehicleData_of_carried, h.hubEvent_of_event⟩

theorem classifyDrive_fresh {fresh : Bool} (h : classifyDrive p fresh ≠ .noInfo) : fresh := by
  cases fresh with
  | true => rfl
  | false => exact absurd rfl h

theorem classifyCharge_fresh {fresh : Bool} (h : classifyCharge p fresh ≠ .none) : fresh := by
  cases fresh with
  | true => rfl
  | false => exact absurd rfl h

theorem resolveConflicts_spec (p : ParsedSample) (drive : DriveEvidence) (charge : ChargeEvidence)
    (status : UpdateStatusClass) :
    ((resolveConflicts p drive charge status).1 ≠ .noInfo →
    (resolveConflicts p drive charge status).1 = drive) ∧
    ((resolveConflicts p drive charge status).2.1 ≠ .none →
    (resolveConflicts p drive charge status).2.1 = charge) ∧
    ((resolveConflicts p drive charge status).1 = .motion →
    (resolveConflicts p drive charge status).2.1.isPlugged = false) := by
  unfold resolveConflicts
  by_cases hc : drive = .motion ∧ charge.isPlugged
  · rw [if_pos hc]
    by_cases ht : p.chargeTimestampMs ≤ p.driveTimestampMs
    · rw [if_pos ht]
      exact ⟨fun _ => rfl, fun h => absurd rfl h, fun _ => rfl⟩
    · rw [if_neg ht]
      exact ⟨fun h => absurd rfl h, fun _ => rfl, fun h => by cases h⟩
  · rw [if_neg hc]
    refine ⟨fun _ => rfl, fun _ => rfl, fun h => ?_⟩
    rw [← not_eq_true]
    exact fun hp => hc ⟨h, hp⟩

variable {s : OpenSessionState}

theorem freshFamilies_any (h : (freshFamilies s p).any) : p.carried.any := by
  simp only [freshFamilies, Families.any, or_eq_true, and_eq_true] at h ⊢
  tauto

variable {env : String} {f : Families}

theorem acceptedReach_event (h : p.kind = .hubEvent) : acceptedReach s p env f = none := by
  unfold acceptedReach
  rw [if_pos h]

theorem acceptedReach_notOlder (h : acceptedReach s p env f ≠ none) :
    s.marks.lastObservedAtMs.all (· ≤ p.observedAtMs) := by
  unfold acceptedReach at h
  split at h
  · exact absurd rfl h
  simp only at h
  split at h
  · exact absurd rfl h
  · rename_i hc
    simp only [not_eq_true', not_eq_false, and_eq_true] at hc
    exact hc.1

theorem acceptedReach_asleep
    (h : acceptedReach s p env f = some .asleep) : (p.kind.hasVehicleData && f.any) = false := by
  unfold acceptedReach at h
  split at h
  · cases h
  simp only at h
  split at h
  · cases h
  · split at h
    · cases h
    · rename_i hf
      exact eq_false_iff.mpr hf

theorem observe_sound {carId tGapMs : ℤ} (h : p.Sound) :
    (observe s carId tGapMs env p).2.Sound := by
  set row := carryForwardRow s.lastPosition p
  set f := freshFamilies s p
  obtain ⟨hdrive, hcharge, hplug⟩ := resolveConflicts_spec row (classifyDrive row f.motion)
    (classifyCharge row f.chargeSession)
    (if f.vehicleStatus && row.kind.hasVehicleData then updateStatusClass row.softwareUpdateStatus
      else .noInfo)
  have hfresh {e : DriveEvidence} (he : e ≠ .noInfo)
      (hd : (observe s carId tGapMs env p).2.drive = e) : f.motion := by
    have hne : (observe s carId tGapMs env p).2.drive ≠ .noInfo := by rw [hd]; exact he
    exact classifyDrive_fresh fun hn => hne ((hdrive hne).trans hn)
  refine ⟨carryForwardRow_sound h, hfresh (by decide), hfresh (by decide), ?_, hplug, ?_,
    freshFamilies_any, acceptedReach_event, ?_, ?_⟩
  · intro hne
    exact classifyCharge_fresh fun hn => hne ((hcharge hne).trans hn)
  · intro hp
    change f.position = true at hp
    simp only [f, freshFamilies, and_eq_true] at hp
    exact hp.1.1
  · intro hr
    have hf := acceptedReach_asleep hr
    by_contra hany
    rw [not_eq_false] at hany
    have hv := h.vehicleData_of_carried (freshFamilies_any hany)
    rw [and_eq_false_iff] at hf
    obtain hf | hf := hf
    · exact Bool.false_ne_true (hf.symm.trans hv)
    · exact Bool.false_ne_true (hf.symm.trans hany)
  · intro hp
    change f.chargeSession = true at hp
    simp only [f, freshFamilies, and_eq_true] at hp
    exact hp.1.1

theorem observe_freshAt (s : OpenSessionState) (carId tGapMs : ℤ) (env : String)
    (p : ParsedSample) : FreshAt s.marks (observe s carId tGapMs env p).2 := by
  refine ⟨?_, ?_, ?_, acceptedReach_notOlder⟩
  · intro h
    exact (and_eq_true_iff.mp h).2
  · intro h
    exact (and_eq_true_iff.mp h).2
  · intro h
    exact (and_eq_true_iff.mp h).2

end TeslatlasHub.Lifecycle
