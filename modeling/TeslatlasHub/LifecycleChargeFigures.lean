import TeslatlasHub.LifecycleCharge

namespace TeslatlasHub.Lifecycle

open List Option

/-! ### The counter of a charge as a list of segments -/

def segmentMax (floor : ℚ) (part : List ℚ) : ℚ := part.foldl max floor

def startsSegment (floor : ℚ) (part : List ℚ) (reading : ℚ) : Bool :=
  decide (reading < segmentMax floor part) && part.getLast?.any (counterRestarted · reading)

def segmentsAfter (floor : ℚ) (part : List ℚ) : List ℚ → List (List ℚ)
  | [] => [part]
  | reading :: rest =>
    if startsSegment floor part reading then part :: segmentsAfter 0 [reading] rest
    else segmentsAfter floor (part++[reading]) rest

def segments (floor : ℚ) : List ℚ → List (List ℚ)
  | [] => []
  | reading :: rest => segmentsAfter floor [reading] rest

def firstFloor (preset : Option ℚ) (readings : List ℚ) : ℚ :=
  if readings.head?.any (counterRestarted (preset.getD 0) ·) then 0 else preset.getD 0

def segmentsEnergy (floor : ℚ) : List (List ℚ) → ℚ
  | [] => 0
  | segment :: later => segmentMax floor segment-floor+(later.map (segmentMax 0)).sum

structure InSegment (charge : OpenCharge) (carry floor : ℚ) (part : List ℚ) : Prop where
  carried : charge.energyAddedCarryKwh = carry
  baseline : charge.firstEnergyAdded = some floor
  top : charge.maxEnergyAdded = some (segmentMax floor part)
  last : charge.lastEnergyAdded = part.getLast?
  nonempty : part ≠ []

theorem segmentMax_concat (floor : ℚ) (part : List ℚ) (reading : ℚ) :
    segmentMax floor (part++[reading]) = max (segmentMax floor part) reading := by
  simp [segmentMax]

theorem le_segmentMax (floor : ℚ) (part : List ℚ) :
    floor ≤ segmentMax floor part ∧ ∀ reading ∈ part, reading ≤ segmentMax floor part := by
  induction part using reverseRecOn with
  | nil => exact ⟨le_refl floor, fun _ h => nomatch h⟩
  | append_singleton part last ih =>
    rw [segmentMax_concat]
    refine ⟨ih.1.trans (le_max_left _ _), fun reading hmem => ?_⟩
    rcases mem_append.mp hmem with hpart | hlast
    · exact (ih.2 reading hpart).trans (le_max_left _ _)
    · rw [mem_singleton.mp hlast]
      exact le_max_right _ _

theorem segmentsEnergy_cons (floor : ℚ) (segment : List ℚ) (later : List (List ℚ)) :
    segmentsEnergy floor (segment :: later) = segmentMax floor segment-floor+segmentsEnergy 0
    later := by
  cases later <;> simp [segmentsEnergy]

theorem le_segmentsEnergy (rest : List ℚ) (husable : ∀ reading ∈ rest, 0 ≤ reading) :
    ∀ (floor : ℚ) (part : List ℚ), segmentMax floor part-floor ≤ segmentsEnergy floor
    (segmentsAfter floor part rest) := by
  induction rest with
  | nil => exact fun floor part => by simp [segmentsAfter, segmentsEnergy]
  | cons reading rest ih =>
    have hrest := ih fun c hc => husable c (mem_cons_of_mem _ hc)
    intro floor part
    rw [segmentsAfter]
    split
    · have hnew := (sub_nonneg.mpr (le_segmentMax 0 [reading]).1).trans (hrest 0 [reading])
      rw [segmentsEnergy_cons]
      exact le_add_of_nonneg_right hnew
    · refine le_trans (sub_le_sub_right ?_ floor) (hrest floor (part++[reading]))
      rw [segmentMax_concat]
      exact le_max_left _ _

theorem foldEnergyCounter_last (charge : OpenCharge) (reading : ℚ) :
    (foldEnergyCounter charge reading).lastEnergyAdded = some reading := by
  unfold foldEnergyCounter
  dsimp only
  repeat' split
  all_goals rfl

namespace InSegment

variable {charge : OpenCharge} {carry floor reading : ℚ} {part : List ℚ}

theorem first (charge : OpenCharge) (hmax : charge.maxEnergyAdded = none) (reading : ℚ)
    (rest : List ℚ) (husable : 0 ≤ reading) :
    InSegment (foldEnergyCounter charge reading) charge.energyAddedCarryKwh
    (firstFloor charge.firstEnergyAdded (reading :: rest)) [reading] := by
  unfold foldEnergyCounter firstFloor
  rw [hmax]
  cases hrestart : counterRestarted (charge.firstEnergyAdded.getD 0) reading with
  | true =>
    refine ⟨?_, ?_, ?_, ?_, by simp⟩ <;> simp [hrestart, segmentMax, husable]
  | false =>
    refine ⟨?_, ?_, ?_, ?_, by simp⟩ <;> simp [hrestart, segmentMax]

section

variable (h : InSegment charge carry floor part)
include h

theorem restart (hstart : startsSegment floor part reading) (husable : 0 ≤ reading) :
    InSegment (foldEnergyCounter charge reading) (carry+(segmentMax floor part-floor)) 0
    [reading] := by
  obtain ⟨previous, hlast⟩ := ne_none_iff_exists'.mp (mt getLast?_eq_none_iff.mp h.nonempty)
  simp only [startsSegment, hlast, any_some, Bool.and_eq_true, decide_eq_true_eq] at hstart
  have hbelow : ¬ segmentMax floor part ≤ reading := not_le.mpr hstart.1
  have hfold : foldEnergyCounter charge reading =
      { charge with
        energyAddedCarryKwh := carry+(segmentMax floor part-floor)
        firstEnergyAdded := some 0
        maxEnergyAdded := some reading
        lastEnergyAdded := some reading } := by
    simp [foldEnergyCounter, h.top, h.baseline, h.last, h.carried, hlast, hbelow, hstart.2]
  rw [hfold]
  exact ⟨rfl, rfl, by simp [segmentMax, husable], rfl, by simp⟩

theorem fold_eq (hstart : startsSegment floor part reading = false) :
      foldEnergyCounter charge reading =
      { charge with
        firstEnergyAdded := some floor
        maxEnergyAdded := some (max (segmentMax floor part) reading)
        lastEnergyAdded := some reading } := by
  obtain ⟨previous, hlast⟩ := ne_none_iff_exists'.mp (mt getLast?_eq_none_iff.mp h.nonempty)
  by_cases hle : segmentMax floor part ≤ reading
  · simp [foldEnergyCounter, h.top, h.baseline, hle]
  · have hdip : counterRestarted previous reading = false := by
      simpa [startsSegment, hlast, not_le.mp hle] using hstart
    simp [foldEnergyCounter, h.top, h.baseline, h.last, hlast, hle, hdip, (not_le.mp hle).le]

theorem extend (hstart : startsSegment floor part reading = false) :
    InSegment (foldEnergyCounter charge reading) carry floor (part++[reading]) := by
  rw [h.fold_eq hstart]
  exact ⟨h.carried, rfl, by rw [segmentMax_concat], by simp, by simp⟩

theorem energy : charge.energyAdded = some (carry+(segmentMax floor part-floor)) := by
  simp [OpenCharge.energyAdded, h.top, h.carried, h.baseline]

end

theorem foldl (rest : List ℚ) (husable : ∀ reading ∈ rest, 0 ≤ reading) :
    ∀ (charge : OpenCharge) (carry floor : ℚ) (part : List ℚ), InSegment charge carry floor part →
    ∃ carry' floor' part', InSegment (rest.foldl foldEnergyCounter charge) carry' floor' part' ∧
    carry'+(segmentMax floor' part'-floor') = carry+segmentsEnergy floor
    (segmentsAfter floor part rest) := by
  induction rest with
  | nil =>
    exact fun charge carry floor part h => ⟨carry, floor, part,
      h, by simp [segmentsAfter, segmentsEnergy]⟩
  | cons reading rest ih =>
    have hrest := ih fun c hc => husable c (mem_cons_of_mem _ hc)
    intro charge carry floor part h
    rw [segmentsAfter]
    cases hstart : startsSegment floor part reading with
    | true =>
      have hnew := h.restart hstart (husable reading mem_cons_self)
      rw [if_pos rfl, segmentsEnergy_cons, ← add_assoc]
      exact hrest _ _ _ _ hnew
    | false => exact hrest _ _ _ _ (h.extend hstart)

theorem dip_and_back (h : InSegment charge carry floor part) {c d : ℚ}
    (hlast : part.getLast? = some c) (hle : d ≤ c) (hdip : counterRestarted c d = false) :
    foldEnergyCounter (foldEnergyCounter charge d) c = charge := by
  have hback : counterRestarted d c = false := by
    simp only [counterRestarted, decide_eq_false_iff_not, not_lt]
    exact (sub_nonpos.mpr hle).trans (by decide +kernel)
  have htop : c ≤ segmentMax floor part := (le_segmentMax floor part).2 c (mem_of_getLast? hlast)
  have hdown : startsSegment floor part d = false := by simp [startsSegment, hlast, hdip]
  have hup : startsSegment floor (part++[d]) c = false := by simp [startsSegment, hback]
  rw [(h.extend hdown).fold_eq hup, h.fold_eq hdown, segmentMax_concat,
    max_eq_left (hle.trans htop), max_eq_left htop]
  have hfields := And.intro h.baseline (And.intro h.top (h.last.trans hlast))
  cases charge
  simp_all

end InSegment

def presetCharge (id carId startDateMs : ℤ) (preset : Option ℚ) : OpenCharge :=
  { id, carId, startDateMs, firstEnergyAdded := preset }

/-- The energy folded from usable counter readings is that of their segments, never negative and
never decreasing. -/
theorem folded_energy_is_that_of_segments (id carId startDateMs : ℤ) (preset : Option ℚ)
    (readings : List ℚ)
    (husable : ∀ reading ∈ readings, 0 ≤ reading) :
    let charge (readings : List ℚ) := readings.foldl foldEnergyCounter
        (presetCharge id carId startDateMs preset)
    let floor := firstFloor preset readings
    (charge readings).energyAdded =
        (if readings = [] then none else some (segmentsEnergy floor (segments floor readings))) ∧
      (∀ energy, (charge readings).energyAdded = some energy → 0 ≤ energy) ∧
      (∀ more, (∀ reading ∈ more, 0 ≤ reading) → ∀ energy, (charge readings).energyAdded =
        some energy →
        ∃ energy', (charge (readings++more)).energyAdded = some energy' ∧ energy ≤ energy') ∧
      (∀ before reading after dip, readings = before++reading :: after → dip ≤ reading →
        counterRestarted reading dip = false →
        charge (before++reading :: dip :: reading :: after) = charge readings) := by
  intro charge floor
  cases readings with
  | nil =>
    have hnone (energy : ℚ) (h : (charge []).energyAdded = some energy) : False := nomatch h
    refine ⟨rfl, fun energy h => (hnone energy h).elim, fun _ _ energy h => (hnone energy h).elim,
      ?_⟩
    intro before reading after dip hsplit
    cases before <;> cases hsplit
  | cons reading rest =>
    have hreading := husable reading mem_cons_self
    have hrest := fun c hc => husable c (mem_cons_of_mem reading hc)
    have hfirst : InSegment (foldEnergyCounter (presetCharge id carId startDateMs preset) reading) 0
        floor [reading] :=
      InSegment.first (presetCharge id carId startDateMs preset) rfl reading rest hreading
    obtain ⟨carry, base, part, hseg, htotal⟩ := InSegment.foldl rest hrest _ _ _ _ hfirst
    have henergy : (charge (reading :: rest)).energyAdded =
        some (carry+(segmentMax base part-base)) :=
      hseg.energy
    refine ⟨?_, fun energy h => ?_, fun more hmore energy h => ?_, fun before c after d hsplit hle
      hdip => ?_⟩
    · rw [henergy, htotal, zero_add]
      rfl
    · rw [henergy, htotal, zero_add] at h
      cases h
      exact (sub_nonneg.mpr (le_segmentMax floor [reading]).1).trans (le_segmentsEnergy rest hrest
        floor [reading])
    · -- what is appended goes on from the segment the readings end in
      rw [henergy] at h
      cases h
      obtain ⟨carry', base', part', hseg', htotal'⟩ := InSegment.foldl more hmore _ _ _ _ hseg
      have hafter := hseg'.energy
      rw [htotal', ← foldl_append] at hafter
      exact ⟨_, hafter, add_le_add_right (le_segmentsEnergy more hmore base part) carry⟩
    · have hstate : ∃ carry base part, InSegment (charge (before++[c])) carry base part := by
        cases before with
        | nil =>
          cases hsplit
          exact ⟨_, _, _, hfirst⟩
        | cons first before =>
          obtain ⟨rfl, rfl⟩ := cons.inj hsplit
          obtain ⟨carry, base, part, hseg, -⟩ := InSegment.foldl (before++[c])
            (fun x hx => hrest x (by simp at hx ⊢; tauto)) _ _ _ _ hfirst
          exact ⟨carry, base, part, hseg⟩
      obtain ⟨carry, base, part, hseg⟩ := hstate
      have hlast : part.getLast? = some c := by
        rw [← hseg.last]
        simp only [charge, foldl_append, foldl_cons, foldl_nil]
        exact foldEnergyCounter_last _ c
      have hback := hseg.dip_and_back hlast hle hdip
      rw [hsplit]
      simp only [charge, foldl_append, foldl_cons, foldl_nil] at hback ⊢
      rw [hback]

/-- A plugged-in car goes on from 2 kWh to 3 kWh with a dip on the way, and a new session brings
half a kWh. -/
theorem folded_energy_is_that_of_segments_twice :
    ([21/10, 3, 297/100, 3, 1/2].foldl foldEnergyCounter (presetCharge 1 1 0 (some 2))).energyAdded
    = some (3/2) :=
  (folded_energy_is_that_of_segments 1 1 0 (some 2) [21/10, 3, 297/100, 3, 1/2]
    (by decide +kernel)).1.trans
    (by decide +kernel)

def kEffMaxLevel : ℤ := 90
def kEffMinSpan : ℤ := 10

structure EfficiencyPoint where
  level : ℤ
  (counterKwh ratedKm : ℚ)

structure EfficiencyFold where
  (first last : Option EfficiencyPoint)
  (heaterSeen rejected : Bool)

namespace EfficiencyFold

def new : EfficiencyFold := ⟨none, none, false, false⟩

def windowPoint (sample : ProjectionChargeSample) : Option EfficiencyPoint :=
  (sample.batteryLevel.filter (· ≤ kEffMaxLevel)).bind fun level =>
    (usableEnergyCounter sample).bind fun counterKwh =>
      sample.ratedRangeKm.map fun ratedKm => { level, counterKwh, ratedKm }

def heaterOn (sample : ProjectionChargeSample) : Bool :=
  sample.batteryHeaterOn = some true || sample.batteryHeater = some true

def observe (fold : EfficiencyFold) (sample : ProjectionChargeSample) : EfficiencyFold :=
  match fold.first with
  | none => (windowPoint sample).elim fold fun point =>
    { fold with first := some point, heaterSeen := heaterOn sample }
  | some first =>
    let fold := { fold with heaterSeen := fold.heaterSeen || heaterOn sample }
    (windowPoint sample).elim fold fun point =>
      { fold with
        rejected := fold.rejected || fold.heaterSeen || point.counterKwh <
          (fold.last.getD first).counterKwh
        last := some point }

def finish (fold : EfficiencyFold) : Option ℚ :=
  if fold.rejected then none
  else
    fold.first.bind fun a =>
      fold.last.bind fun b =>
        let levelSpan := b.level-a.level
        let energyAdded := b.counterKwh-a.counterKwh
        let rangeGained := b.ratedKm-a.ratedKm
        if levelSpan < kEffMinSpan ∨ energyAdded ≤ 0 ∨ rangeGained ≤ 0 then none
        else some (1000*energyAdded/rangeGained) |>.filter (0 < ·)

def ofSamples (samples : List ProjectionChargeSample) : EfficiencyFold := samples.foldl observe new

structure Window (samples inner : List ProjectionChargeSample) (a b : EfficiencyPoint) : Prop where
  within : ∃ before after, samples = before++inner++after ∧ ∀ x ∈ before++after, windowPoint x =
    none
  first : inner.head?.bind windowPoint = some a
  last : inner.getLast?.bind windowPoint = some b
  two : 2 ≤ inner.length
  unheated : ∀ x ∈ inner, heaterOn x = false
  rising : (inner.filterMap windowPoint).IsChain (·.counterKwh ≤ ·.counterKwh)
  span : kEffMinSpan ≤ b.level-a.level
  added : a.counterKwh < b.counterKwh
  gained : a.ratedKm < b.ratedKm

variable {a : EfficiencyPoint} {first : ProjectionChargeSample}

variable {before samples : List ProjectionChargeSample}

theorem foldl_observe_new (hnone : ∀ x ∈ before, windowPoint x = none) :
    before.foldl observe new = new := by
  induction before with
  | nil => rfl
  | cons x before ih =>
    have hx : observe new x = new := by simp [observe, new, hnone x mem_cons_self]
    rw [foldl_cons, hx]
    exact ih fun y hy => hnone y (mem_cons_of_mem _ hy)

structure After (a : EfficiencyPoint) (first : ProjectionChargeSample)
    (rest : List ProjectionChargeSample)
    (fold : EfficiencyFold) : Prop where
  start : fold.first = some a
  heated : fold.heaterSeen = (first :: rest).any heaterOn
  last : fold.last = (rest.filterMap windowPoint).getLast?
  kept : fold.rejected = false ↔ (a :: rest.filterMap windowPoint).IsChain
    (·.counterKwh ≤ ·.counterKwh) ∧
    ∀ part x, part++[x] <+: rest → windowPoint x ≠ none → (first :: (part++[x])).any heaterOn =
      false

theorem after_foldl (hfirst : windowPoint first = some a) (rest : List ProjectionChargeSample) :
    After a first rest (rest.foldl observe (observe new first)) := by
  induction rest using reverseRecOn with
  | nil =>
    have hstate : observe new first = ⟨some a, none, heaterOn first, false⟩ := by simp [observe,
        new, hfirst]
    rw [foldl_nil, hstate]
    exact ⟨rfl, by simp, rfl, by simp⟩
  | append_singleton rest y ih =>
    rw [foldl_append, foldl_cons, foldl_nil]
    generalize rest.foldl observe (observe new first) = fold at ih
    obtain ⟨hstart, hheated, hlast, hkept⟩ := ih
    have hseen : (fold.heaterSeen || heaterOn y) = (first :: (rest++[y])).any heaterOn := by
      rw [hheated]
      simp [Bool.or_assoc]
    cases hpoint : windowPoint y with
    | none =>
      have hobserve :
          observe fold y = { fold with heaterSeen := fold.heaterSeen || heaterOn y } := by
        simp [observe, hstart, hpoint]
      have hsame : (rest++[y]).filterMap windowPoint = rest.filterMap windowPoint := by
          simp [hpoint]
      rw [hobserve]
      refine ⟨hstart, hseen, by rw [hsame]; exact hlast, ?_⟩
      rw [hsame, hkept]
      refine and_congr_right fun _ => ⟨fun h part x hpre hx => ?_, fun h part x hpre hx => ?_⟩
      · rcases prefix_concat_iff.mp hpre with heq | hpre
        · obtain ⟨-, hxy⟩ := append_inj' heq rfl
          exact absurd ((congrArg windowPoint (singleton_inj.mp hxy)).trans hpoint) hx
        · exact h part x hpre hx
      · exact h part x (hpre.trans (prefix_append rest [y])) hx
    | some point =>
      have hobserve : observe fold y =
          { first := fold.first
            last := some point
            heaterSeen := fold.heaterSeen || heaterOn y
            rejected := fold.rejected || (fold.heaterSeen || heaterOn y) ||
              point.counterKwh < (fold.last.getD a).counterKwh } := by
        simp [observe, hstart, hpoint]
      have hmore : (rest++[y]).filterMap windowPoint = rest.filterMap windowPoint++[point] := by
          simp [hpoint]
      rw [hobserve]
      refine ⟨hstart, hseen, by rw [hmore, getLast?_concat], ?_⟩
      have hchain : (a :: (rest++[y]).filterMap windowPoint).IsChain (·.counterKwh ≤ ·.counterKwh) ↔
          (a :: rest.filterMap windowPoint).IsChain (·.counterKwh ≤ ·.counterKwh) ∧
            (fold.last.getD a).counterKwh ≤ point.counterKwh := by
        rw [hmore, ← cons_append, isChain_append, hlast]
        simp [getLast?_cons]
      simp only [Bool.or_eq_false_iff, decide_eq_false_iff_not, not_lt]
      rw [← Bool.or_eq_false_iff, hseen, hkept, hchain]
      constructor
      · rintro ⟨⟨⟨hrising, -⟩, hcold⟩, hle⟩
        refine ⟨⟨hrising, hle⟩, fun part x hpre _ => ?_⟩
        -- no heater up to the new window sample, so none up to an earlier one
        rw [List.any_eq_false] at hcold ⊢
        intro z hz
        refine hcold z ?_
        rcases mem_cons.mp hz with rfl | hz
        · exact mem_cons_self
        · exact mem_cons_of_mem _ (hpre.subset hz)
      · rintro ⟨⟨hrising, hle⟩, hcold⟩
        refine ⟨⟨⟨hrising, fun part x hpre hx => ?_⟩, ?_⟩, hle⟩
        · exact hcold part x (hpre.trans (prefix_append rest [y])) hx
        · exact hcold rest y (prefix_refl _) (by rw [hpoint]; simp)

theorem finish_eq_some {fold : EfficiencyFold} {figure : ℚ} :
    fold.finish = some figure ↔ fold.rejected = false ∧ ∃ a b, fold.first = some a ∧
    fold.last = some b ∧ kEffMinSpan ≤ b.level-a.level ∧ a.counterKwh < b.counterKwh ∧
    a.ratedKm < b.ratedKm ∧ figure = 1000*(b.counterKwh-a.counterKwh)/(b.ratedKm-a.ratedKm) := by
  obtain ⟨start, last, heaterSeen, rejected⟩ := fold
  cases rejected with
  | true => simp [finish]
  | false =>
    cases start with
    | none => simp [finish]
    | some a =>
      cases last with
      | none => simp [finish]
      | some b =>
        simp only [finish, Bool.false_eq_true, if_false, bind_some]
        split
        · rename_i hno
          refine ⟨fun h => (nomatch h), ?_⟩
          rintro ⟨-, a, b, ⟨⟩, ⟨⟩, hspan, hadded, hgained, -⟩
          rcases hno with h | h | h
          · omega
          · exact absurd hadded (not_lt.mpr (sub_nonpos.mp h))
          · exact absurd hgained (not_lt.mpr (sub_nonpos.mp h))
        · rename_i hok
          simp only [not_or, not_lt, not_le] at hok
          obtain ⟨hspan, hadded, hgained⟩ := hok
          have hpos : 0 < 1000*(b.counterKwh-a.counterKwh)/(b.ratedKm-a.ratedKm) :=
            div_pos (mul_pos (by norm_num) hadded) hgained
          simp only [filter_some, hpos, decide_true, if_true, some.injEq]
          constructor
          · exact fun h => ⟨trivial, a, b, rfl, rfl, hspan, sub_pos.mp hadded, sub_pos.mp hgained,
              h.symm⟩
          · rintro ⟨-, a, b, ⟨⟩, ⟨⟩, -, -, -, h⟩
            exact h.symm

theorem finish_ofSamples_trim (inner : List ProjectionChargeSample)
    {after : List ProjectionChargeSample} (hnone : ∀ x ∈ before++after, windowPoint x = none) :
    (ofSamples (before++inner++after)).finish = (ofSamples inner).finish := by
  have hafter (xs : List ProjectionChargeSample) : (∀ x ∈ xs, windowPoint x = none) →
      ∀ fold : EfficiencyFold, (xs.foldl observe fold).finish = fold.finish := by
    induction xs with
    | nil => exact fun _ _ => rfl
    | cons x xs ih =>
      intro hxs fold
      rw [foldl_cons, ih fun y hy => hxs y (mem_cons_of_mem _ hy)]
      unfold observe
      rw [hxs x mem_cons_self]
      split <;> rfl
  unfold ofSamples
  rw [foldl_append, foldl_append, hafter after (fun x hx => hnone x (mem_append_right _ hx)),
    foldl_observe_new fun x hx => hnone x (mem_append_left _ hx)]

theorem Window.finish_eq {inner : List ProjectionChargeSample} {a b : EfficiencyPoint}
    (h : Window samples inner a b) :
    (ofSamples samples).finish = some (1000*(b.counterKwh-a.counterKwh)/(b.ratedKm-a.ratedKm)) := by
  obtain ⟨before, after, rfl, hnone⟩ := h.within
  rw [finish_ofSamples_trim inner hnone]
  have hends : ∃ s zs x, inner = s :: (zs++[x]) := by
    have htwo := h.two
    rcases inner with _ | ⟨s, rest⟩
    · simp at htwo
    · rcases eq_nil_or_concat rest with rfl | ⟨zs, x, rfl⟩
      · simp at htwo
      · exact ⟨s, zs, x, by simp⟩
  obtain ⟨s, zs, x, rfl⟩ := hends
  have hs : windowPoint s = some a := h.first
  have hx : windowPoint x = some b := by
    have hlast := h.last
    rw [← cons_append, getLast?_concat] at hlast
    exact hlast
  have hstate := after_foldl hs (zs++[x])
  have hrising := h.rising
  rw [filterMap_cons, hs] at hrising
  refine finish_eq_some.mpr ⟨hstate.kept.mpr ⟨hrising, fun part y hpre _ => ?_⟩, a, b, hstate.start,
    ?_, h.span, h.added, h.gained, rfl⟩
  · rw [List.any_eq_false]
    intro z hz
    rw [h.unheated z]
    · simp
    · rcases mem_cons.mp hz with rfl | hz
      · exact mem_cons_self
      · exact mem_cons_of_mem _ (hpre.subset hz)
  · change (foldl observe (observe new s) (zs++[x])).last = some b
    rw [hstate.last]
    simp [hx]

theorem exists_window {figure : ℚ} (h : (ofSamples samples).finish = some figure) :
    ∃ inner a b, Window samples inner a b ∧
    figure = 1000*(b.counterKwh-a.counterKwh)/(b.ratedKm-a.ratedKm) := by
  obtain ⟨hkept, a, b, hstart, hlast, hspan, hadded, hgained, hfigure⟩ := finish_eq_some.mp h
  cases hfind : samples.findSome? windowPoint with
  | none =>
    have hnew : ofSamples samples = new := foldl_observe_new (findSome?_eq_none_iff.mp hfind)
    rw [hnew] at hstart
    cases hstart
  | some a' =>
    obtain ⟨before, s, rest, rfl, hs, hbefore⟩ := findSome?_eq_some_iff.mp hfind
    have hfold : ofSamples (before++s :: rest) = rest.foldl observe (observe new s) := by
      unfold ofSamples
      rw [foldl_append, foldl_observe_new hbefore, foldl_cons]
    have hstate := after_foldl hs rest
    rw [← hfold] at hstate
    obtain rfl : a' = a := some.inj (hstate.start.symm.trans hstart)
    rw [hstate.last, getLast?_filterMap] at hlast
    obtain ⟨ws, x, zs, hrest, hx, hws⟩ := findSome?_eq_some_iff.mp hlast
    obtain rfl : rest = zs.reverse++[x]++ws.reverse := by
      rw [← reverse_reverse rest, hrest]
      simp
    obtain ⟨hrising, hcold⟩ := hstate.kept.mp hkept
    have hlate : ws.reverse.filterMap windowPoint = [] :=
      filterMap_eq_nil_iff.mpr fun y hy => hws y (mem_reverse.mp hy)
    refine ⟨s :: (zs.reverse++[x]), a', b, ⟨⟨before, ws.reverse, by simp, fun y hy => ?_⟩, hs,
      ?_, by simp, ?_, ?_, hspan, hadded, hgained⟩, hfigure⟩
    · rcases mem_append.mp hy with hy | hy
      · exact hbefore y hy
      · exact hws y (mem_reverse.mp hy)
    · rw [← cons_append, getLast?_concat]
      exact hx
    · intro y hy
      have hno := List.any_eq_false.mp (hcold zs.reverse x (prefix_append _ _) (by rw [hx]; simp)) y
          hy
      simpa using hno
    · rw [filterMap_append, hlate, append_nil] at hrising
      rw [filterMap_cons, hs]
      exact hrising

/-- The one-pass fold gives a figure exactly when the rule over all the samples does, from the same
two samples. -/
theorem figure_iff_window (samples : List ProjectionChargeSample) :
    (∀ figure, (ofSamples samples).finish = some figure ↔ ∃ inner a b, Window samples inner a b ∧
      figure = 1000*(b.counterKwh-a.counterKwh)/(b.ratedKm-a.ratedKm)) ∧
    ∀ before after, (∀ x ∈ before++after, windowPoint x = none) →
      (ofSamples (before++samples++after)).finish = (ofSamples samples).finish := by
  refine ⟨fun figure => ⟨exists_window, ?_⟩, fun before after hnone => finish_ofSamples_trim
    samples hnone⟩
  rintro ⟨inner, a, b, hwindow, rfl⟩
  exact hwindow.finish_eq

end EfficiencyFold

end TeslatlasHub.Lifecycle
