import Mathlib

/-! Writes to keyed places, one after another: the last write of a key decides. -/
namespace LastWrite

open List

variable {α κ ν : Type} [DecidableEq κ] {key : α → κ} {k : κ} {xs : List α} {x : α}

def lastWith (key : α → κ) (k : κ) (xs : List α) : Option α :=
  (xs.filter fun x => key x = k).getLast?

@[simp]
theorem lastWith_nil : lastWith key k [] = none := rfl

theorem lastWith_concat :
    lastWith key k (xs++[x]) = if key x = k then some x else lastWith key k xs := by
  unfold lastWith
  by_cases hk : key x = k
  · simp [hk]
  · simp [hk]

theorem mem_of_lastWith (h : lastWith key k xs = some x) : x ∈ xs ∧ key x = k := by
  have hin := mem_of_getLast? h
  simpa using hin

theorem lastWith_eq_none : lastWith key k xs = none ↔ ∀ x ∈ xs, key x ≠ k := by
  unfold lastWith
  simp

theorem lastWith_of_mem (hnodup : (xs.map key).Nodup) (h : x ∈ xs) :
    lastWith key (key x) xs = some x := by
  induction xs using reverseRecOn with
  | nil => cases h
  | append_singleton xs y ih =>
    rw [map_append, nodup_append] at hnodup
    rw [lastWith_concat]
    rcases mem_append.mp h with hin | hin
    · rw [if_neg]
      · exact ih hnodup.1 hin
      · exact Ne.symm (hnodup.2.2 (key x) (mem_map_of_mem hin) (key y) (by simp))
    · rw [mem_singleton.mp hin, if_pos rfl]

theorem lastWith_filterMap {β κ' : Type} [DecidableEq κ'] {key' : β → κ'} {k' : κ'}
    {f : α → Option β} (hnodup : (xs.map key).Nodup)
    (hkeys : ∀ x ∈ xs, ∀ y, f x = some y → (key' y = k' ↔ key x = k)) :
    lastWith key' k' (xs.filterMap f) = (lastWith key k xs).bind f := by
  induction xs using reverseRecOn with
  | nil => rfl
  | append_singleton xs x ih =>
    rw [map_append, nodup_append] at hnodup
    have ih := ih hnodup.1 fun z hz => hkeys z (mem_append_left _ hz)
    rw [filterMap_append, lastWith_concat]
    by_cases hk : key x = k
    · have hnone : lastWith key k xs = none := by
        rw [lastWith_eq_none]
        intro z hz
        rw [← hk]
        exact hnodup.2.2 (key z) (mem_map_of_mem hz) (key x) (by simp)
      rw [hnone] at ih
      rw [if_pos hk, Option.bind_some]
      cases hf : f x with
      | none => simpa [hf] using ih
      | some y =>
        have hy : key' y = k' := (hkeys x (by simp) y hf).mpr hk
        simp [hf, lastWith_concat, hy]
    · rw [if_neg hk, ← ih]
      cases hf : f x with
      | none => simp [hf]
      | some y =>
        have hy : key' y ≠ k' := fun h => hk ((hkeys x (by simp) y hf).mp h)
        simp [hf, lastWith_concat, hy]

section Newest

variable {σ : Type} [LinearOrder σ] {stamp : α → σ}

def newest (key : α → κ) (stamp : α → σ) (xs : List α) : List α :=
  xs.filter fun x => xs.all fun y => !(key y = key x && stamp x < stamp y)

theorem mem_newest :
    x ∈ newest key stamp xs ↔ x ∈ xs ∧ ∀ y ∈ xs, key y = key x → stamp y ≤ stamp x := by
  unfold newest
  simp [mem_filter, imp_iff_not_or]

section

variable (hrising : xs.Pairwise fun x y => stamp x < stamp y)
include hrising

theorem mem_newest_iff_lastWith : x ∈ newest key stamp xs ↔ lastWith key (key x) xs = some x := by
  rw [mem_newest]
  induction xs using reverseRecOn with
  | nil => simp
  | append_singleton xs y ih =>
    rw [pairwise_append] at hrising
    have hlater (z : α) (hz : z ∈ xs) : stamp z < stamp y := hrising.2.2 z hz y mem_cons_self
    have ih := ih hrising.1
    rw [lastWith_concat]
    by_cases hk : key y = key x
    · rw [if_pos hk, Option.some_inj]
      constructor
      · rintro ⟨hin, hnewest⟩
        rcases mem_append.mp hin with hin | hin
        · exact absurd (hnewest y (by simp) hk) (not_le.mpr (hlater x hin))
        · exact (mem_singleton.mp hin).symm
      · rintro rfl
        refine ⟨by simp, fun z hz _ => ?_⟩
        rcases mem_append.mp hz with hz | hz
        · exact (hlater z hz).le
        · rw [mem_singleton.mp hz]
    · rw [if_neg hk, ← ih]
      constructor
      · rintro ⟨hin, hnewest⟩
        rcases mem_append.mp hin with hin | hin
        · exact ⟨hin, fun z hz => hnewest z (mem_append_left _ hz)⟩
        · exact absurd (congrArg key (mem_singleton.mp hin).symm) hk
      · rintro ⟨hin, hnewest⟩
        refine ⟨mem_append_left _ hin, fun z hz hzk => ?_⟩
        rcases mem_append.mp hz with hz | hz
        · exact hnewest z hz hzk
        · exact absurd (mem_singleton.mp hz ▸ hzk) hk

theorem newest_key_nodup : ((newest key stamp xs).map key).Nodup := by
  have hdistinct : xs.Nodup := by
    refine hrising.imp fun {x y} h => ?_
    rintro rfl
    exact lt_irrefl _ h
  refine List.Nodup.map_on (fun x hx y hy hk => ?_) (hdistinct.filter _)
  have hxlast := (mem_newest_iff_lastWith hrising).mp hx
  have hylast := (mem_newest_iff_lastWith hrising).mp hy
  rw [hk, hylast] at hxlast
  exact (Option.some_inj.mp hxlast).symm

theorem lastWith_newest : lastWith key k (newest key stamp xs) = lastWith key k xs := by
  cases hlast : lastWith key k xs with
  | none =>
    rw [lastWith_eq_none] at hlast ⊢
    exact fun x hx => hlast x (mem_of_mem_filter hx)
  | some x =>
    obtain ⟨_, rfl⟩ := mem_of_lastWith hlast
    exact lastWith_of_mem (newest_key_nodup hrising) ((mem_newest_iff_lastWith hrising).mpr hlast)

end

end Newest

end LastWrite
