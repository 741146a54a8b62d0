import Mathlib

namespace LinkWalk

open List

variable {γ : Type} {next next' : γ → Option γ} {g k x y : γ} {path : List γ}

inductive Trail (next : γ → Option γ) : γ → List γ → γ → Prop where
  | stop {g : γ} (h : next g = none) : Trail next g [g] g
  | step {g k x : γ} {path : List γ} (h : next g = some k) (ht : Trail next k path x) :
    Trail next g (g :: path) x

def walk [DecidableEq γ] (next : γ → Option γ) : ℕ → List γ → γ → Option γ
  | 0, _, _ => none
  | fuel+1, visited, g =>
    if g ∈ visited then none
    else
      match next g with
      | none => some g
      | some k => walk next fuel (g :: visited) k

theorem trail_unique {path' : List γ} (h : Trail next g path x) (h' : Trail next g path' y) :
    path = path' ∧ x = y := by
  induction h generalizing path' with
  | stop hn =>
    cases h' with
    | stop => exact ⟨rfl, rfl⟩
    | step hs => cases hn.symm.trans hs
  | step hs _ ih =>
    cases h' with
    | stop hn => cases hn.symm.trans hs
    | step hs' ht' =>
      cases hs.symm.trans hs'
      obtain ⟨rfl, rfl⟩ := ih ht'
      exact ⟨rfl, rfl⟩

theorem trail_suffix (h : Trail next g path x) (hk : k ∈ path) :
    ∃ rest, Trail next k rest x ∧ rest.length ≤ path.length := by
  induction h with
  | stop hn =>
    rw [mem_singleton.mp hk]
    exact ⟨_, .stop hn, Nat.le_refl _⟩
  | step hs ht ih =>
    rcases mem_cons.mp hk with rfl | hk
    · exact ⟨_, .step hs ht, Nat.le_refl _⟩
    · obtain ⟨rest, hrest, hle⟩ := ih hk
      exact ⟨rest, hrest, Nat.le_succ_of_le hle⟩

theorem trail_nodup (h : Trail next g path x) : path.Nodup := by
  induction h with
  | stop => exact nodup_singleton _
  | step hs ht ih =>
    refine nodup_cons.mpr ⟨?_, ih⟩
    intro hmem
    obtain ⟨rest, hrest, hle⟩ := trail_suffix ht hmem
    have heq := (trail_unique hrest (.step hs ht)).1
    rw [heq, length_cons] at hle
    omega

theorem trail_mem {targets : List γ} (htargets : ∀ k m, next k = some m → m ∈ targets)
    (h : Trail next g path x) : path ⊆ g :: targets := by
  induction h with
  | stop => exact cons_subset_cons _ (nil_subset _)
  | step hs _ ih =>
    refine cons_subset_cons _ ?_
    intro m hm
    rcases mem_cons.mp (ih hm) with rfl | hm
    · exact htargets _ _ hs
    · exact hm

theorem trail_length_le {targets : List γ} (htargets : ∀ k m, next k = some m → m ∈ targets)
    (h : Trail next g path x) : path.length ≤ targets.length+1 :=
  ((trail_nodup h).subperm (trail_mem htargets h)).length_le

theorem walk_eq_of_trail [DecidableEq γ] {fuel : ℕ} {visited : List γ} (h : Trail next g path x)
    (hvisited : ∀ k ∈ path, k ∉ visited) (hfuel : path.length ≤ fuel) :
    walk next fuel visited g = some x := by
  induction h generalizing fuel visited with
  | stop hn =>
    obtain ⟨fuel, rfl⟩ := Nat.exists_eq_add_of_le' hfuel
    change (if _ then _ else _) = _
    rw [if_neg (hvisited _ mem_cons_self), hn]
  | @step g k x path hs ht ih =>
    rw [length_cons] at hfuel
    obtain ⟨fuel, rfl⟩ := Nat.exists_eq_add_of_le' (Nat.le_trans (Nat.le_add_left 1 _) hfuel)
    change (if _ then _ else _) = _
    rw [if_neg (hvisited _ mem_cons_self), hs]
    refine ih ?_ (by omega)
    intro m hm hv
    rcases mem_cons.mp hv with rfl | hv
    · exact (nodup_cons.mp (trail_nodup (.step hs ht))).1 hm
    · exact hvisited m (mem_cons_of_mem _ hm) hv

theorem trail_subset_iterate {grow : List γ → List γ} (hkeep : ∀ c, c ⊆ grow c)
    (hlink : ∀ c k m, k ∈ c → next k = some m → m ∈ grow c) (h : Trail next g path x) {c : List γ}
    {n : ℕ} (hg : g ∈ c) (hn : path.length ≤ n+1) : path ⊆ grow^[n] c := by
  have hsub (n : ℕ) (c : List γ) : c ⊆ grow^[n] c := by
    induction n generalizing c with
    | zero => exact List.Subset.refl c
    | succ n ih => exact List.Subset.trans (hkeep c) (ih (grow c))
  induction h generalizing c n with
  | stop =>
    intro m hm
    rw [mem_singleton.mp hm]
    exact hsub n c hg
  | @step g k x path hs ht ih =>
    have hpos : 0 < path.length := by
      cases ht with
      | stop => exact Nat.one_pos
      | step => exact Nat.succ_pos _
    rw [length_cons] at hn
    obtain ⟨n, rfl⟩ := Nat.exists_eq_add_of_le' (Nat.le_trans hpos (Nat.le_of_succ_le_succ hn))
    have hrest : path ⊆ grow^[n] (grow c) := ih (hlink c g k hg hs) (by omega)
    exact cons_subset.mpr ⟨hsub _ _ hg, hrest⟩

theorem trail_congr (h : Trail next g path x) (heq : ∀ k ∈ path, next' k = next k) :
    Trail next' g path x := by
  induction h with
  | stop hn => exact .stop ((heq _ mem_cons_self).trans hn)
  | step hs _ ih =>
    exact .step ((heq _ mem_cons_self).trans hs) (ih fun k hk => heq k (mem_cons_of_mem _ hk))

def Grounded (next : γ → Option γ) : Prop := ∀ g, ∃ path x, Trail next g path x

theorem grounded_none : Grounded fun _ : γ => none := fun g => ⟨[g], g, .stop rfl⟩

theorem Grounded.cut (h : Grounded next) (hcut : ∀ g, next' g = next g ∨ next' g = none) :
    Grounded next' := by
  intro g
  obtain ⟨path, x, ht⟩ := h g
  induction ht with
  | @stop g hn => exact ⟨[g], g, .stop ((hcut g).elim (·.trans hn) id)⟩
  | @step g k x path hs _ ih =>
    rcases hcut g with he | he
    · obtain ⟨path', x', ht'⟩ := ih
      exact ⟨_, _, .step (he.trans hs) ht'⟩
    · exact ⟨[g], g, .stop he⟩

theorem not_mem_of_untargeted (hy : ∀ k, next k ≠ some y) (h : Trail next g path x) (hne : g ≠ y) :
    y ∉ path := by
  induction h with
  | stop =>
    intro hm
    exact hne (mem_singleton.mp hm).symm
  | step hs _ ih =>
    intro hm
    rcases mem_cons.mp hm with rfl | hm
    · exact hne rfl
    · exact ih (fun he => hy _ (he ▸ hs)) hm

theorem trail_linked (hy : ∀ k, next k ≠ some y) (hother : ∀ k, k ≠ y → next' k = next k)
    (h : Trail next g path x) (hne : g ≠ y) : Trail next' g path x := by
  refine trail_congr h fun k hk => hother k ?_
  rintro rfl
  exact not_mem_of_untargeted hy h hne hk

theorem Grounded.link (h : Grounded next) (hy : ∀ k, next k ≠ some y)
    (hother : ∀ k, k ≠ y → next' k = next k) (hnew : next' y = some x) (hne : x ≠ y) :
    Grounded next' := by
  intro g
  by_cases hg : g = y
  · subst hg
    obtain ⟨path, e, ht⟩ := h x
    exact ⟨_, _, .step hnew (trail_linked hy hother ht hne)⟩
  · obtain ⟨path, e, ht⟩ := h g
    exact ⟨_, _, trail_linked hy hother ht hg⟩

end LinkWalk
