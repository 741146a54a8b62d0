import Mathlib

namespace RunRules

open List

variable {ε α β σ ι : Type}

theorem mem_concat {a b : α} {l : List α} : a ∈ l++[b] ↔ a ∈ l ∨ a = b := by simp

variable {x : Except ε α} {step : σ → ι → Except ε σ} {xs : List ι} {I : σ → Prop}

theorem bind_eq_ok {f : α → Except ε β} {b : β} :
    (x >>= f) = .ok b ↔ ∃ a, x = .ok a ∧ f a = .ok b := by
  cases x with
  | error e => simp only [bind, Except.bind, reduceCtorEq, false_and, exists_false]
  | ok a =>
    exact ⟨fun h => ⟨a, rfl, h⟩, fun ⟨_, ha, h⟩ => ha ▸ h⟩

theorem bind_eq_error {f : α → Except ε β} {e : ε} :
    (x >>= f) = .error e ↔ x = .error e ∨ ∃ a, x = .ok a ∧ f a = .error e := by
  cases x <;> simp [bind, Except.bind]

theorem pure_eq_ok {a b : α} : (pure a : Except ε α) = .ok b ↔ a = b := by
  simp only [pure, Except.pure, Except.ok.injEq]

theorem map_eq_ok {f : α → β} {b : β} : x.map f = .ok b ↔ ∃ a, x = .ok a ∧ f a = b := by
  cases x with
  | error e => simp only [Except.map, reduceCtorEq, false_and, exists_false]
  | ok a => simp only [Except.map, Except.ok.injEq, exists_eq_left']

variable {f : α → ExceptT ε (StateM σ) β} {m : ExceptT ε (StateM σ) α}

theorem run_bind_of_ok {s s' : σ} {a : α} (h : m.run.run s = (.ok a, s')) :
    (m >>= f).run.run s = (f a).run.run s' := by
  simp only [ExceptT.run_bind, StateT.run_bind, h]
  rfl

theorem run_bind_of_error {s s' : σ} {e : ε}
    (h : m.run.run s = (.error e, s')) : (m >>= f).run.run s = (.error e, s') := by
  simp only [ExceptT.run_bind, StateT.run_bind, h]
  rfl

theorem exists_ok_of_isOk (h : x.isOk) : ∃ a, x = .ok a := by
  cases x with
  | error e => cases h
  | ok a => exact ⟨a, rfl⟩

theorem exists_ok_of_any {p : α → Bool} (h : x.toOption.any p) : ∃ a, x = .ok a ∧ p a := by
  cases x with
  | error e => cases h
  | ok a => exact ⟨a, rfl, h⟩

def run (step : σ → ι → Except ε σ) : σ → List ι → Except ε σ
  | s, [] => .ok s
  | s, x :: xs => step s x >>= fun s' => run step s' xs

/-- Every step of the run, the last one included, is taken from a state that meets `C`. -/
def StepsMeet (step : σ → ι → Except ε σ) (C : σ → ι → Prop) : σ → List ι → Prop
  | _, [] => True
  | s, x :: xs => C s x ∧ ∀ s', step s x = .ok s' → StepsMeet step C s' xs

instance StepsMeet.decidable {step : σ → ι → Except ε σ} {C : σ → ι → Prop}
    [∀ s x, Decidable (C s x)] : ∀ (s : σ) (xs : List ι), Decidable (StepsMeet step C s xs)
  | _, [] => isTrue trivial
  | s, x :: xs =>
    have : Decidable (∀ s', step s x = .ok s' → StepsMeet step C s' xs) :=
      match hs : step s x with
      | .error _ => isTrue fun _ h => by cases h
      | .ok t =>
        have : Decidable (StepsMeet step C t xs) := StepsMeet.decidable t xs
        decidable_of_iff (StepsMeet step C t xs)
          ⟨fun h s' hs' => by cases hs'; exact h, fun h => h t rfl⟩
    inferInstanceAs (Decidable (C s x ∧ ∀ s', step s x = .ok s' → StepsMeet step C s' xs))

theorem stepsMeet_true : ∀ (s : σ) (xs : List ι), StepsMeet step (fun _ _ => True) s xs := by
  intro s xs
  induction xs generalizing s with
  | nil => trivial
  | cons x xs ih => exact ⟨trivial, fun s' _ => ih s'⟩

theorem run_append {ys : List ι} {s u : σ} :
    run step s (xs++ys) = .ok u ↔ ∃ t, run step s xs = .ok t ∧ run step t ys = .ok u := by
  induction xs generalizing s with
  | nil =>
    constructor
    · intro h
      exact ⟨s, rfl, h⟩
    · rintro ⟨t, ht, h⟩
      cases ht
      exact h
  | cons x xs ih =>
    constructor
    · intro h
      obtain ⟨s', hs, h⟩ := bind_eq_ok.mp h
      obtain ⟨t, ht, hu⟩ := ih.mp h
      exact ⟨t, bind_eq_ok.mpr ⟨s', hs, ht⟩, hu⟩
    · rintro ⟨t, ht, hu⟩
      obtain ⟨s', hs, ht⟩ := bind_eq_ok.mp ht
      exact bind_eq_ok.mpr ⟨s', hs, ih.mpr ⟨t, ht, hu⟩⟩

/-- What every step keeps, a run that succeeds keeps. -/
theorem run_invariant (hstep : ∀ s x s', I s → step s x = .ok s' → I s') :
    ∀ {xs : List ι} {s s' : σ}, I s → run step s xs = .ok s' → I s' := by
  intro xs
  induction xs with
  | nil =>
    intro s s' hs hrun
    cases hrun
    exact hs
  | cons x xs ih =>
    intro s s' hs hrun
    obtain ⟨t, ht, hrest⟩ := bind_eq_ok.mp hrun
    exact ih (hstep s x t hs ht) hrest

/-- The same where each step meets a condition on its state and input. -/
theorem run_invariant_of_stepsMeet {C : σ → ι → Prop}
    (hstep : ∀ s x s', I s → C s x → step s x = .ok s' → I s') :
    ∀ {xs : List ι} {s s' : σ}, I s → StepsMeet step C s xs → run step s xs = .ok s' → I s' := by
  intro xs
  induction xs with
  | nil =>
    intro s s' hs _ hrun
    cases hrun
    exact hs
  | cons x xs ih =>
    intro s s' hs hmeet hrun
    obtain ⟨t, ht, hrest⟩ := bind_eq_ok.mp hrun
    exact ih (hstep s x t hs hmeet.1 ht) (hmeet.2 t ht) hrest

/-- A flag that a step raises exactly at the events `E`, and never lowers, is raised at the end of a
run exactly when it was raised at its start or some step of the run was such an event. -/
theorem run_flag {F : σ → Prop} {E : σ → ι → Prop}
    (hinv : ∀ s x s', I s → step s x = .ok s' → I s')
    (hflag : ∀ s x s', I s → step s x = .ok s' → (F s' ↔ F s ∨ E s x)) :
    ∀ {xs : List ι} {s s' : σ}, I s → run step s xs = .ok s' →
    (F s' ↔ F s ∨ ∃ pre x post t, xs = pre++x :: post ∧ run step s pre = .ok t ∧ E t x) := by
  intro xs
  induction xs with
  | nil =>
    intro s s' _ hrun
    cases hrun
    refine ⟨Or.inl, ?_⟩
    rintro (hs | ⟨pre, x, post, t, hsplit, -⟩)
    · exact hs
    · cases pre <;> cases hsplit
  | cons x xs ih =>
    intro s s' hs hrun
    obtain ⟨t, ht, hrest⟩ := bind_eq_ok.mp hrun
    rw [ih (hinv s x t hs ht) hrest, hflag s x t hs ht]
    constructor
    · rintro ((hf | he) | ⟨pre, y, post, u, rfl, hu, he⟩)
      · exact Or.inl hf
      · exact Or.inr ⟨[], x, xs, s, rfl, rfl, he⟩
      · exact Or.inr ⟨x :: pre, y, post, u, rfl, bind_eq_ok.mpr ⟨t, ht, hu⟩, he⟩
    · rintro (hf | ⟨pre, y, post, u, hsplit, hu, he⟩)
      · exact Or.inl (Or.inl hf)
      · cases pre with
        | nil =>
          cases hsplit
          cases hu
          exact Or.inl (Or.inr he)
        | cons z pre =>
          cases hsplit
          obtain ⟨v, hv, hu⟩ := bind_eq_ok.mp hu
          cases ht.symm.trans hv
          exact Or.inr ⟨pre, y, post, u, rfl, hu, he⟩

def history {γ : Type} (step : σ → ι → Except ε σ) (next : σ → ι → σ → γ → γ) : σ → γ → List ι → γ
  | _, g, [] => g
  | s, g, x :: xs =>
    match step s x with
    | .error _ => g
    | .ok s' => history step next s' (next s x s' g) xs

/-- The same for a state with a history beside it. -/
theorem run_history {γ : Type} {next : σ → ι → σ → γ → γ} {I : σ → γ → Prop} {C : σ → ι → Prop}
    (hstep : ∀ s x s' g, I s g → C s x → step s x = .ok s' → I s' (next s x s' g)) :
    ∀ {xs : List ι} {s s' : σ} {g : γ}, I s g → StepsMeet step C s xs → run step s xs = .ok s' →
    I s' (history step next s g xs) := by
  intro xs
  induction xs with
  | nil =>
    intro s s' g hs _ hrun
    cases hrun
    exact hs
  | cons x xs ih =>
    intro s s' g hs hmeet hrun
    obtain ⟨t, ht, hrest⟩ := bind_eq_ok.mp hrun
    unfold history
    rw [ht]
    exact ih (hstep s x t g hs hmeet.1 ht) (hmeet.2 t ht) hrest

theorem foldlM_eq_error {s : σ} {e : ε} (h : xs.foldlM step s = .error e) :
    ∃ s', ∃ x ∈ xs, step s' x = .error e := by
  induction xs generalizing s with
  | nil => cases h
  | cons x xs ih =>
    rcases bind_eq_error.mp h with h | ⟨s', _, h⟩
    · exact ⟨s, x, mem_cons_self, h⟩
    · obtain ⟨s'', y, hmem, h⟩ := ih h
      exact ⟨s'', y, mem_cons_of_mem x hmem, h⟩

theorem foldlM_flatMap (f : ι → List α) (step : σ → α → Except ε σ) (xs : List ι) (s : σ) :
    (xs.flatMap f).foldlM step s = xs.foldlM (fun s x => (f x).foldlM step s) s := by
  induction xs generalizing s with
  | nil => rfl
  | cons x xs ih =>
    rw [flatMap_cons, foldlM_append, foldlM_cons]
    exact congrArg _ (funext fun s' => ih s')

section Total

variable {α β γ : Type}

/-- Every input of a run of a total step is taken in a state that meets `C`. -/
def Along (step : α → β → α) (C : α → β → Prop) : α → List β → Prop
  | _, [] => True
  | s, x :: xs => C s x ∧ Along step C (step s x) xs

instance Along.decidable {step : α → β → α} {C : α → β → Prop} [∀ s x, Decidable (C s x)] :
    ∀ (s : α) (xs : List β), Decidable (Along step C s xs)
  | _, [] => isTrue trivial
  | s, x :: xs =>
    have : Decidable (Along step C (step s x) xs) := Along.decidable (step s x) xs
    inferInstanceAs (Decidable (C s x ∧ Along step C (step s x) xs))

variable {C : α → β → Prop}

theorem Along.of_forall {step : α → β → α} {P : β → Prop} :
    ∀ {xs : List β} {s : α}, (∀ x ∈ xs, P x) → Along step C s xs →
    Along step (fun s x => P x ∧ C s x) s xs := by
  intro xs
  induction xs with
  | nil => exact fun _ _ => trivial
  | cons x xs ih =>
    intro s hp h
    exact ⟨⟨hp x mem_cons_self, h.1⟩, ih (fun y hy => hp y (mem_cons_of_mem x hy)) h.2⟩

/-- The same for a step that cannot fail. -/
theorem foldl_invariant {step : α → β → α} {I : α → Prop}
    (hstep : ∀ s x, I s → C s x → I (step s x)) :
    ∀ {xs : List β} {s : α}, I s → Along step C s xs → I (xs.foldl step s) := by
  intro xs
  induction xs with
  | nil =>
    intro s hs _
    exact hs
  | cons x xs ih =>
    intro s hs hmeet
    exact ih (hstep s x hs hmeet.1) hmeet.2

def follow (step : α → β → α) (next : α → β → γ → γ) : α → γ → List β → γ
  | _, g, [] => g
  | s, g, x :: xs => follow step next (step s x) (next s x g) xs

theorem along_of_always {step : α → β → α} (h : ∀ s x, C s x) (s : α) (xs : List β) :
    Along step C s xs := by
  induction xs generalizing s with
  | nil => trivial
  | cons x xs ih => exact ⟨h s x, ih (step s x)⟩

end Total

theorem foldlM_checkedSum {f : ι → ℕ} {bound : ℕ} {e : ε} {step : ℕ → ι → Except ε ℕ}
    (hstep : ∀ total x, step total x = if total+f x ≤ bound then .ok (total+f x) else .error e)
    (xs : List ι) {start total : ℕ} (hstart : start ≤ bound) :
    xs.foldlM step start = .ok total ↔ total = start+(xs.map f).sum ∧ total ≤ bound := by
  induction xs generalizing start with
  | nil =>
    constructor
    · intro h
      cases h
      exact ⟨rfl, hstart⟩
    · rintro ⟨h, -⟩
      rw [h]
      rfl
  | cons x xs ih =>
    rw [foldlM_cons, map_cons, sum_cons, hstep]
    split
    · rename_i hroom
      change xs.foldlM step (start+f x) = .ok total ↔ _
      rw [ih hroom, Nat.add_assoc]
    · exact ⟨fun h => (nomatch h), fun h => by omega⟩

theorem foldlM_appends {emit : ι → List α} {step : List α → ι → Except ε (List α)} {P : ι → Prop}
    (hstep : ∀ out x out', step out x = .ok out' → out' = out++emit x ∧ P x) {out out' : List α}
    (h : xs.foldlM step out = .ok out') : out' = out++xs.flatMap emit ∧ ∀ x ∈ xs, P x := by
  induction xs generalizing out with
  | nil =>
    cases h
    exact ⟨(append_nil _).symm, fun _ hx => (nomatch hx)⟩
  | cons x xs ih =>
    obtain ⟨mid, hmid, h⟩ := bind_eq_ok.mp h
    obtain ⟨rfl, hx⟩ := hstep out x mid hmid
    obtain ⟨hout, hxs⟩ := ih h
    refine ⟨?_, fun y hy => ?_⟩
    · rw [hout, flatMap_cons, append_assoc]
    · rcases mem_cons.mp hy with rfl | hy
      · exact hx
      · exact hxs y hy

section Keyed

variable {κ γ : Type} [DecidableEq κ] {key : β → κ}

variable {record : κ → Option β}

theorem find?_filterMap_key (hkey : ∀ a b, record a = some b → key b = a) (keys : List κ)
    (k : κ) :
    (keys.filterMap record).find? (fun b => key b = k) = if k ∈ keys then record k else none := by
  induction keys with
  | nil => rfl
  | cons a keys ih =>
    cases hr : record a with
    | none =>
      rw [filterMap_cons_none hr, ih]
      by_cases hk : k = a
      · rw [hk, hr, if_pos mem_cons_self, ite_self]
      · simp only [mem_cons, hk, false_or]
    | some b =>
      rw [filterMap_cons_some hr]
      by_cases hk : k = a
      · rw [find?_cons, decide_eq_true ((hkey a b hr).trans hk.symm), if_pos (hk ▸ mem_cons_self),
          hk, hr]
      · have hb : ¬key b = k := fun hc => hk (hc.symm.trans (hkey a b hr))
        rw [find?_cons, decide_eq_false hb, ih]
        simp only [mem_cons, hk, false_or]

omit [DecidableEq κ] in
theorem nodup_filterMap_key (hkey : ∀ a b, record a = some b → key b = a) {keys : List κ}
    (h : keys.Nodup) : ((keys.filterMap record).map key).Nodup := by
  have hsub : ((keys.filterMap record).map key).Sublist keys := by
    clear h
    induction keys with
    | nil => exact List.Sublist.slnil
    | cons a keys ih =>
      cases hr : record a with
      | none =>
        rw [filterMap_cons_none hr]
        exact ih.cons a
      | some b =>
        rw [filterMap_cons_some hr, map_cons, hkey a b hr]
        exact ih.cons_cons a
  exact h.sublist hsub

theorem foldl_settles {step : α → β → α} {P : α → Prop} {L : α → κ → γ} {V : β → γ} {xs : List β}
    (hP : ∀ s, ∀ x ∈ xs, P s → P (step s x))
    (hlook : ∀ s, ∀ x ∈ xs, P s → ∀ k, L (step s x) k = if k = key x then V x else L s k)
    (hnodup : (xs.map key).Nodup) {s : α} (hs : P s) : P (xs.foldl step s) ∧
      ∀ k, L (xs.foldl step s) k = ((xs.find? fun x => key x = k).map V).getD (L s k) := by
  induction xs generalizing s with
  | nil => exact ⟨hs, fun _ => rfl⟩
  | cons x xs ih =>
    obtain ⟨hx, hxs⟩ := nodup_cons.mp hnodup
    obtain ⟨hend, hall⟩ := ih (fun s y hy => hP s y (mem_cons_of_mem x hy))
      (fun s y hy => hlook s y (mem_cons_of_mem x hy)) hxs (hP s x mem_cons_self hs)
    refine ⟨hend, fun k => ?_⟩
    rw [foldl_cons, hall, hlook s x mem_cons_self hs]
    by_cases hk : k = key x
    · -- no later record has this key
      have hnone : xs.find? (fun y => key y = k) = none := by
        rw [find?_eq_none]
        intro y hy hc
        exact hx (mem_map.mpr ⟨y, hy, (of_decide_eq_true hc).trans hk⟩)
      rw [if_pos hk, hnone, find?_cons, decide_eq_true hk.symm]
      rfl
    · rw [if_neg hk, find?_cons, decide_eq_false (Ne.symm hk)]

end Keyed

end RunRules
