import TeslatlasHub.RunRules

namespace SingleUse

open RunRules List

variable {α γ : Type}

inductive Fate where
  | held | spent | released
  deriving DecidableEq

structure Use (α γ : Type) where
  id : α
  input : γ
  fate : Fate

inductive Event (α γ : Type) where
  | reserve (id : α) (input : γ)
  | release (id : α)
  | spend (id : α)
  deriving DecidableEq

section

variable [DecidableEq α] [DecidableEq γ]

def settle (id : α) (fate : Fate) (uses : List (Use α γ)) : List (Use α γ) :=
  uses.map fun u => if u.id = id ∧ u.fate = .held then { u with fate := fate } else u

def step (uses : List (Use α γ)) : Event α γ → Except Unit (List (Use α γ))
  | .reserve id input =>
    if uses.any fun u => u.id = id ∨ u.fate = .held ∨ (u.input = input ∧ u.fate ≠ .released) then
      .error ()
    else .ok (uses++[⟨id, input, .held⟩])
  | .release id =>
    if uses.any fun u => u.id = id ∧ u.fate = .held then .ok (settle id .released uses) else .error
      ()
  | .spend id =>
    if uses.any fun u => u.id = id ∧ u.fate = .held then .ok (settle id .spent uses) else .error ()

variable {uses uses' : List (Use α γ)} {a b : α} {g : γ} {e : Event α γ}

theorem step_reserve :
    step uses (.reserve a g) = .ok uses' ↔ (∀ u ∈ uses, u.id ≠ a ∧ u.fate ≠ .held ∧
    (u.input = g → u.fate = .released)) ∧ uses' = uses++[⟨a, g, .held⟩] := by
  change (if uses.any _ then _ else _) = _ ↔ _
  split_ifs with hany
  · obtain ⟨u, hu, hx⟩ := any_eq_true.mp hany
    constructor
    · intro h
      cases h
    rintro ⟨hall, -⟩
    obtain ⟨hid, hheld, hinput⟩ := hall u hu
    rcases of_decide_eq_true hx with hx | hx | ⟨hx, hne⟩
    · exact absurd hx hid
    · exact absurd hx hheld
    · exact absurd (hinput hx) hne
  · have hall (u : Use α γ) (hu : u ∈ uses) :
        ¬(u.id = a ∨ u.fate = .held ∨ (u.input = g ∧ u.fate ≠ .released)) := fun hx =>
      hany (any_eq_true.mpr ⟨u, hu, decide_eq_true hx⟩)
    constructor
    · intro h
      cases h
      refine ⟨?_, rfl⟩
      intro u hu
      have hx := hall u hu
      rw [not_or, not_or, not_and_or, not_not] at hx
      exact ⟨hx.1, hx.2.1, fun hi => hx.2.2.resolve_left (not_not.mpr hi)⟩
    · rintro ⟨-, rfl⟩
      rfl

omit [DecidableEq γ] in
theorem step_settle {f : Fate} :
    (if uses.any fun u => u.id = a ∧ u.fate = .held then Except.ok (settle a f uses)
      else (.error () : Except Unit _)) = .ok uses' ↔
    (∃ u ∈ uses, u.id = a ∧ u.fate = .held) ∧ uses' = settle a f uses := by
  split_ifs with hany
  · obtain ⟨u, hu, hx⟩ := any_eq_true.mp hany
    constructor
    · intro h
      cases h
      exact ⟨⟨u, hu, of_decide_eq_true hx⟩, rfl⟩
    · rintro ⟨-, rfl⟩
      rfl
  · constructor
    · intro h
      cases h
    rintro ⟨⟨u, hu, hx⟩, -⟩
    exact absurd (any_eq_true.mpr ⟨u, hu, decide_eq_true hx⟩) hany

theorem step_release : step uses (.release a) = .ok uses' ↔
    (∃ u ∈ uses, u.id = a ∧ u.fate = .held) ∧ uses' = settle a .released uses := step_settle

theorem step_spend : step uses (.spend a) = .ok uses' ↔
    (∃ u ∈ uses, u.id = a ∧ u.fate = .held) ∧ uses' = settle a .spent uses := step_settle

omit [DecidableEq γ] in
theorem mem_settle {f : Fate} {u : Use α γ} (h : u ∈ settle a f uses) :
    ∃ v ∈ uses, u.id = v.id ∧ u.input = v.input ∧ ((v.id = a ∧ v.fate = .held) ∧ u.fate = f ∨
    ¬(v.id = a ∧ v.fate = .held) ∧ u = v) := by
  obtain ⟨v, hv, rfl⟩ := mem_map.mp h
  refine ⟨v, hv, ?_⟩
  split_ifs with hx
  · exact ⟨rfl, rfl, .inl ⟨hx, rfl⟩⟩
  · exact ⟨rfl, rfl, .inr ⟨hx, rfl⟩⟩

structure Register (uses : List (Use α γ)) : Prop where
  ids : ∀ u ∈ uses, ∀ v ∈ uses, u.id = v.id → u = v
  single : ∀ u ∈ uses, ∀ v ∈ uses, u.fate = .held → v.fate = .held → u = v
  once : ∀ u ∈ uses, ∀ v ∈ uses, u.input = v.input → u.fate ≠ .released → v.fate ≠ .released → u = v

omit [DecidableEq α] [DecidableEq γ] in
theorem register_nil : Register ([] : List (Use α γ)) :=
  ⟨fun _ hu => absurd hu not_mem_nil, fun _ hu => absurd hu not_mem_nil,
    fun _ hu => absurd hu not_mem_nil⟩

omit [DecidableEq γ] in
theorem register_settle {f : Fate} (h : Register uses) : Register (settle a f uses) := by
  have hids : ∀ u ∈ settle a f uses, ∀ v ∈ settle a f uses, u.id = v.id → u = v := by
    intro u hu v hv hid
    obtain ⟨u', hu', rfl⟩ := mem_map.mp hu
    obtain ⟨v', hv', rfl⟩ := mem_map.mp hv
    have hid' : u'.id = v'.id := by
      split at hid <;> split at hid <;> exact hid
    rw [h.ids u' hu' v' hv' hid']
  -- Two uses that agree after the decision agree before it, and the decision keeps the id.
  have hlift (u v : Use α γ) (hu : u ∈ settle a f uses) (hv : v ∈ settle a f uses)
      (hsame : ∀ u' ∈ uses, ∀ v' ∈ uses, u.id = u'.id → v.id = v'.id → u.input = u'.input →
        v.input = v'.input → (u.fate = u'.fate ∨ u'.fate = .held ∧ u.fate = f) →
        (v.fate = v'.fate ∨ v'.fate = .held ∧ v.fate = f) → u' = v') : u = v := by
    obtain ⟨u', hu', hid, hin, hfate⟩ := mem_settle hu
    obtain ⟨v', hv', hid', hin', hfate'⟩ := mem_settle hv
    have heq := hsame u' hu' v' hv' hid hid' hin hin'
      (hfate.elim (fun hx => .inr ⟨hx.1.2, hx.2⟩) fun hx => .inl (congrArg Use.fate hx.2))
      (hfate'.elim (fun hx => .inr ⟨hx.1.2, hx.2⟩) fun hx => .inl (congrArg Use.fate hx.2))
    exact hids u hu v hv (hid.trans ((congrArg Use.id heq).trans hid'.symm))
  refine ⟨hids, ?_, ?_⟩
  · intro u hu v hv hheld hheld'
    refine hlift u v hu hv ?_
    intro u' hu' v' hv' _ _ _ _ hfate hfate'
    refine h.single u' hu' v' hv' ?_ ?_
    · exact hfate.elim (fun hx => hx.symm.trans hheld) (·.1)
    · exact hfate'.elim (fun hx => hx.symm.trans hheld') (·.1)
  · intro u hu v hv hin hne hne'
    refine hlift u v hu hv ?_
    intro u' hu' v' hv' _ _ hi hi' hfate hfate'
    refine h.once u' hu' v' hv' (hi.symm.trans (hin.trans hi')) ?_ ?_
    · rcases hfate with hx | ⟨hx, -⟩
      · exact hx ▸ hne
      · rw [hx]
        decide
    · rcases hfate' with hx | ⟨hx, -⟩
      · exact hx ▸ hne'
      · rw [hx]
        decide

theorem register_step (h : Register uses) (hs : step uses e = .ok uses') : Register uses' := by
  cases e with
  | reserve a g =>
    obtain ⟨hall, rfl⟩ := step_reserve.mp hs
    have hcase {P : Use α γ → Use α γ → Prop} (hold : ∀ u ∈ uses, ∀ v ∈ uses, P u v → u = v)
        (hnew : ∀ u ∈ uses, ¬P u ⟨a, g, .held⟩ ∧ ¬P ⟨a, g, .held⟩ u) :
        ∀ u ∈ uses++[⟨a, g, .held⟩], ∀ v ∈ uses++[⟨a, g, .held⟩], P u v → u = v := by
      intro u hu v hv hp
      rcases mem_append.mp hu with hu | hu <;> rcases mem_append.mp hv with hv | hv
      · exact hold u hu v hv hp
      · exact absurd (mem_singleton.mp hv ▸ hp) (hnew u hu).1
      · exact absurd (mem_singleton.mp hu ▸ hp) (hnew v hv).2
      · rw [mem_singleton.mp hu, mem_singleton.mp hv]
    refine ⟨hcase h.ids ?_, ?_, ?_⟩
    · intro u hu
      exact ⟨(hall u hu).1, fun hx => (hall u hu).1 hx.symm⟩
    · intro u hu v hv hheld hheld'
      refine hcase (P := fun u v => u.fate = .held ∧ v.fate = .held)
        (fun u hu v hv hp => h.single u hu v hv hp.1 hp.2) ?_ u hu v hv ⟨hheld, hheld'⟩
      intro w hw
      exact ⟨fun hp => (hall w hw).2.1 hp.1, fun hp => (hall w hw).2.1 hp.2⟩
    · intro u hu v hv hin hne hne'
      refine hcase (P := fun u v => u.input = v.input ∧ u.fate ≠ .released ∧ v.fate ≠ .released)
        (fun u hu v hv hp => h.once u hu v hv hp.1 hp.2.1 hp.2.2) ?_ u hu v hv ⟨hin, hne, hne'⟩
      intro w hw
      exact ⟨fun hp => hp.2.1 ((hall w hw).2.2 hp.1), fun hp => hp.2.2 ((hall w hw).2.2 hp.1.symm)⟩
  | release a =>
    obtain ⟨-, rfl⟩ := step_release.mp hs
    exact register_settle h
  | spend a =>
    obtain ⟨-, rfl⟩ := step_spend.mp hs
    exact register_settle h

def Barred (uses : List (Use α γ)) (a : α) (g : γ) : Prop :=
  ∃ u ∈ uses, u.id = a ∧ u.input = g ∧ u.fate ≠ .released

variable {log : List (Event α γ)}

theorem barred_of_reserve (hs : step uses (.reserve a g) = .ok uses') : Barred uses' a g := by
  obtain ⟨-, rfl⟩ := step_reserve.mp hs
  exact ⟨_, mem_append_right _ mem_cons_self, rfl, rfl, fun h => nomatch h⟩

theorem use_kept (h : ∃ u ∈ uses, u.id = a ∧ u.input = g) (hs : step uses e = .ok uses') :
    ∃ u ∈ uses', u.id = a ∧ u.input = g := by
  obtain ⟨u, hu, hid, hin⟩ := h
  have hsettle (c : α) (f : Fate) : ∃ v ∈ settle c f uses, v.id = a ∧ v.input = g := by
    refine ⟨_, mem_map_of_mem hu, ?_⟩
    split
    · exact ⟨hid, hin⟩
    · exact ⟨hid, hin⟩
  cases e with
  | reserve b c =>
    obtain ⟨-, rfl⟩ := step_reserve.mp hs
    exact ⟨u, mem_append_left _ hu, hid, hin⟩
  | release c =>
    obtain ⟨-, rfl⟩ := step_release.mp hs
    exact hsettle c .released
  | spend c =>
    obtain ⟨-, rfl⟩ := step_spend.mp hs
    exact hsettle c .spent

theorem use_of_step {u : Use α γ} (hs : step uses e = .ok uses') (hu : u ∈ uses') :
    (∃ v ∈ uses, v.id = u.id ∧ v.input = u.input) ∨ e = .reserve u.id u.input := by
  have hsettle (c : α) (f : Fate) (hm : u ∈ settle c f uses) : ∃ v ∈ uses, v.id = u.id ∧
      v.input = u.input := by
    obtain ⟨v, hv, hid, hin, -⟩ := mem_settle hm
    exact ⟨v, hv, hid.symm, hin.symm⟩
  cases e with
  | reserve b c =>
    obtain ⟨-, rfl⟩ := step_reserve.mp hs
    rcases mem_concat.mp hu with hu | rfl
    · exact .inl ⟨u, hu, rfl, rfl⟩
    · exact .inr rfl
  | release c =>
    obtain ⟨-, rfl⟩ := step_release.mp hs
    exact .inl (hsettle c .released hu)
  | spend c =>
    obtain ⟨-, rfl⟩ := step_spend.mp hs
    exact .inl (hsettle c .spent hu)

theorem mem_uses_iff (hr : run step [] log = .ok uses) :
    (∃ u ∈ uses, u.id = a ∧ u.input = g) ↔ .reserve a g ∈ log := by
  have hback {log : List (Event α γ)} {start final : List (Use α γ)} (h : run step start log =
      .ok final)
      (hu : ∃ u ∈ final, u.id = a ∧ u.input = g) :
      (∃ u ∈ start, u.id = a ∧ u.input = g) ∨ .reserve a g ∈ log := by
    induction log generalizing start with
    | nil =>
      cases h
      exact .inl hu
    | cons e rest ih =>
      obtain ⟨mid, hs, hrest⟩ := bind_eq_ok.mp h
      rcases ih hrest with ⟨u, hmid, rfl, rfl⟩ | hmem
      · rcases use_of_step hs hmid with hold | hnew
        · exact .inl hold
        · exact .inr (hnew ▸ mem_cons_self)
      · exact .inr (mem_cons_of_mem e hmem)
  constructor
  · intro h
    exact (hback hr h).resolve_left fun ⟨u, hu, _⟩ => not_mem_nil hu
  · intro h
    obtain ⟨pre, post, rfl⟩ := append_of_mem h
    obtain ⟨mid, -, hrest⟩ := run_append.mp hr
    obtain ⟨next, hs, hrest⟩ := bind_eq_ok.mp hrest
    obtain ⟨u, hu, hid, hin, -⟩ := barred_of_reserve hs
    exact run_invariant (fun s x s' hi hx => use_kept hi hx) ⟨u, hu, hid, hin⟩ hrest

theorem register_run (hr : run step [] log = .ok uses) : Register uses :=
  run_invariant (fun _ _ _ hi hs => register_step hi hs) register_nil hr

end

end SingleUse
