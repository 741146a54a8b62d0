import TeslatlasHub.RunRules

namespace Interleaving

open RunRules List

variable {σ R L F E : Type}

structure World (σ L E : Type) where
  shared : σ
  clients : List L
  log : List E

structure Turn (σ L E : Type) where
  shared : σ
  next : Option L
  events : List E

inductive Move (R F : Type) where
  | join (request : R)
  | act (client : ℕ) (input : F)
  | leave (client : ℕ)

namespace World

variable (enter : R → L) (turn : σ → L → F → Turn σ L E)

def step (w : World σ L E) : Move R F → World σ L E
  | .join request => { w with clients := w.clients++[enter request] }
  | .act k input =>
    match w.clients[k]? with
    | none => w
    | some client =>
      let t := turn w.shared client input
      { shared := t.shared
        clients := match t.next with
          | some next => w.clients.set k next
          | none => w.clients.eraseIdx k
        log := w.log++t.events }
  | .leave k => { w with clients := w.clients.eraseIdx k }

def Meets (C : σ → List E → L → F → Prop) (w : World σ L E) : Move R F → Prop
  | .act k input =>
    match w.clients[k]? with
    | none => True
    | some client => C w.shared w.log client input
  | _ => True

instance Meets.decidable {C : σ → List E → L → F → Prop} [∀ s log l f, Decidable (C s log l f)]
    (w : World σ L E) : ∀ m : Move R F, Decidable (w.Meets C m)
  | .join _ => isTrue trivial
  | .leave _ => isTrue trivial
  | .act k input =>
    match h : w.clients[k]? with
    | none => isTrue (by simp only [Meets, h])
    | some client => decidable_of_iff (C w.shared w.log client input) (by simp only [Meets, h])

theorem meets_true (w : World σ L E) (m : Move R F) : w.Meets (fun _ _ _ _ => True) m := by
  cases m with
  | act k input =>
    unfold Meets
    dsimp only
    split <;> trivial
  | join | leave => trivial

structure Holds (I : σ → List E → Prop) (J : σ → List E → L → Prop) (w : World σ L E) : Prop where
  shared : I w.shared w.log
  clients : ∀ l ∈ w.clients, J w.shared w.log l

variable {enter turn} {I : σ → List E → Prop} {J : σ → List E → L → Prop}
  {C : σ → List E → L → F → Prop}

structure HoldsApart (I : σ → List E → Prop) (J : σ → List E → L → Prop) (K : L → L → Prop)
    (w : World σ L E) :
    Prop extends w.Holds I J where
  apart : w.clients.Pairwise K

variable {K : L → L → Prop} {w : World σ L E} {ms : List (Move R F)}

/-- One move keeps what holds of the shared state, of each client and between any two. -/
theorem HoldsApart.step (hsymm : ∀ l m, K l m → K m l) (h : w.HoldsApart I J K)
    (henter : ∀ r s log, I s log → J s log (enter r) ∧ ∀ m, K m (enter r))
    (hturn : ∀ s log l f, I s log → J s log l → C s log l f →
    I (turn s l f).shared (log++(turn s l f).events) ∧
    (∀ l', (turn s l f).next = some l' → J (turn s l f).shared (log++(turn s l f).events) l' ∧
    ∀ m, J s log m → K l m → K l' m) ∧ ∀ m, J s log m → K l m →
    J (turn s l f).shared (log++(turn s l f).events) m) (m : Move R F) (hm : w.Meets C m) :
    (w.step enter turn m).HoldsApart I J K := by
  cases m with
  | join r =>
    refine ⟨⟨h.shared, fun l hl => ?_⟩, pairwise_append.mpr ⟨h.apart, pairwise_singleton .., ?_⟩⟩
    · rcases mem_concat.mp hl with hl | rfl
      · exact h.clients l hl
      · exact (henter r _ _ h.shared).1
    · intro l _ l' hl'
      rw [mem_singleton.mp hl']
      exact (henter r _ _ h.shared).2 l
  | leave k =>
    exact ⟨⟨h.shared, fun l hl => h.clients l (mem_of_mem_eraseIdx hl)⟩, h.apart.eraseIdx k⟩
  | act k f =>
    unfold World.step
    dsimp only
    cases hk : w.clients[k]? with
    | none => exact h
    | some client =>
      obtain ⟨hlt, hat⟩ := List.getElem?_eq_some_iff.mp hk
      have hC : C w.shared w.log client f := by simpa only [Meets, hk] using hm
      -- the clients around the one whose turn it is
      have hsplit : w.clients = w.clients.take k++client :: w.clients.drop (k+1) := by
        rw [← hat, getElem_cons_drop, take_append_drop]
      have hclients := h.clients
      have hapart := h.apart
      rw [hsplit] at hclients hapart
      obtain ⟨hbefore, hcons, hacross⟩ := pairwise_append.mp hapart
      obtain ⟨hafter, hrest⟩ := pairwise_cons.mp hcons
      have hothers (l : L) (hl : l ∈ w.clients.take k++w.clients.drop (k+1)) :
          J w.shared w.log l ∧ K client l := by
        rcases mem_append.mp hl with hin | hin
        · exact ⟨hclients l (mem_append_left _ hin), hsymm _ _ (hacross l hin client mem_cons_self)⟩
        · exact ⟨hclients l (by simp [hin]), hafter l hin⟩
      obtain ⟨hshared, hown, hkeep⟩ := hturn w.shared w.log client f h.shared
          (hclients client (by simp)) hC
      cases hnext : (turn w.shared client f).next with
      | none =>
        simp only [hnext]
        rw [eraseIdx_eq_take_drop_succ]
        refine ⟨⟨hshared, fun l hl => hkeep l (hothers l hl).1 (hothers l hl).2⟩, ?_⟩
        exact pairwise_append.mpr ⟨hbefore, hrest, fun l hl l' hl' => hacross l hl l'
          (mem_cons_of_mem _ hl')⟩
      | some next =>
        simp only [hnext]
        rw [set_eq_take_append_cons_drop, if_pos hlt]
        obtain ⟨hnew, hfree⟩ := hown next hnext
        have hnext' (l : L) (hl : l ∈ w.clients.take k++w.clients.drop (k+1)) : K next l :=
          hfree l (hothers l hl).1 (hothers l hl).2
        refine ⟨⟨hshared, fun l hl => ?_⟩, pairwise_append.mpr ⟨hbefore,
          pairwise_cons.mpr ⟨?_, hrest⟩, ?_⟩⟩
        · rcases mem_append.mp hl with hin | hin
          · exact hkeep l (hothers l (mem_append_left _ hin)).1
              (hothers l (mem_append_left _ hin)).2
          · rcases mem_cons.mp hin with rfl | hin
            · exact hnew
            · exact hkeep l (hothers l (mem_append_right _ hin)).1
                (hothers l (mem_append_right _ hin)).2
        · exact fun l hl => hnext' l (mem_append_right _ hl)
        · intro l hl l' hl'
          rcases mem_cons.mp hl' with rfl | hl'
          · exact hsymm _ _ (hnext' l (mem_append_left _ hl))
          · exact hacross l hl l' (mem_cons_of_mem _ hl')

/-- The rule of induction over the moves of any number of clients. -/
theorem HoldsApart.run (hsymm : ∀ l m, K l m → K m l) (h : w.HoldsApart I J K)
    (henter : ∀ r s log, I s log → J s log (enter r) ∧ ∀ m, K m (enter r))
    (hturn : ∀ s log l f, I s log → J s log l → C s log l f →
    I (turn s l f).shared (log++(turn s l f).events) ∧
    (∀ l', (turn s l f).next = some l' → J (turn s l f).shared (log++(turn s l f).events) l' ∧
    ∀ m, J s log m → K l m → K l' m) ∧ ∀ m, J s log m → K l m →
    J (turn s l f).shared (log++(turn s l f).events) m)
    (hms : Along (World.step enter turn) (fun w m => w.Meets C m) w ms) :
    (ms.foldl (World.step enter turn) w).HoldsApart I J K :=
  foldl_invariant (fun _ m h hm => h.step hsymm henter hturn m hm) h hms

theorem Holds.run (h : w.Holds I J) (henter : ∀ r s log, I s log → J s log (enter r))
    (hturn : ∀ s log l f, I s log → J s log l → C s log l f →
    I (turn s l f).shared (log++(turn s l f).events) ∧
    (∀ l', (turn s l f).next = some l' → J (turn s l f).shared (log++(turn s l f).events) l') ∧
    ∀ m, J s log m → J (turn s l f).shared (log++(turn s l f).events) m)
    (hms : Along (World.step enter turn) (fun w m => w.Meets C m) w ms) :
    (ms.foldl (World.step enter turn) w).Holds I J := by
  have happart : w.HoldsApart I J fun _ _ => True := ⟨h, pairwise_of_forall fun _ _ => trivial⟩
  refine (happart.run (fun _ _ h => h) (fun r s log hs => ⟨henter r s log hs, fun _ => trivial⟩)
    ?_ hms).toHolds
  intro s log l f hI hJ hC
  obtain ⟨hshared, hown, hothers⟩ := hturn s log l f hI hJ hC
  exact ⟨hshared, fun l' hl' => ⟨hown l' hl', fun _ _ _ => trivial⟩, fun m hm _ => hothers m hm⟩

end World

def AtEach (P : List E → E → Prop) (log : List E) : Prop :=
  ∀ pre e post, log = pre++e :: post → P pre e

variable {P : List E → E → Prop}

theorem atEach_nil : AtEach P [] := by
  intro pre e post h
  cases pre <;> cases h

theorem atEach_cons {log : List E} {e : E} :
    AtEach P (e :: log) ↔ P [] e ∧ AtEach (fun pre => P (e :: pre)) log := by
  constructor
  · intro h
    exact ⟨h [] e log rfl, fun pre x post hlog => h (e :: pre) x post (congrArg _ hlog)⟩
  · rintro ⟨hfirst, hlater⟩ pre x post hlog
    cases pre with
    | nil =>
      cases hlog
      exact hfirst
    | cons y pre =>
      cases hlog
      exact hlater pre x post rfl

theorem atEach_concat {log : List E} {e : E} : AtEach P (log++[e]) ↔ AtEach P log ∧ P log e := by
  constructor
  · intro h
    refine ⟨fun pre x post hsplit => h pre x (post++[e]) ?_, h log e [] rfl⟩
    rw [hsplit, append_assoc]
    rfl
  · rintro ⟨h, he⟩ pre x post hsplit
    rcases eq_nil_or_concat post with rfl | ⟨rest, last, rfl⟩
    · obtain ⟨rfl, hx⟩ := append_inj' hsplit rfl
      cases hx
      exact he
    · rw [concat_eq_append, ← cons_append, ← append_assoc] at hsplit
      obtain ⟨hlog, _⟩ := append_inj' hsplit rfl
      exact h pre x rest hlog

end Interleaving
