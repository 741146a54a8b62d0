import Mathlib

/-! Work under a limit. A computation charges for each piece of work before it does it, and fails
when nothing is left of the limit. -/
namespace MeteredWork

variable {ε α β σ ι : Type}

structure Meter where
  remaining : Option ℕ
  spent : ℕ := 0
  deriving DecidableEq

abbrev MeterM (ε : Type) := StateT Meter (Except ε)

def charge (error : ε) : MeterM ε Unit := fun meter =>
  match meter.remaining with
  | none => .ok ((), ⟨none, meter.spent+1⟩)
  | some 0 => .error error
  | some (n+1) => .ok ((), ⟨some n, meter.spent+1⟩)

structure Answers (m : MeterM ε α) (a : α) (cost : ℕ) : Prop where
  free : ∀ s, m ⟨none, s⟩ = .ok (a, ⟨none, s+cost⟩)
  enough : ∀ n s, m ⟨some (n+cost), s⟩ = .ok (a, ⟨some n, s+cost⟩)
  short : ∀ n s, n < cost → ∃ e, m ⟨some n, s⟩ = .error e

variable (m : MeterM ε α)

def Fails : Prop := ∀ meter, ∃ e, m meter = .error e

def Follows (plain : Except ε α) (cost : ℕ) : Prop :=
  match plain with
  | .ok a => Answers m a cost
  | .error _ => Fails m

theorem bind_eq (f : α → MeterM ε β) (meter : Meter) : (m >>= f) meter = m meter >>= fun r =>
    f r.1 r.2 := rfl

theorem Answers.pure (a : α) : Answers (Pure.pure a : MeterM ε α) a 0 :=
  ⟨fun _ => rfl, fun _ _ => rfl, fun _ _ h => absurd h (Nat.not_lt_zero _)⟩

theorem Answers.charge (error : ε) : Answers (MeteredWork.charge error) () 1 := by
  refine ⟨fun _ => rfl, fun _ _ => rfl, fun n s h => ⟨error, ?_⟩⟩
  rw [Nat.lt_one_iff.mp h]
  rfl

variable {m} {f : α → MeterM ε β} {plain : Except ε α}

theorem Answers.bind {a : α} {b : β} {c d : ℕ}
    (hm : Answers m a c) (hf : Answers (f a) b d) : Answers (m >>= f) b (c+d) := by
  refine ⟨fun s => ?_, fun n s => ?_, fun n s hlt => ?_⟩
  · rw [bind_eq, hm.free, ← Nat.add_assoc]
    exact hf.free (s+c)
  · rw [bind_eq, Nat.add_comm c d, ← Nat.add_assoc, hm.enough, Nat.add_comm d c, ← Nat.add_assoc]
    exact hf.enough n (s+c)
  · rw [bind_eq]
    by_cases hc : n < c
    · obtain ⟨e, he⟩ := hm.short n s hc
      exact ⟨e, by rw [he]; rfl⟩
    · -- the first half is paid for, the second is not
      obtain ⟨k, rfl⟩ : ∃ k, n = k+c := ⟨n-c, by omega⟩
      rw [hm.enough]
      exact hf.short k (s+c) (by omega)

theorem Fails.bind (hm : Fails m) (f : α → MeterM ε β) : Fails (m >>= f) := by
  intro meter
  obtain ⟨e, he⟩ := hm meter
  exact ⟨e, by rw [bind_eq, he]; rfl⟩

theorem Answers.bind_fails {a : α} {c : ℕ} (hm : Answers m a c) (hf : Fails (f a)) :
    Fails (m >>= f) := by
  rintro ⟨remaining, s⟩
  rw [bind_eq]
  cases remaining with
  | none =>
    rw [hm.free]
    exact hf _
  | some n =>
    by_cases hc : n < c
    · obtain ⟨e, he⟩ := hm.short n s hc
      exact ⟨e, by rw [he]; rfl⟩
    · obtain ⟨k, rfl⟩ : ∃ k, n = k+c := ⟨n-c, by omega⟩
      rw [hm.enough]
      exact hf _

theorem Answers.bind_follows {a : α} {plain : Except ε β} {c d : ℕ}
    (hm : Answers m a c) (hf : Follows (f a) plain d) : Follows (m >>= f) plain (c+d) := by
  cases plain with
  | ok b => exact hm.bind hf
  | error e => exact hm.bind_fails hf

theorem Follows.bind {next : α → Except ε β} {c d : ℕ} (hm : Follows m plain c)
    (hf : ∀ a, Follows (f a) (next a) d) : Follows (m >>= f) (plain >>= next) (c+d) := by
  cases plain with
  | ok a => exact Answers.bind_follows hm (hf a)
  | error e => exact Fails.bind hm f

theorem Follows.lift (x : Except ε α) : Follows (StateT.lift x : MeterM ε α) x 0 := by
  cases x with
  | ok a => exact Answers.pure a
  | error e => exact fun _ => ⟨e, rfl⟩

theorem Follows.foldlM {step : σ → ι → MeterM ε σ} {plain : σ → ι → Except ε σ} {cost : ι → ℕ}
    (hstep : ∀ s x, Follows (step s x) (plain s x) (cost x)) (xs : List ι) (s : σ) :
    Follows (xs.foldlM step s) (xs.foldlM plain s) (xs.map cost).sum := by
  induction xs generalizing s with
  | nil => exact Answers.pure s
  | cons x xs ih =>
    exact (hstep s x).bind fun s' => ih s'

theorem Follows.returns_iff {cost : ℕ} (h : Follows m plain cost) (limit : Option ℕ) (a : α) :
    (∃ meter, m ⟨limit, 0⟩ = .ok (a, meter)) ↔ plain = .ok a ∧ ∀ n, limit = some n → cost ≤ n := by
  cases plain with
  | error e =>
    obtain ⟨e', he⟩ := h ⟨limit, 0⟩
    rw [he]
    exact ⟨fun ⟨_, hc⟩ => (nomatch hc), fun ⟨hc, _⟩ => (nomatch hc)⟩
  | ok b =>
    cases limit with
    | none =>
      rw [Answers.free h]
      constructor
      · rintro ⟨meter, hm⟩
        cases hm
        exact ⟨rfl, fun _ hc => (nomatch hc)⟩
      · rintro ⟨hb, -⟩
        cases hb
        exact ⟨_, rfl⟩
    | some n =>
      by_cases hlt : n < cost
      · obtain ⟨e, he⟩ := Answers.short h n 0 hlt
        rw [he]
        exact ⟨fun ⟨_, hc⟩ => (nomatch hc), fun ⟨_, hc⟩ => absurd (hc n rfl) (Nat.not_le.mpr hlt)⟩
      · have hb := Answers.enough h (n-cost) 0
        rw [Nat.sub_add_cancel (Nat.not_lt.mp hlt)] at hb
        rw [hb]
        constructor
        · rintro ⟨meter, hm⟩
          cases hm
          exact ⟨rfl, fun n' hn => Option.some.inj hn ▸ Nat.not_lt.mp hlt⟩
        · rintro ⟨hb, -⟩
          cases hb
          exact ⟨_, rfl⟩

theorem Follows.spent {cost : ℕ} (h : Follows m plain cost) {a : α}
    (ha : plain = .ok a) : m ⟨none, 0⟩ = .ok (a, ⟨none, cost⟩) := by
  subst ha
  have hfree := Answers.free h 0
  rw [Nat.zero_add] at hfree
  exact hfree

end MeteredWork
