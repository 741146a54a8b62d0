import Mathlib

namespace IdLedger

open List

structure Ledger (live settled : List ℤ) (next : ℤ) : Prop where
  next_pos : 1 ≤ next
  count_eq : ∀ i, (live++settled).count i = if 1 ≤ i ∧ i < next then 1 else 0

theorem empty : Ledger [] [] 1 := by
  refine ⟨le_refl 1, ?_⟩
  intro i
  rw [if_neg (by omega)]
  rfl

variable {live settled : List ℤ}

theorem Ledger.allocate {next : ℤ} (h : Ledger live settled next) :
    Ledger (next :: live) settled (next+1) := by
  have hp := h.next_pos
  refine ⟨by omega, ?_⟩
  intro i
  rw [cons_append, count_cons, h.count_eq]
  by_cases hi : next = i
  · subst hi
    rw [if_neg (by omega), beq_self_eq_true, if_pos rfl, if_pos (by omega)]
  · have hb : (next == i) = false := beq_eq_false_iff_ne.mpr hi
    rw [hb, if_neg Bool.false_ne_true, Nat.add_zero]
    by_cases hr : 1 ≤ i ∧ i < next
    · rw [if_pos hr, if_pos (by omega)]
    · rw [if_neg hr, if_neg (by omega)]

theorem Ledger.perm {live' settled' : List ℤ} {next : ℤ} (h : Ledger live settled next)
    (hp : (live'++settled').Perm (live++settled)) : Ledger live' settled' next := by
  refine ⟨h.next_pos, ?_⟩
  intro i
  rw [hp.count_eq]
  exact h.count_eq i

theorem Ledger.settle {a next : ℤ} (h : Ledger [a] settled next) :
    Ledger [] (settled++[a]) next := by
  apply h.perm
  rw [nil_append]
  exact perm_append_comm

theorem Ledger.mem_lt {next i : ℤ} (h : Ledger live settled next) (hi : i ∈ live++settled) :
    1 ≤ i ∧ i < next := by
  have hc := h.count_eq i
  have hpos := count_pos_iff.mpr hi
  by_contra hn
  rw [if_neg hn] at hc
  omega

theorem Ledger.not_mem_settled {next i : ℤ} (h : Ledger live settled next) (hi : i ∈ live) :
    i ∉ settled := by
  intro hs
  have hc := h.count_eq i
  rw [count_append] at hc
  have hl := count_pos_iff.mpr hi
  have hs := count_pos_iff.mpr hs
  split at hc <;> omega

theorem Ledger.not_mem_later {more : List ℤ} {next i : ℤ}
    (h : Ledger live (settled++more) next) (hi : i ∈ settled) : i ∉ more := by
  intro hm
  have hc := h.count_eq i
  rw [count_append, count_append] at hc
  have hs := count_pos_iff.mpr hi
  have hm := count_pos_iff.mpr hm
  split at hc <;> omega

end IdLedger
