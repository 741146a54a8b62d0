import Mathlib

/-! Little-endian numbers and sequences of records that can be told apart. -/
namespace ByteFormat

open List

variable {α : Type}

def leBytes : ℕ → ℕ → List UInt8
  | 0, _ => []
  | width+1, n => UInt8.ofNat (n%256) :: leBytes width (n/256)

@[simp]
theorem leBytes_length (width n : ℕ) : (leBytes width n).length = width := by
  induction width generalizing n with
  | zero => rfl
  | succ width ih => rw [leBytes, length_cons, ih]

theorem leBytes_inj {width m n : ℕ} (hm : m < 256^width) (hn : n < 256^width)
    (h : leBytes width m = leBytes width n) : m = n := by
  induction width generalizing m n with
  | zero =>
    omega
  | succ width ih =>
    rw [leBytes, leBytes, cons.injEq] at h
    have hlow : m%256 = n%256 := by
      have hval := congrArg UInt8.toNat h.1
      rw [UInt8.toNat_ofNat', UInt8.toNat_ofNat'] at hval
      omega
    have hhigh : m/256 = n/256 := by
      refine ih ?_ ?_ h.2
      · omega
      · omega
    omega

def SelfDelimiting (encode : α → List UInt8) (valid : α → Prop) : Prop :=
  ∀ a b xs ys, valid a → valid b → encode a++xs = encode b++ys → a = b ∧ xs = ys

variable {encode : α → List UInt8}

theorem SelfDelimiting.of_length {valid : α → Prop} {length : ℕ}
    (hlength : ∀ a, valid a → (encode a).length = length)
    (hinj : ∀ a b, valid a → valid b → encode a = encode b → a = b) :
    SelfDelimiting encode valid := by
  intro a b xs ys ha hb h
  obtain ⟨hab, hxy⟩ := append_inj h ((hlength a ha).trans (hlength b hb).symm)
  exact ⟨hinj a b ha hb hab, hxy⟩

theorem SelfDelimiting.flatMap_inj {valid : α → Prop} (h : SelfDelimiting encode valid)
    {as bs : List α} (ha : ∀ a ∈ as, valid a) (hb : ∀ b ∈ bs, valid b)
    (hlength : as.length = bs.length) (hbytes : as.flatMap encode = bs.flatMap encode) :
    as = bs := by
  induction as generalizing bs with
  | nil => exact (length_eq_zero_iff.mp hlength.symm).symm
  | cons a as ih =>
    cases bs with
    | nil => cases hlength
    | cons b bs =>
      obtain ⟨rfl, hrest⟩ := h a b _ _ (ha a mem_cons_self) (hb b mem_cons_self) hbytes
      rw [length_cons, length_cons, Nat.add_right_cancel_iff] at hlength
      rw [ih (fun x hx => ha x (mem_cons_of_mem a hx)) (fun x hx => hb x (mem_cons_of_mem a hx))
        hlength hrest]

theorem flatMap_length {length : ℕ} (as : List α)
    (h : ∀ a ∈ as, (encode a).length = length) : (as.flatMap encode).length = as.length*length := by
  induction as with
  | nil => rw [flatMap_nil, length_nil, length_nil, Nat.zero_mul]
  | cons a as ih =>
    rw [flatMap_cons, length_append, h a mem_cons_self, ih fun x hx => h x (mem_cons_of_mem a hx),
      length_cons]
    ring

end ByteFormat
