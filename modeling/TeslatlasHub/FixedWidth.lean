import Mathlib

namespace FixedWidth

def i64Min : ℤ := -2^63
def i64Max : ℤ := 2^63-1

def clampI64 (x : ℤ) : ℤ :=
  if x < i64Min then i64Min else if i64Max < x then i64Max else x

abbrev I64 := { x : ℤ // i64Min ≤ x ∧ x ≤ i64Max }

def saturatingAdd (x y : ℤ) : ℤ := clampI64 (x+y)
def saturatingSub (x y : ℤ) : ℤ := clampI64 (x-y)
def saturatingNeg (x : ℤ) : ℤ := clampI64 (-x)

def checkedSucc (x : ℤ) : Option ℤ := if x < i64Max then some (x+1) else none

def checkedI64 (x : ℤ) : Option ℤ := if i64Min ≤ x ∧ x ≤ i64Max then some x else none

def saturatingSucc32 (n : ℕ) : ℕ := if n+1 < 2^32 then n+1 else 2^32-1

theorem saturatingSucc32_ne_zero (n : ℕ) : saturatingSucc32 n ≠ 0 := by
  unfold saturatingSucc32
  split
  · omega
  · decide

def roundHalfAway (q : ℚ) : ℤ := if 0 ≤ q then ⌊q+1/2⌋ else -⌊-q+1/2⌋

def roundToPrecision (q : ℚ) (p : ℕ) : ℚ := (roundHalfAway (q*10^p) : ℚ)/10^p

def finiteF64 (q : ℚ) : Bool := decide (|q| < 2^1024-2^970)

theorem saturatingAdd_eq_min {x y : ℤ} (hx : i64Min ≤ x) (hy : 0 ≤ y) :
    saturatingAdd x y = min (x+y) i64Max := by
  unfold saturatingAdd clampI64
  split_ifs <;> omega

theorem min_le_saturatingAdd (x y : ℤ) : min (x+y) i64Max ≤ saturatingAdd x y := by
  unfold saturatingAdd clampI64 i64Min
  split_ifs <;> omega

theorem clampI64_range (x : ℤ) : i64Min ≤ clampI64 x ∧ clampI64 x ≤ i64Max := by
  unfold clampI64 i64Min i64Max
  split_ifs <;> omega

theorem clampI64_eq {x : ℤ} (hmin : i64Min ≤ x) (hmax : x ≤ i64Max) : clampI64 x = x := by
  unfold clampI64
  rw [if_neg (by omega), if_neg (by omega)]

theorem checkedSucc_eq_some {x y : ℤ} (h : checkedSucc x = some y) : y = x+1 := by
  unfold checkedSucc at h
  split at h
  · exact (Option.some.inj h).symm
  · cases h

theorem roundHalfAway_intCast (n : ℤ) : roundHalfAway (n : ℚ) = n := by
  have hfloor (m : ℤ) : ⌊(m : ℚ)+1/2⌋ = m := by
    norm_num
  unfold roundHalfAway
  split
  · exact hfloor n
  · have h := hfloor (-n)
    rw [Int.cast_neg] at h
    rw [h, neg_neg]

theorem roundToPrecision_intCast (n : ℤ) (p : ℕ) : roundToPrecision ((n : ℚ)/10^p) p = n/10^p := by
  have hp : (10:ℚ)^p ≠ 0 := pow_ne_zero p (by norm_num)
  unfold roundToPrecision
  rw [div_mul_cancel₀ _ hp, roundHalfAway_intCast]

theorem roundToPrecision_idem (q : ℚ) (p : ℕ) :
    roundToPrecision (roundToPrecision q p) p = roundToPrecision q p :=
  roundToPrecision_intCast _ p

theorem roundToPrecision_sub {a b : ℚ} {p : ℕ} (ha : roundToPrecision a p = a)
    (hb : roundToPrecision b p = b) : roundToPrecision (a-b) p = a-b := by
  have heq : a-b = ((roundHalfAway (a*10^p)-roundHalfAway (b*10^p) : ℤ) : ℚ)/10^p := by
    rw [Int.cast_sub, sub_div]
    exact (congrArg₂ (·-·) ha hb).symm
  rw [heq]
  exact roundToPrecision_intCast _ p

end FixedWidth
