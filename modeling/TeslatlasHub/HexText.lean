import TeslatlasHub.ByteFormat
import TeslatlasHub.FixedWidth

/-! Bytes as lowercase hexadecimal text, and signed 64-bit numbers as big-endian bytes. -/
namespace HexText

open ByteFormat FixedWidth List Option Bool

/-! ### Hexadecimal digits -/

def hexDigit (n : ℕ) : Char := if n < 10 then Char.ofNat (48+n) else Char.ofNat (87+n)

def hexValue (c : Char) : Option ℕ :=
  if 'A' ≤ c ∧ c ≤ 'F' then some (c.toNat-55)
  else if 'a' ≤ c ∧ c ≤ 'f' then some (c.toNat-87)
  else if '0' ≤ c ∧ c ≤ '9' then some (c.toNat-48)
  else none

variable (bytes : List UInt8)

def encode : List Char :=
  bytes.flatMap fun b => [hexDigit (b.toNat/16), hexDigit (b.toNat%16)]

def decode : List Char → Option (List UInt8)
  | [] => some []
  | [_] => none
  | high :: low :: rest =>
    (hexValue high).bind fun h => (hexValue low).bind fun l =>
      (decode rest).map (UInt8.ofNat (16*h+l) :: ·)

def byteLength (cs : List Char) : ℕ := (cs.map Char.utf8Size).sum

def lowercaseDigit (c : Char) : Bool := c.isDigit || ('a' ≤ c && c ≤ 'f')

def lowercaseHex (cs : List Char) : Bool := cs.all lowercaseDigit

theorem hexValue_hexDigit {n : ℕ} (h : n < 16) : hexValue (hexDigit n) = some n := by
  interval_cases n <;> rfl

theorem lowercaseDigit_hexDigit {n : ℕ} (h : n < 16) : lowercaseDigit (hexDigit n) := by
  interval_cases n <;> rfl

theorem lowercaseDigit_cases {c : Char} (h : lowercaseDigit c) : ∃ n, n < 16 ∧ c = hexDigit n := by
  have hc : Char.ofNat c.toNat = c := Char.ofNat_toNat c
  unfold lowercaseDigit at h
  rw [or_eq_true, and_eq_true, decide_eq_true_eq, decide_eq_true_eq] at h
  rcases h with h | ⟨hlow, hhigh⟩
  · rw [Char.isDigit, and_eq_true, decide_eq_true_eq, decide_eq_true_eq] at h
    have hlow : 48 ≤ c.toNat := h.1
    have hhigh : c.toNat ≤ 57 := h.2
    refine ⟨c.toNat-48, by omega, ?_⟩
    rw [hexDigit, if_pos (by omega), Nat.add_sub_cancel' hlow, hc]
  · have hlow : 97 ≤ c.toNat := hlow
    have hhigh : c.toNat ≤ 102 := hhigh
    refine ⟨c.toNat-87, by omega, ?_⟩
    rw [hexDigit, if_neg (by omega), Nat.add_sub_cancel' (by omega), hc]

theorem byteLength_of_lowercaseHex {cs : List Char} (h : lowercaseHex cs) :
    byteLength cs = cs.length := by
  induction cs with
  | nil => rfl
  | cons c cs ih =>
    unfold lowercaseHex at ih h
    rw [all_cons, and_eq_true] at h
    obtain ⟨n, hn, rfl⟩ := lowercaseDigit_cases h.1
    have hone : (hexDigit n).utf8Size = 1 := by
      interval_cases n <;> rfl
    unfold byteLength at ih ⊢
    rw [map_cons, sum_cons, ih h.2, hone, length_cons, Nat.add_comm]

@[simp]
theorem encode_length : (encode bytes).length = bytes.length*2 := by
  induction bytes with
  | nil => rfl
  | cons b bytes ih =>
    unfold encode at ih ⊢
    rw [flatMap_cons, length_append, ih, length_cons]
    change 2+bytes.length*2 = (bytes.length+1)*2
    ring

theorem lowercaseHex_encode : lowercaseHex (encode bytes) := by
  unfold lowercaseHex encode
  rw [all_flatMap, List.all_eq_true]
  intro b _
  have hb : b.toNat < 256 := b.toNat_lt
  have hhigh := lowercaseDigit_hexDigit (n := b.toNat/16) (by omega)
  have hlow := lowercaseDigit_hexDigit (n := b.toNat%16) (by omega)
  simp [hhigh, hlow]

theorem decode_encode : decode (encode bytes) = some bytes := by
  induction bytes with
  | nil => rfl
  | cons b bytes ih =>
    have hb : b.toNat < 256 := b.toNat_lt
    change (hexValue (hexDigit (b.toNat/16))).bind
      (fun h => (hexValue (hexDigit (b.toNat%16))).bind fun l =>
      (decode (encode bytes)).map (UInt8.ofNat (16*h+l) :: ·)) = _
    rw [hexValue_hexDigit (by omega), hexValue_hexDigit (by omega), ih, bind_some, bind_some,
      map_some, Nat.div_add_mod, UInt8.ofNat_toNat]

theorem encode_of_decode {cs : List Char} {bytes : List UInt8} (hlower : lowercaseHex cs)
    (h : decode cs = some bytes) : encode bytes = cs := by
  induction cs using decode.induct generalizing bytes with
  | case1 =>
    cases h
    rfl
  | case2 => cases h
  | case3 high low rest ih =>
    unfold lowercaseHex at hlower
    rw [all_cons, all_cons, and_eq_true, and_eq_true] at hlower
    obtain ⟨m, hm, rfl⟩ := lowercaseDigit_cases hlower.1
    obtain ⟨n, hn, rfl⟩ := lowercaseDigit_cases hlower.2.1
    rw [decode, hexValue_hexDigit hm, hexValue_hexDigit hn, bind_some, bind_some,
      map_eq_some_iff] at h
    obtain ⟨tail, htail, rfl⟩ := h
    have hb : (UInt8.ofNat (16*m+n)).toNat = 16*m+n := by
      rw [UInt8.toNat_ofNat']
      omega
    change hexDigit ((UInt8.ofNat (16*m+n)).toNat/16) :: hexDigit ((UInt8.ofNat (16*m+n)).toNat%16)
      :: encode tail = _
    rw [hb, ih hlower.2.2 htail]
    congr 3 <;> omega

def beNat : ℕ := bytes.foldl (fun n b => 256*n+b.toNat) 0

def beBytes (width n : ℕ) : List UInt8 := (leBytes width n).reverse

theorem beBytes_length (width n : ℕ) : (beBytes width n).length = width := by
  rw [beBytes, length_reverse, leBytes_length]

theorem beNat_beBytes (width n : ℕ) : beNat (beBytes width n) = n%256^width := by
  induction width generalizing n with
  | zero =>
    rw [pow_zero, Nat.mod_one]
    rfl
  | succ width ih =>
    have hlow : (UInt8.ofNat (n%256)).toNat = n%256 := by
      rw [UInt8.toNat_ofNat']
      omega
    unfold beNat beBytes at ih ⊢
    rw [leBytes, reverse_cons, foldl_append, foldl_cons, foldl_nil, ih, hlow, pow_succ',
      Nat.mod_mul]
    ring

def i64ToBeBytes (x : I64) : List UInt8 := beBytes 8 (x.val%2^64).toNat

def signed64 (n : ℕ) : ℤ := if n%2^64 < 2^63 then (n%2^64 : ℕ) else (n%2^64 : ℕ)-2^64

theorem signed64_range (n : ℕ) : i64Min ≤ signed64 n ∧ signed64 n ≤ i64Max := by
  unfold signed64 i64Min i64Max
  split <;> omega

theorem signed64_of_emod {n : ℕ} {x : ℤ} (hx : i64Min ≤ x ∧ x ≤ i64Max) (hn : (n : ℤ) = x%2^64) :
    signed64 n = x := by
  unfold i64Min i64Max at hx
  unfold signed64
  split <;> omega

def i64OfBeBytes : I64 := ⟨signed64 (beNat bytes), signed64_range _⟩

@[simp]
theorem i64ToBeBytes_length (x : I64) : (i64ToBeBytes x).length = 8 := beBytes_length 8 _

theorem i64OfBeBytes_i64ToBeBytes (x : I64) : i64OfBeBytes (i64ToBeBytes x) = x := by
  refine Subtype.ext (signed64_of_emod x.2 ?_)
  unfold i64ToBeBytes
  rw [beNat_beBytes]
  omega

end HexText
