import Mathlib

structure OrderedMap (K V : Type) [LinearOrder K] where
  entries : List (K × V)
  sorted : entries.Pairwise fun a b => a.1 < b.1

namespace OrderedMap

open List Option

variable {K V W : Type} [LinearOrder K] {m : OrderedMap K V} {k k' : K} {v : V}

def empty : OrderedMap K V := ⟨[], List.Pairwise.nil⟩

def get? (m : OrderedMap K V) (k : K) : Option V :=
  (m.entries.find? fun e => e.1 = k).map (·.2)

def contains (m : OrderedMap K V) (k : K) : Bool := (m.get? k).isSome

def keys (m : OrderedMap K V) : List K := m.entries.map (·.1)

def values (m : OrderedMap K V) : List V := m.entries.map (·.2)

def place (k : K) (v : V) : List (K × V) → List (K × V)
  | [] => [(k, v)]
  | e :: rest =>
    if k < e.1 then (k, v) :: e :: rest
    else if e.1 < k then e :: place k v rest
    else (k, v) :: rest

theorem mem_place {l : List (K × V)} (hl : l.Pairwise fun a b => a.1 < b.1) {e : K × V} :
    e ∈ place k v l ↔ e = (k, v) ∨ e ∈ l ∧ e.1 ≠ k := by
  induction l with
  | nil => simp [place]
  | cons hd tl ih =>
    obtain ⟨hhd, htl⟩ := pairwise_cons.mp hl
    rw [place]
    split_ifs with hlt hgt
    · -- the new key is in front of every key that is there
      grind
    · grind
    · have heq : hd.1 = k := le_antisymm (not_lt.mp hlt) (not_lt.mp hgt)
      grind

theorem place_sorted {l : List (K × V)} (hl : l.Pairwise fun a b => a.1 < b.1) :
    (place k v l).Pairwise fun a b => a.1 < b.1 := by
  induction l with
  | nil => simp [place]
  | cons hd tl ih =>
    obtain ⟨hhd, htl⟩ := pairwise_cons.mp hl
    rw [place]
    split_ifs with hlt hgt
    · refine pairwise_cons.mpr ⟨?_, hl⟩
      intro x hx
      rcases mem_cons.mp hx with rfl | hx
      · exact hlt
      · exact hlt.trans (hhd x hx)
    · refine pairwise_cons.mpr ⟨?_, ih htl⟩
      intro x hx
      rcases (mem_place htl).mp hx with rfl | ⟨hx, _⟩
      · exact hgt
      · exact hhd x hx
    · have heq : hd.1 = k := le_antisymm (not_lt.mp hlt) (not_lt.mp hgt)
      exact pairwise_cons.mpr ⟨fun x hx => heq ▸ hhd x hx, htl⟩

def insert (m : OrderedMap K V) (k : K) (v : V) : OrderedMap K V :=
  ⟨place k v m.entries, place_sorted m.sorted⟩

def map (m : OrderedMap K V) (f : K → V → W) : OrderedMap K W :=
  ⟨m.entries.map fun e => (e.1, f e.1 e.2), List.pairwise_map.mpr m.sorted⟩

def modify (m : OrderedMap K V) (k : K) (f : V → V) : OrderedMap K V :=
  m.map fun k' v => if k' = k then f v else v

def filter (m : OrderedMap K V) (p : K → V → Bool) : OrderedMap K V :=
  ⟨m.entries.filter fun e => p e.1 e.2, m.sorted.filter _⟩

def erase (m : OrderedMap K V) (k : K) : OrderedMap K V := m.filter fun k' _ => k' ≠ k

theorem key_unique {a b : K × V} (ha : a ∈ m.entries) (hb : b ∈ m.entries) (h : a.1 = b.1) :
    a = b := by
  obtain ⟨i, hi, rfl⟩ := mem_iff_getElem.mp ha
  obtain ⟨j, hj, rfl⟩ := mem_iff_getElem.mp hb
  have hlt := pairwise_iff_getElem.mp m.sorted
  rcases Nat.lt_trichotomy i j with hij | rfl | hij
  · exact absurd h (hlt i j hi hj hij).ne
  · rfl
  · exact absurd h (hlt j i hj hi hij).ne'

theorem get?_eq_some : m.get? k = some v ↔ (k, v) ∈ m.entries := by
  rw [get?, map_eq_some_iff]
  constructor
  · rintro ⟨e, he, rfl⟩
    have hk : e.1 = k := by simpa using find?_some he
    exact hk ▸ mem_of_find?_eq_some he
  · intro h
    obtain ⟨e, he⟩ := isSome_iff_exists.mp
      (find?_isSome.mpr ⟨(k, v), h, by simp⟩ : (m.entries.find? fun e => e.1 = k).isSome)
    have hk : e.1 = k := by simpa using find?_some he
    exact ⟨e, he, congrArg Prod.snd (key_unique (mem_of_find?_eq_some he) h hk)⟩

@[simp]
theorem get?_insert : (m.insert k v).get? k' = if k' = k then some v else m.get? k' := by
  refine ext fun w => ?_
  rw [get?_eq_some, insert, mem_place m.sorted]
  split_ifs with h
  · simp [h, eq_comm]
  · simp [h, get?_eq_some]

@[simp]
theorem get?_map {f : K → V → W} : (m.map f).get? k = (m.get? k).map (f k) := by
  refine ext fun w => ?_
  simp only [get?_eq_some, map, List.mem_map, Option.map_eq_some_iff, Prod.mk.injEq]
  constructor
  · rintro ⟨e, he, rfl, rfl⟩
    exact ⟨e.2, he, rfl⟩
  · rintro ⟨x, hx, rfl⟩
    exact ⟨(k, x), hx, rfl, rfl⟩

theorem get?_modify {f : V → V} :
    (m.modify k f).get? k' = if k' = k then (m.get? k').map f else m.get? k' := by
  rw [modify, get?_map]
  split_ifs with h
  · rfl
  · exact map_id'

@[simp]
theorem get?_modify_self {f : V → V} : (m.modify k f).get? k = (m.get? k).map f := by
  rw [get?_modify, if_pos rfl]

theorem get?_modify_modify {f g : V → V} :
    ((m.modify k f).modify k g).get? k' = (m.modify k fun v => g (f v)).get? k' := by
  rw [get?_modify, get?_modify, get?_modify]
  split_ifs with h
  · rw [Option.map_map]
    rfl
  · rfl

@[simp]
theorem get?_filter {p : K → V → Bool} : (m.filter p).get? k = (m.get? k).filter (p k) := by
  refine ext fun w => ?_
  simp [get?_eq_some, filter, filter_eq_some_iff]

theorem get?_erase : (m.erase k).get? k' = if k' = k then none else m.get? k' := by
  rw [erase, get?_filter]
  split_ifs with h
  · simp [h]
  · cases m.get? k' <;> simp [h]

theorem get?_foldl_insert {α : Type} (key : α → K) (value : α → V) (xs : List α) :
    (xs.foldl (fun m x => m.insert (key x) (value x)) m).get? k =
      ((xs.filter (key · = k)).getLast?.map value).or (m.get? k) := by
  induction xs using reverseRecOn with
  | nil => rfl
  | append_singleton xs x ih =>
    by_cases h : key x = k
    · simp [h]
    · simp [h, Ne.symm h, ih]

theorem get?_foldl_erase {α : Type} (key : α → K) (xs : List α) :
    (xs.foldl (fun m x => m.erase (key x)) m).get? k =
      if xs.any (key · = k) then none else m.get? k := by
  induction xs generalizing m with
  | nil => rfl
  | cons x xs ih =>
    rw [foldl_cons, ih, get?_erase]
    by_cases h : key x = k
    · simp [h]
    · simp [h, Ne.symm h]

theorem mem_values : v ∈ m.values ↔ ∃ k, m.get? k = some v := by
  simp [values, get?_eq_some]

theorem mem_keys : k ∈ m.keys ↔ (m.get? k).isSome := by
  simp only [keys, List.mem_map, Option.isSome_iff_exists, get?_eq_some, Prod.exists,
    exists_and_right, exists_eq_right]

theorem keys_sorted : m.keys.Pairwise (· < ·) := pairwise_map.mpr m.sorted

theorem keys_nodup : m.keys.Nodup := m.keys_sorted.imp fun h => h.ne

theorem entries_nodup : m.entries.Nodup := m.sorted.imp fun h heq => h.ne (congrArg Prod.fst heq)

theorem ext_get? {m m' : OrderedMap K V} (h : ∀ k, m.get? k = m'.get? k) : m = m' := by
  have hmem (e : K × V) : e ∈ m.entries ↔ e ∈ m'.entries := by
    rw [← get?_eq_some (k := e.1) (v := e.2), ← get?_eq_some (k := e.1) (v := e.2), h]
  have hperm : m.entries.Perm m'.entries :=
    (perm_ext_iff_of_nodup m.entries_nodup m'.entries_nodup).mpr hmem
  have hentries : m.entries = m'.entries :=
    hperm.eq_of_pairwise (fun _ _ _ _ hab hba => absurd (hab.trans hba) (lt_irrefl _)) m.sorted
      m'.sorted
  cases m
  cases m'
  cases hentries
  rfl

end OrderedMap
