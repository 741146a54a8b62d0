import TeslatlasHub.Interleaving
import TeslatlasHub.PublicPageCursors

/-! Following the cursors of a page route from its first page. -/
namespace TeslatlasHub.PublicHistory

open FixedWidth Interleaving List PageQuery

variable {T : Type}

/-! ### Following cursors -/

inductive WalkEnd where
  | complete
  | oversize
  | refused
  | unfinished
  deriving DecidableEq

structure Walk (T : Type) where
  pages : List (PublicPage T)
  ending : WalkEnd

/-- Pages are asked for with the cursor of the page before, request `k` with the limit `limits k`,
at most `fuel` times. -/
def walk (ask : Option ℕ → Option String → PageAnswer T) (limits : ℕ → Option ℕ) : ℕ → ℕ →
    Option String → Walk T
  | 0, _, _ => ⟨[], .unfinished⟩
  | fuel+1, k, cursor =>
    match ask (limits k) cursor with
    | .page page =>
      match page.nextCursor with
      | none => ⟨[page], .complete⟩
      | some next =>
        let later := walk ask limits fuel (k+1) (some next)
        ⟨page :: later.pages, later.ending⟩
    | .oversize => ⟨[], .oversize⟩
    | .invalid _ => ⟨[], .refused⟩
    | .unavailable => ⟨[], .refused⟩

section Steps

variable {ask : Option ℕ → Option String → PageAnswer T} {limits : ℕ → Option ℕ} {fuel k : ℕ}
  {cursor : Option String}
  {page : PublicPage T}

theorem walk_oversize (h : ask (limits k) cursor = .oversize) :
    walk ask limits (fuel+1) k cursor = ⟨[], .oversize⟩ := by
  rw [walk, h]

theorem walk_last (h : ask (limits k) cursor = .page page) (hnext : page.nextCursor = none) :
    walk ask limits (fuel+1) k cursor = ⟨[page], .complete⟩ := by
  rw [walk, h]
  dsimp only
  rw [hnext]

theorem walk_next {next : String} (h : ask (limits k) cursor = .page page)
    (hnext : page.nextCursor = some next) :
    walk ask limits (fuel+1) k cursor = ⟨page :: (walk ask limits fuel (k+1) (some next)).pages,
    (walk ask limits fuel (k+1) (some next)).ending⟩ := by
  rw [walk, h]
  dsimp only
  rw [hnext]

end Steps

theorem trimLookahead_take (rest : List T) {query : PageQuery} {limit : ℕ}
    (h : query.limit = limit) :
    trimLookahead (rest.take (limit+1)) query = (rest.take limit, !(rest.drop limit).isEmpty) := by
  subst h
  unfold trimLookahead
  by_cases hmore : query.limit < rest.length
  · have hfetched : (rest.take (query.limit+1)).length > query.limit := by
      rw [length_take]
      omega
    have hdrop : (rest.drop query.limit).isEmpty = false := by
      rw [isEmpty_eq_false_iff, Ne, drop_eq_nil_iff]
      omega
    rw [decide_eq_true hfetched, hdrop, take_take, min_eq_left (Nat.le_succ _)]
    rfl
  · have hfetched : ¬(rest.take (query.limit+1)).length > query.limit := by
      rw [length_take]
      omega
    have hall : rest.take (query.limit+1) = rest := take_of_length_le (by omega)
    rw [decide_eq_false hfetched, drop_of_length_le (not_lt.mp hmore),
      take_of_length_le (not_lt.mp hmore), hall]
    rfl

variable [PageItem T]

def cutPage (nextCursor : PageKey → String) (items rest : List T) : PublicPage T :=
  ⟨items, items.getLast?.bind fun row => if rest.isEmpty then none else
    some (nextCursor (pageKey row))⟩

def rowBytes (items : List T) : ℕ := ([44].intercalate (items.map PageItem.toVec)).length

theorem rowBytes_concat (items : List T) (row : T) :
    rowBytes (items++[row]) =
      rowBytes items+(if 0 < items.length then 1 else 0)+(PageItem.toVec row).length := by
  unfold rowBytes
  induction items with
  | nil => simp [intercalate]
  | cons first items ih =>
    cases items with
    | nil => simp [intercalate, intersperse]; omega
    | cons second items =>
      simp [intercalate, intersperse] at ih ⊢
      omega

theorem toVec_length (items : List T) (cursor : Option String) :
    (PublicPage.toVec ⟨items, cursor⟩).length = rowBytes items+(PublicPage.toVec (T := T) ⟨[],
    cursor⟩).length := by
  unfold PublicPage.toVec rowBytes
  simp [intercalate]
  omega

theorem emptyPage_le : (PublicPage.toVec (T := T) ⟨[], none⟩).length ≤ maxPublicPageBytes := by
  have hlength : (PublicPage.toVec (T := T) ⟨[], none⟩).length = 31 := rfl
  rw [hlength]
  decide

section Bounded

variable (nextCursor : PageKey → String)

theorem cutPage_alone_le (pre rest : List T) (row : T) :
    (cutPage nextCursor [row] rest).toVec.length ≤
    (cutPage nextCursor (pre++[row]) rest).toVec.length := by
  unfold cutPage
  rw [toVec_length, toVec_length (pre++[row]), getLast?_append_of_ne_nil _ (cons_ne_nil _ _),
    rowBytes_concat, ← nil_append [row], rowBytes_concat]
  simp only [nil_append, length_nil, lt_irrefl, if_false]
  have hnil : rowBytes ([] : List T) = 0 := rfl
  omega

theorem cutPage_concat_cursor (done rest : List T) (row : T) :
    (cutPage nextCursor (done++[row]) rest).nextCursor =
      if rest.isEmpty then none else some (nextCursor (pageKey row)) := by
  unfold cutPage
  rw [getLast?_append_of_ne_nil _ (cons_ne_nil _ _)]
  rfl

theorem cutPage_all_cursor (items : List T) : (cutPage nextCursor items []).nextCursor = none := by
  unfold cutPage
  cases items.getLast? <;> rfl

theorem retained_cursor (beyond items done : List T) (row : T) :
    (if !beyond.isEmpty || decide (done.length+1 < (done++row :: items).length) then
      some (nextCursor (pageKey row))
      else none) = (cutPage nextCursor (done++[row]) (items++beyond)).nextCursor := by
  rw [cutPage_concat_cursor]
  cases beyond <;> cases items <;> simp

theorem retainRows_spec (beyond items done : List T) :
    ∃ taken left, items = taken++left ∧ retainRows (done++items).length (!beyond.isEmpty) nextCursor
    done.length ⟨rowBytes done, done.length, (cutPage nextCursor done (items++beyond)).nextCursor⟩
    items = ⟨rowBytes (done++taken), (done++taken).length,
    (cutPage nextCursor (done++taken) (left++beyond)).nextCursor⟩ ∧
    (∀ pre row post, taken = pre++row :: post →
    (cutPage nextCursor (done++pre++[row]) (post++left++beyond)).toVec.length ≤
    maxPublicPageBytes) ∧ ∀ row post, left = row :: post → maxPublicPageBytes <
    (cutPage nextCursor (done++taken++[row]) (post++beyond)).toVec.length := by
  induction items generalizing done with
  | nil =>
    refine ⟨[], [], rfl, ?_, ?_, nofun⟩
    · rw [retainRows, append_nil]
    · intro pre row post h
      simp at h
  | cons item items ih =>
    -- what the loop compares with the cap is the body of the page that ends with the item
    have hbody : rowBytes done+(if 0 < done.length then 1 else 0)+(PageItem.toVec item).length+
        (PublicPage.toVec (T := T) ⟨[],
          (cutPage nextCursor (done++[item]) (items++beyond)).nextCursor⟩).length =
          (cutPage nextCursor (done++[item]) (items++beyond)).toVec.length := by
      rw [← rowBytes_concat]
      exact (toVec_length _ _).symm
    rw [retainRows]
    rw [retained_cursor, hbody, ← rowBytes_concat]
    by_cases hover : (cutPage nextCursor (done++[item]) (items++beyond)).toVec.length >
      maxPublicPageBytes
    · rw [if_pos hover]
      refine ⟨[], item :: items, rfl, ?_, ?_, ?_⟩
      · rw [append_nil]
      · intro pre row post h
        simp at h
      · intro row post h
        cases h
        rwa [append_nil]
    · rw [if_neg hover]
      obtain ⟨taken, left, rfl, hkept, hfit, hstop⟩ := ih (done++[item])
      have hlength : (done++[item]).length = done.length+1 := length_append
      rw [hlength] at hkept
      refine ⟨item :: taken, left, rfl, ?_, ?_, ?_⟩
      · rw [append_cons done item (taken++left), append_cons done item taken]
        exact hkept
      · intro pre row post h
        cases pre with
        | nil =>
          cases h
          rw [append_nil]
          exact not_lt.mp hover
        | cons first pre =>
          cases h
          rw [append_cons done item pre]
          exact hfit pre row post rfl
      · intro row post h
        rw [append_cons done item taken]
        exact hstop row post h

/-- A page is refused when its first row does not fit alone, and is otherwise a front part of the
rows. -/
theorem boundedPublicPage_spec (items beyond : List T) :
    (∃ row tail, items = row :: tail ∧ boundedPublicPage items (!beyond.isEmpty) nextCursor = none ∧
    maxPublicPageBytes < (cutPage nextCursor [row] (tail++beyond)).toVec.length) ∨
    ∃ taken left, items = taken++left ∧ (taken = [] → items = []) ∧
    boundedPublicPage items (!beyond.isEmpty) nextCursor =
    some (cutPage nextCursor taken (left++beyond)) ∧
    (cutPage nextCursor taken (left++beyond)).toVec.length ≤ maxPublicPageBytes ∧
    ∀ pre row post, taken = pre++row :: post →
    (cutPage nextCursor [row] (post++left++beyond)).toVec.length ≤ maxPublicPageBytes := by
  obtain ⟨taken, left, rfl, hkept, hfit, hstop⟩ := retainRows_spec nextCursor beyond items []
  have hbounded : boundedPublicPage (taken++left) (!beyond.isEmpty) nextCursor =
      if taken.length = 0 ∧ (taken++left).isEmpty = false then none
      else some (cutPage nextCursor taken (left++beyond)) := by
    have hloop : retainRows (taken++left).length (!beyond.isEmpty) nextCursor 0 ⟨0, 0, none⟩
        (taken++left) =
        ⟨rowBytes taken, taken.length, (cutPage nextCursor taken (left++beyond)).nextCursor⟩ :=
          hkept
    unfold boundedPublicPage
    rw [hloop]
    dsimp only
    rw [take_left]
    rfl
  rw [hbounded]
  cases taken with
  | nil =>
    cases left with
    | nil =>
      exact .inr ⟨[], [], rfl, fun _ => rfl, rfl, emptyPage_le, fun pre row post h => by simp at h⟩
    | cons row tail => exact .inl ⟨row, tail, rfl, rfl, hstop row tail rfl⟩
  | cons first taken =>
    refine .inr ⟨first :: taken, left, rfl, nofun, if_neg (fun h => absurd h.1
      (Nat.succ_ne_zero _)), ?_, ?_⟩
    · obtain ⟨pre, row, hlast⟩ := eq_nil_or_concat (first :: taken) |>.resolve_left
          (cons_ne_nil _ _)
      rw [concat_eq_append] at hlast
      have hwhole := hfit pre row [] hlast
      rw [hlast]
      exact hwhole
    · intro pre row post h
      exact (cutPage_alone_le nextCursor pre _ row).trans (hfit pre row post h)

end Bounded

theorem keyLt_iff {a b : PageKey} :
    keyLt a b ↔ a.1.val < b.1.val ∨ a.1.val = b.1.val ∧ a.2.val < b.2.val := by
  simp [keyLt, Subtype.ext_iff]

namespace PageKind

theorem isBefore_asymm {kind : PageKind} {a b : PageKey} (h : kind.isBefore a b) :
    kind.isBefore b a = false := by
  rw [Bool.eq_false_iff]
  unfold isBefore at h ⊢
  by_cases hnewest : kind.newestFirst
  · rw [if_pos hnewest, keyLt_iff] at h
    rw [if_pos hnewest, Ne, keyLt_iff]
    omega
  · rw [if_neg hnewest, keyLt_iff] at h
    rw [if_neg hnewest, Ne, keyLt_iff]
    omega

theorem isBefore_irrefl (kind : PageKind) (a : PageKey) : kind.isBefore a a = false := by
  rw [Bool.eq_false_iff]
  intro h
  exact absurd h (Bool.eq_false_iff.mp (isBefore_asymm h))

theorem unbounded_isBefore {kind : PageKind} {fromMs toMs : I64} {k : PageKey}
    (hrange : ¬(fromMs.val < 0 ∨ toMs.val < 0 ∨ fromMs.val ≥ toMs.val))
    (h : PageQuery.InWindow fromMs toMs k) : kind.isBefore kind.unbounded k := by
  have hsince : fromMs.val ≤ k.1.val := h.since
  have hbelow : k.1.val < toMs.val := h.below
  have hto : toMs.val ≤ i64Max := toMs.2.2
  unfold isBefore unbounded
  by_cases hnewest : kind.newestFirst
  · rw [if_pos hnewest, if_pos hnewest, keyLt_iff]
    exact .inl (hbelow.trans_le hto)
  · rw [if_neg hnewest, if_neg hnewest, keyLt_iff]
    refine .inl ?_
    change -1 < k.1.val
    omega

end PageKind

section Requests

variable {key : CursorKey} {kind : PageKind} {vehicleId : UuidBytes} {scopeId : I64}
  {fromMs toMs : Option I64}
  {query : PageQuery}

def AllowedLimit (kind : PageKind) (limit : Option ℕ) : Prop :=
  ∀ l ∈ limit, 0 < l ∧ l ≤ kind.maxLimit

theorem PageQuery.of_parse (h : parse key kind vehicleId scopeId ⟨fromMs, toMs, none, none⟩ =
    .ok query) :
    ¬(query.fromMs.val < 0 ∨ query.toMs.val < 0 ∨ query.fromMs.val ≥ query.toMs.val) ∧
      query = ⟨kind, vehicleId, scopeId, fromMs.getD ⟨0, by decide⟩, toMs.getD ⟨i64Max, by decide⟩,
        kind.defaultLimit,
        none⟩ := by
  unfold parse at h
  dsimp only at h
  split at h
  · cases h
  rename_i hrange
  split at h
  · cases h
  · cases h
    exact ⟨hrange, rfl⟩

variable {limit : Option ℕ} {rest : List T}

theorem limit_allowed (h : AllowedLimit kind limit) :
    0 < limit.getD kind.defaultLimit ∧ limit.getD kind.defaultLimit ≤ kind.maxLimit := by
  cases limit with
  | none => cases kind <;> decide
  | some l => exact h l rfl

theorem PageQuery.parse_next (h : parse key kind vehicleId scopeId ⟨fromMs, toMs, none, none⟩ =
    .ok query) (hlimit : AllowedLimit kind limit) {after : Option PageKey}
    (hafter : ∀ last ∈ after, PageQuery.InWindow query.fromMs query.toMs last) :
    parse key kind vehicleId scopeId ⟨fromMs, toMs, limit, after.map (query.nextCursor key)⟩ =
      .ok { query with limit := limit.getD kind.defaultLimit, after := after } := by
  obtain ⟨hrange, rfl⟩ := of_parse h
  obtain ⟨hpositive, hmost⟩ := limit_allowed hlimit
  unfold parse
  rw [if_neg hrange, if_neg (not_or.mpr ⟨hpositive.ne', not_lt.mpr hmost⟩)]
  cases after with
  | none => rfl
  | some last =>
    have hdecode : decodeCursor ⟨kind, vehicleId, scopeId, fromMs.getD ⟨0, by decide⟩,
        toMs.getD ⟨i64Max, by decide⟩, limit.getD kind.defaultLimit,
          none⟩ key (nextCursor _ key last) =
          .ok last := decodeCursor_nextCursor (hafter last rfl)
    exact congrArg (Except.map _) hdecode

theorem storePage_rest {served : List T} {limit : ℕ}
    (hrange : ¬(query.fromMs.val < 0 ∨ query.toMs.val < 0 ∨ query.fromMs.val ≥ query.toMs.val))
    (hrows : (served++rest).Pairwise fun a b => query.kind.isBefore (pageKey a) (pageKey b) =
    true) (hwindow : ∀ r ∈ served++rest, PageQuery.InWindow query.fromMs query.toMs (pageKey r))
    (hpositive : 0 < limit) (hmost : limit ≤ query.kind.maximumFetch)
    (hafter : query.after = served.getLast?.map pageKey) :
    storePage (served++rest) query limit = some (rest.take limit) := by
  have hvalid : validatePublicPageArguments query.fromMs query.toMs query.after limit
      query.kind.maximumFetch
      query.kind.unbounded = some (query.after.getD query.kind.unbounded) := by
    unfold validatePublicPageArguments
    rw [if_neg hrange, if_neg (not_or.mpr ⟨hpositive.ne', not_lt.mpr hmost⟩), if_neg]
    rw [hafter, Bool.not_eq_true, Option.any_eq_false]
    intro last hlast
    obtain ⟨row, hrow, rfl⟩ := Option.map_eq_some_iff.mp hlast
    have hin := hwindow row (mem_append_left _ (mem_of_getLast? hrow))
    simp [hin.positive]
    exact ⟨hin.since, hin.below⟩
  unfold storePage
  rw [hvalid, Option.map_some, filter_append]
  have hserved : served.filter (fun r => query.fromMs.val ≤ (pageKey r).1.val && (pageKey r).1.val <
      query.toMs.val &&
      query.kind.isBefore (query.after.getD query.kind.unbounded) (pageKey r)) = [] := by
    rw [filter_eq_nil_iff]
    intro r hr
    rcases eq_nil_or_concat served with rfl | ⟨earlier, last, rfl⟩
    · cases hr
    · rw [concat_eq_append] at hr hrows hafter
      have hbehind : query.kind.isBefore (pageKey last) (pageKey r) = false := by
        rcases mem_append.mp hr with hr | hr
        · have hbefore := (pairwise_append.mp (pairwise_append.mp hrows).1).2.2 r hr last
              mem_cons_self
          exact PageKind.isBefore_asymm hbefore
        · rw [mem_singleton.mp hr]
          exact PageKind.isBefore_irrefl _ _
      simp [hafter, hbehind]
  have hrest : rest.filter (fun r => query.fromMs.val ≤ (pageKey r).1.val && (pageKey r).1.val <
      query.toMs.val &&
      query.kind.isBefore (query.after.getD query.kind.unbounded) (pageKey r)) = rest := by
    rw [filter_eq_self]
    intro r hr
    have hin := hwindow r (mem_append_right _ hr)
    have hahead : query.kind.isBefore (query.after.getD query.kind.unbounded) (pageKey r) := by
      cases hlast : served.getLast? with
      | none =>
        rw [hafter, hlast]
        exact PageKind.unbounded_isBefore hrange hin
      | some last =>
        rw [hafter, hlast]
        exact (pairwise_append.mp hrows).2.2 last (mem_of_getLast? hlast) r hr
    rw [decide_eq_true hin.since, decide_eq_true hin.below, hahead]
    rfl
  rw [hserved, hrest, nil_append]

theorem pageRoute_rest (h : parse key kind vehicleId scopeId ⟨fromMs, toMs, none, none⟩ =
    .ok query) {served : List T}
    (hrows : (served++rest).Pairwise fun a b => kind.isBefore (pageKey a) (pageKey b) = true)
    (hwindow : ∀ r ∈ served++rest, PageQuery.InWindow query.fromMs query.toMs (pageKey r))
    (hlimit : AllowedLimit kind limit) :
    pageRoute key kind vehicleId scopeId (served++rest) ⟨fromMs, toMs, limit,
    (served.getLast?.map pageKey).map (query.nextCursor key)⟩ =
    (boundedPublicPage (rest.take (limit.getD kind.defaultLimit))
    (!(rest.drop (limit.getD kind.defaultLimit)).isEmpty) (query.nextCursor key)).elim .oversize
    .page := by
  have hafter : ∀ last ∈ served.getLast?.map pageKey, PageQuery.InWindow query.fromMs query.toMs
      last := by
    intro last hlast
    obtain ⟨row, hrow, rfl⟩ := Option.map_eq_some_iff.mp hlast
    exact hwindow row (mem_append_left _ (mem_of_getLast? hrow))
  have hparse := parse_next h hlimit hafter
  obtain ⟨hpositive, hmost⟩ := limit_allowed hlimit
  obtain ⟨hrange, hquery⟩ := of_parse h
  have hkind : query.kind = kind := congrArg PageQuery.kind hquery
  subst hkind
  have hfetch : limit.getD query.kind.defaultLimit+1 ≤ query.kind.maximumFetch := by
    refine (Nat.succ_le_succ hmost).trans ?_
    cases query.kind <;> decide
  have hstore : storePage (served++rest) { query with
      limit := limit.getD query.kind.defaultLimit, after := served.getLast?.map pageKey }
        (limit.getD query.kind.defaultLimit+1) =
          some (rest.take (limit.getD query.kind.defaultLimit+1)) :=
    storePage_rest hrange hrows hwindow (Nat.succ_pos _) hfetch rfl
  unfold pageRoute
  rw [hparse]
  dsimp only [lookaheadLimit]
  rw [hstore]
  dsimp only
  have htrim : trimLookahead (rest.take (limit.getD query.kind.defaultLimit+1)) { query with
      limit := limit.getD query.kind.defaultLimit, after := served.getLast?.map pageKey } = _ :=
    trimLookahead_take rest rfl
  have hcursor : nextCursor { query with
      limit := limit.getD query.kind.defaultLimit, after := served.getLast?.map pageKey } key =
        query.nextCursor key := rfl
  rw [htrim, hcursor]
  cases boundedPublicPage (rest.take (limit.getD query.kind.defaultLimit))
    (!(rest.drop (limit.getD query.kind.defaultLimit)).isEmpty) (query.nextCursor key) <;> rfl

def servable (nextCursor : PageKey → String) : List T → List T
  | [] => []
  | row :: rest =>
    if (cutPage nextCursor [row] rest).toVec.length ≤ maxPublicPageBytes then row :: servable
      nextCursor rest else []

theorem servable_append {nextCursor : PageKey → String} {taken : List T}
    (h : ∀ pre row post, taken = pre++row :: post →
    (cutPage nextCursor [row] (post++rest)).toVec.length ≤ maxPublicPageBytes) :
    servable nextCursor (taken++rest) = taken++servable nextCursor rest := by
  induction taken with
  | nil => rfl
  | cons row taken ih =>
    rw [cons_append, servable, if_pos (h [] row taken rfl), cons_append]
    rw [ih fun pre row' post htaken => h (row :: pre) row' post (congrArg _ htaken)]

structure Walk.Covers (w : Walk T) (nextCursor : PageKey → String) (rows : List T) : Prop where
  items : w.pages.flatMap (·.items) = servable nextCursor rows
  ending : w.ending = if (servable nextCursor rows).length = rows.length then .complete else
    .oversize
  /-- A walk that completes ends with a page without a cursor. -/
  last : w.ending = .complete → ∃ earlier page, w.pages = earlier++[page] ∧ page.nextCursor = none
  bounded : ∀ page ∈ w.pages, page.toVec.length ≤ maxPublicPageBytes
  cursors : AtEach (fun earlier page => page.nextCursor.isSome = true ↔
    ((earlier++[page]).flatMap (·.items)).length < rows.length) w.pages

section Covers

variable {nextCursor : PageKey → String}

theorem Walk.Covers.all {items : List T} (hserve : servable nextCursor items = items)
    (hbody : (cutPage nextCursor items []).toVec.length ≤ maxPublicPageBytes) :
    Walk.Covers ⟨[cutPage nextCursor items []], .complete⟩ nextCursor items := by
  have hall : [cutPage nextCursor items []].flatMap (·.items) = items := append_nil items
  refine ⟨hall.trans hserve.symm, ?_, fun _ => ⟨[], _, rfl, cutPage_all_cursor nextCursor items⟩,
    ?_, ?_⟩
  · rw [hserve, if_pos rfl]
  · intro page hin
    rw [mem_singleton.mp hin]
    exact hbody
  · rw [atEach_cons, nil_append, hall, cutPage_all_cursor]
    exact ⟨by simp, atEach_nil⟩

theorem Walk.Covers.cons {later : Walk T} {page : PublicPage T} (h : later.Covers nextCursor rest)
    (hrest : rest ≠ []) (hcursor : page.nextCursor.isSome)
    (hserve : servable nextCursor (page.items++rest) = page.items++servable nextCursor rest)
    (hbody : page.toVec.length ≤ maxPublicPageBytes) :
    Walk.Covers ⟨page :: later.pages, later.ending⟩ nextCursor (page.items++rest) := by
  refine ⟨?_, ?_, ?_, ?_, ?_⟩
  · rw [flatMap_cons, h.items, hserve]
  · rw [h.ending, hserve, length_append, length_append]
    simp only [Nat.add_left_cancel_iff]
  · intro hcomplete
    obtain ⟨earlier, last, hpages, hnone⟩ := h.last hcomplete
    exact ⟨page :: earlier, last, congrArg _ hpages, hnone⟩
  · intro p hin
    rcases mem_cons.mp hin with rfl | hin
    · exact hbody
    · exact h.bounded p hin
  · rw [atEach_cons]
    constructor
    · have hpositive := length_pos_iff.mpr hrest
      simpa [hcursor] using hpositive
    · intro earlier p post hpages
      refine (h.cursors earlier p post hpages).trans ?_
      rw [cons_append, flatMap_cons, length_append, length_append]
      exact (Nat.add_lt_add_iff_left).symm

end Covers

theorem walk_rest (h : parse key kind vehicleId scopeId ⟨fromMs, toMs, none, none⟩ = .ok query)
    {rows : List T}
    (hrows : rows.Pairwise fun a b => kind.isBefore (pageKey a) (pageKey b) = true)
    (hwindow : ∀ r ∈ rows, PageQuery.InWindow query.fromMs query.toMs (pageKey r))
    {limits : ℕ → Option ℕ} (hlimits : ∀ k, AllowedLimit kind (limits k)) (fuel k : ℕ)
    (served rest : List T) (hsplit : rows = served++rest) (hfuel : rest.length < fuel) :
    (walk (fun limit cursor => pageRoute key kind vehicleId scopeId rows ⟨fromMs, toMs, limit,
    cursor⟩) limits fuel k ((served.getLast?.map pageKey).map (query.nextCursor key))).Covers
    (query.nextCursor key) rest := by
  induction fuel generalizing k served rest with
  | zero => exact absurd hfuel (Nat.not_lt_zero _)
  | succ fuel ih =>
    have hpage := pageRoute_rest h (hsplit ▸ hrows) (hsplit ▸ hwindow) (hlimits k)
    rw [← hsplit] at hpage
    have hpositive := (limit_allowed (hlimits k)).1
    generalize (limits k).getD kind.defaultLimit = size at hpage hpositive
    rcases boundedPublicPage_spec (query.nextCursor key) (rest.take size) (rest.drop size) with
      ⟨row, tail, hitems, hnone, hover⟩ | ⟨taken, left, hitems, hempty, hsome, hbody, halone⟩
    · have hrest : rest = row :: (tail++rest.drop size) := by
        rw [← cons_append, ← hitems, take_append_drop]
      have hstop : servable (query.nextCursor key) rest = [] := by
        rw [hrest, servable, if_neg (not_le.mpr hover)]
      rw [hnone] at hpage
      rw [walk_oversize hpage]
      refine ⟨hstop.symm, ?_, nofun, fun _ hin => absurd hin not_mem_nil, atEach_nil⟩
      rw [hstop, hrest]
      rfl
    · have hrest : rest = taken++(left++rest.drop size) := by
        rw [← append_assoc, ← hitems, take_append_drop]
      have hserve : servable (query.nextCursor key) (taken++(left++rest.drop size)) =
          taken++servable (query.nextCursor key) (left++rest.drop size) := by
        refine servable_append fun pre row post htaken => ?_
        rw [← append_assoc]
        exact halone pre row post htaken
      rw [hsome] at hpage
      generalize left++rest.drop size = later at hpage hrest hserve hbody
      rw [hrest]
      cases later with
      | nil =>
        rw [walk_last hpage (cutPage_all_cursor _ _), append_nil]
        rw [append_nil] at hserve
        exact Walk.Covers.all (hserve.trans (append_nil taken)) hbody
      | cons row later =>
        -- rows remain, so the page is not empty and its cursor is that of its last row
        have htaken : taken ≠ [] := by
          intro hnil
          have hnone := hempty hnil
          rw [hrest, hnil, nil_append, take_eq_nil_iff] at hnone
          exact hnone.elim hpositive.ne' (cons_ne_nil _ _)
        have hcursor : (cutPage (query.nextCursor key) taken (row :: later)).nextCursor =
            ((served++taken).getLast?.map pageKey).map (query.nextCursor key) := by
          rw [getLast?_append_of_ne_nil _ htaken]
          unfold cutPage
          cases taken.getLast? <;> rfl
        have hsome : ((served++taken).getLast?.map pageKey).map (query.nextCursor key) = some
            (query.nextCursor key (pageKey (taken.getLast htaken))) := by
          rw [getLast?_append_of_ne_nil _ htaken, getLast?_eq_some_getLast htaken]
          rfl
        have hlater := ih (k+1) (served++taken) (row :: later) (by rw [hsplit, hrest, append_assoc])
            (by
          rw [hrest, length_append] at hfuel
          have := length_pos_iff.mpr htaken
          omega)
        rw [hsome] at hlater hcursor
        rw [walk_next hpage hcursor]
        exact hlater.cons (cons_ne_nil _ _) (by rw [hcursor]; rfl) hserve hbody

/-- Following the cursors returns every row once and in order, up to the first row that alone is
over the cap. No page is over the cap, and one has a cursor exactly when rows remain. -/
theorem walk_covers_the_rows (hquery : PageQuery.parse key kind vehicleId scopeId
    ⟨fromMs, toMs, none, none⟩ = .ok query) {rows : List T}
    (hrows : rows.Pairwise fun a b => kind.isBefore (pageKey a) (pageKey b) = true)
    (hwindow : ∀ r ∈ rows, PageQuery.InWindow query.fromMs query.toMs (pageKey r))
    {limits : ℕ → Option ℕ} (hlimits : ∀ k, AllowedLimit kind (limits k)) {fuel : ℕ}
    (hfuel : rows.length < fuel) :
    (walk (fun limit cursor =>
      pageRoute key kind vehicleId scopeId rows ⟨fromMs, toMs, limit, cursor⟩)
      limits fuel 0 none).Covers (query.nextCursor key) rows :=
  walk_rest hquery hrows hwindow hlimits fuel 0 [] rows rfl hfuel

end Requests

instance keyedText : PageItem (PageKey × List UInt8) := ⟨Prod.fst, Prod.snd⟩

def someVehicle : UuidBytes := ⟨replicate 16 1, length_replicate⟩

def someRows : List (PageKey × List UInt8) :=
  [((⟨12, by decide⟩, ⟨1, by decide⟩), [49]), ((⟨12, by decide⟩, ⟨2, by decide⟩), [50]),
    ((⟨13, by decide⟩, ⟨1, by decide⟩), [51])]

theorem walk_covers_someRows :
    (walk (fun limit cursor => pageRoute PageQuery.zeroTag .positions someVehicle ⟨3, by decide⟩
      someRows
      ⟨none, none, limit, cursor⟩) (fun _ => some 2) 4 0 none).Covers
        (PageQuery.nextCursor ⟨.positions, someVehicle, ⟨3, by decide⟩, ⟨0, by decide⟩,
          ⟨i64Max, by decide⟩, 1000, none⟩
          PageQuery.zeroTag) someRows ∧
      (walk (fun limit cursor => pageRoute PageQuery.zeroTag .positions someVehicle ⟨3, by decide⟩
        someRows
        ⟨none, none, limit, cursor⟩) (fun _ => some 2) 4 0 none).pages.map (·.items.length) =
          [2, 1] := by
  refine ⟨walk_covers_the_rows rfl (by decide) ?_ (fun _ l hl => ?_) (by decide), by decide +kernel⟩
  · intro r hr
    simp only [someRows, mem_cons, not_mem_nil, or_false] at hr
    rcases hr with rfl | rfl | rfl
    · exact ⟨by decide, by decide, by decide⟩
    · exact ⟨by decide, by decide, by decide⟩
    · exact ⟨by decide, by decide, by decide⟩
  · cases hl
    decide

end TeslatlasHub.PublicHistory
