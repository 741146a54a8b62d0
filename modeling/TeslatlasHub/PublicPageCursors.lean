import TeslatlasHub.PublicPages
import TeslatlasHub.RunRules

/-! What a page cursor decodes to. -/
namespace TeslatlasHub.PublicHistory

open FixedWidth HexText RunRules List

theorem PageKind.cursorCode_injective : Function.Injective PageKind.cursorCode := by
  rintro (_ | _ | _ | _) (_ | _ | _ | _) h <;> first | rfl | exact absurd h (by decide)

/-! ### The text -/

theorem dot_not_mem_encode (bytes : List UInt8) : '.' ∉ encode bytes := by
  intro h
  have hdigit := all_eq_true.mp (lowercaseHex_encode bytes) '.' h
  exact absurd hdigit (by decide)

def signedText (head : String) (payload tag : List UInt8) : String :=
  head++"."++String.ofList (encode payload)++"."++String.ofList (encode tag)

section Text

variable {head : String} {payload tag : List UInt8}

theorem signedText_toList (head : String) (payload tag : List UInt8) :
    (signedText head payload tag).toList = ['.'].intercalate [head.toList, encode payload,
    encode tag] := by
  simp [signedText, String.toList_append, intercalate, intersperse]

theorem splitOn_signedText (hhead : '.' ∉ head.toList) :
    (signedText head payload tag).toList.splitOn '.' = [head.toList, encode payload,
    encode tag] := by
  rw [signedText_toList]
  refine splitOn_intercalate '.' ?_ (cons_ne_nil _ _)
  simp [hhead, dot_not_mem_encode]

theorem signedText_payload_inj {head' : String} {payload' tag' : List UInt8}
    (hhead : '.' ∉ head.toList) (hhead' : '.' ∉ head'.toList)
    (h : signedText head payload tag = signedText head' payload' tag') : payload = payload' := by
  have hparts := @splitOn_signedText head payload tag hhead
  rw [h, splitOn_signedText hhead'] at hparts
  have hdecoded := congrArg decode (cons.inj (cons.inj hparts).2).1
  rw [decode_encode, decode_encode] at hdecoded
  exact (Option.some.inj hdecoded).symm

theorem splitCursor_signedText (hhead : '.' ∉ head.toList) :
    splitCursor payload.length tag.length (signedText head payload tag) head = some (payload,
    tag) := by
  unfold splitCursor
  rw [splitOn_signedText hhead]
  dsimp only
  rw [byteLength_of_lowercaseHex (lowercaseHex_encode payload),
    byteLength_of_lowercaseHex (lowercaseHex_encode tag), encode_length, encode_length,
      lowercaseHex_encode, lowercaseHex_encode, decode_encode, decode_encode]
  simp

theorem eq_signedText_of_splitCursor {payloadBytes tagBytes : ℕ} {cursor : String}
    (h : splitCursor payloadBytes tagBytes cursor head = some (payload, tag)) :
    cursor = signedText head payload tag ∧ payload.length = payloadBytes := by
  unfold splitCursor at h
  split at h
  · rename_i foundHead payloadHex tagHex hsplit
    split at h
    · cases h
    rename_i hchecks
    simp only [not_or, not_not, Bool.not_eq_false] at hchecks
    obtain ⟨rfl, hpayloadLength, _, hpayloadHex, htagHex⟩ := hchecks
    obtain ⟨payload', hpayload, h⟩ := Option.bind_eq_some_iff.mp h
    obtain ⟨tag', htag, h⟩ := Option.map_eq_some_iff.mp h
    cases h
    have hpayloadText := encode_of_decode hpayloadHex hpayload
    have htagText := encode_of_decode htagHex htag
    rw [byteLength_of_lowercaseHex hpayloadHex, ← hpayloadText, encode_length] at hpayloadLength
    refine ⟨?_, Nat.eq_of_mul_eq_mul_right (by decide) hpayloadLength⟩
    rw [← String.toList_inj, signedText_toList, hpayloadText, htagText, ← hsplit,
      intercalate_splitOn]
  · cases h

end Text

variable {block rest : List UInt8}

theorem slice_here {n : ℕ} (h : block.length = n) : slice (block++rest) 0 n = block := by
  unfold slice
  rw [drop_zero, take_left' h]

theorem slice_skip {n : ℕ} (h : block.length = n) (offset m : ℕ) :
    slice (block++rest) (n+offset) m = slice rest offset m := by
  unfold slice
  rw [← drop_drop, drop_left' h]

theorem i64At_here (x : I64) (rest : List UInt8) : i64At (i64ToBeBytes x++rest) 0 = .ok x := by
  unfold i64At
  rw [slice_here (i64ToBeBytes_length x), if_pos (i64ToBeBytes_length x), i64OfBeBytes_i64ToBeBytes]

theorem i64At_skip {n : ℕ} (h : block.length = n) (offset : ℕ) :
    i64At (block++rest) (n+offset) = i64At rest offset := by
  unfold i64At
  rw [slice_skip h]

theorem UuidBytes.fromSlice_val (id : UuidBytes) : UuidBytes.fromSlice id.val = .ok id :=
  dif_pos id.2

def layout (front : List UInt8) (vehicleId : UuidBytes) (numbers : List I64) : List UInt8 :=
  front++(vehicleId.val++numbers.flatMap i64ToBeBytes)

section Layout

variable {front front' : List UInt8} {vehicleId vehicleId' : UuidBytes}
  {numbers numbers' : List I64}

theorem i64At_flatMap {i : ℕ} {x : I64} (h : numbers[i]? = some x) :
    i64At (numbers.flatMap i64ToBeBytes) (8*i) = .ok x := by
  induction numbers generalizing i with
  | nil => cases h
  | cons y numbers ih =>
    rw [flatMap_cons]
    cases i with
    | zero =>
      cases h
      exact i64At_here x _
    | succ i =>
      -- eight bytes are skipped with the first number
      rw [Nat.mul_succ, Nat.add_comm, i64At_skip (i64ToBeBytes_length y)]
      exact ih h

theorem layout_length :
    (layout front vehicleId numbers).length = front.length+(16+numbers.length*8) := by
  simp [layout, vehicleId.2]

theorem slice_layout {n : ℕ} (hfront : front.length = n) :
    slice (layout front vehicleId numbers) n 16 = vehicleId.val :=
  (slice_skip hfront 0 16).trans (slice_here vehicleId.2)

theorem i64At_layout {n : ℕ} (hfront : front.length = n) {i : ℕ} {x : I64}
    (h : numbers[i]? = some x) : i64At (layout front vehicleId numbers) (n+(16+8*i)) = .ok x := by
  rw [layout, i64At_skip hfront, i64At_skip vehicleId.2, i64At_flatMap h]

theorem layout_inj (hfront : front.length = front'.length)
    (h : layout front vehicleId numbers = layout front' vehicleId' numbers') :
    front = front' ∧ vehicleId = vehicleId' ∧ numbers = numbers' := by
  obtain ⟨hfront, hrest⟩ := append_inj h hfront
  obtain ⟨hvehicle, hnumbers⟩ := append_inj hrest (vehicleId.2.trans vehicleId'.2.symm)
  refine ⟨hfront, Subtype.ext hvehicle, ext_getElem (by simpa using congrArg length hnumbers) fun i
    hi hi' => ?_⟩
  have hread := i64At_flatMap (getElem?_eq_getElem hi)
  rw [hnumbers, i64At_flatMap (getElem?_eq_getElem hi')] at hread
  exact (Except.ok.inj hread).symm

end Layout

namespace PageQuery

variable {query : PageQuery} {key : CursorKey} {last : PageKey}

theorem cursorPayload_length : (query.cursorPayload last).length = pageCursorPayloadBytes := by
  unfold cursorPayload
  simp [query.vehicleId.2, pageCursorPayloadBytes]

structure InWindow (fromMs toMs : I64) (last : PageKey) : Prop where
  since : fromMs.val ≤ last.1.val
  below : last.1.val < toMs.val
  positive : 0 < last.2.val

theorem not_startsWith_nextCursor :
    TextScan.startsWith (query.nextCursor key last) driveCursorHead = false := by
  change driveCursorHead.toList.isPrefixOf (signedText _ _ _).toList = _
  rw [signedText_toList]
  rfl

theorem cursorPayload_eq :
    query.cursorPayload last = layout [pageCursorVersion, query.kind.cursorCode] query.vehicleId
    [query.scopeId, query.fromMs, query.toMs, last.1, last.2] := by
  simp [cursorPayload, layout]

theorem splitCursor_nextCursor :
    splitCursor pageCursorPayloadBytes pageCursorTagBytes (query.nextCursor key last)
    pageCursorHead = some (query.cursorPayload last,
    key.publicQueryCursorTag (query.cursorPayload last)) := by
  have hhead : '.' ∉ pageCursorHead.toList := by decide
  have hsigned := @splitCursor_signedText _ (query.cursorPayload last)
    (key.publicQueryCursorTag (query.cursorPayload last)) hhead
  rw [cursorPayload_length, key.tag_length] at hsigned
  exact hsigned

theorem decodeCursor_nextCursor (h : InWindow query.fromMs query.toMs last) :
    query.decodeCursor key (query.nextCursor key last) = .ok last := by
  have hread {i : ℕ} {x : I64} (h : [query.scopeId, query.fromMs, query.toMs, last.1, last.2][i]? =
      some x) :=
    @i64At_layout [pageCursorVersion, query.kind.cursorCode] query.vehicleId _ 2 rfl i x h
  have hpayload := @cursorPayload_eq query last
  unfold decodeCursor
  rw [if_neg (fun hlegacy => absurd hlegacy.1 (by simp [not_startsWith_nextCursor])),
    splitCursor_nextCursor]
  dsimp only
  rw [if_neg (by simp [cursorPayload]), hpayload, @slice_layout [_, _] _ _ 2 rfl,
    UuidBytes.fromSlice_val, @hread 0 _ rfl, @hread 1 _ rfl, @hread 2 _ rfl, @hread 3 _ rfl,
      @hread 4 _ rfl]
  change (if _ then _ else _) = _
  simp [layout, h.positive]
  exact ⟨h.since, h.below⟩

end PageQuery

inductive Issue where
  | page (kind : PageKind) (vehicleId : UuidBytes) (scopeId fromMs toMs : I64) (last : PageKey)
  | legacyDrives (vehicleId : UuidBytes) (fromMs toMs : I64) (last : PageKey)

namespace Issue

def head : Issue → String
  | page .. => pageCursorHead
  | legacyDrives .. => driveCursorHead

def payload : Issue → List UInt8
  | page kind vehicleId scopeId fromMs toMs last =>
    layout [pageCursorVersion, kind.cursorCode] vehicleId [scopeId, fromMs, toMs, last.1, last.2]
  | legacyDrives vehicleId fromMs toMs last => layout [1] vehicleId [fromMs, toMs, last.1, last.2]

def text (key : CursorKey) (issue : Issue) : String :=
  signedText issue.head issue.payload (key.publicQueryCursorTag issue.payload)

theorem payload_injective : Function.Injective payload := by
  intro a b h
  have hlength := congrArg length h
  cases a <;> cases b
  case page.page =>
    obtain ⟨hfront, rfl, hnumbers⟩ := layout_inj (by rfl) h
    have hkind := PageKind.cursorCode_injective (cons.inj (cons.inj hfront).2).1
    simp_all [Prod.ext_iff]
  case legacyDrives.legacyDrives =>
    obtain ⟨_, rfl, hnumbers⟩ := layout_inj (by rfl) h
    simp_all [Prod.ext_iff]
  -- the two formats have different lengths
  all_goals simp [payload, layout_length] at hlength

theorem text_injective (key : CursorKey) : Function.Injective (text key) := by
  have hhead (issue : Issue) : '.' ∉ issue.head.toList := by
    rcases issue with _ | _
    · exact (by decide : '.' ∉ pageCursorHead.toList)
    · exact (by decide : '.' ∉ driveCursorHead.toList)
  exact fun a b h => payload_injective (signedText_payload_inj (hhead a) (hhead b) h)

/-- A text holds the tag of a payload only if a cursor with the payload was issued. -/
def Unforged (key : CursorKey) (issued : Set Issue) (cursor : String) : Prop :=
  ∀ head payload, '.' ∉ head.toList → cursor = signedText head payload
    (key.publicQueryCursorTag payload) →
    ∃ issue ∈ issued, issue.payload = payload

theorem Unforged.of_splitCursor {key : CursorKey} {issued : Set Issue} {cursor head : String}
    {payload tag : List UInt8} {payloadBytes tagBytes : ℕ} (h : Unforged key issued cursor)
    (hhead : '.' ∉ head.toList)
    (hsplit : splitCursor payloadBytes tagBytes cursor head = some (payload, tag))
    (htag : key.publicQueryCursorTag payload = tag) :
    ∃ issue ∈ issued, issue.payload = payload ∧ payload.length = payloadBytes ∧
    cursor = signedText head payload (key.publicQueryCursorTag payload) := by
  obtain ⟨hcursor, hlength⟩ := eq_signedText_of_splitCursor hsplit
  rw [← htag] at hcursor
  obtain ⟨issue, hissued, hpayload⟩ := h head payload hhead hcursor
  exact ⟨issue, hissued, hpayload, hlength, hcursor⟩

end Issue

namespace PageQuery

variable {query : PageQuery} {key : CursorKey} {last : PageKey} {issued : Set Issue}
  {cursor : String}

def issue (query : PageQuery) (last : PageKey) : Issue :=
  .page query.kind query.vehicleId query.scopeId query.fromMs query.toMs last

def legacyIssue (query : PageQuery) (last : PageKey) : Issue :=
  .legacyDrives query.vehicleId query.fromMs query.toMs last

theorem text_issue : (query.issue last).text key = query.nextCursor key last := by
  unfold Issue.text issue Issue.payload nextCursor
  rw [cursorPayload_eq]
  rfl

theorem issued_of_decodeLegacyDriveCursor (hunforged : Issue.Unforged key issued cursor)
    (h : query.decodeLegacyDriveCursor key cursor = .ok last) :
    query.legacyIssue last ∈ issued ∧ cursor = (query.legacyIssue last).text key := by
  unfold decodeLegacyDriveCursor at h
  split at h
  · cases h
  rename_i payload tag hsplit
  split_ifs at h with hsigned
  rw [not_or, not_not, not_not] at hsigned
  -- the payload is an issued one, and the lengths of the two formats differ
  obtain ⟨found, hissued, rfl, hlength, hcursor⟩ := hunforged.of_splitCursor (by decide) hsplit
      hsigned.1
  cases found with
  | page => simp [Issue.payload, layout_length, driveCursorPayloadBytes] at hlength
  | legacyDrives vehicleId fromMs toMs issuedFor =>
    have hread {i : ℕ} {x : I64} (h : [fromMs, toMs, issuedFor.1, issuedFor.2][i]? = some x) :=
      @i64At_layout [1] vehicleId _ 1 rfl i x h
    unfold Issue.payload at h
    rw [@slice_layout [1] _ _ 1 rfl, UuidBytes.fromSlice_val, @hread 0 _ rfl, @hread 1 _ rfl,
      @hread 2 _ rfl, @hread 3 _ rfl] at h
    change (if _ then _ else _) = _ at h
    split_ifs at h with hchecks
    simp only [not_or, not_not] at hchecks
    obtain ⟨rfl, rfl, rfl, _⟩ := hchecks
    cases h
    exact ⟨hissued, hcursor⟩

theorem issued_of_decodeCursor (hunforged : Issue.Unforged key issued cursor)
    (h : query.decodeCursor key cursor = .ok last) :
    query.issue last ∈ issued ∧ cursor = query.nextCursor key last ∨ query.kind = .drives ∧
    query.legacyIssue last ∈ issued ∧ cursor = (query.legacyIssue last).text key := by
  unfold decodeCursor at h
  split at h
  · rename_i hlegacy
    exact .inr ⟨hlegacy.2, issued_of_decodeLegacyDriveCursor hunforged h⟩
  split at h
  · cases h
  rename_i payload tag hsplit
  split_ifs at h with hsigned
  rw [not_or, not_not, not_not] at hsigned
  obtain ⟨found, hissued, rfl, hlength, hcursor⟩ := hunforged.of_splitCursor (by decide) hsplit
      hsigned.1
  cases found with
  | legacyDrives => simp [Issue.payload, layout_length, pageCursorPayloadBytes] at hlength
  | page kind vehicleId scopeId fromMs toMs issuedFor =>
    have hread {i : ℕ} {x : I64} (h : [scopeId, fromMs, toMs, issuedFor.1, issuedFor.2][i]? =
        some x) :=
      @i64At_layout [pageCursorVersion, kind.cursorCode] vehicleId _ 2 rfl i x h
    unfold Issue.payload at h
    rw [@slice_layout [_, _] _ _ 2 rfl, UuidBytes.fromSlice_val, @hread 0 _ rfl, @hread 1 _ rfl,
      @hread 2 _ rfl, @hread 3 _ rfl, @hread 4 _ rfl] at h
    change (if _ then _ else _) = _ at h
    split_ifs at h with hchecks
    simp only [not_or, not_not] at hchecks
    -- what was read is what the cursor was issued for, and the checks compare it with the query
    obtain ⟨hkind, rfl, rfl, rfl, rfl, _⟩ := hchecks
    obtain rfl := PageKind.cursorCode_injective (Option.some.inj hkind)
    cases h
    rw [← text_issue]
    exact .inl ⟨hissued, hcursor⟩

/-- A page cursor is accepted only as the text issued for the request, and no two cursors share a
text. -/
theorem accepted_cursor_was_issued {kind : PageKind} {vehicleId : UuidBytes} {scopeId : I64}
    {parameters : PageQueryParameters} (hunforged : Issue.Unforged key issued cursor)
    (hcursor : parameters.cursor = some cursor)
    (h : parse key kind vehicleId scopeId parameters = .ok query) :
    (query.kind = kind ∧ query.vehicleId = vehicleId ∧ query.scopeId = scopeId ∧
      query.fromMs.val = parameters.fromMs.elim 0 (·.val) ∧
      query.toMs.val = parameters.toMs.elim i64Max (·.val)) ∧
    (∃ last, query.after = some last ∧
      (query.issue last ∈ issued ∧ cursor = query.nextCursor key last ∨
      kind = .drives ∧ query.legacyIssue last ∈ issued ∧
        cursor = (query.legacyIssue last).text key)) ∧
    Function.Injective (Issue.text key) := by
  unfold parse at h
  dsimp only at h
  split_ifs at h
  rw [hcursor] at h
  dsimp only at h
  obtain ⟨last, hlast, rfl⟩ := map_eq_ok.mp h
  refine ⟨⟨rfl, rfl, rfl, ?_, ?_⟩, ⟨last, rfl, issued_of_decodeCursor hunforged hlast⟩,
    Issue.text_injective key⟩
  · cases parameters.fromMs <;> rfl
  · cases parameters.toMs <;> rfl

def zeroTag : CursorKey := ⟨fun _ => replicate 32 0, fun _ => rfl⟩

def firstDrives : PageQuery :=
  ⟨.drives, ⟨replicate 16 0, rfl⟩, i64OfBeBytes [], i64OfBeBytes [], i64OfBeBytes [1], 100, none⟩

def firstKey : PageKey := (firstDrives.fromMs, firstDrives.toMs)

theorem accepted_cursor_was_issued_firstDrives :
    parse zeroTag .drives firstDrives.vehicleId firstDrives.scopeId ⟨some firstDrives.fromMs,
        some firstDrives.toMs, none, some (firstDrives.nextCursor zeroTag firstKey)⟩ =
          .ok { firstDrives with after := some firstKey } ∧
      Function.Injective (Issue.text zeroTag) := by
  have hunforged : Issue.Unforged zeroTag {firstDrives.issue firstKey}
      (firstDrives.nextCursor zeroTag firstKey) :=
    fun _ _ hhead htext => ⟨_, rfl, signedText_payload_inj (by decide +kernel) hhead
      (text_issue.trans htext)⟩
  refine (fun h => ⟨h, (accepted_cursor_was_issued hunforged rfl h).2.2⟩) ?_
  unfold parse
  dsimp only
  rw [if_neg (by decide +kernel), if_neg (by decide +kernel)]
  change Except.map _ (firstDrives.decodeCursor _ _) = _
  rw [decodeCursor_nextCursor ⟨by decide +kernel, by decide +kernel, by decide +kernel⟩]
  rfl

end PageQuery

end TeslatlasHub.PublicHistory
