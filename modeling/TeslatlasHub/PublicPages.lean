import TeslatlasHub.HexText
import TeslatlasHub.TextScan
import TeslatlasHub.Uuid

/-! The public history pages: the signed page cursor, the rows a page is read from, and the page
itself, bounded in bytes. -/
namespace TeslatlasHub.PublicHistory

open FixedWidth HexText

def defaultDrivePageLimit : ℕ := 100
def maxDrivePageLimit : ℕ := 500
def defaultChargePageLimit : ℕ := 100
def maxChargePageLimit : ℕ := 500
def defaultPositionPageLimit : ℕ := 1000
def maxPositionPageLimit : ℕ := 2048
def defaultChargeSamplePageLimit : ℕ := 1000
def maxChargeSamplePageLimit : ℕ := 2048

def maxPublicPageBytes : ℕ := 1024*1024

def pageCursorHead : String := "tqp1"
def pageCursorVersion : UInt8 := 1
def pageCursorPayloadBytes : ℕ := 58
def pageCursorTagBytes : ℕ := 32

def driveCursorHead : String := "tqd1"
def driveCursorPayloadBytes : ℕ := 49
def driveCursorTagBytes : ℕ := 32

inductive PageKind where
  | drives
  | charges
  | positions
  | chargeSamples
  deriving DecidableEq

namespace PageKind

def cursorCode : PageKind → UInt8
  | drives => 1
  | charges => 2
  | positions => 3
  | chargeSamples => 4

def defaultLimit : PageKind → ℕ
  | drives => defaultDrivePageLimit
  | charges => defaultChargePageLimit
  | positions => defaultPositionPageLimit
  | chargeSamples => defaultChargeSamplePageLimit

def maxLimit : PageKind → ℕ
  | drives => maxDrivePageLimit
  | charges => maxChargePageLimit
  | positions => maxPositionPageLimit
  | chargeSamples => maxChargeSamplePageLimit

end PageKind

abbrev PageKey := I64 × I64

structure CursorKey where
  publicQueryCursorTag : List UInt8 → List UInt8
  tag_length : ∀ payload, (publicQueryCursorTag payload).length = 32

structure PageQueryParameters where
  (fromMs toMs : Option I64)
  limit : Option ℕ
  cursor : Option String

structure PageQuery where
  kind : PageKind
  vehicleId : UuidBytes
  (scopeId fromMs toMs : I64)
  limit : ℕ
  after : Option PageKey

inductive PageQueryError where
  | timeRange
  | limit
  | cursor
  deriving DecidableEq

def splitCursor (payloadBytes tagBytes : ℕ) (cursor head : String) :
    Option (List UInt8 × List UInt8) :=
  match cursor.toList.splitOn '.' with
  | [foundHead, payloadHex, tagHex] =>
    if foundHead ≠ head.toList ∨ byteLength payloadHex ≠ payloadBytes*2 ∨ byteLength tagHex ≠
        tagBytes*2 ∨
        lowercaseHex payloadHex = false ∨ lowercaseHex tagHex = false then none
    else (decode payloadHex).bind fun payload => (decode tagHex).map fun tag => (payload, tag)
  | _ => none

def slice (payload : List UInt8) (offset length : ℕ) : List UInt8 :=
  (payload.drop offset).take length

def i64At (payload : List UInt8) (offset : ℕ) : Except PageQueryError I64 :=
  if (slice payload offset 8).length = 8 then .ok (i64OfBeBytes (slice payload offset 8)) else
    .error .cursor

def UuidBytes.fromSlice (bytes : List UInt8) : Except PageQueryError UuidBytes :=
  if h : bytes.length = 16 then .ok ⟨bytes, h⟩ else .error .cursor

namespace PageQuery

variable (query : PageQuery)

def cursorPayload (last : PageKey) : List UInt8 :=
  [pageCursorVersion, query.kind.cursorCode]++(query.vehicleId.val++(i64ToBeBytes query.scopeId++
    (i64ToBeBytes query.fromMs++
      (i64ToBeBytes query.toMs++(i64ToBeBytes last.1++i64ToBeBytes last.2)))))

def nextCursor (key : CursorKey) (last : PageKey) : String :=
  let payload := query.cursorPayload last
  let tag := key.publicQueryCursorTag payload
  pageCursorHead++"."++String.ofList (encode payload)++"."++String.ofList (encode tag)

def decodeLegacyDriveCursor (key : CursorKey) (cursor : String) : Except PageQueryError PageKey :=
  match splitCursor driveCursorPayloadBytes driveCursorTagBytes cursor driveCursorHead with
  | none => .error .cursor
  | some (payload, tag) =>
    if key.publicQueryCursorTag payload ≠ tag ∨ payload[0]? ≠ some 1 then .error .cursor
    else do
      let vehicleId ← UuidBytes.fromSlice (slice payload 1 16)
      let fromMs ← i64At payload 17
      let toMs ← i64At payload 25
      let lastStartMs ← i64At payload 33
      let lastDriveId ← i64At payload 41
      if vehicleId ≠ query.vehicleId ∨ fromMs ≠ query.fromMs ∨ toMs ≠ query.toMs ∨
          lastStartMs.val < fromMs.val ∨
          lastStartMs.val ≥ toMs.val ∨ lastDriveId.val ≤ 0 then .error .cursor
      else .ok (lastStartMs, lastDriveId)

def decodeCursor (key : CursorKey) (cursor : String) : Except PageQueryError PageKey :=
  if TextScan.startsWith cursor driveCursorHead = true ∧ query.kind = .drives then
    query.decodeLegacyDriveCursor key cursor
  else
    match splitCursor pageCursorPayloadBytes pageCursorTagBytes cursor pageCursorHead with
    | none => .error .cursor
    | some (payload, tag) =>
      if key.publicQueryCursorTag payload ≠ tag ∨ payload[0]? ≠ some pageCursorVersion then
        .error .cursor
      else do
        let vehicleId ← UuidBytes.fromSlice (slice payload 2 16)
        let scopeId ← i64At payload 18
        let fromMs ← i64At payload 26
        let toMs ← i64At payload 34
        let lastKeyA ← i64At payload 42
        let lastKeyB ← i64At payload 50
        if payload[1]? ≠ some query.kind.cursorCode ∨ vehicleId ≠ query.vehicleId ∨
            scopeId ≠ query.scopeId ∨
            fromMs ≠ query.fromMs ∨ toMs ≠ query.toMs ∨ lastKeyA.val < fromMs.val ∨
              lastKeyA.val ≥ toMs.val ∨
            lastKeyB.val ≤ 0 then .error .cursor
        else .ok (lastKeyA, lastKeyB)

def parse (key : CursorKey) (kind : PageKind) (vehicleId : UuidBytes) (scopeId : I64)
    (parameters : PageQueryParameters) :
    Except PageQueryError PageQuery :=
  let fromMs := parameters.fromMs.getD ⟨0, by decide⟩
  let toMs := parameters.toMs.getD ⟨i64Max, by decide⟩
  if fromMs.val < 0 ∨ toMs.val < 0 ∨ fromMs.val ≥ toMs.val then .error .timeRange
  else
    let limit := parameters.limit.getD kind.defaultLimit
    if limit = 0 ∨ limit > kind.maxLimit then .error .limit
    else
      let query : PageQuery := ⟨kind, vehicleId, scopeId, fromMs, toMs, limit, none⟩
      match parameters.cursor with
      | none => .ok query
      | some cursor =>
        (query.decodeCursor key cursor).map fun after => { query with after := some after }

end PageQuery

class PageItem (T : Type) where
  pageKey : T → PageKey
  /-- The serialised item. -/
  toVec : T → List UInt8

export PageItem (pageKey)

def keyLt (a b : PageKey) : Bool := a.1.val < b.1.val || (a.1 = b.1 && a.2.val < b.2.val)

namespace PageKind

def newestFirst : PageKind → Bool
  | drives => true
  | charges => true
  | positions => false
  | chargeSamples => false

def isBefore (kind : PageKind) (a b : PageKey) : Bool :=
  if kind.newestFirst then keyLt b a else keyLt a b

def unbounded (kind : PageKind) : PageKey :=
  if kind.newestFirst then (⟨i64Max, by decide⟩, ⟨i64Max, by decide⟩) else (⟨-1, by decide⟩,
    ⟨0, by decide⟩)

def maximumFetch : PageKind → ℕ
  | drives => 501
  | charges => 501
  | positions => 2049
  | chargeSamples => 2049

end PageKind

def validatePublicPageArguments (fromMs toMs : I64) (cursor : Option PageKey)
    (limit maximumFetch : ℕ)
    (unbounded : PageKey) : Option PageKey :=
  if fromMs.val < 0 ∨ toMs.val < 0 ∨ fromMs.val ≥ toMs.val then none
  else if limit = 0 ∨ limit > maximumFetch then none
  else if cursor.any (fun k => k.1.val < fromMs.val || k.1.val ≥ toMs.val || k.2.val ≤ 0) then none
  else some (cursor.getD unbounded)

variable {T : Type} [PageItem T]

def storePage (rows : List T) (query : PageQuery) (limit : ℕ) : Option (List T) :=
  (validatePublicPageArguments query.fromMs query.toMs query.after limit
      query.kind.maximumFetch query.kind.unbounded).map fun start =>
      (rows.filter fun r => query.fromMs.val ≤ (pageKey r).1.val && (pageKey r).1.val <
        query.toMs.val &&
        query.kind.isBefore start (pageKey r)).take limit

structure PublicPage (T : Type) where
  items : List T
  nextCursor : Option String

def utf8 (text : String) : List UInt8 := text.toList.flatMap String.utf8EncodeChar

def PublicPage.toVec (page : PublicPage T) : List UInt8 :=
  utf8 "\x7b\"items\":["++[44].intercalate (page.items.map PageItem.toVec)++utf8
    "],\"next_cursor\":"++
    (page.nextCursor.elim (utf8 "null") fun cursor => utf8 "\""++utf8 cursor++utf8 "\"")++utf8
      "\x7d"

structure Retained where
  (rowBytes retained : ℕ)
  cursorAfterRetained : Option String

def retainRows (length : ℕ) (fetchedHasMore : Bool) (nextCursor : PageKey → String) :
    ℕ → Retained → List T → Retained
  | _, kept, [] => kept
  | index, kept, item :: items =>
    let candidateBytes := kept.rowBytes+(if 0 < index then 1 else 0)+(PageItem.toVec item).length
    let cursor := if fetchedHasMore || index+1 < length then some (nextCursor (pageKey item)) else
        none
    let envelopeBytes := (PublicPage.toVec (T := T) ⟨[], cursor⟩).length
    if candidateBytes+envelopeBytes > maxPublicPageBytes then kept
    else retainRows length fetchedHasMore nextCursor (index+1) ⟨candidateBytes, index+1, cursor⟩
      items

def boundedPublicPage (items : List T) (fetchedHasMore : Bool) (nextCursor : PageKey → String) :
    Option (PublicPage T) :=
  let kept := retainRows items.length fetchedHasMore nextCursor 0 ⟨0, 0, none⟩ items
  if kept.retained = 0 ∧ items.isEmpty = false then none
  else some ⟨items.take kept.retained, kept.cursorAfterRetained⟩

def lookaheadLimit (query : PageQuery) : ℕ := query.limit+1

def trimLookahead (rows : List T) (query : PageQuery) : List T × Bool :=
  let hasMore := decide (rows.length > query.limit)
  (if hasMore then rows.take query.limit else rows, hasMore)

inductive PageAnswer (T : Type) where
  | page (page : PublicPage T)
  | invalid (error : PageQueryError)
  | oversize
  | unavailable

def pageRoute (key : CursorKey) (kind : PageKind) (vehicleId : UuidBytes) (scopeId : I64)
    (rows : List T)
    (parameters : PageQueryParameters) : PageAnswer T :=
  match PageQuery.parse key kind vehicleId scopeId parameters with
  | .error error => .invalid error
  | .ok query =>
    match storePage rows query (lookaheadLimit query) with
    | none => .unavailable
    | some fetched =>
      let (items, hasMore) := trimLookahead fetched query
      match boundedPublicPage items hasMore (query.nextCursor key) with
      | none => .oversize
      | some page => .page page

end TeslatlasHub.PublicHistory
