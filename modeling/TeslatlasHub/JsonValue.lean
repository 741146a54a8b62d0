import TeslatlasHub.TextScan

namespace JsonValue

inductive Value where
  | null
  | bool (b : Bool)
  | number (q : ℚ)
  | string (s : String)
  | array (items : List Value)
  | object (fields : List (String × Value))

def Map : Type := List (String × Value)

def Map.get (map : Map) (key : String) : Option Value := List.lookup key map

namespace Value

def asObject : Value → Option Map
  | object fields => some fields
  | _ => none

def asStr : Value → Option String
  | string s => some s
  | _ => none

def asBool : Value → Option Bool
  | bool b => some b
  | _ => none

def asF64 : Value → Option ℚ
  | number q => some q
  | _ => none

def asI64 : Value → Option ℤ
  | number q =>
    if q.den = 1 ∧ FixedWidth.i64Min ≤ q.num ∧ q.num ≤ FixedWidth.i64Max then some q.num else none
  | _ => none

end Value

end JsonValue
