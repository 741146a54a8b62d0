import TeslatlasHub.LifecycleSession

namespace TeslatlasHub.Lifecycle

open FixedWidth TextScan JsonValue

def kMileKm : ℚ := 1609344/1000000

def kEarliestMs : ℤ := 1325376000000

def kSkewMs : ℤ := 60000

def maxFieldTextChars : ℕ := 255
def smallintMin : ℤ := -32768
def kSmallintMax : ℤ := 32767

def milesToKm (miles : ℚ) : ℚ := miles*kMileKm
def milesToKmRounded (miles : ℚ) (precision : ℕ) : ℚ := roundToPrecision (milesToKm miles) precision
def mphToKmh (mph : ℚ) : ℤ := clampI64 (roundHalfAway (mph*kMileKm))

def objectField (map : Map) (key : String) : Option Map := (map.get key).bind Value.asObject

def floatField (map : Map) (key : String) : Option ℚ :=
  match map.get key with
  | some (.number q) => some q
  | some (.string text) => parseF64 (trim text)
  | _ => none

def intField (map : Map) (key : String) : Option ℤ :=
  (floatField map key).bind fun number =>
    let rounded := roundHalfAway number
    if |rounded| < 2^63 then some rounded else none

def boolField (map : Map) (key : String) : Option Bool := (map.get key).bind Value.asBool

def textField (fields : Option Map) (key : String) : Option String :=
  (((fields.bind (·.get key)).bind Value.asStr).map trim).filter (· ≠ "")

variable (map : Option Map)

def boundedTextField (key : String) : Option String :=
  (textField map key).filter (·.toList.length ≤ maxFieldTextChars)

def scaledField (key : String) (precision : ℕ) (min max : ℚ) : Option ℚ :=
  ((map.bind (floatField · key)).map (roundToPrecision · precision)).filter
    fun value => decide (min ≤ value ∧ value ≤ max)

def milesField (key : String) (precision : ℕ) (min max : ℚ) : Option ℚ :=
  ((map.bind (floatField · key)).map (milesToKmRounded · precision)).filter
    fun value => decide (min ≤ value ∧ value ≤ max)

def rangedIntField (key : String) (min max : ℤ) : Option ℤ :=
  (map.bind (intField · key)).filter fun value => decide (min ≤ value ∧ value ≤ max)

def timestampField (fields : Map) (key : String) : Option ℤ :=
  (fields.get key).bind fun value =>
    let integer := value.asI64
    let text := (value.asStr.map trim).bind parseI64
    let float := value.asF64.bind fun number =>
      if 1 ≤ number ∧ number ≤ 2^63 ∧ number.den = 1 then some (clampI64 number.num) else none
    ((integer.or text).or float).filter (0 < ·)

def groupTime (group : Option Map) (observedAtMs : ℤ) : ℤ :=
  let latest := saturatingAdd observedAtMs kSkewMs
  ((group.bind (timestampField · "timestamp")).filter
    fun timestamp => decide (kEarliestMs ≤ timestamp ∧ timestamp ≤ latest)).getD observedAtMs

def validCoordinates (latitude longitude : Option ℚ) : Option (ℚ × ℚ) :=
  match latitude, longitude with
  | some latitude, some longitude =>
    if -90 ≤ latitude ∧ latitude ≤ 90 ∧ -180 ≤ longitude ∧ longitude ≤ 180 then
      some (latitude, longitude)
    else none
  | _, _ => none

namespace ProjectionCarPatch

def isEmpty (patch : ProjectionCarPatch) : Bool :=
  patch.name.isNone && patch.model.isNone && patch.vin.isNone && patch.trimBadging.isNone &&
    patch.marketingName.isNone && patch.exteriorColor.isNone && patch.wheelType.isNone &&
    patch.spoilerType.isNone && patch.firmwareVersion.isNone

def mergeNewer (patch newer : ProjectionCarPatch) : ProjectionCarPatch where
  name := newer.name.or patch.name
  model := newer.model.or patch.model
  vin := newer.vin.or patch.vin
  trimBadging := newer.trimBadging.or patch.trimBadging
  marketingName := newer.marketingName.or patch.marketingName
  exteriorColor := newer.exteriorColor.or patch.exteriorColor
  wheelType := newer.wheelType.or patch.wheelType
  spoilerType := newer.spoilerType.or patch.spoilerType
  firmwareVersion := newer.firmwareVersion.or patch.firmwareVersion

end ProjectionCarPatch

def normalizeTeslaModelCode (value : String) : String :=
  let trimmed := trim value
  let compact := String.ofList ((toAsciiLowercase trimmed).toList.filter (· ≠ ' '))
  if startsWith compact "models" || compact == "lychee" then "S"
  else if startsWith compact "model3" then "3"
  else if startsWith compact "modelx" || compact == "tamarind" then "X"
  else if startsWith compact "modely" then "Y"
  else if startsWith compact "cybertruck" then "Cybertruck"
  else trimmed

def normalizeTeslaTrim (value : String) : String := toAsciiUppercase (trim value)

def vinModelYear (c : Char) : Option ℕ :=
  if '1' ≤ c ∧ c ≤ '9' then some (2030+(c.toNat - '0'.toNat))
  else
    List.lookup c [('A', 2010), ('B', 2011), ('C', 2012), ('D', 2013), ('E', 2014), ('F', 2015),
      ('G', 2016), ('H', 2017), ('J', 2018), ('K', 2019), ('L', 2020), ('M', 2021), ('N', 2022),
      ('P', 2023), ('R', 2024), ('S', 2025), ('T', 2026), ('V', 2027), ('W', 2028), ('X', 2029),
      ('Y', 2030)]

def model3BaseTrim (vin : Option String) : String :=
  match vin.filter fun vin => vin.toList.length == 17 && vin.toList.all (·.toNat < 128) with
  | none => "SR+"
  | some vin =>
    match (vin.toList[9]?).bind vinModelYear with
    | none => "SR+"
    | some year => if 2022 ≤ year then "RWD" else "SR+"

def deriveTeslaMarketingName (model : String) (trimBadging rawCarType vin : Option String) :
    Option String :=
  let model := normalizeTeslaModelCode model
  let raw := toAsciiLowercase (rawCarType.getD "")
  match model, trimBadging.map normalizeTeslaTrim with
  | "S", some "100D" =>
    if raw == "lychee" then some "LR" else if raw == "models2" then some "LR+" else none
  | "S", some "P100D" => if raw == "lychee" then some "Plaid" else none
  | "3", some "P74D" => some "LR AWD Performance"
  | "3", some "74D" => some "LR AWD"
  | "3", some "74" => some "LR"
  | "3", some "62" => some "MR"
  | "3", some "50" => some (model3BaseTrim vin)
  | "X", some "100D" => if raw == "tamarind" then some "LR" else none
  | "X", some "P100D" => if raw == "tamarind" then some "Plaid" else none
  | "Y", some "P74D" => some "LR AWD Performance"
  | "Y", some "74D" => some "LR AWD"
  | "Y", some "74" => some "LR"
  | "Y", some "50" => some "SR"
  | _, _ => none

end TeslatlasHub.Lifecycle
