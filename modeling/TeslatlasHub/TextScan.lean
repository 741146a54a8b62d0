import TeslatlasHub.FixedWidth

namespace TextScan

open FixedWidth

def isWhitespace (c : Char) : Bool :=
  let n := c.toNat
  (9 ≤ n && n ≤ 13) || n == 0x20 || n == 0x85 || n == 0xA0 || n == 0x1680 ||
    (0x2000 ≤ n && n ≤ 0x200A) || n == 0x2028 || n == 0x2029 || n == 0x202F || n == 0x205F ||
    n == 0x3000

def trimChars (cs : List Char) : List Char :=
  ((cs.dropWhile isWhitespace).reverse.dropWhile isWhitespace).reverse

variable (text : String)

def trim : String := String.ofList (trimChars text.toList)

def toAsciiLowercase : String := String.ofList (text.toList.map Char.toLower)
def toAsciiUppercase : String := String.ofList (text.toList.map Char.toUpper)

def eqIgnoreAsciiCase (a b : String) : Bool :=
  a.toList.map Char.toLower == b.toList.map Char.toLower

def stripHeadIgnoreAsciiCase (text head : String) : Option String :=
  let n := head.toList.length
  if eqIgnoreAsciiCase (String.ofList (text.toList.take n)) head then
    some (String.ofList (text.toList.drop n))
  else none

def startsWith (text head : String) : Bool := head.toList.isPrefixOf text.toList

def firstToken : Option (List Char) :=
  let token := (text.toList.dropWhile isWhitespace).takeWhile (fun c => !isWhitespace c)
  if token.isEmpty then none else some token

def digitsToNat (digits : List Char) : ℕ :=
  digits.foldl (fun n c => 10*n + (c.toNat - '0'.toNat)) 0

def spanDigits (cs : List Char) : List Char × List Char := cs.span Char.isDigit

def splitSign : List Char → Bool × List Char
  | '-' :: cs => (true, cs)
  | '+' :: cs => (false, cs)
  | cs => (false, cs)

def parseI64 : Option ℤ :=
  let (negative, digits) := splitSign text.toList
  if digits.isEmpty || !digits.all Char.isDigit then none
  else
    let magnitude : ℤ := digitsToNat digits
    let value := if negative then -magnitude else magnitude
    if i64Min ≤ value ∧ value ≤ i64Max then some value else none

def parseExponent : List Char → Option ℤ
  | [] => some 0
  | c :: cs =>
    if c == 'e' || c == 'E' then
      let (negative, digits) := splitSign cs
      if digits.isEmpty || !digits.all Char.isDigit then none
      else some (if negative then -(digitsToNat digits) else digitsToNat digits)
    else none

def parseF64 : Option ℚ :=
  let (negative, cs) := splitSign text.toList
  let (whole, rest) := spanDigits cs
  let (fraction, rest) := match rest with
    | '.' :: tail => spanDigits tail
    | _ => ([], rest)
  if whole.isEmpty && fraction.isEmpty then none
  else
    match parseExponent rest with
    | none => none
    | some exponent =>
      let digits : ℚ := (digitsToNat (whole++fraction) : ℚ)/10^fraction.length
      let magnitude := digits*(10:ℚ)^exponent
      let value := if negative then -magnitude else magnitude
      if finiteF64 value then some value else none

end TextScan
