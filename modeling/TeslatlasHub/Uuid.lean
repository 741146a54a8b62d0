import Mathlib

namespace TeslatlasHub

abbrev Uuid := BitVec 128

instance : LawfulBEq Uuid := inferInstance

def Uuid.isNil (u : Uuid) : Bool := u == 0

abbrev UuidBytes := { bytes : List UInt8 // bytes.length = 16 }

end TeslatlasHub
