/-!
Numbers in a row of bytes, the least significant byte first, and the cyclic redundancy check of a
row, as archives keep it of each entry. Nothing is read past the end.
-/

namespace HouseStyle.Bytes

def byte? (bytes : ByteArray) (position : Nat) : Option Nat := bytes[position]?.map UInt8.toNat

def u16? (bytes : ByteArray) (position : Nat) : Option Nat := do
  let low ← byte? bytes position
  let high ← byte? bytes (position + 1)
  some (low + 256 * high)

def u32? (bytes : ByteArray) (position : Nat) : Option Nat := do
  let low ← u16? bytes position
  let high ← u16? bytes (position + 2)
  some (low + 65536 * high)

def u64? (bytes : ByteArray) (position : Nat) : Option Nat := do
  let low ← u32? bytes position
  let high ← u32? bytes (position + 4)
  some (low + 4294967296 * high)

/-- The bits of a byte, the most significant first. -/
def bits (byte : Nat) : List Bool := (List.range 8).reverse.map byte.testBit

def hasAt (bytes : ByteArray) : (position : Nat) → List UInt8 → Bool
  | _, [] => true
  | position, byte :: rest => bytes[position]? = some byte && hasAt bytes (position + 1) rest

def collect (expected : List UInt8) : (position : Nat) → (found : List Nat) → List UInt8 → List Nat
  | _, found, [] => found.reverse
  | position, found, byte :: rest =>
    let found := if expected.isPrefixOf (byte :: rest) then position :: found else found
    collect expected (position + 1) found rest

def positions (expected row : List UInt8) : List Nat := collect expected 0 [] row

end HouseStyle.Bytes

/-! The redundancy check: 32 bits, reflected. -/

namespace HouseStyle.Checksum

/-- The generator, its lowest coefficient in the highest bit. -/
def generator : UInt32 := 0xEDB88320

def shift (remainder : UInt32) : UInt32 :=
  if remainder &&& 1 = 1 then (remainder >>> 1) ^^^ generator else remainder >>> 1

def shifts : Nat → UInt32 → UInt32
  | 0, remainder => remainder
  | count + 1, remainder => shifts count (shift remainder)

def addByte (remainder : UInt32) (byte : UInt8) : UInt32 :=
  shifts 8 (remainder ^^^ byte.toUInt32)

def ofBytes (bytes : ByteArray) : UInt32 := ~~~ bytes.data.toList.foldl addByte 0xFFFFFFFF

end HouseStyle.Checksum
