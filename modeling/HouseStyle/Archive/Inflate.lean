import HouseStyle.Archive.Bytes

/-!
Decompression of deflated data: blocks that hold bytes as they are, or literals and copies of
earlier output in a code that is fixed or spelled out in front. A code is given by the lengths of
its words: words of one length are consecutive numbers in the order of their symbols, and shorter
words come before longer ones. Data gives nothing unless it has its last block to the end; what
follows that block is not looked at.
-/

namespace HouseStyle

inductive Halt where
  | atEnd
  | corrupt
deriving DecidableEq

namespace Bits

/-- The bit at a position, the bits of a byte counting from the lowest. -/
def bit (data : ByteArray) (position : Nat) : Except Halt Nat :=
  match Bytes.byte? data (position / 8) with
  | some byte => .ok (byte >>> (position % 8) % 2)
  | none => .error .atEnd

def number (data : ByteArray) (position : Nat) : Nat → Except Halt Nat
  | 0 => .ok 0
  | count + 1 => do
    let low ← bit data position
    let high ← number data (position + 1) count
    .ok (low + 2 * high)

end Bits

/-- The number of words of each length from one on, and the symbols in the order of words. -/
structure Huffman where
  counts : List Nat
  symbols : Array Nat

namespace Huffman

def wordLengths (lengths : List Nat) : List Nat := List.range' 1 (lengths.foldl Nat.max 1)

def ofLengths (lengths : List Nat) : Huffman where
  counts := (wordLengths lengths).map fun length => lengths.count length
  symbols := ((wordLengths lengths).flatMap fun length =>
    (lengths.zipIdx.filter fun entry => entry.1 = length).map Prod.snd).toArray

/-- The words that are left over at the greatest length, or nothing when there are too many. -/
def spare? : List Nat → (room : Nat) → Option Nat
  | [], room => some room
  | count :: longer, room => if 2 * room < count then none else spare? longer (2 * room - count)

def isComplete (code : Huffman) : Bool := spare? code.counts 1 = some 0

/-- Every word is used, or there is at most one, of length one. -/
def isUsable (code : Huffman) : Bool :=
  code.isComplete || (code.symbols.size ≤ 1 && code.counts.tail.all (· = 0))

/-- Reads a word bit by bit: `first` is the first word of the length, `index` its symbol's place. -/
def readWord (symbols : Array Nat) (data : ByteArray) :
    List Nat → (word first index position : Nat) → Except Halt (Nat × Nat)
  | [], _, _, _, _ => .error .corrupt
  | count :: longer, word, first, index, position => do
    let word := word + (← Bits.bit data position)
    if word < first + count then
      match symbols[index + (word - first)]? with
      | some symbol => .ok (symbol, position + 1)
      | none => .error .corrupt
    else
      readWord symbols data longer (2 * word) (2 * (first + count)) (index + count) (position + 1)

def symbol (code : Huffman) (data : ByteArray) (position : Nat) : Except Halt (Nat × Nat) :=
  readWord code.symbols data code.counts 0 0 0 position

end Huffman

end HouseStyle

/-! Blocks. -/

namespace HouseStyle.Inflate

/-- The shortest copy for each length symbol, from 257 on, and its number of extra bits. -/
def lengthCodes : Array (Nat × Nat) :=
  #[(3, 0), (4, 0), (5, 0), (6, 0), (7, 0), (8, 0), (9, 0), (10, 0), (11, 1), (13, 1), (15, 1),
    (17, 1), (19, 2), (23, 2), (27, 2), (31, 2), (35, 3), (43, 3), (51, 3), (59, 3), (67, 4),
    (83, 4), (99, 4), (115, 4), (131, 5), (163, 5), (195, 5), (227, 5), (258, 0)]

def distanceCodes : Array (Nat × Nat) :=
  #[(1, 0), (2, 0), (3, 0), (4, 0), (5, 1), (7, 1), (9, 2), (13, 2), (17, 3), (25, 3), (33, 4),
    (49, 4), (65, 5), (97, 5), (129, 6), (193, 6), (257, 7), (385, 7), (513, 8), (769, 8),
    (1025, 9), (1537, 9), (2049, 10), (3073, 10), (4097, 11), (6145, 11), (8193, 12), (12289, 12),
    (16385, 13), (24577, 13)]

def extended (codes : Array (Nat × Nat)) (symbol : Nat) (data : ByteArray) (position : Nat) :
    Except Halt (Nat × Nat) :=
  match codes[symbol]? with
  | some (base, extra) => do
    let more ← Bits.number data position extra
    .ok (base + more, position + extra)
  | none => .error .corrupt

/-- Copies bytes from a distance back, which may reach into the bytes just copied. -/
def copyBack (distance : Nat) : Nat → ByteArray → ByteArray
  | 0, output => output
  | count + 1, output =>
    copyBack distance count (output.push (output[output.size - distance]?.getD 0))

def copySource (distances : Huffman) (symbol : Nat) (data : ByteArray) (position : Nat) :
    Except Halt (Nat × Nat × Nat) := do
  let (length, position) ← extended lengthCodes (symbol - 257) data position
  let (distanceSymbol, position) ← distances.symbol data position
  let (distance, position) ← extended distanceCodes distanceSymbol data position
  .ok (length, distance, position)

/--
The symbols of a block up to its end: the position after it and the output. Every symbol takes at
least one bit.
-/
def symbols (literals distances : Huffman) (data : ByteArray) :
    (steps position : Nat) → ByteArray → Except Halt (Nat × ByteArray)
  | 0, _, _ => .error .atEnd
  | steps + 1, position, output => do
    let (symbol, position) ← literals.symbol data position
    if symbol < 256 then
      symbols literals distances data steps position (output.push symbol.toUInt8)
    else if symbol = 256 then .ok (position, output)
    else
      let (length, distance, position) ← copySource distances symbol data position
      if output.size < distance then .error .corrupt
      else symbols literals distances data steps position (copyBack distance length output)

def bitLimit (data : ByteArray) : Nat := 8 * data.size + 1

def stored (data : ByteArray) (position : Nat) (output : ByteArray) :
    Except Halt (Nat × ByteArray) :=
  let start := (position + 7) / 8
  match Bytes.u16? data start, Bytes.u16? data (start + 2) with
  | some length, some complement =>
    let stop := start + 4 + length
    if length + complement ≠ 65535 then .error .corrupt
    else if data.size < stop then .error .atEnd
    else .ok (8 * stop, output ++ data.extract (start + 4) stop)
  | _, _ => .error .atEnd

def fixedLiterals : Huffman :=
  .ofLengths (List.replicate 144 8 ++ List.replicate 112 9 ++ List.replicate 24 7 ++
    List.replicate 8 8)

def fixedDistances : Huffman := .ofLengths (List.replicate 30 5)

def lengthOrder : List Nat := [16, 17, 18, 0, 8, 7, 9, 6, 10, 5, 11, 4, 12, 3, 13, 2, 14, 1, 15]

/-- A code that has no words is read as one of two words, which both mean zero. -/
def orZero (code : Huffman) : Huffman :=
  if code.symbols.isEmpty then ⟨[2], #[0, 0]⟩ else code

/-- What a symbol above 15 abbreviates: a run of a length, and its extra bits. -/
def run (found : List Nat) (symbol : Nat) (data : ByteArray) (position : Nat) :
    Except Halt (List Nat × Nat) := do
  if symbol = 16 then
    let more ← Bits.number data position 2
    match found with
    | [] => .error .corrupt
    | last :: _ => .ok (List.replicate (3 + more) last, position + 2)
  else if symbol = 17 then
    let more ← Bits.number data position 3
    .ok (List.replicate (3 + more) 0, position + 3)
  else
    let more ← Bits.number data position 7
    .ok (List.replicate (11 + more) 0, position + 7)

def codeLengths (code : Huffman) (data : ByteArray) (wanted : Nat) :
    (steps position : Nat) → List Nat → Except Halt (List Nat × Nat)
  | 0, _, _ => .error .corrupt
  | steps + 1, position, found => do
    if wanted < found.length then .error .corrupt
    else if found.length = wanted then .ok (found.reverse, position)
    else
      let (symbol, position) ← code.symbol data position
      if symbol < 16 then codeLengths code data wanted steps position (symbol :: found)
      else
        let (lengths, position) ← run found symbol data position
        codeLengths code data wanted steps position (lengths ++ found)

def orderedLengths (data : ByteArray) (position count : Nat) : Except Halt (List Nat) := do
  let given ← (List.range count).mapM fun place => Bits.number data (position + 3 * place) 3
  .ok ((List.range 19).map fun symbol => ((lengthOrder.zip given).lookup symbol).getD 0)

def spelledCodes (data : ByteArray) (position : Nat) : Except Halt (Huffman × Huffman × Nat) := do
  let literalCount := 257 + (← Bits.number data position 5)
  let distanceCount := 1 + (← Bits.number data (position + 5) 5)
  let lengthCount := 4 + (← Bits.number data (position + 10) 4)
  if 286 < literalCount || 30 < distanceCount then .error .corrupt
  else
    let given := Huffman.ofLengths (← orderedLengths data (position + 14) lengthCount)
    let lengthCode := orZero given
    if !lengthCode.isComplete then .error .corrupt
    else
      let wanted := literalCount + distanceCount
      let (lengths, position) ←
        codeLengths lengthCode data wanted (wanted + 1) (position + 14 + 3 * lengthCount) []
      let literals := Huffman.ofLengths (lengths.take literalCount)
      let distances := Huffman.ofLengths (lengths.drop literalCount)
      if lengths[256]? = some 0 || !literals.isUsable || !distances.isUsable then .error .corrupt
      else .ok (literals, distances, position)

def block (kind : Nat) (data : ByteArray) (position : Nat) (output : ByteArray) :
    Except Halt (Nat × ByteArray) :=
  match kind with
  | 0 => stored data position output
  | 1 => symbols fixedLiterals fixedDistances data (bitLimit data) position output
  | 2 => do
    let (literals, distances, position) ← spelledCodes data position
    symbols literals distances data (bitLimit data) position output
  | _ => .error .corrupt

/-- The blocks up to the last one; every block takes at least three bits. -/
def blocks (data : ByteArray) : (steps position : Nat) → ByteArray → Except Halt ByteArray
  | 0, _, _ => .error .atEnd
  | steps + 1, position, output => do
    let last ← Bits.number data position 1
    let kind ← Bits.number data (position + 1) 2
    let (position, output) ← block kind data (position + 3) output
    if last = 1 then .ok output else blocks data steps position output

def decompress (data : ByteArray) : Except Halt ByteArray := blocks data (bitLimit data) 0 .empty

end HouseStyle.Inflate
