import HouseStyle.Archive.Bytes
import HouseStyle.Archive.Error
import HouseStyle.Text
import Std.Data.TreeSet

/-!
The directory of an archive and the end records that lead to it. An end record stands after the
directory and says where it begins and how many entries it has; numbers that it has no room for
stand in a larger end record, which a locator right in front of the smaller one leads to. An
archive may have other bytes in front of it: then all positions in it are off by a shift, which the
place of the directory, or of the larger end record, tells.
-/

/-!
Code page 437, in which archives write the names that they do not mark as UTF-8. Its lower half is
ASCII.
-/

namespace HouseStyle.CodePage

def upper : Array Char :=
  ("ÇüéâäàåçêëèïîìÄÅÉæÆôöòûùÿÖÜ¢£¥₧ƒáíóúñÑªº¿⌐¬½¼¡«»░▒▓│┤╡╢╖╕╣║╗╝╜╛┐" ++
    "└┴┬├─┼╞╟╚╔╩╦╠═╬╧╨╤╥╙╘╒╓╫╪┘┌█▄▌▐▀αßΓπΣσµτΦΘΩδ∞φε∩≡±≥≤⌠⌡÷≈°∙·√ⁿ²■\u00A0").toList.toArray

def char (byte : UInt8) : Char :=
  if byte.toNat < 128 then Char.ofNat byte.toNat else upper[byte.toNat - 128]?.getD ' '

def decode (bytes : List UInt8) : String := String.ofList (bytes.map char)

end HouseStyle.CodePage

namespace HouseStyle.Archive

/-- An entry: `position` is that of its own header, and `ciphered` that AES guards its contents. -/
structure Entry where
  rawName : ByteArray
  name : String
  comment : String
  encrypted : Bool
  ciphered : Bool
  method : Nat
  checksum : Nat
  size : Nat
  packedSize : Nat
  position : Nat

def entryText (marked : Bool) (bytes : ByteArray) : String :=
  if marked then Utf8.decodeLossy bytes.toList else CodePage.decode bytes.toList

end HouseStyle.Archive

/-!
The extra fields of an entry. They stand one after another, each with its kind and the length of its
content in front. Some kinds add to what the entry says or replace it; the content of other kinds is
passed over, but has to be there. The row ends where not even a kind is left.
-/

namespace HouseStyle.Archive.Extra

def widened (extra : ByteArray) (length value position : Nat) : Except Error (Nat × Nat) :=
  if 24 ≤ length || value = 0xFFFFFFFF then
    match Bytes.u64? extra position with
    | some wide => .ok (wide, position + 8)
    | none => .error (.invalid .cutField64)
  else .ok (value, position)

/-- Sizes and the position in 64 bits: all three, or those that the entry has no room for. -/
def zip64 (extra : ByteArray) (length start : Nat) (entry : Entry) : Except Error Entry := do
  let (size, next) ← widened extra length entry.size start
  let (packedSize, next) ← widened extra length entry.packedSize next
  let (position, next) ← widened extra length entry.position next
  if start + length < next then .error (.invalid .shortField64)
  else if extra.size < start + length then .error (.invalid .cutField64)
  else .ok { entry with size, packedSize, position }

def ntfsTimes (extra : ByteArray) (length start : Nat) (entry : Entry) : Except Error Entry := do
  if length ≠ 32 then .error (.unsupported .ntfsLength)
  else
    let tag ← require (.unreadable .cut) (Bytes.u16? extra (start + 4))
    if tag ≠ 1 then .error (.unsupported .ntfsTag)
    else
      let timesLength ← require (.unreadable .cut) (Bytes.u16? extra (start + 6))
      if timesLength ≠ 24 then .error (.unsupported .ntfsTimesLength)
      else if extra.size < start + 32 then .error (.unreadable .cut)
      else .ok entry

/--
Times by flags: one of four bytes for each flag, also for flags without a known meaning, or one
alone whatever the flags say.
-/
def timestamp (extra : ByteArray) (length start : Nat) (entry : Entry) : Except Error Entry := do
  if length = 0 then .error (.invalid .emptyTimestamp)
  else
    let flags := Bytes.bits (← require (.unreadable .cut) (Bytes.byte? extra start))
    if length ≠ 5 && length ≠ 1 + 4 * flags.count true then
      .error (.unreadable (.timestampLength length flags))
    else if extra.size < start + length then .error (.unreadable .cut)
    else .ok entry

def cipher (extra : ByteArray) (length start : Nat) (entry : Entry) : Except Error Entry := do
  if length ≠ 7 then .error (.unsupported .cipherLength)
  else
    let version ← require (.unreadable .cut) (Bytes.u16? extra start)
    let vendor ← require (.unreadable .cut) (Bytes.u16? extra (start + 2))
    let strength ← require (.invalid .cutCipher) (Bytes.byte? extra (start + 4))
    let method ← require (.unreadable .cut) (Bytes.u16? extra (start + 5))
    if vendor ≠ 0x4541 then .error (.invalid .cipherVendor)
    else if version ≠ 1 && version ≠ 2 then .error (.invalid .cipherVersion)
    else if strength < 1 || 3 < strength then .error (.invalid .cipherStrength)
    else .ok { entry with method, ciphered := true }

/-- A text in UTF-8 and its bytes, valid for the text whose checksum stands in front of it. -/
def unicodeText (extra : ByteArray) (length start : Nat) (replaced : ByteArray) :
    Except Error (ByteArray × String) := do
  let checksum ← require (.unreadable .cut) (Bytes.u32? extra (start + 1))
  if length < 5 then .error (.invalid .smallUnicodeText)
  else if extra.size < start + length then .error (.unreadable .cut)
  else if (Checksum.ofBytes replaced).toNat ≠ checksum then .error (.invalid .staleUnicodeText)
  else
    let bytes := extra.extract (start + 5) (start + length)
    match Utf8.decode bytes.toList with
    | .ok text => .ok (bytes, text)
    | .error _ => .error (.invalid .malformedUnicodeText)

def unicodeComment (extra : ByteArray) (length start : Nat) (entry : Entry) :
    Except Error Entry := do
  let (_, comment) ← unicodeText extra length start entry.comment.toUTF8
  .ok { entry with comment }

def unicodeName (extra : ByteArray) (length start : Nat) (entry : Entry) :
    Except Error Entry := do
  let (rawName, name) ← unicodeText extra length start entry.rawName
  .ok { entry with rawName, name }

def passedOver (extra : ByteArray) (length start : Nat) (entry : Entry) : Except Error Entry :=
  if extra.size < start + length then .error (.invalid .cutFieldContent) else .ok entry

def field (kind : Nat) (extra : ByteArray) (length start : Nat) (entry : Entry) :
    Except Error Entry :=
  match kind with
  | 0x0001 => zip64 extra length start entry
  | 0x000A => ntfsTimes extra length start entry
  | 0x5455 => timestamp extra length start entry
  | 0x6375 => unicodeComment extra length start entry
  | 0x7075 => unicodeName extra length start entry
  | 0x9901 => cipher extra length start entry
  | _ => passedOver extra length start entry

/-- The entry by the fields from a position on; every field takes at least four bytes. -/
def fields (extra : ByteArray) : (steps position : Nat) → Entry → Except Error Entry
  | 0, _, entry => .ok entry
  | steps + 1, position, entry =>
    match Bytes.u16? extra position with
    | none => .ok entry
    | some kind => do
      let length ← require (.invalid .cutFieldHead) (Bytes.u16? extra (position + 2))
      let start := position + 4
      fields extra steps (start + length) (← field kind extra length start entry)

def apply (extra : ByteArray) (entry : Entry) : Except Error Entry :=
  fields extra extra.size 0 entry

end HouseStyle.Archive.Extra

/-! Entries and the records that lead to them. -/

namespace HouseStyle.Archive

def directorySignature : List UInt8 := [0x50, 0x4B, 0x01, 0x02]

def endSignature : List UInt8 := [0x50, 0x4B, 0x05, 0x06]

def endSignature64 : List UInt8 := [0x50, 0x4B, 0x06, 0x06]

def locatorSignature : List UInt8 := [0x50, 0x4B, 0x06, 0x07]

structure Landmarks where
  bytes : ByteArray
  entries : Std.TreeSet Nat
  ends64 : List Nat
  ends : List Nat

namespace Landmarks

def ofBytes (bytes : ByteArray) : Landmarks :=
  let row := bytes.data.toList
  { bytes
    entries := .ofList (Bytes.positions directorySignature row)
    ends64 := Bytes.positions endSignature64 row
    ends := Bytes.positions endSignature row }

def entry? (marks : Landmarks) (start stop : Nat) : Option Nat :=
  (marks.entries.getGE? start).filter fun place => place < stop

def ends64Between (marks : Landmarks) (start stop : Nat) : List Nat :=
  marks.ends64.filter fun place => start ≤ place && place < stop

end Landmarks

/-- The method of entries that AES guards, in place of the method they are packed by. -/
def cipherMethod : Nat := 99

structure EntryHead where
  flags : Nat
  method : Nat
  checksum : Nat
  packedSize : Nat
  size : Nat
  nameLength : Nat
  extraLength : Nat
  commentLength : Nat
  position : Nat

def EntryHead.at? (bytes : ByteArray) (place : Nat) : Option EntryHead := do
  some {
    flags := ← Bytes.u16? bytes (place + 8)
    method := ← Bytes.u16? bytes (place + 10)
    checksum := ← Bytes.u32? bytes (place + 16)
    packedSize := ← Bytes.u32? bytes (place + 20)
    size := ← Bytes.u32? bytes (place + 24)
    nameLength := ← Bytes.u16? bytes (place + 28)
    extraLength := ← Bytes.u16? bytes (place + 30)
    commentLength := ← Bytes.u16? bytes (place + 32)
    position := ← Bytes.u32? bytes (place + 42) }

def EntryHead.entry (head : EntryHead) (rawName comment : ByteArray) : Entry where
  rawName := rawName
  name := entryText (head.flags.testBit 11) rawName
  comment := entryText (head.flags.testBit 11) comment
  encrypted := head.flags.testBit 0
  ciphered := false
  method := head.method
  checksum := head.checksum
  size := head.size
  packedSize := head.packedSize
  position := head.position

def Entry.shifted (entry : Entry) (shift : Nat) : Except Error Entry :=
  if entry.method = cipherMethod && !entry.ciphered then .error (.invalid .noCipher)
  else if 0xFFFFFFFFFFFFFFFF < entry.position + shift then .error (.invalid .farEntry)
  else .ok { entry with position := entry.position + shift }

def entryAt (bytes : ByteArray) (shift place : Nat) : Except Error (Entry × Nat) := do
  let head ← require (.invalid (.cutRecord .directoryEntry)) (EntryHead.at? bytes place)
  let extraPlace := place + 46 + head.nameLength
  let commentPlace := extraPlace + head.extraLength
  let next := commentPlace + head.commentLength
  if !Bytes.hasAt bytes place directorySignature then .error (.invalid .noDirectoryEntry)
  else if bytes.size < next then .error (.invalid .longText)
  else
    let rawName := bytes.extract (place + 46) extraPlace
    let extra := bytes.extract extraPlace commentPlace
    let comment := bytes.extract commentPlace next
    let entry ← Extra.apply extra (head.entry rawName comment)
    .ok (← entry.shifted shift, next)

def entriesFrom (bytes : ByteArray) (shift : Nat) : (count place : Nat) → Except Error (List Entry)
  | 0, _ => .ok []
  | count + 1, place => do
    let (entry, place) ← entryAt bytes shift place
    let rest ← entriesFrom bytes shift count place
    .ok (entry :: rest)

/-- A directory that was found, with the reason to refuse it all the same, if there is one. -/
structure Directory where
  start : Nat
  shift : Nat
  count : Nat
  refusal? : Option Error

def Directory.entries (directory : Directory) (bytes : ByteArray) : Except Error (List Entry) :=
  match directory.refusal? with
  | some refusal => .error refusal
  | none => entriesFrom bytes directory.shift directory.count directory.start

def partsRefusal? (part directoryPart : Nat) : Option Error :=
  if part = directoryPart then none else some (.unsupported .manyParts)

structure Locator where
  part : Nat
  endPosition : Nat
  partCount : Nat

def Locator.at? (bytes : ByteArray) (place : Nat) : Option Locator := do
  if Bytes.hasAt bytes place locatorSignature then
    some {
      part := ← Bytes.u32? bytes (place + 4)
      endPosition := ← Bytes.u64? bytes (place + 8)
      partCount := ← Bytes.u32? bytes (place + 16) }
  else none

/-- A larger end record; `length` leaves out its first twelve bytes. -/
structure EndRecord64 where
  length : Nat
  part : Nat
  directoryPart : Nat
  countHere : Nat
  count : Nat
  directoryPosition : Nat

namespace EndRecord64

def at? (bytes : ByteArray) (place : Nat) : Option EndRecord64 := do
  some {
    length := ← Bytes.u64? bytes (place + 4)
    part := ← Bytes.u32? bytes (place + 16)
    directoryPart := ← Bytes.u32? bytes (place + 20)
    countHere := ← Bytes.u64? bytes (place + 24)
    count := ← Bytes.u64? bytes (place + 32)
    directoryPosition := ← Bytes.u64? bytes (place + 48) }

def refusal? (record : EndRecord64) : Option Error :=
  if record.count < record.countHere then some (.invalid .moreHereThanInAll)
  else partsRefusal? record.part record.directoryPart

/-- The directory by the record at a place, which must fill all the room up to its locator. -/
def directory (bytes : ByteArray) (locator : Locator) (locatorPlace place : Nat) :
    Except Error Directory := do
  let record ← require (.invalid (.cutRecord .endRecord64)) (at? bytes place)
  let room := locatorPlace - place
  let shift := place - locator.endPosition
  if record.length < 44 then .error (.invalid .smallEndRecord64)
  else if room < record.length + 12 then .error (.invalid .longEndRecord64)
  else if record.directoryPart ≠ locator.part then .error (.invalid .otherPart)
  else if record.length + 12 < room then .error (.invalid .unequalLength)
  else if place < 46 * record.count + record.directoryPosition then .error (.invalid .unequalCount)
  else .ok ⟨record.directoryPosition + shift, shift, record.count, record.refusal?⟩

def firstDirectory (attempt : Nat → Except Error Directory) (fault : Error) :
    List Nat → Except Error Directory
  | [] => .error fault
  | place :: rest =>
    match attempt place with
    | .ok directory => .ok directory
    | .error fault => firstDirectory attempt fault rest

/-- The directory by the record that a locator leads to, which stands no earlier than it says. -/
def located (marks : Landmarks) (locator : Locator) (locatorPlace : Nat) :
    Except Error Directory :=
  if locatorPlace ≤ locator.endPosition then .error (.invalid .misplacedEndRecord64)
  else if 1 < locator.partCount then .error (.invalid .manyParts)
  else
    firstDirectory (directory marks.bytes locator locatorPlace) (.invalid .noEndRecord64)
      (marks.ends64Between locator.endPosition locatorPlace)

end EndRecord64

structure EndRecord where
  part : Nat
  directoryPart : Nat
  countHere : Nat
  count : Nat
  directoryPosition : Nat
  commentLength : Nat

namespace EndRecord

def at? (bytes : ByteArray) (place : Nat) : Option EndRecord := do
  some {
    part := ← Bytes.u16? bytes (place + 4)
    directoryPart := ← Bytes.u16? bytes (place + 6)
    countHere := ← Bytes.u16? bytes (place + 8)
    count := ← Bytes.u16? bytes (place + 10)
    directoryPosition := ← Bytes.u32? bytes (place + 16)
    commentLength := ← Bytes.u16? bytes (place + 20) }

def read (bytes : ByteArray) (place : Nat) : Except Error EndRecord := do
  let record ← require (.invalid (.cutRecord .endRecord)) (at? bytes place)
  if bytes.size < place + 22 + record.commentLength then .error (.invalid .longComment)
  else .ok record

def locator? (record : EndRecord) (bytes : ByteArray) (place : Nat) : Option Locator :=
  if (record.count = 0xFFFF || record.directoryPosition = 0xFFFFFFFF) && 20 ≤ place then
    Locator.at? bytes (place - 20)
  else none

/--
The directory that a record speaks of itself. It begins at the first entry found from the place it
is said to be at; one without entries is where it must end.
-/
def ownDirectory (record : EndRecord) (marks : Landmarks) (place : Nat) :
    Except Error Directory :=
  let said := record.directoryPosition
  let refusal? := partsRefusal? record.part record.directoryPart
  if record.count = 0 then
    .ok ⟨said + (place - said), place - said, record.countHere, refusal?⟩
  else if place ≤ said then .error (.invalid .misplacedDirectory)
  else
    match marks.entry? said place with
    | none => .error (.invalid .noDirectory)
    | some start => .ok ⟨start, start - said, record.countHere, refusal?⟩

def directory (record : EndRecord) (marks : Landmarks) (place : Nat) : Except Error Directory :=
  match record.locator? marks.bytes place with
  | some locator => EndRecord64.located marks locator (place - 20)
  | none => record.ownDirectory marks place

end EndRecord

end HouseStyle.Archive
