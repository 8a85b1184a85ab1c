import HouseStyle.Archive.Directory
import HouseStyle.Archive.Inflate

/-!
Archives of named entries. The directory at the end of an archive is what counts: it says where each
entry is, how it is packed and what its checksum is. Where a name occurs more than once the last
entry of that name is meant.
-/

namespace HouseStyle

structure Archive where
  bytes : ByteArray
  entries : List Archive.Entry

namespace Archive

def localSignature : List UInt8 := [0x50, 0x4B, 0x03, 0x04]

def hasMagic (bytes : ByteArray) : Bool := Bytes.hasAt bytes 0 localSignature

/-- How far an end record leads: nowhere itself, to no directory, or to one that cannot be read. -/
inductive Stage where
  | record
  | search
  | listing
deriving DecidableEq

structure Failure where
  stage : Stage
  fault : Error

def entriesBy (marks : Landmarks) (place : Nat) : Except Failure (List Entry) := do
  let record ← (EndRecord.read marks.bytes place).mapError (Failure.mk .record)
  let directory ← (record.directory marks place).mapError (Failure.mk .search)
  (directory.entries marks.bytes).mapError (Failure.mk .listing)

def faultsAt (stage : Stage) (failures : List Failure) : List Error :=
  (failures.filter fun failure => failure.stage = stage).map Failure.fault

/--
The fault of bytes all of whose end records failed: that of the last directory found, else that of
the last search for one, else that of the first end record.
-/
def fault (failures : List Failure) : Error :=
  ((faultsAt .listing failures).getLast? <|> (faultsAt .search failures).getLast? <|>
    (faultsAt .record failures).head?).getD (.invalid .noEndRecord)

def firstEntries (marks : Landmarks) (failures : List Failure) :
    List Nat → Except Error (List Entry)
  | [] => .error (fault failures.reverse)
  | place :: rest =>
    match entriesBy marks place with
    | .ok entries => .ok entries
    | .error failure => firstEntries marks (failure :: failures) rest

/-- The archive by the last end record that leads to a directory. -/
def ofBytes (bytes : ByteArray) : Except Error Archive :=
  let marks := Landmarks.ofBytes bytes
  (firstEntries marks [] marks.ends.reverse).map fun entries => ⟨bytes, entries⟩

def names (archive : Archive) : Std.TreeSet String := .ofList (archive.entries.map Entry.name)

def contains (archive : Archive) (name : String) : Bool :=
  archive.entries.any fun entry => entry.name = name

/-- The last entry of a name. -/
def find? (archive : Archive) (name : String) : Option Entry :=
  archive.entries.findRev? fun entry => entry.name = name

def localLengths? (bytes : ByteArray) (place : Nat) : Option (Nat × Nat) := do
  some (← Bytes.u16? bytes (place + 26), ← Bytes.u16? bytes (place + 28))

def packed (archive : Archive) (entry : Entry) : Except Error ByteArray := do
  let bytes := archive.bytes
  let (nameLength, extraLength) ←
    require (.invalid (.cutRecord .localHeader)) (localLengths? bytes entry.position)
  if !Bytes.hasAt bytes entry.position localSignature then .error (.invalid .noLocalHeader)
  else
    let start := entry.position + 30 + nameLength + extraLength
    .ok (bytes.extract start (Nat.min bytes.size (start + entry.packedSize)))

def unpacker? (method : Nat) : Option (ByteArray → Except Halt ByteArray) :=
  if method = 0 then some .ok
  else if method = 8 then some Inflate.decompress
  else none

def Damage.ofHalt : Halt → Damage
  | .atEnd => incompleteData
  | .corrupt => corruptData

def checked (checksum : Nat) (bytes : ByteArray) : Except Damage ByteArray :=
  if (Checksum.ofBytes bytes).toNat = checksum then .ok bytes else .error .wrongChecksum

/-- The contents of an entry: refused by the archive, or damaged, or the bytes themselves. -/
def contents (archive : Archive) (entry : Entry) :
    Except Error (Except Damage ByteArray) := do
  if entry.encrypted then .error (.unsupported .password)
  else
    let bytes ← archive.packed entry
    let unpack ← require (.unsupported .method) (unpacker? entry.method)
    if entry.ciphered then .error .wrongPassword
    else .ok (((unpack bytes).mapError Damage.ofHalt).bind (checked entry.checksum))

end Archive

end HouseStyle
