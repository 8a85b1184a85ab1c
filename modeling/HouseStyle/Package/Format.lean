import HouseStyle.Package.Basic

/-!
Telling whether something is a document package without opening its parts: an archive by its first
bytes whose directory lists the part for the text.
-/

namespace HouseStyle

structure Format where
  partCount : Nat
  hasStyles : Bool
deriving DecidableEq

namespace Format

def text (format : Format) : String :=
  String.ofList ("DOCX (".toList ++ Nat.toDigits 10 format.partCount ++ " parts)".toList)

def ofArchive? (archive : Archive) : Option Format :=
  if archive.contains Package.textPart then
    some ⟨archive.names.size, archive.contains Package.stylesPart⟩
  else none

/-- Bytes that are no archive, and archives without the text, are refused alike. -/
def inspect (bytes : ByteArray) : Except PackageError Format :=
  match Archive.ofBytes bytes with
  | .ok archive =>
    match ofArchive? archive with
    | some format => .ok format
    | none => .error .unknownFormat
  | .error _ => .error .unknownFormat

def ofBytes (bytes : ByteArray) : Except PackageError Format :=
  if Archive.hasMagic bytes then inspect bytes else .error .unknownFormat

def header? (contents : ByteArray) : Option ByteArray :=
  if 4 ≤ contents.size then some (contents.extract 0 4) else none

/-- A file is asked for its header alone before it is looked at from the start. -/
def ofFile (contents : ByteArray) : Except PackageError Format :=
  match header? contents with
  | some header => if Archive.hasMagic header then inspect contents else .error .unknownFormat
  | none => .error .unknownFormat

-- Only an open file can fail to have a format: what cannot be opened is a fault of the input.
def ofSource : Source → Except PackageError Format
  | .missing => .error (.input .noSuchFile)
  | .directory => .error .unknownFormat
  | .unopened reason => .error (.input (.system reason))
  | .unread _ => .error .unknownFormat
  | .file contents => ofFile contents

end Format

end HouseStyle
