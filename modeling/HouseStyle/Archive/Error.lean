/-!
Why bytes are no archive, or an entry of one cannot be got at, and in which words that is reported.
-/

namespace HouseStyle.Archive

inductive Record where
  | endRecord
  | endRecord64
  | directoryEntry
  | localHeader
deriving DecidableEq

def Record.name : Record → String
  | endRecord => "zip::spec::Zip32CDEBlock"
  | endRecord64 => "zip::spec::Zip64CDEBlock"
  | directoryEntry => "zip::types::ZipCentralEntryBlock"
  | localHeader => "zip::types::ZipLocalEntryBlock"

inductive Flaw where
  | noEndRecord
  | cutRecord (record : Record)
  | longComment
  | misplacedDirectory
  | noDirectory
  | misplacedEndRecord64
  | manyParts
  | noEndRecord64
  | smallEndRecord64
  | longEndRecord64
  | otherPart
  | unequalLength
  | unequalCount
  | moreHereThanInAll
  | noDirectoryEntry
  | longText
  | farEntry
  | cutFieldHead
  | cutFieldContent
  | cutField64
  | shortField64
  | emptyTimestamp
  | cutCipher
  | cipherVendor
  | cipherVersion
  | cipherStrength
  | noCipher
  | smallUnicodeText
  | staleUnicodeText
  | malformedUnicodeText
  | noLocalHeader
deriving DecidableEq

def Flaw.message : Flaw → String
  | noEndRecord => "Could not find EOCD"
  | cutRecord record => "Unexpected end of " ++ record.name
  | longComment => "EOCD comment exceeds file boundary"
  | misplacedDirectory => "Invalid CDFH offset in EOCD"
  | noDirectory => "No CDFH found"
  | misplacedEndRecord64 => "Invalid EOCD64 Locator CD offset"
  | manyParts => "Multi-disk ZIP files are not supported"
  | noEndRecord64 => "Could not find EOCD64"
  | smallEndRecord64 => "Low EOCD64 record size"
  | longEndRecord64 => "EOCD64 extends beyond EOCD64 locator"
  | otherPart => "Invalid EOCD64: inconsistency with Locator data"
  | unequalLength => "Invalid EOCD64: inconsistent length"
  | unequalCount => "Invalid EOCD64: inconsistent number of files"
  | moreHereThanInAll =>
    "ZIP64 footer indicates more files on this disk than in the whole archive"
  | noDirectoryEntry => "Invalid Central Directory header"
  | longText => "Variable-length field extends beyond file boundary"
  | farEntry => "Archive header is too large"
  | cutFieldHead => "Extra field header truncated"
  | cutFieldContent => "Extra field content truncated"
  | cutField64 => "ZIP64 extra field truncated"
  | shortField64 => "ZIP64 extra-data field is the wrong length"
  | emptyTimestamp => "Extended timestamp field is empty"
  | cutCipher => "AES extra field truncated"
  | cipherVendor => "Invalid AES vendor"
  | cipherVersion => "Invalid AES vendor version"
  | cipherStrength => "Invalid AES encryption strength"
  | noCipher => "AES encryption without AES extra data field"
  | smallUnicodeText => "Unicode extra field is too small"
  | staleUnicodeText => "CRC32 checksum failed on Unicode extra field"
  | malformedUnicodeText => "Invalid UTF-8"
  | noLocalHeader => "Invalid local file header"

inductive Feature where
  | manyParts
  | ntfsLength
  | ntfsTag
  | ntfsTimesLength
  | cipherLength
  | method
  | password
deriving DecidableEq

def Feature.message : Feature → String
  | manyParts => "Support for multi-disk files is not implemented"
  | ntfsLength => "NTFS extra field has an unsupported length"
  | ntfsTag => "NTFS extra field has an unsupported attribute tag"
  | ntfsTimesLength => "NTFS extra field has an unsupported attribute size"
  | cipherLength => "AES extra data field has an unsupported length"
  | method => "Compression method not supported"
  | password => "Password required to decrypt file"

/-- Why an extra field cannot be read; flags are a bit each, the most significant first. -/
inductive FieldFault where
  | cut
  | timestampLength (length : Nat) (flags : List Bool)
deriving DecidableEq

def FieldFault.message : FieldFault → String
  | cut => "failed to fill whole buffer"
  | timestampLength length flags =>
    let digits := flags.map fun flag => if flag then '1' else '0'
    "flags and len don't match in extended timestamp field len=" ++
      String.ofList (Nat.toDigits 10 length) ++ " flags=" ++ String.ofList digits

inductive Error where
  | invalid (flaw : Flaw)
  | unsupported (feature : Feature)
  | unreadable (fault : FieldFault)
  | wrongPassword
deriving DecidableEq

def Error.message : Error → String
  | invalid flaw => "invalid Zip archive: " ++ flaw.message
  | unsupported feature => "unsupported Zip archive: " ++ feature.message
  | unreadable fault => "i/o error: " ++ fault.message
  | wrongPassword => "provided password is incorrect"

inductive Damage where
  | wrongChecksum
  | corruptData
  | incompleteData
deriving DecidableEq

def Damage.message : Damage → String
  | wrongChecksum => "Invalid checksum"
  | corruptData => "corrupt deflate stream"
  | incompleteData => "incomplete deflate stream"

def require {α : Type} (error : Error) : Option α → Except Error α
  | some value => .ok value
  | none => .error error

end HouseStyle.Archive
