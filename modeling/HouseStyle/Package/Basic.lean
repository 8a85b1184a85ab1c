import HouseStyle.Archive.Basic
import HouseStyle.Text
import HouseStyle.Word
import HouseStyle.Xml.Error
import HouseStyle.Xml.Reader

/-!
Packages: archives with a part for the text and, usually, one for the styles. A package is opened by
taking both parts out as text, the text part first, and then parsed into a document, the styles
first. Lenient parsing does without styles that are no XML; nothing else is forgiven. What goes
wrong is reported in words.
-/

namespace HouseStyle

/--
Why bytes cannot be had: nothing is there, it is no file, the system has another reason, in words of
its own, or the archive is damaged.
-/
inductive InputFault where
  | noSuchFile
  | isDirectory
  | system (reason : String)
  | damaged (damage : Archive.Damage)
deriving DecidableEq

def InputFault.message : InputFault → String
  | noSuchFile => "No such file or directory (os error 2)"
  | isDirectory => "Is a directory (os error 21)"
  | system reason => reason
  | damaged damage => damage.message

inductive PackageError where
  | fileNotFound
  | input (fault : InputFault)
  | unknownFormat
  | archive (fault : Archive.Error)
  | missingPart (name : String)
  | markup (fault : Xml.Error)
  | encoding (fault : Utf8.Error)
deriving DecidableEq

def PackageError.message : PackageError → String
  | fileNotFound => "File not found"
  | input fault => "I/O error: " ++ fault.message
  | unknownFormat => "Unknown file format: not a valid DOCX package"
  | archive fault => "Package error: " ++ fault.message
  | missingPart name => "Missing required part: " ++ name
  | markup fault => "XML parsing error: " ++ fault.message
  | encoding fault => "Encoding error: " ++ fault.message

/--
What is found under a path. The system may refuse to open what is there, or to read what it has
opened, and says why.
-/
inductive Source where
  | missing
  | directory
  | unopened (reason : String)
  | unread (reason : String)
  | file (bytes : ByteArray)

structure ParseOptions where
  lenient : Bool
  tables : Bool
deriving DecidableEq

def ParseOptions.standard : ParseOptions := ⟨false, true⟩

structure Package where
  text : String
  styles : Option String
deriving DecidableEq

namespace Package

def textPart : String := "word/document.xml"

def stylesPart : String := "word/styles.xml"

def withoutMark : List UInt8 → List UInt8
  | 0xEF :: 0xBB :: 0xBF :: rest => rest
  | bytes => bytes

def decodePart (contents : ByteArray) : Except PackageError String :=
  (Utf8.decode (withoutMark contents.toList)).mapError .encoding

def readPart (archive : Archive) (name : String) : Except PackageError (Option String) :=
  match archive.find? name with
  | none => .ok none
  | some entry => do
    match ← (archive.contents entry).mapError .archive with
    | .error damage => .error (.input (.damaged damage))
    | .ok contents => (decodePart contents).map some

def ofArchive (archive : Archive) : Except PackageError Package := do
  match ← readPart archive textPart with
  | none => .error (.missingPart textPart)
  | some text => .ok ⟨text, ← readPart archive stylesPart⟩

def ofBytes (bytes : ByteArray) : Except PackageError Package := do
  if Archive.hasMagic bytes then ofArchive (← (Archive.ofBytes bytes).mapError .archive)
  else .error .unknownFormat

def ofSource : Source → Except PackageError Package
  | .missing => .error .fileNotFound
  | .directory => .error (.input .isDirectory)
  | .unopened reason => .error (.input (.system reason))
  | .unread reason => .error (.input (.system reason))
  | .file bytes => ofBytes bytes

def sheet (package : Package) (lenient : Bool) : Except PackageError Sheet :=
  match package.styles with
  | none => .ok .empty
  | some styles =>
    match Xml.parse styles with
    | .ok root => .ok (Word.sheet root)
    | .error fault => if lenient then .ok .empty else .error (.markup fault)

def parse (package : Package) (options : ParseOptions) : Except PackageError Document := do
  let sheet ← package.sheet options.lenient
  let root ← (Xml.parse package.text).mapError .markup
  .ok (Word.document sheet options.tables root)

end Package

end HouseStyle
