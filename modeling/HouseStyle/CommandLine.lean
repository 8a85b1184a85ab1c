import HouseStyle.Report

/-!
The command line: one file and some flags, each at most once. Arguments are taken from left to
right, and the first one that settles the matter does: a fault, or the flag that asks for the
version. The report goes to the standard output whether or not there is a profile.
-/

namespace HouseStyle.CommandLine

inductive Flag where
  | compact
  | detailed
  | noTables
  | strict
  | version
deriving DecidableEq

def longFlag? (name : String) : Option Flag :=
  match name with
  | "--compact" => some .compact
  | "--detailed" => some .detailed
  | "--no-tables" => some .noTables
  | "--strict" => some .strict
  | "--version" => some .version
  | _ => none

def shortFlag? (letter : Char) : Option Flag :=
  match letter with
  | 'c' => some .compact
  | 'd' => some .detailed
  | 'V' => some .version
  | _ => none

structure Request where
  file : Option String
  flags : List Flag
deriving DecidableEq

def Request.empty : Request := ⟨none, []⟩

inductive Reading where
  | run (file : String) (flags : List Flag)
  | showVersion
  | misuse
deriving DecidableEq

inductive Stop where
  | versionAsked
  | misused

def addFlag (request : Request) (flag : Flag) : Except Stop Request :=
  if flag = .version then .error .versionAsked
  else if flag ∈ request.flags then .error .misused
  else .ok { request with flags := request.flags ++ [flag] }

/-- An argument that is no flag is the file, which must have a name and be the only one. -/
def addFile (request : Request) (name : String) : Except Stop Request :=
  if request.file.isSome || name = "" then .error .misused
  else .ok { request with file := some name }

def addFlag? (request : Request) : Option Flag → Except Stop Request
  | some flag => addFlag request flag
  | none => .error .misused

/-- A single hyphen is a file's name, two begin a long flag, and one begins a row of short flags. -/
def addArgument (request : Request) (argument : String) : Except Stop Request :=
  match argument.toList with
  | '-' :: '-' :: _ => addFlag? request (longFlag? argument)
  | '-' :: letter :: letters =>
    (letter :: letters).foldlM (fun request letter => addFlag? request (shortFlag? letter)) request
  | _ => addFile request argument

/-- After two hyphens by themselves every argument is a file. -/
def addArguments (request : Request) : List String → Except Stop Request
  | [] => .ok request
  | "--" :: files => files.foldlM addFile request
  | argument :: rest => do addArguments (← addArgument request argument) rest

def read (arguments : List String) : Reading :=
  match addArguments .empty arguments with
  | .error .versionAsked => .showVersion
  | .error .misused => .misuse
  | .ok request =>
    match request.file with
    | some file => .run file request.flags
    | none => .misuse

def extraction (flags : List Flag) : Extraction :=
  let chosen := (Extraction.standard.withDetails (.detailed ∈ flags)).withTables (.noTables ∉ flags)
  if .strict ∈ flags then chosen else chosen.lenient

def layout (flags : List Flag) : Json.Layout := if .compact ∈ flags then .compact else .pretty

structure Outcome where
  exitCode : UInt32
  output : String
deriving DecidableEq

def versionText : String := "docxstyle 0.1.0\n"

def reportText (flags : List Flag) (source : Source) : String :=
  ((extraction flags).report source).toJson.render (layout flags) ++ "\n"

def outcome (find : String → Source) (arguments : List String) : Outcome :=
  match read arguments with
  | .showVersion => ⟨0, versionText⟩
  | .misuse => ⟨2, ""⟩
  | .run file flags => ⟨0, reportText flags (find file)⟩

end HouseStyle.CommandLine
