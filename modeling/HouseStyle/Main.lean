import HouseStyle.CommandLine

/-!
The program: it looks up the file that the command line names and writes what that comes to.
-/

namespace HouseStyle.CommandLine

def systemText : IO.Error → String
  | .alreadyExists _ code words | .interrupted _ code words | .invalidArgument _ code words
  | .noFileOrDirectory _ code words | .noSuchThing _ code words | .permissionDenied _ code words
  | .inappropriateType _ code words | .resourceExhausted _ code words | .resourceBusy code words
  | .resourceVanished code words | .hardwareFault code words | .illegalOperation code words
  | .protocolError code words | .timeExpired code words | .unsatisfiedConstraints code words
  | .unsupportedOperation code words | .otherError code words =>
    words ++ " (os error " ++ toString code ++ ")"
  | other => toString other

/-- A directory opens like a file, and is found out by its code when it is read. -/
def isDirectory : IO.Error → Bool
  | .inappropriateType _ code _ => code = 21
  | _ => false

def readSource (file : IO.FS.Handle) : IO Source := do
  try
    return .file (← file.readBinToEnd)
  catch error =>
    return if isDirectory error then .directory else .unread (systemText error)

def openSource (path : String) : IO Source := do
  try
    readSource (← IO.FS.Handle.mk path .read)
  catch error => return .unopened (systemText error)

-- Nothing is there when the path cannot be followed to its end, for whatever reason.
def findSource (path : String) : IO Source := do
  let found ← (IO.FS.realPath path).toBaseIO
  match found with
  | .ok _ => openSource path
  | .error _ => return .missing

def usage : String :=
  "Usage: docxstyle [OPTIONS] <FILE>\n\n" ++
  "  -c, --compact    write compact JSON\n" ++
  "  -d, --detailed   list every paragraph style\n" ++
  "      --no-tables  leave tables out\n" ++
  "      --strict     fail on a malformed style sheet\n" ++
  "  -V, --version    print the version\n"

def run (arguments : List String) : IO UInt32 := do
  let source ←
    match read arguments with
    | .run file _ => findSource file
    | .misuse => do
      (← IO.getStderr).putStr usage
      pure .missing
    | .showVersion => pure .missing
  let result := outcome (fun _ => source) arguments
  IO.print result.output
  return result.exitCode

end HouseStyle.CommandLine

def main (arguments : List String) : IO UInt32 := HouseStyle.CommandLine.run arguments
