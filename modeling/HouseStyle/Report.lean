import HouseStyle.Package.Basic
import HouseStyle.Profile.Encoding
import HouseStyle.Profile.Survey

/-!
From a package to its profile, and to a report, which holds either the profile or the reason why
there is none. A failure is an object with a single member, under a key that no profile has.
-/

namespace HouseStyle

structure Extraction where
  parsing : ParseOptions
  profiling : ProfileOptions

inductive Report where
  | profile (profile : Profile)
  | failure (error : PackageError)

namespace Extraction

def standard : Extraction := ⟨.standard, .standard⟩

def lenient (extraction : Extraction) : Extraction :=
  { extraction with parsing := { extraction.parsing with lenient := true } }

def withTables (extraction : Extraction) (tables : Bool) : Extraction where
  parsing := { extraction.parsing with tables := tables }
  profiling := { extraction.profiling with tables := tables }

def withDetails (extraction : Extraction) (detailed : Bool) : Extraction :=
  { extraction with profiling := { extraction.profiling with detailed := detailed } }

def withTarget (extraction : Extraction) (styleName label : String) : Extraction :=
  { extraction with profiling := extraction.profiling.withTarget styleName label }

def withRedStarts (extraction : Extraction) (starts : List String) : Extraction :=
  { extraction with profiling := { extraction.profiling with redStarts := starts } }

def profile (extraction : Extraction) (source : Source) : Except PackageError Profile := do
  let package ← Package.ofSource source
  let document ← package.parse extraction.parsing
  .ok (document.profile extraction.profiling)

def report (extraction : Extraction) (source : Source) : Report :=
  match extraction.profile source with
  | .ok profile => .profile profile
  | .error error => .failure error

end Extraction

namespace Report

def profile? : Report → Option Profile
  | profile found => some found
  | failure _ => none

def toJson : Report → Json
  | profile found => found.toJson
  | failure error => .object [("error", .text error.message)]

end Report

end HouseStyle
