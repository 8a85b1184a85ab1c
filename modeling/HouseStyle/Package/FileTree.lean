import HouseStyle.Package.Basic

/-!
Where paths lead in a tree of files. The steps of a path have a slash between them: a name goes
down, two dots go up, and one dot or nothing stays. Each step is taken from a directory, also one
that stays, so a file is found only where its path ends.
-/

namespace HouseStyle

/-- The names on the way down from the root to a place, the last one first. -/
abbrev Place := List String

/-- The place that a step leads to; what is up from the root is the root. -/
def Place.step (place : Place) (name : String) : Place :=
  if name = "" || name = "." then place
  else if name = ".." then place.tail
  else name :: place

structure FileTree where
  current : Place
  source : Place → Source

namespace FileTree

def longestPath : Nat := 4095

/-- The tree that has a source at a place, and apart from it only the directories on the way. -/
def holding (current place : Place) (held : Source) : FileTree where
  current := current
  source other :=
    if other = place then held
    else if other.isSuffixOf place || other.isSuffixOf current then .directory
    else .missing

def follow (tree : FileTree) : Place → List String → Source
  | place, [] => tree.source place
  | place, name :: rest =>
    match tree.source place with
    | .directory => follow tree (place.step name) rest
    | _ => .missing

def find (tree : FileTree) (path : String) : Source :=
  if longestPath < path.utf8ByteSize then .missing
  else
    match path.splitOn "/" with
    | [""] => .missing
    | "" :: steps => tree.follow [] steps
    | steps => tree.follow tree.current steps

end FileTree

end HouseStyle
