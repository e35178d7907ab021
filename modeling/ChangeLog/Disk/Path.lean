/-
  Names of files: parts between slashes. Empty parts name nothing, a single dot names the directory
  that it stands in, and two dots the directory around it. A slash at the end asks for a directory,
  just as a dot behind it would. Messages keep the text as it was given.
-/
import ChangeLog.Text.Split

namespace ChangeLog.Path

/-- The parts of a path from the root down. -/
def parts (path : String) : List String :=
  let pieces := (Text.splitOn '/' path.toList).filter fun part => part ≠ []
  let closing := if path.toList.getLast? = some '/' then ["."] else []
  pieces.map String.ofList ++ closing

/-- The path of an entry of a directory. -/
def join (directory name : String) : String :=
  if directory.toList = [] then name
  else if directory.toList.getLast? = some '/' then directory ++ name
  else directory ++ "/" ++ name

/-- Where a part leads from a place, given by the names on the way to it from the root. -/
def step (here : List String) (part : String) : List String :=
  if part = "." then here
  else if part = ".." then here.dropLast
  else here ++ [part]

/-- How many bytes a part may have. -/
def longestPart : Nat := 255

end ChangeLog.Path
