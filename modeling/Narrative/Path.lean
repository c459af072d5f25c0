import Narrative.Text.Blank

/-!
# Path — names of files

Paths are texts with slashes between their components. Repeated and closing slashes and
components of a single point do not count.
-/

namespace Narrative.Path

def components (path : List Char) : List (List Char) :=
  (Text.splitAt (· == '/') path).filter fun part => !part.isEmpty && part != ['.']

/-- The last component of a path, unless it leads upwards. -/
def fileName? (path : List Char) : Option (List Char) :=
  (components path).getLast?.filter (· != ['.', '.'])

/-- What stands behind the last point of a file name, where something stands in front of it. -/
def extension? (path : List Char) : Option (List Char) :=
  match fileName? path with
  | none => none
  | some name =>
    let behind := (name.reverse.takeWhile (· != '.')).reverse
    let front := (name.reverse.dropWhile (· != '.')).drop 1
    if front.isEmpty then none else some behind

/-- The path of a file in a directory. The empty directory is the working directory, and a path
from the root stays as it is. -/
def join (directory file : String) : String :=
  if directory.isEmpty || file.startsWith "/" then file
  else if directory.endsWith "/" then directory ++ file
  else directory ++ "/" ++ file

/-- The directory that holds a file, given by a path from the root. -/
def directory (path : List Char) : List Char :=
  (components path).dropLast.flatMap ('/' :: ·)

end Narrative.Path
