import Runbook.Text.Search

/-!
# Paths

Paths are texts whose parts are separated by slashes.  A path that begins with
a slash is absolute.
-/

namespace Runbook.Path

def isAbsolute (path : String) : Bool :=
  Text.startsWith path "/"

/-- A path below another one; an absolute path is below every path. -/
def join (folder path : String) : String :=
  if isAbsolute path || folder.isEmpty then path
  else if folder.toList.getLast? = some '/' then folder ++ path
  else folder ++ "/" ++ path

/-- A path, last character first, without what does not count at its end:
slashes, and dots that are a part of their own. -/
def trimmedEnd : List Char → List Char
  | ['/'] => ['/']
  | '/' :: rest => trimmedEnd rest
  | '.' :: '/' :: rest => trimmedEnd ('/' :: rest)
  | path => path

/-- The path of the folder that holds a path: the empty text for a path of one
part, and nothing for a path without parts. -/
def parent? (path : String) : Option String :=
  match trimmedEnd path.toList.reverse with
  | [] => none
  | ['/'] => none
  | reversed =>
    some (String.ofList
      (trimmedEnd (reversed.dropWhile fun character => character != '/')
        ).reverse)

/-- The parts of a path between its slashes, the empty ones included. -/
def parts (path : String) : List String :=
  Text.splitAt '/' path

end Runbook.Path
