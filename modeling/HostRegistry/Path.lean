import HostRegistry.Text.Pieces

/-!
# Paths as text

A path is cut at its slashes. Empty parts and the part `.` name nothing, except that a relative path
may begin with `.`. What a path is joined to, its parent and its last name are matters of text
alone; no file is looked at.
-/

namespace HostRegistry.Path

def isAbsolute (path : String) : Bool := path.toList.head? = some '/'

/-- Whether a part between slashes names nothing. -/
def isVoid (part : String) : Bool := part = "" || part = "."

def dropVoidEnd (parts : List String) : List String := (parts.reverse.dropWhile isVoid).reverse

/-- The beginning of a path, its root or a leading `.`, and the parts behind it. -/
def split (path : String) : List String × List String :=
  match Text.cut '/' path with
  | [] => ([], [])
  | first :: rest =>
    if isAbsolute path then ([""], rest)
    else if first = "." then (["."], rest)
    else ([], first :: rest)

/-- Adds a name behind a directory; an absolute name stands for itself. -/
def join (dir name : String) : String :=
  if isAbsolute name then name
  else if dir = "" || dir.toList.getLast? = some '/' then dir ++ name
  else dir ++ "/" ++ name

/-- The last part, unless the path ends at its beginning or in `..`. -/
def fileName? (path : String) : Option String :=
  match (dropVoidEnd (split path).2).getLast? with
  | some name => if name = ".." then none else some name
  | none => none

/-- The path without its last part. -/
def parent? (path : String) : Option String :=
  let (start, body) := split path
  match dropVoidEnd body with
  | [] => if start = ["."] then some "" else none
  | parts =>
    let left := dropVoidEnd parts.dropLast
    if start = [""] && left.isEmpty then some "/"
    else some ("/".intercalate (start ++ left))

/-- The directory that holds the entry a path names. -/
def directory (path : String) : String :=
  match parent? path with
  | some dir => if dir = "" then "." else dir
  | none => "."

/-- The path and its parents, nearest first. A parent has fewer parts than its path. -/
def ancestorsFrom : Nat → String → List String
  | 0, _ => []
  | fuel + 1, path =>
    path :: (match parent? path with
      | some dir => ancestorsFrom fuel dir
      | none => [])

def ancestors (path : String) : List String := ancestorsFrom (path.toList.length + 2) path

end HostRegistry.Path
