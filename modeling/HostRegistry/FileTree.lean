import HostRegistry.Bytes
import HostRegistry.Path
import HostRegistry.SortedMap

/-!
# Files, directories and links

A file tree says what stands at each location, a list of names from the root. Paths lead to
locations part by part: `..` goes up, a link goes on at its target, and each step needs a directory
to stand in. Every change of an entry is noted in order, which is all that a watcher sees.
-/

namespace HostRegistry

inductive FileError
  | notFound
  | busy
  | alreadyExists
  | notDirectory
  | isDirectory
  | nameTooLong
  | tooManyLinks
  | zeroByte
deriving DecidableEq, Repr

def FileError.message : FileError → String
  | .notFound => "No such file or directory (os error 2)"
  | .busy => "Device or resource busy (os error 16)"
  | .alreadyExists => "File exists (os error 17)"
  | .notDirectory => "Not a directory (os error 20)"
  | .isDirectory => "Is a directory (os error 21)"
  | .nameTooLong => "File name too long (os error 36)"
  | .tooManyLinks => "Too many levels of symbolic links (os error 40)"
  | .zeroByte => "file name contained an unexpected NUL byte"

/-- The names that lead from the root to an entry. -/
abbrev Location := List String

inductive Node
  | directory
  | file (contents : Bytes)
  | link (target : String)
deriving DecidableEq, Repr

structure FileTree where
  nodes : SortedMap Location Node
  workingDir : Location
  /-- The locations of all changed entries, in the order of the changes. -/
  notices : List Location

namespace FileTree

/-- A tree that holds nothing but its working directory. -/
def empty : FileTree :=
  ⟨SortedMap.ofList [(["work"], .directory)], ["work"], []⟩

def node? (t : FileTree) : Location → Option Node
  | [] => some .directory
  | l => t.nodes.get? l

/-- Puts a node in place of whatever stands there. -/
def set (t : FileTree) (l : Location) (n : Node) : FileTree :=
  { t with nodes := t.nodes.insert l n, notices := t.notices ++ [l] }

def remove (t : FileTree) (l : Location) : FileTree :=
  { t with nodes := t.nodes.erase l, notices := t.notices ++ [l] }

/-! ## Finding places -/

/-- Where a path leads. -/
inductive Place
  /-- A directory that the path names without a last name. -/
  | directory (l : Location)
  /-- An entry, which may be missing; `slash` tells whether slashes follow its name. -/
  | entry (dir : Location) (name : String) (slash : Bool)

def maxNameBytes : Nat := 255

def maxPathBytes : Nat := 4095

def maxLinks : Nat := 40

/-- The parts of a link's target behind the place where it is followed from. -/
def startOf (here : Location) (path : String) : Location :=
  if Path.isAbsolute path then [] else here

/-- Walks along the parts of a path from a directory. A link on the way, and one at the end if
`follow` says so, is left to `onLink`. -/
def walkWith (t : FileTree) (follow : Bool)
    (onLink : Location → List String → Except FileError Place) :
    Location → List String → Except FileError Place
  | here, [] => .ok (.directory here)
  | here, part :: rest =>
    if Path.isVoid part then walkWith t follow onLink here rest
    else if part = ".." then walkWith t follow onLink here.dropLast rest
    else if part.utf8ByteSize > maxNameBytes then .error .nameTooLong
    else
      let last := rest.all (· = "")
      match t.node? (here ++ [part]) with
      | some (.link target) =>
        if last && !follow then .ok (.entry here part (!rest.isEmpty))
        else onLink (startOf here target) (Text.cut '/' target ++ rest)
      | some .directory =>
        if last then .ok (.entry here part (!rest.isEmpty))
        else walkWith t follow onLink (here ++ [part]) rest
      | some (.file _) =>
        if last then .ok (.entry here part (!rest.isEmpty)) else .error .notDirectory
      | none => if last then .ok (.entry here part (!rest.isEmpty)) else .error .notFound

/-- Walks along the parts of a path, following at most the given number of links. -/
def walk (t : FileTree) (follow : Bool) : Nat → Location → List String → Except FileError Place
  | 0 => walkWith t follow fun _ _ => .error .tooManyLinks
  | links + 1 => walkWith t follow (walk t follow links)

def place (t : FileTree) (follow : Bool) (path : String) : Except FileError Place :=
  if path.toList.contains '\x00' then .error .zeroByte
  else if path = "" then .error .notFound
  else if path.utf8ByteSize > maxPathBytes then .error .nameTooLong
  else walk t follow maxLinks (startOf t.workingDir path) (Text.cut '/' path)

/-- What a path names, with links followed. -/
def resolve (t : FileTree) (path : String) : Except FileError (Location × Node) := do
  match ← t.place true path with
  | .directory l => pure (l, .directory)
  | .entry dir name slash =>
    match t.node? (dir ++ [name]) with
    | none => .error .notFound
    | some node =>
      if slash && node != .directory then .error .notDirectory else pure (dir ++ [name], node)

def isDirectory (t : FileTree) (path : String) : Bool :=
  match t.resolve path with
  | .ok (_, .directory) => true
  | _ => false

/-! ## Operations -/

def read (t : FileTree) (path : String) : Except FileError Bytes := do
  match ← t.resolve path with
  | (_, .file contents) => pure contents
  | _ => .error .isDirectory

/-- The names of the entries in a directory, in ascending order. -/
def namesIn (t : FileTree) (dir : Location) : List String :=
  t.nodes.keys.filterMap fun k => if k.dropLast = dir then k.getLast? else none

def list (t : FileTree) (path : String) : Except FileError (List String) := do
  match ← t.resolve path with
  | (l, .directory) => pure (t.namesIn l)
  | _ => .error .notDirectory

/-- Removes a file or a link. -/
def unlink (t : FileTree) (path : String) : Except FileError FileTree := do
  match ← t.place false path with
  | .directory _ => .error .isDirectory
  | .entry dir name slash =>
    match t.node? (dir ++ [name]) with
    | none => .error .notFound
    | some .directory => .error .isDirectory
    | some _ => if slash then .error .notDirectory else pure (t.remove (dir ++ [name]))

def makeDirectory (t : FileTree) (path : String) : Except FileError FileTree := do
  match ← t.place false path with
  | .directory _ => .error .alreadyExists
  | .entry dir name _ =>
    match t.node? (dir ++ [name]) with
    | some _ => .error .alreadyExists
    | none => pure (t.set (dir ++ [name]) .directory)

def makeLink (t : FileTree) (path target : String) : Except FileError FileTree := do
  match ← t.place false path with
  | .directory _ => .error .alreadyExists
  | .entry dir name slash =>
    match t.node? (dir ++ [name]) with
    | some _ => .error .alreadyExists
    | none =>
      if slash || target = "" then .error .notFound
      else pure (t.set (dir ++ [name]) (.link target))

/-- Tries to make a directory, from a path upwards, until one is made or is there. Gives the paths
passed by because the directory above them is missing, the last one first. -/
def makeUpwards (t : FileTree) :
    List String → List String → Except FileError (List String × FileTree)
  | missing, [] => .ok (missing, t)
  | missing, path :: above =>
    if path = "" || (Path.parent? path).isNone then .ok (missing, t)
    else
      match t.makeDirectory path with
      | .ok t => .ok (missing, t)
      | .error .notFound => makeUpwards t (path :: missing) above
      | .error e =>
        if e = .alreadyExists && t.isDirectory path then .ok (missing, t) else .error e

/-- Makes the directories in order; one that is there already is passed over. -/
def makeDownwards (t : FileTree) : List String → Except FileError Unit × FileTree
  | [] => (.ok (), t)
  | path :: below =>
    match t.makeDirectory path with
    | .ok t => makeDownwards t below
    | .error e =>
      if e = .alreadyExists && t.isDirectory path then makeDownwards t below else (.error e, t)

/-- Makes a directory and the missing ones above it. Those made before an error stay. -/
def makeDirectories (t : FileTree) (path : String) : Except FileError Unit × FileTree :=
  match t.makeUpwards [] (Path.ancestors path) with
  | .error e => (.error e, t)
  | .ok (missing, t) => t.makeDownwards missing

/-- Moves a file to where a path leads, in place of a file or link there. -/
def rename (t : FileTree) (source : Location) (path : String) : Except FileError FileTree := do
  match ← t.place false path with
  | .directory _ => .error .busy
  | .entry dir name slash =>
    if slash then .error .notDirectory
    else
      match t.node? (dir ++ [name]), t.node? source with
      | some .directory, _ => .error .isDirectory
      | _, some node => pure ((t.remove source).set (dir ++ [name]) node)
      | _, none => .error .notFound

end FileTree

end HostRegistry
