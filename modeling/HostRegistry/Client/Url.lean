import HostRegistry.Percent
import HostRegistry.Text.Pieces

/-!
# The target that a URL asks for

What the text of an `http` URL sends to the host that it names: its path, cleaned of `.` and `..`,
and its query. White space at the ends, tabs and line ends are dropped first, a backslash counts as
a slash, and characters that may not stand in a target are percent-encoded.
-/

namespace HostRegistry.Client.Url

def isControlOrSpace (c : Char) : Bool := c.toNat ≤ 0x20

def isTabOrLineEnd (c : Char) : Bool := c = '\t' || c = '\n' || c = '\r'

/-- The characters of a URL's text that count. -/
def cleaned (text : String) : List Char :=
  let trimmed := (text.toList.dropWhile isControlOrSpace).reverse.dropWhile isControlOrSpace
  trimmed.reverse.filter (!isTabOrLineEnd ·)

def isSlash (c : Char) : Bool := c = '/' || c = '\\'

def endsAuthority (c : Char) : Bool := isSlash c || c = '?' || c = '#'

/-- The text behind scheme and host. -/
def behindAuthority? (cs : List Char) : Option (List Char) :=
  let scheme := (cs.takeWhile (· ≠ ':')).map Char.toLower
  if scheme = "http".toList || scheme = "https".toList then
    let rest := (((cs.dropWhile (· ≠ ':')).drop 1)).dropWhile isSlash
    let host := rest.takeWhile (!endsAuthority ·)
    if host.isEmpty then none else some (rest.dropWhile (!endsAuthority ·))
  else none

def isSingleDot (part : List Char) : Bool :=
  let part := part.map Char.toLower
  part = ".".toList || part = "%2e".toList

def isDoubleDot (part : List Char) : Bool :=
  let part := part.map Char.toLower
  part = "..".toList || part = ".%2e".toList || part = "%2e.".toList || part = "%2e%2e".toList

/-- Bytes that are escaped in a path: controls, all beyond ASCII, and some marks. -/
def escapedInPath (b : UInt8) : Bool :=
  b ≤ 0x20 || 0x7F ≤ b || b = 0x22 || b = 0x23 || b = 0x3C || b = 0x3E || b = 0x3F || b = 0x60 ||
    b = 0x7B || b = 0x7D

/-- Bytes that are escaped in a query. -/
def escapedInQuery (b : UInt8) : Bool :=
  b ≤ 0x20 || 0x7F ≤ b || b = 0x22 || b = 0x23 || b = 0x3C || b = 0x3E || b = 0x27

def encodeText (escaped : UInt8 → Bool) (cs : List Char) : Bytes :=
  Percent.encode escaped (Bytes.ofText (String.ofList cs))

/-- Goes through the parts of a path with the parts kept so far, last one first. -/
def cleanParts : List (List Char) → List (List Char) → List (List Char)
  | kept, [] => kept.reverse
  | kept, [last] =>
    if isDoubleDot last then ([] :: kept.drop 1).reverse
    else if isSingleDot last then ([] :: kept).reverse
    else (last :: kept).reverse
  | kept, part :: rest =>
    if isDoubleDot part then cleanParts (kept.drop 1) rest
    else if isSingleDot part then cleanParts kept rest
    else cleanParts (part :: kept) rest

/-- The path that is asked for, given the text between host and query. -/
def pathBytes (cs : List Char) : Bytes :=
  let parts := Text.cutList '/' ((cs.drop 1).map fun c => if isSlash c then '/' else c)
  (cleanParts [] parts).flatMap fun part => 0x2F :: encodeText escapedInPath part

/-- The target that a URL asks for, if it is one. -/
def target? (text : String) : Option String := do
  let rest ← behindAuthority? (cleaned text)
  let path := pathBytes (rest.takeWhile fun c => c ≠ '?' && c ≠ '#')
  let query := match rest.dropWhile fun c => c ≠ '?' && c ≠ '#' with
    | '?' :: rest => 0x3F :: encodeText escapedInQuery (rest.takeWhile (· ≠ '#'))
    | _ => []
  Bytes.toText? (path ++ query)

end HostRegistry.Client.Url
