/-!
# Media types of request bodies

A media type is a type and a subtype, each of token characters, and parameters behind semicolons. A
body is taken as JSON when its media type is `application/json` or has the suffix `json`.
-/

namespace HostRegistry.MediaType

def isTokenChar (c : Char) : Bool := c.isAlphanum || "!#$%&'*+-.^_\x60|~".toList.contains c

/-- Characters that may stand between quotes, in a header that holds ASCII alone. -/
def isQuotedChar (c : Char) : Bool := 0x20 ≤ c.toNat && c.toNat < 0x7F

/-- A list cut at the first place where the test fails. -/
def span (test : Char → Bool) (cs : List Char) : List Char × List Char :=
  (cs.takeWhile test, cs.dropWhile test)

/-- Reads a quoted value of at least one character, and blanks up to the next semicolon. -/
def readQuoted (cs : List Char) : Option (List Char) :=
  match cs with
  | [] => none
  | c :: rest =>
    if !isQuotedChar c then none
    else
      match (rest.dropWhile fun c => isQuotedChar c && c ≠ '"') with
      | '"' :: rest =>
        match rest.dropWhile (· = ' ') with
        | [] => some []
        | ';' :: rest => some rest
        | _ => none
      | _ => none

/-- Whether the text, from behind a semicolon, consists of parameters. -/
def areParameters : Nat → List Char → Bool
  | 0, _ => false
  | fuel + 1, cs =>
    match cs.dropWhile (· = ' ') with
    | [] => true
    | cs =>
      let (name, rest) := span isTokenChar cs
      match rest with
      | '=' :: '"' :: rest =>
        match readQuoted rest with
        | some rest => !name.isEmpty && areParameters fuel rest
        | none => false
      | '=' :: rest =>
        let (value, rest) := span isTokenChar rest
        match rest with
        | [] => !name.isEmpty
        | ';' :: rest => !name.isEmpty && !value.isEmpty && areParameters fuel rest
        | _ => false
      | _ => false

/-- The subtype without its suffix, and the suffix behind the last plus sign. -/
def splitSuffix (subtype : List Char) : List Char × Option (List Char) :=
  match subtype with
  | [] => ([], none)
  | first :: rest =>
    if rest.contains '+' then
      let suffix := (rest.reverse.takeWhile (· ≠ '+')).reverse
      (first :: rest.take (rest.length - suffix.length - 1), some suffix)
    else (subtype, none)

def isJson (text : String) : Bool :=
  let cs := text.toList.map Char.toLower
  let (type, rest) := span isTokenChar cs
  match rest with
  | '/' :: rest =>
    let (subtype, rest) := span isTokenChar rest
    let (plain, suffix) := splitSuffix subtype
    let wellFormed := match rest with
      | [] => true
      | ';' :: rest => areParameters (rest.length + 1) rest
      | _ => false
    wellFormed && type = "application".toList &&
      (plain = "json".toList || suffix = some "json".toList)
  | _ => false

end HostRegistry.MediaType
