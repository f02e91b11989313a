import HostRegistry.Toml.Item
import HostRegistry.Toml.Scalar

/-!
# Reading TOML

Readers take the characters that are left and give what they read with the rest, or nothing if the
text is not TOML. Lines hold a header, an assignment or neither, and may end in a comment.
-/

namespace HostRegistry.Toml

abbrev Reader (α : Type) := List Char → Option (α × List Char)

/-! ## Blanks and comments -/

def isBlank (c : Char) : Bool := c = ' ' || c = '\t'

def skipBlanks (cs : List Char) : List Char := cs.dropWhile isBlank

/-- Characters that may stand in texts and comments as they are. -/
def isPlain (c : Char) : Bool := c = '\t' || (0x20 ≤ c.toNat && c.toNat ≠ 0x7F)

/-- Reads a line end. -/
def newLine? : List Char → Option (List Char)
  | '\n' :: rest => some rest
  | '\r' :: '\n' :: rest => some rest
  | _ => none

/-- Reads a comment if there is one, up to the end of its line. -/
def skipComment (cs : List Char) : List Char :=
  match cs with
  | '#' :: rest => rest.dropWhile isPlain
  | _ => cs

/-- Reads what may follow on a line, and the end of the line or of the text. -/
def endLine? (cs : List Char) : Option (List Char) :=
  match skipComment (skipBlanks cs) with
  | [] => some []
  | rest => newLine? rest

/-- Skips blanks, comments and line ends. -/
def skipLines : Nat → List Char → List Char
  | 0, cs => cs
  | fuel + 1, cs =>
    let rest := skipComment (skipBlanks cs)
    match newLine? rest with
    | some rest => skipLines fuel rest
    | none => rest

def skipAll (cs : List Char) : List Char := skipLines (cs.length + 1) cs

/-! ## Texts -/

def hexNumber? (n : Nat) (cs : List Char) : Option (Nat × List Char) :=
  let ds := cs.take n
  if ds.length = n && ds.all Scalar.isHexDigit then some (Scalar.digitsValue 16 ds, cs.drop n)
  else none

def scalar? (n : Nat) : Option Char := if n.isValidChar then some (Char.ofNat n) else none

/-- Reads an escape, from behind its backslash. -/
def readEscape : Reader Char
  | 'b' :: rest => some ('\x08', rest)
  | 't' :: rest => some ('\t', rest)
  | 'n' :: rest => some ('\n', rest)
  | 'f' :: rest => some ('\x0C', rest)
  | 'r' :: rest => some ('\r', rest)
  | '"' :: rest => some ('"', rest)
  | '\\' :: rest => some ('\\', rest)
  | 'u' :: rest => do
    let (n, rest) ← hexNumber? 4 rest
    pure (← scalar? n, rest)
  | 'U' :: rest => do
    let (n, rest) ← hexNumber? 8 rest
    pure (← scalar? n, rest)
  | _ => none

/-- Reads a text on one line, from behind its opening quote. -/
def readBasic : Nat → Reader (List Char)
  | 0, _ => none
  | _ + 1, [] => none
  | fuel + 1, c :: rest =>
    if c = '"' then some ([], rest)
    else if c = '\\' then do
      let (c, rest) ← readEscape rest
      let (more, rest) ← readBasic fuel rest
      pure (c :: more, rest)
    else if isPlain c then do
      let (more, rest) ← readBasic fuel rest
      pure (c :: more, rest)
    else none

/-- Reads a text on one line without escapes, from behind its opening quote. -/
def readLiteral : Reader (List Char)
  | [] => none
  | c :: rest =>
    if c = '\'' then some ([], rest)
    else if isPlain c then do
      let (more, rest) ← readLiteral rest
      pure (c :: more, rest)
    else none

/-- The quotes at the end of a text of several lines: three close it, up to two before those are
part of it. Gives nothing if the text goes on. -/
def closing? (quote : Char) (cs : List Char) : Option (List Char × List Char) :=
  let quotes := (cs.takeWhile (· = quote)).length
  if quotes < 3 then none
  else
    let inside := min (quotes - 3) 2
    some (List.replicate inside quote, cs.drop (inside + 3))

/-- Skips blanks and line ends behind a backslash at the end of a line. -/
def continuation? (cs : List Char) : Option (List Char) :=
  (newLine? (skipBlanks cs)).map fun rest =>
    rest.dropWhile fun c => isBlank c || c = '\n' || c = '\r'

/-- Whether each carriage return among the blanks and line ends ahead belongs to a line end. -/
def lineEndsOk : List Char → Bool
  | '\r' :: '\n' :: rest => lineEndsOk rest
  | '\r' :: _ => false
  | c :: rest => if isBlank c || c = '\n' then lineEndsOk rest else true
  | [] => true

/-- Reads a text of several lines, from behind its opening quotes. -/
def readLong (quote : Char) (escapes : Bool) : Nat → Reader (List Char)
  | 0, _ => none
  | _ + 1, [] => none
  | fuel + 1, c :: rest =>
    match newLine? (c :: rest) with
    | some rest => do
      let (more, rest) ← readLong quote escapes fuel rest
      pure ('\n' :: more, rest)
    | none =>
      if c = quote then
        match closing? quote (c :: rest) with
        | some found => some found
        | none => do
          let (more, rest) ← readLong quote escapes fuel rest
          pure (c :: more, rest)
      else if escapes && c = '\\' then
        match continuation? rest with
        | some onward =>
          if lineEndsOk rest then readLong quote escapes fuel onward else none
        | none => do
          let (c, rest) ← readEscape rest
          let (more, rest) ← readLong quote escapes fuel rest
          pure (c :: more, rest)
      else if isPlain c then do
        let (more, rest) ← readLong quote escapes fuel rest
        pure (c :: more, rest)
      else none

/-- Skips the line end right behind the opening quotes. -/
def skipFirstLine (cs : List Char) : List Char := (newLine? cs).getD cs

def readText (cs : List Char) : Option (String × List Char) :=
  let found := match cs with
    | '"' :: '"' :: '"' :: rest => readLong '"' true (rest.length + 1) (skipFirstLine rest)
    | '\'' :: '\'' :: '\'' :: rest => readLong '\'' false (rest.length + 1) (skipFirstLine rest)
    | '"' :: rest => readBasic (rest.length + 1) rest
    | '\'' :: rest => readLiteral rest
    | _ => none
  found.map fun (chars, rest) => (String.ofList chars, rest)

/-! ## Keys -/

def isBare (c : Char) : Bool := c.isAlphanum || c = '_' || c = '-'

def readPart : Reader String
  | '"' :: rest => (readBasic (rest.length + 1) rest).map fun (cs, rest) => (String.ofList cs, rest)
  | '\'' :: rest => (readLiteral rest).map fun (cs, rest) => (String.ofList cs, rest)
  | cs =>
    let bare := cs.takeWhile isBare
    if bare.isEmpty then none else some (String.ofList bare, cs.dropWhile isBare)

/-- How many parts a key may have, and how deep values may nest. -/
def nestingLimit : Nat := 79

/-- Reads the parts of a key, with the blanks around them. -/
def readParts : Nat → Reader (List String)
  | 0, _ => none
  | fuel + 1, cs => do
    let (part, rest) ← readPart (skipBlanks cs)
    match skipBlanks rest with
    | '.' :: rest =>
      let (parts, rest) ← readParts fuel rest
      pure (part :: parts, rest)
    | rest => pure ([part], rest)

def readKey : Reader (List String) := readParts nestingLimit

/-- The parts of a key before the last one, and that one. -/
def splitKey (parts : List String) : Option (List String × String) :=
  parts.getLast?.map fun last => (parts.dropLast, last)

/-! ## Values -/

/-- Characters of which words are made. -/
def isWordChar (c : Char) : Bool :=
  c.isAlphanum || c = '+' || c = '-' || c = '_' || c = '.' || c = ':'

def wordItem? (word : List Char) : Option Item :=
  if word = "true".toList then some (.boolean true)
  else if word = "false".toList then some (.boolean false)
  else
    match Scalar.integer? word with
    | some n => some (.integer n)
    | none =>
      if Scalar.isFraction word then some .fraction
      else if Scalar.isMoment word then some .moment
      else none

/-- Reads a word; a date may be followed by a time behind one space. -/
def readWord : Reader Item := fun cs => do
  let word := cs.takeWhile isWordChar
  let rest := cs.dropWhile isWordChar
  match Scalar.date? word, rest with
  | some [], ' ' :: c :: more =>
    if c.isDigit then
      let time := (c :: more).takeWhile isWordChar
      if Scalar.isMoment (word ++ ' ' :: time) then
        pure (.moment, (c :: more).dropWhile isWordChar)
      else none
    else pure (.moment, rest)
  | _, _ => pure (← wordItem? word, rest)

/-- Reads the items of an array, from behind its opening bracket or a comma. -/
def readItems (value : Reader Item) : Nat → Reader (List Item)
  | 0, _ => none
  | fuel + 1, cs =>
    match skipAll cs with
    | ']' :: rest => some ([], rest)
    | cs => do
      let (item, rest) ← value cs
      match skipAll rest with
      | ',' :: rest =>
        let (items, rest) ← readItems value fuel rest
        pure (item :: items, rest)
      | ']' :: rest => pure ([item], rest)
      | _ => none

/-- Reads the assignments of a table between braces, into the table so far. -/
def readMembers (value : Reader Item) : Nat → Table → Reader Table
  | 0, _, _ => none
  | fuel + 1, t, cs => do
    let (parts, rest) ← readKey cs
    match rest with
    | '=' :: rest =>
      let (path, key) ← splitKey parts
      let (item, rest) ← value (skipBlanks rest)
      let t ← Table.assignInline key item path t
      match skipBlanks rest with
      | ',' :: rest => readMembers value fuel t rest
      | '}' :: rest => pure (t, rest)
      | _ => none
    | _ => none

/-- Reads a value that nests at most to the given depth. -/
def readValue : Nat → Reader Item
  | depth, cs =>
    match cs with
    | '"' :: _ | '\'' :: _ => (readText cs).map fun (s, rest) => (.text s, rest)
    | '[' :: rest =>
      match depth with
      | 0 => none
      | depth + 1 => (readItems (readValue depth) (rest.length + 1) rest).map fun (items, rest) =>
          (.array items, rest)
    | '{' :: rest =>
      match depth with
      | 0 => none
      | depth + 1 =>
        match skipBlanks rest with
        | '}' :: rest => some (.table .inline [], rest)
        | rest => (readMembers (readValue depth) (rest.length + 1) [] rest).map fun (t, rest) =>
            (.table .inline t, rest)
    | _ => readWord cs

/-! ## Documents -/

/-- The document so far, and the names of the header whose lines are being read. -/
structure State where
  root : Table
  header : List String

/-- Reads a header in brackets, from behind them. -/
def readHeader (st : State) (double : Bool) (cs : List Char) : Option (State × List Char) := do
  let (parts, rest) ← readKey cs
  let (path, key) ← splitKey parts
  match rest, double with
  | ']' :: ']' :: rest, true => pure (⟨← st.root.openTables path key, parts⟩, rest)
  | ']' :: rest, false => pure (⟨← st.root.openTable path key, parts⟩, rest)
  | _, _ => none

/-- Reads an assignment. -/
def readAssignment (st : State) (cs : List Char) : Option (State × List Char) := do
  let (parts, rest) ← readKey cs
  match rest with
  | '=' :: rest =>
    let (path, key) ← splitKey parts
    let (item, rest) ← readValue nestingLimit (skipBlanks rest)
    let root ← st.root.within (Table.assign key item path .header) st.header
    pure (⟨root, st.header⟩, rest)
  | _ => none

/-- Reads the lines of a document. Each line takes at least one character. -/
def readLines : Nat → State → List Char → Option Table
  | 0, st, _ => some st.root
  | fuel + 1, st, cs =>
    match skipAll cs with
    | [] => some st.root
    | '[' :: '[' :: rest => do
      let (st, rest) ← readHeader st true rest
      readLines fuel st (← endLine? rest)
    | '[' :: rest => do
      let (st, rest) ← readHeader st false rest
      readLines fuel st (← endLine? rest)
    | cs => do
      let (st, rest) ← readAssignment st cs
      readLines fuel st (← endLine? rest)

/-- The document that a text holds. A byte order mark at its start is no part of it. -/
def ofText? (s : String) : Option Table :=
  let cs := match s.toList with
    | '\uFEFF' :: rest => rest
    | cs => cs
  readLines (cs.length + 1) ⟨[], []⟩ cs

end HostRegistry.Toml
