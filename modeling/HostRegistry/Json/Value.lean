import HostRegistry.Bytes

/-!
# Writing JSON

A JSON value is written either without any blank, or laid out with two blanks per level and one
item or member a line. Empty lists and objects are `[]` and `{}` in both layouts.
-/

namespace HostRegistry.Json

inductive Value
  | null
  | natural (n : Nat)
  | text (s : String)
  | list (items : List Value)
  | object (members : List (String × Value))

/-- A hexadecimal digit in lower case. -/
def hexDigit (n : UInt8) : UInt8 := if n < 10 then 0x30 + n else 0x57 + n

/-- How one byte of a text is written: quotes, backslashes and control characters are escaped, by
their short form where there is one. -/
def escapeByte (b : UInt8) : Bytes :=
  if b = 0x22 then [0x5C, 0x22]
  else if b = 0x5C then [0x5C, 0x5C]
  else if b = 0x08 then [0x5C, 0x62]
  else if b = 0x0C then [0x5C, 0x66]
  else if b = 0x0A then [0x5C, 0x6E]
  else if b = 0x0D then [0x5C, 0x72]
  else if b = 0x09 then [0x5C, 0x74]
  else if b < 0x20 then [0x5C, 0x75, 0x30, 0x30, hexDigit (b >>> 4), hexDigit (b &&& 0x0F)]
  else [b]

/-- A text between quotes. -/
def quoted (s : String) : Bytes := 0x22 :: ((Bytes.ofText s).flatMap escapeByte ++ [0x22])

def comma : UInt8 := 0x2C

mutual

def compact : Value → Bytes
  | .null => Bytes.ofText "null"
  | .natural n => Bytes.ofText (toString n)
  | .text s => quoted s
  | .list items => 0x5B :: (compactItems items ++ [0x5D])
  | .object members => 0x7B :: (compactMembers members ++ [0x7D])

def compactItems : List Value → Bytes
  | [] => []
  | [item] => compact item
  | item :: rest => compact item ++ comma :: compactItems rest

def compactMembers : List (String × Value) → Bytes
  | [] => []
  | [(key, value)] => quoted key ++ 0x3A :: compact value
  | (key, value) :: rest => quoted key ++ 0x3A :: (compact value ++ comma :: compactMembers rest)

end

/-- The start of a line at nesting level `level`. -/
def newLine (level : Nat) : Bytes := 0x0A :: List.replicate (2 * level) 0x20

mutual

/-- The value at nesting level `level`, one item or member a line. -/
def pretty (level : Nat) : Value → Bytes
  | .null => Bytes.ofText "null"
  | .natural n => Bytes.ofText (toString n)
  | .text s => quoted s
  | .list [] => [0x5B, 0x5D]
  | .list (item :: rest) =>
    0x5B :: (newLine (level + 1) ++ pretty (level + 1) item ++ prettyItems level rest)
  | .object [] => [0x7B, 0x7D]
  | .object ((key, value) :: rest) =>
    0x7B :: (newLine (level + 1) ++ quoted key ++ [0x3A, 0x20] ++ pretty (level + 1) value ++
      prettyMembers level rest)

/-- The items after the first one, and the closing bracket. -/
def prettyItems (level : Nat) : List Value → Bytes
  | [] => newLine level ++ [0x5D]
  | item :: rest =>
    comma :: (newLine (level + 1) ++ pretty (level + 1) item ++ prettyItems level rest)

/-- The members after the first one, and the closing brace. -/
def prettyMembers (level : Nat) : List (String × Value) → Bytes
  | [] => newLine level ++ [0x7D]
  | (key, value) :: rest =>
    comma :: (newLine (level + 1) ++ quoted key ++ [0x3A, 0x20] ++ pretty (level + 1) value ++
      prettyMembers level rest)

end

/-- A list of texts. -/
def texts (items : List String) : Value := .list (items.map .text)

end HostRegistry.Json
