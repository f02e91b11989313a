import HostRegistry.Json.Number

/-!
# Reading JSON

Readers take the bytes from where they stand and give what they read together with the bytes behind
it. A text that is kept must be UTF-8 and its escapes must name characters; a value that is only
passed over is checked less strictly, and may be nested without limit.
-/

namespace HostRegistry.Json

abbrev Reader (α : Type) := Bytes → Except Fault (α × Bytes)

def isBlank (b : UInt8) : Bool := b = 0x20 || b = 0x0A || b = 0x09 || b = 0x0D

def skipBlanks (input : Bytes) : Bytes := input.dropWhile isBlank

/-- Reads the given letters. -/
def expectLetters : Bytes → Bytes → Except Fault Bytes
  | [], input => .ok input
  | _ :: _, [] => .error .truncated
  | letter :: letters, b :: rest =>
    if b = letter then expectLetters letters rest else .error .malformed

def hexValue? (b : UInt8) : Option Nat :=
  if 0x30 ≤ b && b ≤ 0x39 then some (b.toNat - 0x30)
  else if 0x61 ≤ b && b ≤ 0x66 then some (b.toNat - 0x57)
  else if 0x41 ≤ b && b ≤ 0x46 then some (b.toNat - 0x37)
  else none

/-- Reads the four hexadecimal digits of an escape. -/
def readHex4 : Reader Nat
  | a :: b :: c :: d :: rest =>
    match hexValue? a, hexValue? b, hexValue? c, hexValue? d with
    | some a, some b, some c, some d => .ok (((a * 16 + b) * 16 + c) * 16 + d, rest)
    | _, _, _, _ => .error .malformed
  | _ => .error .truncated

def isLeadingSurrogate (n : Nat) : Bool := 0xD800 ≤ n && n ≤ 0xDBFF

def isTrailingSurrogate (n : Nat) : Bool := 0xDC00 ≤ n && n ≤ 0xDFFF

/-- The encoding of a code point. -/
def encodeCodePoint (n : Nat) : Bytes := String.utf8EncodeChar (Char.ofNat n)

/-- Reads the second half of a surrogate pair. -/
def readTrailingSurrogate (leading : Nat) : Reader Bytes
  | [] => .error .truncated
  | b :: rest =>
    if b ≠ 0x5C then .error .malformed
    else
      match rest with
      | [] => .error .truncated
      | b :: rest =>
        if b ≠ 0x75 then .error .malformed
        else do
          let (trailing, rest) ← readHex4 rest
          if isTrailingSurrogate trailing then
            pure (encodeCodePoint
              (0x10000 + (leading - 0xD800) * 0x400 + (trailing - 0xDC00)), rest)
          else .error .malformed

/-- The byte that a short escape stands for. -/
def shortEscape? (b : UInt8) : Option UInt8 :=
  if b = 0x22 then some 0x22
  else if b = 0x5C then some 0x5C
  else if b = 0x2F then some 0x2F
  else if b = 0x62 then some 0x08
  else if b = 0x66 then some 0x0C
  else if b = 0x6E then some 0x0A
  else if b = 0x72 then some 0x0D
  else if b = 0x74 then some 0x09
  else none

/-- Reads an escape, from behind its backslash. -/
def readEscape : Reader Bytes
  | [] => .error .truncated
  | b :: rest =>
    if b = 0x75 then do
      let (n, rest) ← readHex4 rest
      if isTrailingSurrogate n then .error .malformed
      else if isLeadingSurrogate n then readTrailingSurrogate n rest
      else pure (encodeCodePoint n, rest)
    else
      match shortEscape? b with
      | some c => .ok ([c], rest)
      | none => .error .malformed

/-- Reads the bytes of a text up to its closing quote, which is read too. Each round takes at least
one byte, so the length of the input is enough fuel. -/
def readTextBytes : Nat → Reader Bytes
  | 0, _ => .error .truncated
  | _ + 1, [] => .error .truncated
  | fuel + 1, b :: rest =>
    if b = 0x22 then .ok ([], rest)
    else if b = 0x5C then do
      let (bytes, rest) ← readEscape rest
      let (more, rest) ← readTextBytes fuel rest
      pure (bytes ++ more, rest)
    else if b < 0x20 then .error .malformed
    else do
      let (more, rest) ← readTextBytes fuel rest
      pure (b :: more, rest)

/-- Reads a text, from behind its opening quote. -/
def readQuoted : Reader String := fun input => do
  let (bytes, rest) ← readTextBytes input.length input
  match Bytes.toText? bytes with
  | some s => pure (s, rest)
  | none => .error .malformed

/-- Passes over an escape, from behind its backslash. -/
def skipEscape : Bytes → Except Fault Bytes
  | [] => .error .truncated
  | b :: rest =>
    if b = 0x75 then do
      let (_, rest) ← readHex4 rest
      pure rest
    else if (shortEscape? b).isSome then .ok rest else .error .malformed

/-- Passes over a text, from behind its opening quote. -/
def skipText : Nat → Bytes → Except Fault Bytes
  | 0, _ => .error .truncated
  | _ + 1, [] => .error .truncated
  | fuel + 1, b :: rest =>
    if b = 0x22 then .ok rest
    else if b = 0x5C then do skipText fuel (← skipEscape rest)
    else if b < 0x20 then .error .malformed
    else skipText fuel rest

/-- Passes over a value that is no list and no object. -/
def skipScalar : Bytes → Except Fault Bytes
  | [] => .error .truncated
  | b :: rest =>
    if b = 0x6E then expectLetters [0x75, 0x6C, 0x6C] rest
    else if b = 0x74 then expectLetters [0x72, 0x75, 0x65] rest
    else if b = 0x66 then expectLetters [0x61, 0x6C, 0x73, 0x65] rest
    else if b = 0x2D then skipNumber rest
    else if isDigit b then skipNumber (b :: rest)
    else if b = 0x22 then skipText rest.length rest
    else .error .malformed

/-- A list or object whose end has not been reached. -/
inductive Open
  | list
  | object
deriving DecidableEq, Repr

/-- Reads the name of a member and the colon behind it, passing over both. -/
def skipName (input : Bytes) : Except Fault Bytes := do
  match skipBlanks input with
  | [] => .error .truncated
  | b :: rest =>
    if b = 0x22 then
      match skipBlanks (← skipText rest.length rest) with
      | [] => .error .truncated
      | b :: rest => if b = 0x3A then pure rest else .error .malformed
    else .error .malformed

/-- What passing over a value does next. -/
inductive SkipState
  /-- A value is due. -/
  | value
  /-- The innermost list or object has just been opened. -/
  | opened
  /-- A value inside the innermost list or object has just ended. -/
  | ended

/-- Passes over a value inside the given open lists and objects, innermost first, and on to the end
of the outermost one. Two rounds take at least one byte. -/
def skipWithin : Nat → SkipState → List Open → Bytes → Except Fault Bytes
  | 0, _, _, _ => .error .truncated
  | _ + 1, .ended, [], input => .ok input
  | fuel + 1, .value, opens, input =>
    match skipBlanks input with
    | [] => .error .truncated
    | b :: rest =>
      if b = 0x5B then skipWithin fuel .opened (.list :: opens) rest
      else if b = 0x7B then skipWithin fuel .opened (.object :: opens) rest
      else do skipWithin fuel .ended opens (← skipScalar (b :: rest))
  | _ + 1, .opened, [], input => .ok input
  | fuel + 1, .opened, .list :: opens, input =>
    match skipBlanks input with
    | [] => .error .truncated
    | b :: rest =>
      if b = 0x5D then skipWithin fuel .ended opens rest
      else skipWithin fuel .value (.list :: opens) (b :: rest)
  | fuel + 1, .opened, .object :: opens, input =>
    match skipBlanks input with
    | [] => .error .truncated
    | b :: rest =>
      if b = 0x7D then skipWithin fuel .ended opens rest
      else do skipWithin fuel .value (.object :: opens) (← skipName (b :: rest))
  | fuel + 1, .ended, .list :: opens, input =>
    match skipBlanks input with
    | [] => .error .truncated
    | b :: rest =>
      if b = 0x2C then skipWithin fuel .value (.list :: opens) rest
      else if b = 0x5D then skipWithin fuel .ended opens rest
      else .error .malformed
  | fuel + 1, .ended, .object :: opens, input =>
    match skipBlanks input with
    | [] => .error .truncated
    | b :: rest =>
      if b = 0x2C then do skipWithin fuel .value (.object :: opens) (← skipName rest)
      else if b = 0x7D then skipWithin fuel .ended opens rest
      else .error .malformed

def skipValue (input : Bytes) : Except Fault Bytes :=
  skipWithin (2 * input.length + 2) .value [] input

/-- The fault of finding a value of another kind than the expected one, at a place where one
starts. A faulty number, word or text is reported as such. -/
def unexpected (expected : Expected) : Bytes → Fault
  | [] => .truncated
  | b :: rest =>
    let found : Except Fault Found :=
      if b = 0x6E then do
        let _ ← expectLetters [0x75, 0x6C, 0x6C] rest
        pure .null
      else if b = 0x74 then do
        let _ ← expectLetters [0x72, 0x75, 0x65] rest
        pure (.boolean true)
      else if b = 0x66 then do
        let _ ← expectLetters [0x61, 0x6C, 0x73, 0x65] rest
        pure (.boolean false)
      else if b = 0x2D then do pure (← readNumber false rest).1
      else if isDigit b then do pure (← readNumber true (b :: rest)).1
      else if b = 0x22 then do pure (.text (← readQuoted rest).1)
      else if b = 0x5B then .ok .list
      else if b = 0x7B then .ok .object
      else .error .malformed
    match found with
    | .ok found => .shape [] (.kind found expected)
    | .error fault => fault

def readText : Reader String := fun input =>
  match skipBlanks input with
  | [] => .error .truncated
  | b :: rest => if b = 0x22 then readQuoted rest else .error (unexpected .text (b :: rest))

/-- Moves to the next item of a list: `none` at its closing bracket, which stays. -/
def nextItem (first : Bool) (input : Bytes) : Except Fault (Option Bytes) :=
  match skipBlanks input with
  | [] => .error .truncated
  | b :: rest =>
    if b = 0x5D then .ok none
    else if first then .ok (some (b :: rest))
    else if b = 0x2C then
      match skipBlanks rest with
      | [] => .error .truncated
      | b :: rest => if b = 0x5D then .error .malformed else .ok (some (b :: rest))
    else .error .malformed

/-- Reads the closing bracket of a list. -/
def closeList (input : Bytes) : Except Fault Bytes :=
  match skipBlanks input with
  | [] => .error .truncated
  | b :: rest => if b = 0x5D then .ok rest else .error .malformed

/-- Reads the items of a list, from the one with the given index. -/
def readItems {α : Type} (item : Reader α) : Nat → Nat → Reader (List α)
  | 0, _, _ => .error .truncated
  | fuel + 1, index, input => do
    match ← nextItem (index = 0) input with
    | none => pure ([], ← closeList input)
    | some input =>
      let (value, rest) ← (item input).mapError (·.under (.item index))
      let (values, rest) ← readItems item fuel (index + 1) rest
      pure (value :: values, rest)

def readList {α : Type} (item : Reader α) : Reader (List α) := fun input =>
  match skipBlanks input with
  | [] => .error .truncated
  | b :: rest =>
    if b = 0x5B then readItems item (rest.length + 1) 0 rest
    else .error (unexpected .list (b :: rest))

/-- Reads a value that makes up the whole input. -/
def readWhole {α : Type} (value : Reader α) (input : Bytes) : Except Fault α := do
  let (a, rest) ← value input
  if (skipBlanks rest).isEmpty then pure a else .error .malformed

end HostRegistry.Json
