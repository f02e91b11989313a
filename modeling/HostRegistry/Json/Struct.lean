import HostRegistry.Json.Reader

/-!
# Reading structures

A structure is written as an object with its fields as members, in any order and among unknown
members, or as a list of its fields in their order. A field may be given once. Fields that may be
left out take their default; the first other one that is missing is a fault of shape.
-/

namespace HostRegistry.Json

/-- A field of a structure whose fields are gathered in `ρ`. -/
structure Field (ρ : Type) where
  name : String
  isGiven : ρ → Bool
  read : Reader (ρ → ρ)

structure Struct (ρ α : Type) where
  name : String
  fields : List (Field ρ)
  /-- No field given yet. -/
  start : ρ
  /-- The structure, or the name of the first required field that is not given. -/
  finish : ρ → Except String α

namespace Struct

variable {ρ α : Type}

/-- Reads the fields of a structure from the items of a list, from the item with the given index
on, and stops at the end of the list or of the fields. -/
def readItems : List (Field ρ) → Nat → ρ → Reader ρ
  | [], _, given, input => .ok (given, input)
  | field :: fields, index, given, input => do
    match ← nextItem (index = 0) input with
    | none => pure (given, input)
    | some input =>
      let (set, rest) ← (field.read input).mapError (·.under (.item index))
      readItems fields (index + 1) (set given) rest

/-- Moves to the next member of an object: `none` with the bytes behind it at its closing brace,
or the member's name with the bytes behind that. -/
def nextMember (first : Bool) (input : Bytes) : Except Fault (Option String × Bytes) :=
  let name (input : Bytes) : Except Fault (Option String × Bytes) :=
    match input with
    | [] => .error .truncated
    | b :: rest =>
      if b = 0x22 then do
        let (s, rest) ← readQuoted rest
        pure (some s, rest)
      else .error .malformed
  match skipBlanks input with
  | [] => .error .truncated
  | b :: rest =>
    if b = 0x7D then .ok (none, rest)
    else if first then name (b :: rest)
    else if b = 0x2C then name (skipBlanks rest)
    else .error .malformed

/-- Reads the colon between a name and its value. -/
def readColon (input : Bytes) : Except Fault Bytes :=
  match skipBlanks input with
  | [] => .error .truncated
  | b :: rest => if b = 0x3A then .ok rest else .error .malformed

/-- Reads the members of an object, up to and including its closing brace. -/
def readMembers (fields : List (Field ρ)) : Nat → Bool → ρ → Reader ρ
  | 0, _, _, _ => .error .truncated
  | fuel + 1, first, given, input => do
    match ← nextMember first input with
    | (none, rest) => pure (given, rest)
    | (some name, rest) =>
      match fields.find? (·.name = name) with
      | none => readMembers fields fuel false given (← skipValue (← readColon rest))
      | some field =>
        if field.isGiven given then .error (.shape [] (.duplicateField name))
        else
          let (set, rest) ← (field.read (← readColon rest)).mapError (·.under (.field name))
          readMembers fields fuel false (set given) rest

def read (struct : Struct ρ α) : Reader α := fun input => do
  match skipBlanks input with
  | [] => .error .truncated
  | b :: rest =>
    if b = 0x5B then
      let (given, rest) ← readItems struct.fields 0 struct.start rest
      match struct.finish given with
      | .ok a => pure (a, ← closeList rest)
      | .error missing =>
        .error (.shape [] (.length (struct.fields.findIdx (·.name = missing)) struct.name
          struct.fields.length))
    else if b = 0x7B then
      let (given, rest) ← readMembers struct.fields (rest.length + 1) true struct.start rest
      match struct.finish given with
      | .ok a => pure (a, rest)
      | .error missing => .error (.shape [] (.missingField missing))
    else .error (unexpected (.struct struct.name) (b :: rest))

end Struct

end HostRegistry.Json
