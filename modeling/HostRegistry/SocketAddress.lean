/-!
# Socket addresses

An address is an IPv4 address in four decimal numbers or an IPv6 address in brackets, with a number
below 65536 behind a colon. `::` stands for one run of zero groups, at least one, and the last two
groups of an IPv6 address may be written as an IPv4 address.
-/

namespace HostRegistry

inductive SocketAddress
  | v4 (octets : List Nat) (portNumber : Nat)
  | v6 (groups : List Nat) (scope portNumber : Nat)
deriving DecidableEq, Repr

namespace SocketAddress

abbrev Reader (α : Type) := List Char → Option (α × List Char)

def digitOf? (base : Nat) (c : Char) : Option Nat :=
  let n := c.toNat
  if 0x30 ≤ n ∧ n ≤ 0x39 then some (n - 0x30)
  else if base = 16 ∧ 0x61 ≤ n ∧ n ≤ 0x66 then some (n - 0x57)
  else if base = 16 ∧ 0x41 ≤ n ∧ n ≤ 0x46 then some (n - 0x37)
  else none

/-- Reads a number of at most `maxDigits` digits that does not pass `limit`. -/
def readNumber (base maxDigits limit : Nat) (zeroFirst : Bool) : Reader Nat := fun cs =>
  let ds := cs.takeWhile fun c => (digitOf? base c).isSome
  let value := ds.foldl (fun n c => n * base + (digitOf? base c).getD 0) 0
  if ds.isEmpty || ds.length > maxDigits || value > limit then none
  else if !zeroFirst && ds.head? = some '0' && ds.length > 1 then none
  else some (value, cs.dropWhile fun c => (digitOf? base c).isSome)

def readChar (c : Char) : List Char → Option (List Char)
  | c' :: rest => if c' = c then some rest else none
  | [] => none

def readOctet : Reader Nat := readNumber 10 3 255 false

def readV4 : Reader (List Nat) := fun cs => do
  let (a, cs) ← readOctet cs
  let (b, cs) ← readOctet (← readChar '.' cs)
  let (c, cs) ← readOctet (← readChar '.' cs)
  let (d, cs) ← readOctet (← readChar '.' cs)
  pure ([a, b, c, d], cs)

/-- The two groups that an IPv4 address stands for. -/
def groupsOfV4 (octets : List Nat) : List Nat :=
  [octets.getD 0 0 * 256 + octets.getD 1 0, octets.getD 2 0 * 256 + octets.getD 3 0]

/-- Passes over the colon before a group, unless it is the first. -/
def separated (first : Bool) (cs : List Char) : Option (List Char) :=
  if first then some cs else readChar ':' cs

/-- Reads up to `limit` groups; tells whether an IPv4 address was the last. -/
def readGroups : Nat → Bool → List Char → List Nat × Bool × List Char
  | 0, _, cs => ([], false, cs)
  | left + 1, first, cs =>
    let embedded : Option (List Nat × List Char) :=
      if left = 0 then none else (separated first cs).bind readV4
    match embedded with
    | some (octets, rest) => (groupsOfV4 octets, true, rest)
    | none =>
      match (separated first cs).bind (readNumber 16 4 0xFFFF true) with
      | none => ([], false, cs)
      | some (group, rest) =>
        let (groups, embedded, rest) := readGroups left false rest
        (group :: groups, embedded, rest)

def readV6 : Reader (List Nat) := fun cs => do
  let (head, embedded, cs) := readGroups 8 true cs
  if head.length = 8 then pure (head, cs)
  else if embedded then none
  else
    let cs ← readChar ':' (← readChar ':' cs)
    let (tail, _, cs) := readGroups (7 - head.length) true cs
    pure (head ++ List.replicate (8 - head.length - tail.length) 0 ++ tail, cs)

/-- Reads a scope behind a percent sign, if there is one. -/
def readScope (cs : List Char) : Nat × List Char :=
  match (readChar '%' cs).bind (readNumber 10 cs.length 0xFFFFFFFF true) with
  | some (scope, rest) => (scope, rest)
  | none => (0, cs)

def readPortNumber : Reader Nat := fun cs => do
  readNumber 10 cs.length 0xFFFF true (← readChar ':' cs)

def ofText? (s : String) : Option SocketAddress := do
  let cs := s.toList
  match readV4 cs with
  | some (octets, rest) =>
    match ← readPortNumber rest with
    | (portNumber, []) => pure (.v4 octets portNumber)
    | _ => none
  | none =>
    let (groups, rest) ← readV6 (← readChar '[' cs)
    let (scope, rest) := readScope rest
    match ← readPortNumber (← readChar ']' rest) with
    | (portNumber, []) => pure (.v6 groups scope portNumber)
    | _ => none

/-! ## Writing -/

def v4Text (octets : List Nat) : String := ".".intercalate (octets.map toString)

def hexText (n : Nat) : String := String.ofList (Nat.toDigits 16 n)

def groupsText (groups : List Nat) : String := ":".intercalate (groups.map hexText)

/-- The start and length of the first longest run of zero groups. -/
def longestZeros (groups : List Nat) : Nat × Nat :=
  let runs := (List.range groups.length).map fun i =>
    (i, ((groups.drop i).takeWhile (· = 0)).length)
  runs.foldl (fun best run => if run.2 > best.2 then run else best) (0, 0)

def v6Text (groups : List Nat) : String :=
  match groups with
  | [0, 0, 0, 0, 0, 0xFFFF, a, b] => "::ffff:" ++ v4Text [a / 256, a % 256, b / 256, b % 256]
  | _ =>
    let (start, length) := longestZeros groups
    if length > 1 then
      groupsText (groups.take start) ++ "::" ++ groupsText (groups.drop (start + length))
    else groupsText groups

def text : SocketAddress → String
  | v4 octets portNumber => s!"{v4Text octets}:{portNumber}"
  | v6 groups scope portNumber =>
    let scopeText := if scope = 0 then "" else s!"%{scope}"
    s!"[{v6Text groups}{scopeText}]:{portNumber}"

end SocketAddress

end HostRegistry
