import HostRegistry.Bytes
import HostRegistry.Decimal.Shortest
import HostRegistry.Json.Fault

/-!
# Reading numbers

A number without fraction and exponent is an integer when 64 bits hold it, and else a fraction. The
digits of a fraction are gathered in 64 bits as long as they fit, the rest counts as its exponent,
and the exponent is then applied by powers of ten, so the result may be one place off the nearest.
-/

namespace HostRegistry.Json

def isDigit (b : UInt8) : Bool := 0x30 ≤ b && b ≤ 0x39

def digitValue (b : UInt8) : Nat := b.toNat - 0x30

/-- The largest number that gathered digits may reach. -/
def maxGathered : Nat := 0xFFFFFFFFFFFFFFFF

/-- The largest exponent that is not out of range as such. -/
def maxExponent : Nat := 0x7FFFFFFF

/-- Gathers digits into a number as long as it stays in range; gives the digits left over too. -/
def gather (limit : Nat) : Nat → Bytes → Nat × Bytes
  | n, [] => (n, [])
  | n, b :: rest =>
    let next := n * 10 + digitValue b
    if next ≤ limit then gather limit next rest else (n, b :: rest)

/-- Applies a power of ten to a double; `none` if the result is out of range. -/
def scale (x : Float) : Nat → Int → Option Float
  | 0, _ => some x
  | fuel + 1, e =>
    if e.natAbs ≤ 308 then
      let power := Float.ofScientific 1 false e.natAbs
      if e < 0 then some (x / power)
      else if (x * power).isInf then none else some (x * power)
    else if x == 0 then some x
    else if 0 ≤ e then none
    else scale (x / Float.ofScientific 1 false 308) fuel (e + 308)

/-- The fraction with the given digits and exponent. -/
def fraction (positive : Bool) (digits : Nat) (exponent : Int) : Except Fault Found :=
  match scale digits.toUInt64.toFloat (exponent.natAbs / 308 + 2) exponent with
  | some x => .ok (.fraction (Decimal.text (if positive then x else -x)))
  | none => .error .malformed

/-- Reads what follows the sign of an exponent. -/
def readExponentDigits (positive : Bool) (digits : Nat) (exponent : Int) (up : Bool)
    (input : Bytes) : Except Fault (Found × Bytes) :=
  match input with
  | [] => .error .truncated
  | b :: _ =>
    if isDigit b then
      let rest := input.dropWhile isDigit
      match gather maxExponent 0 (input.takeWhile isDigit) with
      | (e, []) => do
        let found ← fraction positive digits (if up then exponent + e else exponent - e)
        pure (found, rest)
      | (_, _ :: _) =>
        if digits ≠ 0 ∧ up then .error .malformed
        else .ok (.fraction (if positive then "0.0" else "-0.0"), rest)
    else .error .malformed

/-- Reads an exponent, from behind its letter. -/
def readExponent (positive : Bool) (digits : Nat) (exponent : Int) (input : Bytes) :
    Except Fault (Found × Bytes) :=
  match input with
  | 0x2B :: rest => readExponentDigits positive digits exponent true rest
  | 0x2D :: rest => readExponentDigits positive digits exponent false rest
  | _ => readExponentDigits positive digits exponent true input

def isExponentLetter (b : UInt8) : Bool := b = 0x65 || b = 0x45

/-- Reads the places behind a point, and an exponent if there is one. -/
def readPlaces (positive : Bool) (digits : Nat) (exponent : Int) (input : Bytes) :
    Except Fault (Found × Bytes) :=
  match input.takeWhile isDigit with
  | [] => if input.isEmpty then .error .truncated else .error .malformed
  | places =>
    let (digits, left) := gather maxGathered digits places
    let exponent := exponent - (places.length - left.length : Nat)
    match input.dropWhile isDigit with
    | b :: rest =>
      if isExponentLetter b then readExponent positive digits exponent rest
      else do pure (← fraction positive digits exponent, b :: rest)
    | [] => do pure (← fraction positive digits exponent, [])

/-- The integer as it is found; minus zero and integers of more than 64 bits are fractions. -/
def integer (positive : Bool) (n : Nat) : Except Fault Found :=
  if positive then .ok (.integer n)
  else if 0 < n ∧ n ≤ 0x8000000000000000 then .ok (.integer (-n))
  else fraction false n 0

/-- Reads a number from behind its sign. -/
def readNumber (positive : Bool) (input : Bytes) : Except Fault (Found × Bytes) :=
  match input.takeWhile isDigit with
  | [] => if input.isEmpty then .error .truncated else .error .malformed
  | first :: more =>
    if first = 0x30 ∧ more ≠ [] then .error .malformed
    else
      let (digits, left) := gather maxGathered 0 (first :: more)
      let exponent : Int := left.length
      match input.dropWhile isDigit with
      | [] => do pure (← (if left = [] then integer positive digits
                          else fraction positive digits exponent), [])
      | b :: rest =>
        if b = 0x2E then readPlaces positive digits exponent rest
        else if isExponentLetter b then readExponent positive digits exponent rest
        else do pure (← (if left = [] then integer positive digits
                         else fraction positive digits exponent), b :: rest)

/-- Passes over an exponent, from behind its letter. -/
def skipExponent (input : Bytes) : Except Fault Bytes :=
  let input := match input with
    | 0x2B :: rest => rest
    | 0x2D :: rest => rest
    | _ => input
  if (input.takeWhile isDigit).isEmpty then .error .malformed else .ok (input.dropWhile isDigit)

/-- Passes over a number, from behind its sign. Its size does not matter, and one that is cut off
is malformed. -/
def skipNumber (input : Bytes) : Except Fault Bytes :=
  match input.takeWhile isDigit with
  | [] => .error .malformed
  | first :: more =>
    if first = 0x30 ∧ more ≠ [] then .error .malformed
    else
      match input.dropWhile isDigit with
      | 0x2E :: rest =>
        if (rest.takeWhile isDigit).isEmpty then .error .malformed
        else
          match rest.dropWhile isDigit with
          | b :: rest => if isExponentLetter b then skipExponent rest else .ok (b :: rest)
          | [] => .ok []
      | b :: rest => if isExponentLetter b then skipExponent rest else .ok (b :: rest)
      | [] => .ok []

end HostRegistry.Json
