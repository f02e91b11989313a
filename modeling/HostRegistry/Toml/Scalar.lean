/-!
# Numbers, dates and times

A word, that is, a run of letters, digits and signs, is a number, a date, a time, a truth value or
nothing. Underscores stand between digits only, integers have 64 bits, and days exist in their
month.
-/

namespace HostRegistry.Toml.Scalar

def digitsValue (base : Nat) (cs : List Char) : Nat :=
  cs.foldl (fun n c =>
    n * base + (if c.isDigit then c.toNat - 0x30 else (c.toNat ||| 0x20) - 0x57)) 0

/-- Digits with single underscores between them; gives the digits alone. -/
def digits? (isDigit : Char → Bool) : List Char → Option (List Char)
  | [] => none
  | c :: rest =>
    if !isDigit c then none
    else
      match rest with
      | [] => some [c]
      | '_' :: rest => (digits? isDigit rest).map (c :: ·)
      | rest => (digits? isDigit rest).map (c :: ·)

def isHexDigit (c : Char) : Bool :=
  c.isDigit || ('a' ≤ c && c ≤ 'f') || ('A' ≤ c && c ≤ 'F')

/-- A sign and what follows it. -/
def signed (cs : List Char) : Bool × List Char :=
  match cs with
  | '+' :: rest => (false, rest)
  | '-' :: rest => (true, rest)
  | _ => (false, cs)

/-- Decimal digits without a leading zero. -/
def wholePart? (cs : List Char) : Option (List Char) :=
  (digits? Char.isDigit cs).bind fun ds =>
    if ds.head? = some '0' && ds.length > 1 then none else some ds

def inRange (n : Int) : Option Int :=
  if -0x8000000000000000 ≤ n ∧ n < 0x8000000000000000 then some n else none

def integer? (cs : List Char) : Option Int :=
  match cs with
  | '0' :: 'x' :: rest => (digits? isHexDigit rest).bind fun ds => inRange (digitsValue 16 ds)
  | '0' :: 'o' :: rest =>
    (digits? (fun c => '0' ≤ c && c ≤ '7') rest).bind fun ds => inRange (digitsValue 8 ds)
  | '0' :: 'b' :: rest =>
    (digits? (fun c => c = '0' || c = '1') rest).bind fun ds => inRange (digitsValue 2 ds)
  | _ =>
    let (negative, rest) := signed cs
    (wholePart? rest).bind fun ds =>
      let n : Int := digitsValue 10 ds
      inRange (if negative then -n else n)

/-- Whether the digits times a power of ten round to a finite double: they stay below the middle
between the largest one and the next power of two. -/
def isFinite (digits : Nat) (exponent : Int) : Bool :=
  if digits = 0 then true
  else
    let size : Int := (toString digits).length + exponent
    if size > 310 then false
    else if size < 300 then true
    else digits * Nat.pow 10 exponent.toNat <
      (Nat.pow 2 1024 - Nat.pow 2 970) * Nat.pow 10 (-exponent).toNat

/-- An exponent, from behind its letter. -/
def exponent? (cs : List Char) : Option Int :=
  let (negative, rest) := signed cs
  (digits? Char.isDigit rest).map fun ds =>
    let n : Int := digitsValue 10 ds
    if negative then -n else n

def isExponentLetter (c : Char) : Bool := c = 'e' || c = 'E'

def notExponentLetter (c : Char) : Bool := !isExponentLetter c

/-- Whether the word is a number with a fraction or an exponent, and not above all doubles. -/
def isFraction (cs : List Char) : Bool :=
  let (negative, rest) := signed cs
  if rest = "inf".toList || rest = "nan".toList then true
  else
    let mantissa := rest.takeWhile notExponentLetter
    let places := (mantissa.dropWhile (· ≠ '.')).drop 1
    let hasPoint := mantissa.contains '.'
    let exponent := match rest.dropWhile notExponentLetter with
      | [] => if hasPoint then some 0 else none
      | _ :: rest => exponent? rest
    let fractionDigits := if hasPoint then digits? Char.isDigit places else some []
    match wholePart? (mantissa.takeWhile (· ≠ '.')), fractionDigits, exponent with
    | some whole, some places, some e =>
      negative || isFinite (digitsValue 10 (whole ++ places)) (e - places.length)
    | _, _, _ => false

/-! ## Dates and times -/

/-- Exactly `n` digits, as a number, and the rest. -/
def number? (n : Nat) (cs : List Char) : Option (Nat × List Char) :=
  let ds := cs.take n
  if ds.length = n && ds.all Char.isDigit then some (digitsValue 10 ds, cs.drop n) else none

def char? (c : Char) : List Char → Option (List Char)
  | c' :: rest => if c' = c then some rest else none
  | [] => none

def isLeapYear (year : Nat) : Bool := year % 4 = 0 && (year % 100 ≠ 0 || year % 400 = 0)

def daysIn (year month : Nat) : Nat :=
  if month = 2 then (if isLeapYear year then 29 else 28)
  else if month = 4 || month = 6 || month = 9 || month = 11 then 30
  else 31

/-- Reads a date. -/
def date? (cs : List Char) : Option (List Char) := do
  let (year, cs) ← number? 4 cs
  let cs ← char? '-' cs
  let (month, cs) ← number? 2 cs
  let cs ← char? '-' cs
  let (day, cs) ← number? 2 cs
  if 1 ≤ month && month ≤ 12 && 1 ≤ day && day ≤ daysIn year month then some cs else none

/-- Reads a time of day. -/
def time? (cs : List Char) : Option (List Char) := do
  let (hour, cs) ← number? 2 cs
  let cs ← char? ':' cs
  let (minute, cs) ← number? 2 cs
  let cs ← char? ':' cs
  let (second, cs) ← number? 2 cs
  if hour > 23 || minute > 59 || second > 60 then none
  else
    match cs with
    | '.' :: rest =>
      if (rest.takeWhile Char.isDigit).isEmpty then none else some (rest.dropWhile Char.isDigit)
    | _ => some cs

/-- Whether the text is a distance from universal time, or nothing. -/
def isOffset (cs : List Char) : Bool :=
  match cs with
  | [] => true
  | ['Z'] | ['z'] => true
  | sign :: rest =>
    if sign = '+' || sign = '-' then
      match (do
        let (hour, rest) ← number? 2 rest
        let rest ← char? ':' rest
        let (minute, rest) ← number? 2 rest
        pure (hour, minute, rest) : Option (Nat × Nat × List Char)) with
      | some (hour, minute, []) => hour ≤ 23 && minute ≤ 59
      | _ => false
    else false

/-- Whether the text is a date, a time, or a date, a mark and a time. -/
def isMoment (cs : List Char) : Bool :=
  match date? cs with
  | some [] => true
  | some (mark :: rest) =>
    if mark = 'T' || mark = 't' || mark = ' ' then
      match time? rest with
      | some rest => isOffset rest
      | none => false
    else false
  | none => time? cs = some []

end HostRegistry.Toml.Scalar
