/-!
# The shortest decimal of a binary fraction

A positive number `m * 2 ^ q` is one of the values that 53 binary digits can hold; the reals that
round to it form an interval, closed when `m` is even. `shortest` finds the decimal with the fewest
digits inside that interval, and of those the one nearest to the number.
-/

namespace HostRegistry.Decimal

/-- The number `digits * 10 ^ exponent`. -/
structure Scaled where
  digits : Nat
  exponent : Int
deriving DecidableEq, Repr

/-- The number `mantissa * 2 ^ exponent`. -/
structure Binary where
  mantissa : Nat
  exponent : Int
deriving DecidableEq, Repr

/-- The powers with an exponent of zero or more; one for the others. -/
def twoTo (e : Int) : Nat := Nat.pow 2 e.toNat

def tenTo (e : Int) : Nat := Nat.pow 10 e.toNat

/-- The weight of the first of 53 binary digits. -/
def firstDigit : Nat := 0x10000000000000

/-- The magnitude that the bits of a double stand for. -/
def Binary.ofBits (bits : UInt64) : Binary :=
  let fraction : Nat := bits.toNat % firstDigit
  let biased : Nat := bits.toNat / firstDigit % 0x800
  if biased = 0 then ⟨fraction, -1074⟩ else ⟨firstDigit + fraction, (biased : Int) - 1075⟩

/-- The interval of the reals that round to a number, in units of `1 / scale`. -/
structure Interval where
  low : Nat
  value : Nat
  high : Nat
  scale : Nat
  closed : Bool

/-- A number below a power of two has its lower neighbour at half the usual distance. -/
def Binary.interval (b : Binary) : Interval :=
  let below := if b.mantissa = firstDigit ∧ b.exponent > -1074 then 1 else 2
  let up := twoTo (b.exponent - 2)
  { low := (4 * b.mantissa - below) * up
    value := 4 * b.mantissa * up
    high := (4 * b.mantissa + 2) * up
    scale := twoTo (2 - b.exponent)
    closed := b.mantissa % 2 = 0 }

/-- Whether `digits * 10 ^ exponent` lies in the interval. -/
def Interval.holds (i : Interval) (d : Scaled) : Bool :=
  let x := d.digits * tenTo d.exponent * i.scale
  let unit := tenTo (-d.exponent)
  if i.closed then i.low * unit ≤ x && x ≤ i.high * unit
  else i.low * unit < x && x < i.high * unit

/-- The point of the grid of step `10 ^ exponent` that lies in the interval nearest its value. -/
def Interval.onGrid? (i : Interval) (exponent : Int) : Option Scaled :=
  let num := i.value * tenTo (-exponent)
  let den := i.scale * tenTo exponent
  let floor := num / den
  let twice := 2 * (num % den)
  let nearFloor := twice < den || (twice = den && floor % 2 = 0)
  let first := if nearFloor then floor else floor + 1
  let second := if nearFloor then floor + 1 else floor
  [first, second].findSome? fun d =>
    if i.holds ⟨d, exponent⟩ then some ⟨d, exponent⟩ else none

/-- The least `e` with `num / den < 10 ^ e`, searched upwards from `e`. -/
def magnitudeFrom (num den : Nat) : Nat → Int → Int
  | 0, e => e
  | fuel + 1, e =>
    if num * tenTo (-e) < den * tenTo e then e else magnitudeFrom num den fuel (e + 1)

/-- Removes the zeros at the end of the digits. -/
def Scaled.trimmed : Nat → Scaled → Scaled
  | 0, d => d
  | fuel + 1, d =>
    if d.digits % 10 = 0 ∧ d.digits ≠ 0 then Scaled.trimmed fuel ⟨d.digits / 10, d.exponent + 1⟩
    else d

def shortest (b : Binary) : Scaled :=
  let i := b.interval
  let top := magnitudeFrom i.value i.scale 700 (-330)
  let grids := (List.range 18).map fun (n : Nat) => top - (n : Int)
  ((grids.findSome? i.onGrid?).getD ⟨b.mantissa, 0⟩).trimmed 20

/-- Up to sixteen places before the point and up to four zeros behind it are written out; any other
number is written with its first digit before the point and the exponent with its sign behind
`e`. -/
def Scaled.text (d : Scaled) : String :=
  let digits := (toString d.digits).toList
  let point : Int := digits.length + d.exponent
  if 0 ≤ d.exponent ∧ point ≤ 16 then
    String.ofList (digits ++ List.replicate d.exponent.toNat '0') ++ ".0"
  else if 0 < point ∧ point ≤ 16 then
    String.ofList (digits.take point.toNat) ++ "." ++ String.ofList (digits.drop point.toNat)
  else if -5 < point ∧ point ≤ 0 then
    "0." ++ String.ofList (List.replicate (-point).toNat '0' ++ digits)
  else
    let fraction := digits.drop 1
    let fractionText := if fraction.isEmpty then "" else "." ++ String.ofList fraction
    let exponentSign := if 0 < point then "e+" else "e-"
    String.ofList (digits.take 1) ++ fractionText ++ exponentSign ++ toString (point - 1).natAbs

/-- The text of a finite double. -/
def text (x : Float) : String :=
  let bits := x.toBits
  let sign := if bits.toNat < 0x8000000000000000 then "" else "-"
  let b := Binary.ofBits bits
  sign ++ (if b.mantissa = 0 then "0.0" else (shortest b).text)

end HostRegistry.Decimal
