/-!
# The shortest decimal that reads back

A finite floating-point number is `mantissa * 2 ^ exponent`, and every real inside a small
interval around it reads back as that number. Both ends of the interval and the number
itself are multiples of one power of ten, so the search runs on natural numbers: on the
grids of 1, 2, … 17 digits the number's two neighbours are tried, and the first grid with a
hit gives the digits.
-/

namespace SourceOutline.Decimal

/-- The number `mantissa * 2 ^ exponent`. -/
structure Binary where
  mantissa : Nat
  exponent : Int
  deriving DecidableEq, Repr

/-- The whole number that a binary number is, if it is one. -/
def Binary.whole? (number : Binary) : Option Nat :=
  if 0 ≤ number.exponent then some (number.mantissa * Nat.pow 2 number.exponent.toNat)
  else
    let unit := Nat.pow 2 (-number.exponent).toNat
    if number.mantissa % unit = 0 then some (number.mantissa / unit) else none

/-- The number `digits * 10 ^ exponent`. -/
structure Scaled where
  digits : Nat
  exponent : Int
  deriving DecidableEq, Repr

/-- A positive number with the ends of the interval that reads back as it, all three in
units of `10 ^ exponent`. The ends belong to the interval iff `closed`. -/
structure Target where
  low : Nat
  value : Nat
  high : Nat
  closed : Bool
  exponent : Int

namespace Target

/-- The target of `mantissa * 2 ^ exponent`. A quarter of the last binary place is a whole
number of units; below a power of two the lower gap is half as wide. -/
def ofBinary (mantissa : Nat) (exponent : Int) (narrowBelow : Bool) : Target :=
  let quarter := exponent - 2
  let unit := if 0 ≤ quarter then Nat.pow 2 quarter.toNat else Nat.pow 5 (-quarter).toNat
  { low := (4 * mantissa - if narrowBelow then 1 else 2) * unit
    value := 4 * mantissa * unit
    high := (4 * mantissa + 2) * unit
    closed := mantissa % 2 == 0
    exponent := if 0 ≤ quarter then 0 else quarter }

def contains (target : Target) (x : Nat) : Bool :=
  if target.closed then target.low ≤ x && x ≤ target.high else target.low < x && x < target.high

/-- The point of the grid with spacing `step` that lies inside the interval and nearest to
the number, if there is one. Of two equally near points the even one is taken. -/
def onGrid? (target : Target) (step : Nat) : Option Nat :=
  let below := target.value / step
  let above := below + 1
  let lowerGap := target.value - below * step
  let upperGap := above * step - target.value
  match target.contains (below * step), target.contains (above * step) with
  | true, true =>
    if lowerGap < upperGap || (lowerGap == upperGap && below % 2 == 0) then some below
    else some above
  | true, false => some below
  | false, true => some above
  | false, false => none

/-- The first hit when `width` digits are allowed, then one more, at most `tries` times. A hit
on the next power of ten is that power and has one digit. -/
def search (target : Target) (length : Nat) : (tries width : Nat) → Scaled
  | 0, _ => { digits := target.value, exponent := target.exponent }
  | tries + 1, width =>
    let places := length - width
    match target.onGrid? (Nat.pow 10 places) with
    | some digits =>
      if digits = Nat.pow 10 width then
        { digits := 1, exponent := target.exponent + places + width }
      else { digits := digits, exponent := target.exponent + places }
    | none => search target length tries (width + 1)

def shortest (target : Target) : Scaled :=
  target.search (Nat.toDigits 10 target.value).length 17 1

end Target

/-- The leading bit of a normal double, which is not stored. -/
def leadingBit : Nat := Nat.pow 2 52

/-- The shortest digits of a double. Among the doubles only powers of two above the least
normal one have a closer neighbour below than above. -/
def Binary.shortest (number : Binary) : Scaled :=
  if number.mantissa = 0 then { digits := 0, exponent := 0 }
  else
    let narrowBelow := number.mantissa = leadingBit && -1074 < number.exponent
    (Target.ofBinary number.mantissa number.exponent narrowBelow).shortest

/-- What a double is: a signed finite number, an infinity, or no number. -/
inductive Reading where
  | finite (negative : Bool) (magnitude : Binary)
  | infinite (negative : Bool)
  | undefined

/-- Read the bits of a double. -/
def Reading.ofFloat (x : Float) : Reading :=
  let bits := x.toBits.toNat
  let negative := bits / Nat.pow 2 63 == 1
  let biased : Nat := bits / leadingBit % Nat.pow 2 11
  let fraction := bits % leadingBit
  if biased == 2047 then
    if fraction == 0 then .infinite negative else .undefined
  else if biased == 0 then .finite negative { mantissa := fraction, exponent := -1074 }
  else .finite negative { mantissa := leadingBit + fraction, exponent := (biased : Int) - 1075 }

end SourceOutline.Decimal
