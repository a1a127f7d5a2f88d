import SourceOutline.Decimal.Shortest

/-!
# Floating-point numbers as text

Numbers from `10 ^ -4` up to `10 ^ 16` are written positionally and always show a point;
all others show one digit before the point and an exponent of at least two digits. The
words for the infinities and for no number belong to the format that is written.
-/

namespace SourceOutline.Decimal

/-- How a format spells what is not a finite number. -/
structure Words where
  infinity : String
  undefined : String

/-- Digits with the decimal point after the first `point` of them; a point outside the
digits is reached by filling with zeros. -/
def positional (digits : List Char) (point : Int) : List Char :=
  if point ≤ 0 then
    ['0', '.'] ++ List.replicate (-point).toNat '0' ++ digits
  else if digits.length ≤ point.toNat then
    digits ++ List.replicate (point.toNat - digits.length) '0' ++ ['.', '0']
  else
    digits.take point.toNat ++ ['.'] ++ digits.drop point.toNat

/-- One digit, the others behind a point, and the power of ten of the first digit. -/
def scientific (digits : List Char) (power : Int) : List Char :=
  let fraction := if digits.length ≤ 1 then [] else '.' :: digits.drop 1
  let size := Nat.toDigits 10 power.natAbs
  let filled := if size.length < 2 then '0' :: size else size
  digits.take 1 ++ fraction ++ ['e', if power < 0 then '-' else '+'] ++ filled

/-- The text of a finite magnitude. -/
def Scaled.render (magnitude : Scaled) : List Char :=
  let digits := Nat.toDigits 10 magnitude.digits
  let point : Int := digits.length + magnitude.exponent
  if magnitude.digits == 0 then ['0', '.', '0']
  else if -4 < point && point ≤ 16 then positional digits point
  else scientific digits (point - 1)

/-- The text of a floating-point number. -/
def render (words : Words) (x : Float) : String :=
  let signed (negative : Bool) (text : String) := if negative then "-" ++ text else text
  match Reading.ofFloat x with
  | .finite negative magnitude => signed negative (String.ofList magnitude.shortest.render)
  | .infinite negative => signed negative words.infinity
  | .undefined => words.undefined

/-- The double nearest to `digits * 10 ^ exponent`. Exponents far outside the range of
doubles are settled without computing the power. -/
def toFloat (negative : Bool) (digits : Nat) (exponent : Int) : Float :=
  let length : Int := (Nat.toDigits 10 digits).length
  let magnitude :=
    if digits == 0 || length + exponent < -400 then 0.0
    else if 400 < length + exponent then 1.0 / 0.0
    else Float.ofScientific digits (exponent < 0) exponent.natAbs
  if negative then -magnitude else magnitude

end SourceOutline.Decimal
