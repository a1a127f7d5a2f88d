import SourceOutline.Text.Basic

/-!
# Integers written as text

A decimal digit is any character of the Unicode class of decimal digits; digits of one
script stand in order, so the table holds only the zeros. Single underscores may stand
between digits.
-/

namespace SourceOutline.Text

/-- The zeros of all scripts that have decimal digits. -/
def decimalZeros : List Nat := [
  0x30, 0x660, 0x6F0, 0x7C0, 0x966, 0x9E6, 0xA66, 0xAE6, 0xB66, 0xBE6, 0xC66, 0xCE6, 0xD66,
  0xDE6, 0xE50, 0xED0, 0xF20, 0x1040, 0x1090, 0x17E0, 0x1810, 0x1946, 0x19D0, 0x1A80, 0x1A90,
  0x1B50, 0x1BB0, 0x1C40, 0x1C50, 0xA620, 0xA8D0, 0xA900, 0xA9D0, 0xA9F0, 0xAA50, 0xABF0,
  0xFF10, 0x104A0, 0x10D30, 0x11066, 0x110F0, 0x11136, 0x111D0, 0x112F0, 0x11450, 0x114D0,
  0x11650, 0x116C0, 0x11730, 0x118E0, 0x11950, 0x11C50, 0x11D50, 0x11DA0, 0x16A60, 0x16AC0,
  0x16B50, 0x1D7CE, 0x1D7D8, 0x1D7E2, 0x1D7EC, 0x1D7F6, 0x1E140, 0x1E2F0, 0x1E950, 0x1FBF0]

/-- The value of a decimal digit of any script. -/
def decimalDigit? (c : Char) : Option Nat :=
  (decimalZeros.find? (fun first => first ≤ c.toNat && c.toNat < first + 10)).map
    (fun first => c.toNat - first)

/-- The value of an ASCII digit. -/
def asciiDigit? (c : Char) : Option Nat :=
  if '0' ≤ c && c ≤ '9' then some (c.toNat - '0'.toNat) else none

/-- Read digits with single underscores between them. `value` is what stands before, and
`between` tells whether the last character read was a digit. -/
def digitsValue? (digit? : Char → Option Nat) (value : Nat) (between : Bool) :
    List Char → Option Nat
  | [] => if between then some value else none
  | c :: rest =>
    match digit? c with
    | some d => digitsValue? digit? (10 * value + d) true rest
    | none => if c == '_' && between then digitsValue? digit? value false rest else none

/-- An optional sign in front of a natural number. -/
def signedValue? (digit? : Char → Option Nat) : List Char → Option Int
  | '+' :: rest => (digitsValue? digit? 0 false rest).map Int.ofNat
  | '-' :: rest => (digitsValue? digit? 0 false rest).map (fun n => -Int.ofNat n)
  | cs => (digitsValue? digit? 0 false cs).map Int.ofNat

/-- The most digits that an integer may be written with. -/
def digitLimit : Nat := 4300

/-- An integer with white space around it. -/
def integer? (text : String) : Option Int :=
  let digits := text.toList.filter fun c => (decimalDigit? c).isSome
  if digitLimit < digits.length then none
  else signedValue? decimalDigit? (trimBy isWhiteSpace text.toList)

end SourceOutline.Text
