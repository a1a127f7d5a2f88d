import SourceOutline.Decimal.Layout
import SourceOutline.Json.Reader
import SourceOutline.Settings.Problem
import SourceOutline.Text.Basic
import SourceOutline.Text.Numeral

/-!
# Values of settings

Settings come as text from the environment or as JSON from a configuration; both are read
into the type of the setting. Numbers and truth values accept their common written forms, and
lists accept a text with commas.
-/

namespace SourceOutline.Settings

/-- A value, or the way in which it is wrong. -/
abbrev Checked (α : Type) : Type := Except Problem.Kind α

def readString : Json → Checked String
  | .string text => .ok text
  | _ => .error .stringType

/-- The words for truth values, in lower case. -/
def readBoolWord (text : String) : Checked Bool :=
  match Text.lowerCase text with
  | "1" | "true" | "t" | "yes" | "y" | "on" => .ok true
  | "0" | "false" | "f" | "no" | "n" | "off" => .ok false
  | _ => .error .boolParsing

/-- Numbers of machine size lie below this bound and not below its negative. -/
def machineBound : Nat := Nat.pow 2 63

/-- A number of machine size that stands for a truth value. -/
def boolOfInt (n : Int) : Checked Bool :=
  if n = 0 then .ok false
  else if n = 1 then .ok true
  else if -machineBound ≤ n && n < machineBound then .error .boolParsing
  else .error .boolType

/-- The whole number of machine size that a double is, if it is one. -/
def wholeOfFloat (x : Float) : Checked Int :=
  match Decimal.Reading.ofFloat x with
  | .finite negative magnitude =>
    match magnitude.whole? with
    | none => .error .intFromFloat
    | some size =>
      if machineBound ≤ size then .error .intSize
      else .ok (if negative then -(size : Int) else size)
  | _ => .error .finiteNumber

def readBool : Json → Checked Bool
  | .bool value => .ok value
  | .string text => readBoolWord text
  | .int n => boolOfInt n
  | .float x =>
    match wholeOfFloat x with
    | .ok n => boolOfInt n
    | .error _ => .error .boolType
  | _ => .error .boolType

/-- Drop a point with nothing but zeros, and at least one of them, behind it. -/
def dropZeroFraction (cs : List Char) : List Char :=
  match cs.dropWhile (· != '.') with
  | _ :: fraction =>
    if !fraction.isEmpty && fraction.all (· == '0') then cs.takeWhile (· != '.') else cs
  | [] => cs

/-- Underscores between other characters are dropped; elsewhere they stay and spoil the
number. -/
def dropUnderscores (cs : List Char) : List Char :=
  let doubled := (cs.zip (cs.drop 1)).contains ('_', '_')
  if cs.head? == some '_' || cs.getLast? == some '_' || doubled then cs
  else cs.filter (· != '_')

/-- What may follow leading zeros: a minus sign or another digit. -/
def startsNumber (c : Char) : Bool := c == '-' || ('1' ≤ c && c ≤ '9')

/-- What is left behind zeros and underscores, `last` being the last of them: it is needed in
front of a point and when nothing else is left. -/
def behindZeros (last : Char) : List Char → Option (List Char)
  | [] => some [last]
  | c :: rest =>
    if c == '0' || c == '_' then behindZeros c rest
    else if startsNumber c then some (c :: rest)
    else if c == '.' then some (last :: c :: rest)
    else none

/-- Drop leading zeros and the underscores among them; nothing if no number can follow. -/
def dropLeadingZeros : List Char → Option (List Char)
  | [] => none
  | c :: rest =>
    if c == '0' then behindZeros c rest else if startsNumber c then some (c :: rest) else none

/-- A plus sign in front, but not in front of a minus sign, says nothing. -/
def dropPlus : List Char → Option (List Char)
  | '+' :: '-' :: _ => none
  | '+' :: rest => some rest
  | cs => some cs

/-- The plain form of an integer that is written with blanks, a plus sign, leading zeros, a
zero fraction or underscores. -/
def plainInteger (text : String) : Option (List Char) := do
  let signed ← dropPlus (Text.trimBy Text.isWhiteSpace text.toList)
  let significant ← dropLeadingZeros signed
  return dropUnderscores (dropZeroFraction significant)

/-- Read the plain form: a minus sign perhaps, and digits, behind a sign with zeros in front of
them or not. With the sign it may not be longer than integers are allowed to be. -/
def readPlainInteger (cs : List Char) : Checked Int :=
  let negative := cs.head? == some '-'
  let unsigned := if negative then cs.drop 1 else cs
  let digits := unsigned.takeWhile Char.isDigit
  let size := digits.length + if negative then 1 else 0
  if digits.isEmpty then .error .intParsing
  else if Text.digitLimit < size then .error .intSize
  else if digits.length < unsigned.length then .error .intParsing
  else
    let value : Int := Json.digitsNat digits
    .ok (if negative then -value else value)

def readIntText (text : String) : Checked Int :=
  match plainInteger text with
  | some cs => readPlainInteger cs
  | none => .error .intParsing

def readInt : Json → Checked Int
  | .int n => .ok n
  | .bool value => .ok (if value then 1 else 0)
  | .string text => readIntText text
  | .float x => wholeOfFloat x
  | _ => .error .intType

/-- An exponent mark with a signed whole number behind it, or nothing at all. -/
def readExponent? : List Char → Option Int
  | [] => some 0
  | mark :: rest =>
    if (mark == 'e' || mark == 'E') && rest.all (· != '_') then
      Text.signedValue? Text.asciiDigit? rest
    else none

/-- A decimal number without sign: digits with a point before, between or behind them, and
an exponent. -/
def readMagnitude? (negative : Bool) (cs : List Char) : Option Float :=
  let whole := cs.takeWhile Char.isDigit
  let behind := cs.drop whole.length
  let fraction :=
    match behind with
    | '.' :: rest => rest.takeWhile Char.isDigit
    | _ => []
  let behindFraction :=
    match behind with
    | '.' :: rest => rest.drop fraction.length
    | _ => behind
  let digits := whole ++ fraction
  match digits, readExponent? behindFraction with
  | [], _ => none
  | _, none => none
  | _, some exponent =>
    let value := digits.foldl (fun value c => 10 * value + (c.toNat - '0'.toNat)) 0
    some (Decimal.toFloat negative value (exponent - fraction.length))

/-- A decimal number, or a word for an infinity or for no number. -/
def readFloatChars? (cs : List Char) : Option Float :=
  let (negative, unsigned) : Bool × List Char :=
    match cs with
    | '-' :: rest => (true, rest)
    | '+' :: rest => (false, rest)
    | _ => (false, cs)
  match String.ofList (unsigned.map Char.toLower) with
  | "inf" | "infinity" => some (if negative then -1.0 / 0.0 else 1.0 / 0.0)
  | "nan" => some (0.0 / 0.0)
  | _ => readMagnitude? negative unsigned

def readFloat : Json → Checked Float
  | .float x => .ok x
  | .int n =>
    let x := Decimal.toFloat (n < 0) n.natAbs 0
    if x.isFinite then .ok x else .error .floatType
  | .bool value => .ok (if value then 1.0 else 0.0)
  | .string text =>
    let trimmed := Text.trimBy Text.isWhiteSpace text.toList
    match (readFloatChars? trimmed).or (readFloatChars? (dropUnderscores text.toList)) with
    | some x => .ok x
    | none => .error .floatParsing
  | _ => .error .floatType

/-- The items of a text with commas: without the blanks around them, and without the empty
ones. -/
def commaList (text : String) : List String :=
  ((Text.segments ',' text).map Text.strip).filter (· != "")

/-- The items that are no strings, with their indices. -/
def itemProblems (items : List Json) : List Problem :=
  (items.mapIdx fun index item => (index, item)).filterMap fun (index, item) =>
    match item with
    | .string _ => none
    | _ => some { kind := .stringType, place := [.index index] }

/-- A list of strings, or a text with commas. -/
def readStrings : Json → Except (List Problem) (List String)
  | .string text => .ok (commaList text)
  | .array items =>
    match itemProblems items with
    | [] => .ok (items.filterMap fun item =>
        match item with
        | .string text => some text
        | _ => none)
    | problems => .error problems
  | _ => .error [{ kind := .listType, place := [] }]

/-- A number not below a bound. -/
def atLeast (bound : Int) (n : Int) : Checked Int :=
  if n < bound then .error .tooSmall else .ok n

def atMost (bound : Int) (n : Int) : Checked Int :=
  if bound < n then .error .tooLarge else .ok n

def atLeastFloat (bound : Float) (x : Float) : Checked Float :=
  if bound ≤ x then .ok x else .error .tooSmall

/-- Give a problem without a place the empty one. -/
def placed {α : Type} : Checked α → Except (List Problem) α
  | .ok value => .ok value
  | .error kind => .error [{ kind := kind, place := [] }]

end SourceOutline.Settings
