import SourceOutline.Json.Basic
import SourceOutline.Decimal.Layout
import SourceOutline.Text.Numeral

/-!
# Reading JSON

The reader accepts the JSON grammar and, as numbers, the three words `NaN`, `Infinity` and
`-Infinity`. A repeated key keeps its first place and takes the last value. When the text is
not JSON the reader tells at which character it gave up. It also gives up on integers with
very many digits and on arrays and objects that are nested very deeply, at the first of them.

An escape that names a surrogate is joined with one that follows it at once, if the two are a pair.
Any other surrogate is kept as it is. The value of a text is refused if it has one.

Recursion is bounded by the length of the text: every nested call has consumed at least one
character, so the bound is never reached.
-/

namespace SourceOutline.Json

/-- A place in the text: how many characters were read, and those still to read. -/
structure Cursor where
  position : Nat
  rest : List Char

/-- Why a text is not read. -/
inductive Unread where
  /-- The character at the position is not JSON. -/
  | malformed (position : Nat)
  | longInteger
  | deepNesting
  /-- The text is JSON, but a string of it is no text. -/
  | unpaired (fault : Text.EncodeFault)
  deriving DecidableEq, Repr

/-- The greatest number of arrays and objects one inside the other. A reader that calls itself for
each of them is stopped at a thousand nested calls, and some forty of these are in use when it
starts. -/
def nestingLimit : Nat := 960

namespace Cursor

def start (text : String) : Cursor := { position := 0, rest := text.toList }

def advance (cursor : Cursor) (count : Nat) : Cursor :=
  { position := cursor.position + count, rest := cursor.rest.drop count }

/-- Skip blanks between the elements of the grammar. -/
def skipBlanks (cursor : Cursor) : Cursor :=
  let isBlank (c : Char) := c == ' ' || c == '\t' || c == '\n' || c == '\r'
  cursor.advance (cursor.rest.takeWhile isBlank).length

end Cursor

def hexDigit? (c : Char) : Option Nat :=
  if '0' ≤ c && c ≤ '9' then some (c.toNat - '0'.toNat)
  else if 'a' ≤ c && c ≤ 'f' then some (c.toNat - 'a'.toNat + 10)
  else if 'A' ≤ c && c ≤ 'F' then some (c.toNat - 'A'.toNat + 10)
  else none

/-- The value of four hexadecimal digits. -/
def hexUnit? (a b c d : Char) : Option Nat := do
  return ((← hexDigit? a) * 16 + (← hexDigit? b)) * 256 + (← hexDigit? c) * 16 + (← hexDigit? d)

def simpleEscape? : Char → Option Char
  | '"' => some '"'
  | '\\' => some '\\'
  | '/' => some '/'
  | 'b' => some '\x08'
  | 'f' => some '\x0c'
  | 'n' => some '\n'
  | 'r' => some '\r'
  | 't' => some '\t'
  | _ => none

/-- Append one UTF-16 unit to the points read so far, last first. If it completes a pair, the pair
is one point. -/
def addUnit (unit : Nat) : List Nat → List Nat
  | [] => [unit]
  | last :: done =>
    if 0xD800 ≤ last && last < 0xDC00 && 0xDC00 ≤ unit && unit < 0xE000 then
      (0x10000 + (last - 0xD800) * 0x400 + (unit - 0xDC00)) :: done
    else unit :: last :: done

/-- Read the inside of a string up to its closing quote. `opening` is the position of the
opening quote; `done` holds the points read so far, last first. -/
def readString (opening : Nat) (done : List Nat) (position : Nat) :
    List Char → Except Unread (List Nat × Cursor)
  | [] => .error (.malformed opening)
  | '"' :: rest => .ok (done.reverse, { position := position + 1, rest := rest })
  | '\\' :: 'u' :: a :: b :: c :: d :: next :: rest =>
    match hexUnit? a b c d with
    | some unit => readString opening (addUnit unit done) (position + 6) (next :: rest)
    | none => .error (.malformed (position + 1))
  | ['\\'] => .error (.malformed opening)
  | '\\' :: c :: rest =>
    if c == 'u' then .error (.malformed (position + 1))
    else match simpleEscape? c with
      | some escaped => readString opening (escaped.toNat :: done) (position + 2) rest
      | none => .error (.malformed position)
  | c :: rest =>
    if c.toNat < 0x20 then .error (.malformed position)
    else readString opening (c.toNat :: done) (position + 1) rest

def digitRun (cs : List Char) : List Char := cs.takeWhile Char.isDigit

def digitsNat (cs : List Char) : Nat :=
  cs.foldl (fun value c => 10 * value + (c.toNat - '0'.toNat)) 0

/-- The fraction behind a number, if a digit follows the point. -/
def fractionRun : List Char → List Char
  | '.' :: rest => digitRun rest
  | _ => []

/-- The exponent behind a number as its value and its length in characters; nothing if no
digit follows the mark. -/
def exponentRun : List Char → Option (Int × Nat)
  | mark :: rest =>
    if mark == 'e' || mark == 'E' then
      let (sign, signLength, digits) : Int × Nat × List Char :=
        match rest with
        | '-' :: more => (-1, 1, digitRun more)
        | '+' :: more => (1, 1, digitRun more)
        | _ => (1, 0, digitRun rest)
      if digits.isEmpty then none
      else some (sign * digitsNat digits, 1 + signLength + digits.length)
    else none
  | [] => none

/-- Read a number. Without fraction and exponent it is an integer. -/
def readNumber (cursor : Cursor) : Except Unread (Raw × Cursor) :=
  let negative := cursor.rest.head? == some '-'
  let unsigned := if negative then cursor.rest.drop 1 else cursor.rest
  let whole := match unsigned with
    | '0' :: _ => ['0']
    | _ => digitRun unsigned
  if whole.isEmpty then .error (.malformed cursor.position)
  else
    let afterWhole := unsigned.drop whole.length
    let fraction := fractionRun afterWhole
    let fractionLength := if fraction.isEmpty then 0 else fraction.length + 1
    let exponent := exponentRun (afterWhole.drop fractionLength)
    let length := (if negative then 1 else 0) + whole.length + fractionLength +
      (exponent.map (·.2)).getD 0
    let next := cursor.advance length
    if fraction.isEmpty && exponent.isNone then
      if Text.digitLimit < whole.length then .error .longInteger
      else
        let size : Int := digitsNat whole
        .ok (.int (if negative then -size else size), next)
    else
      let power := (exponent.map (·.1)).getD 0 - fraction.length
      .ok (.float (Decimal.toFloat negative (digitsNat (whole ++ fraction)) power), next)

/-- The words that stand for a value. -/
def wordValues : List (String × Raw) := [
  ("null", .null), ("true", .bool true), ("false", .bool false),
  ("NaN", .float (0.0 / 0.0)), ("Infinity", .float (1.0 / 0.0)), ("-Infinity", .float (-1.0 / 0.0))]

/-- Read a word or a number. -/
def readScalar (cursor : Cursor) : Except Unread (Raw × Cursor) :=
  match wordValues.find? (fun word => word.1.toList.isPrefixOf cursor.rest) with
  | some (word, value) => .ok (value, cursor.advance word.length)
  | none => readNumber cursor

mutual

/-- Read a value in which at most `room` arrays and objects stand one inside the other. -/
def readValue : Nat → (room : Nat) → Cursor → Except Unread (Raw × Cursor)
  | 0, _, cursor => .error (.malformed cursor.position)
  | fuel + 1, room, cursor =>
    match cursor.rest with
    | '"' :: rest => do
      let (points, next) ← readString cursor.position [] (cursor.position + 1) rest
      .ok (.string points, next)
    | '\x7b' :: _ =>
      if room = 0 then .error .deepNesting
      else
        let inside := (cursor.advance 1).skipBlanks
        match inside.rest with
        | '\x7d' :: _ => .ok (.object [], inside.advance 1)
        | _ => readMembers fuel room [] inside
    | '[' :: _ =>
      if room = 0 then .error .deepNesting
      else
        let inside := (cursor.advance 1).skipBlanks
        match inside.rest with
        | ']' :: _ => .ok (.array [], inside.advance 1)
        | _ => readItems fuel room [] inside
    | _ => readScalar cursor

/-- Read the items of an array, the next one being at the cursor. -/
def readItems : Nat → (room : Nat) → List Raw → Cursor → Except Unread (Raw × Cursor)
  | 0, _, _, cursor => .error (.malformed cursor.position)
  | fuel + 1, room, done, cursor =>
    match readValue fuel (room - 1) cursor with
    | .error e => .error e
    | .ok (item, next) =>
      let next := next.skipBlanks
      match next.rest with
      | ']' :: _ => .ok (.array (item :: done).reverse, next.advance 1)
      | ',' :: _ => readItems fuel room (item :: done) (next.advance 1).skipBlanks
      | _ => .error (.malformed next.position)

/-- Read the members of an object, the next key being at the cursor. -/
def readMembers : Nat → (room : Nat) → List (List Nat × Raw) → Cursor →
    Except Unread (Raw × Cursor)
  | 0, _, _, cursor => .error (.malformed cursor.position)
  | fuel + 1, room, done, cursor =>
    match cursor.rest with
    | '"' :: rest =>
      match readString cursor.position [] (cursor.position + 1) rest with
      | .error e => .error e
      | .ok (key, next) =>
        let colon := next.skipBlanks
        match colon.rest with
        | ':' :: _ =>
          match readValue fuel (room - 1) (colon.advance 1).skipBlanks with
          | .error e => .error e
          | .ok (value, next) =>
            let next := next.skipBlanks
            let members := put key value done
            match next.rest with
            | '\x7d' :: _ => .ok (.object members, next.advance 1)
            | ',' :: _ => readMembers fuel room members (next.advance 1).skipBlanks
            | _ => .error (.malformed next.position)
        | _ => .error (.malformed colon.position)
    | _ => .error (.malformed cursor.position)

end

/-- The raw value of a text, or why it is not read. -/
def read (text : String) (room : Nat := nestingLimit) : Except Unread Raw := do
  let cursor := (Cursor.start text).skipBlanks
  let (value, next) ← readValue (cursor.rest.length + 1) room cursor
  let last := next.skipBlanks
  if last.rest.isEmpty then .ok value else .error (.malformed last.position)

/-- The value of a text, or why it is not read. -/
def parse (text : String) (room : Nat := nestingLimit) : Except Unread Json := do
  let raw ← read text room
  raw.toJson.mapError .unpaired

end SourceOutline.Json
