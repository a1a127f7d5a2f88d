import SourceOutline.Json.Basic
import SourceOutline.Decimal.Layout
import SourceOutline.Text.Literal

/-!
# Writing JSON

Text is written in ASCII: every other character is an escape of its UTF-16 code units in
lower-case hexadecimal. A value is written on one line, with a blank after each comma and
colon, or indented with one item to a line.

A raw value is written as code points, without blanks and with as few escapes as possible. The
result is no text if the value has a surrogate.
-/

namespace SourceOutline.Json

/-- The layout of arrays and objects. -/
inductive Style where
  | oneLine
  | indented (width : Nat)

/-- An escape for each UTF-16 unit of a character. -/
def escapeUnits (c : Char) : List Char :=
  let n := c.toNat
  if n < 0x10000 then ['\\', 'u'] ++ Text.hexadecimal 4 n
  else
    let offset := n - 0x10000
    ['\\', 'u'] ++ Text.hexadecimal 4 (0xD800 + offset / 0x400) ++
      ['\\', 'u'] ++ Text.hexadecimal 4 (0xDC00 + offset % 0x400)

def escapeChar (c : Char) : List Char :=
  match c with
  | '"' => ['\\', '"']
  | '\\' => ['\\', '\\']
  | '\n' => ['\\', 'n']
  | '\r' => ['\\', 'r']
  | '\t' => ['\\', 't']
  | '\x08' => ['\\', 'b']
  | '\x0c' => ['\\', 'f']
  | _ => if ' ' ≤ c && c ≤ '~' then [c] else escapeUnits c

def renderString (text : String) : String :=
  String.ofList ('"' :: text.toList.flatMap escapeChar ++ ['"'])

/-- JSON has no word for these numbers; readers commonly accept the following. -/
def floatWords : Decimal.Words := { infinity := "Infinity", undefined := "NaN" }

/-- A new line with the indentation of a depth; nothing on one line. -/
def Style.newline (style : Style) (depth : Nat) : String :=
  match style with
  | .oneLine => ""
  | .indented width => String.ofList ('\n' :: List.replicate (width * depth) ' ')

/-- What stands between two items at a depth. -/
def Style.comma (style : Style) (depth : Nat) : String :=
  match style with
  | .oneLine => ", "
  | .indented _ => "," ++ style.newline depth

mutual

/-- Write a value whose own items stand one level below `depth`. -/
def renderAt (style : Style) (depth : Nat) : Json → String
  | null => "null"
  | bool true => "true"
  | bool false => "false"
  | int n => toString n
  | float x => Decimal.render floatWords x
  | string text => renderString text
  | array [] => "[]"
  | array (item :: items) =>
    "[" ++ style.newline (depth + 1) ++ renderAt style (depth + 1) item ++
      renderItems style (depth + 1) items ++ style.newline depth ++ "]"
  | object [] => "\x7b\x7d"
  | object ((key, value) :: members) =>
    "\x7b" ++ style.newline (depth + 1) ++ renderString key ++ ": " ++
      renderAt style (depth + 1) value ++
      renderMembers style (depth + 1) members ++ style.newline depth ++ "\x7d"

def renderItems (style : Style) (depth : Nat) : List Json → String
  | [] => ""
  | item :: items => style.comma depth ++ renderAt style depth item ++ renderItems style depth items

def renderMembers (style : Style) (depth : Nat) : List (String × Json) → String
  | [] => ""
  | (key, value) :: members =>
    style.comma depth ++ renderString key ++ ": " ++ renderAt style depth value ++
      renderMembers style depth members

end

/-- The text of a value. -/
def render (style : Style) (json : Json) : String := renderAt style 0 json

namespace Raw

/-- Quotes, backslashes and control characters are escaped. -/
def escapePoint (point : Nat) : List Nat :=
  if point < 0x20 || point == '"'.toNat || point == '\\'.toNat then
    (escapeChar (Char.ofNat point)).map Char.toNat
  else [point]

def writeString (points : List Nat) : List Nat :=
  '"'.toNat :: points.flatMap escapePoint ++ ['"'.toNat]

mutual

/-- The code points of a written value. -/
def write : Raw → List Nat
  | null => Text.points "null"
  | bool true => Text.points "true"
  | bool false => Text.points "false"
  | int n => Text.points (toString n)
  | float x => Text.points (Decimal.render floatWords x)
  | string points => writeString points
  | array items => '['.toNat :: writeItems items ++ [']'.toNat]
  | object members => '\x7b'.toNat :: writeMembers members ++ ['\x7d'.toNat]

def writeItems : List Raw → List Nat
  | [] => []
  | [item] => write item
  | item :: items => write item ++ ','.toNat :: writeItems items

def writeMembers : List (List Nat × Raw) → List Nat
  | [] => []
  | [(key, value)] => writeString key ++ ':'.toNat :: write value
  | (key, value) :: members =>
    writeString key ++ ':'.toNat :: write value ++ ','.toNat :: writeMembers members

end

end Raw

end SourceOutline.Json
