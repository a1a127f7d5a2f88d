import SourceOutline.Decimal.Layout
import SourceOutline.Json.Basic
import SourceOutline.Text.Literal

/-!
# Values shown on the console

The console shows texts bare as long as they are single words, and as literals otherwise.
Other values are shown with `True`, `False` and `None`, lists in square brackets and objects
in braces, all texts inside them as literals.
-/

namespace SourceOutline.Log

def floatWords : Decimal.Words := { infinity := "inf", undefined := "nan" }

mutual

/-- A value with all texts as literals. -/
def shown : Json → String
  | .null => "None"
  | .bool true => "True"
  | .bool false => "False"
  | .int n => toString n
  | .float x => Decimal.render floatWords x
  | .string text => Text.literal text
  | .array items => "[" ++ ", ".intercalate (shownAll items) ++ "]"
  | .object members => "\x7b" ++ ", ".intercalate (shownMembers members) ++ "\x7d"

def shownAll : List Json → List String
  | [] => []
  | item :: items => shown item :: shownAll items

def shownMembers : List (String × Json) → List String
  | [] => []
  | (key, value) :: members => (Text.literal key ++ ": " ++ shown value) :: shownMembers members

end

/-- Characters that keep a text from being shown bare. -/
def isDelicate (c : Char) : Bool :=
  c == ' ' || c == '\t' || c == '=' || c == '\r' || c == '\n' || c == '"' || c == '\''

/-- A value without any quotes around a text. -/
def shownPlain : Json → String
  | .string text => text
  | json => shown json

/-- A value as it stands behind its key. -/
def shownBare : Json → String
  | .string text => if text.toList.any isDelicate then Text.literal text else text
  | json => shown json

end SourceOutline.Log
