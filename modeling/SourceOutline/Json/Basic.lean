import SourceOutline.Text.Utf8

/-!
# JSON values

Objects keep the order in which their keys were first written: what is printed depends on
it. Integers are exact and of any size; a number with a fraction or an exponent is a
double.

The strings of a value are texts. A string that is read need not be one, for an escape can name
one half of a pair of surrogates without the other. So what is read is a raw value, whose strings
are code points.
-/

namespace SourceOutline

inductive Json where
  | null
  | bool (value : Bool)
  | int (value : Int)
  | float (value : Float)
  | string (value : String)
  | array (items : List Json)
  | object (members : List (String × Json))
  deriving Inhabited, Repr

namespace Json

/-- A value as it is read. Keys and strings are code points. -/
inductive Raw where
  | null
  | bool (value : Bool)
  | int (value : Int)
  | float (value : Float)
  | string (points : List Nat)
  | array (items : List Raw)
  | object (members : List (List Nat × Raw))
  deriving Inhabited, Repr

/-- Give a key a value. A key that is present keeps its place. -/
def put {κ α : Type} [DecidableEq κ] (key : κ) (value : α) : List (κ × α) → List (κ × α)
  | [] => [(key, value)]
  | (k, v) :: rest => if k = key then (k, value) :: rest else (k, v) :: put key value rest

/-- The value of a key; nothing if this is no object or has no such key. -/
def field? (json : Json) (key : String) : Option Json :=
  match json with
  | object members => members.lookup key
  | _ => none

/-- A natural number as a JSON integer. -/
def nat (n : Nat) : Json := int n

/-- The value inside, or `null`. -/
def optional {α : Type} (encode : α → Json) : Option α → Json
  | some value => encode value
  | none => null

def strings (texts : List String) : Json := array (texts.map string)

namespace Raw

/-- A text as a string. -/
def text (text : String) : Raw := string (Text.points text)

/-- The value of a key; nothing if this is no object or has no such key. -/
def field? (raw : Raw) (key : String) : Option Raw :=
  match raw with
  | object members => members.lookup (Text.points key)
  | _ => none

mutual

/-- Whether all numbers are finite; the strict grammar has no words for others. -/
def isFinite : Raw → Bool
  | float x => x.isFinite
  | array items => areFinite items
  | object members => areFiniteMembers members
  | _ => true

def areFinite : List Raw → Bool
  | [] => true
  | item :: items => isFinite item && areFinite items

def areFiniteMembers : List (List Nat × Raw) → Bool
  | [] => true
  | (_, value) :: members => isFinite value && areFiniteMembers members

end

mutual

/-- The value with texts for its keys and strings, or why one of them is no text. -/
def toJson : Raw → Except Text.EncodeFault Json
  | null => .ok .null
  | bool value => .ok (.bool value)
  | int value => .ok (.int value)
  | float value => .ok (.float value)
  | string points => do return .string (← Text.ofPoints points)
  | array items => do return .array (← toItems items)
  | object members => do return .object (← toMembers members)

def toItems : List Raw → Except Text.EncodeFault (List Json)
  | [] => .ok []
  | item :: items => do return (← toJson item) :: (← toItems items)

def toMembers : List (List Nat × Raw) → Except Text.EncodeFault (List (String × Json))
  | [] => .ok []
  | (key, value) :: members => do
    return (← Text.ofPoints key, ← toJson value) :: (← toMembers members)

end

end Raw

end Json

end SourceOutline
