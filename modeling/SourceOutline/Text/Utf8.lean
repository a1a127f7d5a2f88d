import SourceOutline.Text.Literal

/-!
# UTF-8

Texts are decoded strictly: overlong forms, surrogates and numbers beyond the last
character are refused. A refusal tells which bytes were at fault and why, so that it can be
reported; the accepted texts are those of the standard decoder.

Code points are a text unless there are surrogates among them, which have no encoding. Then the
report is about the first run of surrogates.
-/

namespace SourceOutline.Text

/-- Why bytes are not UTF-8. -/
inductive Utf8Reason where
  | start
  | continuation
  | truncated
  deriving DecidableEq, Repr

/-- The bytes at fault: their position, how many they are, and the first of them. -/
structure Utf8Fault where
  position : Nat
  length : Nat
  byte : Nat
  reason : Utf8Reason
  deriving DecidableEq, Repr

/-- The second bytes allowed behind a first byte, and how many continuation bytes follow
that second one; nothing if no sequence starts with the byte. -/
def sequenceShape? (first : Nat) : Option (Nat × Nat × Nat) :=
  if 0xC2 ≤ first && first ≤ 0xDF then some (0x80, 0xBF, 0)
  else if first == 0xE0 then some (0xA0, 0xBF, 1)
  else if first == 0xED then some (0x80, 0x9F, 1)
  else if 0xE1 ≤ first && first ≤ 0xEF then some (0x80, 0xBF, 1)
  else if first == 0xF0 then some (0x90, 0xBF, 2)
  else if 0xF1 ≤ first && first ≤ 0xF3 then some (0x80, 0xBF, 2)
  else if first == 0xF4 then some (0x80, 0x8F, 2)
  else none

/-- How many of the next `count` bytes are continuation bytes, stopping at the first that
is not; `none` if the text ends before. -/
def continuationRun : (count : Nat) → List UInt8 → Option Nat
  | 0, _ => some 0
  | _ + 1, [] => none
  | count + 1, byte :: rest =>
    if 0x80 ≤ byte && byte ≤ 0xBF then (continuationRun count rest).map (· + 1) else some 0

/-- The length of the sequence at the start of a text, or the reason and number of the bytes
at fault. -/
def readSequence (first : Nat) (rest : List UInt8) : Except (Utf8Reason × Nat) Nat :=
  if first < 0x80 then .ok 1
  else
    match sequenceShape? first, rest with
    | none, _ => .error (.start, 1)
    | some _, [] => .error (.truncated, 1)
    | some (low, high, more), second :: rest' =>
      if second.toNat < low || high < second.toNat then .error (.continuation, 1)
      else
        match continuationRun more rest' with
        | none => .error (.truncated, rest.length + 1)
        | some found => if found = more then .ok (2 + more) else .error (.continuation, 2 + found)

/-- The first fault of a text. `skip` bytes belong to a sequence that was accepted. -/
def firstFault (position : Nat) : (skip : Nat) → List UInt8 → Option Utf8Fault
  | _, [] => none
  | skip + 1, _ :: rest => firstFault (position + 1) skip rest
  | 0, byte :: rest =>
    match readSequence byte.toNat rest with
    | .ok length => firstFault (position + 1) (length - 1) rest
    | .error (reason, length) => some ⟨position, length, byte.toNat, reason⟩

/-- Decode bytes. The fault found is shown if decoding fails. -/
def decodeUtf8 (bytes : ByteArray) : Except Utf8Fault String :=
  match String.fromUTF8? bytes with
  | some text => .ok text
  | none => .error ((firstFault 0 0 bytes.toList).getD ⟨0, 1, 0, .start⟩)

def Utf8Reason.message : Utf8Reason → String
  | start => "invalid start byte"
  | continuation => "invalid continuation byte"
  | truncated => "unexpected end of data"

/-- The report of a fault. -/
def Utf8Fault.message (fault : Utf8Fault) : String :=
  let place :=
    if fault.length = 1 then
      "byte 0x" ++ String.ofList (hexadecimal 2 fault.byte) ++ " in position " ++
        toString fault.position
    else
      "bytes in position " ++ toString fault.position ++ "-" ++
        toString (fault.position + fault.length - 1)
  "'utf-8' codec can't decode " ++ place ++ ": " ++ fault.reason.message

/-- The code points of a text. -/
def points (text : String) : List Nat := text.toList.map Char.toNat

/-- Half of a pair that stands for one character. -/
def isSurrogate (point : Nat) : Bool := 0xD800 ≤ point && point < 0xE000

/-- The surrogates at fault: their position, how many they are, and the first of them. -/
structure EncodeFault where
  position : Nat
  length : Nat
  point : Nat
  deriving DecidableEq, Repr

/-- The first run of surrogates. -/
def surrogateFault? (points : List Nat) : Option EncodeFault :=
  match points.dropWhile (!isSurrogate ·) with
  | [] => none
  | point :: rest => some {
      position := (points.takeWhile (!isSurrogate ·)).length
      length := 1 + (rest.takeWhile isSurrogate).length
      point := point }

/-- The text that code points are. -/
def ofPoints (points : List Nat) : Except EncodeFault String :=
  match surrogateFault? points with
  | none => .ok (String.ofList (points.map Char.ofNat))
  | some fault => .error fault

theorem isSurrogate_toNat (c : Char) : isSurrogate c.toNat = false := by
  have valid : c.toNat < 0xD800 ∨ 0xDFFF < c.toNat ∧ c.toNat < 0x110000 := c.valid
  simp only [isSurrogate, Bool.and_eq_false_iff, decide_eq_false_iff_not]
  omega

/-- Every text is the text of its code points. -/
theorem ofPoints_points (text : String) : ofPoints (points text) = .ok text := by
  have proper : (points text).dropWhile (!isSurrogate ·) = [] := by
    rw [points]
    induction text.toList with
    | nil => rfl
    | cons c cs ih =>
        rw [List.map_cons, List.dropWhile_cons, isSurrogate_toNat]
        exact ih
  have back : (points text).map Char.ofNat = text.toList := by
    rw [points, List.map_map]
    exact List.map_id'' Char.ofNat_toNat _
  rw [ofPoints, surrogateFault?, proper, back, String.ofList_toList]

/-- The report of a fault. -/
def EncodeFault.message (fault : EncodeFault) : String :=
  let place :=
    if fault.length = 1 then
      "character '\\u" ++ String.ofList (hexadecimal 4 fault.point) ++ "' in position " ++
        toString fault.position
    else
      "characters in position " ++ toString fault.position ++ "-" ++
        toString (fault.position + fault.length - 1)
  "'utf-8' codec can't encode " ++ place ++ ": surrogates not allowed"

end SourceOutline.Text
