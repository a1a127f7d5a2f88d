import SourceOutline.Json.Printer
import SourceOutline.Json.Reader

/-!
# Bodies of extraction requests

A request for an outline posts an object with the source text and, optionally, the path of
the file. What is wrong with a body is reported as a list of complaints, those about the
source text first.

A source text is taken as it is written in the body: it may have surrogates, and then it has no
encoding. A path may not.
-/

namespace SourceOutline.Web

/-- A step towards the value that a complaint is about. -/
inductive Complaint.Step where
  | name (name : String)
  | position (position : Nat)
  deriving DecidableEq, Repr

structure Complaint where
  kind : String
  place : List Complaint.Step
  message : String
  /-- The value at fault. -/
  about : Json.Raw
  deriving Repr

namespace Complaint

def toJson (complaint : Complaint) : Json :=
  let step : Complaint.Step → Json
    | .name name => .string name
    | .position position => .nat position
  .array [.string complaint.kind, .array (complaint.place.map step), .string complaint.message]

/-- The complaint as it is sent, up to the value at fault. -/
def toRaw (complaint : Complaint) : Json.Raw :=
  let step : Complaint.Step → Json.Raw
    | .name name => .text name
    | .position position => .int position
  .object [
    (Text.points "type", .text complaint.kind),
    (Text.points "loc", .array (complaint.place.map step)),
    (Text.points "msg", .text complaint.message),
    (Text.points "input", complaint.about)]

/-- Why complaints cannot be sent, if they cannot. They quote the values they are about, which may
hold numbers that the strict grammar has no words for, or surrogates. -/
def unsendable? (complaints : List Complaint) : Option String :=
  if complaints.all fun complaint => complaint.about.isFinite then
    let sent : Json.Raw := .object [(Text.points "detail", .array (complaints.map toRaw))]
    (Text.surrogateFault? sent.write).map Text.EncodeFault.message
  else some "Out of range float values are not JSON compliant"

def missing (place : List Complaint.Step) (about : Json.Raw) : Complaint :=
  ⟨"missing", place, "Field required", about⟩

def notText (place : List Complaint.Step) (about : Json.Raw) : Complaint :=
  ⟨"string_type", place, "Input should be a valid string", about⟩

def notUnicode (place : List Complaint.Step) (about : Json.Raw) : Complaint :=
  ⟨"string_unicode", place,
    "Input should be a valid string, unable to parse raw data as a unicode string", about⟩

def tooShort (place : List Complaint.Step) (about : Json.Raw) : Complaint :=
  ⟨"string_too_short", place, "String should have at least 1 character", about⟩

def notObject (place : List Complaint.Step) (about : Json.Raw) : Complaint :=
  ⟨"model_attributes_type", place,
    "Input should be a valid dictionary or object to extract fields from", about⟩

def notJson (position : Nat) : Complaint :=
  ⟨"json_invalid", [.name "body", .position position], "JSON decode error", .object []⟩

end Complaint

/-- A file to extract. -/
structure Submission where
  /-- The code points of the source text. -/
  content : List Nat
  filePath : String := "module.ts"
  deriving DecidableEq, Repr

namespace Submission

/-- The source text of a body, or the complaint about it. -/
def readContent (body : Json.Raw) : Except Complaint (List Nat) :=
  let place : List Complaint.Step := [.name "body", .name "content"]
  match body.field? "content" with
  | some (.string points) => .ok points
  | some value => .error (.notText place value)
  | none => .error (.missing place body)

/-- The path of a body, or the complaint about it. -/
def readFilePath (body : Json.Raw) : Except Complaint String :=
  let place : List Complaint.Step := [.name "body", .name "file_path"]
  match body.field? "file_path" with
  | some (.string points) =>
    match Text.ofPoints points with
    | .error _ => .error (.notUnicode place (.string points))
    | .ok "" => .error (.tooShort place (.string points))
    | .ok text => .ok text
  | some value => .error (.notText place value)
  | none => .ok "module.ts"

/-- Why a body is no submission. -/
inductive Refusal where
  /-- Numbers or nesting in the body are out of all proportion. -/
  | unreadable
  | complaints (complaints : List Complaint)

/-- Read a submission from a JSON value. -/
def ofRaw (body : Json.Raw) : Except (List Complaint) Submission :=
  match body with
  | .null => .error [.missing [.name "body"] body]
  | .object _ =>
    match readContent body, readFilePath body with
    | .ok content, .ok filePath => .ok { content := content, filePath := filePath }
    | .ok _, .error second => .error [second]
    | .error first, .ok _ => .error [first]
    | .error first, .error second => .error [first, second]
  | _ => .error [.notObject [.name "body"] body]

/-- Read a submission from the text of a body; a byte order mark in front is no part of it,
and an empty body is as good as `null`. -/
def ofText (body : String) : Except Refusal Submission :=
  let text :=
    match body.toList with
    | first :: rest => if first.toNat = 0xFEFF then String.ofList rest else body
    | [] => "null"
  match Json.read text with
  | .ok raw => (ofRaw raw).mapError .complaints
  | .error (.malformed position) => .error (.complaints [.notJson position])
  | .error _ => .error .unreadable

end Submission

end SourceOutline.Web
