import SourceOutline.Json.Basic
import SourceOutline.Path
import SourceOutline.Text.Basic

/-!
# Log entries

An entry has a level, the name of an event and further fields in the order given. A field
holds data or a path; paths are written as text whatever the format. The level of an entry
and the threshold below which entries are dropped are both given as words.
-/

namespace SourceOutline.Log

/-- Why an entry, or any entry, cannot be written. -/
inductive Fault where
  /-- No threshold has this name. -/
  | unknownThreshold
  /-- The name of a threshold stands for a text. -/
  | textThreshold
  /-- The name of a threshold stands for a table. -/
  | tableThreshold
  /-- No level has this name. -/
  | unknownLevel
  /-- The name is that of another request to a logger. -/
  | otherRequest
  /-- A field has a name that every entry uses itself. -/
  | reservedField (name : String)
  /-- What should be printed below the line is no text. -/
  | noText (field : String)
  deriving DecidableEq, Repr

inductive Level where
  | debug
  | info
  | warning
  | error
  | critical
  deriving DecidableEq, Repr

namespace Level

def label : Level → String
  | debug => "debug"
  | info => "info"
  | warning => "warning"
  | error => "error"
  | critical => "critical"

def weight : Level → Nat
  | debug => 10
  | info => 20
  | warning => 30
  | error => 40
  | critical => 50

/-- The level at which an entry is written under a given word. -/
def ofWord? : String → Option Level
  | "debug" => some debug
  | "info" | "msg" => some info
  | "warning" | "warn" => some warning
  | "error" | "exception" => some error
  | "critical" | "fatal" => some critical
  | _ => none

end Level

/-- The least weight that is written under a threshold word of any case. Two words are taken
by other things. -/
def threshold (word : String) : Except Fault Nat :=
  match Text.upperCase word with
  | "DEBUG" => .ok Level.debug.weight
  | "INFO" => .ok Level.info.weight
  | "WARNING" | "WARN" => .ok Level.warning.weight
  | "ERROR" => .ok Level.error.weight
  | "CRITICAL" | "FATAL" => .ok Level.critical.weight
  | "NOTSET" => .ok 0
  | "BASIC_FORMAT" => .error .textThreshold
  | "_STYLES" => .error .tableThreshold
  | _ => .error .unknownThreshold

inductive Value where
  | data (json : Json)
  | path (path : Path)
  deriving Inhabited

/-- A value as data; a path is its text. -/
def Value.toJson : Value → Json
  | data json => json
  | path p => .string p.text

structure Entry where
  /-- The word for the level. -/
  word : String
  /-- Commonly a name; `null` if there is none. -/
  event : Json
  fields : List (String × Value)

/-- What is asked of a logger under a word. -/
inductive Request where
  | write (level : Level)
  /-- The entry is accepted for later, and there is no later. -/
  | postpone
  /-- Something that cannot be asked with an entry alone. -/
  | other
  deriving DecidableEq, Repr

/-- The request under a word. Every word for a level has one with an `a` in front of it that
postpones. -/
def Request.ofWord? (word : String) : Option Request :=
  match Level.ofWord? word with
  | some level => some (.write level)
  | none =>
    if ["log", "alog", "bind", "new"].contains word then some .other
    else
      match word.toList with
      | 'a' :: rest => (Level.ofWord? (String.ofList rest)).map fun _ => .postpone
      | _ => none

/-- Names that no field may have, whether the entry is written or not. -/
def reservedNames : List String := ["self", "event"]

/-- An outcome for an entry none of whose fields has a reserved name. -/
def Entry.unlessReserved {α : Type} (entry : Entry) (names : List String) (outcome : α) :
    Except Fault α :=
  match entry.fields.find? fun field => names.contains field.1 with
  | some field => .error (.reservedField field.1)
  | none => .ok outcome

/-- The level of an entry that is to be written; nothing if it is postponed or lies below the
threshold. One more name is reserved in entries that are written. -/
def Entry.levelAbove? (entry : Entry) (threshold : Nat) : Except Fault (Option Level) :=
  match Request.ofWord? entry.word with
  | none => .error .unknownLevel
  | some .other => .error .otherRequest
  | some .postpone => entry.unlessReserved reservedNames none
  | some (.write level) =>
    if threshold ≤ level.weight then
      entry.unlessReserved ("method_name" :: reservedNames) (some level)
    else entry.unlessReserved reservedNames none

end SourceOutline.Log
