import SourceOutline.Json.Printer
import SourceOutline.Log.Entry
import SourceOutline.Log.Shown
import SourceOutline.Settings.Load
import SourceOutline.Text.Basic

/-!
# Log lines

An entry at or above the configured level is written as a JSON object on one line, or as a
coloured line for the console with the stack and the exception of the entry below it. Each
entry also tells the time and the application it comes from.
-/

namespace SourceOutline.Log

/-- The fields of an entry with its event, if it has one, and what is added to every entry. A
key that is present keeps its place and takes the new value. Requests for more information
are no fields. -/
def Entry.complete (entry : Entry) (level : Level) (settings : Settings) (time : String) :
    List (String × Json) :=
  let kept := entry.fields.filter fun (key, _) => key != "exc_info" && key != "stack_info"
  let event := match entry.event with
    | .null => []
    | event => [("event", event)]
  let added := [("level", level.label), ("timestamp", time), ("app", settings.appName),
    ("version", settings.appVersion), ("environment", settings.environment)]
  added.foldl (fun fields (key, text) => Json.put key (.string text) fields)
    (kept.map (fun (key, value) => (key, value.toJson)) ++ event)

/-- Whether the entry asks for the exception that is being handled, be there one or not. -/
def Entry.asksForException (entry : Entry) : Bool :=
  match entry.fields.lookup "exc_info" with
  | some value => Settings.isTruthy value.toJson
  | none => entry.word == "exception"

/-- A text between a terminal colour and the reset. -/
def coloured (code : String) (text : String) : String :=
  "\x1b[" ++ code ++ "m" ++ text ++ "\x1b[0m"

/-- Fill a text with blanks up to a width. -/
def pad (width : Nat) (text : String) : String :=
  text ++ String.ofList (List.replicate (width - text.length) ' ')

def Level.colour : Level → String
  | debug | info => "32"
  | warning => "33"
  | error | critical => "31"

/-- The name of a logger in brackets. -/
def loggerColumn (name : Json) : String :=
  "[\x1b[0m\x1b[1m" ++ coloured "34" (shownPlain name) ++ "]\x1b[0m"

/-- Keys with a place of their own on the console. -/
def placedKeys : List String :=
  ["timestamp", "level", "event", "logger", "logger_name", "stack", "exception"]

/-- The line for the console: time, level, event and loggers, then the other fields by key. -/
def consoleLine (level : Level) (fields : List (String × Json)) (time : String) : String :=
  let opening := [coloured "2" time,
    "[\x1b[" ++ level.colour ++ "m" ++ coloured "1" (pad 9 level.label) ++ "]"]
  let event := (fields.lookup "event").toList.map fun event =>
    coloured "1" (pad 30 (shownPlain event))
  let loggers := ["logger", "logger_name"].filterMap fun key =>
    (fields.lookup key).map loggerColumn
  let others := fields.filter fun (key, _) => !placedKeys.contains key
  let sorted := others.mergeSort fun a b => !decide (b.1 < a.1)
  let columns := sorted.map fun (key, value) =>
    coloured "36" key ++ "=" ++ coloured "35" (shownBare value)
  " ".intercalate (opening ++ event ++ loggers ++ columns)

/-- A field that is printed below the line, if it is there and not `null`. -/
def textBelow? (fields : List (String × Json)) (key : String) : Except Fault (Option String) :=
  match fields.lookup key with
  | none | some .null => .ok none
  | some (.string text) => .ok (some text)
  | some _ => .error (.noText key)

/-- What stands below the line for the console: the stack, a rule if an exception is to
follow, and the exception. -/
def consoleTail (entry : Entry) (fields : List (String × Json)) : Except Fault String := do
  let stack ← textBelow? fields "stack"
  let exception ← textBelow? fields "exception"
  let rule := String.ofList ('\n' :: '\n' :: List.replicate 79 '=' ++ ['\n'])
  let upper :=
    match stack with
    | none => ""
    | some text =>
      "\n" ++ text ++ if entry.asksForException || exception.isSome then rule else ""
  return upper ++ (exception.map ("\n" ++ ·)).getD ""

/-- An entry as it is written. -/
def Entry.text (entry : Entry) (level : Level) (settings : Settings) (time : String) :
    Except Fault String :=
  let fields := entry.complete level settings time
  if settings.logging.format == "json" then .ok (Json.render .oneLine (.object fields))
  else do
    let tail ← consoleTail entry fields
    return consoleLine level fields time ++ tail

/-- Write entries one after the other, each with a line break behind it. The first one that
cannot be written ends the log. -/
def transcript (settings : Settings) (time : String) (threshold : Nat) :
    List Entry → Except Fault String
  | [] => .ok ""
  | entry :: rest => do
    match ← entry.levelAbove? threshold with
    | none => transcript settings time threshold rest
    | some level =>
      let text ← entry.text level settings time
      let others ← transcript settings time threshold rest
      return text ++ "\n" ++ others

/-- The lines that are written for a list of entries. -/
def lines (settings : Settings) (time : String) (entries : List Entry) :
    Except Fault (List String) := do
  let threshold ← threshold settings.logging.level
  return Text.lines (← transcript settings time threshold entries)

end SourceOutline.Log
