import SourceOutline.Json.Reader
import SourceOutline.Settings.Value

/-!
# Loading settings

Settings have defaults, take values from the environment, and may be overridden by a
configuration object. Names are compared without regard to case, and a later variable or
member replaces an earlier one. A section is loaded by reading the variables of all its
fields first; only then are the values checked, all of them, in the order of the fields.

Besides its fields a configuration object may hold directives, whose names start with an
underscore. They change how the variables of its section are found and read.

The application's settings hold three sections. A section given as an object reports its
problems under its own name, together with those of the other sections. A section that is
not given is loaded on its own, and if that fails nothing else is looked at.
-/

namespace SourceOutline

structure ExtractorSettings where
  fileExtensions : List String := [".ts", ".tsx"]
  skipDeclarationFiles : Bool := true
  maxFileSizeMb : Float := 10.0
  ignorePatterns : List String :=
    ["node_modules", ".git", "dist", "build", "coverage", ".next", ".turbo", ".cache"]
  deriving Inhabited

/-- Whether a file of a size in bytes is too large. -/
def ExtractorSettings.isTooLarge (settings : ExtractorSettings) (size : Nat) : Bool :=
  settings.maxFileSizeMb * 1024 * 1024 < Float.ofNat size

structure ApiSettings where
  host : String := "0.0.0.0"
  port : Int := 8000
  debug : Bool := false
  corsOrigins : List String := ["http://localhost:3000", "http://127.0.0.1:3000"]
  maxContentBytes : Int := 2000000
  deriving Inhabited

structure LoggingSettings where
  level : String := "INFO"
  format : String := "json"
  deriving Inhabited

structure Settings where
  appName : String := "TSStructure"
  appVersion : String := "0.1.0"
  environment : String := "development"
  extractor : ExtractorSettings := {}
  api : ApiSettings := {}
  logging : LoggingSettings := {}
  deriving Inhabited

def Settings.isDevelopment (settings : Settings) : Bool :=
  let word := Text.lowerCase settings.environment
  word == "development" || word == "dev" || word == "local"

namespace Settings

/-- Variables with their values. -/
abbrev Environment : Type := List (String × String)

/-- How the variables of a section are found and read. -/
structure Rules where
  /-- What the names of the variables start with. -/
  start : String
  caseSensitive : Bool := false
  ignoreEmpty : Bool := false
  /-- The text that stands for `null`. -/
  nullText : Option String := none
  /-- What separates the name of a field from the names of its parts; the empty text if
  parts cannot be named. -/
  delimiter : String := ""

namespace Rules

/-- A name as it is compared with others. -/
def key (rules : Rules) (name : String) : String :=
  if rules.caseSensitive then name else Text.lowerCase name

/-- The variables that are looked at, the last one first. -/
def visible (rules : Rules) (environment : Environment) : Environment :=
  environment.reverse.filter fun entry => !(rules.ignoreEmpty && entry.2 == "")

/-- The value of the variable for a field. -/
def valueOf? (rules : Rules) (environment : Environment) (field : String) : Option String :=
  let wanted := rules.key (rules.start ++ field)
  ((rules.visible environment).find? fun entry => rules.key entry.1 == wanted).map (·.2)

/-- Whether a variable names a part of a field. -/
def hasPart (rules : Rules) (environment : Environment) (field : String) : Bool :=
  let wanted := rules.key (rules.start ++ field) ++ rules.delimiter
  rules.delimiter != "" && (rules.visible environment).any fun entry =>
    wanted.toList.isPrefixOf (rules.key entry.1).toList

end Rules

/-- Whether a variable holds plain text or structured data. -/
inductive Shape where
  | plain
  | structured
  deriving DecidableEq

/-- The value of a field in the environment. Structured data is JSON, and `null` is as good
as no variable; without a variable of its own it is put together from those of its parts. Settings
are texts: JSON with a string that has no encoding is refused like a text that is no JSON. -/
def fromEnvironment (rules : Rules) (environment : Environment) (field : String)
    (shape : Shape) : Except Refusal (Option Json) :=
  match rules.valueOf? environment field, shape with
  | none, .plain => .ok none
  | none, .structured =>
    .ok (if rules.hasPart environment field then some (.object []) else none)
  | some text, shape =>
    if rules.nullText == some text then .ok (some .null)
    else
      match shape with
      | .plain => .ok (some (.string text))
      | .structured =>
        match Json.parse text with
        | .ok .null => .ok none
        | .ok json => .ok (some json)
        | .error .deepNesting => .error .deepNesting
        | .error _ => .error (.malformed field)

/-- Read the variables of all fields of a section. -/
def readVariables (rules : Rules) (environment : Environment) :
    List (String × Shape) → Except Refusal (List (String × Json))
  | [] => .ok []
  | (name, shape) :: rest => do
    let value ← fromEnvironment rules environment name shape
    let others ← readVariables rules environment rest
    return (value.map fun json => (name, json)).toList ++ others

/-- Names of the directives that a configuration object may hold. -/
def directiveNames : List String := [
  "_case_sensitive", "_nested_model_default_partial_update", "_env_prefix", "_env_file",
  "_env_file_encoding", "_env_ignore_empty", "_env_nested_delimiter", "_env_nested_max_split",
  "_env_parse_none_str", "_env_parse_enums", "_cli_prog_name", "_cli_parse_args",
  "_cli_settings_source", "_cli_parse_none_str", "_cli_hide_none_type", "_cli_avoid_json",
  "_cli_enforce_required", "_cli_use_class_docs_for_groups", "_cli_exit_on_error",
  "_cli_prefix", "_cli_flag_prefix_char", "_cli_implicit_flags", "_cli_ignore_unknown_args",
  "_cli_kebab_case", "_cli_shortcuts", "_secrets_dir"]

/-- Whether a value counts as true where a truth value is wanted. -/
def isTruthy : Json → Bool
  | .null => false
  | .bool value => value
  | .int n => n != 0
  | .float x => x != 0.0
  | .string text => text != ""
  | .array items => !items.isEmpty
  | .object members => !members.isEmpty

/-- Change the rules of a section by the directives in its configuration object. A directive
that is `null` changes nothing. -/
def Rules.direct (rules : Rules) (given : List (String × Json)) : Rules :=
  let flag (name : String) (old : Bool) : Bool :=
    match given.lookup name with
    | none | some .null => old
    | some json => isTruthy json
  let text? (name : String) : Option String :=
    match given.lookup name with
    | some (.string text) => some text
    | _ => none
  { start := (text? "_env_prefix").getD rules.start
    caseSensitive := flag "_case_sensitive" rules.caseSensitive
    ignoreEmpty := flag "_env_ignore_empty" rules.ignoreEmpty
    nullText := (text? "_env_parse_none_str").or rules.nullText
    delimiter := (text? "_env_nested_delimiter").getD rules.delimiter }

/-- Check one field: keep the default if it has no value, else read it. The problems found
are collected beside the value. -/
def field {α : Type} (values : List (String × Json)) (name : String) (default : α)
    (check : Json → Except (List Problem) α) : List Problem × α :=
  match values.lookup name with
  | none => ([], default)
  | some json =>
    match check json with
    | .ok value => ([], value)
    | .error problems => (problems.map (Problem.below name), default)

/-- Settings that are not fields of the section. -/
def unknownNames (fields : List (String × Shape)) (given : List (String × Json)) :
    List Problem :=
  (given.filter fun entry => fields.all fun known => known.1 != entry.1).map fun entry =>
    { kind := .unknownName, place := [.name entry.1] }

/-- The members of a configuration object under the names of the fields that they mean. The
last of several members for one field counts. -/
def canonical (fields : List (String × Shape)) (given : List (String × Json)) :
    List (String × Json) :=
  given.foldl
    (fun members entry =>
      let meant := fields.find? fun known => known.1 == Text.lowerCase entry.1
      Json.put ((meant.map (·.1)).getD entry.1) entry.2 members)
    []

/-- A group of settings that is loaded as a whole. -/
structure Section (α : Type) where
  rules : Rules
  fields : List (String × Shape)
  /-- Check the values of the fields, reporting problems in the order of the fields. -/
  check : List (String × Json) → List Problem × α

namespace Section

/-- Load a section; what is given overrides the environment. -/
def load {α : Type} (spec : Section α) (environment : Environment)
    (given : List (String × Json)) : Except Refusal α := do
  let rules := spec.rules.direct given
  let members := canonical spec.fields
    (given.filter fun entry => !directiveNames.contains entry.1)
  let ambient ← readVariables rules environment spec.fields
  let values := members.foldl (fun values entry => Json.put entry.1 entry.2 values) ambient
  let (problems, value) := spec.check values
  match problems ++ unknownNames spec.fields members with
  | [] => .ok value
  | found => .error (.invalid found)

/-- Load a section that is part of the application's settings, `name` being its name there
and `given` what the environment says about it as a whole. Problems of a given section are
collected; the failure of a section that is not given is final. -/
def loadPart {α : Type} [Inhabited α] (spec : Section α) (environment : Environment)
    (name : String) (given : Option Json) : Except Refusal (List Problem × α) :=
  match given with
  | none => do return ([], ← spec.load environment [])
  | some (.object members) =>
    match spec.load environment members with
    | .ok value => .ok ([], value)
    | .error (.invalid problems) => .ok (problems.map (Problem.below name), default)
    | .error (.malformed _) =>
      .ok ([{ kind := .sectionValue, place := [.name name] }], default)
    | .error .deepNesting => .error .deepNesting
  | some _ => .ok ([{ kind := .sectionType, place := [.name name] }], default)

end Section

def extractorSection : Section ExtractorSettings where
  rules := { start := "EXTRACTOR_" }
  fields := [("file_extensions", .structured), ("skip_declaration_files", .plain),
    ("max_file_size_mb", .plain), ("ignore_patterns", .structured)]
  check values :=
    let base : ExtractorSettings := {}
    let (p₁, extensions) := field values "file_extensions" base.fileExtensions readStrings
    let (p₂, skip) := field values "skip_declaration_files" base.skipDeclarationFiles
      (fun json => placed (readBool json))
    let (p₃, size) := field values "max_file_size_mb" base.maxFileSizeMb
      (fun json => placed (readFloat json >>= atLeastFloat 0.1))
    let (p₄, ignore) := field values "ignore_patterns" base.ignorePatterns readStrings
    (p₁ ++ p₂ ++ p₃ ++ p₄,
      { fileExtensions := extensions
        skipDeclarationFiles := skip
        maxFileSizeMb := size
        ignorePatterns := ignore })

def apiSection : Section ApiSettings where
  rules := { start := "API_" }
  fields := [("host", .plain), ("port", .plain), ("debug", .plain),
    ("cors_origins", .structured), ("max_content_bytes", .plain)]
  check values :=
    let base : ApiSettings := {}
    let (p₁, host) := field values "host" base.host (fun json => placed (readString json))
    let (p₂, port) := field values "port" base.port
      (fun json => placed (readInt json >>= atLeast 1 >>= atMost 65535))
    let (p₃, debug) := field values "debug" base.debug (fun json => placed (readBool json))
    let (p₄, origins) := field values "cors_origins" base.corsOrigins readStrings
    let (p₅, bytes) := field values "max_content_bytes" base.maxContentBytes
      (fun json => placed (readInt json >>= atLeast 1))
    (p₁ ++ p₂ ++ p₃ ++ p₄ ++ p₅,
      { host := host
        port := port
        debug := debug
        corsOrigins := origins
        maxContentBytes := bytes })

def loggingSection : Section LoggingSettings where
  rules := { start := "LOG_" }
  fields := [("level", .plain), ("format", .plain)]
  check values :=
    let base : LoggingSettings := {}
    let (p₁, level) := field values "level" base.level (fun json => placed (readString json))
    let (p₂, format) := field values "format" base.format (fun json => placed (readString json))
    (p₁ ++ p₂, { level := level, format := format })

/-- Load the application's settings. -/
def load (environment : Environment) : Except Refusal Settings := do
  let rules : Rules := { start := "" }
  let plain (name default : String) := (rules.valueOf? environment name).getD default
  let base : Settings := {}
  let extractorGiven ← fromEnvironment rules environment "extractor" .structured
  let apiGiven ← fromEnvironment rules environment "api" .structured
  let loggingGiven ← fromEnvironment rules environment "logging" .structured
  let (p₁, extractor) ← extractorSection.loadPart environment "extractor" extractorGiven
  let (p₂, api) ← apiSection.loadPart environment "api" apiGiven
  let (p₃, logging) ← loggingSection.loadPart environment "logging" loggingGiven
  match p₁ ++ p₂ ++ p₃ with
  | [] =>
    .ok {
      appName := plain "app_name" base.appName
      appVersion := plain "app_version" base.appVersion
      environment := plain "environment" base.environment
      extractor := extractor
      api := api
      logging := logging }
  | problems => .error (.invalid problems)

end Settings

end SourceOutline
