import SourceOutline.Settings.Load

/-!
# Settings as JSON
-/

namespace SourceOutline

def ExtractorSettings.toJson (settings : ExtractorSettings) : Json :=
  .object [
    ("file_extensions", .strings settings.fileExtensions),
    ("skip_declaration_files", .bool settings.skipDeclarationFiles),
    ("max_file_size_mb", .float settings.maxFileSizeMb),
    ("ignore_patterns", .strings settings.ignorePatterns)]

def ApiSettings.toJson (settings : ApiSettings) : Json :=
  .object [
    ("host", .string settings.host),
    ("port", .int settings.port),
    ("debug", .bool settings.debug),
    ("cors_origins", .strings settings.corsOrigins),
    ("max_content_bytes", .int settings.maxContentBytes)]

def LoggingSettings.toJson (settings : LoggingSettings) : Json :=
  .object [("level", .string settings.level), ("format", .string settings.format)]

/-- The settings with their sections as nested objects. -/
def Settings.members (settings : Settings) : List (String × Json) :=
  [("app_name", .string settings.appName),
    ("app_version", .string settings.appVersion),
    ("environment", .string settings.environment),
    ("extractor", settings.extractor.toJson),
    ("api", settings.api.toJson),
    ("logging", settings.logging.toJson)]

def Settings.Problem.Step.toJson : Settings.Problem.Step → Json
  | .name key => .string key
  | .index position => .nat position

/-- A problem as its kind and its place. -/
def Settings.Problem.toJson (problem : Settings.Problem) : Json :=
  .array [.string problem.kind.label, .array (problem.place.map Settings.Problem.Step.toJson)]

end SourceOutline
