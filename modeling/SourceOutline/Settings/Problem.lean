/-!
# Problems with settings

A setting can be wrong in a fixed number of ways. A problem names the way and the place: the
names of the settings, outermost first, and the index of a list item.
-/

namespace SourceOutline.Settings

/-- In which way a value is wrong. -/
inductive Problem.Kind where
  | stringType
  | boolType
  | boolParsing
  | intType
  | intParsing
  | intFromFloat
  | intSize
  | finiteNumber
  | floatType
  | floatParsing
  | listType
  | tooSmall
  | tooLarge
  | unknownName
  | sectionType
  | sectionValue
  deriving DecidableEq, Repr

def Problem.Kind.label : Problem.Kind → String
  | stringType => "string_type"
  | boolType => "bool_type"
  | boolParsing => "bool_parsing"
  | intType => "int_type"
  | intParsing => "int_parsing"
  | intFromFloat => "int_from_float"
  | intSize => "int_parsing_size"
  | finiteNumber => "finite_number"
  | floatType => "float_type"
  | floatParsing => "float_parsing"
  | listType => "list_type"
  | tooSmall => "greater_than_equal"
  | tooLarge => "less_than_equal"
  | unknownName => "extra_forbidden"
  | sectionType => "model_type"
  | sectionValue => "value_error"

/-- A step towards the value at fault. -/
inductive Problem.Step where
  | name (name : String)
  | index (index : Nat)
  deriving DecidableEq, Repr

structure Problem where
  kind : Problem.Kind
  place : List Problem.Step
  deriving DecidableEq, Repr

/-- The same problem, seen from one level further out. -/
def Problem.below (name : String) (problem : Problem) : Problem :=
  { problem with place := .name name :: problem.place }

/-- Why no settings could be loaded. -/
inductive Refusal where
  /-- A structured setting whose variable is not JSON. -/
  | malformed (name : String)
  /-- A structured setting whose variable is nested too deeply. -/
  | deepNesting
  | invalid (problems : List Problem)
  deriving DecidableEq, Repr

def Refusal.message : Refusal → String
  | malformed name =>
    "error parsing value for field \"" ++ name ++ "\" from source \"EnvSettingsSource\""
  | deepNesting => "maximum recursion depth exceeded"
  | invalid problems => toString problems.length ++ " invalid settings"

end SourceOutline.Settings
