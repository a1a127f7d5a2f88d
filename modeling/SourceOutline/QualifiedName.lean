import SourceOutline.Text.Basic

/-!
# Qualified names

A reference to a type is a list of segments, the first of which may be a module rather than
a namespace. Written with dots, a leading module name stands in double quotes, since it may
itself hold dots.
-/

namespace SourceOutline

structure QualifiedName where
  parts : List String
  deriving DecidableEq, Repr, Inhabited

namespace QualifiedName

/-- The name given to a reference that cannot be resolved. -/
def unknown : QualifiedName := ⟨["unknown?"]⟩

def isUnknown (name : QualifiedName) : Bool := name == unknown

/-- The referenced type's own name. -/
def last (name : QualifiedName) : String := name.parts.getLast?.getD ""

def text (name : QualifiedName) : String := Text.join '.' name.parts

/-- Cut a dotted name into segments. A leading part in double quotes is one segment, quotes
included, and the dots behind it are dropped; an unclosed quote is an ordinary character. -/
def split (text : String) : List String :=
  match text.toList with
  | '"' :: rest =>
    match rest.dropWhile (· != '"') with
    | _ :: behind =>
      let quoted := String.ofList ('"' :: rest.takeWhile (· != '"') ++ ['"'])
      let names := behind.dropWhile (· == '.')
      if names.isEmpty then [quoted]
      else quoted :: Text.segments '.' (String.ofList names)
    | [] => Text.segments '.' text
  | _ => Text.segments '.' text

end QualifiedName

end SourceOutline
