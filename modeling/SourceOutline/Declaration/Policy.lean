import SourceOutline.Declaration.Modifier

/-!
# What modifiers mean

Visibility, lifetime and abstractness follow from the set of modifiers alone, except that a
declaration without an access modifier takes the default of its owner: members of a class
are public, everything else is private.
-/

namespace SourceOutline

inductive Visibility where
  | pub
  | prot
  | priv
  deriving DecidableEq, Repr, Inhabited

/-- Whether a member lives on the class or on each of its instances. -/
inductive Lifetime where
  | static
  | perInstance
  deriving DecidableEq, Repr, Inhabited

namespace Visibility

def label : Visibility → String
  | pub => "public"
  | prot => "protected"
  | priv => "private"

def ofLabel? : String → Option Visibility
  | "public" => some pub
  | "protected" => some prot
  | "private" => some priv
  | _ => none

/-- The visibility of a declaration that says nothing about it. -/
def default : Context → Visibility
  | .classBody => pub
  | .moduleBody | .elsewhere => priv

/-- The strictest word wins over a public one, and `export` counts as public. -/
def resolve (modifiers : List Modifier) (context : Context) : Visibility :=
  if .prot ∈ modifiers then prot
  else if .priv ∈ modifiers then priv
  else if .pub ∈ modifiers then pub
  else if .exporting ∈ modifiers then pub
  else default context

end Visibility

namespace Lifetime

def label : Lifetime → String
  | static => "static"
  | perInstance => "instance"

def ofLabel? : String → Option Lifetime
  | "static" => some static
  | "instance" => some perInstance
  | _ => none

def resolve (modifiers : List Modifier) : Lifetime :=
  if .static ∈ modifiers then static else perInstance

end Lifetime

/-- Whether an explicit `abstract` is among the modifiers. -/
def isAbstract (modifiers : List Modifier) : Bool := .abstract ∈ modifiers

namespace Site

def visibility (document : Document) (site : Site) : Except Failure Visibility := do
  return Visibility.resolve (← site.modifiers document) site.context

def lifetime (document : Document) (site : Site) : Except Failure Lifetime := do
  return Lifetime.resolve (← site.modifiers document)

def isAbstract (document : Document) (site : Site) : Except Failure Bool := do
  return SourceOutline.isAbstract (← site.modifiers document)

end Site

end SourceOutline
