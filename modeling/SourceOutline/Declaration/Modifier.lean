import SourceOutline.Declaration.Kind
import SourceOutline.Text.Basic

/-!
# Modifiers and the construct that owns a declaration

Modifiers are written on the declaration or, for `export` and `declare`, by the unbroken run
of wrappers directly above it. The owner of a declaration is the first ancestor that is not
a mere wrapper.
-/

namespace SourceOutline

inductive Modifier where
  | exporting
  | pub
  | prot
  | priv
  | static
  | abstract
  | readonly
  | declare
  | async
  | override
  deriving DecidableEq, Repr

namespace Modifier

def label : Modifier → String
  | exporting => "export"
  | pub => "public"
  | prot => "protected"
  | priv => "private"
  | static => "static"
  | abstract => "abstract"
  | readonly => "readonly"
  | declare => "declare"
  | async => "async"
  | override => "override"

def all : List Modifier :=
  [exporting, pub, prot, priv, static, abstract, readonly, declare, async, override]

def ofLabel? (label : String) : Option Modifier := all.find? (fun m => m.label == label)

/-- The modifier that a wrapping statement lends to the declaration inside it. -/
def ofWrapper? : String → Option Modifier
  | "export_statement" => some exporting
  | "ambient_declaration" => some declare
  | _ => none

/-- The modifier that a token stands for. -/
def ofToken? : String → Option Modifier
  | "static" => some static
  | "abstract" => some abstract
  | "readonly" => some readonly
  | "declare" => some declare
  | "async" => some async
  | "override_modifier" => some override
  | _ => none

def ofAccessibility? : String → Option Modifier
  | "public" => some pub
  | "protected" => some prot
  | "private" => some priv
  | _ => none

end Modifier

/-- The construct that syntactically owns a declaration. -/
inductive Context where
  | classBody
  | moduleBody
  | elsewhere
  deriving DecidableEq, Repr

namespace Context

def label : Context → String
  | classBody => "class"
  | moduleBody => "module"
  | elsewhere => "other"

def ofLabel? : String → Option Context
  | "class" => some classBody
  | "module" => some moduleBody
  | "other" => some elsewhere
  | _ => none

end Context

/-- Nodes that sit between a declaration and its owner. -/
def isWrapperType (type : String) : Bool :=
  type == "export_statement" || type == "ambient_declaration" || type == "expression_statement" ||
    type == "class_body" || type == "statement_block"

/-- Modifiers lent by a run of wrappers, nearest first; the run ends at the first other node. -/
def wrapperModifiers : List Node → List Modifier
  | [] => []
  | node :: above =>
    match Modifier.ofWrapper? node.type with
    | some modifier => modifier :: wrapperModifiers above
    | none => []

/-- The modifier written by a child, if it is one. -/
def childModifier? (document : Document) (child : Node) : Except Failure (Option Modifier) :=
  if child.type == "accessibility_modifier" then do
    let word := Text.strip (← document.text child)
    match Modifier.ofAccessibility? word with
    | some modifier => return some modifier
    | none => throw (.unknownAccessibility word)
  else .ok (Modifier.ofToken? child.type)

/-- The modifiers written by a list of children, in order. -/
def childModifiers (document : Document) : List Node → Except Failure (List Modifier)
  | [] => .ok []
  | child :: rest => do
    let first ← childModifier? document child
    let others ← childModifiers document rest
    return first.toList ++ others

namespace Site

/-- The modifiers of a declaration in the order of the source: those of the wrappers, the
outermost first, then those written on the declaration. -/
def modifiers (document : Document) (site : Site) : Except Failure (List Modifier) := do
  let written ← childModifiers document site.node.children
  return (wrapperModifiers site.ancestors).reverse ++ written

/-- The construct that owns the declaration. -/
def context (site : Site) : Context :=
  match site.ancestors.find? (fun node => !isWrapperType node.type) with
  | none => .elsewhere
  | some owner =>
    if isClassType owner.type then .classBody
    else if isNamespaceType owner.type then .moduleBody
    else .elsewhere

end Site

end SourceOutline
