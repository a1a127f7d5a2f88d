import SourceOutline.Declaration.Policy
import SourceOutline.Declaration.TypeName
import SourceOutline.Json.Basic
import SourceOutline.QualifiedName

/-!
# Elements of an outline

An outline is a tree of elements: modules, import edges, classes, properties and methods.
`Traits` is what an element says about itself; an element adds its children. Two elements
are equal when their traits and children are, wherever they are attached.
-/

namespace SourceOutline

/-- What is special to one kind of element. -/
inductive Detail where
  | element
  | module (path : Option String)
  | importedModule
  | classLike (isAbstract : Bool) (base : Option QualifiedName)
  | property (typeName : String) (hasGetter hasSetter : Bool)
  | method (isAbstract : Bool)
  deriving DecidableEq, Repr, Inhabited

def Detail.kind : Detail → String
  | element => "element"
  | module _ => "module"
  | importedModule => "imported_module"
  | classLike .. => "class"
  | property .. => "property"
  | method _ => "method"

structure Traits where
  name : String
  visibility : Visibility := .pub
  lifetime : Lifetime := .perInstance
  detail : Detail
  deriving DecidableEq, Repr, Inhabited

structure Element where
  traits : Traits
  children : List Element
  deriving Repr, Inhabited

namespace Element

mutual

def decEq : (a b : Element) → Decidable (a = b)
  | ⟨traits, children⟩, ⟨traits', children'⟩ =>
    if same : traits = traits' then
      match decEqAll children children' with
      | isTrue below => isTrue (by rw [same, below])
      | isFalse below => isFalse (fun equal => below (Element.mk.inj equal).2)
    else isFalse (fun equal => same (Element.mk.inj equal).1)

def decEqAll : (as bs : List Element) → Decidable (as = bs)
  | [], [] => isTrue rfl
  | [], _ :: _ => isFalse (fun equal => nomatch equal)
  | _ :: _, [] => isFalse (fun equal => nomatch equal)
  | a :: as, b :: bs =>
    match decEq a b with
    | isTrue first =>
      match decEqAll as bs with
      | isTrue rest => isTrue (by rw [first, rest])
      | isFalse rest => isFalse (fun equal => rest (List.cons.inj equal).2)
    | isFalse first => isFalse (fun equal => first (List.cons.inj equal).1)

end

instance : DecidableEq Element := decEq

/-- The members of an element's object, given those that show its children. An import edge
shows its name alone, and properties and methods show no children. -/
def members (traits : Traits) (children : Json) : List (String × Json) :=
  let kind := ("kind", Json.string traits.detail.kind)
  let name := ("name", Json.string traits.name)
  let visibility := ("visibility", Json.string traits.visibility.label)
  let lifetime := ("lifetime", Json.string traits.lifetime.label)
  match traits.detail with
  | .element => [kind, name, visibility, lifetime, ("children", children)]
  | .module path => [kind, name, ("path", .optional .string path), visibility,
      ("children", children)]
  | .importedModule => [kind, name]
  | .classLike isAbstract base =>
    [kind, name, visibility, ("is_abstract", .bool isAbstract),
      ("extends", .optional (fun base => .strings base.parts) base), ("children", children)]
  | .property typeName hasGetter hasSetter =>
    [kind, name, visibility, lifetime, ("type_name", .string typeName),
      ("has_getter", .bool hasGetter), ("has_setter", .bool hasSetter)]
  | .method isAbstract => [kind, name, visibility, lifetime, ("is_abstract", .bool isAbstract)]

mutual

/-- An element as JSON. -/
def toJson : Element → Json
  | ⟨traits, children⟩ => .object (members traits (.array (toJsonAll children)))

def toJsonAll : List Element → List Json
  | [] => []
  | element :: elements => toJson element :: toJsonAll elements

end

end Element

end SourceOutline
