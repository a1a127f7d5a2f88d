import SourceOutline.Proofs.Journal
import SourceOutline.Proofs.Outline.Visibility
import SourceOutline.Text.Basic

/-!
# Well-formed trees

What a grammar promises about the nodes that an outline reads: texts can be decoded,
declarations have names, imports have a source or a require clause, the nodes whose children
are taken by position have a named child, and access modifiers are one of three words. A legible
tree is one of which only the texts and the access modifiers are known to be in order.
Anonymous nodes are tokens: they have no children and are spelled like their type. Keywords and
punctuation are told from the rules of the grammar by the underscores in the names of the rules.
-/

namespace SourceOutline

/-- Types of declarations that are called by a name of their own. -/
def isNamedType (type : String) : Bool :=
  isNamespaceType type || isClassType type || type == "public_field_definition" ||
    isMethodType type || isFunctionType type

/-- Types of nodes with a named child that is taken by its position. -/
def isPositionalType (type : String) : Bool :=
  type == "import_alias" || type == "import_require_clause" || type == "namespace_import" ||
    type == "array_type" || type == "member_expression" || type == "nested_identifier"

/-- A node is as the grammar promises. -/
structure Node.WellFormed (document : Document) (node : Node) : Prop where
  readable : Defined (document.text node)
  hasName : node.named = true → isNamedType node.type = true →
    (node.child? "name").isSome = true
  /-- An import has a named require clause, or a source and no require clause at all. -/
  hasSource : node.named = true → node.type = "import_statement" →
    node.namedChildren.any (fun child => child.type == "import_require_clause") = true ∨
      (node.child? "source").isSome = true ∧
        node.hasChildOfType "import_require_clause" = false
  hasChild : isPositionalType node.type = true → node.namedChildren.isEmpty = false
  accessibility : node.type = "accessibility_modifier" →
    (document.text node).toOption.map Text.strip ∈
      [some "public", some "protected", some "private"]
  /-- A token has no children, is spelled like its type and is no rule of the grammar. -/
  token : node.named = false →
    node.children.isEmpty = true ∧ (document.text node).toOption = some node.type ∧
      '_' ∉ node.type.toList

def Document.WellFormed (document : Document) : Prop :=
  ∀ site ∈ document.sites, site.node.WellFormed document

instance (document : Document) (node : Node) : Decidable (node.WellFormed document) :=
  decidable_of_iff (_ ∧ _ ∧ _ ∧ _ ∧ _ ∧ _)
    ⟨fun ⟨readable, hasName, hasSource, hasChild, accessibility, token⟩ =>
      ⟨readable, hasName, hasSource, hasChild, accessibility, token⟩,
      fun ⟨readable, hasName, hasSource, hasChild, accessibility, token⟩ =>
        ⟨readable, hasName, hasSource, hasChild, accessibility, token⟩⟩

instance (document : Document) : Decidable document.WellFormed :=
  inferInstanceAs (Decidable (∀ site ∈ document.sites, site.node.WellFormed document))

/-- Every text can be read, and access modifiers are one of three words. -/
structure Document.Legible (document : Document) : Prop where
  readable : ∀ site ∈ document.sites, Defined (document.text site.node)
  accessibility : ∀ site ∈ document.sites, site.type = "accessibility_modifier" →
    (document.text site.node).toOption.map Text.strip ∈
      [some "public", some "protected", some "private"]

instance (document : Document) : Decidable document.Legible :=
  decidable_of_iff (_ ∧ _)
    ⟨fun ⟨readable, accessibility⟩ => ⟨readable, accessibility⟩,
      fun ⟨readable, accessibility⟩ => ⟨readable, accessibility⟩⟩

variable {document : Document} {site : Site}

namespace Document.Legible

theorem text_below (legible : document.Legible) (member : site ∈ document.sites) {child : Node}
    (among : child ∈ site.node.children) : Defined (document.text child) :=
  legible.readable (site.below child) (mem_sites_below member among)

theorem text_named (legible : document.Legible) (member : site ∈ document.sites) {child : Node}
    (among : child ∈ site.node.namedChildren) : Defined (document.text child) :=
  legible.text_below member (mem_children_of_namedChildren among)

/-- The text under a field, which is empty if nothing stands there. -/
theorem text_field (legible : document.Legible) (member : site ∈ document.sites)
    (field : String) : Defined (document.text? (site.node.child? field)) := by
  cases found : site.node.child? field with
  | none => exact defined_ok ""
  | some child => exact legible.text_below member (List.mem_of_find?_eq_some found)

end Document.Legible

namespace Document.WellFormed

theorem legible (wellFormed : document.WellFormed) : document.Legible where
  readable site member := (wellFormed site member).readable
  accessibility site member := (wellFormed site member).accessibility

theorem text (wellFormed : document.WellFormed) (member : site ∈ document.sites) :
    Defined (document.text site.node) := wellFormed.legible.readable site member

theorem text_below (wellFormed : document.WellFormed) (member : site ∈ document.sites)
    {child : Node} (among : child ∈ site.node.children) : Defined (document.text child) :=
  wellFormed.legible.text_below member among

theorem text_named (wellFormed : document.WellFormed) (member : site ∈ document.sites)
    {child : Node} (among : child ∈ site.node.namedChildren) : Defined (document.text child) :=
  wellFormed.legible.text_named member among

theorem text_field (wellFormed : document.WellFormed) (member : site ∈ document.sites)
    (field : String) : Defined (document.text? (site.node.child? field)) :=
  wellFormed.legible.text_field member field

/-- The name of a named declaration. -/
theorem exists_name (wellFormed : document.WellFormed) (member : site ∈ document.sites)
    (named : site.node.named = true) (type : isNamedType site.type = true) :
    ∃ name, site.node.child? "name" = some name ∧ Defined (document.text name) := by
  obtain ⟨name, found⟩ :=
    Option.isSome_iff_exists.mp ((wellFormed site member).hasName named type)
  exact ⟨name, found, wellFormed.text_below member (List.mem_of_find?_eq_some found)⟩

/-- The first named child of a node whose children are taken by position. -/
theorem exists_first (wellFormed : document.WellFormed) (member : site ∈ document.sites)
    (type : isPositionalType site.type = true) :
    ∃ first rest, site.node.namedChildren = first :: rest ∧ Defined (document.text first) := by
  have nonempty := (wellFormed site member).hasChild type
  cases children : site.node.namedChildren with
  | nil => simp [children] at nonempty
  | cons first rest =>
      refine ⟨first, rest, rfl, wellFormed.text_named member ?_⟩
      rw [children]
      exact List.mem_cons_self

end Document.WellFormed

end SourceOutline
