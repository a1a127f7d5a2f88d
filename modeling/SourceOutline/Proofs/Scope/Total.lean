import SourceOutline.Proofs.Scope.Grouping
import SourceOutline.Proofs.Scope.Resolution
import SourceOutline.Proofs.Syntax.WellFormed

/-!
# Binding and resolution do not fail on well-formed trees

Every text that binding reads stands in the tree, and every child that it takes by position or
by name is promised. The same holds for the expressions that are resolved: a member node has an
object and a property as soon as it has a named child at all.
-/

namespace SourceOutline

variable {document : Document} {site : Site}

theorem defined_collectMap {α β : Type} {f : α → Except Failure (List β)} {values : List α}
    (each : ∀ value ∈ values, Defined (f value)) : Defined (collectMap f values) := by
  induction values with
  | nil => exact defined_ok []
  | cons value values ih =>
      refine (each value List.mem_cons_self).bind fun first _ => ?_
      refine (ih fun other member => each other (List.mem_cons_of_mem _ member)).bind ?_
      exact fun others _ => defined_ok (first ++ others)

namespace Document.WellFormed

theorem defined_moduleSpecifier (wellFormed : document.WellFormed)
    (member : site ∈ document.sites) : Defined (moduleSpecifier document site.node) := by
  rw [moduleSpecifier]
  cases source : (site.node.child? "source").or
      (site.node.namedChildren.find? fun child => child.type == "string") with
  | none => exact defined_ok none
  | some literal =>
      have among : literal ∈ site.node.children := by
        rcases Option.or_eq_some_iff.mp source with field | ⟨-, first⟩
        · exact List.mem_of_find?_eq_some field
        · exact mem_children_of_namedChildren (List.mem_of_find?_eq_some first)
      exact (wellFormed.text_below member among).bind fun text _ => defined_ok _

theorem defined_declaredVariable (wellFormed : document.WellFormed)
    (member : site ∈ document.sites) : Defined (site.declaredVariable document) := by
  rw [Site.declaredVariable]
  split
  · next name _ found =>
    split
    · have read := wellFormed.text_below member (List.mem_of_find?_eq_some found)
      exact read.bind fun text _ => defined_ok _
    · exact defined_ok []
  · exact defined_ok []

theorem defined_declaredSpecifier (wellFormed : document.WellFormed)
    (member : site ∈ document.sites) (source : Option String) :
    Defined (site.declaredSpecifier document source) := by
  rw [Site.declaredSpecifier]
  split
  · have localName : Defined (document.text?
        ((site.node.child? "alias").or (site.node.child? "name"))) := by
      cases found : site.node.child? "alias" with
      | none => exact wellFormed.text_field member "name"
      | some node => exact wellFormed.text_below member (List.mem_of_find?_eq_some found)
    refine localName.bind fun _ _ => (wellFormed.text_field member "name").bind fun _ _ => ?_
    exact defined_ok _
  · exact defined_ok []

theorem defined_declaredImportPart (wellFormed : document.WellFormed)
    (member : site ∈ document.sites) (source : Option String) :
    Defined (site.declaredImportPart document source) := by
  rw [Site.declaredImportPart]
  split
  · exact (wellFormed.text member).bind fun _ _ => defined_ok _
  · next type =>
    obtain ⟨first, rest, children, -⟩ := wellFormed.exists_first member (by rw [type]; rfl)
    cases last : site.node.namedChildren.getLast? with
    | none => simp [children] at last
    | some identifier =>
        have read := wellFormed.text_named member (List.mem_of_getLast? last)
        exact read.bind fun _ _ => defined_ok _
  · refine defined_collectMap fun child among => ?_
    exact wellFormed.defined_declaredSpecifier (mem_sites_of_namedChildren member child among)
      source
  · exact defined_ok []

theorem defined_declaredImport (wellFormed : document.WellFormed)
    (member : site ∈ document.sites) (source : Option String) :
    Defined (site.declaredImport document source) := by
  rw [Site.declaredImport]
  split
  · next type =>
    obtain ⟨first, rest, children, read⟩ := wellFormed.exists_first member (by rw [type]; rfl)
    rw [children]
    refine read.bind fun _ _ => (wellFormed.defined_moduleSpecifier member).bind fun _ _ => ?_
    exact defined_ok _
  · refine defined_collectMap fun child among => ?_
    exact wellFormed.defined_declaredImportPart (mem_sites_of_namedChildren member child among)
      source
  · exact defined_ok []

theorem defined_declaredAlias (wellFormed : document.WellFormed)
    (member : site ∈ document.sites) (type : site.type = "import_alias") :
    Defined (site.declaredAlias document) := by
  obtain ⟨first, rest, children, read⟩ := wellFormed.exists_first member (by rw [type]; rfl)
  rw [Site.declaredAlias]
  cases last : site.node.namedChildren.getLast? with
  | none => simp [children] at last
  | some target =>
      have readTarget := wellFormed.text_named member (List.mem_of_getLast? last)
      rw [children]
      exact read.bind fun _ _ => readTarget.bind fun _ _ => defined_ok _

/-- The names that a statement declares can be read. -/
theorem defined_declared (wellFormed : document.WellFormed) (member : site ∈ document.sites) :
    Defined (site.declared document) := by
  have below := mem_sites_of_namedChildren member
  rw [Site.declared]
  split
  · split
    · next name found =>
      have read := wellFormed.text_below member (List.mem_of_find?_eq_some found)
      exact read.bind fun _ _ => defined_ok _
    · exact defined_ok []
  · split
    · exact defined_collectMap fun child among =>
        wellFormed.defined_declaredVariable (below child among)
    · exact defined_collectMap fun child among =>
        wellFormed.defined_declaredVariable (below child among)
    · refine (wellFormed.defined_moduleSpecifier member).bind fun source _ => ?_
      exact defined_collectMap fun child among =>
        wellFormed.defined_declaredImport (below child among) source
    · next type => exact wellFormed.defined_declaredAlias member type
    · exact defined_ok []

theorem defined_namespaceNames (wellFormed : document.WellFormed)
    (member : site ∈ document.sites) (named : site.node.named = true)
    (nested : isNamespaceType site.type = true) :
    Defined (Binder.namespaceNames document site.node) := by
  obtain ⟨name, found, read⟩ :=
    wellFormed.exists_name member named (by simp [isNamedType, nested])
  rw [Binder.namespaceNames, found]
  exact read.bind fun _ _ => defined_ok _

mutual

/-- The declarations of a named statement can be listed. -/
theorem defined_listStatement (wellFormed : document.WellFormed) {ancestors : List Node}
    (node : Node) (member : ⟨node, ancestors⟩ ∈ document.sites) (named : node.named = true) :
    Defined (document.listStatement ancestors node) := by
  obtain ⟨head, children⟩ := node
  have below (child : Node) (among : child ∈ children) :=
    Document.mem_sites_below member among
  rw [listStatement]
  by_cases transparent : isTransparentType head.type = true
  · rw [if_pos transparent]
    exact wellFormed.defined_listBlock children below
  · rw [if_neg transparent]
    by_cases nested : isNamespaceType head.type = true
    · rw [if_pos nested]
      refine (wellFormed.defined_namespaceNames member named nested).bind fun names _ => ?_
      exact (wellFormed.defined_listBody children below).bind fun _ _ => defined_ok _
    · rw [if_neg nested]
      exact (wellFormed.defined_declared member).bind fun _ _ => defined_ok _

theorem defined_listBlock (wellFormed : document.WellFormed) {ancestors : List Node}
    (nodes : List Node) (each : ∀ node ∈ nodes, ⟨node, ancestors⟩ ∈ document.sites) :
    Defined (document.listBlock ancestors nodes) := by
  cases nodes with
  | nil => exact defined_ok []
  | cons node nodes =>
      have rest := wellFormed.defined_listBlock nodes
        fun other among => each other (List.mem_cons_of_mem _ among)
      rw [listBlock]
      by_cases named : node.named = true
      · rw [if_pos named]
        refine (wellFormed.defined_listStatement node (each node List.mem_cons_self) named).bind ?_
        exact fun _ _ => rest.bind fun _ _ => defined_ok _
      · rw [if_neg named]
        exact rest

theorem defined_listBody (wellFormed : document.WellFormed) {ancestors : List Node}
    (nodes : List Node) (each : ∀ node ∈ nodes, ⟨node, ancestors⟩ ∈ document.sites) :
    Defined (document.listBody ancestors nodes) := by
  cases nodes with
  | nil => exact defined_ok []
  | cons node nodes =>
      obtain ⟨head, children⟩ := node
      rw [listBody]
      split
      · exact wellFormed.defined_listBlock children fun child among =>
          Document.mem_sites_below (each _ List.mem_cons_self) among
      · exact wellFormed.defined_listBody nodes
          fun other among => each other (List.mem_cons_of_mem _ among)

end

/-- A well-formed file can be bound. -/
theorem defined_bind (wellFormed : document.WellFormed) (moduleName : Option String) :
    Defined (Scopes.bind document moduleName) := by
  obtain ⟨listing, listed⟩ : Defined document.listing :=
    wellFormed.defined_listBlock document.root.children fun node among =>
      Document.mem_sites_below document.rootSite_mem_sites among
  have outcome := Binder.yields_bindBlock document [] [document.root] [] document.root.children []
  rw [show document.listBlock [document.root] document.root.children = .ok listing from listed]
    at outcome
  obtain ⟨result, ran, -⟩ := map_eq_ok_iff.mp outcome
  exact Defined.bind ⟨result, ran⟩ fun _ _ => defined_ok _

/-- An expression of a well-formed file can be resolved. -/
theorem defined_symbolAt (wellFormed : document.WellFormed) (scopes : Scopes) (site : Site)
    (member : site ∈ document.sites) : Defined (scopes.symbolAt document site) := by
  induction site using Site.object_induction with
  | identifier site type =>
      rw [Scopes.symbolAt_identifier type]
      exact (wellFormed.text member).bind fun _ _ => defined_ok _
  | childless site isMember missing =>
      have positional : isPositionalType site.type = true := by
        simp only [isMemberType, Bool.or_eq_true, beq_iff_eq] at isMember
        rcases isMember with type | type <;> rw [type] <;> rfl
      obtain ⟨first, rest, children, -⟩ := wellFormed.exists_first member positional
      obtain ⟨object, property, hasObject, hasProperty⟩ := Node.exists_object_property children
      rcases missing with missing | missing
      · cases missing.symm.trans hasObject
      · cases missing.symm.trans hasProperty
  | member site object property isMember hasObject hasProperty ih =>
      obtain ⟨owner, inner⟩ := ih (Document.mem_sites_below member (Node.object?_mem hasObject))
      cases owner with
      | none => exact ⟨none, Scopes.symbolAt_of_nothing isMember hasObject hasProperty inner⟩
      | some owner =>
          rw [Scopes.symbolAt_of_owner isMember hasObject hasProperty inner]
          have read := wellFormed.text_below member (Node.property?_mem hasProperty)
          exact read.bind fun _ _ => defined_ok _
  | other site notIdentifier notMember =>
      rw [Scopes.symbolAt_other notIdentifier notMember]
      exact defined_ok none

end Document.WellFormed

end SourceOutline
