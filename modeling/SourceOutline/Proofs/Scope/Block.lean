import SourceOutline.Proofs.Scope.Enclosing

/-!
# Blocks

A block is a node whose named children are bound as statements: the file, a transparent
statement, or the body of a namespace. A statement is nothing but a named child of a block, and
climbing out of a block leads to its scope.
-/

namespace SourceOutline

theorem Site.below_inj {site other : Site} {node node' : Node}
    (same : site.below node = other.below node') : site = other ∧ node = node' := by
  obtain ⟨upper, above⟩ := site
  obtain ⟨upper', above'⟩ := other
  cases same
  exact ⟨rfl, rfl⟩

namespace Document

variable {document : Document} {site : Site} {scope : List String}

/-- The named children of a site are bound into the scope with a path. -/
inductive BlockAt (document : Document) : Site → (scope : List String) → Prop
  | file : BlockAt document document.rootSite []
  | wrapper {site : Site} {scope : List String} (reached : document.StatementAt site scope)
      (transparent : isTransparentType site.type = true) : BlockAt document site scope
  | body {outer : Site} {scope names : List String} {body : Node}
      (reached : document.StatementAt outer scope) (nested : isNamespaceType outer.type = true)
      (named : Binder.namespaceNames document outer.node = .ok names)
      (found : outer.node.child? "body" = some body) :
      BlockAt document (outer.below body) (scope ++ names)

/-- The statements are the named children of the blocks. -/
theorem statementAt_below_iff {node : Node} :
    document.StatementAt (site.below node) scope ↔
      node ∈ site.node.namedChildren ∧ document.BlockAt site scope := by
  constructor
  · intro reached
    generalize same : site.below node = place at reached
    cases reached with
    | inFile member =>
        obtain ⟨rfl, rfl⟩ := Site.below_inj same
        exact ⟨member, .file⟩
    | wrapped reached transparent member =>
        obtain ⟨rfl, rfl⟩ := Site.below_inj same
        exact ⟨member, .wrapper reached transparent⟩
    | enclosed reached nested named found member =>
        obtain ⟨rfl, rfl⟩ := Site.below_inj same
        exact ⟨member, .body reached nested named found⟩
  · rintro ⟨member, block⟩
    cases block with
    | file => exact .inFile member
    | wrapper reached transparent => exact .wrapped reached transparent member
    | body reached nested named found => exact .enclosed reached nested named found member

/-- What makes a child a block: it is a transparent statement, or the body of a namespace. -/
theorem blockAt_below_iff {child : Node} :
    document.BlockAt (site.below child) scope ↔
      (isTransparentType child.type = true ∧ document.StatementAt (site.below child) scope) ∨
        ∃ outer names, document.StatementAt site outer ∧ isNamespaceType site.type = true ∧
          Binder.namespaceNames document site.node = .ok names ∧
          site.node.child? "body" = some child ∧ scope = outer ++ names := by
  constructor
  · intro block
    generalize same : site.below child = place at block
    cases block with
    | file => cases same
    | wrapper reached transparent =>
        subst same
        exact .inl ⟨transparent, reached⟩
    | body reached nested named found =>
        obtain ⟨rfl, rfl⟩ := Site.below_inj same
        exact .inr ⟨_, _, reached, nested, named, found, rfl⟩
  · rintro (⟨transparent, reached⟩ | ⟨outer, names, reached, nested, named, found, rfl⟩)
    · exact .wrapper reached transparent
    · exact .body reached nested named found

theorem blockAt_root_iff : document.BlockAt document.rootSite scope ↔ scope = [] := by
  constructor
  · intro block
    generalize same : document.rootSite = place at block
    cases block with
    | file => rfl
    | wrapper reached _ =>
        subst same
        exact absurd rfl reached.ancestors_ne_nil
    | body _ _ _ _ => cases same
  · rintro rfl
    exact .file

/-- The nodes of a list, as sites, stand in order among the sites below them. -/
theorem sublist_sitesBelowAll (ancestors nodes : List Node) :
    (nodes.map fun node => (⟨node, ancestors⟩ : Site)).Sublist
      (sitesBelowAll ancestors nodes) := by
  induction nodes with
  | nil => exact .slnil
  | cons node nodes ih =>
      obtain ⟨head, children⟩ := node
      rw [List.map_cons, sitesBelowAll, sitesBelow, List.cons_append]
      exact (ih.trans (List.sublist_append_right _ _)).cons_cons _

mutual

/-- The children of a site stand in order among all sites. -/
theorem children_sublist_sitesBelow {ancestors : List Node} (node : Node)
    (member : site ∈ sitesBelow ancestors node) :
    site.children.Sublist (sitesBelow ancestors node) := by
  obtain ⟨head, children⟩ := node
  rw [sitesBelow] at member ⊢
  refine List.Sublist.cons _ ?_
  rcases List.mem_cons.mp member with rfl | deeper
  · exact sublist_sitesBelowAll _ children
  · exact children_sublist_sitesBelowAll children deeper

theorem children_sublist_sitesBelowAll {ancestors : List Node} (nodes : List Node)
    (member : site ∈ sitesBelowAll ancestors nodes) :
    site.children.Sublist (sitesBelowAll ancestors nodes) := by
  cases nodes with
  | nil => cases member
  | cons node nodes =>
      rw [sitesBelowAll] at member ⊢
      rcases List.mem_append.mp member with first | later
      · exact (children_sublist_sitesBelow node first).trans (List.sublist_append_left _ _)
      · exact (children_sublist_sitesBelowAll nodes later).trans (List.sublist_append_right _ _)

end

theorem HasDistinctIds.nodup_children (distinct : document.HasDistinctIds)
    (member : site ∈ document.sites) : site.node.children.Nodup := by
  have ids : (site.children.map fun child => child.node.id).Nodup :=
    List.Nodup.sublist ((children_sublist_sitesBelow document.root member).map _) distinct
  rw [Site.children, List.map_map] at ids
  exact List.Nodup.of_map _ ids

end Document

namespace Scopes

variable {document : Document} {scopes : Scopes} {moduleName : Option String} {site : Site}

/-- The blocks that are remembered are the namespaces among the statements. -/
theorem lookup_blocks_iff (bound : Scopes.bind document moduleName = .ok scopes)
    (distinct : document.HasDistinctIds) (member : site ∈ document.sites) {path : List String} :
    scopes.blocks.lookup site.node.id = some path ↔
      ∃ scope names, document.StatementAt site scope ∧ isNamespaceType site.type = true ∧
        Binder.namespaceNames document site.node = .ok names ∧ path = scope ++ names := by
  constructor
  · exact opened_of_lookup bound distinct member
  · rintro ⟨scope, names, reached, nested, named, rfl⟩
    exact lookup_blocks_of_namespace bound distinct reached nested named

/-- Climbing out of a block leads to its scope. -/
theorem enclosing_of_blockAt (bound : Scopes.bind document moduleName = .ok scopes)
    (distinct : document.HasDistinctIds) {scope : List String}
    (block : document.BlockAt site scope) : scopes.enclosing site.ancestors = scope := by
  cases block with
  | file => rfl
  | wrapper reached _ => exact enclosing_of_statementAt bound distinct reached
  | @body outer _ _ _ reached nested named _ =>
      change scopes.enclosing (outer.node :: outer.ancestors) = _
      rw [enclosing_cons, lookup_blocks_of_namespace bound distinct reached nested named]
      rfl

end Scopes

end SourceOutline
