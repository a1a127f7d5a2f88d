import SourceOutline.Proofs.Scope.Expansion
import SourceOutline.Proofs.Scope.Place

/-!
# Corresponding places

Two places of a file and its expansion are linked if they are reached in the same way from the
root, where the body of a dotted namespace is linked to the body of the innermost of the nested
ones. Linked places are tied: the statements there go into the same scope, so climbing from linked
places leads to the same scope as well.

The one place where the two files differ is along the spine of nested namespaces. What is bound
there depends on the outermost of them alone: if it is a statement, then so are the others, each
in the scope of the one around it, and otherwise none is.
-/

namespace SourceOutline

variable {document document' : Document} {scopes scopes' : Scopes}

/-- Nothing that stands directly inside a namespace is an import or an export. -/
theorem Document.Opens.not_external {names : List String} {node body : Node}
    (opens : document.Opens names node body) :
    (node.namedChildren.any fun child =>
      child.type == "import_statement" || child.type == "export_statement") = false := by
  obtain ⟨keyword, label, children, token, -, calls⟩ := opens.parts
  rw [List.any_eq_false]
  intro child member
  obtain ⟨among, named⟩ := List.mem_filter.mp member
  rw [children] at among
  simp only [List.mem_cons, List.not_mem_nil, or_false] at among
  rcases among with rfl | rfl | rfl
  · rw [token.anonymous] at named
    cases named
  · rcases calls.type_eq with type | type <;> rw [type] <;> decide
  · rw [opens.bodyType]
    decide

theorem Expands.isExternal_eq {node node' : Node}
    (expands : Expands document document' node node') :
    (node.namedChildren.any fun child =>
      child.type == "import_statement" || child.type == "export_statement") =
      node'.namedChildren.any fun child =>
        child.type == "import_statement" || child.type == "export_statement" := by
  obtain below | ⟨names, body, body', spine, dotted, nested, -⟩ := expands.below_or_split
  · rw [Node.namedChildren, Node.namedChildren, List.any_filter, List.any_filter]
    refine List.any_eq_of_forall₂ below fun child child' deeper => ?_
    rw [deeper.alike.type_eq, deeper.alike.named_eq]
  · obtain ⟨outer, block, opens⟩ := nested.opens
    rw [dotted.not_external, opens.not_external]

/-- An expansion is bound if and only if the original is, and fails for the same reason. -/
theorem bind_agree (content : document.content = document'.content)
    (root : Expands document document' document.root document'.root)
    (distinct : document.HasDistinctIds) (distinct' : document'.HasDistinctIds)
    (moduleName : Option String) :
    Agree (Paired document document') (Scopes.bind document moduleName)
      (Scopes.bind document' moduleName) :=
  Paired.bind_agree content distinct distinct' root.isExternal_eq
    (agree_listBlock content document.root root .file) moduleName

namespace Document

variable {names : List String} {node body : Node} {spine : List Node}

theorem Opens.mem_sites (opens : document.Opens names node body) {ancestors : List Node}
    (member : ⟨node, ancestors⟩ ∈ document.sites) : ⟨body, node :: ancestors⟩ ∈ document.sites :=
  mem_sites_below member opens.body_mem

theorem mem_children_of_encloses {inner : Node} (encloses : node.Encloses inner) :
    inner ∈ node.children := by
  obtain ⟨before, after, children, -⟩ := encloses
  rw [children]
  exact List.mem_append_right _ List.mem_cons_self

theorem mem_sites_of_carries {block inner : Node} {between : List Node}
    (carries : block.Carries inner between) {ancestors : List Node}
    (member : ⟨block, ancestors⟩ ∈ document.sites) :
    ⟨inner, between ++ block :: ancestors⟩ ∈ document.sites := by
  induction carries generalizing ancestors with
  | directly encloses _ => exact mem_sites_below member (mem_children_of_encloses encloses)
  | @wrapped block statement inner between encloses _ _ _ ih =>
      rw [List.append_assoc]
      exact ih (mem_sites_below member (mem_children_of_encloses encloses))

theorem mem_namedChildren_of_encloses {inner : Node} (encloses : node.Encloses inner)
    (named : inner.named = true) : inner ∈ node.namedChildren :=
  List.mem_filter.mpr ⟨mem_children_of_encloses encloses, named⟩

/-- The only statement of a block goes into the scope of the block. -/
theorem statementAt_of_carries_iff {block inner : Node} {between : List Node}
    (carries : block.Carries inner between) (solid : isNamespaceType block.type = false)
    {ancestors : List Node} {scope : List String} :
    document.StatementAt ⟨inner, between ++ block :: ancestors⟩ scope ↔
      document.BlockAt ⟨block, ancestors⟩ scope := by
  induction carries generalizing ancestors with
  | @directly block inner encloses named =>
      change document.StatementAt (Site.below ⟨block, ancestors⟩ inner) scope ↔ _
      rw [statementAt_below_iff]
      exact and_iff_right (mem_namedChildren_of_encloses encloses named)
  | @wrapped block statement inner between encloses named type _ ih =>
      have member := mem_namedChildren_of_encloses encloses named
      rw [List.append_assoc]
      change document.StatementAt ⟨inner, between ++ statement :: block :: ancestors⟩ scope ↔ _
      rw [ih (by rw [type]; rfl)]
      change document.BlockAt (Site.below ⟨block, ancestors⟩ statement) scope ↔ _
      rw [blockAt_below_iff, statementAt_below_iff]
      constructor
      · rintro (⟨-, -, around⟩ | ⟨_, _, _, nested, _⟩)
        · exact around
        · cases solid.symm.trans nested
      · intro around
        exact .inl ⟨by rw [type]; rfl, member, around⟩

/-- The body of a namespace goes into the scope that the namespace opens. -/
theorem Opens.blockAt_iff (opens : document.Opens names node body) {ancestors : List Node}
    {scope : List String} :
    document.BlockAt ⟨body, node :: ancestors⟩ scope ↔
      ∃ outer, document.StatementAt ⟨node, ancestors⟩ outer ∧
        scope = outer ++ names.map Text.strip := by
  change document.BlockAt (Site.below ⟨node, ancestors⟩ body) scope ↔ _
  rw [blockAt_below_iff]
  constructor
  · rintro (⟨transparent, -⟩ | ⟨outer, others, reached, -, named, -, rfl⟩)
    · rw [opens.bodyType] at transparent
      cases transparent
    · cases opens.namespaceNames_eq.symm.trans named
      exact ⟨outer, reached, rfl⟩
  · rintro ⟨outer, reached, rfl⟩
    exact .inr ⟨outer, _, reached, opens.isNamespace, opens.namespaceNames_eq, opens.child?_body,
      rfl⟩

theorem Nests.mem_sites (nests : document.Nests body names node spine) {ancestors : List Node}
    (member : ⟨node, ancestors⟩ ∈ document.sites) :
    ⟨body, spine ++ ancestors⟩ ∈ document.sites := by
  induction nests generalizing ancestors with
  | innermost opens => exact opens.mem_sites member
  | around opens carries _ ih =>
      rw [spine_append]
      exact ih (mem_sites_of_carries carries (opens.mem_sites member))

theorem Opens.solid_body (opens : document.Opens names node body) :
    isNamespaceType body.type = false := by
  rw [opens.bodyType]
  rfl

/-- So does the body of nested ones. -/
theorem Nests.blockAt_iff (nests : document.Nests body names node spine) (ancestors : List Node)
    (scope : List String) :
    document.BlockAt ⟨body, spine ++ ancestors⟩ scope ↔
      ∃ outer, document.StatementAt ⟨node, ancestors⟩ outer ∧
        scope = outer ++ names.map Text.strip := by
  induction nests generalizing ancestors scope with
  | innermost opens => exact opens.blockAt_iff
  | @around first names node block inner between spine opens carries _ ih =>
      rw [spine_append, ih]
      simp only [statementAt_of_carries_iff carries opens.solid_body, opens.blockAt_iff]
      constructor
      · rintro ⟨_, ⟨outer, reached, rfl⟩, rfl⟩
        exact ⟨outer, reached, by rw [List.map_append, List.append_assoc]⟩
      · rintro ⟨outer, reached, rfl⟩
        exact ⟨_, ⟨outer, reached, rfl⟩, by rw [List.map_append, List.append_assoc]⟩

end Document

namespace Scopes

variable {moduleName : Option String} {names : List String} {node body : Node} {spine : List Node}

theorem enclosing_of_carries (bound : Scopes.bind document moduleName = .ok scopes)
    (distinct : document.HasDistinctIds) {block inner : Node} {between : List Node}
    (carries : block.Carries inner between) (solid : isNamespaceType block.type = false)
    {ancestors : List Node} (member : ⟨block, ancestors⟩ ∈ document.sites) :
    scopes.enclosing (between ++ block :: ancestors) = scopes.enclosing ancestors := by
  induction carries generalizing ancestors with
  | directly _ _ =>
      refine enclosing_below bound distinct member ?_
      rw [Site.type, solid]
      exact Bool.false_ne_true
  | @wrapped block statement inner between encloses named type _ ih =>
      have below := Document.mem_sites_below member (Document.mem_children_of_encloses encloses)
      rw [List.append_assoc]
      refine (ih (by rw [type]; rfl) below).trans (enclosing_below bound distinct member ?_)
      rw [Site.type, solid]
      exact Bool.false_ne_true

/-- If the outermost namespace is not bound, then none of them is. -/
theorem enclosing_of_unreached (bound : Scopes.bind document moduleName = .ok scopes)
    (distinct : document.HasDistinctIds) (nests : document.Nests body names node spine)
    {ancestors : List Node} (member : ⟨node, ancestors⟩ ∈ document.sites)
    (unreached : ∀ scope, ¬ document.StatementAt ⟨node, ancestors⟩ scope) :
    scopes.enclosing (spine ++ ancestors) = scopes.enclosing ancestors := by
  have passed (node : Node) (ancestors : List Node)
      (member : ⟨node, ancestors⟩ ∈ document.sites)
      (unreached : ∀ scope, ¬ document.StatementAt ⟨node, ancestors⟩ scope) :
      scopes.enclosing (node :: ancestors) = scopes.enclosing ancestors := by
    rw [enclosing_cons, lookup_blocks_eq_none bound distinct member
      fun scope reached => absurd reached (unreached scope)]
    rfl
  induction nests generalizing ancestors with
  | innermost _ => exact passed _ ancestors member unreached
  | @around first names node block inner between spine opens carries _ ih =>
      have inBlock := opens.mem_sites member
      rw [Document.spine_append]
      refine (ih (Document.mem_sites_of_carries carries inBlock) ?_).trans ?_
      · intro scope reached
        rw [Document.statementAt_of_carries_iff carries opens.solid_body,
          opens.blockAt_iff] at reached
        obtain ⟨outer, reached, -⟩ := reached
        exact unreached outer reached
      · exact (enclosing_of_carries bound distinct carries opens.solid_body inBlock).trans
          (passed node ancestors member unreached)

end Scopes

/-- A place of a file and the corresponding place of an paired. -/
structure Linked (document document' : Document) (scopes scopes' : Scopes) (site site' : Site) :
    Prop where
  member : site ∈ document.sites
  member' : site' ∈ document'.sites
  expands : Expands document document' site.node site'.node
  above : SameAbove site.ancestors site'.ancestors
  /-- Namespaces are bound into the same scope, if at all. -/
  statement : isNamespaceType site.type = true → ∀ scope,
    document.StatementAt site scope ↔ document'.StatementAt site' scope
  /-- What is directly below is bound into the same scope, if at all. -/
  block : ∀ scope, document.BlockAt site scope ↔ document'.BlockAt site' scope
  enclosing : scopes.enclosing site.ancestors = scopes'.enclosing site'.ancestors

namespace Linked

variable {site site' : Site}

theorem tied (linked : Linked document document' scopes scopes' site site') :
    Tied document document' scopes scopes' site site' where
  member := linked.member
  member' := linked.member'
  head := linked.expands.alike
  above := linked.above
  statement := linked.statement
  block := linked.block
  enclosing := linked.enclosing

theorem of_tied (tied : Tied document document' scopes scopes' site site')
    (expands : Expands document document' site.node site'.node) :
    Linked document document' scopes scopes' site site' where
  member := tied.member
  member' := tied.member'
  expands := expands
  above := tied.above
  statement := tied.statement
  block := tied.block
  enclosing := tied.enclosing

theorem root (expands : Expands document document' document.root document'.root) :
    Linked document document' scopes scopes' document.rootSite document'.rootSite :=
  .of_tied (.root expands.alike) expands

/-- The bodies of a dotted namespace and of nested ones are linked. -/
theorem inside (paired : Paired document document' scopes scopes')
    {node node' body body' : Node} {ancestors ancestors' spine : List Node} {names : List String}
    (linked : Linked document document' scopes scopes' ⟨node, ancestors⟩ ⟨node', ancestors'⟩)
    (dotted : document.Opens names node body) (nested : document'.Nests body' names node' spine)
    (expands : Expands document document' body body') :
    Linked document document' scopes scopes' ⟨body, node :: ancestors⟩
      ⟨body', spine ++ ancestors'⟩ := by
  have same := linked.statement dotted.isNamespace
  have single : document.Nests body names node [node] := .innermost dotted
  refine ⟨dotted.mem_sites linked.member, nested.mem_sites linked.member', expands,
    nested.sameAbove dotted.type _ _, ?_, ?_, ?_⟩
  · intro isNamespace
    cases dotted.solid_body.symm.trans isNamespace
  · intro scope
    rw [dotted.blockAt_iff, nested.blockAt_iff]
    simp only [same]
  · by_cases reached : ∃ scope, document.StatementAt ⟨node, ancestors⟩ scope
    · obtain ⟨scope, reached⟩ := reached
      have block := (single.blockAt_iff ancestors _).mpr ⟨scope, reached, rfl⟩
      have block' := (nested.blockAt_iff ancestors' _).mpr ⟨scope, (same scope).mp reached, rfl⟩
      exact (Scopes.enclosing_of_blockAt paired.bound paired.distinct block).trans
        (Scopes.enclosing_of_blockAt paired.bound' paired.distinct' block').symm
    · rw [not_exists] at reached
      have passed := Scopes.enclosing_of_unreached paired.bound paired.distinct single
        linked.member reached
      have passed' := Scopes.enclosing_of_unreached paired.bound' paired.distinct' nested
        linked.member' fun scope => (same scope).not.mp (reached scope)
      exact passed.trans (linked.enclosing.trans passed'.symm)

theorem nodes (paired : Paired document document' scopes scopes')
    (linked : Linked document document' scopes scopes' site site')
    (below : List.Forall₂ (Expands document document') site.node.children site'.node.children) :
    List.Forall₂ (fun child child' =>
        Linked document document' scopes scopes' (site.below child) (site'.below child'))
      site.node.children site'.node.children :=
  (linked.tied.nodes (fun _ _ expands => expands.alike) paired .children .children below).imp
    fun _ _ ⟨tied, expands⟩ => .of_tied tied expands

theorem resembles (paired : Paired document document' scopes scopes')
    (linked : Linked document document' scopes scopes' site site')
    (below : List.Forall₂ (Expands document document') site.node.children site'.node.children) :
    Site.Resembles document document' site site' :=
  .of_like paired.content linked.expands.alike (below.imp fun _ _ expands => expands.like)
    linked.above

end Linked

end SourceOutline
