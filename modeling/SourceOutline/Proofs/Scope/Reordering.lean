import SourceOutline.Proofs.Scope.Place

/-!
# Statements in another order

The statements of a file or of the body of a namespace may be written in another order. The names
are then listed in another order as well, so that the declarations of one symbol change places. As
long as no alias or import shares its name with another declaration, this is not seen from outside:
the two files are kin, and every place of one is tied to the place of the other with the same node.

The children of a block must be read as statements and in no other way, not as the parts of an
expression or of a declaration. This is so in every file whose blocks have the types that the
grammar has for them.
-/

namespace SourceOutline

section

variable {α β γ δ : Type}

theorem entails_collectMap {related : List γ → List δ → Prop} (nil : related [] [])
    (append : ∀ first first' second second', related first first' → related second second' →
      related (first ++ second) (first' ++ second'))
    {f : α → Except Failure (List γ)} {g : β → Except Failure (List δ)} {values : List α}
    {values' : List β}
    (each : List.Forall₂ (fun value value' => Entails related (f value) (g value')) values
      values') : Entails related (collectMap f values) (collectMap g values') := by
  induction each with
  | nil => exact .of_agree (.ok nil)
  | cons first _ ih =>
      refine first.bind fun here here' alike => ih.bind fun later later' alike' => ?_
      exact .of_agree (.ok (append here here' later later' alike alike'))

/-- Collected in another order, the results are the same up to the order. -/
theorem collectMap_perm {f : α → Except Failure (List γ)} {values values' : List α}
    (perm : values.Perm values') :
    Entails List.Perm (collectMap f values) (collectMap f values') := by
  induction perm with
  | nil => exact .of_agree (.ok (.refl _))
  | cons value _ ih =>
      refine (Entails.of_agree (Agree.refl (f value))).bind fun first _ same => ?_
      subst same
      exact ih.bind fun others others' perm => .of_agree (.ok (perm.append_left first))
  | swap value other values =>
      intro results given
      obtain ⟨first, here, given⟩ := bind_eq_ok_iff.mp given
      obtain ⟨rest, below, given⟩ := bind_eq_ok_iff.mp given
      obtain ⟨second, next, below⟩ := bind_eq_ok_iff.mp below
      obtain ⟨others, later, below⟩ := bind_eq_ok_iff.mp below
      cases below
      cases given
      refine ⟨second ++ (first ++ others), ?_, ?_⟩
      · refine bind_eq_ok_iff.mpr ⟨second, next, bind_eq_ok_iff.mpr ⟨first ++ others, ?_, rfl⟩⟩
        exact bind_eq_ok_iff.mpr ⟨first, here, bind_eq_ok_iff.mpr ⟨others, later, rfl⟩⟩
      · rw [← List.append_assoc, ← List.append_assoc]
        exact List.perm_append_comm.append_right others
  | trans _ _ first second => exact first.trans second fun _ _ _ => List.Perm.trans

end

namespace Site

/-- The root of a file, or the body of a namespace. -/
def IsBlock (site : Site) : Prop :=
  site.ancestors = [] ∨
    ∃ outer : Site, isNamespaceType outer.type = true ∧ outer.child? "body" = some site

theorem isBlock_of_body {outer : Site} {body : Node} (nested : isNamespaceType outer.type = true)
    (found : outer.node.child? "body" = some body) : (outer.below body).IsBlock :=
  .inr ⟨outer, nested, congrArg (Option.map outer.below) found⟩

end Site

/-- Sites of two trees with the same nodes, whose ids may be changed. The children of movable nodes
may stand in another order. -/
inductive Reorders (movable : Site → Prop) (rename : Nat → Nat) : Site → Site → Prop
  | node {site site' : Site} {arranged : List Node} (alike : site.node.Matches site'.node)
      (id : site'.node.id = rename site.node.id) (perm : arranged.Perm site'.node.children)
      (order : arranged = site'.node.children ∨ movable site)
      (below : List.Forall₂ (Reorders movable rename) site.children (arranged.map site'.below)) :
      Reorders movable rename site site'

/-- The types that the grammar has for the root of a file and for the body of a namespace. The root
of a file that fits no rule is an `ERROR`. -/
def isBlockType (type : String) : Bool :=
  type == "program" || type == "statement_block" || type == "ERROR"

/-- The root and the bodies of namespaces are blocks of the grammar. -/
def Document.HasStatementBlocks (document : Document) : Prop :=
  isBlockType document.root.type = true ∧
    ∀ site ∈ document.sites, isNamespaceType site.type = true →
      ∀ body ∈ site.node.child? "body", isBlockType body.type = true

instance (document : Document) : Decidable document.HasStatementBlocks :=
  inferInstanceAs (Decidable (_ ∧ ∀ site ∈ document.sites, _ → ∀ body ∈ site.node.child? "body", _))

theorem type_cases_of_isBlockType {type : String} (block : isBlockType type = true) :
    type = "program" ∨ type = "statement_block" ∨ type = "ERROR" := by
  simpa [isBlockType, or_assoc] using block

/-- A block is no declaration itself. -/
theorem Site.declared_eq_nil {site : Site} (block : isBlockType site.type = true)
    (document : Document) : site.declared document = .ok [] := by
  rcases type_cases_of_isBlockType block with type | type | type <;>
    simp [Site.declared, type, isNamedDeclarationType, isClassType, isFunctionType]

/-- A node with the type of a block. Its children are read as statements, and not as the parts of
anything else. -/
def Site.IsStatementBlock (site : Site) : Prop := isBlockType site.type = true

namespace Site.IsStatementBlock

variable {site : Site}

theorem not_namespace (block : site.IsStatementBlock) : ¬ isNamespaceType site.type = true := by
  rcases type_cases_of_isBlockType block with type | type | type <;> rw [type] <;> decide

theorem not_class (block : site.IsStatementBlock) : ¬ isClassType site.type = true := by
  rcases type_cases_of_isBlockType block with type | type | type <;> rw [type] <;> decide

theorem not_open (block : site.IsStatementBlock) : ¬ isOpenType site.type = true := by
  rcases type_cases_of_isBlockType block with type | type | type <;> rw [type] <;> decide

end Site.IsStatementBlock

/-- In a file of the grammar, every block is one. -/
theorem Document.HasStatementBlocks.isStatementBlock {document : Document}
    (blocks : document.HasStatementBlocks) {site : Site} (member : site ∈ document.sites)
    (block : site.IsBlock) : site.IsStatementBlock := by
  suffices inside : site ∈ document.sites ∧ (site.IsBlock → site.IsStatementBlock) from
    inside.2 block
  refine Document.sitesBelow_induction (motive := fun site =>
    site ∈ document.sites ∧ (site.IsBlock → site.IsStatementBlock)) ?_ document.root
    ⟨document.rootSite_mem_sites, fun _ => blocks.1⟩ site member
  rintro outer ⟨above, -⟩ body among
  refine ⟨Document.mem_sites_below above among, ?_⟩
  rintro (top | ⟨owner, nested, found⟩)
  · cases top
  · obtain ⟨node, at_, same⟩ := Option.map_eq_some_iff.mp found
    obtain ⟨rfl, rfl⟩ := Site.below_inj same
    exact blocks.2 owner above nested node at_

namespace Reorders

variable {movable : Site → Prop} {rename : Nat → Nat} {site site' : Site}

theorem alike (reorders : Reorders movable rename site site') :
    site.node.Matches site'.node := by
  cases reorders
  assumption

theorem id_eq (reorders : Reorders movable rename site site') :
    site'.node.id = rename site.node.id := by
  cases reorders
  assumption

theorem exists_arranged (reorders : Reorders movable rename site site') :
    ∃ arranged : List Node, arranged.Perm site'.node.children ∧
      (arranged = site'.node.children ∨ movable site) ∧
      List.Forall₂ (fun child child' => Reorders movable rename (site.below child)
        (site'.below child')) site.node.children arranged := by
  cases reorders with
  | @node _ _ arranged _ _ perm order below =>
      rw [Site.children, List.forall₂_map_left_iff, List.forall₂_map_right_iff] at below
      exact ⟨arranged, perm, order, below⟩

theorem nodes (reorders : Reorders movable rename site site') (fixed : ¬ movable site) :
    List.Forall₂ (fun child child' => Reorders movable rename (site.below child)
      (site'.below child')) site.node.children site'.node.children := by
  obtain ⟨arranged, -, order, nodes⟩ := reorders.exists_arranged
  rcases order with rfl | moved
  · exact nodes
  · exact absurd moved fixed

/-- What may be moved matters only for the nodes of the tree. -/
theorem of_imp {movable' : Site → Prop} {document : Document}
    (allowed : ∀ site ∈ document.sites, movable site → movable' site) (node : Node) {node' : Node}
    {ancestors ancestors' : List Node} (member : ⟨node, ancestors⟩ ∈ document.sites)
    (reorders : Reorders movable rename ⟨node, ancestors⟩ ⟨node', ancestors'⟩) :
    Reorders movable' rename ⟨node, ancestors⟩ ⟨node', ancestors'⟩ := by
  obtain ⟨arranged, perm, order, nodes⟩ := reorders.exists_arranged
  refine .node reorders.alike reorders.id_eq perm (order.imp_right (allowed _ member)) ?_
  rw [Site.children, List.forall₂_map_left_iff, List.forall₂_map_right_iff]
  refine (List.forall₂_mem nodes).imp fun child child' related => ?_
  have among := related.1
  exact of_imp allowed child (Document.mem_sites_below member among) related.2
  termination_by node.size
  decreasing_by exact Node.size_lt_of_mem among

/-- A tree may be moved as a whole. -/
theorem kept (node : Node) (ancestors ancestors' : List Node) :
    Reorders movable id ⟨node, ancestors⟩ ⟨node, ancestors'⟩ := by
  refine .node rfl rfl (.refl _) (.inl rfl) ?_
  rw [Site.children, List.forall₂_map_left_iff, List.forall₂_map_right_iff]
  refine List.forall₂_same.mpr fun child member => ?_
  exact kept child (node :: ancestors) (node :: ancestors')
  termination_by node.size
  decreasing_by exact Node.size_lt_of_mem member

end Reorders

variable {document document' : Document} {scopes scopes' : Scopes} {rename : Nat → Nat}
  {site site' : Site}

namespace Reorders

/-- Nothing is moved inside a node that is looked into, so it reads the same. -/
theorem like (node : Node) {node' : Node} {ancestors ancestors' : List Node}
    (reorders : Reorders Site.IsStatementBlock rename ⟨node, ancestors⟩ ⟨node', ancestors'⟩) :
    node.Like node' := by
  cases read : isOpenType node.type with
  | false => exact .closed reorders.alike read
  | true =>
      have nodes := reorders.nodes fun moved => moved.not_open read
      refine .of_children reorders.alike ((List.forall₂_mem nodes).imp ?_)
      intro child child' ⟨member, deeper⟩
      exact like child deeper
  termination_by node.size
  decreasing_by exact Node.size_lt_of_mem member

/-- The children of a node that is no block read the same. -/
theorem like_children (reorders : Reorders Site.IsStatementBlock rename site site')
    (fixed : ¬ site.IsStatementBlock) :
    List.Forall₂ Node.Like site.node.children site'.node.children :=
  (reorders.nodes fixed).imp fun child _ deeper => like child deeper

theorem resembles (reorders : Reorders Site.IsStatementBlock rename site site')
    (content : document.content = document'.content)
    (above : SameAbove site.ancestors site'.ancestors) (fixed : ¬ site.IsStatementBlock) :
    Site.Resembles document document' site site' :=
  .of_like content reorders.alike (reorders.like_children fixed) above

end Reorders

/-- Listings with the same sketch up to the order. -/
def Rearranged (listing listing' : Listing) : Prop := listing.sketch.Perm listing'.sketch

namespace Rearranged

theorem append (first first' second second' : Listing) (here : Rearranged first first')
    (later : Rearranged second second') : Rearranged (first ++ second) (first' ++ second') := by
  rw [Rearranged, Listing.sketch_append, Listing.sketch_append]
  exact List.Perm.append here later

theorem opened {declaration declaration' : Declaration} {names : List String}
    {body body' : Listing} (form : declaration.form = declaration'.form)
    (exported : declaration.isExported = declaration'.isExported)
    (inside : Rearranged body body') :
    Rearranged (Listing.opened declaration names body)
      (Listing.opened declaration' names body') := by
  rw [Rearranged, Listing.sketch_opened, Listing.sketch_opened, form, exported, Listing.openSketch,
    Listing.openSketch]
  exact (List.Perm.map _ inside).append_left _

theorem of_namings {namings namings' : List Naming}
    (same : (namings.map Naming.look).Perm (namings'.map Naming.look)) :
    Rearranged (namings.map fun naming => ([naming.1], naming.2))
      (namings'.map fun naming => ([naming.1], naming.2)) := by
  rw [Rearranged, Naming.sketch_eq, Naming.sketch_eq]
  exact same.map _

end Rearranged

theorem Document.listBlock_eq_collectMap (ancestors nodes : List Node) :
    document.listBlock ancestors nodes =
      collectMap (document.listStatement ancestors) (nodes.filter Node.named) := by
  induction nodes with
  | nil => rw [listBlock, List.filter_nil, collectMap]
  | cons node nodes ih =>
      rw [listBlock, ih, List.filter_cons]
      split <;> rfl

namespace Reorders

/-- A namespace opens the same scopes, so it lists the same names if its body does. -/
theorem entails_namespace (content : document.content = document'.content) {node node' : Node}
    {ancestors ancestors' : List Node} (isNamespace : isNamespaceType node.type = true)
    (type : node.type = node'.type)
    (heads : List.Forall₂ Node.Matches node.children node'.children)
    (above : SameAbove ancestors ancestors')
    (inner : Entails Rearranged (document.listBody (node :: ancestors) node.children)
      (document'.listBody (node' :: ancestors') node'.children)) :
    Entails Rearranged (document.listStatement ancestors node)
      (document'.listStatement ancestors' node') := by
  have other : node.type ≠ "variable_declarator" :=
    ne_of_apply_ne isNamespaceType (by rw [isNamespace]; decide)
  have exported : (⟨.plain node.type, ⟨node, ancestors⟩⟩ : Declaration).isExported =
      (⟨.plain node'.type, ⟨node', ancestors'⟩⟩ : Declaration).isExported := by
    rw [← type]
    exact Declaration.isExported_congr type above rfl other
  have opened : Binder.namespaceNames document node = Binder.namespaceNames document' node' :=
    namespaceNames_eq_of_rel content
      (Node.rel_child? (fun _ _ alike => alike) .children .children heads "name")
  rw [Document.listStatement_of_namespace isNamespace,
    Document.listStatement_of_namespace (type ▸ isNamespace), ← opened]
  refine (Entails.of_agree (Agree.refl _)).bind fun names _ same => ?_
  subst same
  refine inner.bind fun body body' inside => .of_agree (.ok ?_)
  exact .opened (congrArg Form.plain type) exported inside

mutual

/-- A statement lists the same names, up to the order. -/
theorem entails_listStatement (content : document.content = document'.content) (node : Node)
    {node' : Node} {ancestors ancestors' : List Node} (above : SameAbove ancestors ancestors')
    (reorders : Reorders Site.IsStatementBlock rename ⟨node, ancestors⟩ ⟨node', ancestors'⟩) :
    Entails Rearranged (document.listStatement ancestors node)
      (document'.listStatement ancestors' node') := by
  have type : node.type = node'.type := reorders.alike.type_eq
  by_cases transparent : isTransparentType node.type = true
  · rw [Document.listStatement_of_transparent transparent,
      Document.listStatement_of_transparent (type ▸ transparent)]
    exact entails_listBlock content node above reorders
  · by_cases isNamespace : isNamespaceType node.type = true
    · have nodes := reorders.nodes fun moved => moved.not_namespace isNamespace
      refine entails_namespace content isNamespace type (nodes.imp fun _ _ deeper => deeper.alike)
        above ?_
      rw [Document.listBody_eq, Document.listBody_eq]
      obtain ⟨missing, missing'⟩ | ⟨body, body', found, found', deeper⟩ :=
        Option.rel_cases (Node.rel_child? (fun _ _ deeper => deeper.alike) .children .children
          nodes "body")
      · rw [missing, missing']
        exact .of_agree (.ok (.refl _))
      · have smaller := Node.size_lt_of_mem (List.mem_of_find?_eq_some found)
        rw [found, found']
        exact entails_listBlock content body (.cons type above) deeper
    · rw [Document.listStatement_of_other transparent isNamespace,
        Document.listStatement_of_other (type ▸ transparent) (type ▸ isNamespace)]
      refine Entails.bind ?_ fun namings namings' same => .of_agree (.ok (.of_namings same))
      by_cases moved : (⟨node, ancestors⟩ : Site).IsStatementBlock
      · have moved' : isBlockType node'.type = true := type ▸ moved
        rw [Site.declared_eq_nil moved, Site.declared_eq_nil moved']
        exact .of_agree (.ok (.refl _))
      · have kept := (reorders.resembles content above moved).declared_agree
        exact (Entails.of_agree kept).imp fun _ _ same => .of_eq same
  termination_by (node.size, 1)
  decreasing_by
  · exact Prod.Lex.right _ Nat.zero_lt_one
  · exact Prod.Lex.left _ _ smaller

/-- So does a block, however its statements are ordered. -/
theorem entails_listBlock (content : document.content = document'.content) (node : Node)
    {node' : Node} {ancestors ancestors' : List Node} (above : SameAbove ancestors ancestors')
    (reorders : Reorders Site.IsStatementBlock rename ⟨node, ancestors⟩ ⟨node', ancestors'⟩) :
    Entails Rearranged (document.listBlock (node :: ancestors) node.children)
      (document'.listBlock (node' :: ancestors') node'.children) := by
  obtain ⟨arranged, perm, -, nodes⟩ := reorders.exists_arranged
  have named : List.Forall₂ (fun child child' => Reorders Site.IsStatementBlock rename
      (Site.below ⟨node, ancestors⟩ child) (Site.below ⟨node', ancestors'⟩ child'))
      node.namedChildren (arranged.filter Node.named) :=
    List.rel_filter (fun _ _ deeper => iff_of_eq (congrArg (· = true) deeper.alike.named_eq)) nodes
  have inOrder : Entails Rearranged
      (collectMap (document.listStatement (node :: ancestors)) node.namedChildren)
      (collectMap (document'.listStatement (node' :: ancestors'))
        (arranged.filter Node.named)) := by
    refine entails_collectMap (.refl _) Rearranged.append ?_
    refine (List.forall₂_mem named).imp fun child child' ⟨among, deeper⟩ => ?_
    have member := Document.mem_children_of_namedChildren among
    exact entails_listStatement content child (.cons reorders.alike.type_eq above) deeper
  have moved := collectMap_perm (f := document'.listStatement (node' :: ancestors'))
    (perm.filter Node.named)
  rw [Document.listBlock_eq_collectMap, Document.listBlock_eq_collectMap]
  refine inOrder.trans moved fun listing listing' listing'' rearranged permuted => ?_
  exact List.Perm.trans rearranged (permuted.map _)
  termination_by (node.size, 0)
  decreasing_by exact Prod.Lex.left _ _ (Node.size_lt_of_mem member)

end

end Reorders

/-- No alias or import shares its name with another declaration of the same scope. -/
def Scopes.Unmixed (scopes : Scopes) : Prop :=
  ∀ path symbol, scopes.symbol? path = some symbol →
    (∃ declaration ∈ symbol.declarations, declaration.form.borrowed? ≠ none) →
      symbol.declarations.length = 1

/-- It is enough to look at every symbol once. -/
theorem Scopes.unmixed_of_forest (single : ∀ symbol ∈ Symbol.forest scopes.globals,
    (∃ declaration ∈ symbol.declarations, declaration.form.borrowed? ≠ none) →
      symbol.declarations.length = 1) : scopes.Unmixed := by
  intro path symbol found
  rw [symbol?_eq_descend] at found
  exact single symbol (Symbol.mem_forest_of_descend found)

/-- Only declarations of the file itself can change places, so twins are borrowed in the same
way. -/
theorem Scopes.Twin.borrowed?_eq_of_perm {listing listing' : Listing}
    (groups : scopes.Groups listing) (groups' : scopes'.Groups listing')
    (rearranged : Rearranged listing listing') (unmixed : scopes.Unmixed) {symbol symbol' : Symbol}
    (twin : scopes.Twin scopes' symbol symbol') : symbol.borrowed? = symbol'.borrowed? := by
  have forms : (symbol.declarations.map Declaration.form).Perm
      (symbol'.declarations.map Declaration.form) := by
    rw [(groups.declarations _ symbol twin.stands).2,
      (groups'.declarations _ symbol' twin.stands').2, Listing.forms_of_sketch,
      Listing.forms_of_sketch, twin.path]
    exact rearranged.filterMap _
  rw [symbol.borrowed?_eq_head, symbol'.borrowed?_eq_head]
  by_cases borrowed : ∃ declaration ∈ symbol.declarations, declaration.form.borrowed? ≠ none
  · have single := unmixed _ symbol twin.stands borrowed
    obtain ⟨declaration, alone⟩ := List.length_eq_one_iff.mp single
    rw [alone, List.map_singleton] at forms ⊢
    rw [List.perm_singleton.mp forms.symm]
  · have plain (form : Form) (member : form ∈ symbol.declarations.map Declaration.form) :
        form.borrowed? = none := by
      obtain ⟨declaration, among, rfl⟩ := List.mem_map.mp member
      by_contra other
      exact borrowed ⟨declaration, among, other⟩
    have first (forms : List Form) (plain : ∀ form ∈ forms, form.borrowed? = none) :
        forms.head?.bind Form.borrowed? = none := by
      cases forms with
      | nil => rfl
      | cons form _ => exact plain form List.mem_cons_self
    rw [first _ plain, first _ fun form member => plain form (forms.mem_iff.mpr member)]

/-- A file with reordered blocks is bound whenever the original is, and the two are paired. -/
theorem Reorders.exists_paired (content : document.content = document'.content)
    (root : Reorders Site.IsStatementBlock rename document.rootSite document'.rootSite)
    (distinct : document.HasDistinctIds) (distinct' : document'.HasDistinctIds)
    {moduleName : Option String} (bound : Scopes.bind document moduleName = .ok scopes)
    (unmixed : scopes.Unmixed) :
    ∃ scopes', Scopes.bind document' moduleName = .ok scopes' ∧
      Paired document document' scopes scopes' := by
  have binding := Scopes.listing_agree document moduleName
  have binding' := Scopes.listing_agree document' moduleName
  have external : document.SameExports document' := by
    obtain ⟨arranged, perm, -, nodes⟩ := root.exists_arranged
    rw [Document.SameExports, Node.namedChildren, Node.namedChildren, List.any_filter,
      List.any_filter]
    refine (List.any_eq_of_forall₂ nodes fun child child' deeper => ?_).trans perm.any_eq
    rw [show child.named = child'.named from deeper.alike.named_eq,
      show child.type = child'.type from deeper.alike.type_eq]
  have entails := entails_listBlock content document.root .file root
  change Entails Rearranged document.listing document'.listing at entails
  rw [bound] at binding
  generalize document.listing = listed at entails binding
  cases binding with
  | @ok listing _ groups =>
      obtain ⟨listing', listed', rearranged⟩ := entails listing rfl
      rw [listed'] at binding'
      generalize bound' : Scopes.bind document' moduleName = result at binding'
      cases binding' with
      | @ok _ scopes' groups' =>
          refine ⟨scopes', rfl, .of_bind content distinct distinct' external bound bound' groups
            groups' rearranged fun _ _ twin => ?_⟩
          exact twin.borrowed?_eq_of_perm groups groups' rearranged unmixed

/-- Every place is tied to the place with the same node. -/
theorem Reorders.exists_tied (paired : Paired document document' scopes scopes')
    (root : Reorders Site.IsStatementBlock rename document.rootSite document'.rootSite)
    (member : site ∈ document.sites) :
    ∃ site', Tied document document' scopes scopes' site site' ∧
      Reorders Site.IsStatementBlock rename site site' := by
  refine Document.sitesBelow_induction (motive := fun site => ∃ site',
    Tied document document' scopes scopes' site site' ∧
      Reorders Site.IsStatementBlock rename site site') ?_ document.root
    ⟨document'.rootSite, .root root.alike, root⟩ site member
  rintro site ⟨site', tied, reorders⟩ child among
  by_cases moved : site.IsStatementBlock
  · obtain ⟨arranged, perm, -, nodes⟩ := reorders.exists_arranged
    obtain ⟨child', among', deeper⟩ := List.exists_of_forall₂ nodes among
    refine ⟨site'.below child', ?_, deeper⟩
    refine tied.child paired ?_ among (perm.mem_iff.mp among') deeper.alike ?_
    · exact fun nested => absurd nested moved.not_namespace
    · exact fun nested => absurd nested moved.not_namespace
  · have nodes := tied.nodes (fun _ _ deeper => deeper.alike) paired .children .children
      (reorders.nodes moved)
    obtain ⟨child', -, childTied, deeper⟩ := List.exists_of_forall₂ nodes among
    exact ⟨site'.below child', childTied, deeper⟩

end SourceOutline
