import SourceOutline.Proofs.Outline.Likeness

/-!
# Comments

Comments may be written almost anywhere, and nothing depends on them. They declare no name, start
no element and stand under no field, so lists of children with and without them are bound and
walked in the same way. The exceptions are the few types of nodes whose children are taken by their
position: there a comment could be taken for the child that it stands next to.
-/

namespace SourceOutline

/-- Comments with nothing below them are strewn between the nodes of a list. -/
inductive Strewn : List Node → List Node → Prop
  | nil : Strewn [] []
  | kept {nodes nodes' : List Node} (node : Node) (later : Strewn nodes nodes') :
      Strewn (node :: nodes) (node :: nodes')
  | remark {nodes nodes' : List Node} {node : Node} (isRemark : node.isRemark = true)
      (bare : node.children = []) (later : Strewn nodes nodes') : Strewn nodes (node :: nodes')

/-- A tree with more comments in it, though none where children are taken by their position. -/
inductive Commented : Node → Node → Prop
  | node {node node' : Node} {kept : List Node} (alike : node.Matches node')
      (below : List.Forall₂ Commented node.children kept) (strewn : Strewn kept node'.children)
      (fixed : isOrderedType node.type = true → kept = node'.children) : Commented node node'

variable {document document' : Document} {scopes scopes' : Scopes}

section

variable {node : Node} {ancestors : List Node}

theorem Site.declared_comment {site : Site} (comment : site.type = "comment") :
    site.declared document = .ok [] := by
  rw [declared, comment]
  rfl

theorem Document.listStatement_comment (comment : node.type = "comment") :
    document.listStatement ancestors node = .ok [] := by
  have solid : ¬ isTransparentType node.type = true := by
    rw [comment]
    decide
  have plain : ¬ isNamespaceType node.type = true := by
    rw [comment]
    decide
  rw [listStatement_of_other solid plain, Site.declared_comment comment]
  rfl

/-- A comment itself starts no element. -/
theorem outline_comment {resolver : Resolver} (comment : node.type = "comment") :
    outline document resolver ancestors node =
      outlineAll document resolver (node :: ancestors) node.children := by
  have unclassified : (⟨node, ancestors⟩ : Site).classify document = .ok none := by
    rw [Site.classify, show (⟨node, ancestors⟩ : Site).type = _ from comment]
    rfl
  rw [outline_site document resolver ⟨node, ancestors⟩, unclassified]
  rfl

end

namespace Strewn

variable {nodes nodes' ancestors : List Node}

theorem refl (nodes : List Node) : Strewn nodes nodes := by
  induction nodes with
  | nil => exact .nil
  | cons node _ ih => exact .kept node ih

theorem sublist (strewn : Strewn nodes nodes') : nodes.Sublist nodes' := by
  induction strewn with
  | nil => exact .refl _
  | kept node _ ih => exact ih.cons_cons node
  | remark _ _ _ ih => exact ih.cons _

/-- What no remark passes selects the same from both lists. -/
theorem filter_eq (strewn : Strewn nodes nodes') {test : Node → Bool}
    (ignores : ∀ child : Node, child.isRemark = true → test child = false) :
    nodes.filter test = nodes'.filter test := by
  induction strewn with
  | nil => rfl
  | kept node _ ih => rw [List.filter_cons, List.filter_cons, ih]
  | @remark _ _ node isRemark _ _ ih =>
      rw [List.filter_cons_of_neg (by rw [ignores node isRemark]; exact Bool.false_ne_true), ih]

/-- No comment stands under a field. -/
theorem selection {node : Node} (strewn : Strewn nodes node.children) : node.Selection nodes := by
  refine ⟨strewn.sublist, fun field => ?_⟩
  rw [Node.child?, ← List.head?_filter, ← List.head?_filter,
    strewn.filter_eq (Node.ignores_field field)]

theorem listBlock_eq (strewn : Strewn nodes nodes') :
    document.listBlock ancestors nodes = document.listBlock ancestors nodes' := by
  induction strewn with
  | nil => rfl
  | kept node _ ih => rw [Document.listBlock, Document.listBlock, ih]
  | @remark _ nodes' node isRemark _ _ ih =>
      rw [Document.listBlock,
        Document.listStatement_comment (Node.type_of_isRemark isRemark), ih]
      split
      · cases document.listBlock ancestors nodes' <;> rfl
      · rfl

theorem outlineAll_eq (strewn : Strewn nodes nodes') {resolver : Resolver} :
    outlineAll document resolver ancestors nodes =
      outlineAll document resolver ancestors nodes' := by
  induction strewn with
  | nil => rfl
  | kept node _ ih => rw [outlineAll, outlineAll, ih]
  | @remark _ nodes' node isRemark bare _ ih =>
      have silent : outline document resolver ancestors node = pure [] := by
        rw [outline_comment (Node.type_of_isRemark isRemark), bare, outlineAll]
      rw [outlineAll, silent, pure_bind, ih]
      exact (bind_pure _).symm

end Strewn

namespace Commented

variable {node node' : Node} {ancestors ancestors' : List Node}

mutual

/-- No comment has to be added. -/
theorem refl (node : Node) : Commented node node := by
  obtain ⟨head, children⟩ := node
  exact .node rfl (refl_all children) (.refl children) fun _ => rfl

theorem refl_all (nodes : List Node) : List.Forall₂ Commented nodes nodes := by
  cases nodes with
  | nil => exact .nil
  | cons node nodes => exact .cons (refl node) (refl_all nodes)

end

/-- Comments may be added further below alone. -/
theorem of_children (alike : node.Matches node')
    (below : List.Forall₂ Commented node.children node'.children) : Commented node node' :=
  .node alike below (.refl _) fun _ => rfl

theorem alike (commented : Commented node node') : node.Matches node' := by
  cases commented
  assumption

theorem exists_kept (commented : Commented node node') :
    ∃ kept, List.Forall₂ Commented node.children kept ∧ Strewn kept node'.children := by
  cases commented with
  | node _ below strewn _ => exact ⟨_, below, strewn⟩

/-- Of the children that count, none are added. -/
theorem substance (commented : Commented node node') :
    List.Forall₂ Commented node.substance node'.substance := by
  cases commented with
  | node alike below strewn fixed =>
      rw [Node.substance, Node.substance, ← alike.type_eq]
      split
      · next ordered => exact fixed ordered ▸ below
      · rw [← strewn.filter_eq fun child remark => by rw [remark, Bool.not_true]]
        exact Node.rel_filter (fun _ _ deeper => deeper.alike)
          (fun _ _ alike => congrArg not alike.isRemark_eq) below

theorem like (node : Node) {node' : Node} (commented : Commented node node') :
    node.Like node' := by
  refine .opened commented.alike ((List.forall₂_mem commented.substance).imp ?_)
  intro child child' ⟨counts, deeper⟩
  have member := Node.Selection.substance.sublist.mem counts
  exact like child deeper
  termination_by node.size
  decreasing_by exact Node.size_lt_of_mem member

theorem resembles (commented : Commented node node')
    (content : document.content = document'.content) (above : SameAbove ancestors ancestors') :
    Site.Resembles document document' ⟨node, ancestors⟩ ⟨node', ancestors'⟩ :=
  .of_substance content commented.alike
    (commented.substance.imp fun child _ deeper => deeper.like child) above

mutual

/-- A statement lists the same names, whatever comments are in it. -/
theorem agree_listStatement (content : document.content = document'.content) (node : Node)
    {node' : Node} {ancestors ancestors' : List Node} (above : SameAbove ancestors ancestors')
    (commented : Commented node node') :
    Agree SameSketch (document.listStatement ancestors node)
      (document'.listStatement ancestors' node') := by
  refine (commented.resembles content above).agree_listStatement ?_ ?_
  · intro _
    exact agree_listBlock content node above commented
  · intro _ body body' found found'
    have smaller := Node.size_lt_of_mem (List.mem_of_find?_eq_some found)
    have bodies := Node.rel_child? (fun _ _ deeper => deeper.alike) .substance .substance
      commented.substance "body"
    rw [found, found'] at bodies
    cases bodies with
    | some deeper =>
        exact agree_listBlock content body (.cons commented.alike.type_eq above) deeper
  termination_by (node.size, 1)
  decreasing_by
  · exact Prod.Lex.right _ Nat.zero_lt_one
  · exact Prod.Lex.left _ _ smaller

theorem agree_listBlock (content : document.content = document'.content) (node : Node)
    {node' : Node} {ancestors ancestors' : List Node} (above : SameAbove ancestors ancestors')
    (commented : Commented node node') :
    Agree SameSketch (document.listBlock (node :: ancestors) node.children)
      (document'.listBlock (node' :: ancestors') node'.children) := by
  obtain ⟨kept, below, strewn⟩ := commented.exists_kept
  rw [← strewn.listBlock_eq]
  refine agree_listBlock_of_forall₂ ((List.forall₂_mem below).imp ?_)
  intro child child' ⟨member, deeper⟩
  exact ⟨deeper.alike.named_eq,
    agree_listStatement content child (.cons commented.alike.type_eq above) deeper⟩
  termination_by (node.size, 0)
  decreasing_by exact Prod.Lex.left _ _ (Node.size_lt_of_mem member)

end

/-- The trees are bound as a pair, or fail for the same reason. -/
theorem bind_agree (content : document.content = document'.content)
    (root : Commented document.root document'.root)
    (distinct : document.HasDistinctIds) (distinct' : document'.HasDistinctIds)
    (moduleName : Option String) :
    Agree (Paired document document') (Scopes.bind document moduleName)
      (Scopes.bind document' moduleName) := by
  refine Paired.bind_agree content distinct distinct' ?_ ?_ moduleName
  · exact Document.sameExports_of_matches (root.resembles content .file).heads
  · exact agree_listBlock content document.root .file root

/-- The outlines at tied places have the same elements, and the same warnings are recorded on the
way. -/
theorem outline_parallel (paired : Paired document document' scopes scopes') (node : Node)
    {node' : Node} {ancestors ancestors' : List Node}
    (tied : Tied document document' scopes scopes' ⟨node, ancestors⟩ ⟨node', ancestors'⟩)
    (commented : Commented node node') :
    Recorded.Parallel SameElements
      (outline document (scopes.resolver document) ancestors node)
      (outline document' (scopes'.resolver document') ancestors' node') := by
  refine tied.outline_parallel paired (commented.resembles paired.content tied.above) fun _ => ?_
  obtain ⟨kept, below, strewn⟩ := commented.exists_kept
  -- The comments give way first, so that the children that are left stand side by side.
  rw [← strewn.outlineAll_eq]
  have nodes := tied.nodes (fun _ _ deeper => deeper.alike) paired .children strewn.selection below
  refine outlineAll_coupled congruence_sameElements ((List.forall₂_mem nodes).imp ?_)
  intro child child' ⟨member, childTied, deeper⟩
  exact deeper.outline_parallel paired child childTied
  termination_by node.size
  decreasing_by exact Node.size_lt_of_mem member

end Commented

/-- Comments are invisible. If comments are added to a tree over the same content, at any places
below nodes whose children are not taken by their position, then extraction gives the same root
module and the same diagnostics, or the same failure. -/
theorem extract_of_commented (content : document.content = document'.content)
    (root : Commented document.root document'.root)
    (distinct : document.HasDistinctIds) (distinct' : document'.HasDistinctIds) (path : String) :
    (Recorded.run (extract document path)).1.map
        (fun extraction => (extraction.module, extraction.diagnostics)) =
      (Recorded.run (extract document' path)).1.map
        (fun extraction => (extraction.module, extraction.diagnostics)) := by
  have parallel := extract_parallel_of_outline
    (Commented.bind_agree content root distinct distinct' (some (modulePath path).text))
    fun scopes scopes' paired => root.outline_parallel paired document.root (.root root.alike)
  obtain ⟨agree, -⟩ := parallel {} {} rfl
  exact agree.map_eq fun _ _ ⟨module, diagnostics⟩ => Prod.ext module diagnostics

/-- An import and a namespace with two classes, where the second has a computed base. Whether the
comments of the file are nodes of the tree is left open. -/
def openRemarks (remark : Nat → Nat → List Node) : Document where
  content := ("import \x7b A /* a */ \x7d from 'm'; namespace N \x7b /* b */ " ++
    "class C \x7b x: number; /* c */ \x7d class D /* d */ extends f() \x7b \x7d \x7d").toUTF8
  root := ⟨⟨0, "program", 0, true, none, 0, 117⟩, [
    ⟨⟨1, "import_statement", 0, true, none, 0, 30⟩, [
      ⟨⟨2, "import_clause", 0, true, none, 7, 20⟩, [
        ⟨⟨3, "named_imports", 0, true, none, 7, 20⟩,
          ⟨⟨4, "import_specifier", 0, true, none, 9, 10⟩, [
            ⟨⟨5, "identifier", 0, true, some "name", 9, 10⟩, []⟩]⟩ :: remark 11 18⟩]⟩,
      ⟨⟨6, "string", 0, true, some "source", 26, 29⟩, []⟩]⟩,
    ⟨⟨7, "internal_module", 0, true, none, 31, 117⟩, [
      ⟨⟨8, "identifier", 0, true, some "name", 41, 42⟩, []⟩,
      ⟨⟨9, "statement_block", 0, true, some "body", 43, 117⟩, remark 45 52 ++ [
        ⟨⟨10, "class_declaration", 0, true, none, 53, 83⟩, [
          ⟨⟨11, "type_identifier", 0, true, some "name", 59, 60⟩, []⟩,
          ⟨⟨12, "class_body", 0, true, some "body", 61, 83⟩,
            ⟨⟨13, "public_field_definition", 0, true, none, 63, 72⟩, [
              ⟨⟨14, "property_identifier", 0, true, some "name", 63, 64⟩, []⟩,
              ⟨⟨15, "type_annotation", 0, true, some "type", 64, 72⟩, [
                ⟨⟨16, "predefined_type", 0, true, none, 66, 72⟩, []⟩]⟩]⟩ :: remark 74 81⟩]⟩,
        ⟨⟨17, "class_declaration", 0, true, none, 84, 115⟩,
          ⟨⟨18, "type_identifier", 0, true, some "name", 90, 91⟩, []⟩ :: remark 92 99 ++ [
          ⟨⟨19, "class_heritage", 0, true, none, 100, 111⟩, [
            ⟨⟨20, "extends_clause", 0, true, none, 100, 111⟩, [
              ⟨⟨21, "call_expression", 0, true, some "value", 108, 111⟩, []⟩]⟩]⟩,
          ⟨⟨22, "class_body", 0, true, some "body", 112, 115⟩, []⟩]⟩]⟩]⟩]⟩

/-- The comments are not in the tree. -/
def withoutRemarks : Document := openRemarks fun _ _ => []

/-- All comments are in the tree. -/
def withRemarks : Document :=
  openRemarks fun start stop =>
    [⟨⟨100 + start, "comment", 0, true, none, start, stop⟩, []⟩]

/-- Comments are added in braces, in blocks and between the parts of a class. -/
theorem withoutRemarks_commented : Commented withoutRemarks.root withRemarks.root := by
  refine .of_children rfl (.cons ?_ (.cons ?_ .nil))
  · refine .of_children rfl (.cons (.of_children rfl (.cons ?_ .nil)) (.cons (.refl _) .nil))
    exact .node rfl (.cons (.refl _) .nil) (.kept _ (.remark rfl rfl .nil))
      fun ordered => absurd ordered (by decide)
  · refine .of_children rfl (.cons (.refl _) (.cons ?_ .nil))
    refine .node rfl (.cons ?_ (.cons ?_ .nil)) (.remark rfl rfl (.refl _))
      fun ordered => absurd ordered (by decide)
    · refine .of_children rfl (.cons (.refl _) (.cons ?_ .nil))
      exact .node rfl (.cons (.refl _) .nil) (.kept _ (.remark rfl rfl .nil))
        fun ordered => absurd ordered (by decide)
    · exact .node rfl (Commented.refl_all _) (.kept _ (.remark rfl rfl (.refl _)))
        fun ordered => absurd ordered (by decide)

theorem withRemarks_extracted :
    Commented withoutRemarks.root withRemarks.root ∧
      withRemarks.sites.length = withoutRemarks.sites.length + 4 ∧
      (Recorded.run (extract withoutRemarks "a/b.ts")).1.toOption.map
          (fun extraction => (extraction.qualifiedNames, extraction.diagnostics)) =
        some (["b", "b.m", "b.N", "b.N.C", "b.N.C.x", "b.N.D"],
          [⟨.warning, "Unable to resolve type: 'f()'", some ⟨1, 108⟩⟩]) ∧
      (Recorded.run (extract withoutRemarks "a/b.ts")).1.map
          (fun extraction => (extraction.module, extraction.diagnostics)) =
        (Recorded.run (extract withRemarks "a/b.ts")).1.map
          (fun extraction => (extraction.module, extraction.diagnostics)) := by
  have content : withoutRemarks.content = withRemarks.content := rfl
  refine ⟨withoutRemarks_commented, rfl, ?_, ?_⟩
  · simp only [extract_eq, collect_eq_outline]
    decide +kernel
  · exact extract_of_commented content withoutRemarks_commented (by decide) (by decide) _

end SourceOutline

