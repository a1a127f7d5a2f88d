import SourceOutline.Proofs.Outline.Likeness

/-!
# Bodies of leaves

Properties, accessors, methods and functions are leaves: nothing in their bodies and initialisers
becomes an element. It has no influence in any other way either. Two trees that differ below the
children of leaves alone, apart from the annotations of types, are bound to the same names, since
no leaf is a block, and they are walked in the same way, since no leaf is entered.
-/

namespace SourceOutline

/-- Sites of two trees with other things below the children of some leaves. Of a leaf itself, the
heads of its children are kept, and what its annotations hold, which may be changed below leaves
of their own. -/
inductive Rebodied (document : Document) : Site → Site → Prop
  | kept {site site' : Site} (alike : site.node.Matches site'.node)
      (below : List.Forall₂ (Rebodied document) site.children site'.children) :
      Rebodied document site site'
  | leaf {site site' : Site} (alike : site.node.Matches site'.node)
      (leaf : site.isLeaf document = true)
      (heads : List.Forall₂ Node.Matches site.node.children site'.node.children)
      (typed : ∀ field ∈ ["type", "return_type"],
        Option.Rel (Rebodied document) (site.child? field) (site'.child? field)) :
      Rebodied document site site'

/-- Neither the root of a file nor the body of a namespace is a leaf. -/
structure Document.HasOpenBlocks (document : Document) : Prop where
  root : document.rootSite.isLeaf document = false
  body : ∀ site ∈ document.sites, isNamespaceType site.type = true →
    ∀ body, site.child? "body" = some body → body.isLeaf document = false

variable {document document' : Document} {scopes scopes' : Scopes} {site site' : Site}

namespace Site

theorem exists_kind_of_isLeaf (leaf : site.isLeaf document = true) :
    ∃ kind : DeclarationKind, kind.Fits site ∧ kind.isLeaf = true := by
  cases classified : site.classify document with
  | error failure => simp [isLeaf, kind?, classified, Except.toOption] at leaf
  | ok kind? =>
      rw [isLeaf, kind?_eq_of_classify classified] at leaf
      cases kind? with
      | none => cases leaf
      | some kind => exact ⟨kind, fits_of_classify classified, leaf⟩

/-- A leaf is a field, a method or a function. -/
theorem type_of_isLeaf (leaf : site.isLeaf document = true) :
    site.type = "public_field_definition" ∨ isMethodType site.type = true ∨
      isFunctionType site.type = true := by
  obtain ⟨kind, fits, isLeaf⟩ := exists_kind_of_isLeaf leaf
  cases kind with
  | property => exact .inl fits
  | getter | setter | method => exact .inr (.inl fits)
  | function => exact .inr (.inr fits)
  | nested | importEquals | importFrom | classLike => cases isLeaf

/-- Nothing else looks into a leaf or binds what it holds. -/
theorem closed_of_isLeaf (leaf : site.isLeaf document = true) :
    isDeepType site.type = false ∧ isTransparentType site.type = false ∧
      isNamespaceType site.type = false := by
  have known := type_of_isLeaf leaf
  simp only [isMethodType, isFunctionType, Bool.or_eq_true, beq_iff_eq] at known
  rcases known with type | ((type | type) | type) | ((type | type) | type)
  all_goals rw [type]; decide

end Site

namespace Rebodied

mutual

/-- Nothing has to be changed. -/
theorem refl (node : Node) (ancestors ancestors' : List Node) :
    Rebodied document ⟨node, ancestors⟩ ⟨node, ancestors'⟩ := by
  obtain ⟨head, children⟩ := node
  exact .kept rfl (refl_all children _ _)

theorem refl_all (nodes : List Node) (site site' : Site) :
    List.Forall₂ (Rebodied document) (nodes.map site.below) (nodes.map site'.below) := by
  cases nodes with
  | nil => exact .nil
  | cons node nodes => exact .cons (refl node _ _) (refl_all nodes site site')

end

theorem alike (rebodied : Rebodied document site site') : site.node.Matches site'.node := by
  cases rebodied <;> assumption

/-- Only leaves are changed. -/
theorem nodes (rebodied : Rebodied document site site') (inner : site.isLeaf document = false) :
    List.Forall₂ (fun child child' => Rebodied document (site.below child) (site'.below child'))
      site.node.children site'.node.children := by
  cases rebodied with
  | kept _ below =>
      rwa [Site.children, Site.children, List.forall₂_map_left_iff,
        List.forall₂_map_right_iff] at below
  | leaf _ leaf _ _ => cases inner.symm.trans leaf

/-- Leaves are not looked into, so the nodes read the same. -/
theorem like (node : Node) {node' : Node} {ancestors ancestors' : List Node}
    (rebodied : Rebodied document ⟨node, ancestors⟩ ⟨node', ancestors'⟩) : node.Like node' := by
  cases leaf : (⟨node, ancestors⟩ : Site).isLeaf document with
  | true =>
      have closed := (Site.closed_of_isLeaf leaf).1
      simp only [isDeepType, Bool.or_eq_false_iff] at closed
      exact .closed rebodied.alike closed.1.1.1.1
  | false =>
      refine .of_children rebodied.alike ((List.forall₂_mem (rebodied.nodes leaf)).imp ?_)
      rintro child child' ⟨member, deeper⟩
      exact like child deeper
  termination_by node.size
  decreasing_by exact Node.size_lt_of_mem member

theorem resembles (rebodied : Rebodied document site site')
    (content : document.content = document'.content)
    (above : SameAbove site.ancestors site'.ancestors) :
    Site.Resembles document document' site site' := by
  cases rebodied with
  | kept alike below =>
      rw [Site.children, Site.children, List.forall₂_map_left_iff,
        List.forall₂_map_right_iff] at below
      exact .of_like content alike (below.imp fun child child' deeper => deeper.like) above
  | leaf alike leaf heads typed =>
      have counting := Node.forall₂_substance (fun _ _ alike => alike) alike.type_eq heads
      refine ⟨content, alike, counting, ?_, ?_, above⟩
      · intro deep
        cases (Site.closed_of_isLeaf leaf).1.symm.trans deep
      · intro field known
        obtain ⟨missing, missing'⟩ | ⟨_, _, found, found', deeper⟩ :=
          Option.rel_cases (typed field known)
        · rw [Option.map_eq_none_iff.mp missing, Option.map_eq_none_iff.mp missing']
          exact .none
        · obtain ⟨child, chosen, rfl⟩ := Option.map_eq_some_iff.mp found
          obtain ⟨child', chosen', rfl⟩ := Option.map_eq_some_iff.mp found'
          rw [chosen, chosen']
          exact .some deeper.like

end Rebodied

mutual

/-- A statement lists the same names, whatever its leaves hold. -/
theorem Rebodied.agree_listStatement (content : document.content = document'.content)
    (blocks : document.HasOpenBlocks) (node : Node) {node' : Node}
    {ancestors ancestors' : List Node} (member : ⟨node, ancestors⟩ ∈ document.sites)
    (above : SameAbove ancestors ancestors')
    (rebodied : Rebodied document ⟨node, ancestors⟩ ⟨node', ancestors'⟩) :
    Agree SameSketch (document.listStatement ancestors node)
      (document'.listStatement ancestors' node') := by
  refine (rebodied.resembles content above).agree_listStatement ?_ ?_
  · intro transparent
    refine Rebodied.agree_listBlock content blocks node member above rebodied ?_
    cases leaf : (⟨node, ancestors⟩ : Site).isLeaf document with
    | false => rfl
    | true => cases (Site.closed_of_isLeaf leaf).2.1.symm.trans transparent
  · intro isNamespace body body' found found'
    have among := List.mem_of_find?_eq_some found
    have smaller := Node.size_lt_of_mem among
    have inner : (⟨node, ancestors⟩ : Site).isLeaf document = false := by
      cases leaf : (⟨node, ancestors⟩ : Site).isLeaf document with
      | false => rfl
      | true => cases (Site.closed_of_isLeaf leaf).2.2.symm.trans isNamespace
    have bodies := Node.rel_child? (fun _ _ deeper => deeper.alike) .children .children
      (rebodied.nodes inner) "body"
    rw [found, found'] at bodies
    cases bodies with
    | some deeper =>
        refine Rebodied.agree_listBlock content blocks body
          (Document.mem_sites_below member among) (.cons rebodied.alike.type_eq above) deeper ?_
        exact blocks.body _ member isNamespace _ (by rw [Site.child?, found]; rfl)
  termination_by (node.size, 1)
  decreasing_by
  · exact Prod.Lex.right _ Nat.zero_lt_one
  · exact Prod.Lex.left _ _ smaller

/-- So does a block, which is no leaf itself. -/
theorem Rebodied.agree_listBlock (content : document.content = document'.content)
    (blocks : document.HasOpenBlocks) (node : Node) {node' : Node}
    {ancestors ancestors' : List Node} (member : ⟨node, ancestors⟩ ∈ document.sites)
    (above : SameAbove ancestors ancestors')
    (rebodied : Rebodied document ⟨node, ancestors⟩ ⟨node', ancestors'⟩)
    (inner : (⟨node, ancestors⟩ : Site).isLeaf document = false) :
    Agree SameSketch (document.listBlock (node :: ancestors) node.children)
      (document'.listBlock (node' :: ancestors') node'.children) := by
  refine agree_listBlock_of_forall₂ ?_
  refine (List.forall₂_mem (rebodied.nodes inner)).imp fun child child' ⟨among, deeper⟩ => ?_
  exact ⟨deeper.alike.named_eq, Rebodied.agree_listStatement content blocks child
    (Document.mem_sites_below member among) (.cons rebodied.alike.type_eq above) deeper⟩
  termination_by (node.size, 0)
  decreasing_by exact Prod.Lex.left _ _ (Node.size_lt_of_mem among)

end

/-- The trees are bound as a pair, or fail for the same reason. -/
theorem Rebodied.bind_agree (content : document.content = document'.content)
    (blocks : document.HasOpenBlocks)
    (root : Rebodied document document.rootSite document'.rootSite)
    (distinct : document.HasDistinctIds) (distinct' : document'.HasDistinctIds)
    (moduleName : Option String) :
    Agree (Paired document document') (Scopes.bind document moduleName)
      (Scopes.bind document' moduleName) := by
  refine Paired.bind_agree content distinct distinct' ?_ ?_ moduleName
  · exact Document.sameExports_of_matches (root.resembles content .file).heads
  · exact Rebodied.agree_listBlock content blocks document.root document.rootSite_mem_sites .file
      root blocks.root

/-- The outlines at tied places have the same elements, and the same warnings are recorded on the
way. -/
theorem Rebodied.outline_parallel (paired : Paired document document' scopes scopes') (node : Node)
    {node' : Node} {ancestors ancestors' : List Node}
    (tied : Tied document document' scopes scopes' ⟨node, ancestors⟩ ⟨node', ancestors'⟩)
    (rebodied : Rebodied document ⟨node, ancestors⟩ ⟨node', ancestors'⟩) :
    Recorded.Parallel SameElements
      (outline document (scopes.resolver document) ancestors node)
      (outline document' (scopes'.resolver document') ancestors' node') := by
  refine tied.outline_parallel paired (rebodied.resembles paired.content tied.above) fun inner => ?_
  have nodes := tied.nodes (fun _ _ deeper => deeper.alike) paired .children .children
    (rebodied.nodes inner)
  refine outlineAll_coupled congruence_sameElements ((List.forall₂_mem nodes).imp ?_)
  intro child child' ⟨member, childTied, deeper⟩
  exact deeper.outline_parallel paired child childTied
  termination_by node.size
  decreasing_by exact Node.size_lt_of_mem member

/-- Bodies and initialisers have no influence. If two trees over the same content differ below the
children of leaves alone, apart from the annotations of types, and if no block of the file is a
leaf itself, then extraction gives the same root module and the same diagnostics, or the same
failure. -/
theorem extract_of_rebodied (content : document.content = document'.content)
    (blocks : document.HasOpenBlocks)
    (root : Rebodied document document.rootSite document'.rootSite)
    (distinct : document.HasDistinctIds) (distinct' : document'.HasDistinctIds) (path : String) :
    (Recorded.run (extract document path)).1.map
        (fun extraction => (extraction.module, extraction.diagnostics)) =
      (Recorded.run (extract document' path)).1.map
        (fun extraction => (extraction.module, extraction.diagnostics)) := by
  have parallel := extract_parallel_of_outline
    (Rebodied.bind_agree content blocks root distinct distinct' (some (modulePath path).text))
    fun scopes scopes' paired => root.outline_parallel paired document.root (.root root.alike)
  obtain ⟨agree, -⟩ := parallel {} {} rfl
  exact agree.map_eq fun _ _ ⟨module, diagnostics⟩ => Prod.ext module diagnostics

/-- A namespace with a class that has a field and a method, and a class with a computed base. What
stands below the initial value and in the body of the method is left open. -/
def openBodies (initial statements : List Node) : Document where
  content := ("namespace N \x7b class C \x7b x: number = 1; m() \x7b return x; \x7d \x7d " ++
    "class D extends f() \x7b\x7d \x7d").toUTF8
  root := ⟨⟨0, "program", 0, true, none, 0, 83⟩, [
    ⟨⟨1, "internal_module", 0, true, none, 0, 83⟩, [
      ⟨⟨2, "namespace", 0, false, none, 0, 9⟩, []⟩,
      ⟨⟨3, "identifier", 0, true, some "name", 10, 11⟩, []⟩,
      ⟨⟨4, "statement_block", 0, true, some "body", 12, 83⟩, [
        ⟨⟨5, "class_declaration", 0, true, none, 14, 58⟩, [
          ⟨⟨6, "type_identifier", 0, true, some "name", 20, 21⟩, []⟩,
          ⟨⟨7, "class_body", 0, true, some "body", 22, 58⟩, [
            ⟨⟨8, "public_field_definition", 0, true, none, 24, 37⟩, [
              ⟨⟨9, "property_identifier", 0, true, some "name", 24, 25⟩, []⟩,
              ⟨⟨10, "type_annotation", 0, true, some "type", 25, 33⟩, [
                ⟨⟨11, "predefined_type", 0, true, none, 27, 33⟩, []⟩]⟩,
              ⟨⟨12, "number", 0, true, some "value", 36, 37⟩, initial⟩]⟩,
            ⟨⟨13, "method_definition", 0, true, none, 39, 56⟩, [
              ⟨⟨14, "property_identifier", 0, true, some "name", 39, 40⟩, []⟩,
              ⟨⟨15, "formal_parameters", 0, true, some "parameters", 40, 42⟩, []⟩,
              ⟨⟨16, "statement_block", 0, true, some "body", 43, 56⟩, statements⟩]⟩]⟩]⟩,
        ⟨⟨17, "class_declaration", 0, true, none, 59, 81⟩, [
          ⟨⟨18, "type_identifier", 0, true, some "name", 65, 66⟩, []⟩,
          ⟨⟨19, "class_heritage", 0, true, none, 67, 78⟩, [
            ⟨⟨20, "extends_clause", 0, true, none, 67, 78⟩, [
              ⟨⟨21, "call_expression", 0, true, some "value", 75, 78⟩, []⟩]⟩]⟩]⟩]⟩]⟩]⟩

/-- The body returns the field. -/
def returningBody : Document :=
  openBodies [] [⟨⟨22, "return_statement", 0, true, none, 45, 54⟩, [
    ⟨⟨23, "identifier", 0, true, none, 52, 53⟩, []⟩]⟩]

/-- The initial value holds a name, and the body a namespace with a class of its own. -/
def declaringBody : Document :=
  openBodies [⟨⟨22, "identifier", 0, true, none, 20, 21⟩, []⟩] [
    ⟨⟨23, "internal_module", 0, true, none, 45, 54⟩, [
      ⟨⟨24, "identifier", 0, true, some "name", 10, 11⟩, []⟩,
      ⟨⟨25, "statement_block", 0, true, some "body", 43, 56⟩, [
        ⟨⟨26, "class_declaration", 0, true, none, 43, 56⟩, [
          ⟨⟨27, "type_identifier", 0, true, some "name", 20, 21⟩, []⟩]⟩]⟩]⟩]

theorem returningBody_hasOpenBlocks : returningBody.HasOpenBlocks := by
  have bodies : ∀ site ∈ returningBody.sites, isNamespaceType site.type = true →
      (site.child? "body").all (fun body => !body.isLeaf returningBody) = true := by
    decide +kernel
  refine ⟨by decide +kernel, fun site member isNamespace body found => ?_⟩
  have inner := bodies site member isNamespace
  rw [found] at inner
  simpa using inner

theorem returningBody_rebodied :
    Rebodied returningBody returningBody.rootSite declaringBody.rootSite := by
  refine .kept rfl (.cons (.kept rfl ?_) .nil)
  refine .cons (.refl _ _ _) (.cons (.refl _ _ _) (.cons (.kept rfl ?_) .nil))
  refine .cons (.kept rfl (.cons (.refl _ _ _) (.cons (.kept rfl ?_) .nil)))
    (.cons (.refl _ _ _) .nil)
  refine .cons (.leaf rfl (by decide +kernel) ?_ ?_)
    (.cons (.leaf rfl (by decide +kernel) ?_ ?_) .nil)
  · exact .cons rfl (.cons rfl (.cons rfl .nil))
  · exact List.forall_mem_cons.mpr ⟨.some (.refl _ _ _), List.forall_mem_singleton.mpr .none⟩
  · exact .cons rfl (.cons rfl (.cons rfl .nil))
  · exact List.forall_mem_cons.mpr ⟨.none, List.forall_mem_singleton.mpr .none⟩

set_option maxRecDepth 10000 in
theorem returningBody_extracted : ∃ extraction extraction',
    (Recorded.run (extract returningBody "a/b.ts")).1 = .ok extraction ∧
      (Recorded.run (extract declaringBody "a/b.ts")).1 = .ok extraction' ∧
      extraction.qualifiedNames = ["b", "b.N", "b.N.C", "b.N.C.x", "b.N.C.m", "b.N.D"] ∧
      extraction.diagnostics = [⟨.warning, "Unable to resolve type: 'f()'", some ⟨1, 75⟩⟩] ∧
      extraction.module = extraction'.module ∧
      extraction.diagnostics = extraction'.diagnostics := by
  have computed : (Recorded.run (extract returningBody "a/b.ts")).1.toOption.map
      (fun extraction => (extraction.qualifiedNames, extraction.diagnostics)) =
        some (["b", "b.N", "b.N.C", "b.N.C.x", "b.N.C.m", "b.N.D"],
          [⟨.warning, "Unable to resolve type: 'f()'", some ⟨1, 75⟩⟩]) := by
    simp only [extract_eq, collect_eq_outline]
    decide +kernel
  have content : returningBody.content = declaringBody.content := rfl
  have equal := extract_of_rebodied content returningBody_hasOpenBlocks returningBody_rebodied
    (by decide) (by decide) "a/b.ts"
  cases first : (Recorded.run (extract returningBody "a/b.ts")).1 with
  | error failure =>
      rw [first] at computed
      cases computed
  | ok extraction =>
      rw [first] at computed equal
      have values := Option.some.inj computed
      cases second : (Recorded.run (extract declaringBody "a/b.ts")).1 with
      | error failure =>
          rw [second] at equal
          cases equal
      | ok extraction' =>
          rw [second] at equal
          have pairs := Except.ok.inj equal
          exact ⟨extraction, extraction', rfl, rfl, congrArg Prod.fst values,
            congrArg Prod.snd values, congrArg Prod.fst pairs, congrArg Prod.snd pairs⟩

end SourceOutline
