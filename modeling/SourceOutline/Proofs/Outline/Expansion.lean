import SourceOutline.Proofs.Outline.Likeness
import SourceOutline.Proofs.Scope.Correspondence

/-!
# Dotted namespaces are nested ones

A dotted namespace contributes a chain of modules, and nested namespaces contribute one module
each. The chain is the same: the inner modules have the visibility of a namespace that says
nothing about it, and everything below hangs under the last of them. All other places contribute
the same, so a file and its expansion have the same outline and the same diagnostics, or fail in
the same way.
-/

namespace SourceOutline

/-- One after the other, the chains of modules nest. -/
theorem Element.nest_append (outer inner : List Traits) (below : List Element) :
    nest (outer ++ inner) below = nest outer (nest inner below) := by
  induction outer with
  | nil => rfl
  | cons traits outer ih => rw [List.cons_append, nest, nest, ih]

/-- Modules inside each other. Only the outermost has the visibility that is written. -/
def moduleTraits (visibility : Visibility) : List String → List Traits
  | [] => []
  | first :: rest =>
    { name := first, visibility := visibility, detail := .module none } ::
      rest.map fun name => { name := name, visibility := .priv, detail := .module none }

theorem moduleTraits_append (visibility : Visibility) {outer : List String} (nonempty : outer ≠ [])
    (names : List String) :
    moduleTraits visibility (outer ++ names) =
      moduleTraits visibility outer ++ moduleTraits .priv names := by
  obtain ⟨first, rest, rfl⟩ := List.exists_cons_of_ne_nil nonempty
  rw [List.cons_append, moduleTraits, moduleTraits, List.map_append]
  cases names <;> rfl

/-- The visibility of a declaration that carries no modifiers of its own. -/
def visibilityBelow (ancestors : List Node) : Visibility :=
  Visibility.resolve (wrapperModifiers ancestors).reverse (Site.context ⟨default, ancestors⟩)

theorem SameAbove.visibilityBelow_eq {above above' : List Node} (same : SameAbove above above') :
    visibilityBelow above = visibilityBelow above' := by
  rw [visibilityBelow, visibilityBelow, same.lineage.wrapperModifiers_eq,
    Site.context_eq_owner, Site.context_eq_owner, same.lineage.ownerType_eq]

/-- Types that start no declaration: names, punctuation, blocks and expression statements. -/
def isQuietType (type : String) : Bool :=
  ["identifier", "nested_identifier", "member_expression", "property_identifier", ".",
    "namespace", "\x7b", "\x7d", ";", "statement_block", "expression_statement"].contains type

variable {document document' : Document} {resolver : Resolver}

theorem Site.classify_of_quiet {site : Site} (quiet : isQuietType site.type = true) :
    site.classify document = .ok none := by
  obtain ⟨⟨⟨id, type, kindId, named, field, start, stop⟩, children⟩, ancestors⟩ := site
  simp only [isQuietType, List.contains_iff_mem, List.mem_cons, List.not_mem_nil, or_false] at quiet
  rcases quiet with rfl | rfl | rfl | rfl | rfl | rfl | rfl | rfl | rfl | rfl | rfl <;> rfl

theorem childModifier?_of_quiet (child : Node) (quiet : isQuietType child.type = true) :
    childModifier? document child = .ok none := by
  obtain ⟨⟨id, type, kindId, named, field, start, stop⟩, children⟩ := child
  simp only [isQuietType, List.contains_iff_mem, List.mem_cons, List.not_mem_nil, or_false] at quiet
  rcases quiet with rfl | rfl | rfl | rfl | rfl | rfl | rfl | rfl | rfl | rfl | rfl <;> rfl

theorem childModifiers_of_quiet {nodes : List Node}
    (quiet : ∀ node ∈ nodes, isQuietType node.type = true) :
    childModifiers document nodes = .ok [] := by
  induction nodes with
  | nil => rfl
  | cons node nodes ih =>
      rw [childModifiers, childModifier?_of_quiet node (quiet node List.mem_cons_self),
        ih fun other member => quiet other (List.mem_cons_of_mem _ member)]
      rfl

theorem outline_of_quiet {node : Node} {ancestors : List Node}
    (quiet : isQuietType node.type = true) :
    outline document resolver ancestors node =
      outlineAll document resolver (node :: ancestors) node.children := by
  obtain ⟨head, children⟩ := node
  rw [outline, Site.classify_of_quiet quiet]
  rfl

mutual

/-- There is nothing to outline in a name. -/
theorem outline_of_dotted {ancestors : List Node} (node : Node) (dotted : node.isDotted = true) :
    outline document resolver ancestors node = pure [] := by
  obtain ⟨head, children⟩ := node
  rw [Node.isDotted, Bool.and_eq_true] at dotted
  have quiet : isQuietType head.type = true := by
    have known := dotted.1
    simp only [Bool.or_eq_true, beq_iff_eq] at known
    rcases known with (((type | type) | type) | type) | type <;> rw [type] <;> decide
  rw [outline_of_quiet quiet]
  exact outlineAll_of_dotted children dotted.2

theorem outlineAll_of_dotted {ancestors : List Node} (nodes : List Node)
    (dotted : Node.isDottedAll nodes = true) :
    outlineAll document resolver ancestors nodes = pure [] := by
  cases nodes with
  | nil => rw [outlineAll]
  | cons node nodes =>
      rw [Node.isDottedAll, Bool.and_eq_true] at dotted
      rw [outlineAll, outline_of_dotted node dotted.1, outlineAll_of_dotted nodes dotted.2]
      rfl

end

theorem outlineAll_tokens {ancestors tokens nodes : List Node}
    (silent : ∀ token ∈ tokens, outline document resolver ancestors token = pure []) :
    outlineAll document resolver ancestors (tokens ++ nodes) =
      outlineAll document resolver ancestors nodes := by
  induction tokens with
  | nil => rfl
  | cons token tokens ih =>
      rw [List.cons_append, outlineAll, silent token List.mem_cons_self, pure_bind,
        ih fun other member => silent other (List.mem_cons_of_mem _ member)]
      exact bind_pure _

theorem outline_of_token {types : List String} {token : Node} {ancestors : List Node}
    (isToken : token.IsToken types) (quiet : ∀ type ∈ types, isQuietType type = true) :
    outline document resolver ancestors token = pure [] := by
  rw [outline_of_quiet (quiet _ isToken.type), isToken.childless, outlineAll]

theorem outlineAll_of_encloses {node inner : Node} (encloses : node.Encloses inner)
    (ancestors : List Node) :
    outlineAll document resolver ancestors node.children =
      outline document resolver ancestors inner := by
  obtain ⟨before, after, children, tokens⟩ := encloses
  have silent (token : Node) (member : token ∈ before ++ after) :
      outline document resolver ancestors token = pure [] :=
    outline_of_token (tokens token member) (by decide)
  have nothing : outlineAll document resolver ancestors after = pure [] := by
    rw [← List.append_nil after, outlineAll_tokens fun token member =>
      silent token (List.mem_append_right _ member), outlineAll]
  rw [children, outlineAll_tokens fun token member => silent token (List.mem_append_left _ member),
    outlineAll, nothing]
  simp only [pure_bind, List.append_nil, bind_pure]

/-- The outline of a block is that of its only statement. -/
theorem outlineAll_of_carries {block inner : Node} {between : List Node}
    (carries : block.Carries inner between) (ancestors : List Node) :
    outlineAll document resolver (block :: ancestors) block.children =
      outline document resolver (between ++ block :: ancestors) inner := by
  induction carries generalizing ancestors with
  | directly encloses _ => exact outlineAll_of_encloses encloses _
  | @wrapped block statement inner between encloses _ type _ ih =>
      rw [outlineAll_of_encloses encloses, outline_of_quiet (by rw [type]; decide), ih,
        List.append_assoc]
      rfl

/-- Blocks and expression statements lend no modifier and own nothing. -/
theorem above_of_carries {block inner : Node} {between : List Node}
    (carries : block.Carries inner between)
    (wrapper : block.type = "statement_block" ∨ block.type = "expression_statement")
    (ancestors : List Node) :
    wrapperModifiers (between ++ block :: ancestors) = [] ∧
      (between ++ block :: ancestors).find? (fun node => !isWrapperType node.type) =
        ancestors.find? fun node => !isWrapperType node.type := by
  have passed (block : Node) (ancestors : List Node)
      (wrapper : block.type = "statement_block" ∨ block.type = "expression_statement") :
      wrapperModifiers (block :: ancestors) = [] ∧
        (block :: ancestors).find? (fun node => !isWrapperType node.type) =
          ancestors.find? fun node => !isWrapperType node.type := by
    rw [wrapperModifiers, List.find?_cons]
    rcases wrapper with type | type <;> rw [type] <;> exact ⟨rfl, rfl⟩
  induction carries generalizing ancestors with
  | directly _ _ => exact passed _ ancestors wrapper
  | @wrapped block statement inner between _ _ type _ ih =>
      obtain ⟨nothing, owner⟩ := ih (.inr type) (block :: ancestors)
      rw [List.append_assoc]
      exact ⟨nothing, owner.trans (passed block ancestors wrapper).2⟩

namespace Document

variable {names : List String} {node body : Node} {spine : List Node}

theorem Calls.outline_eq {label : Node} (calls : document.Calls names label)
    (ancestors : List Node) : outline document resolver ancestors label = pure [] := by
  cases calls with
  | identifier type childless _ _ =>
      rw [outline_of_quiet (by rw [type]; decide), childless, outlineAll]
  | dotted _ made _ _ _ _ => exact outline_of_dotted label made

theorem Opens.moduleNames_eq (opens : document.Opens names node body) (ancestors : List Node) :
    Site.moduleNames document ⟨node, ancestors⟩ = .ok (names.map Text.strip) := by
  obtain ⟨label, found, calls⟩ := opens.child?_name
  have required : Site.requiredField document ⟨node, ancestors⟩ "name" = .ok label :=
    Site.requiredField_eq_ok_iff.mpr found
  rw [Site.moduleNames]
  refine bind_eq_ok_iff.mpr ⟨label, required, ?_⟩
  cases calls with
  | identifier type _ read _ =>
      refine bind_eq_ok_iff.mpr ⟨_, read, ?_⟩
      rw [type]
      rfl
  | dotted type _ read spells nonempty undotted =>
      refine bind_eq_ok_iff.mpr ⟨_, read, ?_⟩
      rw [type]
      exact congrArg Except.ok (spells.segments_eq nonempty undotted)

/-- A namespace carries no modifiers of its own. -/
theorem Opens.visibility_eq (opens : document.Opens names node body) (ancestors : List Node) :
    Site.visibility document ⟨node, ancestors⟩ = .ok (visibilityBelow ancestors) := by
  obtain ⟨keyword, label, children, token, -, calls⟩ := opens.parts
  have unmarked : childModifiers document node.children = .ok [] := by
    apply childModifiers_of_quiet
    rw [children]
    intro part member
    simp only [List.mem_cons, List.not_mem_nil, or_false] at member
    rcases member with rfl | rfl | rfl
    · rw [List.mem_singleton.mp token.type]
      decide
    · rcases calls.type_eq with type | type <;> rw [type] <;> decide
    · rw [opens.bodyType]
      decide
  have modifiers : Site.modifiers document ⟨node, ancestors⟩ =
      .ok (wrapperModifiers ancestors).reverse := by
    refine bind_eq_ok_iff.mpr ⟨[], unmarked, ?_⟩
    exact congrArg Except.ok (List.append_nil _)
  exact bind_eq_ok_iff.mpr ⟨_, modifiers, rfl⟩

theorem Opens.moduleChain_eq (opens : document.Opens names node body) (ancestors : List Node) :
    Site.moduleChain document ⟨node, ancestors⟩ =
      .ok (moduleTraits (visibilityBelow ancestors) (names.map Text.strip)) := by
  rw [Site.moduleChain, opens.moduleNames_eq, opens.visibility_eq]
  cases names.map Text.strip <;> rfl

/-- A namespace puts the elements of its body into its innermost module. -/
theorem Opens.outline_eq (opens : document.Opens names node body) (ancestors : List Node) :
    Branch.elementsAll <$> outline document resolver ancestors node =
      (fun below => Element.nest (moduleTraits (visibilityBelow ancestors)
        (names.map Text.strip)) (Branch.elementsAll below)) <$>
          outline document resolver (node :: ancestors) body := by
  obtain ⟨keyword, label, children, token, -, calls⟩ := opens.parts
  have classified : Site.classify document ⟨node, ancestors⟩ = .ok (some .nested) := by
    simp only [Site.classify, Site.type, opens.isNamespace, if_true]
  have ofKeyword : outline document resolver (node :: ancestors) keyword = pure [] :=
    outline_of_token token (by decide)
  have below : outlineAll document resolver (node :: ancestors) node.children =
      outline document resolver (node :: ancestors) body := by
    rw [children, outlineAll, outlineAll, outlineAll, outlineAll, ofKeyword, calls.outline_eq]
    simp only [pure_bind, List.append_nil, List.nil_append, bind_pure]
  have whole : outline document resolver ancestors node =
      (fun below => [(⟨⟨node, ancestors⟩, moduleTraits (visibilityBelow ancestors)
        (names.map Text.strip), below⟩ : Branch)]) <$>
          outline document resolver (node :: ancestors) body := by
    refine (outline_site document resolver ⟨node, ancestors⟩).trans ?_
    rw [classified]
    change (Recorded.ofExcept (Site.moduleChain document ⟨node, ancestors⟩) >>= fun chain =>
      outlineAll document resolver (node :: ancestors) node.children >>= fun below =>
        pure [(⟨⟨node, ancestors⟩, chain, below⟩ : Branch)]) = _
    rw [opens.moduleChain_eq, below]
    change (pure _ >>= fun chain => _) = _
    rw [pure_bind, bind_pure_comp]
  rw [whole, Functor.map_map]
  simp only [Branch.elementsAll, Branch.elements, List.append_nil]

/-- So do nested namespaces, with all of their modules. -/
theorem Nests.outline_eq (nests : document.Nests body names node spine) (ancestors : List Node) :
    Branch.elementsAll <$> outline document resolver ancestors node =
      (fun below => Element.nest (moduleTraits (visibilityBelow ancestors)
        (names.map Text.strip)) (Branch.elementsAll below)) <$>
          outline document resolver (spine ++ ancestors) body := by
  induction nests generalizing ancestors with
  | innermost opens => exact opens.outline_eq ancestors
  | @around outer names node block inner between spine opens carries _ ih =>
      have quiet : isQuietType block.type = true := by
        rw [opens.bodyType]
        decide
      have named : outer.map Text.strip ≠ [] := by
        rw [Ne, List.map_eq_nil_iff]
        exact opens.names_ne_nil
      have plain : visibilityBelow (between ++ block :: node :: ancestors) = .priv := by
        obtain ⟨nothing, owner⟩ :=
          above_of_carries carries (.inl opens.bodyType) (node :: ancestors)
        have first : (node :: ancestors).find? (fun node => !isWrapperType node.type) = some node :=
          List.find?_cons_of_pos (by rw [opens.type]; decide)
        rw [visibilityBelow, nothing, Site.context_eq_owner]
        simp only [owner, first, Option.map_some, opens.type]
        rfl
      have deeper := ih (between ++ block :: node :: ancestors)
      rw [plain] at deeper
      rw [opens.outline_eq, outline_of_quiet quiet, outlineAll_of_carries carries,
        spine_append, List.map_append, moduleTraits_append _ named]
      simp only [Element.nest_append]
      have mapped := congrArg (Functor.map (Element.nest
        (moduleTraits (visibilityBelow ancestors) (outer.map Text.strip)))) deeper
      rwa [Functor.map_map, Functor.map_map] at mapped

end Document

/-- The outlines at linked places have the same elements, and the same warnings are recorded on
the way. -/
theorem Linked.outline_parallel {scopes scopes' : Scopes}
    (paired : Paired document document' scopes scopes') (node : Node) {node' : Node}
    {ancestors ancestors' : List Node}
    (linked : Linked document document' scopes scopes' ⟨node, ancestors⟩ ⟨node', ancestors'⟩) :
    Recorded.Parallel SameElements
      (outline document (scopes.resolver document) ancestors node)
      (outline document' (scopes'.resolver document') ancestors' node') := by
  obtain below | ⟨names, body, body', spine, dotted, nested, inside⟩ :=
    linked.expands.below_or_split
  · refine linked.tied.outline_parallel paired (linked.resembles paired below) fun _ => ?_
    refine outlineAll_coupled congruence_sameElements
      ((List.forall₂_mem (linked.nodes paired below)).imp ?_)
    intro child child' ⟨member, childLinked⟩
    exact childLinked.outline_parallel paired child
  · have bodies := (linked.inside paired dotted nested inside).outline_parallel paired body
    apply Recorded.parallel_of_map
    rw [dotted.outline_eq, nested.outline_eq, linked.above.visibilityBelow_eq]
    exact bodies.map fun _ _ same => congrArg (Element.nest _) same
  termination_by node.size
  decreasing_by
  · exact Node.size_lt_of_mem member
  · exact Node.size_lt_of_mem dotted.body_mem

/-- A file and its expansion are extracted side by side. -/
theorem extract_parallel (content : document.content = document'.content)
    (root : Expands document document' document.root document'.root)
    (distinct : document.HasDistinctIds) (distinct' : document'.HasDistinctIds) (path : String) :
    Recorded.Parallel (fun extraction extraction' => extraction.module = extraction'.module ∧
      extraction.diagnostics = extraction'.diagnostics) (extract document path)
      (extract document' path) := by
  refine extract_parallel_of_outline (bind_agree content root distinct distinct' _) ?_
  intro scopes scopes' paired
  exact (Linked.root root).outline_parallel paired document.root

/-- Dotted namespaces are the same as nested ones. If some dotted namespaces of a file are
written as nested ones, with all else left in place, then extraction gives the same root module
and the same diagnostics as before, or the same failure. -/
theorem extract_of_expands (content : document.content = document'.content)
    (root : Expands document document' document.root document'.root)
    (distinct : document.HasDistinctIds) (distinct' : document'.HasDistinctIds) (path : String) :
    (Recorded.run (extract document path)).1.map
        (fun extraction => (extraction.module, extraction.diagnostics)) =
      (Recorded.run (extract document' path)).1.map
        (fun extraction => (extraction.module, extraction.diagnostics)) := by
  obtain ⟨agree, -⟩ := extract_parallel content root distinct distinct' path {} {} rfl
  exact agree.map_eq fun _ _ ⟨module, diagnostics⟩ => Prod.ext module diagnostics

/-- The block of a namespace, with a class, an alias that goes through the namespace, and a class
with a computed base. -/
def aliasedBody : Node :=
  ⟨⟨9, "statement_block", 0, true, some "body", 23, 76⟩, [
    ⟨⟨10, "\x7b", 0, false, none, 23, 24⟩, []⟩,
    ⟨⟨11, "class_declaration", 0, true, none, 25, 35⟩, [
      ⟨⟨12, "class", 0, false, none, 25, 30⟩, []⟩,
      ⟨⟨13, "type_identifier", 0, true, some "name", 31, 32⟩, []⟩,
      ⟨⟨14, "class_body", 0, true, some "body", 33, 35⟩, [
        ⟨⟨15, "\x7b", 0, false, none, 33, 34⟩, []⟩,
        ⟨⟨16, "\x7d", 0, false, none, 34, 35⟩, []⟩]⟩]⟩,
    ⟨⟨17, "import_alias", 0, true, none, 36, 51⟩, [
      ⟨⟨18, "import", 0, false, none, 36, 42⟩, []⟩,
      ⟨⟨19, "identifier", 0, true, none, 43, 44⟩, []⟩,
      ⟨⟨20, "=", 0, false, none, 45, 46⟩, []⟩,
      ⟨⟨21, "nested_identifier", 0, true, none, 47, 50⟩, [
        ⟨⟨22, "identifier", 0, true, some "object", 47, 48⟩, []⟩,
        ⟨⟨23, ".", 0, false, none, 48, 49⟩, []⟩,
        ⟨⟨24, "property_identifier", 0, true, some "property", 49, 50⟩, []⟩]⟩,
      ⟨⟨25, ";", 0, false, none, 50, 51⟩, []⟩]⟩,
    ⟨⟨26, "class_declaration", 0, true, none, 52, 74⟩, [
      ⟨⟨27, "class", 0, false, none, 52, 57⟩, []⟩,
      ⟨⟨28, "type_identifier", 0, true, some "name", 58, 59⟩, []⟩,
      ⟨⟨29, "class_heritage", 0, true, none, 60, 71⟩, [
        ⟨⟨30, "extends_clause", 0, true, none, 60, 71⟩, [
          ⟨⟨31, "extends", 0, false, none, 60, 67⟩, []⟩,
          ⟨⟨32, "call_expression", 0, true, some "value", 68, 71⟩, [
            ⟨⟨33, "identifier", 0, true, some "function", 68, 69⟩, []⟩,
            ⟨⟨34, "arguments", 0, true, some "arguments", 69, 71⟩, [
              ⟨⟨35, "(", 0, false, none, 69, 70⟩, []⟩,
              ⟨⟨36, ")", 0, false, none, 70, 71⟩, []⟩]⟩]⟩]⟩]⟩,
      ⟨⟨37, "class_body", 0, true, some "body", 72, 74⟩, [
        ⟨⟨38, "\x7b", 0, false, none, 72, 73⟩, []⟩,
        ⟨⟨39, "\x7d", 0, false, none, 73, 74⟩, []⟩]⟩]⟩,
    ⟨⟨40, "\x7d", 0, false, none, 75, 76⟩, []⟩]⟩

def dottedOuter : Node :=
  ⟨⟨3, "internal_module", 0, true, some "declaration", 7, 76⟩, [
    ⟨⟨4, "namespace", 0, false, none, 7, 16⟩, []⟩,
    ⟨⟨5, "nested_identifier", 0, true, some "name", 17, 22⟩, [
      ⟨⟨6, "identifier", 0, true, some "object", 17, 18⟩, []⟩,
      ⟨⟨7, ".", 0, false, none, 19, 20⟩, []⟩,
      ⟨⟨8, "property_identifier", 0, true, some "property", 21, 22⟩, []⟩]⟩,
    aliasedBody]⟩

def nestedInner : Node :=
  ⟨⟨45, "internal_module", 0, true, none, 21, 76⟩, [
    ⟨⟨46, "namespace", 0, false, none, 7, 16⟩, []⟩,
    ⟨⟨47, "identifier", 0, true, some "name", 21, 22⟩, []⟩,
    aliasedBody]⟩

def nestedStatement : Node :=
  ⟨⟨44, "expression_statement", 0, true, none, 21, 76⟩, [nestedInner]⟩

def nestedBlock : Node :=
  ⟨⟨42, "statement_block", 0, true, some "body", 21, 76⟩, [
    ⟨⟨43, "\x7b", 0, false, none, 23, 24⟩, []⟩,
    nestedStatement,
    ⟨⟨48, "\x7d", 0, false, none, 75, 76⟩, []⟩]⟩

def nestedOuter : Node :=
  ⟨⟨3, "internal_module", 0, true, some "declaration", 7, 76⟩, [
    ⟨⟨4, "namespace", 0, false, none, 7, 16⟩, []⟩,
    ⟨⟨41, "identifier", 0, true, some "name", 17, 18⟩, []⟩,
    nestedBlock]⟩

/-- A file that exports one namespace. -/
def aliasedFile (outer : Node) : Document where
  content := ("export namespace A . B \x7b class D \x7b\x7d import E = B.D; " ++
    "class C extends f() \x7b\x7d \x7d").toUTF8
  root := ⟨⟨0, "program", 0, true, none, 0, 76⟩, [
    ⟨⟨1, "export_statement", 0, true, none, 0, 76⟩, [
      ⟨⟨2, "export", 0, false, none, 0, 6⟩, []⟩,
      outer]⟩]⟩

theorem aliasedFile_expands :
    Expands (aliasedFile dottedOuter) (aliasedFile nestedOuter) (aliasedFile dottedOuter).root
      (aliasedFile nestedOuter).root := by
  have blank : ∀ c ∈ [' '], Text.isBlank c = true := List.forall_mem_singleton.mpr (by decide)
  have before : Text.Padded "A" "A " := ⟨[], [' '], rfl, List.forall_mem_nil _, blank⟩
  have after : Text.Padded "B" " B" := ⟨[' '], [], rfl, blank, List.forall_mem_nil _⟩
  have spelled : Text.Spells ["A", "B"] "A . B" := ⟨_, .cons before (.cons after .nil), rfl⟩
  have dotted : (aliasedFile dottedOuter).Opens ["A", "B"] dottedOuter aliasedBody :=
    ⟨rfl, ⟨_, _, rfl, ⟨by decide, rfl, rfl, rfl⟩, rfl,
      .dotted rfl rfl (by decide +kernel) spelled (by decide) (by decide)⟩, rfl, rfl⟩
  have outer : (aliasedFile nestedOuter).Opens ["A"] nestedOuter nestedBlock :=
    ⟨rfl, ⟨_, _, rfl, ⟨by decide, rfl, rfl, rfl⟩, rfl,
      .identifier rfl rfl (by decide +kernel) (by decide)⟩, rfl, rfl⟩
  have inner : (aliasedFile nestedOuter).Opens ["B"] nestedInner aliasedBody :=
    ⟨rfl, ⟨_, _, rfl, ⟨by decide, rfl, rfl, rfl⟩, rfl,
      .identifier rfl rfl (by decide +kernel) (by decide)⟩, rfl, rfl⟩
  have encloses : nestedBlock.Encloses nestedStatement := by
    refine ⟨[_], [_], rfl, ?_⟩
    simp only [List.cons_append, List.nil_append, List.forall_mem_cons]
    exact ⟨⟨by decide, rfl, rfl, rfl⟩, ⟨by decide, rfl, rfl, rfl⟩, by simp⟩
  have carries : nestedBlock.Carries nestedInner [nestedStatement] :=
    .wrapped encloses rfl rfl (.directly ⟨[], [], rfl, by simp⟩ rfl)
  have split : Expands (aliasedFile dottedOuter) (aliasedFile nestedOuter) dottedOuter
      nestedOuter :=
    .split rfl dotted (.around outer carries (.innermost inner)) (.refl aliasedBody)
  exact .same rfl (.cons (.same rfl (.cons (.refl _) (.cons split .nil))) .nil)

set_option maxRecDepth 10000 in
theorem aliasedFile_extracted : ∃ extraction extraction',
    (Recorded.run (extract (aliasedFile dottedOuter) "a/b.ts")).1 = .ok extraction ∧
      (Recorded.run (extract (aliasedFile nestedOuter) "a/b.ts")).1 = .ok extraction' ∧
      extraction.qualifiedNames = ["b", "b.A", "b.A.B", "b.A.B.D", "b.A.B.E", "b.A.B.C"] ∧
      extraction.diagnostics = [⟨.warning, "Unable to resolve type: 'f()'", some ⟨1, 68⟩⟩] ∧
      extraction.module = extraction'.module ∧
      extraction.diagnostics = extraction'.diagnostics := by
  have computed : (Recorded.run (extract (aliasedFile dottedOuter) "a/b.ts")).1.toOption.map
      (fun extraction => (extraction.qualifiedNames, extraction.diagnostics)) =
        some (["b", "b.A", "b.A.B", "b.A.B.D", "b.A.B.E", "b.A.B.C"],
          [⟨.warning, "Unable to resolve type: 'f()'", some ⟨1, 68⟩⟩]) := by
    simp only [extract_eq, collect_eq_outline]
    decide +kernel
  have content : (aliasedFile dottedOuter).content = (aliasedFile nestedOuter).content := rfl
  have equal :=
    extract_of_expands content aliasedFile_expands (by decide) (by decide) "a/b.ts"
  cases first : (Recorded.run (extract (aliasedFile dottedOuter) "a/b.ts")).1 with
  | error failure =>
      rw [first] at computed
      cases computed
  | ok extraction =>
      rw [first] at computed equal
      have values := Option.some.inj computed
      cases second : (Recorded.run (extract (aliasedFile nestedOuter) "a/b.ts")).1 with
      | error failure =>
          rw [second] at equal
          cases equal
      | ok extraction' =>
          rw [second] at equal
          have pairs := Except.ok.inj equal
          exact ⟨extraction, extraction', rfl, rfl, congrArg Prod.fst values,
            congrArg Prod.snd values, congrArg Prod.fst pairs, congrArg Prod.snd pairs⟩

end SourceOutline
