import SourceOutline.Proofs.Scope.Block
import SourceOutline.Proofs.Scope.Likeness

/-!
# Places of two files

Two bound files are paired if they have the same content and are kin. Places of the two are tied
if the statements there go into the same scope, so that climbing from them leads to the same scope
as well. The children of tied places are tied again, as long as the names and the bodies of
namespaces correspond. Expressions that read the same at tied places denote twins.
-/

namespace SourceOutline

variable {document document' : Document} {scopes scopes' : Scopes}

namespace Scopes

variable {moduleName : Option String}

theorem isExternal_of_bind (bound : Scopes.bind document moduleName = .ok scopes) :
    scopes.isExternal = document.root.namedChildren.any
      fun child => child.type == "import_statement" || child.type == "export_statement" := by
  obtain ⟨bindings, -, bound⟩ := bind_eq_ok_iff.mp bound
  cases bound
  rfl

/-- Binding groups what the listing names, and fails exactly where the listing does. -/
theorem listing_agree (document : Document) (moduleName : Option String) :
    Agree (fun listing scopes => scopes.Groups listing) document.listing
      (Scopes.bind document moduleName) := by
  have agree := Agree.of_map_eq
    (Binder.yields_bindBlock document [] [document.root] [] document.root.children [])
  change Agree _ _ document.listing at agree
  generalize ran : Binder.bindBlock _ _ _ _ _ _ = result at agree
  cases bound : Scopes.bind document moduleName with
  | error failure =>
      cases result with
      | error failure' =>
          cases bound.symm.trans (bind_error ran _)
          generalize document.listing = listing at agree ⊢
          cases agree
          exact .error _
      | ok made => cases bound.symm.trans (bind_eq_ok_iff.mpr ⟨made, ran, rfl⟩)
  | ok scopes =>
      obtain ⟨listing, listed, recorded⟩ := globals_of_bind bound
      rw [listed]
      exact .ok (groups_of_recordAll (Document.listBlock_proper _ listed) recorded)

/-- Climbing from the site of an alias leads to the scope of its symbol. -/
theorem enclosing_of_isAlias (bound : Scopes.bind document moduleName = .ok scopes)
    (distinct : document.HasDistinctIds) {symbol : Symbol} {target : String} {site : Site}
    (stands : scopes.Stands symbol) (isAlias : symbol.alias? = some (target, site)) :
    scopes.enclosing site.ancestors = symbol.scope := by
  have origin : symbol.origin? = some ⟨.importAlias target, site⟩ := by
    obtain ⟨⟨form, place⟩, found, rest⟩ := Option.bind_eq_some_iff.mp isAlias
    obtain ⟨aim, aimed, same⟩ := Option.bind_eq_some_iff.mp rest
    cases same
    cases form with
    | importAlias target =>
        cases aimed
        exact found
    | plain _ | defaultImport _ | namespaceImport _ | requireImport _ | namedImport _ _ =>
        cases aimed
  obtain ⟨scope, text, -, -, reached, path, -⟩ := statement_of_alias bound stands origin
  rw [enclosing_of_statementAt bound distinct reached]
  exact (List.append_inj' path rfl).1.symm

end Scopes

/-- Two bound files with the same content whose scopes are kin. -/
structure Paired (document document' : Document) (scopes scopes' : Scopes) : Prop where
  content : document.content = document'.content
  distinct : document.HasDistinctIds
  distinct' : document'.HasDistinctIds
  bound : Scopes.bind document scopes.moduleName = .ok scopes
  bound' : Scopes.bind document' scopes'.moduleName = .ok scopes'
  kin : scopes.Kin scopes'

/-- Whether a file imports or exports anything is the same. -/
def Document.SameExports (document document' : Document) : Prop :=
  (document.root.namedChildren.any fun child =>
      child.type == "import_statement" || child.type == "export_statement") =
    document'.root.namedChildren.any fun child =>
      child.type == "import_statement" || child.type == "export_statement"

/-- Only the children of the root that count are asked. -/
theorem Document.sameExports_of_matches
    (heads : List.Forall₂ Node.Matches document.root.substance document'.root.substance) :
    document.SameExports document' := by
  have ignores (child : Node) (remark : child.isRemark = true) : (child.named &&
      (child.type == "import_statement" || child.type == "export_statement")) = false := by
    rw [Node.type_of_isRemark remark]
    exact Bool.and_false _
  rw [SameExports, Node.namedChildren, Node.namedChildren, List.any_filter, List.any_filter,
    ← Node.any_substance ignores, ← Node.any_substance ignores]
  refine List.any_eq_of_forall₂ heads fun child child' alike => ?_
  rw [alike.named_eq, alike.type_eq]

/-- Files that are bound under one module name are paired, if the names in them are borrowed in the
same way. -/
theorem Paired.of_bind (content : document.content = document'.content)
    (distinct : document.HasDistinctIds) (distinct' : document'.HasDistinctIds)
    (external : document.SameExports document') {moduleName : Option String}
    (bound : Scopes.bind document moduleName = .ok scopes)
    (bound' : Scopes.bind document' moduleName = .ok scopes') {listing listing' : Listing}
    (groups : scopes.Groups listing) (groups' : scopes'.Groups listing')
    (perm : listing.sketch.Perm listing'.sketch)
    (borrowed : ∀ symbol symbol', scopes.Twin scopes' symbol symbol' →
      symbol.borrowed? = symbol'.borrowed?) : Paired document document' scopes scopes' := by
  have named := Scopes.moduleName_of_bind bound
  have named' := Scopes.moduleName_of_bind bound'
  refine ⟨content, distinct, distinct', named ▸ bound, named' ▸ bound', ?_⟩
  exact {
    groups := ⟨listing, groups⟩
    groups' := ⟨listing', groups'⟩
    found := Scopes.found_iff_of_perm groups groups' perm
    borrowed := borrowed
    exported := fun _ _ _ twin global => twin.isExported_eq groups groups' perm global
    climbs := fun _ _ _ => Scopes.enclosing_of_isAlias bound distinct
    climbs' := fun _ _ _ => Scopes.enclosing_of_isAlias bound' distinct'
    moduleName := named.trans named'.symm
    isExternal := by
      rw [Scopes.isExternal_of_bind bound, Scopes.isExternal_of_bind bound', external] }

/-- Files with the same sketch are bound as a pair, or fail for the same reason. -/
theorem Paired.bind_agree (content : document.content = document'.content)
    (distinct : document.HasDistinctIds) (distinct' : document'.HasDistinctIds)
    (external : document.SameExports document')
    (sketched : Agree SameSketch document.listing document'.listing)
    (moduleName : Option String) :
    Agree (Paired document document') (Scopes.bind document moduleName)
      (Scopes.bind document' moduleName) := by
  have binding := Scopes.listing_agree document moduleName
  have binding' := Scopes.listing_agree document' moduleName
  generalize document.listing = listing at sketched binding
  generalize document'.listing = listing' at sketched binding'
  generalize first : Scopes.bind document moduleName = result at binding ⊢
  generalize second : Scopes.bind document' moduleName = result' at binding' ⊢
  cases sketched with
  | error failure =>
      cases binding
      cases binding'
      exact .error failure
  | ok same =>
      cases binding with
      | ok groups =>
          cases binding' with
          | ok groups' =>
              exact .ok (.of_bind content distinct distinct' external first second groups groups'
                (.of_eq same) fun _ _ twin => twin.borrowed?_eq groups groups' same)

/-- Dotted expressions are looked into, by the position of their children. -/
theorem isOrderedType_of_member {type : String} (isMember : isMemberType type = true) :
    isOpenType type = true ∧ isOrderedType type = true := by
  rw [isMemberType, Bool.or_eq_true, beq_iff_eq, beq_iff_eq] at isMember
  rcases isMember with rfl | rfl <;> decide

/-- Places of two files at which the same is bound into the same scope. -/
structure Tied (document document' : Document) (scopes scopes' : Scopes) (site site' : Site) :
    Prop where
  member : site ∈ document.sites
  member' : site' ∈ document'.sites
  head : site.node.Matches site'.node
  above : SameAbove site.ancestors site'.ancestors
  /-- Namespaces are bound into the same scope, if at all. -/
  statement : isNamespaceType site.type = true → ∀ scope,
    document.StatementAt site scope ↔ document'.StatementAt site' scope
  /-- What is directly below is bound into the same scope, if at all. -/
  block : ∀ scope, document.BlockAt site scope ↔ document'.BlockAt site' scope
  enclosing : scopes.enclosing site.ancestors = scopes'.enclosing site'.ancestors

namespace Tied

variable {site site' : Site}

theorem type_eq (tied : Tied document document' scopes scopes' site site') :
    site.type = site'.type := tied.head.type_eq

theorem root (head : document.root.Matches document'.root) :
    Tied document document' scopes scopes' document.rootSite document'.rootSite where
  member := document.rootSite_mem_sites
  member' := document'.rootSite_mem_sites
  head := head
  above := .file
  statement _ scope := by
    constructor <;> intro reached <;> exact absurd rfl reached.ancestors_ne_nil
  block scope := by
    rw [Document.blockAt_root_iff, Document.blockAt_root_iff]
  enclosing := rfl

/-- Tied namespaces that are opened under the same names have the same block, and other tied
places have none. -/
theorem lookup_eq (paired : Paired document document' scopes scopes')
    (tied : Tied document document' scopes scopes' site site')
    (names : isNamespaceType site.type = true → ∀ scope, document.StatementAt site scope →
      Binder.namespaceNames document site.node = Binder.namespaceNames document' site'.node) :
    scopes.blocks.lookup site.node.id = scopes'.blocks.lookup site'.node.id := by
  apply Option.ext
  intro path
  rw [Scopes.lookup_blocks_iff paired.bound paired.distinct tied.member,
    Scopes.lookup_blocks_iff paired.bound' paired.distinct' tied.member', ← tied.type_eq]
  refine exists_congr fun scope => exists_congr fun opened => ?_
  constructor
  · rintro ⟨reached, nested, named, rest⟩
    exact ⟨(tied.statement nested scope).mp reached, nested,
      names nested scope reached ▸ named, rest⟩
  · rintro ⟨reached', nested, named, rest⟩
    have reached := (tied.statement nested scope).mpr reached'
    exact ⟨reached, nested, names nested scope reached ▸ named, rest⟩

/-- Matching children are tied, if in a namespace either both are the body or none of them is. -/
theorem child (paired : Paired document document' scopes scopes')
    (tied : Tied document document' scopes scopes' site site')
    (names : isNamespaceType site.type = true → ∀ scope, document.StatementAt site scope →
      Binder.namespaceNames document site.node = Binder.namespaceNames document' site'.node)
    {child child' : Node} (among : child ∈ site.node.children)
    (among' : child' ∈ site'.node.children) (alike : child.Matches child')
    (body : isNamespaceType site.type = true → ∀ scope, document.StatementAt site scope →
      (site.node.child? "body" = some child ↔ site'.node.child? "body" = some child')) :
    Tied document document' scopes scopes' (site.below child) (site'.below child') := by
  have statement (scope : List String) : document.StatementAt (site.below child) scope ↔
      document'.StatementAt (site'.below child') scope := by
    rw [Document.statementAt_below_iff, Document.statementAt_below_iff, tied.block,
      Node.namedChildren, Node.namedChildren, List.mem_filter, List.mem_filter, alike.named_eq]
    simp only [among, among', true_and]
  refine ⟨Document.mem_sites_below tied.member among, Document.mem_sites_below tied.member' among',
    alike, .cons tied.type_eq tied.above, fun _ => statement, ?_, ?_⟩
  · intro scope
    rw [Document.blockAt_below_iff, Document.blockAt_below_iff, statement, alike.type_eq,
      ← tied.type_eq]
    refine or_congr_right (exists_congr fun outer => exists_congr fun opened => ?_)
    constructor
    · rintro ⟨reached, nested, named, found, rest⟩
      exact ⟨(tied.statement nested outer).mp reached, nested,
        names nested outer reached ▸ named, (body nested outer reached).mp found, rest⟩
    · rintro ⟨reached', nested, named, found, rest⟩
      have reached := (tied.statement nested outer).mpr reached'
      exact ⟨reached, nested, names nested outer reached ▸ named,
        (body nested outer reached).mpr found, rest⟩
  · change scopes.enclosing (site.node :: site.ancestors) =
      scopes'.enclosing (site'.node :: site'.ancestors)
    rw [Scopes.enclosing_cons, Scopes.enclosing_cons, tied.lookup_eq paired names, tied.enclosing]

section

variable {related : Node → Node → Prop}
  (matching : ∀ child child', related child child' → child.Matches child')

include matching

/-- Selected children at the same position are tied: the first one under a field is the same. -/
theorem nodes_of_split (paired : Paired document document' scopes scopes')
    (tied : Tied document document' scopes scopes' site site')
    {before before' nodes nodes' : List Node} (selected : site.node.Selection (before ++ nodes))
    (selected' : site'.node.Selection (before' ++ nodes'))
    (front : List.Forall₂ related before before') (each : List.Forall₂ related nodes nodes') :
    List.Forall₂ (fun child child' => Tied document document' scopes scopes' (site.below child)
      (site'.below child') ∧ related child child') nodes nodes' := by
  have names := namespaceNames_eq_of_rel paired.content (Node.rel_child? (fun _ _ alike => alike)
    selected selected' ((List.rel_append front each).imp matching) "name")
  induction each generalizing before before' with
  | nil => exact .nil
  | @cons child child' nodes nodes' first _ ih =>
      have alike := matching child child' first
      have fresh : child ∉ before := by
        have distinct := selected.sublist.nodup (paired.distinct.nodup_children tied.member)
        exact fun earlier => List.disjoint_of_nodup_append distinct earlier List.mem_cons_self
      have fresh' : child' ∉ before' := by
        have distinct := selected'.sublist.nodup (paired.distinct'.nodup_children tied.member')
        exact fun earlier => List.disjoint_of_nodup_append distinct earlier List.mem_cons_self
      have earlier := List.any_eq_of_forall₂ front fun other other' both =>
        congrArg (· == some "body") (matching other other' both).field_eq
      have here : Tied document document' scopes scopes' (site.below child)
          (site'.below child') := by
        refine tied.child paired (fun _ _ _ => names) ?_ ?_ alike fun _ _ _ => ?_
        · exact selected.sublist.mem (List.mem_append_right _ List.mem_cons_self)
        · exact selected'.sublist.mem (List.mem_append_right _ List.mem_cons_self)
        · rw [selected.child?_eq, selected'.child?_eq, List.find?_eq_some_self_iff fresh,
            List.find?_eq_some_self_iff fresh', earlier, alike.field_eq]
      refine .cons ⟨here, first⟩ ?_
      refine ih ?_ ?_ (List.rel_append front (.cons first .nil))
      · rwa [List.append_assoc, List.singleton_append]
      · rwa [List.append_assoc, List.singleton_append]

/-- Children of tied places are tied, one by one. -/
theorem nodes (paired : Paired document document' scopes scopes')
    (tied : Tied document document' scopes scopes' site site') {nodes nodes' : List Node}
    (selected : site.node.Selection nodes) (selected' : site'.node.Selection nodes')
    (each : List.Forall₂ related nodes nodes') :
    List.Forall₂ (fun child child' => Tied document document' scopes scopes' (site.below child)
      (site'.below child') ∧ related child child') nodes nodes' :=
  nodes_of_split matching paired tied ((List.nil_append nodes).symm ▸ selected)
    ((List.nil_append nodes').symm ▸ selected') .nil each

end

theorem object? (paired : Paired document document' scopes scopes')
    (tied : Tied document document' scopes scopes' site site')
    (isMember : isMemberType site.type = true)
    (below : List.Forall₂ Node.Like site.node.substance site'.node.substance) :
    Option.Rel (fun object object' => Tied document document' scopes scopes' (site.below object)
      (site'.below object') ∧ object.Like object') site.node.object? site'.node.object? := by
  have isSome : (site.node.child? "object").isSome = (site'.node.child? "object").isSome := by
    obtain ⟨missing, missing'⟩ | ⟨_, _, found, found', -⟩ :=
      Option.rel_cases (Node.rel_child? (fun _ _ like => like.alike) .substance .substance below
        "object")
    · rw [missing, missing']
    · rw [found, found']
      rfl
  have nodes := tied.nodes (fun _ _ like => like.alike) paired .substance .substance below
  have ordered := (isOrderedType_of_member isMember).2
  rw [Node.substance_of_ordered ordered,
    Node.substance_of_ordered (tied.head.type_eq ▸ ordered)] at nodes
  refine List.rel_find? nodes ?_
  rintro child child' ⟨-, like⟩
  rw [Node.isObject, Node.isObject, isSome, like.alike.field_eq, like.alike.named_eq]

end Tied

theorem Node.rel_property? {node node' : Node} (types : node.type = node'.type)
    (isMember : isMemberType node.type = true)
    (below : List.Forall₂ Node.Like node.substance node'.substance) :
    Option.Rel Node.Like node.property? node'.property? :=
  Option.rel_or (rel_child? (fun _ _ like => like.alike) .substance .substance below "property")
    (List.rel_getLast? (rel_namedChildren (fun _ _ like => like.alike) below types
      (isOrderedType_of_member isMember).2))

/-- Expressions that read the same at tied places denote twins. -/
theorem Tied.symbolAt_agree (paired : Paired document document' scopes scopes') (site : Site)
    {site' : Site} (tied : Tied document document' scopes scopes' site site')
    (like : site.node.Like site'.node) :
    Agree (Option.Rel (scopes.Twin scopes')) (scopes.symbolAt document site)
      (scopes'.symbolAt document' site') := by
  induction site using Site.object_induction generalizing site' with
  | identifier site type =>
      rw [Scopes.symbolAt_identifier type,
        Scopes.symbolAt_identifier (tied.type_eq.symm.trans type),
        text_eq_of_matches paired.content tied.head, tied.enclosing]
      refine (Agree.refl _).bind fun name _ same => ?_
      subst same
      exact .ok (paired.kin.resolve (paired.kin.lookup _ name))
  | childless site isMember missing =>
      have below := like.inside (isOrderedType_of_member isMember).1
      have missing' : site'.node.object? = none ∨ site'.node.property? = none := by
        refine missing.imp (fun gone => ?_) fun gone => ?_
        · exact Option.eq_none_of_rel (gone ▸ tied.object? paired isMember below)
        · exact Option.eq_none_of_rel (gone ▸ Node.rel_property? tied.type_eq isMember below)
      rw [Scopes.symbolAt_childless isMember missing,
        Scopes.symbolAt_childless (tied.type_eq ▸ isMember) missing']
      exact .error _
  | member site object property isMember hasObject hasProperty ih =>
      have below := like.inside (isOrderedType_of_member isMember).1
      obtain ⟨object', hasObject', deeper, objects⟩ :=
        Option.exists_of_rel_some (hasObject ▸ tied.object? paired isMember below)
      obtain ⟨property', hasProperty', properties⟩ :=
        Option.exists_of_rel_some (hasProperty ▸ Node.rel_property? tied.type_eq isMember below)
      rw [Scopes.symbolAt_member isMember hasObject hasProperty,
        Scopes.symbolAt_member (tied.type_eq ▸ isMember) hasObject' hasProperty',
        text_eq_of_matches paired.content properties.alike]
      refine (ih deeper objects).bind fun owner owner' both => ?_
      cases both with
      | none => exact .ok .none
      | some twin =>
          refine (Agree.refl _).bind fun name _ same => ?_
          subst same
          exact .ok (paired.kin.resolve (paired.kin.member? twin name))
  | other site notIdentifier notMember =>
      rw [Scopes.symbolAt_other notIdentifier notMember,
        Scopes.symbolAt_other (tied.type_eq ▸ notIdentifier) (tied.type_eq ▸ notMember)]
      exact .ok .none

end SourceOutline
