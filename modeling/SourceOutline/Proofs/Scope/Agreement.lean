import SourceOutline.Proofs.Outline.Layout
import SourceOutline.Proofs.Scope.Convention
import SourceOutline.Proofs.Scope.Declared
import SourceOutline.Proofs.Scope.Grouping

/-!
# The outline and the scopes agree

The walk and the binder go through a file independently, and each cuts, strips and nests
namespace names by its own rules. On conventional files they agree on where a declaration
lives: the element of a class, a function or a namespace is called like the path of the
symbol that the binder records it under, behind the name of the root module.

The argument follows the binder down its statements. What it carries is that whatever
element is in charge below the ancestors of a statement is named by the scope of the
statement. Wrapping statements and namespace bodies are unclassified, so they change neither
side; a namespace moves both sides by the same names.
-/

namespace SourceOutline

namespace Registry

variable {registry : Registry}

/-- The elements of a chain are named by the prefixes of its names. -/
theorem namePath_chained {owner : Nat} {refs : List Nat} {chain : List Traits}
    (ordered : ∀ ref child, registry.owner? child = some ref → ref < child)
    (chained : registry.Chained owner refs chain) :
    refs.map registry.namePath =
      (scopePaths (chain.map Traits.name)).map (registry.namePath owner ++ ·) := by
  induction refs generalizing owner chain with
  | nil =>
      cases chain with
      | nil => rfl
      | cons traits chain => exact absurd chained id
  | cons ref refs ih =>
      cases chain with
      | nil => exact absurd chained id
      | cons traits chain =>
          obtain ⟨⟨known, owned⟩, deeper⟩ := chained
          have outer := namePath_owned known owned (ordered _ _ owned)
          simp only [List.map_cons, ih deeper, outer, scopePaths_cons, List.map_map,
            List.append_assoc]
          rfl

end Registry

/-- What stands below these ancestors lies in a scope: the walk sees it, and the element in
charge of it is named by the scope behind the title of the file. -/
structure Anchored (document : Document) (registry : Registry) (root : Nat)
    (placed : Placement) (title : String) (scope : List String) (ancestors : List Node) :
    Prop where
  visible : ∀ above ∈ Site.ancestorSites ancestors, above.isLeaf document = false
  named : ∀ owner, placed.InCharge root (Site.nearestAmong document ancestors) owner →
    registry.namePath owner = title :: scope

/-- The shared declarations of a listing have elements that are named by their paths: for
each there is a chain of names that the paths run along, and one element for each of them. -/
def Agrees (registry : Registry) (placed : Placement) (title : String) (scope : List String)
    (listing : Listing) : Prop :=
  ∀ path declaration, (path, declaration) ∈ listing → declaration.isOutlined = true →
    ∃ outer names refs, (declaration.site, refs) ∈ placed ∧
      path ∈ (scopePaths names).map (outer ++ ·) ∧
      (∀ inner ∈ scopePaths names, (outer ++ inner, declaration) ∈ listing) ∧
      refs.map registry.namePath =
        (scopePaths names).map fun inner => title :: (scope ++ outer ++ inner)

section

variable {registry : Registry} {placed : Placement} {title : String} {scope : List String}

theorem agrees_nil : Agrees registry placed title scope [] := nofun

theorem Agrees.append {first second : Listing} (left : Agrees registry placed title scope first)
    (right : Agrees registry placed title scope second) :
    Agrees registry placed title scope (first ++ second) := by
  intro path declaration member outlined
  rcases List.mem_append.mp member with earlier | later
  · obtain ⟨outer, names, refs, place, along, all, named⟩ := left path declaration earlier outlined
    exact ⟨outer, names, refs, place, along,
      fun inner among => List.mem_append_left _ (all inner among), named⟩
  · obtain ⟨outer, names, refs, place, along, all, named⟩ := right path declaration later outlined
    exact ⟨outer, names, refs, place, along,
      fun inner among => List.mem_append_right _ (all inner among), named⟩

/-- One declaration with a chain of names, in front of what its innermost scope lists. -/
theorem agrees_opened {names : List String} {declaration : Declaration} {body : Listing}
    (own : declaration.isOutlined = true → ∃ refs, (declaration.site, refs) ∈ placed ∧
      refs.map registry.namePath = (scopePaths names).map fun inner => title :: (scope ++ inner))
    (deeper : Agrees registry placed title (scope ++ names) body) :
    Agrees registry placed title scope (Listing.opened declaration names body) := by
  intro path shared member outlined
  rcases List.mem_append.mp member with here | below
  · obtain ⟨inner, among, same⟩ := List.mem_map.mp here
    cases same
    obtain ⟨refs, place, named⟩ := own outlined
    refine ⟨[], names, refs, place, by simpa using among, ?_, by simpa using named⟩
    intro other along
    exact List.mem_append_left _ (List.mem_map_of_mem along)
  · obtain ⟨⟨rest, declared⟩, among, same⟩ := List.mem_map.mp below
    cases same
    obtain ⟨outer, segments, refs, place, along, all, named⟩ := deeper rest declared among outlined
    refine ⟨names ++ outer, segments, refs, place, ?_, ?_, by simpa using named⟩
    · obtain ⟨inner, within, rfl⟩ := List.mem_map.mp along
      exact List.mem_map.mpr ⟨inner, within, by simp⟩
    · intro inner within
      refine List.mem_append_right _ (List.mem_map.mpr ⟨_, all inner within, by simp⟩)

end

section

variable {document : Document} {resolver : Resolver} {registry : Registry} {root : Nat}
  {placed : Placement} {title : String} {scope : List String}

/-- The elements of a node are named behind the scope that the node stands in. -/
theorem Layout.namePath_of_placed (layout : Layout document resolver registry root placed)
    {site : Site} {refs : List Nat} (place : (site, refs) ∈ placed)
    (anchored : Anchored document registry root placed title scope site.ancestors)
    {names : List String} (called : (site.elements document resolver).map Traits.name = names) :
    refs.map registry.namePath =
      (scopePaths names).map fun inner => title :: (scope ++ inner) := by
  obtain ⟨owner, charge, chained⟩ := layout.chained site refs place
  rw [Registry.namePath_chained layout.ordered chained, anchored.named owner charge, called]
  rfl

/-- A classified node that the walk sees has elements, and they are named behind its scope. -/
theorem Layout.exists_named (layout : Layout document resolver registry root placed)
    {site : Site} (present : site ∈ document.sites)
    (anchored : Anchored document registry root placed title scope site.ancestors)
    {kind : DeclarationKind} (known : site.kind? document = some kind) {names : List String}
    (called : site.elements document resolver ≠ [] →
      (site.elements document resolver).map Traits.name = names) :
    ∃ refs, (site, refs) ∈ placed ∧ refs.map registry.namePath =
      (scopePaths names).map fun inner => title :: (scope ++ inner) := by
  have visible : site.isVisible document = true := Site.isVisible_iff.mpr anchored.visible
  obtain ⟨refs, place⟩ := layout.exists_mem_placed present visible (by rw [known]; rfl)
  exact ⟨refs, place,
    layout.namePath_of_placed place anchored (called (layout.elements_ne_nil place))⟩

/-- Below an unclassified node the scope stays. -/
theorem Anchored.below_unclassified {node : Node} {ancestors : List Node}
    (anchored : Anchored document registry root placed title scope ancestors)
    (unclassified : (⟨node, ancestors⟩ : Site).kind? document = none) :
    Anchored document registry root placed title scope (node :: ancestors) := by
  refine ⟨?_, ?_⟩
  · exact Site.forall_ancestorSites_cons anchored.visible (by simp [Site.isLeaf, unclassified])
  · rw [Site.nearestAmong_of_unclassified unclassified]
    exact anchored.named

/-- Below a namespace the scope is that of its innermost name. -/
theorem Anchored.below_namespace (layout : Layout document resolver registry root placed)
    {node : Node} {ancestors : List Node} {names : List String}
    (anchored : Anchored document registry root placed title scope ancestors)
    (nested : (⟨node, ancestors⟩ : Site).kind? document = some .nested)
    (called : Site.elements document resolver ⟨node, ancestors⟩ ≠ [] →
      (Site.elements document resolver ⟨node, ancestors⟩).map Traits.name = names) :
    Anchored document registry root placed title (scope ++ names) (node :: ancestors) := by
  refine ⟨?_, ?_⟩
  · exact Site.forall_ancestorSites_cons anchored.visible
      (by simp [Site.isLeaf, nested, DeclarationKind.isLeaf])
  · -- What is in charge below a namespace is the last element of its chain.
    rw [Site.nearestAmong_of_classified nested]
    rintro owner ⟨refs, place, last⟩
    have nonempty := layout.elements_ne_nil place
    have someName : names ≠ [] := by
      rw [← called nonempty]
      simpa using nonempty
    have paths := layout.namePath_of_placed place anchored (called nonempty)
    have ends := congrArg List.getLast? paths
    rw [List.getLast?_map, List.getLast?_map, last, getLast?_scopePaths someName] at ends
    exact Option.some.inj ends

/-- The shared declarations of a statement that opens no scope. -/
theorem agrees_declared (layout : Layout document resolver registry root placed) {site : Site}
    (anchored : Anchored document registry root placed title scope site.ancestors)
    (present : site ∈ document.sites) (conventional : site.Conventional document)
    {namings : List Naming} (declared : site.declared document = .ok namings) :
    Agrees registry placed title scope
      (namings.map fun naming => ([naming.1], naming.2)) := by
  have each (naming : Naming) (member : naming ∈ namings) :
      Agrees registry placed title scope (Listing.opened naming.2 [naming.1] []) := by
    refine agrees_opened (fun outlined => ?_) agrees_nil
    obtain ⟨same, shared, name, found, read⟩ := Site.declared_outlined declared member outlined
    rw [same]
    rcases shared with classLike | function
    · exact layout.exists_named present anchored (Site.kind?_of_class classLike)
        (Site.name_of_class classLike found read)
    · exact layout.exists_named present anchored (Site.kind?_of_function function)
        (conventional.name_of_function function found read)
  clear declared
  induction namings with
  | nil => exact agrees_nil
  | cons naming namings ih =>
      have first := each naming List.mem_cons_self
      have others := ih fun other member => each other (List.mem_cons_of_mem _ member)
      exact first.append others

mutual

/-- Following the binder into a statement, every shared declaration has its elements. -/
theorem agrees_listStatement (layout : Layout document resolver registry root placed)
    {scope : List String} {ancestors : List Node} (node : Node)
    (anchored : Anchored document registry root placed title scope ancestors)
    (present : ⟨node, ancestors⟩ ∈ document.sites)
    (conventional : ∀ site ∈ Document.statementsFrom ancestors node, site.Conventional document)
    {listing : Listing} (listed : document.listStatement ancestors node = .ok listing) :
    Agrees registry placed title scope listing := by
  obtain ⟨head, children⟩ := node
  rw [Document.listStatement] at listed
  rw [Document.statementsFrom] at conventional
  -- Both sides split on the same three forms of a statement.
  have own := conventional _ List.mem_cons_self
  have below (child : Node) (member : child ∈ children) :
      ⟨child, ⟨head, children⟩ :: ancestors⟩ ∈ document.sites :=
    Document.mem_sitesBelow_of_child document.root present member
  by_cases transparent : isTransparentType head.type = true
  · rw [if_pos transparent] at listed conventional
    have wraps : (⟨⟨head, children⟩, ancestors⟩ : Site).kind? document = none :=
      Site.kind?_of_wrapper (isWrapperType_of_transparent transparent)
    exact agrees_listBlock layout children (anchored.below_unclassified wraps) below
      (fun site member => conventional site (List.mem_cons_of_mem _ member)) listed
  · rw [if_neg transparent] at listed conventional
    by_cases nested : isNamespaceType head.type = true
    · rw [if_pos nested] at listed conventional
      obtain ⟨names, named, listed⟩ := bind_eq_ok_iff.mp listed
      obtain ⟨body, inner, listed⟩ := bind_eq_ok_iff.mp listed
      cases listed
      have kind : (⟨⟨head, children⟩, ancestors⟩ : Site).kind? document = some .nested :=
        Site.kind?_of_namespace nested
      have called (nonempty : Site.elements document resolver ⟨⟨head, children⟩, ancestors⟩ ≠ []) :=
        own.names_of_namespace nested named nonempty
      have inside := anchored.below_namespace layout kind called
      refine agrees_opened (fun _ => ?_) ?_
      · exact layout.exists_named present anchored kind called
      · exact agrees_listBody layout children inside below (own.body nested)
          (fun site member => conventional site (List.mem_cons_of_mem _ member)) inner
    · rw [if_neg nested] at listed
      obtain ⟨namings, declared, listed⟩ := bind_eq_ok_iff.mp listed
      cases listed
      exact agrees_declared layout anchored present own declared

theorem agrees_listBlock (layout : Layout document resolver registry root placed)
    {scope : List String} {ancestors : List Node} (nodes : List Node)
    (anchored : Anchored document registry root placed title scope ancestors)
    (present : ∀ node ∈ nodes, ⟨node, ancestors⟩ ∈ document.sites)
    (conventional : ∀ site ∈ Document.statementsIn ancestors nodes, site.Conventional document)
    {listing : Listing} (listed : document.listBlock ancestors nodes = .ok listing) :
    Agrees registry placed title scope listing := by
  cases nodes with
  | nil =>
      cases listed
      exact agrees_nil
  | cons node nodes =>
      rw [Document.listBlock] at listed
      rw [Document.statementsIn] at conventional
      have later (other : Node) (member : other ∈ nodes) :=
        present other (List.mem_cons_of_mem _ member)
      by_cases isNamed : node.named = true
      · rw [if_pos isNamed] at listed conventional
        obtain ⟨first, here, listed⟩ := bind_eq_ok_iff.mp listed
        obtain ⟨others, rest, listed⟩ := bind_eq_ok_iff.mp listed
        cases listed
        refine Agrees.append ?_ ?_
        · exact agrees_listStatement layout node anchored (present node List.mem_cons_self)
            (fun site member => conventional site (List.mem_append_left _ member)) here
        · exact agrees_listBlock layout nodes anchored later
            (fun site member => conventional site (List.mem_append_right _ member)) rest
      · rw [if_neg isNamed] at listed conventional
        exact agrees_listBlock layout nodes anchored later conventional listed

theorem agrees_listBody (layout : Layout document resolver registry root placed)
    {scope : List String} {ancestors : List Node} (nodes : List Node)
    (anchored : Anchored document registry root placed title scope ancestors)
    (present : ∀ node ∈ nodes, ⟨node, ancestors⟩ ∈ document.sites)
    (block : ∀ body, nodes.find? (fun child => child.head.field == some "body") = some body →
      body.type = "statement_block")
    (conventional : ∀ site ∈ Document.statementsOfBody ancestors nodes,
      site.Conventional document)
    {listing : Listing} (listed : document.listBody ancestors nodes = .ok listing) :
    Agrees registry placed title scope listing := by
  cases nodes with
  | nil =>
      cases listed
      exact agrees_nil
  | cons node nodes =>
      obtain ⟨head, children⟩ := node
      rw [Document.listBody] at listed
      rw [Document.statementsOfBody] at conventional
      by_cases isBody : (head.field == some "body") = true
      · rw [if_pos isBody] at listed conventional
        have type := block ⟨head, children⟩ (List.find?_cons_of_pos isBody)
        have wraps : (⟨⟨head, children⟩, ancestors⟩ : Site).kind? document = none :=
          Site.kind?_of_wrapper (by rw [Site.type, type]; decide)
        have here := present _ List.mem_cons_self
        exact agrees_listBlock layout children (anchored.below_unclassified wraps)
          (fun child member => Document.mem_sitesBelow_of_child document.root here member)
          conventional listed
      · rw [if_neg isBody] at listed conventional
        have skipped : (⟨head, children⟩ :: nodes).find?
            (fun child => child.head.field == some "body") =
            nodes.find? (fun child => child.head.field == some "body") :=
          List.find?_cons_of_neg isBody
        rw [skipped] at block
        exact agrees_listBody layout nodes anchored
          (fun node member => present node (List.mem_cons_of_mem _ member)) block conventional
          listed

end

/-- Below the root lies the scope of the file. -/
theorem anchored_root (conventional : document.Conventional) {traits : Traits}
    (known : registry.traits? root = some traits) (top : registry.owner? root = none) :
    Anchored document registry root placed traits.name [] [document.root] := by
  have unclassified : (⟨document.root, []⟩ : Site).kind? document = none := conventional.root
  have none : Anchored document registry root placed traits.name [] [] := by
    refine ⟨nofun, ?_⟩
    rintro owner rfl
    exact Registry.namePath_root known top
  exact none.below_unclassified unclassified

end

/-- The walk and the binder agree on where a declaration lives. Whatever class, function or
namespace is recorded at a symbol, the outline has elements from the same node, one for each
of the nested scopes that the node opens; each element is called like the path of the symbol
at its scope, which records the declaration too, and the given symbol is one of these. -/
theorem collect_agrees_with_bind {document : Document} {resolver : Resolver} {path : String}
    {moduleName : Option String} {scopes : Scopes} {registry : Registry} {root : Nat}
    {before after : Journal} (conventional : document.Conventional)
    (bound : Scopes.bind document moduleName = .ok scopes)
    (success : (collect document path resolver).Gives before (registry, root) after) :
    ∃ placed, Layout document resolver registry root placed ∧
      ∀ names symbol declaration, scopes.symbol? names = some symbol →
        declaration ∈ symbol.declarations → declaration.isOutlined = true →
        symbol.path = names ∧
          ∃ outer segments refs, (declaration.site, refs) ∈ placed ∧
            names ∈ (scopePaths segments).map (outer ++ ·) ∧
            refs.map registry.qualifiedName =
              (scopePaths segments).map (fun inner =>
                Text.join '.' ((rootModule path).name :: (outer ++ inner))) ∧
            (∀ ref ∈ refs, ref ∈ registry.preorder root) ∧
            ∀ inner ∈ scopePaths segments, ∃ other,
              scopes.symbol? (outer ++ inner) = some other ∧
                declaration ∈ other.declarations := by
  obtain ⟨placed, layout⟩ := exists_layout success
  obtain ⟨known, top⟩ := collect_root success
  obtain ⟨listing, listed, recorded⟩ := Scopes.globals_of_bind bound
  have groups := Scopes.groups_of_recordAll (Document.listBlock_proper _ listed) recorded
  have present (node : Node) (member : node ∈ document.root.children) :
      ⟨node, [document.root]⟩ ∈ document.sites :=
    Document.mem_sitesBelow_of_child document.root document.rootSite_mem_sites member
  have agrees := agrees_listBlock layout document.root.children
    (anchored_root conventional known top) present conventional.statements listed
  refine ⟨placed, layout, fun names symbol declaration found member outlined => ?_⟩
  obtain ⟨same, declarations⟩ := groups.declarations names symbol found
  rw [declarations, Listing.mem_declarationsAt] at member
  obtain ⟨outer, segments, refs, place, along, all, named⟩ :=
    agrees names declaration member outlined
  refine ⟨same, outer, segments, refs, place, along, ?_, ?_, ?_⟩
  · have joined := congrArg (List.map (Text.join '.')) named
    change refs.map (fun ref => Text.join '.' (registry.namePath ref)) = _
    simpa [List.map_map, Function.comp_def] using joined
  · intro ref element
    rw [layout.preorder]
    exact List.mem_cons_of_mem _ (List.mem_flatMap.mpr ⟨_, place, element⟩)
  · intro inner among
    obtain ⟨other, there⟩ := (groups.found _).mpr ⟨declaration, all inner among⟩
    refine ⟨other, there, ?_⟩
    rw [(groups.declarations _ other there).2, Listing.mem_declarationsAt]
    exact all inner among

set_option maxRecDepth 10000 in
theorem mergedBlocks_agrees : mergedBlocks.Conventional ∧
    ∃ scopes registry root after, Scopes.bind mergedBlocks none = .ok scopes ∧
      (collect mergedBlocks "a.ts" .silent).Gives {} (registry, root) after ∧
      ∃ ref ∈ registry.preorder root, registry.qualifiedName ref = "a.A.B.C" := by
  have conventional : mergedBlocks.Conventional := by decide +kernel
  obtain ⟨scopes, symbol, declaration, bound, found, member, outlined⟩ :
      ∃ scopes symbol declaration, Scopes.bind mergedBlocks none = .ok scopes ∧
        scopes.symbol? ["A", "B", "C"] = some symbol ∧ declaration ∈ symbol.declarations ∧
        declaration.isOutlined = true := ⟨_, _, _, rfl, rfl, List.mem_cons_self, rfl⟩
  obtain ⟨registry, root, after, gives⟩ : ∃ registry root after,
      (collect mergedBlocks "a.ts" .silent).Gives {} (registry, root) after := by
    rw [collect_eq_outline]
    exact ⟨_, _, _, rfl⟩
  obtain ⟨placed, -, agrees⟩ := collect_agrees_with_bind conventional bound gives
  obtain ⟨-, outer, segments, refs, -, along, named, listed, -⟩ :=
    agrees _ symbol declaration found member outlined
  obtain ⟨inner, among, same⟩ := List.mem_map.mp along
  have called : "a.A.B.C" ∈ refs.map registry.qualifiedName := by
    rw [named]
    refine List.mem_map.mpr ⟨inner, among, ?_⟩
    rw [same]
    rfl
  obtain ⟨ref, element, name⟩ := List.mem_map.mp called
  exact ⟨conventional, scopes, registry, root, after, bound, gives, ref, listed ref element, name⟩

end SourceOutline
