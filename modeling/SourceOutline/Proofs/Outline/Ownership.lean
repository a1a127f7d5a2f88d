import SourceOutline.Proofs.Declaration.Visibility
import SourceOutline.Proofs.Outline.Layout
import SourceOutline.Proofs.Scope.Convention

/-!
# Context and ownership agree

The default visibility of a declaration follows its context, which is found by climbing from the
node through its wrappers to the first other ancestor. The owner of its element is carried down by
the walk, through every node that is not classified. The two meet: wrappers are never classified,
and classes and namespaces always are, so the ancestor that decides the context is also the node
whose element is in charge.

Hence what says nothing about its visibility is public only inside the element of a class. The
converse fails: what is declared in the body of a constructor belongs to the class and is private.
-/

namespace SourceOutline

def Traits.isClass (traits : Traits) : Bool :=
  match traits.detail with
  | .classLike .. => true
  | .element | .module _ | .importedModule | .property .. | .method _ => false

variable {document : Document} {resolver : Resolver}

namespace Site

variable {site owner : Site}

/-- The declaration has no access modifier and stands in no export statement. -/
def Unmarked (document : Document) (site : Site) : Prop :=
  site.readings document = [] ∧ ¬ site.Exports

/-- An owner that is classified is the nearest classified ancestor. -/
theorem nearest?_of_ownedBy (owned : site.OwnedBy owner) {kind : DeclarationKind}
    (known : owner.kind? document = some kind) : site.nearest? document = some owner := by
  obtain ⟨run, split, wrappers, -⟩ := owned
  rw [nearest?, split]
  clear split
  induction run with
  | nil => exact nearestAmong_of_classified known
  | cons node run ih =>
      obtain ⟨wraps, wrappers⟩ := List.forall_mem_cons.mp wrappers
      rw [List.cons_append, nearestAmong_of_unclassified (kind?_of_wrapper wraps)]
      exact ih wrappers

theorem exists_namespace_of_context (inside : site.context = .moduleBody) :
    ∃ owner, site.OwnedBy owner ∧ isNamespaceType owner.type = true := by
  obtain ⟨owner, owned⟩ := exists_ownedBy (by rw [inside]; decide)
  rw [context_of_ownedBy owned] at inside
  refine ⟨owner, owned, ?_⟩
  split at inside
  · cases inside
  · split at inside
    · assumption
    · cases inside

/-- An unmarked declaration is public only in a class. -/
theorem inClass_of_unmarked (unmarked : site.Unmarked document)
    (shown : site.visibility document = .ok .pub) : site.InClass := by
  obtain ⟨modifiers, given, same⟩ := bind_eq_ok_iff.mp shown
  have shows := shows_resolve given
  rw [Except.ok.inj same] at shows
  cases shows with
  | opened _ _ marked =>
      rcases marked with word | exports
      · rw [Reads, unmarked.1] at word
        cases word
      · exact absurd exports unmarked.2
  | member _ _ _ owned => exact owned

/-- Only the outermost element of a node, and no import edge, has the visibility of the node. -/
theorem contribution_visibility {kind : DeclarationKind} {chain : List Traits}
    {before after : Journal}
    (given : (site.contribution document resolver kind).Gives before chain after) :
    ∃ outermost inner, chain = outermost :: inner ∧
      (outermost.detail = .importedModule ∨
        site.visibility document = .ok outermost.visibility) ∧
      ∀ traits ∈ inner, traits.visibility = .priv := by
  cases kind with
  | nested =>
      obtain ⟨first, rest, visibility, -, shown, rfl⟩ :=
        moduleChain_eq (Recorded.gives_ofExcept_iff.mp given).1
      refine ⟨_, _, rfl, .inr shown, fun traits member => ?_⟩
      obtain ⟨name, -, rfl⟩ := List.mem_map.mp member
      rfl
  | classLike =>
      obtain ⟨traits, _, found, given⟩ := Recorded.gives_bind_iff.mp given
      obtain ⟨rfl, -⟩ := Recorded.gives_pure_iff.mp given
      obtain ⟨_, _, _, _, _, -, -, shown, rfl⟩ := classTraits_built found
      exact ⟨_, [], rfl, .inr shown, nofun⟩
  | importEquals =>
      obtain ⟨traits, found, rfl, -⟩ := gives_single_iff.mp given
      obtain ⟨name, -, rfl⟩ := map_eq_ok_iff.mp found
      exact ⟨_, [], rfl, .inl rfl, nofun⟩
  | importFrom =>
      obtain ⟨traits, found, rfl, -⟩ := gives_single_iff.mp given
      obtain ⟨source, -, found⟩ := bind_eq_ok_iff.mp found
      obtain ⟨text, -, found⟩ := bind_eq_ok_iff.mp found
      cases found
      exact ⟨_, [], rfl, .inl rfl, nofun⟩
  | getter | setter | property | method | function =>
      obtain ⟨traits, rfl, -, shown, -⟩ := contribution_member rfl given
      exact ⟨traits, [], rfl, .inr shown, nofun⟩

theorem contribution_isClass {chain : List Traits} {before after : Journal}
    (given : (site.contribution document resolver .classLike).Gives before chain after) :
    ∀ traits ∈ chain, traits.isClass = true := by
  obtain ⟨only, _, found, given⟩ := Recorded.gives_bind_iff.mp given
  obtain ⟨rfl, -⟩ := Recorded.gives_pure_iff.mp given
  obtain ⟨_, _, _, _, _, -, -, -, rfl⟩ := classTraits_built found
  intro traits member
  obtain rfl := List.mem_singleton.mp member
  rfl

end Site

namespace Registry.Chained

variable {registry : Registry} {owner ref : Nat} {refs : List Nat} {chain : List Traits}

theorem exists_traits (linked : registry.Chained owner refs chain) (member : ref ∈ refs) :
    ∃ traits ∈ chain, registry.traits? ref = some traits := by
  induction refs generalizing owner chain with
  | nil => cases member
  | cons first refs ih =>
      cases chain with
      | nil => exact linked.elim
      | cons traits chain =>
          rcases List.mem_cons.mp member with rfl | later
          · exact ⟨traits, List.mem_cons_self, linked.1.1⟩
          · obtain ⟨other, among, known⟩ := ih linked.2 later
            exact ⟨other, List.mem_cons_of_mem _ among, known⟩

end Registry.Chained

namespace Layout

variable {registry : Registry} {root : Nat} {placed : Placement} {site : Site} {refs : List Nat}

/-- What a placed node contributed is linked under the element in charge. -/
theorem contributed (layout : Layout document resolver registry root placed)
    (member : (site, refs) ∈ placed) :
    ∃ kind chain owner after, site.kind? document = some kind ∧
      (site.contribution document resolver kind).Gives {} chain after ∧
      placed.InCharge root (site.nearest? document) owner ∧
      registry.Chained owner refs chain := by
  obtain ⟨kind, known⟩ := Option.isSome_iff_exists.mp (layout.declaring member).2
  obtain ⟨owner, inCharge, linked⟩ := layout.chained site refs member
  obtain ⟨after, given⟩ := Site.gives_of_elements known (layout.elements_ne_nil member)
  exact ⟨kind, _, owner, after, known, given, inCharge, linked⟩

/-- A classified node that decides the context of another one has the element in charge there. -/
theorem in_charge (layout : Layout document resolver registry root placed) {above : Site}
    (owned : site.OwnedBy above) {kind : DeclarationKind} (known : above.kind? document = some kind)
    {owner : Nat} (charge : placed.InCharge root (site.nearest? document) owner) :
    ∃ refs, (above, refs) ∈ placed ∧ refs.getLast? = some owner ∧
      ∃ traits ∈ above.elements document resolver, registry.traits? owner = some traits := by
  rw [Site.nearest?_of_ownedBy owned known] at charge
  obtain ⟨refs, place, last⟩ := charge
  obtain ⟨_, -, linked⟩ := layout.chained above refs place
  exact ⟨refs, place, last, linked.exists_traits (List.mem_of_getLast? last)⟩

/-- Where a class decides the context, the element in charge is its class. -/
theorem class_in_charge (layout : Layout document resolver registry root placed) {above : Site}
    (owned : site.OwnedBy above) (classLike : isClassType above.type = true) {owner : Nat}
    (charge : placed.InCharge root (site.nearest? document) owner) :
    (above, [owner]) ∈ placed ∧
      ∃ traits, registry.traits? owner = some traits ∧ traits.isClass = true := by
  have known : above.kind? document = some .classLike := Site.kind?_of_class classLike
  obtain ⟨refs, place, last, traits, among, found⟩ := layout.in_charge owned known charge
  have single := layout.single above refs place (by rw [known]; decide)
  obtain ⟨only, rfl⟩ := List.length_eq_one_iff.mp single
  obtain rfl : only = owner := Option.some.inj last
  obtain ⟨_, given⟩ := Site.gives_of_elements known (layout.elements_ne_nil place)
  exact ⟨place, traits, found, Site.contribution_isClass given traits among⟩

/-- Where a namespace decides the context, the element in charge is its innermost module. -/
theorem namespace_in_charge (layout : Layout document resolver registry root placed)
    {above : Site} (owned : site.OwnedBy above) (nested : isNamespaceType above.type = true)
    {owner : Nat} (charge : placed.InCharge root (site.nearest? document) owner) :
    ∃ modules, (above, modules) ∈ placed ∧ modules.getLast? = some owner ∧
      ∃ traits, registry.traits? owner = some traits ∧ traits.detail = .module none := by
  have known : above.kind? document = some .nested := Site.kind?_of_namespace nested
  obtain ⟨modules, place, last, traits, among, found⟩ := layout.in_charge owned known charge
  have detail := (layout.modules above modules place known).2.2 traits among
  exact ⟨modules, place, last, traits, found, detail⟩

end Layout

/-- In a successful collection the context of a declaration and the owner of its element come from
the same node. If a class decides the context, the outermost element of the declaration is a child
of the element of that class; if a namespace does, it is a child of the innermost module of that
namespace. So a module, class, property or method that has no access modifier and is not exported
is public only as a child of a class. -/
theorem collect_contexts {path : String} {registry : Registry} {root : Nat}
    {before after : Journal}
    (success : (collect document path resolver).Gives before (registry, root) after) :
    ∃ placed, Layout document resolver registry root placed ∧
      ∀ site refs, (site, refs) ∈ placed → ∃ outermost owner,
        refs.head? = some outermost ∧ outermost ∈ registry.childrenOf owner ∧
        (site.context = .classBody → ∃ above traits, site.OwnedBy above ∧
          isClassType above.type = true ∧ (above, [owner]) ∈ placed ∧
          registry.traits? owner = some traits ∧ traits.isClass = true) ∧
        (site.context = .moduleBody → ∃ above modules traits, site.OwnedBy above ∧
          isNamespaceType above.type = true ∧ (above, modules) ∈ placed ∧
          modules.getLast? = some owner ∧
          registry.traits? owner = some traits ∧ traits.detail = .module none) ∧
        (site.Unmarked document → ∀ ref ∈ refs, ∀ traits, registry.traits? ref = some traits →
          traits.detail ≠ .importedModule → traits.visibility = .pub →
          ref ∈ registry.childrenOf owner ∧
            ∃ holder, registry.traits? owner = some holder ∧ holder.isClass = true) := by
  obtain ⟨placed, layout⟩ := exists_layout success
  refine ⟨placed, layout, fun site refs member => ?_⟩
  obtain ⟨kind, chain, owner, _, known, given, charge, linked⟩ := layout.contributed member
  obtain ⟨first, inner, rfl, written, hidden⟩ := Site.contribution_visibility given
  cases refs with
  | nil => exact linked.elim
  | cons outermost others =>
  obtain ⟨⟨found, owned⟩, rest⟩ := linked
  have child : outermost ∈ registry.childrenOf owner := (layout.owned owner outermost).mpr owned
  have inClass (decided : site.InClass) : ∃ above traits, site.OwnedBy above ∧
      isClassType above.type = true ∧ (above, [owner]) ∈ placed ∧
      registry.traits? owner = some traits ∧ traits.isClass = true := by
    obtain ⟨above, decides, classLike⟩ := decided
    obtain ⟨place, traits, holder, isClass⟩ := layout.class_in_charge decides classLike charge
    exact ⟨above, traits, decides, classLike, place, holder, isClass⟩
  refine ⟨outermost, owner, rfl, child, ?_, ?_, ?_⟩
  · exact fun decided => inClass (Site.context_eq_classBody_iff.mp decided)
  · intro decided
    obtain ⟨above, decides, nested⟩ := Site.exists_namespace_of_context decided
    obtain ⟨modules, place, last, traits, holder, detail⟩ :=
      layout.namespace_in_charge decides nested charge
    exact ⟨above, modules, traits, decides, nested, place, last, holder, detail⟩
  · intro unmarked ref among traits seen edge shown
    rcases List.mem_cons.mp among with rfl | later
    · obtain rfl : first = traits := Option.some.inj (found.symm.trans seen)
      have resolved := written.resolve_left edge
      rw [shown] at resolved
      obtain ⟨_, holder, -, -, -, seen, isClass⟩ :=
        inClass (Site.inClass_of_unmarked unmarked resolved)
      exact ⟨child, holder, seen, isClass⟩
    · -- The inner modules of a dotted namespace are never public.
      obtain ⟨other, within, same⟩ := rest.exists_traits later
      obtain rfl : other = traits := Option.some.inj (same.symm.trans seen)
      cases (hidden other within).symm.trans shown

/-- The tree of `namespace A.B { class C { constructor() { function f() {} } g() {} } }`. -/
def constructorBody : Document where
  content := ("namespace A.B \x7b class C \x7b constructor() \x7b function f() \x7b\x7d \x7d " ++
    "g() \x7b\x7d \x7d \x7d").toUTF8
  root := ⟨⟨0, "program", 0, true, none, 0, 70⟩, [
    ⟨⟨1, "internal_module", 0, true, none, 0, 70⟩, [
      ⟨⟨2, "nested_identifier", 0, true, some "name", 10, 13⟩, []⟩,
      ⟨⟨3, "statement_block", 0, true, some "body", 14, 70⟩, [
        ⟨⟨4, "class_declaration", 0, true, none, 16, 68⟩, [
          ⟨⟨5, "type_identifier", 0, true, some "name", 22, 23⟩, []⟩,
          ⟨⟨6, "class_body", 0, true, some "body", 24, 68⟩, [
            ⟨⟨7, "method_definition", 0, true, none, 26, 59⟩, [
              ⟨⟨8, "property_identifier", 0, true, some "name", 26, 37⟩, []⟩,
              ⟨⟨9, "statement_block", 0, true, some "body", 40, 59⟩, [
                ⟨⟨10, "function_declaration", 0, true, none, 42, 57⟩, [
                  ⟨⟨11, "identifier", 0, true, some "name", 51, 52⟩, []⟩]⟩]⟩]⟩,
            ⟨⟨12, "method_definition", 0, true, none, 60, 66⟩, [
              ⟨⟨13, "property_identifier", 0, true, some "name", 60, 61⟩, []⟩]⟩]⟩]⟩]⟩]⟩]⟩

set_option maxRecDepth 10000 in
/-- Both methods belong to the class, but only the second is declared in its context. -/
theorem constructorBody_contexts : ∃ registry root after,
    (collect constructorBody "a.ts" .silent).Gives {} (registry, root) after ∧
      registry.entries.toList.map (fun entry => (entry.traits.name, entry.traits.visibility)) =
        [("a", .pub), ("A", .priv), ("B", .priv), ("C", .priv), ("f", .priv), ("g", .pub)] ∧
      ∃ placed : Placement, placed.map (fun entry => entry.1.context) =
          [.elsewhere, .moduleBody, .elsewhere, .classBody] ∧
        ∀ site refs, (site, refs) ∈ placed → site.context = .classBody →
          ∃ ref owner traits, ref ∈ refs ∧ ref ∈ registry.childrenOf owner ∧
            registry.traits? owner = some traits ∧ traits.isClass = true := by
  have success : ∃ registry root after,
      (collect constructorBody "a.ts" .silent).Gives {} (registry, root) after ∧
        registry.entries.toList.map (fun entry => (entry.traits.name, entry.traits.visibility)) =
          [("a", .pub), ("A", .priv), ("B", .priv), ("C", .priv), ("f", .priv), ("g", .pub)] := by
    rw [collect_eq_outline]
    exact ⟨_, _, _, rfl, rfl⟩
  obtain ⟨registry, root, after, gives, names⟩ := success
  obtain ⟨placed, layout, agree⟩ := collect_contexts gives
  refine ⟨registry, root, after, gives, names, placed, ?_, fun site refs member inside => ?_⟩
  · have contexts : (placed.map Prod.fst).map Site.context =
        [.elsewhere, .moduleBody, .elsewhere, .classBody] := by
      rw [layout.sites]
      rfl
    rwa [List.map_map] at contexts
  · obtain ⟨ref, owner, first, child, inClass, -⟩ := agree site refs member
    obtain ⟨-, traits, -, -, -, holder, isClass⟩ := inClass inside
    exact ⟨ref, owner, traits, List.mem_of_head? first, child, holder, isClass⟩

end SourceOutline
