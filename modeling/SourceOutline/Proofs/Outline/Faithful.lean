import SourceOutline.Proofs.Model.Equality
import SourceOutline.Proofs.Outline.Layout
import SourceOutline.Proofs.Outline.Total

/-!
# Outlines are known from their JSON views

A walk writes down what an element is in three ways only: members are written in full, modules and
classes without a lifetime of their own, and import edges with nothing but a name. So what a JSON
view leaves out never differs, with one exception: whatever is declared below an import hangs below
an import edge, and this does not show its children. Where nothing is, two outlines are equal
exactly if their JSON views are.
-/

namespace SourceOutline

/-- Imports of both forms. -/
def DeclarationKind.isImport : DeclarationKind → Bool
  | importEquals | importFrom => true
  | nested | classLike | getter | setter | property | method | function => false

/-- Node types of imports. -/
def isImportType (type : String) : Bool := type == "import_alias" || type == "import_statement"

/-- Nothing is declared below an import. -/
def Document.HasPlainImports (document : Document) : Prop :=
  ∀ site ∈ document.sites, (∃ above ∈ site.ancestors, isImportType above.type = true) →
    site.kind? document = none

instance (document : Document) : Decidable document.HasPlainImports :=
  inferInstanceAs (Decidable (∀ site ∈ document.sites, _ → _))

variable {document : Document} {resolver : Resolver}

namespace Site

variable {site : Site} {kind : DeclarationKind}

theorem isImportType_of_kind? (known : site.kind? document = some kind)
    (edge : kind.isImport = true) : isImportType site.type = true := by
  have fits := fits_of_classify (classify_of_kind? known)
  cases kind with
  | importEquals =>
      rcases fits with type | ⟨type, -⟩ <;> simp [isImportType, type]
  | importFrom => simp [isImportType, fits.1]
  | _ => cases edge

theorem node_mem_of_mem_ancestorSites {above : Site} {ancestors : List Node}
    (member : above ∈ ancestorSites ancestors) : above.node ∈ ancestors := by
  induction ancestors with
  | nil => cases member
  | cons node ancestors ih =>
      rcases List.mem_cons.mp member with rfl | higher
      · exact List.mem_cons_self
      · exact List.mem_cons_of_mem _ (ih higher)

theorem evident_of_isMember {traits : Traits} (isMember : traits.isMember = true) :
    traits.Evident ∧ traits.showsChildren = false := by
  obtain ⟨name, visibility, lifetime, detail⟩ := traits
  cases detail with
  | property typeName hasGetter hasSetter => exact ⟨trivial, rfl⟩
  | method isAbstract => exact ⟨trivial, rfl⟩
  | _ => cases isMember

/-- What a node contributes is evident, and shows its children unless it is a member or an import
edge. -/
theorem evident_of_mem_chain {chain : List Traits} {before after : Journal}
    (given : (site.contribution document resolver kind).Gives before chain after)
    {traits : Traits} (member : traits ∈ chain) :
    traits.Evident ∧ traits.showsChildren = !(kind.isLeaf || kind.isImport) := by
  cases leaf : kind.isLeaf with
  | true =>
      exact evident_of_isMember ((Branch.isMember_of_mem_chain given member).trans leaf)
  | false =>
      cases kind with
      | nested =>
          obtain ⟨-, -, built⟩ := moduleChain_built (Recorded.gives_ofExcept_iff.mp given).1
          obtain ⟨name, visibility, rfl⟩ := built traits member
          exact ⟨rfl, rfl⟩
      | classLike =>
          obtain ⟨only, _, found, given⟩ := Recorded.gives_bind_iff.mp given
          obtain ⟨rfl, -⟩ := Recorded.gives_pure_iff.mp given
          obtain rfl := List.mem_singleton.mp member
          obtain ⟨_, name, visibility, isAbstract, base, -, -, -, rfl⟩ := classTraits_built found
          exact ⟨rfl, rfl⟩
      | importEquals =>
          obtain ⟨only, found, rfl, -⟩ := gives_single_iff.mp given
          obtain rfl := List.mem_singleton.mp member
          obtain ⟨name, -, rfl⟩ := map_eq_ok_iff.mp found
          exact ⟨⟨rfl, rfl⟩, rfl⟩
      | importFrom =>
          obtain ⟨only, found, rfl, -⟩ := gives_single_iff.mp given
          obtain rfl := List.mem_singleton.mp member
          obtain ⟨source, -, found⟩ := bind_eq_ok_iff.mp found
          obtain ⟨text, -, found⟩ := bind_eq_ok_iff.mp found
          cases found
          exact ⟨⟨rfl, rfl⟩, rfl⟩
      | _ => cases leaf

end Site

namespace Branch

/-- Nothing hangs below an import edge if nothing is declared below imports. -/
theorem offshoots_eq_nil (plain : document.HasPlainImports) {site : Site} {kind : DeclarationKind}
    (known : site.kind? document = some kind) (edge : kind.isImport = true)
    {offshoots : List Branch} (grown : GrownAll document resolver (some site) offshoots)
    (listed : ∀ lower ∈ sitesAll offshoots, lower ∈ document.sites) : offshoots = [] := by
  cases offshoots with
  | nil => rfl
  | cons branch branches =>
      obtain ⟨lower, chain, offshoots⟩ := branch
      obtain ⟨⟨nearest, ⟨other, _, _, declares, -⟩, -⟩, -⟩ := grown
      have above := Site.node_mem_of_mem_ancestorSites (List.mem_of_find?_eq_some nearest)
      have nothing := plain lower (listed lower (List.mem_append_left _ List.mem_cons_self))
        ⟨site.node, above, Site.isImportType_of_kind? known edge⟩
      rw [nothing] at declares
      cases declares

mutual

/-- The elements of a branch are evident. -/
theorem evidentAll_of_grown (plain : document.HasPlainImports) {above : Option Site}
    (branch : Branch) (grown : Grown document resolver above branch)
    (listed : ∀ site ∈ branch.sites, site ∈ document.sites) :
    Element.EvidentAll branch.elements := by
  obtain ⟨site, chain, offshoots⟩ := branch
  obtain ⟨-, ⟨kind, _, _, known, given, stops⟩, deeper⟩ := grown
  have lower : ∀ other ∈ sitesAll offshoots, other ∈ document.sites :=
    fun other member => listed other (List.mem_cons_of_mem _ member)
  have below := evidentAll_of_grownAll plain offshoots deeper lower
  rw [elements]
  cases closed : kind.isLeaf || kind.isImport with
  | false =>
      refine Element.evidentAll_nest (fun traits member => ?_) below
      obtain ⟨evident, shows⟩ := Site.evident_of_mem_chain given member
      exact ⟨evident, by rw [shows, closed]; rfl⟩
  | true =>
      have other : kind ≠ .nested := by
        rintro rfl
        cases closed
      obtain ⟨only, rfl, -⟩ := Site.contribution_single other given
      have none : offshoots = [] := by
        rcases Bool.or_eq_true_iff.mp closed with leaf | edge
        · exact stops leaf
        · exact offshoots_eq_nil plain known edge deeper lower
      obtain ⟨evident, -⟩ := Site.evident_of_mem_chain given List.mem_cons_self
      rw [none]
      exact ⟨⟨evident, fun _ => rfl, trivial⟩, trivial⟩

theorem evidentAll_of_grownAll (plain : document.HasPlainImports) {above : Option Site}
    (forest : List Branch) (grown : GrownAll document resolver above forest)
    (listed : ∀ site ∈ sitesAll forest, site ∈ document.sites) :
    Element.EvidentAll (elementsAll forest) := by
  cases forest with
  | nil => trivial
  | cons branch branches =>
      refine Element.evidentAll_append ?_ ?_
      · exact evidentAll_of_grown plain branch grown.1
          fun site member => listed site (List.mem_append_left _ member)
      · exact evidentAll_of_grownAll plain branches grown.2
          fun site member => listed site (List.mem_append_right _ member)

end

end Branch

section

variable {path : String} {registry : Registry} {root : Nat} {before after : Journal}

theorem coherent_collect
    (success : (collect document path resolver).Gives before (registry, root) after) :
    registry.Coherent ∧ root < registry.entries.size := by
  obtain ⟨placed, layout⟩ := exists_layout success
  obtain ⟨entry, found, -⟩ := Option.map_eq_some_iff.mp (collect_root success).1
  refine ⟨⟨fun ref child => (layout.owned ref child).mp, layout.ordered⟩, ?_⟩
  exact (Array.getElem?_eq_some_iff.mp found).1

theorem evident_collect (plain : document.HasPlainImports)
    (success : (collect document path resolver).Gives before (registry, root) after) :
    (registry.view root).Evident := by
  obtain ⟨forest, middle, found, same⟩ := collect_view success
  obtain ⟨listed, grown⟩ := outline_sites document.root rfl found
  rw [same]
  refine ⟨rfl, nofun, Branch.evidentAll_of_grownAll plain forest grown fun site member => ?_⟩
  rw [listed] at member
  exact (List.mem_filter.mp member).1

end

/-- Two outlines of files in which nothing is declared below an import are equal exactly if their
JSON views are. For elements of any history one direction holds: equal elements have equal views. -/
theorem views_faithful :
    (∀ {document document' : Document} {path path' : String} {resolver resolver' : Resolver}
        {registry registry' : Registry} {root root' : Nat} {before before' after after' : Journal},
      document.HasPlainImports → document'.HasPlainImports →
      (collect document path resolver).Gives before (registry, root) after →
      (collect document' path' resolver').Gives before' (registry', root') after' →
        (registry.Same registry' root root' ↔
          Json.Equal (registry.view root).toJson (registry'.view root').toJson)) ∧
    ∀ (operations operations' : List Operation) (ref ref' : Nat),
      ({} : Registry).Admits operations → ({} : Registry).Admits operations' →
      (Registry.run {} operations).Same (Registry.run {} operations') ref ref' →
        Json.Equal ((Registry.run {} operations).view ref).toJson
          ((Registry.run {} operations').view ref').toJson := by
  constructor
  · intro document document' path path' resolver resolver' registry registry' root root' before
      before' after after' plain plain' success success'
    obtain ⟨coherent, known⟩ := coherent_collect success
    obtain ⟨coherent', known'⟩ := coherent_collect success'
    constructor
    · intro same
      rw [Registry.view_eq_of_same coherent coherent' same]
      exact Json.Equal.refl _
    · intro equal
      refine Registry.same_of_view_eq coherent coherent' known known' ?_
      exact Element.eq_of_equal _ _ (evident_collect plain success)
        (evident_collect plain' success') equal
  · intro operations operations' ref ref' admitted admitted' same
    have coherent := Registry.coherent_empty.run admitted
    have coherent' := Registry.coherent_empty.run admitted'
    rw [Registry.view_eq_of_same coherent coherent' same]
    exact Json.Equal.refl _

/-- The tree of `import x from "m"; class K {}`, or of another text with its tokens in the same
places. -/
def importingFile (text : String) : Document where
  content := text.toUTF8
  root := ⟨⟨0, "program", 0, true, none, 0, 29⟩, [
    ⟨⟨1, "import_statement", 0, true, none, 0, 18⟩, [
      ⟨⟨2, "import", 0, false, none, 0, 6⟩, []⟩,
      ⟨⟨3, "import_clause", 0, true, none, 7, 8⟩, [
        ⟨⟨4, "identifier", 0, true, none, 7, 8⟩, []⟩]⟩,
      ⟨⟨5, "from", 0, false, none, 9, 13⟩, []⟩,
      ⟨⟨6, "string", 0, true, some "source", 14, 17⟩, []⟩,
      ⟨⟨7, ";", 0, false, none, 17, 18⟩, []⟩]⟩,
    ⟨⟨8, "class_declaration", 0, true, none, 19, 29⟩, [
      ⟨⟨9, "class", 0, false, none, 19, 24⟩, []⟩,
      ⟨⟨10, "type_identifier", 0, true, some "name", 25, 26⟩, []⟩,
      ⟨⟨11, "class_body", 0, true, some "body", 27, 29⟩, []⟩]⟩]⟩

/-- Its outline, by the module that is imported. -/
def importingOutline (source : String) : Registry where
  entries := #[
    { traits := { name := "a", detail := .module (some ".") }, owner := none, children := [1, 2] },
    { traits := { name := source, detail := .importedModule }, owner := some 0, children := [] },
    { traits := { name := "K", visibility := .priv, detail := .classLike false none }
      owner := some 0, children := [] }]

theorem not_same_importingOutline :
    ¬ (importingOutline "m").Same (importingOutline "n") 0 0 := by
  intro same
  obtain ⟨found, found', -, children⟩ := same
  cases found
  cases found'
  obtain ⟨edge, -⟩ := List.forall₂_cons.mp children
  obtain ⟨found, found', traits, -⟩ := edge
  cases found
  cases found'
  exact absurd (congrArg Traits.name traits) (by decide)

/-- A class in a module, which is the only one or the second element that is created. -/
def classInside : List Operation := [
  .create { name := "m", detail := .module none } none,
  .create { name := "C", detail := .classLike false none } (some 0), .attach 0 1]

def classBehind : List Operation := [
  .create { name := "f", detail := .method false } none,
  .create { name := "m", detail := .module none } none,
  .create { name := "C", detail := .classLike false none } (some 1), .attach 1 2]

set_option maxRecDepth 10000 in
/-- The name and the quotes of an import do not count, but its module does. -/
theorem importingFile_faithful :
    (∃ registry root registry' root' other root'' after after' after'',
      (collect (importingFile "import x from \"m\"; class K \x7b\x7d") "a.ts" .silent).Gives {}
          (registry, root) after ∧
        (collect (importingFile "import y from 'm'; class K \x7b\x7d") "a.ts" .silent).Gives {}
          (registry', root') after' ∧
        (collect (importingFile "import x from \"n\"; class K \x7b\x7d") "a.ts" .silent).Gives {}
          (other, root'') after'' ∧
        registry.Same registry' root root' ∧
        ¬ Json.Equal (registry.view root).toJson (other.view root'').toJson) ∧
    ({} : Registry).Admits classInside ∧ ({} : Registry).Admits classBehind ∧
      (Registry.run {} classInside).Same (Registry.run {} classBehind) 0 1 ∧
      Json.Equal ((Registry.run {} classInside).view 0).toJson
        ((Registry.run {} classBehind).view 1).toJson := by
  have same : (Registry.run {} classInside).Same (Registry.run {} classBehind) 0 1 := by
    rw [show Registry.run {} classInside = ⟨#[
        ⟨{ name := "m", detail := .module none }, none, [1]⟩,
        ⟨{ name := "C", detail := .classLike false none }, some 0, []⟩]⟩ by decide]
    rw [show Registry.run {} classBehind = ⟨#[
        ⟨{ name := "f", detail := .method false }, none, []⟩,
        ⟨{ name := "m", detail := .module none }, none, [2]⟩,
        ⟨{ name := "C", detail := .classLike false none }, some 1, []⟩]⟩ by decide]
    exact Registry.Same.intro rfl rfl rfl (.cons (Registry.Same.intro rfl rfl rfl .nil) .nil)
  have admitted : ({} : Registry).Admits classInside := by decide
  have admitted' : ({} : Registry).Admits classBehind := by decide
  refine ⟨?_, admitted, admitted', same, views_faithful.2 _ _ 0 1 admitted admitted' same⟩
  obtain ⟨after, gives⟩ : ∃ after,
      (collect (importingFile "import x from \"m\"; class K \x7b\x7d") "a.ts" .silent).Gives {}
        (importingOutline "m", 0) after := by
    rw [collect_eq_outline]
    exact ⟨_, rfl⟩
  obtain ⟨after', gives'⟩ : ∃ after,
      (collect (importingFile "import y from 'm'; class K \x7b\x7d") "a.ts" .silent).Gives {}
        (importingOutline "m", 0) after := by
    rw [collect_eq_outline]
    exact ⟨_, rfl⟩
  obtain ⟨after'', gives''⟩ : ∃ after,
      (collect (importingFile "import x from \"n\"; class K \x7b\x7d") "a.ts" .silent).Gives {}
        (importingOutline "n", 0) after := by
    rw [collect_eq_outline]
    exact ⟨_, rfl⟩
  refine ⟨_, _, _, _, _, _, _, _, _, gives, gives', gives'', ?_, fun equal => ?_⟩
  · exact (views_faithful.1 (by decide) (by decide) gives gives').mpr (.refl _)
  · exact not_same_importingOutline
      ((views_faithful.1 (by decide) (by decide) gives gives'').mpr equal)

end SourceOutline
