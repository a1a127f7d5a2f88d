import SourceOutline.Proofs.Outline.Sequence

/-!
# Where the elements of a file stand

A layout ties the elements of a finished registry to the nodes they come from. It lists the
classified nodes that the walk sees in document order, each with the numbers of its
elements, outermost first. Put together, the numbers are the pre-order listing below the
root, so nothing is lost, entered twice or moved; and the outermost element of a node is
owned by the innermost element of the nearest classified node above it.
-/

namespace SourceOutline

/-- Classified nodes, each with the numbers of its elements. -/
abbrev Placement : Type := List (Site × List Nat)

namespace Registry

variable (registry : Registry)

/-- Elements with the given traits, the first owned by `owner` and every other by the one
before. -/
def Chained : (owner : Nat) → (refs : List Nat) → (chain : List Traits) → Prop
  | _, [], [] => True
  | owner, ref :: refs, traits :: chain =>
    (registry.traits? ref = some traits ∧ registry.owner? ref = some owner) ∧
      Chained ref refs chain
  | _, _, _ => False

end Registry

/-- The element that owns what is found below a classified node, or below none. -/
def Placement.InCharge (placed : Placement) (root : Nat) : Option Site → Nat → Prop
  | none, owner => owner = root
  | some above, owner => ∃ refs, (above, refs) ∈ placed ∧ refs.getLast? = some owner

/-- The elements of a registry are laid out as the nodes of a document. -/
structure Layout (document : Document) (resolver : Resolver) (registry : Registry) (root : Nat)
    (placed : Placement) : Prop where
  /-- Every visible node could be classified. -/
  classified : ∀ site ∈ document.sites, site.isVisible document = true →
    ∃ kind?, site.classify document = .ok kind?
  /-- The nodes are the visible classified ones in document order. -/
  sites : placed.map Prod.fst = document.sites.filter (Site.isDeclaring document)
  /-- Their elements one after the other are the elements below the root in pre-order. -/
  preorder : registry.preorder root = root :: placed.flatMap Prod.snd
  /-- No element occurs twice. -/
  nodup : (registry.preorder root).Nodup
  /-- A node has the elements it contributes, and they hang below the nearest classified
  node above it. -/
  chained : ∀ site refs, (site, refs) ∈ placed →
    ∃ owner, placed.InCharge root (site.nearest? document) owner ∧
      registry.Chained owner refs (site.elements document resolver)
  /-- Only a namespace has several elements. -/
  single : ∀ site refs, (site, refs) ∈ placed → site.kind? document ≠ some .nested →
    refs.length = 1
  /-- A namespace has one module for each of its names. -/
  modules : ∀ site refs, (site, refs) ∈ placed → site.kind? document = some .nested →
    refs ≠ [] ∧
      site.moduleNames document =
        .ok ((site.elements document resolver).map Traits.name) ∧
      ∀ traits ∈ site.elements document resolver, traits.detail = .module none
  /-- The children of an element are those it owns. -/
  owned : ∀ ref child, child ∈ registry.childrenOf ref ↔ registry.owner? child = some ref
  /-- Owners come before what they own. -/
  ordered : ∀ ref child, registry.owner? child = some ref → ref < child
  /-- Properties and methods hold nothing. -/
  members : ∀ ref traits, registry.traits? ref = some traits → traits.isMember = true →
    registry.childrenOf ref = []

namespace Branch

mutual

/-- The numbers of the elements of a branch that is planted at `start`. -/
def placed (start : Nat) : Branch → Placement
  | ⟨site, chain, offshoots⟩ =>
    (site, List.range' start chain.length) :: placedAll (start + chain.length) offshoots

def placedAll (start : Nat) : List Branch → Placement
  | [] => []
  | branch :: branches =>
    placed start branch ++ placedAll (start + Element.sizeAll branch.elements) branches

end

mutual

theorem map_fst_placed (start : Nat) (branch : Branch) :
    (branch.placed start).map Prod.fst = branch.sites := by
  obtain ⟨site, chain, offshoots⟩ := branch
  simp only [placed, sites, List.map_cons, map_fst_placedAll _ offshoots]

theorem map_fst_placedAll (start : Nat) (forest : List Branch) :
    (placedAll start forest).map Prod.fst = sitesAll forest := by
  cases forest with
  | nil => rfl
  | cons branch branches =>
      simp only [placedAll, sitesAll, List.map_append, map_fst_placed start branch,
        map_fst_placedAll _ branches]

end

mutual

/-- The elements of a branch are numbered without gaps. -/
theorem flatMap_snd_placed (start : Nat) (branch : Branch) :
    (branch.placed start).flatMap Prod.snd =
      List.range' start (Element.sizeAll branch.elements) := by
  obtain ⟨site, chain, offshoots⟩ := branch
  simp only [placed, elements, List.flatMap_cons, flatMap_snd_placedAll _ offshoots,
    Element.sizeAll_nest, List.range'_append_1]

theorem flatMap_snd_placedAll (start : Nat) (forest : List Branch) :
    (placedAll start forest).flatMap Prod.snd =
      List.range' start (Element.sizeAll (elementsAll forest)) := by
  cases forest with
  | nil => rfl
  | cons branch branches =>
      simp only [placedAll, elementsAll, List.flatMap_append, flatMap_snd_placed start branch,
        flatMap_snd_placedAll _ branches, Element.sizeAll_append, List.range'_append_1]

end

end Branch

namespace Registry

variable {registry : Registry}

/-- A held chain is linked from its owner inward, and holds what was planted inside it. -/
theorem chained_of_holds {owner start : Nat} (chain : List Traits) (below : List Element)
    (held : registry.Holds start (Element.entriesAll owner start (Element.nest chain below))) :
    registry.Chained owner (List.range' start chain.length) chain ∧
      registry.Holds (start + chain.length)
        (Element.entriesAll (innermost owner start chain) (start + chain.length) below) := by
  induction chain generalizing owner start with
  | nil => exact ⟨trivial, held⟩
  | cons traits inner ih =>
      rw [Element.nest, Element.entriesAll, holds_append_iff] at held
      obtain ⟨⟨found, rest⟩, -⟩ := held
      obtain ⟨linked, inside⟩ := ih rest
      have shifted : start + (inner.length + 1) = start + 1 + inner.length := by omega
      rw [List.length_cons, List.range'_succ, shifted]
      refine ⟨⟨⟨?_, ?_⟩, linked⟩, inside⟩
      · simp [traits?, found]
      · simp [owner?, found]

theorem getLast?_range' {owner start : Nat} {chain : List Traits} (nonempty : chain ≠ []) :
    (List.range' start chain.length).getLast? = some (innermost owner start chain) := by
  induction chain generalizing owner start with
  | nil => exact absurd rfl nonempty
  | cons traits inner ih =>
      rw [List.length_cons, List.range'_succ, innermost]
      cases inner with
      | nil => rfl
      | cons next inner =>
          rw [← ih (List.cons_ne_nil next inner), List.length_cons, List.range'_succ]
          rfl

end Registry

namespace Branch

variable {document : Document} {resolver : Resolver} {registry : Registry}

/-- A contribution is never empty. -/
theorem chain_ne_nil {site : Site} {kind : DeclarationKind} {chain : List Traits}
    {before after : Journal}
    (given : (site.contribution document resolver kind).Gives before chain after) :
    chain ≠ [] := by
  by_cases nested : kind = .nested
  · subst nested
    exact (Site.moduleChain_shape (Recorded.gives_ofExcept_iff.mp given).1).2.1
  · obtain ⟨traits, rfl, -⟩ := Site.contribution_single nested given
    exact List.cons_ne_nil _ _

mutual

/-- In a held branch every node has its own elements, below the innermost element of the
nearest classified node above it. The topmost node has the owner of the branch. -/
theorem chained_of_grown {above : Option Site} {owner start : Nat} (branch : Branch)
    (grown : Grown document resolver above branch)
    (held : registry.Holds start (Element.entriesAll owner start branch.elements))
    {site : Site} {refs : List Nat} (member : (site, refs) ∈ branch.placed start) :
    ∃ outer, registry.Chained outer refs (site.elements document resolver) ∧
      (site.nearest? document = above ∧ outer = owner ∨
        ∃ near nearRefs, site.nearest? document = some near ∧
          (near, nearRefs) ∈ branch.placed start ∧ nearRefs.getLast? = some outer) := by
  obtain ⟨node, chain, offshoots⟩ := branch
  obtain ⟨hangs, ⟨kind, _, _, known, given, -⟩, deeper⟩ := grown
  rw [elements] at held
  obtain ⟨linked, inside⟩ := Registry.chained_of_holds chain _ held
  rw [placed] at member ⊢
  rcases List.mem_cons.mp member with same | lower
  · cases same
    rw [Site.elements_eq_of_gives known given]
    exact ⟨owner, linked, .inl ⟨hangs, rfl⟩⟩
  · obtain ⟨outer, linked', ⟨direct, rfl⟩ | ⟨near, nearRefs, found, place, last⟩⟩ :=
      chained_of_grownAll offshoots deeper inside lower
    · exact ⟨_, linked', .inr ⟨node, _, direct, List.mem_cons_self,
        Registry.getLast?_range' (chain_ne_nil given)⟩⟩
    · exact ⟨outer, linked', .inr ⟨near, nearRefs, found, List.mem_cons_of_mem _ place, last⟩⟩

theorem chained_of_grownAll {above : Option Site} {owner start : Nat} (forest : List Branch)
    (grown : GrownAll document resolver above forest)
    (held : registry.Holds start (Element.entriesAll owner start (elementsAll forest)))
    {site : Site} {refs : List Nat} (member : (site, refs) ∈ placedAll start forest) :
    ∃ outer, registry.Chained outer refs (site.elements document resolver) ∧
      (site.nearest? document = above ∧ outer = owner ∨
        ∃ near nearRefs, site.nearest? document = some near ∧
          (near, nearRefs) ∈ placedAll start forest ∧ nearRefs.getLast? = some outer) := by
  cases forest with
  | nil => cases member
  | cons branch branches =>
      rw [elementsAll, Element.entriesAll_append, Registry.holds_append_iff,
        Element.length_entriesAll] at held
      rw [placedAll] at member ⊢
      rcases List.mem_append.mp member with first | later
      · obtain ⟨outer, linked, direct | ⟨near, nearRefs, found, place, last⟩⟩ :=
          chained_of_grown branch grown.1 held.1 first
        · exact ⟨outer, linked, .inl direct⟩
        · exact ⟨outer, linked,
            .inr ⟨near, nearRefs, found, List.mem_append_left _ place, last⟩⟩
      · obtain ⟨outer, linked, direct | ⟨near, nearRefs, found, place, last⟩⟩ :=
          chained_of_grownAll branches grown.2 held.2 later
        · exact ⟨outer, linked, .inl direct⟩
        · exact ⟨outer, linked,
            .inr ⟨near, nearRefs, found, List.mem_append_right _ place, last⟩⟩

end

mutual

/-- The elements of a node that is placed are what it contributes. -/
theorem contributed_of_grown {above : Option Site} {start : Nat} (branch : Branch)
    (grown : Grown document resolver above branch) {site : Site} {refs : List Nat}
    (member : (site, refs) ∈ branch.placed start) :
    ∃ kind chain before after, site.kind? document = some kind ∧
      (site.contribution document resolver kind).Gives before chain after ∧
      refs.length = chain.length := by
  obtain ⟨node, chain, offshoots⟩ := branch
  obtain ⟨-, ⟨kind, before, after, known, given, -⟩, deeper⟩ := grown
  rw [placed] at member
  rcases List.mem_cons.mp member with same | lower
  · cases same
    exact ⟨kind, chain, before, after, known, given, List.length_range'⟩
  · exact contributed_of_grownAll offshoots deeper lower

theorem contributed_of_grownAll {above : Option Site} {start : Nat} (forest : List Branch)
    (grown : GrownAll document resolver above forest) {site : Site} {refs : List Nat}
    (member : (site, refs) ∈ placedAll start forest) :
    ∃ kind chain before after, site.kind? document = some kind ∧
      (site.contribution document resolver kind).Gives before chain after ∧
      refs.length = chain.length := by
  cases forest with
  | nil => cases member
  | cons branch branches =>
      rw [placedAll] at member
      rcases List.mem_append.mp member with first | later
      · exact contributed_of_grown branch grown.1 first
      · exact contributed_of_grownAll branches grown.2 later

end

end Branch

namespace Element

mutual

/-- No property and no method of a tree holds anything. -/
def Bare : Element → Prop
  | ⟨traits, children⟩ => (traits.isMember = true → children = []) ∧ BareAll children

def BareAll : List Element → Prop
  | [] => True
  | element :: elements => Bare element ∧ BareAll elements

end

theorem bareAll_append {first second : List Element} (left : BareAll first)
    (right : BareAll second) : BareAll (first ++ second) := by
  induction first with
  | nil => exact right
  | cons element elements ih => exact ⟨left.1, ih left.2⟩

theorem bareAll_nest {chain : List Traits} {below : List Element}
    (holders : ∀ traits ∈ chain, traits.isMember = false) (bare : BareAll below) :
    BareAll (nest chain below) := by
  induction chain with
  | nil => exact bare
  | cons traits inner ih =>
      have outer := holders traits List.mem_cons_self
      refine ⟨⟨fun isMember => absurd isMember (by simp [outer]), ih ?_⟩, trivial⟩
      exact fun other member => holders other (List.mem_cons_of_mem _ member)

mutual

theorem children_eq_nil_of_bare {owner start : Nat} (element : Element) (bare : Bare element)
    {entry : Entry} (member : entry ∈ entries owner start element)
    (isMember : entry.traits.isMember = true) : entry.children = [] := by
  obtain ⟨traits, children⟩ := element
  rw [entries] at member
  rcases List.mem_cons.mp member with rfl | lower
  · rw [bare.1 isMember]
    rfl
  · exact children_eq_nil_of_bareAll children bare.2 lower isMember

theorem children_eq_nil_of_bareAll {owner start : Nat} (forest : List Element)
    (bare : BareAll forest) {entry : Entry} (member : entry ∈ entriesAll owner start forest)
    (isMember : entry.traits.isMember = true) : entry.children = [] := by
  cases forest with
  | nil => cases member
  | cons element elements =>
      rw [entriesAll] at member
      rcases List.mem_append.mp member with first | later
      · exact children_eq_nil_of_bare element bare.1 first isMember
      · exact children_eq_nil_of_bareAll elements bare.2 later isMember

end

end Element

namespace Branch

variable {document : Document} {resolver : Resolver}

/-- The chain of a leaf kind is one member, that of any other kind holds no member. -/
theorem isMember_of_mem_chain {site : Site} {kind : DeclarationKind} {chain : List Traits}
    {before after : Journal}
    (given : (site.contribution document resolver kind).Gives before chain after)
    {traits : Traits} (member : traits ∈ chain) : traits.isMember = kind.isLeaf := by
  by_cases nested : kind = .nested
  · subst nested
    have shape := (Site.moduleChain_shape (Recorded.gives_ofExcept_iff.mp given).1).2.2
    simp [Traits.isMember, shape traits member, DeclarationKind.isLeaf]
  · obtain ⟨only, rfl, same⟩ := Site.contribution_single nested given
    obtain rfl := List.mem_singleton.mp member
    exact same

mutual

/-- In a grown branch no property and no method holds anything. -/
theorem bareAll_of_grown {above : Option Site} (branch : Branch)
    (grown : Grown document resolver above branch) : Element.BareAll branch.elements := by
  obtain ⟨site, chain, offshoots⟩ := branch
  obtain ⟨-, ⟨kind, _, _, -, given, stops⟩, deeper⟩ := grown
  have below := bareAll_of_grownAll offshoots deeper
  rw [elements]
  cases leaf : kind.isLeaf with
  | false =>
      exact Element.bareAll_nest
        (fun traits member => (isMember_of_mem_chain given member).trans leaf) below
  | true =>
      have other : kind ≠ .nested := by
        rintro rfl
        cases leaf
      obtain ⟨only, rfl, -⟩ := Site.contribution_single other given
      rw [stops leaf]
      exact ⟨⟨fun _ => rfl, trivial⟩, trivial⟩

theorem bareAll_of_grownAll {above : Option Site} (forest : List Branch)
    (grown : GrownAll document resolver above forest) :
    Element.BareAll (elementsAll forest) := by
  cases forest with
  | nil => trivial
  | cons branch branches =>
      exact Element.bareAll_append (bareAll_of_grown branch grown.1)
        (bareAll_of_grownAll branches grown.2)

end

end Branch

section

variable {document : Document} {resolver : Resolver}

/-- A forest that grew from a document is laid out under its root. -/
theorem layout_rooted (root : Traits) (holder : root.isMember = false) (forest : List Branch)
    (classified : ∀ site ∈ document.sites, site.isVisible document = true →
      ∃ kind?, site.classify document = .ok kind?)
    (listed : Branch.sitesAll forest = document.sites.filter (Site.isDeclaring document))
    (grown : Branch.GrownAll document resolver none forest) :
    Layout document resolver (Registry.rooted root (Branch.elementsAll forest)) 0
      (Branch.placedAll 1 forest) where
  classified := classified
  sites := (Branch.map_fst_placedAll 1 forest).trans listed
  preorder := by
    rw [Registry.preorder_rooted, Branch.flatMap_snd_placedAll, Nat.add_comm 1,
      List.range'_succ]
  nodup := by
    rw [Registry.preorder_rooted]
    exact List.nodup_range'
  chained := by
    intro site refs member
    obtain ⟨outer, linked, ⟨top, rfl⟩ | ⟨near, nearRefs, found, place, last⟩⟩ :=
      Branch.chained_of_grownAll forest grown (Registry.rooted_holds root _) member
    · exact ⟨0, by rw [top]; rfl, linked⟩
    · exact ⟨outer, by rw [found]; exact ⟨nearRefs, place, last⟩, linked⟩
  single := by
    intro site refs member other
    obtain ⟨kind, chain, _, _, known, given, length⟩ :=
      Branch.contributed_of_grownAll forest grown member
    obtain ⟨only, rfl, -⟩ := Site.contribution_single (by rintro rfl; exact other known) given
    exact length
  modules := by
    intro site refs member nested
    obtain ⟨kind, chain, _, _, known, given, length⟩ :=
      Branch.contributed_of_grownAll forest grown member
    obtain rfl : kind = .nested := Option.some.inj (known.symm.trans nested)
    obtain ⟨names, nonempty, details⟩ :=
      Site.moduleChain_shape (Recorded.gives_ofExcept_iff.mp given).1
    rw [Site.elements_eq_of_gives known given]
    exact ⟨by simpa [← List.length_pos_iff, length] using nonempty, names, details⟩
  owned := fun ref child =>
    ⟨fun member => (Registry.children_rooted root _ member).2, Registry.attached_rooted root _⟩
  ordered := fun ref child owned =>
    (Registry.children_rooted root _ (Registry.attached_rooted root _ owned)).1
  members := by
    intro ref traits known isMember
    obtain ⟨entry, found, rfl⟩ := Option.map_eq_some_iff.mp known
    have nonzero : ref ≠ 0 := by
      rintro rfl
      rw [Registry.getElem?_rooted_zero] at found
      cases found
      exact absurd isMember (by simp [holder])
    have bare := Element.children_eq_nil_of_bareAll _ (Branch.bareAll_of_grownAll forest grown)
      (Registry.mem_entriesAll_of_ne_zero root _ nonzero found) isMember
    simp [Registry.childrenOf, found, bare]

namespace Layout

variable {registry : Registry} {root : Nat} {placed : Placement} {site : Site} {refs : List Nat}

theorem declaring (layout : Layout document resolver registry root placed)
    (member : (site, refs) ∈ placed) :
    site.isVisible document = true ∧ (site.kind? document).isSome = true := by
  have listed : site ∈ document.sites.filter (Site.isDeclaring document) := by
    rw [← layout.sites]
    exact List.mem_map_of_mem member
  exact Bool.and_eq_true_iff.mp (List.mem_filter.mp listed).2

/-- Every visible classified node is placed. -/
theorem exists_mem_placed (layout : Layout document resolver registry root placed)
    (member : site ∈ document.sites) (visible : site.isVisible document = true)
    (classified : (site.kind? document).isSome = true) : ∃ refs, (site, refs) ∈ placed := by
  have listed : site ∈ placed.map Prod.fst := by
    rw [layout.sites]
    exact List.mem_filter.mpr ⟨member, Bool.and_eq_true_iff.mpr ⟨visible, classified⟩⟩
  obtain ⟨⟨_, refs⟩, among, rfl⟩ := List.mem_map.mp listed
  exact ⟨refs, among⟩

/-- A placed node has elements. -/
theorem elements_ne_nil (layout : Layout document resolver registry root placed)
    (place : (site, refs) ∈ placed) : site.elements document resolver ≠ [] := by
  intro empty
  obtain ⟨owner, -, chained⟩ := layout.chained site refs place
  rw [empty] at chained
  have none : refs = [] := by
    cases refs with
    | nil => rfl
    | cons ref refs => exact absurd chained id
  by_cases nested : site.kind? document = some .nested
  · exact (layout.modules site refs place nested).1 none
  · have single := layout.single site refs place nested
    simp [none] at single

end Layout

/-- A successful collection is the outline of the tree planted under the root module. -/
theorem collect_gives {path : String} {registry : Registry} {root : Nat}
    {before after : Journal}
    (success : (collect document path resolver).Gives before (registry, root) after) :
    ∃ forest middle, (outline document resolver [] document.root).Gives before forest middle ∧
      registry = Registry.rooted (rootModule path) (Branch.elementsAll forest) ∧ root = 0 := by
  rw [collect_eq_outline] at success
  obtain ⟨forest, middle, found, success⟩ := Recorded.gives_bind_iff.mp success
  obtain ⟨_, _, -, success⟩ := Recorded.gives_bind_iff.mp success
  obtain ⟨same, -⟩ := Recorded.gives_pure_iff.mp success
  cases same
  exact ⟨forest, middle, found, rfl, rfl⟩

/-- The tree that a successful collection yields: the root module holds what was outlined. -/
theorem collect_view {path : String} {registry : Registry} {root : Nat}
    {before after : Journal}
    (success : (collect document path resolver).Gives before (registry, root) after) :
    ∃ forest middle, (outline document resolver [] document.root).Gives before forest middle ∧
      registry.view root = ⟨rootModule path, Branch.elementsAll forest⟩ := by
  obtain ⟨forest, middle, found, rfl, rfl⟩ := collect_gives success
  exact ⟨forest, middle, found, Registry.view_rooted _ _⟩

/-- The root of a successful collection is the module of the file, and nothing owns it. -/
theorem collect_root {path : String} {registry : Registry} {root : Nat}
    {before after : Journal}
    (success : (collect document path resolver).Gives before (registry, root) after) :
    registry.traits? root = some (rootModule path) ∧ registry.owner? root = none := by
  obtain ⟨forest, _, -, rfl, rfl⟩ := collect_gives success
  refine ⟨?_, Registry.owner?_rooted_zero _ _⟩
  simp [Registry.traits?, Registry.getElem?_rooted_zero]

/-- A successful collection is laid out. -/
theorem exists_layout {path : String} {registry : Registry} {root : Nat}
    {before after : Journal}
    (success : (collect document path resolver).Gives before (registry, root) after) :
    ∃ placed, Layout document resolver registry root placed := by
  obtain ⟨forest, middle, found, rfl, rfl⟩ := collect_gives success
  obtain ⟨listed, grown⟩ := outline_sites document.root rfl found
  have classified : ∀ site ∈ document.sites, site.isVisible document = true →
      ∃ kind?, site.classify document = .ok kind? := by
    intro site member visible
    obtain ⟨kind?, classified, -⟩ := (outline_gives_iff before).mp ⟨forest, middle, found⟩ site
      (List.mem_filter.mpr ⟨member, visible⟩)
    exact ⟨kind?, classified⟩
  exact ⟨_, layout_rooted _ rfl forest classified listed grown⟩

/-- Every element of a successful collection has its place. The listing of the elements
below the root module in pre-order is made up of the elements of the visible classified
nodes in document order, every element hangs where its node stands, and no element is ever
offered to an owner that is not its own. -/
theorem collect_layout {path : String} {registry : Registry} {root : Nat}
    {before after : Journal}
    (success : (collect document path resolver).Gives before (registry, root) after) :
    (∃ placed, Layout document resolver registry root placed) ∧
      registry.traits? root = some (rootModule path) ∧ registry.owner? root = none ∧
      ∀ (grown : Registry) (owner : Nat) (chain : List Traits),
        ∃ result, grown.graft owner chain = .ok result := by
  obtain ⟨known, top⟩ := collect_root success
  refine ⟨exists_layout success, known, top, ?_⟩
  intro grown owner chain
  obtain ⟨larger, inner, grafted, -⟩ := grown.exists_graft_eq_ok owner chain
  exact ⟨(larger, inner), grafted⟩

end

/-- The tree of `namespace A.B { class C { f() {} } }`. -/
def dottedNamespace : Document where
  content := "namespace A.B { class C { f() {} } }".toUTF8
  root := ⟨⟨0, "program", 0, true, none, 0, 36⟩, [
    ⟨⟨1, "internal_module", 0, true, none, 0, 36⟩, [
      ⟨⟨2, "nested_identifier", 0, true, some "name", 10, 13⟩, []⟩,
      ⟨⟨3, "statement_block", 0, true, some "body", 14, 36⟩, [
        ⟨⟨4, "class_declaration", 0, true, none, 16, 34⟩, [
          ⟨⟨5, "type_identifier", 0, true, some "name", 22, 23⟩, []⟩,
          ⟨⟨6, "class_body", 0, true, some "body", 24, 34⟩, [
            ⟨⟨7, "method_definition", 0, true, none, 26, 32⟩, [
              ⟨⟨8, "property_identifier", 0, true, some "name", 26, 27⟩, []⟩]⟩]⟩]⟩]⟩]⟩]⟩

/-- A resolver that knows no symbol. -/
def Resolver.silent : Resolver where
  symbolAt := fun _ => .ok none
  qualifiedName := fun _ => ""

set_option maxRecDepth 10000 in
theorem dottedNamespace_layout : ∃ registry root after,
    (collect dottedNamespace "a.ts" .silent).Gives {} (registry, root) after ∧
      registry.entries.toList.map (fun entry => entry.traits.name) = ["a", "A", "B", "C", "f"] ∧
      ∃ placed, Layout dottedNamespace .silent registry root placed := by
  have success : ∃ registry root after,
      (collect dottedNamespace "a.ts" .silent).Gives {} (registry, root) after ∧
        registry.entries.toList.map (fun entry => entry.traits.name) =
          ["a", "A", "B", "C", "f"] := by
    rw [collect_eq_outline]
    exact ⟨_, _, _, rfl, rfl⟩
  obtain ⟨registry, root, after, gives, names⟩ := success
  exact ⟨registry, root, after, gives, names, (collect_layout gives).1⟩

end SourceOutline
