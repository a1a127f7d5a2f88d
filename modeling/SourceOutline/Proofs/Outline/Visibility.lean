import SourceOutline.Proofs.Outline.Contribution
import SourceOutline.Proofs.Outline.Forest

/-!
# Which nodes a walk sees

A walk does not enter leaf kinds, so it sees a node exactly when no proper ancestor is of a
leaf kind. The branches of an outline are the classified nodes among these, in document
order. Each hangs below the nearest classified node above it, and carries the elements that
its own node contributes.
-/

namespace SourceOutline

namespace Site

variable (document : Document) (resolver : Resolver)

/-- The kind of a classified site. -/
def kind? (site : Site) : Option DeclarationKind := (site.classify document).toOption.join

/-- The sites of a chain of ancestors, nearest first. -/
def ancestorSites : List Node → List Site
  | [] => []
  | node :: above => ⟨node, above⟩ :: ancestorSites above

def isLeaf (site : Site) : Bool := (site.kind? document).any DeclarationKind.isLeaf

/-- No proper ancestor is of a leaf kind. -/
def isVisible (site : Site) : Bool :=
  (ancestorSites site.ancestors).all fun above => !above.isLeaf document

/-- The site is seen by a walk and starts a declaration. -/
def isDeclaring (site : Site) : Bool := site.isVisible document && (site.kind? document).isSome

/-- The nearest classified site of a chain of ancestors. -/
def nearestAmong (ancestors : List Node) : Option Site :=
  (ancestorSites ancestors).find? fun above => (above.kind? document).isSome

/-- The nearest classified proper ancestor. -/
def nearest? (site : Site) : Option Site := nearestAmong document site.ancestors

/-- The elements that a classified site stands for, outermost first. -/
def elements (site : Site) : List Traits :=
  match site.kind? document with
  | some kind => ((Recorded.run (site.contribution document resolver kind)).1.toOption).getD []
  | none => []

variable {document resolver}

theorem kind?_eq_of_classify {site : Site} {kind? : Option DeclarationKind}
    (classified : site.classify document = .ok kind?) : site.kind? document = kind? := by
  simp [Site.kind?, classified, Except.toOption]

theorem classify_of_kind? {site : Site} {kind : DeclarationKind}
    (known : site.kind? document = some kind) : site.classify document = .ok (some kind) := by
  rw [kind?] at known
  cases classified : site.classify document with
  | error failure => simp [classified, Except.toOption] at known
  | ok kind? => simpa [classified, Except.toOption] using known

theorem elements_eq_of_gives {site : Site} {kind : DeclarationKind} {chain : List Traits}
    {before after : Journal} (known : site.kind? document = some kind)
    (given : (site.contribution document resolver kind).Gives before chain after) :
    site.elements document resolver = chain := by
  have outcome := ((site.additive_contribution document resolver kind).run_eq given).1
  simp [elements, known, outcome, Except.toOption]

theorem isVisible_iff {node : Node} {ancestors : List Node} :
    (⟨node, ancestors⟩ : Site).isVisible document = true ↔
      ∀ above ∈ ancestorSites ancestors, above.isLeaf document = false := by
  simp [isVisible]

theorem forall_ancestorSites_cons {node : Node} {ancestors : List Node}
    (higher : ∀ above ∈ ancestorSites ancestors, above.isLeaf document = false)
    (inner : (⟨node, ancestors⟩ : Site).isLeaf document = false) :
    ∀ above ∈ ancestorSites (node :: ancestors), above.isLeaf document = false := by
  intro above member
  rcases List.mem_cons.mp member with rfl | among
  · exact inner
  · exact higher above among

/-- Below a visible site that is of no leaf kind everything directly below is visible. -/
theorem isVisible_below {node child : Node} {ancestors : List Node}
    (visible : (⟨node, ancestors⟩ : Site).isVisible document = true)
    (inner : (⟨node, ancestors⟩ : Site).isLeaf document = false) :
    (⟨child, node :: ancestors⟩ : Site).isVisible document = true := by
  rw [isVisible_iff] at visible ⊢
  exact forall_ancestorSites_cons visible inner

theorem nearestAmong_of_unclassified {node : Node} {ancestors : List Node}
    (unclassified : (⟨node, ancestors⟩ : Site).kind? document = none) :
    nearestAmong document (node :: ancestors) = nearestAmong document ancestors := by
  simp [nearestAmong, ancestorSites, unclassified]

theorem nearestAmong_of_classified {node : Node} {ancestors : List Node}
    {kind : DeclarationKind} (known : (⟨node, ancestors⟩ : Site).kind? document = some kind) :
    nearestAmong document (node :: ancestors) = some ⟨node, ancestors⟩ := by
  simp [nearestAmong, ancestorSites, known]

theorem mem_ancestorSites_of_suffix {node : Node} {above ancestors : List Node}
    (under : node :: above <:+ ancestors) : ⟨node, above⟩ ∈ ancestorSites ancestors := by
  obtain ⟨front, rfl⟩ := under
  induction front with
  | nil => exact List.mem_cons_self
  | cons _ front ih => exact List.mem_cons_of_mem _ ih

end Site

namespace Document

theorem mem_sitesBelowAll {ancestors nodes : List Node} {node : Node} (member : node ∈ nodes) :
    ⟨node, ancestors⟩ ∈ sitesBelowAll ancestors nodes := by
  induction nodes with
  | nil => cases member
  | cons first nodes ih =>
      rw [sitesBelowAll]
      rcases List.mem_cons.mp member with rfl | later
      · obtain ⟨head, children⟩ := node
        exact List.mem_append_left _ (by rw [sitesBelow]; exact List.mem_cons_self)
      · exact List.mem_append_right _ (ih later)

theorem rootSite_mem_sites (document : Document) : document.rootSite ∈ document.sites := by
  rw [sites, rootSite]
  cases document.root
  rw [sitesBelow]
  exact List.mem_cons_self

mutual

/-- The children of a listed site are listed. -/
theorem mem_sitesBelow_of_child {ancestors : List Node} (node : Node) {site : Site}
    (member : site ∈ sitesBelow ancestors node) {child : Node}
    (below : child ∈ site.node.children) : site.below child ∈ sitesBelow ancestors node := by
  obtain ⟨head, children⟩ := node
  rw [sitesBelow] at member ⊢
  refine List.mem_cons_of_mem _ ?_
  rcases List.mem_cons.mp member with rfl | deeper
  · exact mem_sitesBelowAll below
  · exact mem_sitesBelowAll_of_child children deeper below

theorem mem_sitesBelowAll_of_child {ancestors : List Node} (nodes : List Node) {site : Site}
    (member : site ∈ sitesBelowAll ancestors nodes) {child : Node}
    (below : child ∈ site.node.children) : site.below child ∈ sitesBelowAll ancestors nodes := by
  cases nodes with
  | nil => cases member
  | cons node nodes =>
      rw [sitesBelowAll] at member ⊢
      rcases List.mem_append.mp member with first | later
      · exact List.mem_append_left _ (mem_sitesBelow_of_child node first below)
      · exact List.mem_append_right _ (mem_sitesBelowAll_of_child nodes later below)

end

theorem mem_sites_below {document : Document} {site : Site} (member : site ∈ document.sites)
    {child : Node} (below : child ∈ site.node.children) : site.below child ∈ document.sites :=
  mem_sitesBelow_of_child document.root member below

theorem mem_children_of_namedChildren {node child : Node} (member : child ∈ node.namedChildren) :
    child ∈ node.children := (List.mem_filter.mp member).1

theorem mem_sites_of_children {document : Document} {site : Site}
    (member : site ∈ document.sites) : ∀ child ∈ site.children, child ∈ document.sites := by
  intro child among
  obtain ⟨node, inner, rfl⟩ := List.mem_map.mp among
  exact mem_sites_below member inner

theorem mem_sites_of_namedChildren {document : Document} {site : Site}
    (member : site ∈ document.sites) : ∀ child ∈ site.namedChildren, child ∈ document.sites := by
  intro child among
  obtain ⟨node, inner, rfl⟩ := List.mem_map.mp among
  exact mem_sites_below member (mem_children_of_namedChildren inner)

mutual

/-- What holds of a site and goes down to the children holds of all sites below. -/
theorem sitesBelow_induction {motive : Site → Prop} {ancestors : List Node}
    (child : ∀ site : Site, motive site → ∀ node ∈ site.node.children, motive (site.below node))
    (node : Node) (top : motive ⟨node, ancestors⟩) :
    ∀ site ∈ sitesBelow ancestors node, motive site := by
  obtain ⟨head, children⟩ := node
  intro site member
  rw [sitesBelow] at member
  rcases List.mem_cons.mp member with rfl | deeper
  · exact top
  · exact sitesBelowAll_induction child children (fun node among => child _ top node among) site
      deeper

theorem sitesBelowAll_induction {motive : Site → Prop} {ancestors : List Node}
    (child : ∀ site : Site, motive site → ∀ node ∈ site.node.children, motive (site.below node))
    (nodes : List Node) (each : ∀ node ∈ nodes, motive ⟨node, ancestors⟩) :
    ∀ site ∈ sitesBelowAll ancestors nodes, motive site := by
  cases nodes with
  | nil =>
      intro site member
      cases member
  | cons node nodes =>
      intro site member
      rw [sitesBelowAll] at member
      rcases List.mem_append.mp member with first | later
      · exact sitesBelow_induction child node (each node List.mem_cons_self) site first
      · exact sitesBelowAll_induction child nodes
          (fun other among => each other (List.mem_cons_of_mem _ among)) site later

end

/-- The ancestors that a listing starts from are ancestors of everything it lists. -/
theorem suffix_of_mem_sitesBelowAll (ancestors nodes : List Node) {site : Site}
    (member : site ∈ sitesBelowAll ancestors nodes) : ancestors <:+ site.ancestors := by
  refine sitesBelowAll_induction (motive := fun site => ancestors <:+ site.ancestors) ?_ nodes ?_
    site member
  · intro site above node _
    exact above.trans (List.suffix_cons site.node site.ancestors)
  · intro node _
    exact List.suffix_refl ancestors

/-- Below a leaf kind nothing is visible. -/
theorem filter_visible_of_leaf {document : Document} {node : Node} {ancestors nodes : List Node}
    (leaf : (⟨node, ancestors⟩ : Site).isLeaf document = true) :
    (sitesBelowAll (node :: ancestors) nodes).filter (Site.isVisible document) = [] := by
  rw [List.filter_eq_nil_iff]
  rintro ⟨below, above⟩ member visible
  have under := suffix_of_mem_sitesBelowAll _ nodes member
  have clear := Site.isVisible_iff.mp visible _ (Site.mem_ancestorSites_of_suffix under)
  exact absurd leaf (by simp [clear])

/-- So nothing is declared there. -/
theorem filter_declaring_of_leaf {document : Document} {node : Node} {ancestors nodes : List Node}
    (leaf : (⟨node, ancestors⟩ : Site).isLeaf document = true) :
    (sitesBelowAll (node :: ancestors) nodes).filter (Site.isDeclaring document) = [] := by
  have visible (site : Site) : Site.isDeclaring document site =
      ((site.kind? document).isSome && site.isVisible document) := Bool.and_comm _ _
  rw [funext visible, ← List.filter_filter, filter_visible_of_leaf leaf, List.filter_nil]

end Document

namespace Branch

mutual

/-- The nodes of the branches in document order. -/
def sites : Branch → List Site
  | ⟨site, _, offshoots⟩ => site :: sitesAll offshoots

def sitesAll : List Branch → List Site
  | [] => []
  | branch :: branches => sites branch ++ sitesAll branches

end

theorem sitesAll_append (first second : List Branch) :
    sitesAll (first ++ second) = sitesAll first ++ sitesAll second := by
  induction first with
  | nil => rfl
  | cons branch branches ih => simp only [List.cons_append, sitesAll, ih, List.append_assoc]

variable (document : Document) (resolver : Resolver)

mutual

/-- A branch below the classified node `above`: that node is the nearest one above it, its
chain is what its own node contributes, and nothing hangs below a leaf kind. -/
def Grown (above : Option Site) : Branch → Prop
  | ⟨site, chain, offshoots⟩ =>
    site.nearest? document = above ∧
      (∃ kind before after, site.kind? document = some kind ∧
        (site.contribution document resolver kind).Gives before chain after ∧
        (kind.isLeaf = true → offshoots = [])) ∧
      GrownAll (some site) offshoots

def GrownAll (above : Option Site) : List Branch → Prop
  | [] => True
  | branch :: branches => Grown above branch ∧ GrownAll above branches

end

variable {document resolver}

theorem grownAll_append {above : Option Site} {first second : List Branch}
    (left : GrownAll document resolver above first)
    (right : GrownAll document resolver above second) :
    GrownAll document resolver above (first ++ second) := by
  induction first with
  | nil => exact right
  | cons branch branches ih => exact ⟨left.1, ih left.2⟩

end Branch

variable {document : Document} {resolver : Resolver}

mutual

/-- The branches found in a tree are the classified nodes that a walk sees there. -/
theorem outline_sites {ancestors : List Node} {before after : Journal} {forest : List Branch}
    (node : Node) (visible : (⟨node, ancestors⟩ : Site).isVisible document = true)
    (given : (outline document resolver ancestors node).Gives before forest after) :
    Branch.sitesAll forest =
        (Document.sitesBelow ancestors node).filter (Site.isDeclaring document) ∧
      Branch.GrownAll document resolver (Site.nearestAmong document ancestors) forest := by
  obtain ⟨head, children⟩ := node
  rw [outline] at given
  obtain ⟨kind?, middle, classified, given⟩ := Recorded.gives_bind_iff.mp given
  have known := Site.kind?_eq_of_classify (Recorded.gives_ofExcept_iff.mp classified).1
  cases kind? with
  | none =>
      have inner : (⟨⟨head, children⟩, ancestors⟩ : Site).isLeaf document = false := by
        simp [Site.isLeaf, known]
      have found := outlineAll_sites children
        (fun child => Site.isVisible_below visible inner) given
      rw [Document.sitesBelow, List.filter_cons_of_neg (by simp [Site.isDeclaring, known])]
      rwa [Site.nearestAmong_of_unclassified known] at found
  | some kind =>
      obtain ⟨chain, later, contributed, given⟩ := Recorded.gives_bind_iff.mp given
      have leaf : (⟨⟨head, children⟩, ancestors⟩ : Site).isLeaf document = kind.isLeaf := by
        simp [Site.isLeaf, known]
      rw [Document.sitesBelow,
        List.filter_cons_of_pos (by simp [Site.isDeclaring, known, visible])]
      cases stops : kind.isLeaf with
      | true =>
          rw [stops, if_pos rfl] at given
          obtain ⟨rfl, -⟩ := Recorded.gives_pure_iff.mp given
          rw [Document.filter_declaring_of_leaf (leaf.trans stops)]
          exact ⟨rfl, ⟨rfl, ⟨kind, _, _, known, contributed, fun _ => rfl⟩, trivial⟩, trivial⟩
      | false =>
          rw [stops, if_neg Bool.false_ne_true] at given
          obtain ⟨offshoots, _, found, given⟩ := Recorded.gives_bind_iff.mp given
          obtain ⟨rfl, -⟩ := Recorded.gives_pure_iff.mp given
          obtain ⟨listed, grown⟩ := outlineAll_sites children
            (fun child => Site.isVisible_below visible (leaf.trans stops)) found
          rw [Site.nearestAmong_of_classified known] at grown
          refine ⟨?_, ⟨rfl, ⟨kind, _, _, known, contributed, ?_⟩, grown⟩, trivial⟩
          · simp only [Branch.sitesAll, Branch.sites, List.append_nil, listed]
          · exact fun isLeaf => absurd isLeaf (by simp [stops])

theorem outlineAll_sites {ancestors : List Node} {before after : Journal}
    {forest : List Branch} (nodes : List Node)
    (visible : ∀ node, (⟨node, ancestors⟩ : Site).isVisible document = true)
    (given : (outlineAll document resolver ancestors nodes).Gives before forest after) :
    Branch.sitesAll forest =
        (Document.sitesBelowAll ancestors nodes).filter (Site.isDeclaring document) ∧
      Branch.GrownAll document resolver (Site.nearestAmong document ancestors) forest := by
  cases nodes with
  | nil =>
      rw [outlineAll] at given
      obtain ⟨rfl, -⟩ := Recorded.gives_pure_iff.mp given
      exact ⟨rfl, trivial⟩
  | cons node nodes =>
      rw [outlineAll] at given
      obtain ⟨first, _, here, given⟩ := Recorded.gives_bind_iff.mp given
      obtain ⟨others, _, later, given⟩ := Recorded.gives_bind_iff.mp given
      obtain ⟨rfl, -⟩ := Recorded.gives_pure_iff.mp given
      obtain ⟨listed, grown⟩ := outline_sites node (visible node) here
      obtain ⟨listed', grown'⟩ := outlineAll_sites nodes visible later
      rw [Branch.sitesAll_append, Document.sitesBelowAll, List.filter_append, listed, listed']
      exact ⟨rfl, Branch.grownAll_append grown grown'⟩

end

end SourceOutline
