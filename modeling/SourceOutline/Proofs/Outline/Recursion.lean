import SourceOutline.Extraction

/-!
# The walk is the recursion

`walk` keeps the nodes that are still to be visited in an agenda, while `visit` recurses
over the tree: it classifies a node, attaches what the node contributes, and visits the
children in order under the element that is then in charge. An agenda in the middle of a run mixes nodes of different depths and owners,
so the two are compared on whole agendas: walking one visits its items in turn, every item
with its own owner. The comparison is an equation between computations and therefore covers
the registry, the journal and the failure alike.
-/

namespace SourceOutline

mutual

def visit (document : Document) (resolver : Resolver) (ancestors : List Node) (owner : Nat)
    (registry : Registry) : Node → Recorded Registry
  | ⟨head, children⟩ => do
    let node : Node := ⟨head, children⟩
    let site : Site := ⟨node, ancestors⟩
    match ← Recorded.ofExcept (site.classify document) with
    | none => visitAll document resolver (node :: ancestors) owner registry children
    | some kind =>
      let chain ← site.contribution document resolver kind
      let (grown, innermost) ← Recorded.ofExcept (registry.graft owner chain)
      if kind.isLeaf then pure grown
      else visitAll document resolver (node :: ancestors) innermost grown children

def visitAll (document : Document) (resolver : Resolver) (ancestors : List Node) (owner : Nat)
    (registry : Registry) : List Node → Recorded Registry
  | [] => pure registry
  | node :: nodes => do
    let grown ← visit document resolver ancestors owner registry node
    visitAll document resolver ancestors owner grown nodes

end

variable (document : Document) (resolver : Resolver)

namespace Agenda

/-- Visit the items of an agenda one after the other by recursion. -/
def visitItems (agenda : Agenda) (registry : Registry) : Recorded Registry :=
  agenda.foldlM (fun grown item =>
    visit document resolver item.1.ancestors item.2 grown item.1.node) registry

@[simp] theorem visitItems_nil (registry : Registry) :
    visitItems document resolver [] registry = pure registry := rfl

@[simp] theorem visitItems_cons (site : Site) (owner : Nat) (rest : Agenda)
    (registry : Registry) :
    visitItems document resolver ((site, owner) :: rest) registry =
      visit document resolver site.ancestors owner registry site.node >>=
        visitItems document resolver rest := by
  simp only [visitItems, List.foldlM_cons]
  rfl

theorem visitItems_append (first second : Agenda) (registry : Registry) :
    visitItems document resolver (first ++ second) registry =
      visitItems document resolver first registry >>= visitItems document resolver second := by
  simp only [visitItems, List.foldlM_append]
  rfl

/-- Siblings under one owner are what the recursion visits as a list. -/
theorem visitItems_siblings (above : Site) (owner : Nat) (nodes : List Node)
    (registry : Registry) :
    visitItems document resolver ((nodes.map above.below).map fun child => (child, owner))
        registry =
      visitAll document resolver (above.node :: above.ancestors) owner registry nodes := by
  induction nodes generalizing registry with
  | nil => simp [visitAll]
  | cons node nodes ih =>
      simp only [List.map_cons, visitItems_cons, visitAll]
      apply bind_congr
      intro grown
      exact ih grown

/-- What replaces an item on the agenda is visited like the children of its node. -/
theorem visitItems_extend (site : Site) (owner : Nat) (rest : Agenda) (registry : Registry) :
    visitItems document resolver (extend site owner rest) registry =
      visitAll document resolver (site.node :: site.ancestors) owner registry
          site.node.children >>= visitItems document resolver rest := by
  rw [extend, visitItems_append, Site.children, visitItems_siblings]

end Agenda

/-- The recursion at a site, with the node left whole. -/
theorem visit_site (site : Site) (owner : Nat) (registry : Registry) :
    visit document resolver site.ancestors owner registry site.node = (do
      match ← Recorded.ofExcept (site.classify document) with
      | none =>
        visitAll document resolver (site.node :: site.ancestors) owner registry
          site.node.children
      | some kind =>
        let chain ← site.contribution document resolver kind
        let (grown, innermost) ← Recorded.ofExcept (registry.graft owner chain)
        if kind.isLeaf then pure grown
        else
          visitAll document resolver (site.node :: site.ancestors) innermost grown
            site.node.children) := by
  obtain ⟨⟨head, children⟩, ancestors⟩ := site
  unfold visit
  rfl

/-- From any point of a run on, the walk does what visiting the remaining items in turn does. -/
theorem walk_eq_visitItems (agenda : Agenda) (registry : Registry) :
    walk document resolver agenda registry =
      Agenda.visitItems document resolver agenda registry := by
  induction agenda, registry using walk.induct with
  | case1 registry => rw [walk, Agenda.visitItems_nil]
  | case2 registry site owner rest unclassified leaf inner =>
      rw [walk, Agenda.visitItems_cons, visit_site, bind_assoc]
      apply bind_congr
      intro kind?
      cases kind? with
      | none =>
          simp only
          rw [unclassified, Agenda.visitItems_extend]
      | some kind =>
          simp only [bind_assoc]
          apply bind_congr
          intro chain
          apply bind_congr
          rintro ⟨grown, innermost⟩
          by_cases atLeaf : kind.isLeaf
          · simp only [atLeaf, if_true, pure_bind]
            exact leaf grown
          · simp only [atLeaf]
            rw [if_neg Bool.false_ne_true, if_neg Bool.false_ne_true,
              inner grown innermost, Agenda.visitItems_extend]

/-- A whole walk, whose agenda holds nothing but one site at first. -/
theorem walk_site (site : Site) (owner : Nat) (registry : Registry) :
    walk document resolver [(site, owner)] registry =
      visit document resolver site.ancestors owner registry site.node := by
  rw [walk_eq_visitItems, Agenda.visitItems_cons]
  exact bind_pure _

/-- Collect the outline of a tree by plain recursion under a fresh root module. -/
def collectRecursively (path : String) : Recorded (Registry × Nat) := do
  let traits := rootModule path
  let (registry, root) := Registry.create {} traits none
  let grown ← visit document resolver [] root registry document.root
  Recorded.report (.structureCollected traits.name (grown.childCount root))
  return (grown, root)

/-- Collecting with an agenda and collecting by recursion are the same computation: on every
journal they give the same elements under the same owners, ask for the same symbols and
record the same diagnostics in the same order, and stop at the same failure. -/
theorem collect_eq_collectRecursively (path : String) :
    collect document path resolver = collectRecursively document resolver path := by
  simp only [collect, collectRecursively, walk_site]
  rfl

end SourceOutline
