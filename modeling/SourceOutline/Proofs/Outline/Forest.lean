import SourceOutline.Proofs.Journal
import SourceOutline.Proofs.Model.Preorder
import SourceOutline.Proofs.Outline.Recursion

/-!
# The forest of classified nodes

A visit interleaves two things: it computes what every classified node contributes, and it
enters this into the registry. `outline` does the first alone. It returns a forest of
branches, one for each classified node that the visit reaches, with the branches of the
nodes below. A visit then is `outline` followed by planting the elements of the forest, so
what a registry looks like after a walk is a question about pure forests.
-/

namespace SourceOutline

/-- A classified node with the elements it contributes, outermost first, and the branches
that hang below the innermost of them. -/
structure Branch where
  site : Site
  chain : List Traits
  offshoots : List Branch

namespace Branch

mutual

/-- The element trees of a branch: the chain, with everything below inside its last link. -/
def elements : Branch → List Element
  | ⟨_, chain, below⟩ => Element.nest chain (elementsAll below)

def elementsAll : List Branch → List Element
  | [] => []
  | branch :: branches => elements branch ++ elementsAll branches

end

theorem elementsAll_append (first second : List Branch) :
    elementsAll (first ++ second) = elementsAll first ++ elementsAll second := by
  induction first with
  | nil => rfl
  | cons branch branches ih =>
      simp only [List.cons_append, elementsAll, ih, List.append_assoc]

end Branch

variable (document : Document) (resolver : Resolver)

mutual

/-- The branches found in a tree. -/
def outline (ancestors : List Node) : Node → Recorded (List Branch)
  | ⟨head, children⟩ => do
    let node : Node := ⟨head, children⟩
    let site : Site := ⟨node, ancestors⟩
    match ← Recorded.ofExcept (site.classify document) with
    | none => outlineAll (node :: ancestors) children
    | some kind =>
      let chain ← site.contribution document resolver kind
      if kind.isLeaf then pure [⟨site, chain, []⟩]
      else do
        let below ← outlineAll (node :: ancestors) children
        pure [⟨site, chain, below⟩]

def outlineAll (ancestors : List Node) : List Node → Recorded (List Branch)
  | [] => pure []
  | node :: nodes => do
    let first ← outline ancestors node
    let others ← outlineAll ancestors nodes
    pure (first ++ others)

end

mutual

/-- Visiting a tree is planting the elements of its outline. -/
theorem visit_eq_outline (ancestors : List Node) (owner : Nat) (registry : Registry)
    (node : Node) (bound : owner < registry.entries.size) :
    visit document resolver ancestors owner registry node =
      (fun forest => registry.plant owner (Branch.elementsAll forest)) <$>
        outline document resolver ancestors node := by
  obtain ⟨head, children⟩ := node
  rw [visit, outline, map_bind]
  apply bind_congr
  intro kind?
  cases kind? with
  | none => exact visitAll_eq_outlineAll _ owner registry children bound
  | some kind =>
      simp only [map_bind]
      apply bind_congr
      intro chain
      rw [registry.graft_eq_plant bound chain]
      change (if kind.isLeaf then _ else _) = _
      cases leaf : kind.isLeaf with
      | true => simp [Branch.elementsAll, Branch.elements]
      | false =>
          have inside : Registry.innermost owner registry.entries.size chain <
              (registry.plant owner (Element.nest chain [])).entries.size := by
            rw [Registry.size_plant, Element.sizeAll_nest]
            exact Registry.innermost_lt bound chain
          rw [if_neg Bool.false_ne_true, if_neg Bool.false_ne_true,
            visitAll_eq_outlineAll _ _ _ children inside]
          simp only [registry.plant_innermost bound, bind_pure_comp, Functor.map_map,
            Branch.elementsAll, Branch.elements, List.append_nil]

theorem visitAll_eq_outlineAll (ancestors : List Node) (owner : Nat) (registry : Registry)
    (nodes : List Node) (bound : owner < registry.entries.size) :
    visitAll document resolver ancestors owner registry nodes =
      (fun forest => registry.plant owner (Branch.elementsAll forest)) <$>
        outlineAll document resolver ancestors nodes := by
  cases nodes with
  | nil =>
      rw [visitAll, outlineAll, map_pure, Branch.elementsAll, registry.plant_nil]
  | cons node nodes =>
      rw [visitAll, outlineAll, visit_eq_outline ancestors owner registry node bound, map_bind,
        bind_map_left]
      apply bind_congr
      intro first
      rw [visitAll_eq_outlineAll ancestors owner _ nodes (by rw [Registry.size_plant]; omega)]
      simp only [map_bind, map_pure, registry.plant_plant bound, Branch.elementsAll_append]
      exact (bind_pure_comp _ _).symm

end

/-- Collecting outlines the tree and plants the outline under the root module. -/
theorem collect_eq_outline (path : String) :
    collect document path resolver = (do
      let forest ← outline document resolver [] document.root
      let elements := Branch.elementsAll forest
      Recorded.report (.structureCollected (rootModule path).name elements.length)
      return (Registry.rooted (rootModule path) elements, 0)) := by
  have planted := visit_eq_outline document resolver [] 0
    (({} : Registry).create (rootModule path) none).1 document.root Nat.one_pos
  simp only [collect, walk_site, Document.rootSite]
  change (do
    let grown ← visit document resolver [] 0 (({} : Registry).create (rootModule path) none).1
      document.root
    Recorded.report (.structureCollected (rootModule path).name (grown.childCount 0))
    pure (grown, 0)) = _
  rw [planted, bind_map_left]
  apply bind_congr
  intro forest
  simp only [← Registry.childCount_rooted (rootModule path), Registry.rooted]

end SourceOutline
