import SourceOutline.Outline.Contribution

/-!
# Walking a tree

The walk visits the nodes of a file in document order and attaches what each classified node
contributes to the element in charge. The nodes still to visit are kept in a list, each with
the element that owns what is found there, so deep trees need no deep recursion. The walk
ends because every step replaces a node by its children or drops it.
-/

namespace SourceOutline

/-- Nodes to visit, each with the element in charge. -/
abbrev Agenda : Type := List (Site × Nat)

namespace Agenda

/-- The number of nodes that are still to be visited. -/
def size (agenda : Agenda) : Nat := Node.sizeAll (agenda.map fun item => item.1.node)

/-- The children of a site under one element, in front of what is left. -/
def extend (site : Site) (owner : Nat) (rest : Agenda) : Agenda :=
  site.children.map (fun child => (child, owner)) ++ rest

theorem size_extend (site : Site) (owner : Nat) (rest : Agenda) :
    (extend site owner rest).size + 1 = size ((site, owner) :: rest) := by
  obtain ⟨⟨head, children⟩, ancestors⟩ := site
  have nodes : children.map (Site.node ∘ Site.below ⟨⟨head, children⟩, ancestors⟩) = children := by
    rw [show Site.node ∘ Site.below ⟨⟨head, children⟩, ancestors⟩ = id from rfl, List.map_id]
  simp only [extend, size, Site.children, List.map_append, List.map_map, Node.sizeAll_append,
    List.map_cons, Node.sizeAll, Node.size]
  have rearranged : (fun item : Site × Nat => item.1.node) ∘ (fun child => (child, owner)) ∘
      Site.below ⟨⟨head, children⟩, ancestors⟩ =
      Site.node ∘ Site.below ⟨⟨head, children⟩, ancestors⟩ := rfl
  rw [rearranged, nodes]
  omega

theorem size_extend_lt (site : Site) (owner owner' : Nat) (rest : Agenda) :
    (extend site owner' rest).size < size ((site, owner) :: rest) :=
  Nat.lt_of_succ_le (Nat.le_of_eq (size_extend site owner' rest))

theorem size_lt_cons (item : Site × Nat) (rest : Agenda) : rest.size < size (item :: rest) := by
  have := item.1.node.size_pos
  simp only [size, List.map_cons, Node.sizeAll]
  omega

end Agenda

/-- Visit the nodes of an agenda. Unclassified nodes hand their children to the same element,
leaf kinds hand on nothing, and other kinds hand them to the innermost element they
contribute. -/
def walk (document : Document) (resolver : Resolver) (agenda : Agenda) (registry : Registry) :
    Recorded Registry :=
  match agenda with
  | [] => pure registry
  | (site, owner) :: rest => do
    match ← Recorded.ofExcept (site.classify document) with
    | none => walk document resolver (Agenda.extend site owner rest) registry
    | some kind =>
      let chain ← site.contribution document resolver kind
      let (grown, innermost) ← Recorded.ofExcept (registry.graft owner chain)
      if kind.isLeaf then walk document resolver rest grown
      else walk document resolver (Agenda.extend site innermost rest) grown
  termination_by agenda.size
  decreasing_by
  · exact Agenda.size_extend_lt site owner owner rest
  · exact Agenda.size_lt_cons (site, owner) rest
  · exact Agenda.size_extend_lt site owner innermost rest

end SourceOutline
