import SourceOutline.Proofs.Extraction
import SourceOutline.Proofs.Outline.Sequence
import SourceOutline.Proofs.Parallel

/-!
# Two walks side by side

Two walks over related trees, or with different resolvers, are compared node by node. At each
node both classify alike, contribute related chains and go on to the children, unless the kind is
a leaf. A relation of forests that respects this construction then holds of the two outlines, and
from outlines it is carried to the collected modules and to whole extractions.
-/

namespace SourceOutline

/-- A relation of forests that can be proved branch by branch, where `chained` relates the
elements that two nodes contribute. -/
structure Branch.Congruence (chained : List Traits → List Traits → Prop)
    (related : List Branch → List Branch → Prop) : Prop where
  nil : related [] []
  append {first first' second second' : List Branch} :
    related first first' → related second second' → related (first ++ second) (first' ++ second')
  branch {site site' : Site} {chain chain' : List Traits} {below below' : List Branch} :
    chained chain chain' → related below below' →
      related [⟨site, chain, below⟩] [⟨site', chain', below'⟩]

/-- The outline at a site, with the node left whole. -/
theorem outline_site (document : Document) (resolver : Resolver) (site : Site) :
    outline document resolver site.ancestors site.node = (do
      match ← Recorded.ofExcept (site.classify document) with
      | none => outlineAll document resolver (site.node :: site.ancestors) site.node.children
      | some kind =>
        let chain ← site.contribution document resolver kind
        if kind.isLeaf then pure [⟨site, chain, []⟩]
        else do
          let below ← outlineAll document resolver (site.node :: site.ancestors)
            site.node.children
          pure [⟨site, chain, below⟩]) := by
  obtain ⟨⟨head, children⟩, ancestors⟩ := site
  exact outline.eq_1 document resolver ancestors head children

variable {document document' : Document} {resolver resolver' : Resolver}

section

variable {linked : Journal → Journal → Prop} {chained : List Traits → List Traits → Prop}
  {related : List Branch → List Branch → Prop} (congruence : Branch.Congruence chained related)

include congruence

theorem outlineAll_coupled {ancestors ancestors' nodes nodes' : List Node}
    (each : List.Forall₂ (fun node node' => Recorded.Coupled linked related
      (outline document resolver ancestors node) (outline document' resolver' ancestors' node'))
      nodes nodes') :
    Recorded.Coupled linked related (outlineAll document resolver ancestors nodes)
      (outlineAll document' resolver' ancestors' nodes') := by
  induction each with
  | nil =>
      rw [outlineAll, outlineAll]
      exact Recorded.coupled_pure congruence.nil
  | cons first _ ih =>
      rw [outlineAll, outlineAll]
      refine first.bind fun _ _ here => ih.bind fun _ _ later => Recorded.coupled_pure ?_
      exact congruence.append here later

/-- One step: both nodes are classified alike, contribute related chains and, unless they are
leaves, have related outlines below. -/
theorem outline_coupled (site site' : Site)
    (classified : site.classify document = site'.classify document')
    (contributes : ∀ kind, site.classify document = .ok (some kind) →
      Recorded.Coupled linked chained (site.contribution document resolver kind)
        (site'.contribution document' resolver' kind))
    (deeper : site.isLeaf document = false → Recorded.Coupled linked related
      (outlineAll document resolver (site.node :: site.ancestors) site.node.children)
      (outlineAll document' resolver' (site'.node :: site'.ancestors) site'.node.children)) :
    Recorded.Coupled linked related (outline document resolver site.ancestors site.node)
      (outline document' resolver' site'.ancestors site'.node) := by
  rw [outline_site document resolver site, outline_site document' resolver' site', ← classified]
  cases known : site.classify document with
  | error failure => exact fun _ _ same => ⟨.error failure, same⟩
  | ok kind? =>
      have kind?_eq := Site.kind?_eq_of_classify known
      cases kind? with
      | none => exact deeper (by simp [Site.isLeaf, kind?_eq])
      | some kind =>
          refine (contributes kind known).bind fun chain chain' alike => ?_
          cases leaf : kind.isLeaf with
          | true => exact Recorded.coupled_pure (congruence.branch alike congruence.nil)
          | false =>
              have inner : site.isLeaf document = false := by simp [Site.isLeaf, kind?_eq, leaf]
              exact (deeper inner).bind fun below below' same =>
                Recorded.coupled_pure (congruence.branch alike same)

end

/-- Forests with the same elements. -/
def SameElements (forest forest' : List Branch) : Prop :=
  Branch.elementsAll forest = Branch.elementsAll forest'

theorem congruence_sameElements : Branch.Congruence Eq SameElements := by
  constructor
  case nil => rfl
  case append =>
    intro first first' second second' here later
    rw [SameElements, Branch.elementsAll_append, Branch.elementsAll_append, here, later]
  case branch =>
    intro site site' chain chain' below below' equal same
    simp only [SameElements, Branch.elementsAll, Branch.elements, List.append_nil]
    rw [equal, show Branch.elementsAll below = _ from same]

/-- Parallel outlines make parallel extractions. -/
theorem extract_parallel_of_outline {path : String} {related : Scopes → Scopes → Prop}
    (bound : Agree related (Scopes.bind document (some (modulePath path).text))
      (Scopes.bind document' (some (modulePath path).text)))
    (outlined : ∀ scopes scopes', related scopes scopes' → Recorded.Parallel SameElements
      (outline document (scopes.resolver document) [] document.root)
      (outline document' (scopes'.resolver document') [] document'.root)) :
    Recorded.Parallel (fun extraction extraction' => extraction.module = extraction'.module ∧
      extraction.diagnostics = extraction'.diagnostics) (extract document path)
      (extract document' path) := by
  have scopesBound : Recorded.Parallel related (bindScopes document (some (modulePath path).text))
      (bindScopes document' (some (modulePath path).text)) := by
    refine (Recorded.parallel_ofExcept bound).bind fun scopes scopes' both => ?_
    exact (Recorded.parallel_report _ _).bind fun _ _ _ => Recorded.parallel_pure both
  have errors : Recorded.Parallel Eq (reportErrors document path)
      (reportErrors document' path) := by
    unfold reportErrors
    split <;> split <;> exact fun _ _ same => ⟨.ok rfl, same⟩
  have collected (scopes scopes' : Scopes) (both : related scopes scopes') :
      Recorded.Parallel
        (fun collected collected' => collected.1.view collected.2 = collected'.1.view collected'.2)
        (collect document path (scopes.resolver document))
        (collect document' path (scopes'.resolver document')) := by
    rw [collect_eq_outline, collect_eq_outline]
    refine (outlined scopes scopes' both).bind fun forest forest' same => ?_
    refine (Recorded.parallel_report _ _).bind fun _ _ _ => Recorded.parallel_pure ?_
    rw [Registry.view_rooted, Registry.view_rooted, same]
  rw [extract_eq, extract_eq]
  refine scopesBound.bind fun scopes scopes' both => ?_
  refine errors.bind fun _ _ _ => ?_
  refine (collected scopes scopes' both).bind fun _ _ module => ?_
  refine Recorded.parallel_get.bind fun journal journal' diagnostics => ?_
  exact Recorded.parallel_pure ⟨module, diagnostics⟩

end SourceOutline
