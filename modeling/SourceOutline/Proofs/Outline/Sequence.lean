import SourceOutline.Proofs.Outline.Visibility

/-!
# One node after the other

At a node a walk classifies it and, if it is classified, works out what it contributes; then it
goes on. `inspect` is the first part, on its own. An outline does at the visible nodes what
`inspect` does, one node after the other in document order, and nothing else: it fails where
the first of them fails, and what it notes are their notes in a row. Which elements are made
plays no part here, so statements about failures and about the journal of a whole walk become
statements about single nodes.

In particular a file can be collected exactly if every visible node can be classified and, where
it is classified, built; and if not, the failure is that of the first node for which this is not
so.
-/

namespace SourceOutline

namespace Site

variable (document : Document) (resolver : Resolver)

/-- What a walk does at a node before it goes on. -/
def inspect (site : Site) : Recorded Unit := do
  match ← Recorded.ofExcept (site.classify document) with
  | none => pure ()
  | some kind => (fun _ => ()) <$> site.contribution document resolver kind

/-- Why a walk fails at a node: it cannot be classified, or it is classified and what it
contributes cannot be built. -/
def failure? (site : Site) : Option Failure :=
  match site.classify document with
  | .error failure => some failure
  | .ok none => none
  | .ok (some kind) => (site.contribution document resolver kind).failure?

/-- A node can be classified and, where it is classified, built. -/
def IsBuildable (site : Site) : Prop :=
  ∃ kind?, site.classify document = .ok kind? ∧
    ∀ kind ∈ kind?, (site.contribution document resolver kind).Succeeds

theorem additive_inspect (site : Site) : (site.inspect document resolver).Additive := by
  refine (Recorded.additive_ofExcept _).bind fun kind? => ?_
  cases kind? with
  | none => exact Recorded.additive_pure _
  | some kind => exact (site.additive_contribution document resolver kind).map _

variable {document resolver} {site : Site}

theorem inspect_of_error {failure : Failure} (failed : site.classify document = .error failure) :
    site.inspect document resolver = Recorded.ofExcept (.error failure) := by
  rw [inspect, failed]
  rfl

theorem inspect_of_unclassified (unclassified : site.classify document = .ok none) :
    site.inspect document resolver = pure () := by
  rw [inspect, unclassified]
  rfl

theorem inspect_of_classified {kind : DeclarationKind}
    (classified : site.classify document = .ok (some kind)) :
    site.inspect document resolver =
      (fun _ => ()) <$> site.contribution document resolver kind := by
  rw [inspect, classified]
  rfl

theorem failure?_inspect :
    (site.inspect document resolver).failure? = site.failure? document resolver := by
  cases classified : site.classify document with
  | error failure =>
      rw [inspect_of_error classified, failure?, classified]
      rfl
  | ok kind? =>
      cases kind? with
      | none =>
          rw [inspect_of_unclassified classified, failure?, classified]
          rfl
      | some kind =>
          rw [inspect_of_classified classified, failure?, classified, Recorded.failure?_map]

theorem failure?_eq_none_iff :
    site.failure? document resolver = none ↔ site.IsBuildable document resolver := by
  rw [failure?, IsBuildable]
  cases site.classify document with
  | error failure => simp
  | ok kind? =>
      cases kind? with
      | none => simp
      | some kind =>
          have uniform := (site.additive_contribution document resolver kind).uniform
          simp only [Except.ok.injEq, exists_eq_left', Option.mem_def, Option.some.injEq,
            forall_eq', Recorded.Succeeds, uniform.gives_iff, forall_const]

end Site

namespace Document

/-- The nodes that a walk sees, in document order. -/
def visibleSites (document : Document) : List Site :=
  document.sites.filter (Site.isVisible document)

end Document

variable {document : Document} {resolver : Resolver}

mutual

/-- Outlining a tree inspects its visible nodes in turn. -/
theorem outline_inspects {ancestors : List Node} (node : Node)
    (visible : (⟨node, ancestors⟩ : Site).isVisible document = true) :
    (fun _ => ()) <$> outline document resolver ancestors node =
      forM ((Document.sitesBelow ancestors node).filter (Site.isVisible document))
        (Site.inspect document resolver) := by
  obtain ⟨head, children⟩ := node
  rw [Document.sitesBelow, List.filter_cons_of_pos visible, List.forM_cons, outline]
  -- Once a node cannot be classified, neither side goes on.
  cases classified : (⟨⟨head, children⟩, ancestors⟩ : Site).classify document with
  | error failure =>
      rw [Site.inspect_of_error classified]
      rfl
  | ok kind? =>
      have known := Site.kind?_eq_of_classify classified
      cases kind? with
      | none =>
          have inner : (⟨⟨head, children⟩, ancestors⟩ : Site).isLeaf document = false := by
            simp [Site.isLeaf, known]
          rw [Site.inspect_of_unclassified classified, pure_bind,
            ← outlineAll_inspects children fun child => Site.isVisible_below visible inner]
          rfl
      | some kind =>
          have leaf : (⟨⟨head, children⟩, ancestors⟩ : Site).isLeaf document = kind.isLeaf := by
            simp [Site.isLeaf, known]
          rw [Site.inspect_of_classified classified, bind_map_left]
          change (fun _ => ()) <$> (Site.contribution document resolver kind _ >>= _) = _
          rw [map_bind]
          apply bind_congr
          intro chain
          cases stops : kind.isLeaf with
          | true =>
              rw [Document.filter_visible_of_leaf (leaf.trans stops), List.forM_nil, if_pos rfl,
                map_pure]
          | false =>
              rw [if_neg Bool.false_ne_true, map_bind, ← outlineAll_inspects children
                fun child => Site.isVisible_below visible (leaf.trans stops)]
              simp only [map_pure, bind_pure_comp]

theorem outlineAll_inspects {ancestors : List Node} (nodes : List Node)
    (visible : ∀ node, (⟨node, ancestors⟩ : Site).isVisible document = true) :
    (fun _ => ()) <$> outlineAll document resolver ancestors nodes =
      forM ((Document.sitesBelowAll ancestors nodes).filter (Site.isVisible document))
        (Site.inspect document resolver) := by
  cases nodes with
  | nil =>
      rw [outlineAll, Document.sitesBelowAll, List.filter_nil, List.forM_nil, map_pure]
  | cons node nodes =>
      rw [outlineAll, Document.sitesBelowAll, List.filter_append, List.forM_append,
        ← outline_inspects node (visible node), ← outlineAll_inspects nodes visible, bind_map_left,
        map_bind]
      apply bind_congr
      intro first
      simp only [bind_pure_comp, Functor.map_map]

end

/-- What an outline of a whole tree does to the journal, and whether it fails. -/
theorem outline_root_inspects (document : Document) (resolver : Resolver) :
    (fun _ => ()) <$> outline document resolver [] document.root =
      forM document.visibleSites (Site.inspect document resolver) :=
  outline_inspects document.root rfl

theorem uniform_outline (document : Document) (resolver : Resolver) :
    (outline document resolver [] document.root).Uniform := by
  rw [Recorded.Uniform, outline_root_inspects]
  exact Recorded.additive_forM (Site.additive_inspect document resolver) _

/-- An outline fails where the first visible node fails. -/
theorem failure?_outline (document : Document) (resolver : Resolver) :
    (outline document resolver [] document.root).failure? =
      document.visibleSites.findSome? (Site.failure? document resolver) := by
  rw [← Recorded.failure?_map fun _ => (), outline_root_inspects,
    Recorded.failure?_forM (Site.additive_inspect document resolver)]
  exact congrArg (List.findSome? · document.visibleSites) (funext fun _ => Site.failure?_inspect)

theorem outline_gives_iff (before : Journal) :
    (∃ forest after, (outline document resolver [] document.root).Gives before forest after) ↔
      ∀ site ∈ document.visibleSites, site.IsBuildable document resolver := by
  rw [(uniform_outline document resolver).gives_iff before, failure?_outline,
    List.findSome?_eq_none_iff]
  simp only [Site.failure?_eq_none_iff]

/-- What a collection does besides outlining never fails. -/
theorem collect_gives_iff (path : String) (before : Journal) :
    (∃ collected after, (collect document path resolver).Gives before collected after) ↔
      ∀ site ∈ document.visibleSites, site.IsBuildable document resolver := by
  rw [← outline_gives_iff before, collect_eq_outline]
  constructor
  · rintro ⟨collected, after, given⟩
    obtain ⟨forest, middle, outlined, -⟩ := Recorded.gives_bind_iff.mp given
    exact ⟨forest, middle, outlined⟩
  · rintro ⟨forest, middle, outlined⟩
    exact ⟨_, _, Recorded.gives_bind_iff.mpr ⟨forest, middle, outlined, rfl⟩⟩

theorem collect_error_iff (path : String) (before : Journal) {failure : Failure} :
    ((collect document path resolver).runFrom before).1 = .error failure ↔
      document.visibleSites.findSome? (Site.failure? document resolver) = some failure := by
  rw [← failure?_outline, ← (uniform_outline document resolver).error_iff before,
    collect_eq_outline, Recorded.runFrom_bind]
  rcases (outline document resolver [] document.root).runFrom before with ⟨_ | forest, middle⟩
  · simp
  · exact ⟨nofun, nofun⟩

end SourceOutline
