import SourceOutline.Proofs.Outline.Coupling
import SourceOutline.Proofs.Scope.Place

/-!
# Contributions at corresponding places

Tied places at which the same is read contribute the same elements. What is read at the node
itself is the same on both sides, and the base of a class is the same because its expression is at
tied places as well: it has the same name, or it is unknown and the same warning is recorded.
-/

namespace SourceOutline

variable {document document' : Document} {scopes scopes' : Scopes}

namespace Site

theorem inClassBody_eq_parent (site : Site) :
    site.inClassBody = (site.ancestors.head?.map Node.type).any (· == "class_body") := by
  rw [inClassBody]
  cases site.ancestors <;> rfl

namespace Resembles

variable {site site' : Site}

theorem inClassBody_eq (resembles : Resembles document document' site site') :
    site.inClassBody = site'.inClassBody := by
  rw [inClassBody_eq_parent, inClassBody_eq_parent, resembles.above.parent]

theorem methodKind_eq (resembles : Resembles document document' site site') :
    site.methodKind document = site'.methodKind document' := by
  rw [methodKind, methodKind, text?_eq_of_rel resembles.content (resembles.child? "name"),
    resembles.hasChildOfType_eq (by decide), resembles.hasChildOfType_eq (by decide)]

theorem classify_eq (resembles : Resembles document document' site site') :
    site.classify document = site'.classify document' := by
  rw [classify, classify, resembles.type_eq, resembles.hasChildOfType_eq (by decide),
    resembles.inClassBody_eq, resembles.methodKind_eq]

theorem requiredField_agree (resembles : Resembles document document' site site')
    (field : String) :
    Agree Node.Matches (site.requiredField document field)
      (site'.requiredField document' field) := by
  rw [requiredField, requiredField, resembles.type_eq,
    position_eq_of_matches resembles.content resembles.head]
  obtain ⟨missing, missing'⟩ | ⟨child, child', found, found', alike⟩ :=
    Option.rel_cases (resembles.child? field)
  · rw [missing, missing']
    exact .error _
  · rw [found, found']
    exact .ok alike

theorem declaredName_eq (resembles : Resembles document document' site site') :
    site.declaredName document = site'.declaredName document' := by
  refine (resembles.requiredField_agree "name").bind_eq fun name name' alike => ?_
  rw [text_eq_of_matches resembles.content alike, alike.type_eq]

theorem moduleNames_eq (resembles : Resembles document document' site site') :
    site.moduleNames document = site'.moduleNames document' := by
  refine (resembles.requiredField_agree "name").bind_eq fun name name' alike => ?_
  rw [text_eq_of_matches resembles.content alike, alike.type_eq]

theorem moduleChain_eq (resembles : Resembles document document' site site') :
    site.moduleChain document = site'.moduleChain document' := by
  rw [moduleChain, moduleChain, resembles.moduleNames_eq, resembles.visibility_eq]

theorem importAlias_eq (resembles : Resembles document document' site site')
    (known : site.type = "import_alias" ∨ site.type = "import_statement") :
    site.importAlias document = site'.importAlias document' := by
  rw [importAlias, importAlias, ← resembles.type_eq]
  dsimp only [bind, Except.bind]
  split
  · next statement =>
    have deep : isDeepType site.type = true := by
      rw [beq_iff_eq.mp statement]
      decide
    have clauses := Node.rel_namedOfType (fun _ _ like => like.alike) (resembles.inside deep)
      (show "import_require_clause" ≠ "comment" by decide)
    obtain ⟨missing, missing'⟩ | ⟨clause, clause', found, found', like⟩ := Option.rel_cases clauses
    · rw [missing, missing']
    · have tested := List.find?_some found
      have type : (site.below clause).type = "import_require_clause" := beq_iff_eq.mp tested
      have named : List.Forall₂ Node.Matches clause.namedChildren clause'.namedChildren :=
        (resembles.child like type (by decide)).namedChildren type (by decide)
      rw [found, found']
      dsimp only
      generalize clause.namedChildren = nodes at named ⊢
      generalize clause'.namedChildren = nodes' at named ⊢
      cases named with
      | nil => rfl
      | cons alike _ => exact text_eq_of_matches resembles.content alike
  · next other =>
    have type := known.resolve_right fun statement => other (beq_iff_eq.mpr statement)
    have named := resembles.namedChildren type (by decide)
    generalize site.node.namedChildren = nodes at named ⊢
    generalize site'.node.namedChildren = nodes' at named ⊢
    cases named with
    | nil => rfl
    | cons alike _ => exact text_eq_of_matches resembles.content alike

end Resembles

end Site

/-- Types that read the same have the same name. -/
theorem typeName_eq (content : document.content = document'.content) {node node' : Node}
    (like : node.Like node') :
    TypeName.ofType document node = TypeName.ofType document' node' := by
  have matching (child child' : Node) (like : child.Like child') : child.Matches child' :=
    like.alike
  unfold TypeName.ofType
  rw [← like.alike.type_eq, like.alike.kindId_eq, text_eq_of_matches content like.alike]
  split
  · rfl
  · rfl
  · next type =>
    have named := Node.rel_namedChildren matching (like.inside (by rw [type]; decide))
      like.alike.type_eq (by rw [type]; decide)
    generalize node.namedChildren = nodes at named ⊢
    generalize node'.namedChildren = nodes' at named ⊢
    cases named with
    | nil => rfl
    | cons first _ => simp only [text_eq_of_matches content first.alike]
  · rfl
  · rfl
  · next type =>
    have heads := (like.inside (by rw [type]; decide)).imp matching
    rw [text?_eq_of_rel content
      (Node.rel_child? (fun _ _ alike => alike) .substance .substance heads "name")]
  · rfl

theorem render_eq (content : document.content = document'.content) {node? node?' : Option Node}
    (both : Option.Rel Node.Like node? node?') :
    TypeName.render document node? = TypeName.render document' node?' := by
  have annotated : Option.Rel Node.Like (node?.bind TypeName.annotated?)
      (node?'.bind TypeName.annotated?) := by
    cases both with
    | none => exact .none
    | @some node node' like =>
        change Option.Rel _ (TypeName.annotated? node) (TypeName.annotated? node')
        rw [TypeName.annotated?, TypeName.annotated?, ← like.alike.type_eq]
        by_cases marked : node.type = "type_annotation"
        · rw [if_pos (beq_iff_eq.mpr marked), if_pos (beq_iff_eq.mpr marked)]
          exact List.rel_head? (Node.rel_namedChildren (fun _ _ like => like.alike)
            (like.inside (by rw [marked]; decide)) like.alike.type_eq (by rw [marked]; decide))
        · rw [if_neg (by rwa [beq_iff_eq]), if_neg (by rwa [beq_iff_eq])]
          exact .some like
  rw [TypeName.render, TypeName.render]
  obtain ⟨missing, missing'⟩ | ⟨node, node', found, found', like⟩ := Option.rel_cases annotated
  · rw [missing, missing']
  · rw [found, found']
    exact typeName_eq content like

namespace Site.Resembles

variable {site site' : Site}

theorem propertyTraits_eq (resembles : Resembles document document' site site')
    {typeField : String} (typed : typeField ∈ ["type", "return_type"])
    (hasGetter hasSetter : Bool) :
    site.propertyTraits document typeField hasGetter hasSetter =
      site'.propertyTraits document' typeField hasGetter hasSetter := by
  rw [propertyTraits, propertyTraits, resembles.declaredName_eq, resembles.visibility_eq,
    resembles.lifetime_eq, render_eq resembles.content (resembles.typed typeField typed)]

theorem methodTraits_eq (resembles : Resembles document document' site site') :
    site.methodTraits document = site'.methodTraits document' := by
  rw [methodTraits, methodTraits, resembles.declaredName_eq, resembles.visibility_eq,
    resembles.lifetime_eq, resembles.isAbstract_eq]

theorem importSource_eq (resembles : Resembles document document' site site') :
    (do
      let source ← site.requiredField document "source"
      return importTraits (Text.unquote (← document.text source))) = do
      let source ← site'.requiredField document' "source"
      return importTraits (Text.unquote (← document'.text source)) := by
  refine (resembles.requiredField_agree "source").bind_eq fun source source' alike => ?_
  rw [text_eq_of_matches resembles.content alike]

end Site.Resembles

namespace Tied

variable {site site' : Site}

/-- Places of expressions that read the same. -/
def Expression (document document' : Document) (scopes scopes' : Scopes) (site site' : Site) :
    Prop :=
  Tied document document' scopes scopes' site site' ∧ site.node.Like site'.node

section

variable (paired : Paired document document' scopes scopes')
  (tied : Tied document document' scopes scopes' site site')
  (below : List.Forall₂ Node.Like site.node.substance site'.node.substance)

include paired tied below

theorem expressions : List.Forall₂ (fun child child' =>
      Expression document document' scopes scopes' (site.below child) (site'.below child'))
    site.node.substance site'.node.substance :=
  tied.nodes (fun _ _ like => like.alike) paired .substance .substance below

theorem child? (field : String) :
    Option.Rel (Expression document document' scopes scopes') (site.child? field)
      (site'.child? field) := by
  have nodes := tied.expressions paired below
  exact Option.rel_map (Node.rel_child? (fun _ _ both => both.2.alike) .substance .substance nodes
    field) fun _ _ both => both

theorem namedChildren {type : String} (known : site.type = type)
    (ordered : isOrderedType type = true) :
    List.Forall₂ (Expression document document' scopes scopes') site.namedChildren
      site'.namedChildren := by
  have nodes := tied.expressions paired below
  subst known
  rw [Site.namedChildren, Site.namedChildren, List.forall₂_map_left_iff,
    List.forall₂_map_right_iff]
  exact Node.rel_namedChildren (fun _ _ both => both.2.alike) nodes tied.type_eq ordered

theorem childrenOfType {type : String} (spoken : type ≠ "comment") :
    List.Forall₂ (fun child child' => Expression document document' scopes scopes' child child' ∧
        child.type = type)
      (site.children.filter fun child => child.type == type)
      (site'.children.filter fun child => child.type == type) := by
  have each : List.Forall₂ (Expression document document' scopes scopes')
      (site.children.filter fun child => child.type == type)
      (site'.children.filter fun child => child.type == type) := by
    rw [Site.children, Site.children, List.filter_map, List.filter_map,
      List.forall₂_map_left_iff, List.forall₂_map_right_iff]
    exact Node.rel_ofType (fun _ _ both => both.2.alike) (tied.expressions paired below) spoken
  refine (List.forall₂_mem each).imp fun child child' found => ⟨found.2, ?_⟩
  exact beq_iff_eq.mp (List.mem_filter.mp found.1).2

/-- The base of a class is written at tied places. -/
theorem extendsExpression? :
    Option.Rel (Expression document document' scopes scopes') site.extendsExpression?
      site'.extendsExpression? := by
  have clauses := List.rel_flatMap
    (tied.childrenOfType paired below (show "class_heritage" ≠ "comment" by decide))
    fun heritage heritage' ⟨⟨deeper, like⟩, type⟩ => deeper.childrenOfType paired
      (like.inside (by rw [show heritage.node.type = _ from type]; decide))
      (show "extends_clause" ≠ "comment" by decide)
  rw [Site.extendsExpression?, Site.extendsExpression?]
  obtain ⟨missing, missing'⟩ | ⟨clause, clause', found, found', ⟨deeper, like⟩, type⟩ :=
    Option.rel_cases (List.rel_head? clauses)
  · simp only [missing, missing']
    exact .none
  · have inner := like.inside (by rw [show clause.node.type = _ from type]; decide)
    simp only [found, found']
    exact Option.rel_or (deeper.child? paired inner "value")
      (List.rel_head? (deeper.namedChildren paired inner type (by decide)))

end

section

variable (paired : Paired document document' scopes scopes')

include paired

/-- A base has the same name, or is unknown with the same warning. -/
theorem baseName_parallel (tied : Tied document document' scopes scopes' site site')
    (like : site.node.Like site'.node) :
    Recorded.Parallel Eq (site.baseName document (scopes.resolver document))
      (site'.baseName document' (scopes'.resolver document')) := by
  refine (Recorded.parallel_noteLookup _ _).bind fun _ _ _ => ?_
  refine (Recorded.parallel_ofExcept (tied.symbolAt_agree paired site like)).bind ?_
  intro symbol? symbol?' both
  cases both with
  | some twin => exact Recorded.parallel_pure (paired.kin.ofResolved twin)
  | none =>
      rw [text_eq_of_matches paired.content tied.head,
        position_eq_of_matches paired.content tied.head]
      refine (Recorded.parallel_ofExcept (Agree.refl _)).bind fun text _ same => ?_
      subst same
      exact (Recorded.parallel_diagnose _).bind fun _ _ _ => Recorded.parallel_pure rfl

theorem classTraits_parallel (tied : Tied document document' scopes scopes' site site')
    (resembles : Site.Resembles document document' site site')
    (isClass : isClassType site.type = true) :
    Recorded.Parallel Eq (site.classTraits document (scopes.resolver document))
      (site'.classTraits document' (scopes'.resolver document')) := by
  have below := resembles.inside (by simp [isDeepType, isClass])
  rw [Site.classTraits, Site.classTraits, resembles.visibility_eq, resembles.isAbstract_eq]
  refine (Recorded.parallel_ofExcept (resembles.requiredField_agree "name")).bind ?_
  intro node node' alike
  rw [text_eq_of_matches paired.content alike]
  refine (Recorded.parallel_ofExcept (Agree.refl _)).bind fun name _ same => ?_
  refine (Recorded.parallel_ofExcept (Agree.refl _)).bind fun visibility _ same' => ?_
  refine (Recorded.parallel_ofExcept (Agree.refl _)).bind fun isAbstract _ same'' => ?_
  subst same same' same''
  obtain ⟨missing, missing'⟩ | ⟨base, base', found, found', deeper, like⟩ :=
    Option.rel_cases (tied.extendsExpression? paired below)
  · rw [missing, missing']
    exact Recorded.parallel_pure rfl
  · rw [found, found']
    have named : Recorded.Parallel Eq
        (some <$> base.baseName document (scopes.resolver document))
        (some <$> base'.baseName document' (scopes'.resolver document')) :=
      (deeper.baseName_parallel paired like).map fun _ _ same => congrArg some same
    exact named.bind fun base _ same => Recorded.parallel_pure (same ▸ rfl)

/-- Tied places at which the same is read contribute the same. -/
theorem contribution_parallel (tied : Tied document document' scopes scopes' site site')
    (resembles : Site.Resembles document document' site site') {kind : DeclarationKind}
    (classified : site.classify document = .ok (some kind)) :
    Recorded.Parallel Eq (site.contribution document (scopes.resolver document) kind)
      (site'.contribution document' (scopes'.resolver document') kind) := by
  cases kind with
  | classLike =>
      have isClass := Site.fits_of_classify classified
      refine (tied.classTraits_parallel paired resembles isClass).bind fun traits _ same => ?_
      exact Recorded.parallel_pure (same ▸ rfl)
  | nested =>
      simp only [Site.contribution, resembles.moduleChain_eq]
      exact Recorded.parallel_ofExcept (Agree.refl _)
  | importEquals =>
      have known := (Site.fits_of_classify classified).imp_right And.left
      simp only [Site.contribution, resembles.importAlias_eq known]
      exact Recorded.parallel_ofExcept (Agree.refl _)
  | importFrom =>
      simp only [Site.contribution, resembles.importSource_eq]
      exact Recorded.parallel_ofExcept (Agree.refl _)
  | property =>
      have typed : "type" ∈ ["type", "return_type"] := List.mem_cons_self
      simp only [Site.contribution, resembles.propertyTraits_eq typed]
      exact Recorded.parallel_ofExcept (Agree.refl _)
  | getter | setter =>
      have typed : "return_type" ∈ ["type", "return_type"] := List.mem_cons_of_mem _ (.head _)
      simp only [Site.contribution, resembles.propertyTraits_eq typed]
      exact Recorded.parallel_ofExcept (Agree.refl _)
  | method | function =>
      simp only [Site.contribution, resembles.methodTraits_eq]
      exact Recorded.parallel_ofExcept (Agree.refl _)

/-- One step of two walks at tied places. Leaves are not entered. -/
theorem outline_parallel (tied : Tied document document' scopes scopes' site site')
    (resembles : Site.Resembles document document' site site')
    (deeper : site.isLeaf document = false → Recorded.Parallel SameElements
      (outlineAll document (scopes.resolver document) (site.node :: site.ancestors)
        site.node.children)
      (outlineAll document' (scopes'.resolver document') (site'.node :: site'.ancestors)
        site'.node.children)) :
    Recorded.Parallel SameElements
      (outline document (scopes.resolver document) site.ancestors site.node)
      (outline document' (scopes'.resolver document') site'.ancestors site'.node) := by
  refine outline_coupled congruence_sameElements site site' resembles.classify_eq ?_ deeper
  intro kind classified
  exact tied.contribution_parallel paired resembles classified

end

end Tied

end SourceOutline
