import SourceOutline.Proofs.Declaration.Visibility
import SourceOutline.Proofs.Outline.Sequence
import SourceOutline.Proofs.Syntax.WellFormed

/-!
# What can be built

In a legible tree the elements of a classified node can be built if the node has the field that
its kind requires and the children that are taken by position or by type are there; without the
required field they cannot be built. A well-formed tree promises all of this for its named nodes,
by the type from which the kind is read. It promises nothing for tokens, of which one has a kind:
the walk does not ask whether a node is named, and the keyword `module` has the type of a
namespace.
-/

namespace SourceOutline

/-- What the kind of a node says about its type. -/
def DeclarationKind.Fits (site : Site) : DeclarationKind → Prop
  | .nested => isNamespaceType site.type = true
  | .importEquals => site.type = "import_alias" ∨
      site.type = "import_statement" ∧ site.node.hasChildOfType "import_require_clause" = true
  | .importFrom =>
      site.type = "import_statement" ∧ site.node.hasChildOfType "import_require_clause" = false
  | .classLike => isClassType site.type = true
  | .property => site.type = "public_field_definition"
  | .getter | .setter | .method => isMethodType site.type = true
  | .function => isFunctionType site.type = true

/-- The resolver answers at every node of the tree. -/
def Resolver.IsTotal (document : Document) (resolver : Resolver) : Prop :=
  ∀ expression ∈ document.sites, Defined (resolver.symbolAt expression)

variable {document : Document} {resolver : Resolver} {site : Site}

/-- Every kind but an import has a name of its own. -/
theorem DeclarationKind.isNamedType_of_fits {kind : DeclarationKind} (fits : kind.Fits site)
    (called : kind ≠ .importEquals ∧ kind ≠ .importFrom) : isNamedType site.type = true := by
  cases kind with
  | importEquals => exact absurd rfl called.1
  | importFrom => exact absurd rfl called.2
  | _ => simp_all [Fits, isNamedType]

namespace Site

theorem methodKind_shape {kind : DeclarationKind}
    (classified : site.methodKind document = .ok (some kind)) :
    kind = .getter ∨ kind = .setter ∨ kind = .method := by
  obtain ⟨name, -, classified⟩ := bind_eq_ok_iff.mp classified
  split at classified
  · cases classified
  · split at classified
    · cases classified
      exact .inl rfl
    · split at classified
      · cases classified
        exact .inr (.inl rfl)
      · cases classified
        exact .inr (.inr rfl)

theorem fits_of_classify {kind : DeclarationKind}
    (classified : site.classify document = .ok (some kind)) : kind.Fits site := by
  rw [classify] at classified
  by_cases nested : isNamespaceType site.type = true
  · rw [if_pos nested] at classified
    cases classified
    exact nested
  rw [if_neg nested] at classified
  by_cases isAlias : (site.type == "import_alias") = true
  · rw [if_pos isAlias] at classified
    cases classified
    exact .inl (beq_iff_eq.mp isAlias)
  rw [if_neg isAlias] at classified
  by_cases statement : (site.type == "import_statement") = true
  · rw [if_pos statement] at classified
    by_cases clause : site.node.hasChildOfType "import_require_clause" = true
    · rw [if_pos clause] at classified
      cases classified
      exact .inr ⟨beq_iff_eq.mp statement, clause⟩
    · rw [if_neg clause] at classified
      cases classified
      exact ⟨beq_iff_eq.mp statement, Bool.not_eq_true _ ▸ clause⟩
  rw [if_neg statement] at classified
  by_cases classLike : isClassType site.type = true
  · rw [if_pos classLike] at classified
    cases classified
    exact classLike
  rw [if_neg classLike] at classified
  by_cases field : (site.type == "public_field_definition") = true
  · rw [if_pos field] at classified
    cases classified
    exact beq_iff_eq.mp field
  rw [if_neg field] at classified
  by_cases signature : (site.type == "method_signature" && !site.inClassBody) = true
  · rw [if_pos signature] at classified
    cases classified
  rw [if_neg signature] at classified
  by_cases method : isMethodType site.type = true
  · rw [if_pos method] at classified
    rcases methodKind_shape classified with rfl | rfl | rfl
    all_goals exact method
  rw [if_neg method] at classified
  by_cases function : isFunctionType site.type = true
  · rw [if_pos function] at classified
    cases classified
    exact function
  · rw [if_neg function] at classified
    cases classified

/-- A token is of no kind, unless it is the keyword of a namespace. -/
theorem classify_token (token : '_' ∉ site.type.toList) (other : site.type ≠ "module") :
    site.classify document = .ok none := by
  have differs {rule : String} (isRule : '_' ∈ rule.toList) : (site.type == rule) = false := by
    rw [beq_eq_false_iff_ne]
    rintro rfl
    exact token isRule
  have noNamespace : isNamespaceType site.type = false := by
    rw [isNamespaceType, differs (by decide), beq_eq_false_iff_ne.mpr other]
    rfl
  have noClass : isClassType site.type = false := by
    rw [isClassType, differs (by decide), differs (by decide)]
    rfl
  have noMethod : isMethodType site.type = false := by
    rw [isMethodType, differs (by decide), differs (by decide), differs (by decide)]
    rfl
  have noFunction : isFunctionType site.type = false := by
    rw [isFunctionType, differs (by decide), differs (by decide), differs (by decide)]
    rfl
  have noAlias : (site.type == "import_alias") = false := differs (by decide)
  have noImport : (site.type == "import_statement") = false := differs (by decide)
  have noField : (site.type == "public_field_definition") = false := differs (by decide)
  have noSignature : (site.type == "method_signature") = false := differs (by decide)
  simp only [classify, noNamespace, noAlias, noImport, noClass, noField, noSignature, noMethod,
    noFunction, Bool.false_and, Bool.false_eq_true, if_false]

end Site

/-- The field that a node of a kind must have. -/
def DeclarationKind.requiredField? : DeclarationKind → Option String
  | .importEquals => none
  | .importFrom => some "source"
  | .nested | .classLike | .getter | .setter | .property | .method | .function => some "name"

/-- The field under which the type of a property stands. -/
def DeclarationKind.typeField? : DeclarationKind → Option String
  | .property => some "type"
  | .getter | .setter => some "return_type"
  | .nested | .importEquals | .importFrom | .classLike | .method | .function => none

namespace Site

/-- The failure of a node that lacks what its kind requires. -/
def missing? (document : Document) (site : Site) (kind : DeclarationKind) : Option Failure :=
  match kind.requiredField? with
  | none => none
  | some field =>
    if (site.node.child? field).isSome then none
    else some (.missingField site.type (document.position site.node).line field)

/-- The named children that are taken by position or by type are there: the name of an import
alias, a named require clause and its name, and the element of an array type. -/
structure FindsChildren (document : Document) (site : Site) : Prop where
  aliased : site.type = "import_alias" → site.node.namedChildren.isEmpty = false
  clause : site.type = "import_statement" →
    site.node.hasChildOfType "import_require_clause" = true →
    (site.node.namedChildren.find? (fun child => child.type == "import_require_clause")).any
      (fun clause => !clause.namedChildren.isEmpty) = true
  element : ∀ kind ∈ site.kind? document, ∀ field ∈ kind.typeField?,
    ∀ shown ∈ (site.node.child? field).bind TypeName.annotated?,
      shown.type = "array_type" → shown.namedChildren.isEmpty = false

instance (document : Document) (site : Site) : Decidable (site.FindsChildren document) :=
  decidable_of_iff (_ ∧ _ ∧ _)
    ⟨fun ⟨aliased, clause, element⟩ => ⟨aliased, clause, element⟩,
      fun ⟨aliased, clause, element⟩ => ⟨aliased, clause, element⟩⟩

theorem missing?_eq_none_iff {kind : DeclarationKind} :
    site.missing? document kind = none ↔
      ∀ field, kind.requiredField? = some field → ∃ child, site.node.child? field = some child := by
  rw [missing?]
  cases kind.requiredField? with
  | none => simp
  | some field => simp [Option.isSome_iff_exists]

/-- The type that is shown for a property stands in the tree. -/
theorem exists_annotated (member : site ∈ document.sites) {field : String} {shown : Node}
    (found : (site.node.child? field).bind TypeName.annotated? = some shown) :
    ∃ inner ∈ document.sites, inner.node = shown := by
  obtain ⟨child, under, found⟩ := Option.bind_eq_some_iff.mp found
  have below := Document.mem_sites_below member (List.mem_of_find?_eq_some under)
  rw [TypeName.annotated?] at found
  split at found
  · have among := Document.mem_children_of_namedChildren (List.mem_of_head? found)
    exact ⟨_, Document.mem_sites_below below among, rfl⟩
  · cases found
    exact ⟨_, below, rfl⟩

/-- Without its required field nothing of a node can be built. -/
theorem failure?_of_missing {kind : DeclarationKind} {failure : Failure}
    (missing : site.missing? document kind = some failure) :
    (site.contribution document resolver kind).failure? = some failure := by
  have absent {field : String} (required : kind.requiredField? = some field) :
      site.requiredField document field = .error failure := by
    rw [missing?, required] at missing
    rw [requiredField]
    cases found : site.node.child? field with
    | some child => simp [found] at missing
    | none => simpa [found] using missing
  have single {traits? : Except Failure Traits} (failed : traits? = .error failure) :
      (Recorded.ofExcept (traits?.map ([·]))).failure? = some failure := by
    rw [failed]
    rfl
  -- Every kind asks for its required field first.
  cases kind with
  | importEquals => cases missing
  | importFrom => exact single (bind_error (absent rfl) _)
  | nested =>
      have names : site.moduleNames document = .error failure := bind_error (absent rfl) _
      rw [contribution, moduleChain, names]
      rfl
  | classLike =>
      rw [contribution, classTraits, absent rfl]
      rfl
  | property => exact single (bind_error (bind_error (absent rfl) _) _)
  | getter => exact single (bind_error (bind_error (absent rfl) _) _)
  | setter => exact single (bind_error (bind_error (absent rfl) _) _)
  | method => exact single (bind_error (bind_error (absent rfl) _) _)
  | function => exact single (bind_error (bind_error (absent rfl) _) _)

end Site

namespace Document.Legible

theorem defined_methodKind (legible : document.Legible) (member : site ∈ document.sites) :
    Defined (site.methodKind document) := by
  refine (legible.text_field member "name").bind fun name _ => ?_
  refine iteInduction (fun _ => defined_ok _) fun _ => ?_
  refine iteInduction (fun _ => defined_ok _) fun _ => ?_
  exact iteInduction (fun _ => defined_ok _) fun _ => defined_ok _

theorem defined_classify (legible : document.Legible) (member : site ∈ document.sites) :
    Defined (site.classify document) := by
  rw [Site.classify]
  refine iteInduction (fun _ => defined_ok _) fun _ => ?_
  refine iteInduction (fun _ => defined_ok _) fun _ => ?_
  refine iteInduction (fun _ => ?_) fun _ => ?_
  · exact iteInduction (fun _ => defined_ok _) fun _ => defined_ok _
  refine iteInduction (fun _ => defined_ok _) fun _ => ?_
  refine iteInduction (fun _ => defined_ok _) fun _ => ?_
  refine iteInduction (fun _ => defined_ok _) fun _ => ?_
  refine iteInduction (fun _ => legible.defined_methodKind member) fun _ => ?_
  exact iteInduction (fun _ => defined_ok _) fun _ => defined_ok _

theorem defined_modifiers (legible : document.Legible) (member : site ∈ document.sites) :
    Defined (site.modifiers document) := by
  rw [Site.defined_modifiers_iff]
  intro reading among
  obtain ⟨child, inside, type, rfl⟩ := Site.mem_readings_iff.mp among
  have below := mem_sites_below member inside
  have words := legible.accessibility _ below type
  obtain ⟨text, read⟩ := legible.readable _ below
  change document.text child = .ok text at read
  have word : Text.strip text ∈ ["public", "protected", "private"] := by
    simpa [Site.below, read, Except.toOption] using words
  rw [read]
  simp only [List.mem_cons, List.not_mem_nil, or_false] at word
  rcases word with word | word | word
  · exact ⟨.pub, rfl, congrArg Except.ok word⟩
  · exact ⟨.prot, rfl, congrArg Except.ok word⟩
  · exact ⟨.priv, rfl, congrArg Except.ok word⟩

theorem defined_visibility (legible : document.Legible) (member : site ∈ document.sites) :
    Defined (site.visibility document) :=
  (legible.defined_modifiers member).bind fun _ _ => defined_ok _

theorem defined_lifetime (legible : document.Legible) (member : site ∈ document.sites) :
    Defined (site.lifetime document) :=
  (legible.defined_modifiers member).bind fun _ _ => defined_ok _

theorem defined_isAbstract (legible : document.Legible) (member : site ∈ document.sites) :
    Defined (site.isAbstract document) :=
  (legible.defined_modifiers member).bind fun _ _ => defined_ok _

/-- The child under a field that is present can be read. -/
theorem defined_field (legible : document.Legible) (member : site ∈ document.sites)
    {field : String} {child : Node} (found : site.node.child? field = some child) :
    site.requiredField document field = .ok child ∧ Defined (document.text child) :=
  ⟨Site.requiredField_eq_ok_iff.mpr found,
    legible.text_below member (List.mem_of_find?_eq_some found)⟩

theorem defined_declaredName (legible : document.Legible) (member : site ∈ document.sites)
    {name : Node} (found : site.node.child? "name" = some name) :
    Defined (site.declaredName document) := by
  obtain ⟨present, read⟩ := legible.defined_field member found
  exact defined_bind_of_eq present (read.bind fun _ _ => defined_ok _)

theorem defined_moduleChain (legible : document.Legible) (member : site ∈ document.sites)
    {name : Node} (found : site.node.child? "name" = some name) :
    Defined (site.moduleChain document) := by
  have names : Defined (site.moduleNames document) := by
    obtain ⟨present, read⟩ := legible.defined_field member found
    exact defined_bind_of_eq present (read.bind fun _ _ => defined_ok _)
  refine names.bind fun names _ => (legible.defined_visibility member).bind fun _ _ => ?_
  cases names <;> exact defined_ok _

theorem defined_first (legible : document.Legible) (member : site ∈ document.sites)
    (nonempty : site.node.namedChildren.isEmpty = false) :
    ∃ first rest, site.node.namedChildren = first :: rest ∧ Defined (document.text first) := by
  cases children : site.node.namedChildren with
  | nil => simp [children] at nonempty
  | cons first rest =>
      refine ⟨first, rest, rfl, legible.text_named member ?_⟩
      rw [children]
      exact List.mem_cons_self

theorem defined_importAlias (legible : document.Legible) (member : site ∈ document.sites)
    (finds : site.FindsChildren document) (fits : DeclarationKind.importEquals.Fits site) :
    Defined (site.importAlias document) := by
  rw [Site.importAlias]
  rcases fits with type | ⟨type, present⟩
  · have other : ¬ (site.type == "import_statement") = true := by rw [type]; decide
    obtain ⟨name, rest, children, read⟩ := legible.defined_first member (finds.aliased type)
    rw [if_neg other]
    refine defined_bind_of_eq rfl ?_
    simpa only [children] using read
  · have finds := finds.clause type present
    cases found : site.node.namedChildren.find?
        (fun child => child.type == "import_require_clause") with
    | none => simp [found] at finds
    | some clause =>
        have among := mem_children_of_namedChildren (List.mem_of_find?_eq_some found)
        have nonempty : clause.namedChildren.isEmpty = false := by simpa [found] using finds
        obtain ⟨name, rest, children, read⟩ :=
          legible.defined_first (mem_sites_below member among) nonempty
        rw [if_pos (beq_iff_eq.mpr type)]
        refine defined_bind_of_eq rfl ?_
        simpa only [show clause.namedChildren = name :: rest from children] using read

theorem defined_ofType (legible : document.Legible) (member : site ∈ document.sites)
    (element : site.type = "array_type" → site.node.namedChildren.isEmpty = false) :
    Defined (TypeName.ofType document site.node) := by
  rw [TypeName.ofType]
  have read := legible.readable site member
  split
  · exact read.bind fun _ _ => defined_ok _
  · exact defined_ok _
  · next type =>
    obtain ⟨first, rest, children, read⟩ := legible.defined_first member (element type)
    rw [children]
    exact read.bind fun _ _ => defined_ok _
  · exact read.bind fun _ _ => defined_ok _
  · exact read.bind fun _ _ => defined_ok _
  · exact (legible.text_field member "name").bind fun _ _ => defined_ok _
  · exact defined_ok _

/-- The type of a property can be named. -/
theorem defined_render (legible : document.Legible) (member : site ∈ document.sites)
    {field : String} (element : ∀ shown ∈ (site.node.child? field).bind TypeName.annotated?,
      shown.type = "array_type" → shown.namedChildren.isEmpty = false) :
    Defined (TypeName.render document (site.node.child? field)) := by
  rw [TypeName.render]
  cases shown : (site.node.child? field).bind TypeName.annotated? with
  | none => exact defined_ok _
  | some node =>
      obtain ⟨inner, inTree, rfl⟩ := Site.exists_annotated member shown
      exact legible.defined_ofType inTree (element inner.node shown)

theorem defined_propertyTraits (legible : document.Legible) (member : site ∈ document.sites)
    {name : Node} (found : site.node.child? "name" = some name) {field : String}
    (shown : Defined (TypeName.render document (site.node.child? field)))
    (hasGetter hasSetter : Bool) :
    Defined (site.propertyTraits document field hasGetter hasSetter) := by
  refine (legible.defined_declaredName member found).bind fun _ _ => ?_
  refine (legible.defined_visibility member).bind fun _ _ => ?_
  refine (legible.defined_lifetime member).bind fun _ _ => ?_
  exact shown.bind fun _ _ => defined_ok _

theorem defined_methodTraits (legible : document.Legible) (member : site ∈ document.sites)
    {name : Node} (found : site.node.child? "name" = some name) :
    Defined (site.methodTraits document) := by
  refine (legible.defined_declaredName member found).bind fun _ _ => ?_
  refine (legible.defined_visibility member).bind fun _ _ => ?_
  refine (legible.defined_lifetime member).bind fun _ _ => ?_
  exact (legible.defined_isAbstract member).bind fun _ _ => defined_ok _

end Document.Legible

/-- The base expression of a class stands in the tree. -/
theorem Site.mem_sites_of_extendsExpression? {expression : Site} (member : site ∈ document.sites)
    (found : site.extendsExpression? = some expression) : expression ∈ document.sites := by
  obtain ⟨clause, first, value⟩ := Option.bind_eq_some_iff.mp found
  obtain ⟨heritage, among, inner⟩ := List.mem_flatMap.mp (List.mem_of_head? first)
  have atHeritage := Document.mem_sites_of_children member heritage (List.mem_filter.mp among).1
  have atClause := Document.mem_sites_of_children atHeritage clause (List.mem_filter.mp inner).1
  rcases Option.or_eq_some_iff.mp value with field | ⟨-, named⟩
  · obtain ⟨node, under, rfl⟩ := Option.map_eq_some_iff.mp field
    exact Document.mem_sites_below atClause (List.mem_of_find?_eq_some under)
  · exact Document.mem_sites_of_namedChildren atClause expression (List.mem_of_head? named)

/-- A base is named as soon as the resolver answers; the text is read for the warning alone. -/
theorem Site.succeeds_baseName (answered : Defined (resolver.symbolAt site))
    (readable : Defined (document.text site.node)) :
    (site.baseName document resolver).Succeeds := by
  refine (Recorded.succeeds_noteLookup site.node.id).bind fun _ _ _ _ => ?_
  refine (Recorded.succeeds_ofExcept answered).bind fun _ answer _ _ => ?_
  cases answer with
  | some symbol => exact Recorded.succeeds_pure _
  | none =>
      refine (Recorded.succeeds_ofExcept readable).bind fun _ text _ _ => ?_
      refine (Recorded.succeeds_diagnose _).bind fun _ _ _ _ => ?_
      exact Recorded.succeeds_pure _

namespace Document.Legible

theorem succeeds_baseName (legible : document.Legible) (total : resolver.IsTotal document)
    (member : site ∈ document.sites) :
    (site.baseName document resolver).Succeeds :=
  Site.succeeds_baseName (total site member) (legible.readable site member)

theorem succeeds_classTraits (legible : document.Legible) (total : resolver.IsTotal document)
    (member : site ∈ document.sites) {name : Node}
    (found : site.node.child? "name" = some name) :
    (site.classTraits document resolver).Succeeds := by
  obtain ⟨present, read⟩ := legible.defined_field member found
  refine Recorded.succeeds_bind_of_eq present ?_
  refine (Recorded.succeeds_ofExcept read).bind fun _ _ _ _ => ?_
  refine (Recorded.succeeds_ofExcept (legible.defined_visibility member)).bind fun _ _ _ _ => ?_
  refine (Recorded.succeeds_ofExcept (legible.defined_isAbstract member)).bind fun _ _ _ _ => ?_
  cases base : site.extendsExpression? with
  | none => exact (Recorded.succeeds_pure none).bind fun _ _ _ _ => Recorded.succeeds_pure _
  | some expression =>
      have inTree := Site.mem_sites_of_extendsExpression? member base
      refine Recorded.Succeeds.bind ?_ fun _ _ _ _ => Recorded.succeeds_pure _
      exact (legible.succeeds_baseName total inTree).bind
        fun _ _ _ _ => Recorded.succeeds_pure _

/-- What a node with its required field contributes can be built. -/
theorem succeeds_contribution (legible : document.Legible) (total : resolver.IsTotal document)
    (member : site ∈ document.sites) {kind : DeclarationKind}
    (classified : site.classify document = .ok (some kind))
    (finds : site.FindsChildren document) (present : site.missing? document kind = none) :
    (site.contribution document resolver kind).Succeeds := by
  have fits := Site.fits_of_classify classified
  have element := finds.element kind (Site.kind?_eq_of_classify classified)
  have field := Site.missing?_eq_none_iff.mp present
  have property {typeField : String} (isType : kind.typeField? = some typeField)
      (isNamed : kind.requiredField? = some "name") (hasGetter hasSetter : Bool) :
      Defined (site.propertyTraits document typeField hasGetter hasSetter) := by
    obtain ⟨name, found⟩ := field "name" isNamed
    have shown := legible.defined_render member (element typeField isType)
    exact legible.defined_propertyTraits member found shown hasGetter hasSetter
  have method (isNamed : kind.requiredField? = some "name") :
      Defined (site.methodTraits document) := by
    obtain ⟨name, found⟩ := field "name" isNamed
    exact legible.defined_methodTraits member found
  cases kind with
  | nested =>
      obtain ⟨name, found⟩ := field "name" rfl
      exact Recorded.succeeds_ofExcept (legible.defined_moduleChain member found)
  | importEquals =>
      exact Recorded.succeeds_ofExcept
        (((legible.defined_importAlias member finds fits).map _).map _)
  | importFrom =>
      obtain ⟨source, found⟩ := field "source" rfl
      obtain ⟨present, read⟩ := legible.defined_field member found
      refine Recorded.succeeds_ofExcept (Defined.map ?_ _)
      exact defined_bind_of_eq present (read.bind fun _ _ => defined_ok _)
  | classLike =>
      obtain ⟨name, found⟩ := field "name" rfl
      exact (legible.succeeds_classTraits total member found).bind
        fun _ _ _ _ => Recorded.succeeds_pure _
  | property => exact Recorded.succeeds_ofExcept ((property rfl rfl _ _).map _)
  | getter => exact Recorded.succeeds_ofExcept ((property rfl rfl _ _).map _)
  | setter => exact Recorded.succeeds_ofExcept ((property rfl rfl _ _).map _)
  | method => exact Recorded.succeeds_ofExcept ((method rfl).map _)
  | function => exact Recorded.succeeds_ofExcept ((method rfl).map _)

end Document.Legible

namespace Document.WellFormed

/-- A named node of a kind has what its kind requires. -/
theorem missing?_eq_none (wellFormed : document.WellFormed) (member : site ∈ document.sites)
    (named : site.node.named = true) {kind : DeclarationKind} (fits : kind.Fits site) :
    site.missing? document kind = none := by
  have name (type : isNamedType site.type = true) :
      ∃ child, site.node.child? "name" = some child :=
    Option.isSome_iff_exists.mp ((wellFormed site member).hasName named type)
  rw [Site.missing?_eq_none_iff]
  intro field required
  by_cases isImport : kind = .importFrom
  · subst isImport
    cases required
    rcases (wellFormed site member).hasSource named fits.1 with isNamed | ⟨hasSource, -⟩
    · -- A named require clause is a child of that type, which the kind excludes.
      obtain ⟨clause, among, type⟩ := List.any_eq_true.mp isNamed
      have present : site.node.hasChildOfType "import_require_clause" = true :=
        List.any_eq_true.mpr ⟨clause, mem_children_of_namedChildren among, type⟩
      cases present.symm.trans fits.2
    · exact Option.isSome_iff_exists.mp hasSource
  · have other : kind ≠ .importEquals := by
      rintro rfl
      cases required
    have isName : field = "name" := by
      cases kind <;> simp_all [DeclarationKind.requiredField?]
    rw [isName]
    exact name (DeclarationKind.isNamedType_of_fits fits ⟨other, isImport⟩)

/-- The children that a named node takes by position or by type are there. -/
theorem findsChildren (wellFormed : document.WellFormed) (member : site ∈ document.sites)
    (named : site.node.named = true) : site.FindsChildren document where
  aliased type := (wellFormed site member).hasChild (by rw [show site.node.type = _ from type]; rfl)
  clause type present := by
    rcases (wellFormed site member).hasSource named type with isNamed | ⟨-, absent⟩
    · cases found : site.node.namedChildren.find?
          (fun child => child.type == "import_require_clause") with
      | none =>
          obtain ⟨clause, among, isClause⟩ := List.any_eq_true.mp isNamed
          exact absurd isClause (List.find?_eq_none.mp found clause among)
      | some clause =>
          have among := mem_children_of_namedChildren (List.mem_of_find?_eq_some found)
          have isClause : clause.type = "import_require_clause" :=
            beq_iff_eq.mp (List.find?_some found :)
          have nonempty := (wellFormed _ (mem_sites_below member among)).hasChild
            (by rw [show (site.below clause).node.type = _ from isClause]; rfl)
          simpa [Site.below] using nonempty
    · cases present.symm.trans absent
  element kind _ field _ shown found type := by
    obtain ⟨inner, inTree, rfl⟩ := Site.exists_annotated member found
    exact (wellFormed inner inTree).hasChild (by rw [type]; rfl)

end Document.WellFormed

end SourceOutline
