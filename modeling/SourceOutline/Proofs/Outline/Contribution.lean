import SourceOutline.Outline.Contribution
import SourceOutline.Proofs.Journal

/-!
# The shape of a contribution

What a node contributes depends on the node and the resolver, never on the journal. Only a
namespace contributes more than one element: a module for every name in its dotted name.
Leaf kinds contribute members of a class or a module, and no other kind does.
-/

namespace SourceOutline

/-- Properties and methods, which never hold other elements. -/
def Traits.isMember (traits : Traits) : Bool :=
  match traits.detail with
  | .property .. | .method _ => true
  | .element | .module _ | .importedModule | .classLike .. => false

namespace Site

variable (document : Document) (resolver : Resolver)

theorem additive_baseName (site : Site) :
    Recorded.Additive (site.baseName document resolver) := by
  refine (Recorded.additive_noteLookup _).bind fun _ => (Recorded.additive_ofExcept _).bind ?_
  intro found
  cases found with
  | some symbol => exact Recorded.additive_pure _
  | none =>
      refine (Recorded.additive_ofExcept _).bind fun text => ?_
      exact (Recorded.additive_diagnose _).bind fun _ => Recorded.additive_pure _

theorem additive_classTraits (site : Site) :
    Recorded.Additive (site.classTraits document resolver) := by
  refine (Recorded.additive_ofExcept _).bind fun node => ?_
  refine (Recorded.additive_ofExcept _).bind fun name => ?_
  refine (Recorded.additive_ofExcept _).bind fun visibility => ?_
  refine (Recorded.additive_ofExcept _).bind fun isAbstract => ?_
  cases site.extendsExpression? with
  | none => exact (Recorded.additive_pure _).bind fun _ => Recorded.additive_pure _
  | some expression =>
      refine Recorded.Additive.bind ?_ fun _ => Recorded.additive_pure _
      exact (expression.additive_baseName document resolver).map _

/-- Only a class does more than read the tree, and only a class asks the resolver. -/
theorem contribution_of_ne {kind : DeclarationKind} (other : kind ≠ .classLike) (site : Site) :
    ∃ result, ∀ resolver, site.contribution document resolver kind = Recorded.ofExcept result := by
  cases kind with
  | classLike => exact absurd rfl other
  | _ => exact ⟨_, fun _ => rfl⟩

/-- What a node contributes does not depend on what happened before. -/
theorem additive_contribution (kind : DeclarationKind) (site : Site) :
    Recorded.Additive (site.contribution document resolver kind) := by
  by_cases isClass : kind = .classLike
  · subst isClass
    exact (site.additive_classTraits document resolver).bind fun _ => Recorded.additive_pure _
  · obtain ⟨result, reads⟩ := contribution_of_ne document isClass site
    rw [reads]
    exact Recorded.additive_ofExcept result

variable {document resolver}

/-- A property is built from its declared name, its modifiers and its type. -/
theorem propertyTraits_built {site : Site} {typeField : String} {hasGetter hasSetter : Bool}
    {traits : Traits}
    (given : site.propertyTraits document typeField hasGetter hasSetter = .ok traits) :
    ∃ name visibility lifetime typeName, site.declaredName document = .ok name ∧
      site.visibility document = .ok visibility ∧
      traits = ⟨name, visibility, lifetime, .property typeName hasGetter hasSetter⟩ := by
  obtain ⟨name, named, given⟩ := bind_eq_ok_iff.mp given
  obtain ⟨visibility, shown, given⟩ := bind_eq_ok_iff.mp given
  obtain ⟨lifetime, -, given⟩ := bind_eq_ok_iff.mp given
  obtain ⟨typeName, -, given⟩ := bind_eq_ok_iff.mp given
  cases given
  exact ⟨name, visibility, lifetime, typeName, named, shown, rfl⟩

/-- So is a method or function, which has no type. -/
theorem methodTraits_built {site : Site} {traits : Traits}
    (given : site.methodTraits document = .ok traits) :
    ∃ name visibility lifetime isAbstract, site.declaredName document = .ok name ∧
      site.visibility document = .ok visibility ∧
      traits = ⟨name, visibility, lifetime, .method isAbstract⟩ := by
  obtain ⟨name, named, given⟩ := bind_eq_ok_iff.mp given
  obtain ⟨visibility, shown, given⟩ := bind_eq_ok_iff.mp given
  obtain ⟨lifetime, -, given⟩ := bind_eq_ok_iff.mp given
  obtain ⟨isAbstract, -, given⟩ := bind_eq_ok_iff.mp given
  cases given
  exact ⟨name, visibility, lifetime, isAbstract, named, shown, rfl⟩

/-- A required field is the child under that name. -/
theorem requiredField_eq_ok_iff {site : Site} {field : String} {child : Node} :
    site.requiredField document field = .ok child ↔ site.node.child? field = some child := by
  rw [requiredField]
  cases site.node.child? field <;> simp

/-- A class is built from its name, its modifiers and its base. It lives as a class does by
default. -/
theorem classTraits_built {site : Site} {traits : Traits} {before after : Journal}
    (given : (site.classTraits document resolver).Gives before traits after) :
    ∃ node name visibility isAbstract base, site.node.child? "name" = some node ∧
      document.text node = .ok name ∧ site.visibility document = .ok visibility ∧
      traits = ⟨name, visibility, .perInstance, .classLike isAbstract base⟩ := by
  obtain ⟨node, _, found, given⟩ := Recorded.gives_bind_iff.mp given
  obtain ⟨name, _, text, given⟩ := Recorded.gives_bind_iff.mp given
  obtain ⟨visibility, _, shown, given⟩ := Recorded.gives_bind_iff.mp given
  obtain ⟨isAbstract, _, -, given⟩ := Recorded.gives_bind_iff.mp given
  have field := requiredField_eq_ok_iff.mp (Recorded.gives_ofExcept_iff.mp found).1
  have read := (Recorded.gives_ofExcept_iff.mp text).1
  have seen := (Recorded.gives_ofExcept_iff.mp shown).1
  -- The two branches on the base end in the same step.
  revert given
  cases site.extendsExpression? with
  | none =>
      intro given
      obtain ⟨base, _, -, given⟩ := Recorded.gives_bind_iff.mp given
      exact ⟨node, name, _, _, base, field, read, seen, (Recorded.gives_pure_iff.mp given).1.symm⟩
  | some expression =>
      intro given
      obtain ⟨base, _, -, given⟩ := Recorded.gives_bind_iff.mp given
      exact ⟨node, name, _, _, base, field, read, seen, (Recorded.gives_pure_iff.mp given).1.symm⟩

/-- A class is named by the text of its name and is no member. -/
theorem classTraits_shape {site : Site} {traits : Traits} {before after : Journal}
    (given : (site.classTraits document resolver).Gives before traits after) :
    (∃ name, site.node.child? "name" = some name ∧ document.text name = .ok traits.name) ∧
      traits.isMember = false := by
  obtain ⟨node, name, visibility, isAbstract, base, field, read, -, rfl⟩ := classTraits_built given
  exact ⟨⟨node, field, read⟩, rfl⟩

theorem moduleNames_ne_nil {site : Site} {names : List String}
    (given : site.moduleNames document = .ok names) : names ≠ [] := by
  obtain ⟨name, -, given⟩ := bind_eq_ok_iff.mp given
  obtain ⟨text, -, given⟩ := bind_eq_ok_iff.mp given
  cases given
  split
  · simp
  · simpa using Text.segments_ne_nil '.' text
  · simp

/-- A namespace contributes a module for every name. The outermost has the visibility that is
written, the others have that of a namespace that says nothing. -/
theorem moduleChain_eq {site : Site} {chain : List Traits}
    (given : site.moduleChain document = .ok chain) :
    ∃ first rest visibility, site.moduleNames document = .ok (first :: rest) ∧
      site.visibility document = .ok visibility ∧
      chain = ⟨first, visibility, .perInstance, .module none⟩ ::
        rest.map fun name => ⟨name, .priv, .perInstance, .module none⟩ := by
  obtain ⟨names, named, given⟩ := bind_eq_ok_iff.mp given
  obtain ⟨outer, shown, given⟩ := bind_eq_ok_iff.mp given
  cases names with
  | nil => exact absurd rfl (moduleNames_ne_nil named)
  | cons first rest =>
      cases given
      exact ⟨first, rest, outer, named, shown, rfl⟩

theorem moduleChain_built {site : Site} {chain : List Traits}
    (given : site.moduleChain document = .ok chain) :
    site.moduleNames document = .ok (chain.map Traits.name) ∧ chain ≠ [] ∧
      ∀ traits ∈ chain, ∃ name visibility,
        traits = ⟨name, visibility, .perInstance, .module none⟩ := by
  obtain ⟨first, rest, visibility, named, -, rfl⟩ := moduleChain_eq given
  refine ⟨?_, List.cons_ne_nil _ _, ?_⟩
  · rw [named]
    simp [Function.comp_def]
  · intro traits member
    rcases List.mem_cons.mp member with rfl | inner
    · exact ⟨first, visibility, rfl⟩
    · obtain ⟨name, -, rfl⟩ := List.mem_map.mp inner
      exact ⟨name, _, rfl⟩

theorem moduleChain_shape {site : Site} {chain : List Traits}
    (given : site.moduleChain document = .ok chain) :
    site.moduleNames document = .ok (chain.map Traits.name) ∧ chain ≠ [] ∧
      ∀ traits ∈ chain, traits.detail = .module none := by
  obtain ⟨names, nonempty, built⟩ := moduleChain_built given
  refine ⟨names, nonempty, fun traits member => ?_⟩
  obtain ⟨name, visibility, rfl⟩ := built traits member
  rfl

theorem gives_single_iff {traits? : Except Failure Traits} {chain : List Traits}
    {before after : Journal} :
    (Recorded.ofExcept (traits?.map ([·]))).Gives before chain after ↔
      ∃ traits, traits? = .ok traits ∧ [traits] = chain ∧ before = after := by
  rw [Recorded.gives_ofExcept_iff, map_eq_ok_iff]
  constructor
  · rintro ⟨⟨traits, given, same⟩, unchanged⟩
    exact ⟨traits, given, same, unchanged⟩
  · rintro ⟨traits, given, same, unchanged⟩
    exact ⟨⟨traits, given, same⟩, unchanged⟩

/-- A leaf kind contributes one member, with the name and the visibility of its node. -/
theorem contribution_member {kind : DeclarationKind} {site : Site} {chain : List Traits}
    {before after : Journal} (leaf : kind.isLeaf = true)
    (given : (site.contribution document resolver kind).Gives before chain after) :
    ∃ traits, chain = [traits] ∧ site.declaredName document = .ok traits.name ∧
      site.visibility document = .ok traits.visibility ∧ traits.isMember = true := by
  cases kind with
  | getter | setter | property =>
      obtain ⟨traits, found, rfl, -⟩ := gives_single_iff.mp given
      obtain ⟨_, _, _, _, named, shown, rfl⟩ := propertyTraits_built found
      exact ⟨_, rfl, named, shown, rfl⟩
  | method | function =>
      obtain ⟨traits, found, rfl, -⟩ := gives_single_iff.mp given
      obtain ⟨_, _, _, _, named, shown, rfl⟩ := methodTraits_built found
      exact ⟨_, rfl, named, shown, rfl⟩
  | _ => cases leaf

/-- Every kind but a namespace contributes one element, a member exactly for leaf kinds. -/
theorem contribution_single {kind : DeclarationKind} {site : Site} {chain : List Traits}
    {before after : Journal} (other : kind ≠ .nested)
    (given : (site.contribution document resolver kind).Gives before chain after) :
    ∃ traits, chain = [traits] ∧ traits.isMember = kind.isLeaf := by
  cases kind with
  | nested => exact absurd rfl other
  | classLike =>
      obtain ⟨traits, _, found, given⟩ := Recorded.gives_bind_iff.mp given
      obtain ⟨rfl, -⟩ := Recorded.gives_pure_iff.mp given
      exact ⟨traits, rfl, (classTraits_shape found).2⟩
  | importEquals =>
      obtain ⟨traits, found, rfl, -⟩ := gives_single_iff.mp given
      obtain ⟨name, -, rfl⟩ := map_eq_ok_iff.mp found
      exact ⟨_, rfl, rfl⟩
  | importFrom =>
      obtain ⟨traits, found, rfl, -⟩ := gives_single_iff.mp given
      obtain ⟨source, -, found⟩ := bind_eq_ok_iff.mp found
      obtain ⟨text, -, found⟩ := bind_eq_ok_iff.mp found
      cases found
      exact ⟨_, rfl, rfl⟩
  | getter | setter | property | method | function =>
      obtain ⟨traits, rfl, -, -, member⟩ := contribution_member rfl given
      exact ⟨traits, rfl, member⟩

end Site

end SourceOutline
