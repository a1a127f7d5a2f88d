import SourceOutline.Proofs.Outline.Visibility
import SourceOutline.Scope.Binding

/-!
# Conventional files

The walk and the binder cut the name of a namespace by different rules, and a function whose
name is a string loses its quotes in the outline alone. A conventional file has none of the
spellings on which the two differ. Only the statements that binding reaches matter, and
whether a file is conventional can be computed.
-/

namespace SourceOutline

namespace Document

mutual

/-- The statements that binding reaches from a statement, itself included. -/
def statementsFrom (ancestors : List Node) : Node → List Site
  | ⟨head, children⟩ =>
    let node : Node := ⟨head, children⟩
    ⟨node, ancestors⟩ ::
      if isTransparentType head.type then statementsIn (node :: ancestors) children
      else if isNamespaceType head.type then statementsOfBody (node :: ancestors) children
      else []

/-- The statements that binding reaches from the named statements of a block. -/
def statementsIn (ancestors : List Node) : List Node → List Site
  | [] => []
  | node :: nodes =>
    if node.named then statementsFrom ancestors node ++ statementsIn ancestors nodes
    else statementsIn ancestors nodes

/-- The statements that binding reaches in the first child that is a body. -/
def statementsOfBody (ancestors : List Node) : List Node → List Site
  | [] => []
  | ⟨head, children⟩ :: nodes =>
    if head.field == some "body" then statementsIn (⟨head, children⟩ :: ancestors) children
    else statementsOfBody ancestors nodes

end

/-- The statements that binding reaches in a file. -/
def statements (document : Document) : List Site :=
  statementsIn [document.root] document.root.children

end Document

/-- A statement that is written the way the walk and the binder read alike. -/
structure Site.Conventional (document : Document) (site : Site) : Prop where
  /-- The body of a namespace is a block of statements. -/
  body : isNamespaceType site.type = true → ∀ body ∈ site.node.child? "body",
    body.type = "statement_block"
  /-- A namespace is named by a dotted name or by a plain one without dots. -/
  name : isNamespaceType site.type = true → ∀ name ∈ site.node.child? "name",
    name.type = "nested_identifier" ∨
      name.type = "identifier" ∧ ∀ text ∈ (document.text name).toOption, '.' ∉ text.toList
  /-- A function is not named by a string. -/
  function : isFunctionType site.type = true → ∀ name ∈ site.node.child? "name",
    name.type ≠ "string"

/-- The root declares nothing, and every statement that binding reaches is conventional. -/
structure Document.Conventional (document : Document) : Prop where
  root : document.rootSite.kind? document = none
  statements : ∀ site ∈ document.statements, site.Conventional document

instance (document : Document) (site : Site) : Decidable (site.Conventional document) :=
  decidable_of_iff (_ ∧ _ ∧ _)
    ⟨fun ⟨body, name, function⟩ => ⟨body, name, function⟩,
      fun ⟨body, name, function⟩ => ⟨body, name, function⟩⟩

instance (document : Document) : Decidable document.Conventional :=
  decidable_of_iff (_ ∧ _)
    ⟨fun ⟨root, statements⟩ => ⟨root, statements⟩, fun ⟨root, statements⟩ => ⟨root, statements⟩⟩

theorem isWrapperType_of_transparent {type : String} (transparent : isTransparentType type = true) :
    isWrapperType type = true := by
  rw [isTransparentType] at transparent
  rw [isWrapperType, transparent]
  rfl

namespace Site

variable {document : Document}

/-- Wrapping statements, blocks of statements and bodies of classes declare nothing by
themselves. -/
theorem kind?_of_wrapper {site : Site} (wraps : isWrapperType site.type = true) :
    site.kind? document = none := by
  apply kind?_eq_of_classify
  simp only [isWrapperType, Bool.or_eq_true, beq_iff_eq] at wraps
  rcases wraps with (((type | type) | type) | type) | type <;> simp only [classify, type] <;> rfl

theorem kind?_of_namespace {site : Site} (nested : isNamespaceType site.type = true) :
    site.kind? document = some .nested := by
  apply kind?_eq_of_classify
  simp only [classify, nested, if_true]

theorem classify_class {site : Site} (classLike : isClassType site.type = true) :
    site.classify document = .ok (some .classLike) := by
  simp only [isClassType, Bool.or_eq_true, beq_iff_eq] at classLike
  rcases classLike with type | type <;> simp only [classify, type] <;> rfl

theorem kind?_of_class {site : Site} (classLike : isClassType site.type = true) :
    site.kind? document = some .classLike :=
  kind?_eq_of_classify (classify_class classLike)

theorem kind?_of_function {site : Site} (function : isFunctionType site.type = true) :
    site.kind? document = some .function := by
  apply kind?_eq_of_classify
  simp only [isFunctionType, Bool.or_eq_true, beq_iff_eq] at function
  rcases function with (type | type) | type <;> simp only [classify, type] <;> rfl

/-- The walk and the binder give a conventional namespace the same names. -/
theorem Conventional.moduleNames_eq {site : Site} {names : List String}
    (conventional : site.Conventional document) (nested : isNamespaceType site.type = true)
    (named : Binder.namespaceNames document site.node = .ok names) :
    site.moduleNames document = .ok names := by
  rw [Binder.namespaceNames] at named
  cases found : site.node.child? "name" with
  | none => simp [found] at named
  | some name =>
      simp only [found] at named
      obtain ⟨text, read, named⟩ := bind_eq_ok_iff.mp named
      cases named
      rw [moduleNames, requiredField_eq_ok_iff.mpr found]
      simp only [bind, Except.bind, read]
      rcases conventional.name nested name found with type | ⟨type, plain⟩
      · simp only [type]
        rfl
      · have single : Text.segments '.' text = [text] := by
          have whole : Text.join '.' [text] = text := by simp [Text.join]
          have cut := Text.segments_join '.' [text] (List.cons_ne_nil _ _)
            (by simpa using plain text (by simp [read, Except.toOption]))
          rwa [whole] at cut
        simp only [type]
        rw [if_neg (by decide), single]
        rfl

/-- A site with elements has contributed them. -/
theorem gives_of_elements {resolver : Resolver} {site : Site} {kind : DeclarationKind}
    (known : site.kind? document = some kind) (nonempty : site.elements document resolver ≠ []) :
    ∃ after, (site.contribution document resolver kind).Gives {}
      (site.elements document resolver) after := by
  simp only [elements, known] at nonempty ⊢
  rcases outcome : Recorded.run (site.contribution document resolver kind) with ⟨result, after⟩
  cases result with
  | error failure => simp [outcome, Except.toOption] at nonempty
  | ok chain => exact ⟨after, outcome⟩

/-- A conventional namespace has one module for each name that it is bound under. -/
theorem Conventional.names_of_namespace {resolver : Resolver} {site : Site}
    {names : List String} (conventional : site.Conventional document)
    (nested : isNamespaceType site.type = true)
    (named : Binder.namespaceNames document site.node = .ok names)
    (nonempty : site.elements document resolver ≠ []) :
    (site.elements document resolver).map Traits.name = names := by
  obtain ⟨after, given⟩ := gives_of_elements (kind?_of_namespace nested) nonempty
  obtain ⟨modules, -, -⟩ := moduleChain_shape (Recorded.gives_ofExcept_iff.mp given).1
  rw [conventional.moduleNames_eq nested named] at modules
  exact (Except.ok.inj modules).symm

/-- A class is named by the text of its name. -/
theorem name_of_class {resolver : Resolver} {site : Site} {name : Node} {text : String}
    (classLike : isClassType site.type = true) (found : site.node.child? "name" = some name)
    (read : document.text name = .ok text) (nonempty : site.elements document resolver ≠ []) :
    (site.elements document resolver).map Traits.name = [text] := by
  obtain ⟨after, given⟩ := gives_of_elements (kind?_of_class classLike) nonempty
  obtain ⟨traits, _, contributed, single⟩ := Recorded.gives_bind_iff.mp given
  obtain ⟨same, -⟩ := Recorded.gives_pure_iff.mp single
  obtain ⟨⟨other, foundOther, readOther⟩, -⟩ := classTraits_shape contributed
  cases found.symm.trans foundOther
  cases read.symm.trans readOther
  rw [← same]
  rfl

/-- So is a function, unless its name is a string. -/
theorem Conventional.name_of_function {resolver : Resolver} {site : Site} {name : Node}
    {text : String} (conventional : site.Conventional document)
    (function : isFunctionType site.type = true) (found : site.node.child? "name" = some name)
    (read : document.text name = .ok text) (nonempty : site.elements document resolver ≠ []) :
    (site.elements document resolver).map Traits.name = [text] := by
  obtain ⟨after, given⟩ := gives_of_elements (kind?_of_function function) nonempty
  obtain ⟨traits, contributed, same, -⟩ := gives_single_iff.mp given
  obtain ⟨_, _, _, _, named, -, rfl⟩ := methodTraits_built contributed
  rw [declaredName, requiredField_eq_ok_iff.mpr found] at named
  have plain : (name.type == "string") = false := by
    simpa using conventional.function function name found
  simp only [bind, Except.bind, read, plain] at named
  cases named
  rw [← same]
  rfl

end Site

end SourceOutline
