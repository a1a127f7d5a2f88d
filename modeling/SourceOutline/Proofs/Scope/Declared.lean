import SourceOutline.Proofs.Journal
import SourceOutline.Scope.Declared

/-!
# Which declarations have elements

The scopes of a file know more names than its outline has elements for: variables,
interfaces, enumerations and type aliases have none, and imports appear in the outline as
edges to other modules. Classes, functions and namespaces are known to both. Of these, the
ones that open no scope are declared by the text of their names.
-/

namespace SourceOutline

/-- Declarations that scopes and outlines share: classes, functions and namespaces. -/
def Declaration.isOutlined (declaration : Declaration) : Bool :=
  match declaration.form with
  | .plain type => isClassType type || isFunctionType type || isNamespaceType type
  | _ => false

theorem forall_collectMap {α β : Type} {property : β → Prop} {f : α → Except Failure (List β)}
    (each : ∀ value part, f value = .ok part → ∀ result ∈ part, property result)
    {values : List α} {results : List β} (collected : collectMap f values = .ok results) :
    ∀ result ∈ results, property result := by
  induction values generalizing results with
  | nil =>
      cases collected
      exact nofun
  | cons value values ih =>
      obtain ⟨first, here, collected⟩ := bind_eq_ok_iff.mp collected
      obtain ⟨others, later, collected⟩ := bind_eq_ok_iff.mp collected
      cases collected
      intro result member
      rcases List.mem_append.mp member with inFirst | inOthers
      · exact each value first here result inFirst
      · exact ih later result inOthers

namespace Site

variable {document : Document}

theorem declaredVariable_form (site : Site) (namings : List Naming)
    (declared : site.declaredVariable document = .ok namings) :
    ∀ naming ∈ namings, naming.2.form = .plain "variable_declarator" := by
  rw [declaredVariable] at declared
  split at declared
  · next declarator _ =>
    split at declared
    · obtain ⟨name, -, declared⟩ := bind_eq_ok_iff.mp declared
      cases declared
      simpa using beq_iff_eq.mp declarator
    · cases declared
      exact nofun
  · cases declared
    exact nofun

theorem declaredSpecifier_isImport {source : Option String} (site : Site)
    (namings : List Naming) (declared : site.declaredSpecifier document source = .ok namings) :
    ∀ naming ∈ namings, naming.2.form.isImport = true := by
  rw [declaredSpecifier] at declared
  split at declared
  · obtain ⟨localName, -, declared⟩ := bind_eq_ok_iff.mp declared
    obtain ⟨exported, -, declared⟩ := bind_eq_ok_iff.mp declared
    cases declared
    simp [Form.isImport]
  · cases declared
    exact nofun

theorem declaredImportPart_isImport {source : Option String} (site : Site)
    (namings : List Naming) (declared : site.declaredImportPart document source = .ok namings) :
    ∀ naming ∈ namings, naming.2.form.isImport = true := by
  rw [declaredImportPart] at declared
  split at declared
  · obtain ⟨name, -, declared⟩ := bind_eq_ok_iff.mp declared
    cases declared
    simp [Form.isImport]
  · split at declared
    · obtain ⟨name, -, declared⟩ := bind_eq_ok_iff.mp declared
      cases declared
      simp [Form.isImport]
    · cases declared
  · exact forall_collectMap declaredSpecifier_isImport declared
  · cases declared
    exact nofun

theorem declaredImport_isImport {source : Option String} (site : Site)
    (namings : List Naming) (declared : site.declaredImport document source = .ok namings) :
    ∀ naming ∈ namings, naming.2.form.isImport = true := by
  rw [declaredImport] at declared
  split at declared
  · split at declared
    · obtain ⟨name, -, declared⟩ := bind_eq_ok_iff.mp declared
      obtain ⟨specifier, -, declared⟩ := bind_eq_ok_iff.mp declared
      cases declared
      simp [Form.isImport]
    · cases declared
  · exact forall_collectMap declaredImportPart_isImport declared
  · cases declared
    exact nofun

/-- An alias is declared by its first name and stands for the text of its last. -/
theorem declaredAlias_eq {site : Site} {namings : List Naming}
    (declared : site.declaredAlias document = .ok namings) :
    ∃ name expression text target, site.node.namedChildren.head? = some name ∧
      site.node.namedChildren.getLast? = some expression ∧ document.text name = .ok text ∧
      document.text expression = .ok target ∧ namings = [(text, ⟨.importAlias target, site⟩)] := by
  rw [declaredAlias] at declared
  split at declared
  · next name expression first last =>
    obtain ⟨text, read, declared⟩ := bind_eq_ok_iff.mp declared
    obtain ⟨target, spelled, declared⟩ := bind_eq_ok_iff.mp declared
    cases declared
    exact ⟨name, expression, text, target, first, last, read, spelled, rfl⟩
  · cases declared

/-- The statements that open no scope, by what they declare: one thing with a name of its
own, variables, names from another module, an alias, or nothing. -/
theorem declared_cases {site : Site} {namings : List Naming}
    (declared : site.declared document = .ok namings) :
    (isNamedDeclarationType site.type = true ∧ ∀ naming ∈ namings,
        naming.2 = ⟨.plain site.type, site⟩ ∧
        ∃ name, site.node.child? "name" = some name ∧ document.text name = .ok naming.1) ∨
      (∀ naming ∈ namings, naming.2.form = .plain "variable_declarator") ∨
      (∀ naming ∈ namings, naming.2.form.isImport = true) ∨
      (site.type = "import_alias" ∧ site.declaredAlias document = .ok namings) := by
  rw [Site.declared] at declared
  split at declared
  · next declaring =>
    refine .inl ⟨declaring, ?_⟩
    split at declared
    · next name found =>
      obtain ⟨text, read, declared⟩ := bind_eq_ok_iff.mp declared
      cases declared
      simpa using ⟨name, found, read⟩
    · cases declared
      exact nofun
  · refine .inr ?_
    split at declared
    · exact .inl (forall_collectMap declaredVariable_form declared)
    · exact .inl (forall_collectMap declaredVariable_form declared)
    · obtain ⟨source, -, declared⟩ := bind_eq_ok_iff.mp declared
      exact .inr (.inl (forall_collectMap declaredImport_isImport declared))
    · next type => exact .inr (.inr ⟨type, declared⟩)
    · cases declared
      exact .inl nofun

theorem isOutlined_of_isImport {declaration : Declaration}
    (imported : declaration.form.isImport = true) : declaration.isOutlined = false := by
  obtain ⟨form, site⟩ := declaration
  cases form with
  | plain _ => cases imported
  | _ => rfl

/-- Among the statements that open no scope, only classes and functions are shared. -/
theorem declared_outlined {site : Site} {namings : List Naming}
    (declared : site.declared document = .ok namings) {naming : Naming}
    (member : naming ∈ namings) (outlined : naming.2.isOutlined = true) :
    naming.2.site = site ∧ (isClassType site.type = true ∨ isFunctionType site.type = true) ∧
      ∃ name, site.node.child? "name" = some name ∧ document.text name = .ok naming.1 := by
  rcases declared_cases declared with
    ⟨declaring, each⟩ | values | imports | ⟨-, aliased⟩
  · obtain ⟨same, name, found, read⟩ := each naming member
    rw [same] at outlined ⊢
    refine ⟨rfl, ?_, name, found, read⟩
    simp only [isNamedDeclarationType, Bool.or_eq_true, beq_iff_eq] at declaring
    rcases declaring with (((classLike | function) | type) | type) | type
    · exact .inl classLike
    · exact .inr function
    all_goals
      simp [Declaration.isOutlined, type, isClassType, isFunctionType, isNamespaceType]
        at outlined
  · simp [Declaration.isOutlined, values naming member, isClassType, isFunctionType,
      isNamespaceType] at outlined
  · rw [isOutlined_of_isImport (imports naming member)] at outlined
    cases outlined
  · obtain ⟨_, _, _, _, -, -, -, -, rfl⟩ := declaredAlias_eq aliased
    obtain rfl := List.mem_singleton.mp member
    cases outlined

/-- An alias is declared by an alias statement. -/
theorem declared_alias {site : Site} {namings : List Naming}
    (declared : site.declared document = .ok namings) {naming : Naming}
    (member : naming ∈ namings) {target : String} (form : naming.2.form = .importAlias target) :
    site.type = "import_alias" ∧ naming.2.site = site ∧
      ∃ name expression, site.node.namedChildren.head? = some name ∧
        site.node.namedChildren.getLast? = some expression ∧
        document.text name = .ok naming.1 ∧ document.text expression = .ok target := by
  rcases declared_cases declared with ⟨-, each⟩ | values | imports | ⟨type, aliased⟩
  · rw [(each naming member).1] at form
    cases form
  · cases (values naming member).symm.trans form
  · have imported := imports naming member
    rw [form] at imported
    cases imported
  · obtain ⟨name, expression, text, spelled, first, last, read, read', rfl⟩ :=
      declaredAlias_eq aliased
    obtain rfl := List.mem_singleton.mp member
    cases form
    exact ⟨type, rfl, name, expression, first, last, read, read'⟩

end Site

end SourceOutline
