import SourceOutline.Outline.Contribution
import SourceOutline.Proofs.BaseName
import SourceOutline.Proofs.Scope.Exported

/-!
# Bases from named imports

A base that a specifier between the braces of an import brings in is written as two segments, the
module and the name under which that module exports it. The exported name takes the way of a local
one: it is split at its dots before the module is put in front. A name that is one segment arrives
unchanged, whatever the alias. A name in quotes never does, since its quotes stay on, and an empty
one is replaced by the name in this file.
-/

namespace SourceOutline

namespace Site

variable {document : Document} {source : Option String} {namings : List Naming} {naming : Naming}

/-- A specifier is known in the other module by its name. -/
theorem declaredSpecifier_eq {site : Site}
    (declared : site.declaredSpecifier document source = .ok namings) (member : naming ∈ namings) :
    site.type = "import_specifier" ∧ ∃ exported, naming.2 = ⟨.namedImport source exported, site⟩ ∧
      document.text? (site.node.child? "name") = .ok exported := by
  rw [declaredSpecifier] at declared
  split at declared
  · next specifier =>
    obtain ⟨localName, -, declared⟩ := bind_eq_ok_iff.mp declared
    obtain ⟨exported, read, declared⟩ := bind_eq_ok_iff.mp declared
    cases declared
    obtain rfl := List.mem_singleton.mp member
    exact ⟨beq_iff_eq.mp specifier, exported, rfl, read⟩
  · cases declared
    cases member

/-- Of the parts of an import clause only the braces hold specifiers. -/
theorem specifier_of_declaredImportPart {site : Site}
    (declared : site.declaredImportPart document source = .ok namings) (member : naming ∈ namings)
    {module : Option String} {written : String}
    (form : naming.2.form = .namedImport module written) :
    ∃ specifier, (site.below specifier).type = "import_specifier" ∧
      naming.2 = ⟨.namedImport source written, site.below specifier⟩ ∧
      document.text? (specifier.child? "name") = .ok written := by
  rw [declaredImportPart] at declared
  split at declared
  · obtain ⟨name, -, declared⟩ := bind_eq_ok_iff.mp declared
    cases declared
    obtain rfl := List.mem_singleton.mp member
    cases form
  · split at declared
    · obtain ⟨name, -, declared⟩ := bind_eq_ok_iff.mp declared
      cases declared
      obtain rfl := List.mem_singleton.mp member
      cases form
    · cases declared
  · obtain ⟨child, among, part, here, inPart⟩ := exists_of_mem_collectMap declared member
    obtain ⟨specifier, -, rfl⟩ := List.mem_map.mp among
    obtain ⟨type, exported, same, read⟩ := declaredSpecifier_eq here inPart
    rw [same] at form
    cases form
    exact ⟨specifier, type, same, read⟩
  · cases declared
    cases member

/-- Of the children of an import only its clause holds specifiers. -/
theorem specifier_of_declaredImport {site : Site}
    (declared : site.declaredImport document source = .ok namings) (member : naming ∈ namings)
    {module : Option String} {written : String}
    (form : naming.2.form = .namedImport module written) :
    ∃ braces specifier, ((site.below braces).below specifier).type = "import_specifier" ∧
      naming.2 = ⟨.namedImport source written, (site.below braces).below specifier⟩ ∧
      document.text? (specifier.child? "name") = .ok written := by
  rw [declaredImport] at declared
  split at declared
  · split at declared
    · obtain ⟨name, -, declared⟩ := bind_eq_ok_iff.mp declared
      obtain ⟨specifier, -, declared⟩ := bind_eq_ok_iff.mp declared
      cases declared
      obtain rfl := List.mem_singleton.mp member
      cases form
    · cases declared
  · obtain ⟨child, among, part, here, inPart⟩ := exists_of_mem_collectMap declared member
    obtain ⟨braces, -, rfl⟩ := List.mem_map.mp among
    obtain ⟨specifier, type, same, read⟩ := specifier_of_declaredImportPart here inPart form
    exact ⟨braces, specifier, type, same, read⟩
  · cases declared
    cases member

/-- A site is a specifier of an import statement, with the module that the statement names and the
text of the specifier's name. -/
structure IsSpecifierOf (document : Document) (site : Site) (statement : Node)
    (module : Option String) (written : String) : Prop where
  type : site.type = "import_specifier"
  around : ∃ braces clause above, site.ancestors = braces :: clause :: statement :: above
  statementType : statement.type = "import_statement"
  source : moduleSpecifier document statement = .ok module
  name : document.text? (site.node.child? "name") = .ok written

/-- Named imports are declared by the specifiers of import statements. -/
theorem specifier_of_declared {site : Site} (declared : site.declared document = .ok namings)
    (member : naming ∈ namings) {module : Option String} {written : String}
    (form : naming.2.form = .namedImport module written) :
    IsSpecifierOf document naming.2.site site.node module written := by
  rw [Site.declared] at declared
  split at declared
  · split at declared
    · obtain ⟨text, -, declared⟩ := bind_eq_ok_iff.mp declared
      cases declared
      obtain rfl := List.mem_singleton.mp member
      cases form
    · cases declared
      cases member
  · split at declared
    · cases (forall_collectMap declaredVariable_form declared naming member).symm.trans form
    · cases (forall_collectMap declaredVariable_form declared naming member).symm.trans form
    · next type =>
      obtain ⟨source, specified, declared⟩ := bind_eq_ok_iff.mp declared
      obtain ⟨child, among, part, here, inPart⟩ := exists_of_mem_collectMap declared member
      obtain ⟨clause, -, rfl⟩ := List.mem_map.mp among
      obtain ⟨braces, specifier, specifierType, same, read⟩ :=
        specifier_of_declaredImport here inPart form
      rw [same] at form ⊢
      cases form
      exact ⟨specifierType, ⟨braces, clause, site.ancestors, rfl⟩, type, specified, read⟩
    · obtain ⟨_, _, _, _, -, -, -, -, rfl⟩ := declaredAlias_eq declared
      obtain rfl := List.mem_singleton.mp member
      cases form
    · cases declared
      cases member

end Site

/-- A name, with or without its quotes, is what splitting leaves of the text only if it has no
quotes and is a single segment. -/
theorem QualifiedName.split_eq_exported_iff {written localName exported : String}
    (reads : exported = written ∨ exported = Text.unquote written) :
    split (if written = "" then localName else written) = [exported] ↔
      exported = written ∧ (written = "" → localName = "") ∧ split written = [written] := by
  constructor
  · intro whole
    by_cases empty : written = ""
    · subst empty
      obtain rfl : exported = "" := reads.elim id id
      rw [if_pos rfl] at whole
      obtain ⟨dots, same, -, none⟩ := split_eq_singleton whole
      refine ⟨rfl, fun _ => String.toList_injective ?_, rfl⟩
      rw [same, none (by simp)]
      rfl
    · rw [if_neg empty] at whole
      obtain rfl : exported = written := by
        rcases reads with same | rfl
        · exact same
        · exact eq_of_split_eq_unquote whole
      exact ⟨rfl, fun none => absurd none empty, whole⟩
  · rintro ⟨rfl, empty, whole⟩
    split
    · next none =>
      rw [empty none]
      exact none ▸ whole
    · exact whole

namespace Scopes

variable {document : Document} {scopes : Scopes} {moduleName : Option String} {symbol : Symbol}
  {module : Option String} {written : String} {specifier : Site}

/-- Every named import of a bound file is declared by a specifier. -/
theorem specifier_of_origin (bound : Scopes.bind document moduleName = .ok scopes)
    {path : List String} (found : scopes.symbol? path = some symbol)
    (origin : symbol.origin? = some ⟨.namedImport module written, specifier⟩) :
    ∃ statement, Site.IsSpecifierOf document specifier statement module written := by
  have declares := declares_of_mem_declarations bound found (List.mem_of_head? origin)
  generalize declared : (⟨.namedImport module written, specifier⟩ : Declaration) = declaration
    at declares
  cases declares with
  | opens _ _ _ _ => cases declared
  | @names site _ _ naming _ isDeclared member =>
      have form : naming.2.form = .namedImport module written :=
        congrArg Declaration.form declared.symm
      have place : specifier = naming.2.site := congrArg Declaration.site declared
      exact ⟨site.node, place ▸ Site.specifier_of_declared isDeclared member form⟩

/-- The text that is split for a named import: its name in the other module or, if that is empty,
its name in this file. -/
theorem qualifiedName_of_specifier
    (origin : symbol.origin? = some ⟨.namedImport module written, specifier⟩) :
    scopes.qualifiedName symbol = if written = "" then symbol.name else written := by
  have imported : symbol.isImported = true := by rw [Symbol.isImported, origin]; rfl
  rw [qualifiedName, if_pos imported, origin]
  simp [Form.exported?]

theorem ofResolved_of_specifier
    (origin : symbol.origin? = some ⟨.namedImport module written, specifier⟩) (name : String) :
    QualifiedName.ofResolved symbol name = ⟨module.getD "" :: QualifiedName.split name⟩ := by
  rw [QualifiedName.ofResolved, origin]
  rfl

end Scopes

namespace Site

variable {document : Document} {scopes : Scopes} {expression specifier : Site} {symbol : Symbol}

/-- A base that is bound to a specifier is the module, then the segments of the name. -/
theorem baseName_of_specifier {module : Option String} {written : String}
    (resolved : scopes.symbolAt document expression = .ok (some symbol))
    (origin : symbol.origin? = some ⟨.namedImport module written, specifier⟩) (before : Journal) :
    (expression.baseName document (scopes.resolver document)).Gives before
      ⟨module.getD "" :: QualifiedName.split (if written = "" then symbol.name else written)⟩
      { before with lookups := before.lookups ++ [expression.node.id] } := by
  have given : (expression.baseName document (scopes.resolver document)).Gives before
      (QualifiedName.ofResolved symbol (scopes.qualifiedName symbol)) _ :=
    baseName_gives resolved before
  rwa [Scopes.qualifiedName_of_specifier origin, Scopes.ofResolved_of_specifier origin] at given

/-- Bases from named imports. The symbol is declared by a specifier of an import statement, and the
base is written as the module that the statement names, followed by the segments of the specifier's
name or, if that is empty, of the name in this file. So it is the module and the exported name
exactly if the name stands there without quotes, if it is not empty unless the name in this file is
empty too, and if it is a single segment. -/
theorem baseName_of_specifier_iff {moduleName : Option String}
    (bound : Scopes.bind document moduleName = .ok scopes)
    (resolved : scopes.symbolAt document expression = .ok (some symbol)) {source written : String}
    (origin : symbol.origin? = some ⟨.namedImport (some source) written, specifier⟩) {name : Node}
    (named : specifier.node.child? "name" = some name) (before : Journal) :
    ∃ statement exported, IsSpecifierOf document specifier statement (some source) written ∧
      document.text name = .ok written ∧ specifier.declaredName document = .ok exported ∧
      (expression.baseName document (scopes.resolver document)).Gives before
        ⟨source :: QualifiedName.split (if written = "" then symbol.name else written)⟩
        { before with lookups := before.lookups ++ [expression.node.id] } ∧
      ((expression.baseName document (scopes.resolver document)).Gives before
          ⟨[source, exported]⟩ { before with lookups := before.lookups ++ [expression.node.id] } ↔
        exported = written ∧ (written = "" → symbol.name = "") ∧
          QualifiedName.split written = [written]) := by
  obtain ⟨listing, groups⟩ := Scopes.exists_groups bound
  obtain ⟨statement, isSpecifier⟩ :=
    Scopes.specifier_of_origin bound (groups.stands_symbolAt resolved) origin
  have read : document.text name = .ok written := by
    have read := isSpecifier.name
    rwa [named] at read
  have declared : specifier.declaredName document =
      .ok (if name.type == "string" then Text.unquote written else written) := by
    have required : specifier.requiredField document "name" = .ok name := by
      rw [requiredField, named]
    exact bind_eq_ok_iff.mpr ⟨name, required, bind_eq_ok_iff.mpr ⟨written, read, rfl⟩⟩
  have given : (expression.baseName document (scopes.resolver document)).Gives before _ _ :=
    baseName_of_specifier resolved origin before
  refine ⟨statement, _, isSpecifier, read, declared, given, ?_⟩
  rw [← QualifiedName.split_eq_exported_iff (by split <;> simp)]
  constructor
  · intro exact
    exact (List.cons.inj (congrArg QualifiedName.parts (given.unique exact))).2
  · intro whole
    rw [whole] at given
    exact given

end Site

/-- The tree of `import { A as B, "a-b" as C } from "@s/p.q";` and, behind it,
`class X extends B {} class Y extends C {}`. -/
def renamedImports : Document where
  content := ("import \x7b A as B, \"a-b\" as C \x7d from \"@s/p.q\"; " ++
    "class X extends B \x7b\x7d class Y extends C \x7b\x7d").toUTF8
  root := ⟨⟨0, "program", 0, true, none, 0, 86⟩, [
    ⟨⟨1, "import_statement", 0, true, none, 0, 44⟩, [
      ⟨⟨2, "import_clause", 0, true, none, 7, 29⟩, [
        ⟨⟨3, "named_imports", 0, true, none, 7, 29⟩, [
          ⟨⟨4, "import_specifier", 0, true, none, 9, 15⟩, [
            ⟨⟨5, "identifier", 0, true, some "name", 9, 10⟩, []⟩,
            ⟨⟨6, "identifier", 0, true, some "alias", 14, 15⟩, []⟩]⟩,
          ⟨⟨7, "import_specifier", 0, true, none, 17, 27⟩, [
            ⟨⟨8, "string", 0, true, some "name", 17, 22⟩, []⟩,
            ⟨⟨9, "identifier", 0, true, some "alias", 26, 27⟩, []⟩]⟩]⟩]⟩,
      ⟨⟨10, "string", 0, true, some "source", 35, 43⟩, []⟩]⟩,
    ⟨⟨11, "class_declaration", 0, true, none, 45, 65⟩, [
      ⟨⟨12, "type_identifier", 0, true, some "name", 51, 52⟩, []⟩,
      ⟨⟨13, "class_heritage", 0, true, none, 53, 62⟩, [
        ⟨⟨14, "extends_clause", 0, true, none, 53, 62⟩, [
          ⟨⟨15, "identifier", 0, true, some "value", 61, 62⟩, []⟩]⟩]⟩]⟩,
    ⟨⟨16, "class_declaration", 0, true, none, 66, 86⟩, [
      ⟨⟨17, "type_identifier", 0, true, some "name", 72, 73⟩, []⟩,
      ⟨⟨18, "class_heritage", 0, true, none, 74, 83⟩, [
        ⟨⟨19, "extends_clause", 0, true, none, 74, 83⟩, [
          ⟨⟨20, "identifier", 0, true, some "value", 82, 83⟩, []⟩]⟩]⟩]⟩]⟩

set_option maxRecDepth 10000 in
/-- The base of `X` is named as the other module exports it, and the dots of the module stay. -/
theorem renamedImports_exported : ∃ scopes base symbol specifier,
    Scopes.bind renamedImports none = .ok scopes ∧ renamedImports.site? 15 = some base ∧
      scopes.symbolAt renamedImports base = .ok (some symbol) ∧ symbol.name = "B" ∧
      symbol.origin? = some ⟨.namedImport (some "@s/p.q") "A", specifier⟩ ∧
      (base.baseName renamedImports (scopes.resolver renamedImports)).Gives {}
        ⟨["@s/p.q", "A"]⟩ { lookups := [15] } := by
  obtain ⟨scopes, base, trails, symbol, specifier, name, bound, atBase, denotes, once, localName,
      origin, named, plain⟩ : ∃ scopes base trails symbol specifier name,
        Scopes.bind renamedImports none = .ok scopes ∧ renamedImports.site? 15 = some base ∧
        scopes.Denotes renamedImports base trails symbol ∧ (∀ trail ∈ trails, trail.Nodup) ∧
        symbol.name = "B" ∧
        symbol.origin? = some ⟨.namedImport (some "@s/p.q") "A", specifier⟩ ∧
        specifier.node.child? "name" = some name ∧
        specifier.declaredName renamedImports = .ok "A" :=
    ⟨_, _, _, _, _, _, rfl, rfl, .identifier rfl rfl rfl (.arrived rfl), by decide, rfl, rfl, rfl,
      rfl⟩
  obtain ⟨listing, groups⟩ := Scopes.exists_groups bound
  have resolved := groups.symbolAt_of_denotes denotes once
  obtain ⟨statement, exported, -, -, read, -, exact⟩ :=
    Site.baseName_of_specifier_iff bound resolved origin named {}
  obtain rfl : "A" = exported := Except.ok.inj (plain.symm.trans read)
  have given := exact.mpr ⟨rfl, fun empty => absurd empty (by decide), by decide⟩
  rw [Document.id_of_site? atBase] at given
  exact ⟨scopes, base, symbol, specifier, bound, atBase, resolved, localName, origin, given⟩

set_option maxRecDepth 10000 in
/-- The base of `Y` is exported as `a-b` and written with the quotes around that name. -/
theorem renamedImports_keeps_quotes : ∃ scopes base symbol specifier,
    Scopes.bind renamedImports none = .ok scopes ∧ renamedImports.site? 20 = some base ∧
      scopes.symbolAt renamedImports base = .ok (some symbol) ∧
      symbol.origin? = some ⟨.namedImport (some "@s/p.q") "\"a-b\"", specifier⟩ ∧
      specifier.declaredName renamedImports = .ok "a-b" ∧
      (base.baseName renamedImports (scopes.resolver renamedImports)).Gives {}
        ⟨["@s/p.q", "\"a-b\""]⟩ { lookups := [20] } ∧
      ∀ after, ¬ (base.baseName renamedImports (scopes.resolver renamedImports)).Gives {}
        ⟨["@s/p.q", "a-b"]⟩ after := by
  obtain ⟨scopes, base, trails, symbol, specifier, bound, atBase, denotes, once, origin, quoted⟩ :
      ∃ scopes base trails symbol specifier,
        Scopes.bind renamedImports none = .ok scopes ∧ renamedImports.site? 20 = some base ∧
        scopes.Denotes renamedImports base trails symbol ∧ (∀ trail ∈ trails, trail.Nodup) ∧
        symbol.origin? = some ⟨.namedImport (some "@s/p.q") "\"a-b\"", specifier⟩ ∧
        specifier.declaredName renamedImports = .ok "a-b" :=
    ⟨_, _, _, _, _, rfl, rfl, .identifier rfl rfl rfl (.arrived rfl), by decide, rfl, rfl⟩
  obtain ⟨listing, groups⟩ := Scopes.exists_groups bound
  have resolved := groups.symbolAt_of_denotes denotes once
  have given := Site.baseName_of_specifier resolved origin {}
  rw [Document.id_of_site? atBase, if_neg (by decide)] at given
  refine ⟨scopes, base, symbol, specifier, bound, atBase, resolved, origin, quoted, given, ?_⟩
  intro after exported
  exact absurd (given.unique exported) (by decide)

end SourceOutline
