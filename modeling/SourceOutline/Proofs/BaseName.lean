import SourceOutline.BaseName
import SourceOutline.Proofs.QualifiedName
import SourceOutline.Proofs.Scope.Resolution

/-!
# Names of resolved base types

The name of a base type travels through a text: the names on the way to its symbol are joined
with dots, possibly behind a quoted module name, and the text is split again and unquoted. For
a symbol of this file the steps cancel, and the name consists of the path of the symbol, behind
the module name if the outermost symbol is exported from a module. A symbol that stands for a
whole other module, or for its default, keeps its local name.
-/

namespace SourceOutline

namespace Site

/-- Resolving an expression that denotes a symbol notes the lookup and nothing else. -/
theorem baseName_gives {document : Document} {resolver : Resolver} {site : Site} {symbol : Symbol}
    (resolved : resolver.symbolAt site = .ok (some symbol)) (before : Journal) :
    (site.baseName document resolver).Gives before
      (QualifiedName.ofResolved symbol (resolver.qualifiedName symbol))
      { before with lookups := before.lookups ++ [site.node.id] } := by
  have noted : (Recorded.noteLookup site.node.id).Gives before ()
      { before with lookups := before.lookups ++ [site.node.id] } := rfl
  refine Recorded.gives_bind_iff.mpr ⟨(), _, noted, ?_⟩
  have found := Recorded.gives_ofExcept_iff.mpr (And.intro resolved (Eq.refl
    { before with lookups := before.lookups ++ [site.node.id] }))
  exact Recorded.gives_bind_iff.mpr ⟨some symbol, _, found, Recorded.gives_pure_iff.mpr ⟨rfl, rfl⟩⟩

end Site

namespace QualifiedName

/-- Unless the symbol is a named import, only the quotes of a leading module are taken off. -/
theorem ofResolved_eq {symbol : Symbol} {name first : String} {rest : List String}
    (unnamed : ∀ source exported,
      symbol.origin?.map Declaration.form ≠ some (.namedImport source exported))
    (parts : split name = first :: rest) :
    ofResolved symbol name =
      if first.toList.head? = some '"' then ⟨Text.unquote first :: rest⟩ else ⟨first :: rest⟩ := by
  rw [ofResolved, parts]
  split
  · next named => exact absurd named (unnamed _ _)
  · next same _ =>
    obtain ⟨rfl, rfl⟩ := List.cons.inj same
    simp
  · next empty _ => cases empty

theorem ofResolved_of_unquoted {symbol : Symbol} {name first : String} {rest : List String}
    (unnamed : ∀ source exported,
      symbol.origin?.map Declaration.form ≠ some (.namedImport source exported))
    (parts : split name = first :: rest) (unquoted : first.toList.head? ≠ some '"') :
    ofResolved symbol name = ⟨first :: rest⟩ := by
  rw [ofResolved_eq unnamed parts, if_neg unquoted]

end QualifiedName

namespace Scopes

variable {document : Document} {scopes : Scopes} {moduleName : Option String} {symbol : Symbol}

theorem not_namedImport_of_local (isLocal : symbol.isImported = false) (source : Option String)
    (exported : String) :
    symbol.origin?.map Declaration.form ≠ some (.namedImport source exported) := by
  intro named
  obtain ⟨declaration, origin, form⟩ := Option.map_eq_some_iff.mp named
  simp [Symbol.isImported, origin, form, Form.isImport] at isLocal

theorem moduleName_of_bind (bound : Scopes.bind document moduleName = .ok scopes) :
    scopes.moduleName = moduleName := by
  obtain ⟨bindings, -, bound⟩ := bind_eq_ok_iff.mp bound
  cases bound
  rfl

/-- The outermost name on the way to a symbol is a symbol itself. -/
theorem exists_outermost (stands : scopes.Stands symbol) :
    ∃ outermost, symbol.path.head?.bind (Symbol.find? scopes.globals) = some outermost ∧
      scopes.symbol? (symbol.path.take 1) = some outermost := by
  obtain ⟨first, rest, path⟩ := List.exists_cons_of_ne_nil symbol.path_ne_nil
  rw [Stands, symbol?_eq_descend, path] at stands
  rw [path]
  cases top : Symbol.find? scopes.globals first with
  | none =>
      rw [Symbol.descend, top, Symbol.follow_none] at stands
      cases stands
  | some outermost => exact ⟨outermost, top, top⟩

/-- The module name, where it stands in front of the path of a symbol. -/
def qualifier (scopes : Scopes) (outermost : Symbol) : Option String :=
  scopes.moduleName.filter fun module =>
    module != "" && scopes.isExternal && outermost.isExported

theorem qualifiedName_of_local {outermost : Symbol} (isLocal : symbol.isImported = false)
    (top : symbol.path.head?.bind (Symbol.find? scopes.globals) = some outermost) :
    scopes.qualifiedName symbol =
      match scopes.qualifier outermost with
      | some module => "\"" ++ module ++ "\"." ++ Text.join '.' symbol.path
      | none => Text.join '.' symbol.path := by
  rw [qualifiedName, if_neg (by rw [isLocal]; exact Bool.false_ne_true), qualifier]
  simp only [top, Option.any_some]
  cases scopes.moduleName with
  | none => rfl
  | some module =>
      by_cases qualifies : (scopes.isExternal && module != "" && outermost.isExported) = true
      · have kept : (module != "" && scopes.isExternal && outermost.isExported) = true := by
          rwa [Bool.and_comm (module != "")]
        simp [qualifies, Option.filter, kept]
      · have dropped : ¬ (module != "" && scopes.isExternal && outermost.isExported) = true := by
          rwa [Bool.and_comm (module != "")]
        simp [qualifies, Option.filter, dropped]

/-- The name of a symbol of this file is its path, behind the module name if that is not empty,
the file is a module and the outermost symbol of the path is exported. -/
theorem qualifiedName_eq_written (bound : Scopes.bind document moduleName = .ok scopes)
    {names : List String} (found : scopes.symbol? names = some symbol)
    (isLocal : symbol.isImported = false) :
    ∃ outermost, scopes.symbol? (names.take 1) = some outermost ∧
      scopes.qualifiedName symbol = QualifiedName.written
        (moduleName.filter fun module =>
          module != "" && scopes.isExternal && outermost.isExported) names := by
  obtain ⟨listing, groups⟩ := exists_groups bound
  obtain ⟨rfl, stands⟩ := groups.stands_of_symbol? found
  obtain ⟨outermost, top, first⟩ := exists_outermost stands
  refine ⟨outermost, first, ?_⟩
  rw [qualifiedName_of_local isLocal top, qualifier, moduleName_of_bind bound]
  rfl

/-- Joining, quoting, splitting and unquoting cancel. -/
theorem ofResolved_of_local {outermost : Symbol} (isLocal : symbol.isImported = false)
    (top : symbol.path.head?.bind (Symbol.find? scopes.globals) = some outermost)
    (unquoted : ∀ module ∈ scopes.moduleName, '"' ∉ module.toList)
    (plain : ∀ name ∈ symbol.path, IsPlainName name) :
    QualifiedName.ofResolved symbol (scopes.qualifiedName symbol) =
      ⟨(scopes.qualifier outermost).toList ++ symbol.path⟩ := by
  have unnamed := not_namedImport_of_local isLocal
  obtain ⟨first, rest, path⟩ := List.exists_cons_of_ne_nil symbol.path_ne_nil
  rw [qualifiedName_of_local isLocal top, path]
  rw [path] at plain
  have firstPlain := plain first List.mem_cons_self
  have undotted := fun name member => (plain name member).undotted
  cases qualified : scopes.qualifier outermost with
  | none =>
      exact QualifiedName.ofResolved_of_unquoted unnamed
        (QualifiedName.split_join firstPlain.nonempty undotted firstPlain.unquoted)
        firstPlain.unquoted
  | some module =>
      have given := unquoted module (Option.eq_some_of_filter_eq_some qualified)
      have parts := QualifiedName.split_quoted given firstPlain.nonempty undotted
      rw [QualifiedName.ofResolved_eq unnamed parts, if_pos (by simp), Text.unquote_quoted]
      rfl

/-- A symbol from another module without a name there keeps its own. -/
theorem ofResolved_of_wholeImport {declaration : Declaration}
    (origin : symbol.origin? = some declaration) (imported : declaration.form.isImport = true)
    (whole : declaration.form.exported? = none) (plain : IsPlainName symbol.name) :
    QualifiedName.ofResolved symbol (scopes.qualifiedName symbol) = ⟨[symbol.name]⟩ := by
  have named : scopes.qualifiedName symbol = Text.join '.' [symbol.name] := by
    have isImported : symbol.isImported = true := by rw [Symbol.isImported, origin]; exact imported
    rw [qualifiedName, if_pos isImported, origin, Option.bind_some, whole, Text.join_singleton]
  have unnamed (source : Option String) (exported : String) :
      symbol.origin?.map Declaration.form ≠ some (.namedImport source exported) := by
    intro same
    rw [origin] at same
    rw [Option.some.inj same] at whole
    cases whole
  rw [named]
  refine QualifiedName.ofResolved_of_unquoted unnamed ?_ plain.unquoted
  exact QualifiedName.split_join plain.nonempty (by simpa using plain.undotted) plain.unquoted

end Scopes

/-- The tree of `import D from "d"; export namespace S { export class T {} }` and, behind it,
`class U extends S.T {} class V extends D {}`. -/
def exportedBase : Document where
  content := ("import D from \"d\"; export namespace S { export class T {} } " ++
    "class U extends S.T {} class V extends D {}").toUTF8
  root := ⟨⟨0, "program", 0, true, none, 0, 103⟩, [
    ⟨⟨1, "import_statement", 0, true, none, 0, 18⟩, [
      ⟨⟨2, "import_clause", 0, true, none, 7, 8⟩, [
        ⟨⟨3, "identifier", 0, true, none, 7, 8⟩, []⟩]⟩,
      ⟨⟨4, "string", 0, true, some "source", 14, 17⟩, []⟩]⟩,
    ⟨⟨5, "export_statement", 0, true, none, 19, 59⟩, [
      ⟨⟨6, "internal_module", 0, true, some "declaration", 26, 59⟩, [
        ⟨⟨7, "identifier", 0, true, some "name", 36, 37⟩, []⟩,
        ⟨⟨8, "statement_block", 0, true, some "body", 38, 59⟩, [
          ⟨⟨9, "export_statement", 0, true, none, 40, 57⟩, [
            ⟨⟨10, "class_declaration", 0, true, some "declaration", 47, 57⟩, [
              ⟨⟨11, "type_identifier", 0, true, some "name", 53, 54⟩, []⟩]⟩]⟩]⟩]⟩]⟩,
    ⟨⟨12, "class_declaration", 0, true, none, 60, 82⟩, [
      ⟨⟨13, "type_identifier", 0, true, some "name", 66, 67⟩, []⟩,
      ⟨⟨14, "class_heritage", 0, true, none, 68, 79⟩, [
        ⟨⟨15, "extends_clause", 0, true, none, 68, 79⟩, [
          ⟨⟨16, "member_expression", 0, true, some "value", 76, 79⟩, [
            ⟨⟨17, "identifier", 0, true, some "object", 76, 77⟩, []⟩,
            ⟨⟨18, "property_identifier", 0, true, some "property", 78, 79⟩, []⟩]⟩]⟩]⟩]⟩,
    ⟨⟨19, "class_declaration", 0, true, none, 83, 103⟩, [
      ⟨⟨20, "type_identifier", 0, true, some "name", 89, 90⟩, []⟩,
      ⟨⟨21, "class_heritage", 0, true, none, 91, 100⟩, [
        ⟨⟨22, "extends_clause", 0, true, none, 91, 100⟩, [
          ⟨⟨23, "identifier", 0, true, some "value", 99, 100⟩, []⟩]⟩]⟩]⟩]⟩

/-- Splitting undoes the writing of names: behind a module name exactly if that holds no quote,
and without one if the first name does not begin with a quote. The texts in question are those
that name the symbols of a bound file. -/
theorem QualifiedName.split_written_iff (names : List String) (nonempty : names ≠ [])
    (proper : ∀ name ∈ names, name ≠ "" ∧ '.' ∉ name.toList) :
    (∀ module, split (written (some module) names) = ("\"" ++ module ++ "\"") :: names ↔
        '"' ∉ module.toList) ∧
      ((names.head nonempty).toList.head? ≠ some '"' → split (written none names) = names) ∧
      ∀ document moduleName scopes symbol, Scopes.bind document moduleName = .ok scopes →
        scopes.symbol? names = some symbol → symbol.isImported = false →
        ∃ outermost, scopes.symbol? (names.take 1) = some outermost ∧
          scopes.qualifiedName symbol = written
            (moduleName.filter fun module =>
              module != "" && scopes.isExternal && outermost.isExported) names := by
  obtain ⟨first, rest, rfl⟩ := List.exists_cons_of_ne_nil nonempty
  have begins : first.toList ≠ [] := by simpa using (proper first List.mem_cons_self).1
  have undotted := fun name member => (proper name member).2
  refine ⟨fun module => split_quoted_iff begins undotted, split_join begins undotted, ?_⟩
  intro document moduleName scopes symbol bound found isLocal
  exact Scopes.qualifiedName_eq_written bound found isLocal

set_option maxRecDepth 10000 in
/-- Dots in a module name do no harm, a quote does. -/
theorem QualifiedName.split_written_cases :
    (∃ scopes symbol, Scopes.bind exportedBase (some "pkg/v1.2/main") = .ok scopes ∧
      scopes.symbol? ["S", "T"] = some symbol ∧
      scopes.qualifiedName symbol = written (some "pkg/v1.2/main") ["S", "T"]) ∧
      split (written (some "pkg/v1.2/main") ["S", "T"]) =
        ("\"" ++ "pkg/v1.2/main" ++ "\"") :: ["S", "T"] ∧
      split (written (some "a\".b") ["S", "T"]) ≠ ("\"" ++ "a\".b" ++ "\"") :: ["S", "T"] ∧
      split (written none ["S", "T"]) = ["S", "T"] := by
  obtain ⟨quoted, plain, qualified⟩ := split_written_iff ["S", "T"] (by decide) (by decide)
  refine ⟨?_, (quoted _).mpr (by decide), fun whole => (quoted _).mp whole (by decide),
    plain (by decide)⟩
  obtain ⟨scopes, symbol, top, bound, found, isLocal, external, first, exported⟩ :
      ∃ scopes symbol top, Scopes.bind exportedBase (some "pkg/v1.2/main") = .ok scopes ∧
        scopes.symbol? ["S", "T"] = some symbol ∧ symbol.isImported = false ∧
        scopes.isExternal = true ∧ scopes.symbol? ["S"] = some top ∧ top.isExported = true :=
    ⟨_, _, _, rfl, rfl, rfl, rfl, rfl, rfl⟩
  obtain ⟨outermost, outer, named⟩ := qualified _ _ scopes symbol bound found isLocal
  cases first.symm.trans outer
  refine ⟨scopes, symbol, bound, found, named.trans ?_⟩
  rw [external, exported]
  rfl

/-- The names of base types that denote a symbol. A symbol of this file with plain names is
named by its path, which leads to it, behind the module name if that is not empty, the file is
a module and the outermost symbol of the path is exported. What a default, namespace or require
clause imports is named by its local name. Only the lookup is noted in the journal. -/
theorem Site.baseName_exact {document : Document} {moduleName : Option String} {scopes : Scopes}
    (bound : Scopes.bind document moduleName = .ok scopes) {expression : Site} {symbol : Symbol}
    (resolved : scopes.symbolAt document expression = .ok (some symbol)) (before : Journal) :
    (symbol.isImported = false → (∀ module ∈ moduleName, '"' ∉ module.toList) →
        (∀ name ∈ symbol.path, IsPlainName name) →
      ∃ outermost, scopes.symbol? (symbol.path.take 1) = some outermost ∧
        scopes.symbol? symbol.path = some symbol ∧
        (expression.baseName document (scopes.resolver document)).Gives before
          ⟨(moduleName.filter fun module =>
            module != "" && scopes.isExternal && outermost.isExported).toList ++ symbol.path⟩
          { before with lookups := before.lookups ++ [expression.node.id] }) ∧
      (∀ declaration source, symbol.origin? = some declaration →
        (declaration.form = .defaultImport source ∨ declaration.form = .namespaceImport source ∨
          declaration.form = .requireImport source) → IsPlainName symbol.name →
        (expression.baseName document (scopes.resolver document)).Gives before ⟨[symbol.name]⟩
          { before with lookups := before.lookups ++ [expression.node.id] }) := by
  obtain ⟨listing, groups⟩ := Scopes.exists_groups bound
  have given : (expression.baseName document (scopes.resolver document)).Gives before
      (QualifiedName.ofResolved symbol (scopes.qualifiedName symbol)) _ :=
    Site.baseName_gives resolved before
  constructor
  · intro isLocal unquoted plain
    have stands := groups.stands_symbolAt resolved
    obtain ⟨outermost, top, first⟩ := Scopes.exists_outermost stands
    rw [← Scopes.moduleName_of_bind bound] at unquoted ⊢
    rw [Scopes.ofResolved_of_local isLocal top unquoted plain] at given
    exact ⟨outermost, first, stands, given⟩
  · intro declaration source origin form plain
    have imported : declaration.form.isImport = true ∧ declaration.form.exported? = none := by
      rcases form with form | form | form <;> rw [form] <;> exact ⟨rfl, rfl⟩
    rwa [Scopes.ofResolved_of_wholeImport origin imported.1 imported.2 plain] at given

set_option maxRecDepth 10000 in
/-- The dots of the module name stay, and the import keeps its name. -/
theorem exportedBase_exact : ∃ scopes base other,
    Scopes.bind exportedBase (some "pkg/v1.2/main") = .ok scopes ∧
      exportedBase.site? 16 = some base ∧ exportedBase.site? 23 = some other ∧
      (base.baseName exportedBase (scopes.resolver exportedBase)).Gives {}
        ⟨["pkg/v1.2/main", "S", "T"]⟩ { lookups := [16] } ∧
      (other.baseName exportedBase (scopes.resolver exportedBase)).Gives {} ⟨["D"]⟩
        { lookups := [23] } := by
  obtain ⟨scopes, base, other, trails, symbol, trails', imported, declaration, bound, atBase,
      atOther, denotes, once, denotes', once', external, exported, path, isLocal, name, origin,
      form⟩ : ∃ scopes base other trails symbol trails' imported declaration,
        Scopes.bind exportedBase (some "pkg/v1.2/main") = .ok scopes ∧
        exportedBase.site? 16 = some base ∧ exportedBase.site? 23 = some other ∧
        scopes.Denotes exportedBase base trails symbol ∧ (∀ trail ∈ trails, trail.Nodup) ∧
        scopes.Denotes exportedBase other trails' imported ∧ (∀ trail ∈ trails', trail.Nodup) ∧
        scopes.isExternal = true ∧ (scopes.symbol? ["S"]).map Symbol.isExported = some true ∧
        symbol.path = ["S", "T"] ∧ symbol.isImported = false ∧ imported.name = "D" ∧
        imported.origin? = some declaration ∧ declaration.form = .defaultImport (some "d") :=
    ⟨_, _, _, _, _, _, _, _, rfl, rfl, rfl,
      .member rfl rfl rfl (.identifier rfl rfl rfl (.arrived rfl)) rfl rfl (.arrived rfl),
      by decide, .identifier rfl rfl rfl (.arrived rfl), by decide,
      rfl, rfl, rfl, rfl, rfl, rfl, rfl⟩
  obtain ⟨listing, groups⟩ := Scopes.exists_groups bound
  have resolved := groups.symbolAt_of_denotes denotes once
  have resolved' := groups.symbolAt_of_denotes denotes' once'
  obtain ⟨outermost, top, -, given⟩ := (Site.baseName_exact bound resolved {}).1 isLocal
    (by simp) (by rw [path]; decide)
  have given' := (Site.baseName_exact bound resolved' {}).2 declaration (some "d") origin
    (.inl form) (by rw [name]; decide)
  have isExported : outermost.isExported = true := by
    rw [path] at top
    rw [show scopes.symbol? ["S"] = some outermost from top] at exported
    exact Option.some.inj exported
  refine ⟨scopes, base, other, bound, atBase, atOther, ?_, ?_⟩
  · simpa [Option.filter, external, isExported, path, Document.id_of_site? atBase] using given
  · simpa [name, Document.id_of_site? atOther] using given'

end SourceOutline
