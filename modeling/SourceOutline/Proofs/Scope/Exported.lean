import SourceOutline.Proofs.BaseName
import SourceOutline.Proofs.Declaration.Visibility
import SourceOutline.Proofs.Scope.Declared
import SourceOutline.Proofs.Scope.Statement

/-!
# What counts as exported

Two readings of `export` meet in a file. The modifiers of a declaration hold it as soon as the
run of wrappers around the declaration does, however long the run. A symbol counts as exported
only if one of its declarations stands directly inside an export statement. The second reading
implies the first, and the two differ at one place: where the wrapper next to the declaration
is an ambient one, as in `export declare class`, the modifiers hold `export` and the symbol does
not count as exported. Whether the names below a symbol carry the module name follows the
second reading.
-/

namespace SourceOutline

/-- A run of wrappers that starts with an export, put in terms of what the run lends. -/
theorem exporting_mem_wrapperModifiers_iff (ancestors : List Node) :
    (.exporting ∈ wrapperModifiers ancestors ∧
        ancestors.head?.any (fun parent => parent.type == "ambient_declaration") = false) ↔
      ancestors.head?.any (fun parent => parent.type == "export_statement") = true := by
  cases ancestors with
  | nil => simp [wrapperModifiers]
  | cons parent above =>
      simp only [wrapperModifiers, List.head?_cons, Option.any_some, beq_iff_eq,
        beq_eq_false_iff_ne]
      by_cases exports : parent.type = "export_statement"
      · simp [exports, Modifier.ofWrapper?]
      · by_cases ambient : parent.type = "ambient_declaration"
        · simp [ambient]
        · simp [exports, ambient, Modifier.ofWrapper?]

namespace Site

/-- The modifiers of the site can be read and hold the given one. -/
def HasModifier (document : Document) (modifier : Modifier) (site : Site) : Prop :=
  ∃ modifiers, site.modifiers document = .ok modifiers ∧ modifier ∈ modifiers

/-- The wrapper next to the site is an ambient one. -/
def isAmbient (site : Site) : Bool :=
  site.ancestors.head?.any (fun parent => parent.type == "ambient_declaration")

variable {document : Document} {site : Site}

/-- `export` is among the modifiers exactly if a wrapper lends it. -/
theorem hasModifier_exporting_iff (readable : Defined (site.modifiers document)) :
    site.HasModifier document .exporting ↔ .exporting ∈ wrapperModifiers site.ancestors := by
  obtain ⟨modifiers, given⟩ := readable
  rw [← exports_iff, ← exporting_mem_modifiers_iff given]
  constructor
  · rintro ⟨_, again, member⟩
    cases given.symm.trans again
    exact member
  · exact fun member => ⟨modifiers, given, member⟩

end Site

namespace Declaration

/-- The site that carries the modifiers of a declaration: the statement around the declarator
for a variable, and the declaring node for everything else. -/
def bearer (declaration : Declaration) : Site :=
  if declaration.site.type == "variable_declarator" then
    declaration.site.parent?.getD declaration.site
  else declaration.site

theorem bearer_of_ne {declaration : Declaration}
    (other : declaration.site.type ≠ "variable_declarator") :
    declaration.bearer = declaration.site := by
  rw [bearer, if_neg (by rwa [beq_iff_eq])]

/-- A declaration is exported exactly if its bearer stands in an export statement. -/
theorem isExported_eq (declaration : Declaration) :
    declaration.isExported =
      declaration.bearer.ancestors.head?.any (fun parent => parent.type == "export_statement") := by
  obtain ⟨form, node, ancestors⟩ := declaration
  by_cases declarator : (node.type == "variable_declarator") = true
  · cases ancestors with
    | nil => simp [isExported, bearer, declarator, Site.type, Site.parent?]
    | cons parent above => simp [isExported, bearer, declarator, Site.type, Site.parent?]
  · simp only [isExported, bearer, Site.type, declarator, Bool.false_eq_true, if_false]

/-- A declaration is exported exactly if its modifiers hold `export` and no ambient wrapper
stands next to it. -/
theorem isExported_iff {document : Document} {declaration : Declaration}
    (readable : Defined (declaration.bearer.modifiers document)) :
    declaration.isExported = true ↔
      declaration.bearer.HasModifier document .exporting ∧
        declaration.bearer.isAmbient = false := by
  rw [isExported_eq, Site.hasModifier_exporting_iff readable, Site.isAmbient,
    exporting_mem_wrapperModifiers_iff]

end Declaration

theorem exists_of_mem_collectMap {α β : Type} {f : α → Except Failure (List β)}
    {values : List α} {results : List β} (collected : collectMap f values = .ok results)
    {result : β} (member : result ∈ results) :
    ∃ value ∈ values, ∃ part, f value = .ok part ∧ result ∈ part := by
  induction values generalizing results with
  | nil =>
      cases collected
      cases member
  | cons value values ih =>
      obtain ⟨first, here, collected⟩ := bind_eq_ok_iff.mp collected
      obtain ⟨others, later, collected⟩ := bind_eq_ok_iff.mp collected
      cases collected
      rcases List.mem_append.mp member with inFirst | inOthers
      · exact ⟨value, List.mem_cons_self, first, here, inFirst⟩
      · obtain ⟨other, among, rest⟩ := ih later inOthers
        exact ⟨other, List.mem_cons_of_mem _ among, rest⟩

namespace Site

variable {document : Document} {site : Site} {namings : List Naming}

/-- A declarator declares itself. -/
theorem declaredVariable_site (declared : site.declaredVariable document = .ok namings)
    {naming : Naming} (member : naming ∈ namings) :
    naming.2.site = site ∧ site.type = "variable_declarator" := by
  rw [declaredVariable] at declared
  split at declared
  · next declarator _ =>
    split at declared
    · obtain ⟨name, -, declared⟩ := bind_eq_ok_iff.mp declared
      cases declared
      obtain rfl := List.mem_singleton.mp member
      exact ⟨rfl, beq_iff_eq.mp declarator⟩
    · cases declared
      cases member
  · cases declared
    cases member

theorem bearer_of_declaredVariable (declared :
      collectMap (declaredVariable document) site.namedChildren = .ok namings)
    {naming : Naming} (member : naming ∈ namings) : naming.2.bearer = site := by
  obtain ⟨child, among, part, here, inPart⟩ := exists_of_mem_collectMap declared member
  obtain ⟨same, type⟩ := declaredVariable_site here inPart
  obtain ⟨node, -, rfl⟩ := List.mem_map.mp among
  rw [Declaration.bearer, same, if_pos (beq_iff_eq.mpr type)]
  rfl

/-- Whatever a statement does not import has its modifiers on the statement. -/
theorem bearer_of_declared (declared : site.declared document = .ok namings)
    {naming : Naming} (member : naming ∈ namings) (isLocal : naming.2.form.isImport = false) :
    naming.2.bearer = site := by
  rw [Site.declared] at declared
  split at declared
  · next declaring =>
    split at declared
    · obtain ⟨text, -, declared⟩ := bind_eq_ok_iff.mp declared
      cases declared
      obtain rfl := List.mem_singleton.mp member
      refine Declaration.bearer_of_ne ?_
      rintro type
      rw [show site.type = "variable_declarator" from type] at declaring
      exact absurd declaring (by decide)
    · cases declared
      cases member
  · split at declared
    · exact bearer_of_declaredVariable declared member
    · exact bearer_of_declaredVariable declared member
    · obtain ⟨source, -, declared⟩ := bind_eq_ok_iff.mp declared
      rw [forall_collectMap declaredImport_isImport declared naming member] at isLocal
      cases isLocal
    · next type =>
      obtain ⟨_, _, _, _, -, -, -, -, rfl⟩ := declaredAlias_eq declared
      obtain rfl := List.mem_singleton.mp member
      exact Declaration.bearer_of_ne (by rw [type]; decide)
    · cases declared
      cases member

end Site

namespace Document

variable {document : Document} {path : List String} {declaration : Declaration}

/-- The bearer of everything that is declared in the file itself is a statement. -/
theorem Declares.statementAt_bearer (declares : document.Declares path declaration)
    (isLocal : declaration.form.isImport = false) :
    ∃ scope, document.StatementAt declaration.bearer scope := by
  cases declares with
  | @opens site scope _ _ reached nested _ _ =>
      have other : site.type ≠ "variable_declarator" := by
        intro type
        rw [type] at nested
        exact absurd nested (by decide)
      rw [Declaration.bearer_of_ne other]
      exact ⟨scope, reached⟩
  | names reached declared member =>
      rw [Site.bearer_of_declared declared member isLocal]
      exact ⟨_, reached⟩

end Document

namespace Scopes

variable {document : Document} {scopes : Scopes} {moduleName : Option String}
  {path : List String} {symbol : Symbol}

/-- The declarations of a symbol are declared by statements at its path. -/
theorem declares_of_mem_declarations (bound : Scopes.bind document moduleName = .ok scopes)
    (found : scopes.symbol? path = some symbol) {declaration : Declaration}
    (member : declaration ∈ symbol.declarations) : document.Declares path declaration := by
  obtain ⟨listing, listed, recorded⟩ := globals_of_bind bound
  have groups := groups_of_recordAll (Document.listBlock_proper _ listed) recorded
  rw [(groups.declarations path symbol found).2] at member
  exact Document.declares_of_listing listed _ (Listing.mem_declarationsAt.mp member)

/-- The names of a local symbol stand behind the module name exactly if the outermost of them
is exported. -/
theorem qualifiedName_eq_quoted_iff {outermost : Symbol} {module : String}
    (isLocal : symbol.isImported = false)
    (top : symbol.path.head?.bind (Symbol.find? scopes.globals) = some outermost)
    (named : scopes.moduleName = some module) (nonempty : module ≠ "")
    (external : scopes.isExternal = true) :
    scopes.qualifiedName symbol = "\"" ++ module ++ "\"." ++ Text.join '.' symbol.path ↔
      outermost.isExported = true := by
  rw [qualifiedName_of_local isLocal top, qualifier, named, Option.filter_some, external]
  have shorter : Text.join '.' symbol.path ≠
      "\"" ++ module ++ "\"." ++ Text.join '.' symbol.path := by
    intro same
    have lengths := congrArg String.length same
    simp only [String.length_append] at lengths
    have quotes : ("\"" : String).length = 1 := rfl
    omega
  cases outermost.isExported with
  | true => simp [nonempty]
  | false => simpa [nonempty] using shorter

/-- The symbols of a bound file that count as exported. The modifiers of everything declared
here are those of a statement. A symbol is exported exactly if `export` is among the modifiers
of one of its declarations and the wrapper next to that declaration is not an ambient one. In a
module with a name, the local symbols below an outermost symbol are called by the module name in
front of their path exactly if that holds of the outermost symbol. -/
theorem isExported_iff_hasModifier (bound : Scopes.bind document moduleName = .ok scopes)
    (found : scopes.symbol? path = some symbol)
    (readable : ∀ declaration ∈ symbol.declarations,
      Defined (declaration.bearer.modifiers document)) :
    (∀ declaration ∈ symbol.declarations, declaration.form.isImport = false →
        ∃ scope, document.StatementAt declaration.bearer scope) ∧
      (symbol.isExported = true ↔ ∃ declaration ∈ symbol.declarations,
        declaration.bearer.HasModifier document .exporting ∧
          declaration.bearer.isAmbient = false) ∧
      ∀ module inner, moduleName = some module → module ≠ "" → scopes.isExternal = true →
        scopes.symbol? inner.path = some inner → inner.path.take 1 = path →
        inner.isImported = false →
        (scopes.qualifiedName inner = "\"" ++ module ++ "\"." ++ Text.join '.' inner.path ↔
          ∃ declaration ∈ symbol.declarations,
            declaration.bearer.HasModifier document .exporting ∧
              declaration.bearer.isAmbient = false) := by
  have exported : symbol.isExported = true ↔ ∃ declaration ∈ symbol.declarations,
      declaration.bearer.HasModifier document .exporting ∧
        declaration.bearer.isAmbient = false := by
    rw [Symbol.isExported, List.any_eq_true]
    refine exists_congr fun declaration => and_congr_right fun member => ?_
    exact Declaration.isExported_iff (readable declaration member)
  refine ⟨?_, exported, ?_⟩
  · intro declaration member isLocal
    exact (declares_of_mem_declarations bound found member).statementAt_bearer isLocal
  · intro module inner named nonempty external stands outer isLocal
    obtain ⟨outermost, top, first⟩ := exists_outermost stands
    rw [outer, found] at first
    obtain rfl := Option.some.inj first
    rw [← exported]
    refine qualifiedName_eq_quoted_iff isLocal top ?_ nonempty external
    rw [moduleName_of_bind bound, named]

end Scopes

set_option maxRecDepth 10000 in
/-- The second block of `A` is exported, so everything inside `A` carries the module name. -/
theorem mergedBlocks_exported : ∃ scopes symbol inner,
    Scopes.bind mergedBlocks (some "m") = .ok scopes ∧
      scopes.symbol? ["A"] = some symbol ∧ symbol.isExported = true ∧
      scopes.symbol? ["A", "B", "C"] = some inner ∧
      scopes.qualifiedName inner = "\"" ++ "m" ++ "\"." ++ Text.join '.' inner.path := by
  obtain ⟨scopes, symbol, inner, declaration, bound, found, readable, among, marked, plain,
      external, foundInner, path, isLocal⟩ : ∃ scopes symbol inner declaration,
        Scopes.bind mergedBlocks (some "m") = .ok scopes ∧
        scopes.symbol? ["A"] = some symbol ∧
        (∀ declaration ∈ symbol.declarations,
          Defined (declaration.bearer.modifiers mergedBlocks)) ∧
        symbol.declarations[1]? = some declaration ∧
        declaration.bearer.modifiers mergedBlocks = .ok [.exporting] ∧
        declaration.bearer.isAmbient = false ∧ scopes.isExternal = true ∧
        scopes.symbol? ["A", "B", "C"] = some inner ∧ inner.path = ["A", "B", "C"] ∧
        inner.isImported = false :=
    ⟨_, _, _, _, rfl, rfl, by decide, rfl, rfl, rfl, rfl, rfl, rfl, rfl⟩
  have exports : ∃ declaration ∈ symbol.declarations,
      declaration.bearer.HasModifier mergedBlocks .exporting ∧
        declaration.bearer.isAmbient = false :=
    ⟨declaration, List.mem_of_getElem? among, ⟨_, marked, List.mem_cons_self⟩, plain⟩
  obtain ⟨-, exported, qualified⟩ := Scopes.isExported_iff_hasModifier bound found readable
  refine ⟨scopes, symbol, inner, bound, found, exported.mpr exports, foundInner, ?_⟩
  refine (qualified "m" inner rfl (by decide) external ?_ (by rw [path]; rfl) isLocal).mpr exports
  rw [path]
  exact foundInner

/-- The tree of `export declare class B {} class D extends B {}`. -/
def ambientExport : Document where
  content := "export declare class B {} class D extends B {}".toUTF8
  root := ⟨⟨0, "program", 0, true, none, 0, 46⟩, [
    ⟨⟨1, "export_statement", 0, true, none, 0, 25⟩, [
      ⟨⟨2, "export", 0, false, none, 0, 6⟩, []⟩,
      ⟨⟨3, "ambient_declaration", 0, true, none, 7, 25⟩, [
        ⟨⟨4, "declare", 0, false, none, 7, 14⟩, []⟩,
        ⟨⟨5, "class_declaration", 0, true, none, 15, 25⟩, [
          ⟨⟨6, "class", 0, false, none, 15, 20⟩, []⟩,
          ⟨⟨7, "type_identifier", 0, true, some "name", 21, 22⟩, []⟩,
          ⟨⟨8, "class_body", 0, true, some "body", 23, 25⟩, []⟩]⟩]⟩]⟩,
    ⟨⟨9, "class_declaration", 0, true, none, 26, 46⟩, [
      ⟨⟨10, "class", 0, false, none, 26, 31⟩, []⟩,
      ⟨⟨11, "type_identifier", 0, true, some "name", 32, 33⟩, []⟩,
      ⟨⟨12, "class_heritage", 0, true, none, 34, 43⟩, [
        ⟨⟨13, "extends_clause", 0, true, none, 34, 43⟩, [
          ⟨⟨14, "extends", 0, false, none, 34, 41⟩, []⟩,
          ⟨⟨15, "identifier", 0, true, some "value", 42, 43⟩, []⟩]⟩]⟩,
      ⟨⟨16, "class_body", 0, true, some "body", 44, 46⟩, []⟩]⟩]⟩

set_option maxRecDepth 10000 in
/-- The modifiers of the class `B` hold `export`, which makes it public in the outline, and `B`
does not count as exported: the module `m` is missing in the name that is given to the base of
`D`. -/
theorem ambientExport_not_exported : ∃ scopes symbol declaration,
    Scopes.bind ambientExport (some "m") = .ok scopes ∧ scopes.isExternal = true ∧
      scopes.symbol? ["B"] = some symbol ∧ symbol.declarations = [declaration] ∧
      declaration.bearer.modifiers ambientExport = .ok [.exporting, .declare] ∧
      declaration.bearer.visibility ambientExport = .ok .pub ∧
      ¬ (symbol.isExported = true ↔ ∃ declaration ∈ symbol.declarations,
        declaration.bearer.HasModifier ambientExport .exporting) ∧
      scopes.qualifiedName symbol = "B" := by
  obtain ⟨scopes, symbol, declaration, bound, external, found, only, marked, shown, missed,
      name⟩ : ∃ scopes symbol declaration,
        Scopes.bind ambientExport (some "m") = .ok scopes ∧ scopes.isExternal = true ∧
        scopes.symbol? ["B"] = some symbol ∧ symbol.declarations = [declaration] ∧
        declaration.bearer.modifiers ambientExport = .ok [.exporting, .declare] ∧
        declaration.bearer.visibility ambientExport = .ok .pub ∧
        symbol.isExported = false ∧ scopes.qualifiedName symbol = "B" :=
    ⟨_, _, _, rfl, rfl, rfl, rfl, rfl, rfl, rfl, rfl⟩
  refine ⟨scopes, symbol, declaration, bound, external, found, only, marked, shown, ?_, name⟩
  intro agree
  have exported := agree.mpr
    ⟨declaration, by rw [only]; exact List.mem_cons_self, _, marked, List.mem_cons_self⟩
  cases missed.symm.trans exported

end SourceOutline
