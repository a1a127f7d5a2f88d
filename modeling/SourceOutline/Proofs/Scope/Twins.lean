import SourceOutline.Proofs.BaseName
import SourceOutline.Proofs.Parallel
import SourceOutline.Proofs.Scope.Transparency

/-!
# Files with the same names

Two files may declare the same names in different places. The sketch of a listing forgets the
places: it keeps the paths, how each name is introduced, and whether a global is exported. Two
files are kin if they have symbols at the same paths, and if aliases and imports originate in the
same way, as they do in files with the same sketch. Everything that is asked of a symbol then leads
from twins to twins: members, lookups from the same scope, and the aliases that are followed. Twins
are written in the same way as bases of a class.

The one thing to know about the places is that climbing from an alias leads to the scope of its
symbol, which holds in every file whose nodes have different ids.
-/

namespace SourceOutline

namespace Listing

/-- The paths and forms of the declarations, and which of the globals are exported. -/
def sketch (listing : Listing) : List (List String × Form × Bool) :=
  listing.map fun pair =>
    (pair.1, pair.2.form, decide (pair.1.length ≤ 1) && pair.2.isExported)

variable {listing : Listing}

theorem forms_of_sketch (path : List String) :
    (listing.declarationsAt path).map Declaration.form =
      listing.sketch.filterMap fun entry => if entry.1 = path then some entry.2.1 else none := by
  rw [declarationsAt, sketch, List.map_filterMap, List.filterMap_map]
  congr 1
  funext pair
  by_cases same : pair.1 = path <;> simp [same]

theorem exported_of_sketch (name : String) :
    (listing.declarationsAt [name]).map Declaration.isExported =
      listing.sketch.filterMap fun entry =>
        if entry.1 = [name] then some entry.2.2 else none := by
  rw [declarationsAt, sketch, List.map_filterMap, List.filterMap_map]
  congr 1
  funext pair
  by_cases same : pair.1 = [name] <;> simp [same]

theorem declared_iff_sketch (path : List String) :
    (∃ declaration, (path, declaration) ∈ listing) ↔ path ∈ listing.sketch.map Prod.fst := by
  simp [sketch]

end Listing

/-- The form of a name that stands for something declared elsewhere. -/
def Form.borrowed? : Form → Option Form
  | .plain _ => none
  | form => some form

namespace Symbol

/-- How the symbol is borrowed, if it originates from an alias or an import. -/
def borrowed? (symbol : Symbol) : Option Form :=
  symbol.origin?.bind fun declaration => declaration.form.borrowed?

variable (symbol : Symbol)

theorem borrowed?_eq_head :
    symbol.borrowed? = (symbol.declarations.map Declaration.form).head?.bind Form.borrowed? := by
  rw [borrowed?, origin?, List.head?_map]
  cases symbol.declarations.head? <;> rfl

theorem isImported_eq : symbol.isImported = symbol.borrowed?.any Form.isImport := by
  rw [isImported, borrowed?]
  cases symbol.origin? with
  | none => rfl
  | some declaration => cases form : declaration.form <;> simp [form, Form.borrowed?, Form.isImport]

theorem alias?_target : symbol.alias?.map Prod.fst = symbol.borrowed?.bind Form.target? := by
  rw [alias?, borrowed?]
  cases symbol.origin? with
  | none => rfl
  | some declaration => cases form : declaration.form <;> simp [form, Form.borrowed?, Form.target?]

theorem exported?_eq :
    symbol.origin?.bind (fun declaration => declaration.form.exported?) =
      symbol.borrowed?.bind Form.exported? := by
  rw [borrowed?]
  cases symbol.origin? with
  | none => rfl
  | some declaration =>
      cases form : declaration.form <;> simp [form, Form.borrowed?, Form.exported?]

theorem ofResolved_eq_borrowed (name : String) :
    QualifiedName.ofResolved symbol name =
      match symbol.borrowed?, QualifiedName.split name with
      | some (.namedImport source _), parts => ⟨source.getD "" :: parts⟩
      | _, first :: rest =>
        if first.toList.head? == some '"' then ⟨Text.unquote first :: rest⟩ else ⟨first :: rest⟩
      | _, [] => ⟨[]⟩ := by
  rw [QualifiedName.ofResolved, borrowed?]
  generalize QualifiedName.split name = parts
  cases symbol.origin? with
  | none => cases parts <;> rfl
  | some declaration =>
      simp only [Option.map_some, Option.bind_some]
      cases declaration.form <;> cases parts <;> rfl

end Symbol

namespace Scopes

/-- Symbols of two files at the same path. -/
structure Twin (scopes scopes' : Scopes) (symbol symbol' : Symbol) : Prop where
  stands : scopes.Stands symbol
  stands' : scopes'.Stands symbol'
  path : symbol.path = symbol'.path

/-- Two bound files with symbols at the same paths, which are borrowed in the same way and, as
globals, exported alike. -/
structure Kin (scopes scopes' : Scopes) : Prop where
  groups : ∃ listing, scopes.Groups listing
  groups' : ∃ listing, scopes'.Groups listing
  found : ∀ path, (∃ symbol, scopes.symbol? path = some symbol) ↔
    ∃ symbol, scopes'.symbol? path = some symbol
  borrowed : ∀ symbol symbol', scopes.Twin scopes' symbol symbol' →
    symbol.borrowed? = symbol'.borrowed?
  exported : ∀ symbol symbol' name, scopes.Twin scopes' symbol symbol' → symbol.path = [name] →
    symbol.isExported = symbol'.isExported
  climbs : ∀ symbol target site, scopes.Stands symbol → symbol.alias? = some (target, site) →
    scopes.enclosing site.ancestors = symbol.scope
  climbs' : ∀ symbol target site, scopes'.Stands symbol → symbol.alias? = some (target, site) →
    scopes'.enclosing site.ancestors = symbol.scope
  moduleName : scopes.moduleName = scopes'.moduleName
  isExternal : scopes.isExternal = scopes'.isExternal

variable {scopes scopes' : Scopes} {listing listing' : Listing}

theorem Twin.symm {symbol symbol' : Symbol} (twin : scopes.Twin scopes' symbol symbol') :
    scopes'.Twin scopes symbol' symbol := ⟨twin.stands', twin.stands, twin.path.symm⟩

theorem Twin.name_scope {symbol symbol' : Symbol} (twin : scopes.Twin scopes' symbol symbol') :
    symbol.name = symbol'.name ∧ symbol.scope = symbol'.scope := by
  have path := twin.path
  rw [Symbol.path, Symbol.path] at path
  obtain ⟨scope, name⟩ := List.append_inj' path rfl
  exact ⟨List.singleton_inj.mp name, scope⟩

namespace Kin

theorem symm (kin : scopes.Kin scopes') : scopes'.Kin scopes where
  groups := kin.groups'
  groups' := kin.groups
  found path := (kin.found path).symm
  borrowed symbol symbol' twin := (kin.borrowed symbol' symbol twin.symm).symm
  exported symbol symbol' name twin global :=
    (kin.exported symbol' symbol name twin.symm (twin.path.symm.trans global)).symm
  climbs := kin.climbs'
  climbs' := kin.climbs
  moduleName := kin.moduleName.symm
  isExternal := kin.isExternal.symm

/-- What is found at one path in both files are twins. -/
theorem twin (kin : scopes.Kin scopes') {path : List String} {symbol symbol' : Symbol}
    (found : scopes.symbol? path = some symbol) (found' : scopes'.symbol? path = some symbol') :
    scopes.Twin scopes' symbol symbol' := by
  obtain ⟨listing, groups⟩ := kin.groups
  obtain ⟨listing', groups'⟩ := kin.groups'
  obtain ⟨here, stands⟩ := groups.stands_of_symbol? found
  obtain ⟨here', stands'⟩ := groups'.stands_of_symbol? found'
  exact ⟨stands, stands', here.trans here'.symm⟩

theorem symbol? (kin : scopes.Kin scopes') (path : List String) :
    Option.Rel (scopes.Twin scopes') (scopes.symbol? path) (scopes'.symbol? path) := by
  refine Option.rel_of_forall ?_ fun symbol found => (kin.found path).mpr ⟨symbol, found⟩
  intro symbol found
  obtain ⟨symbol', found'⟩ := (kin.found path).mp ⟨symbol, found⟩
  exact ⟨symbol', found', kin.twin found found'⟩

theorem member? (kin : scopes.Kin scopes') {owner owner' : Symbol}
    (twin : scopes.Twin scopes' owner owner') (name : String) :
    Option.Rel (scopes.Twin scopes') (owner.member? name) (owner'.member? name) := by
  have inner := kin.symbol? (owner.path ++ [name])
  have found : scopes.symbol? owner.path = some owner := twin.stands
  have found' : scopes'.symbol? owner.path = some owner' := by
    rw [twin.path]
    exact twin.stands'
  rwa [symbol?_snoc owner.path_ne_nil, symbol?_snoc owner.path_ne_nil, found, found'] at inner

theorem lookupFrom (kin : scopes.Kin scopes') {table table' : List Symbol}
    (each : ∀ name, Option.Rel (scopes.Twin scopes') (Symbol.find? table name)
      (Symbol.find? table' name)) (name : String) (scope : List String) :
    Option.Rel (scopes.Twin scopes') (lookupFrom table name scope)
      (lookupFrom table' name scope) := by
  induction scope generalizing table table' with
  | nil => exact each name
  | cons segment inner ih =>
      rw [Scopes.lookupFrom, Scopes.lookupFrom]
      have outer := each name
      -- If the inner scope knows the name it decides, on both sides.
      have deeper : Option.Rel (scopes.Twin scopes')
          ((Symbol.find? table segment).bind fun symbol =>
            Scopes.lookupFrom symbol.members name inner)
          ((Symbol.find? table' segment).bind fun symbol =>
            Scopes.lookupFrom symbol.members name inner) := by
        have opened := each segment
        generalize Symbol.find? table segment = owner at opened ⊢
        generalize Symbol.find? table' segment = owner' at opened ⊢
        cases opened with
        | none => exact .none
        | some twin => exact ih fun next => kin.member? twin next
      generalize (Option.bind _ _ : Option Symbol) = inside at deeper ⊢
      generalize (Option.bind _ _ : Option Symbol) = inside' at deeper ⊢
      cases deeper with
      | none => exact outer
      | some twin => exact .some twin

/-- A name that is searched from the same scope is found in both files. -/
theorem lookup (kin : scopes.Kin scopes') (scope : List String)
    (name : String) :
    Option.Rel (scopes.Twin scopes') (scopes.lookup scope name) (scopes'.lookup scope name) :=
  kin.lookupFrom (fun global => kin.symbol? [global]) name scope

theorem targets (kin : scopes.Kin scopes') {symbol symbol' : Symbol}
    (twin : scopes.Twin scopes' symbol symbol') :
    symbol.alias?.map Prod.fst = symbol'.alias?.map Prod.fst := by
  rw [symbol.alias?_target, symbol'.alias?_target, kin.borrowed symbol symbol' twin]

/-- What aliases lead to in one file, they lead to in the other, along the same trail. -/
theorem leads (kin : scopes.Kin scopes') {symbol symbol' result : Symbol}
    {pending : List String} {trail : List (List String)}
    (leads : scopes.Leads symbol pending trail result)
    (twin : scopes.Twin scopes' symbol symbol') :
    ∃ result', scopes'.Leads symbol' pending trail result' ∧
      scopes.Twin scopes' result result' := by
  induction leads generalizing symbol' with
  | arrived plain =>
      have target := kin.targets twin
      rw [plain] at target
      exact ⟨symbol', .arrived (Option.map_eq_none_iff.mp target.symm), twin⟩
  | @member symbol next result name names trail plain found _ ih =>
      have target := kin.targets twin
      rw [plain] at target
      have inner := kin.member? twin name
      rw [found] at inner
      obtain ⟨next', taken, nextTwin⟩ := Option.exists_of_rel_some inner
      obtain ⟨result', onward, resultTwin⟩ := ih nextTwin
      exact ⟨result', .member (Option.map_eq_none_iff.mp target.symm) taken onward, resultTwin⟩
  | @replaced symbol start result target first site rest pending trail isAlias split found _ ih =>
      have same := kin.targets twin
      rw [isAlias] at same
      obtain ⟨⟨target', site'⟩, isAlias', equal⟩ := Option.map_eq_some_iff.mp same.symm
      obtain rfl : target' = target := equal
      -- Both aliases start their search in the scope that they have in common.
      have climbed := kin.climbs symbol _ site twin.stands isAlias
      have climbed' := kin.climbs' symbol' _ site' twin.stands' isAlias'
      rw [← twin.name_scope.2, ← climbed] at climbed'
      have looked := kin.lookup (scopes.enclosing site.ancestors) first
      rw [found, ← climbed'] at looked
      obtain ⟨start', found', startTwin⟩ := Option.exists_of_rel_some looked
      obtain ⟨result', onward, resultTwin⟩ := ih startTwin
      refine ⟨result', ?_, resultTwin⟩
      rw [twin.path]
      exact .replaced isAlias' split found' onward

theorem resolve_of_twin (kin : scopes.Kin scopes')
    {start start' : Option Symbol} (both : Option.Rel (scopes.Twin scopes') start start')
    {result : Symbol} (resolved : scopes.resolve start = some result) :
    ∃ result', scopes'.resolve start' = some result' ∧ scopes.Twin scopes' result result' := by
  obtain ⟨listing, groups⟩ := kin.groups
  obtain ⟨listing', groups'⟩ := kin.groups'
  cases both with
  | none =>
      obtain ⟨_, _, none, -⟩ := (groups.resolve_eq_some_iff
        (by rintro _ ⟨⟩)).mp resolved
      cases none
  | @some symbol symbol' twin =>
      obtain ⟨_, trail, same, leads, once⟩ := (groups.resolve_eq_some_iff
        (by rintro _ ⟨⟩; exact twin.stands)).mp resolved
      cases same
      obtain ⟨result', leads', resultTwin⟩ := kin.leads leads twin
      refine ⟨result', ?_, resultTwin⟩
      exact (groups'.resolve_eq_some_iff (by rintro _ ⟨⟩; exact twin.stands')).mpr
        ⟨symbol', trail, rfl, leads', once⟩

/-- Twins stand for kin. -/
theorem resolve (kin : scopes.Kin scopes') {start start' : Option Symbol}
    (both : Option.Rel (scopes.Twin scopes') start start') :
    Option.Rel (scopes.Twin scopes') (scopes.resolve start) (scopes'.resolve start') := by
  refine Option.rel_of_forall (fun result => kin.resolve_of_twin both) fun result' resolved => ?_
  have back : Option.Rel (scopes'.Twin scopes) start' start := by
    cases both with
    | none => exact .none
    | some twin => exact .some twin.symm
  obtain ⟨result, resolved, -⟩ := kin.symm.resolve_of_twin back resolved
  exact ⟨result, resolved⟩

/-- Twins have the same qualified name. -/
theorem qualifiedName (kin : scopes.Kin scopes') {symbol symbol' : Symbol}
    (twin : scopes.Twin scopes' symbol symbol') :
    scopes.qualifiedName symbol = scopes'.qualifiedName symbol' := by
  have borrowed := kin.borrowed symbol symbol' twin
  have imported : symbol.isImported = symbol'.isImported := by
    rw [symbol.isImported_eq, symbol'.isImported_eq, borrowed]
  cases isLocal : symbol.isImported with
  | true =>
      rw [Scopes.qualifiedName, Scopes.qualifiedName, if_pos isLocal,
        if_pos (imported.symm.trans isLocal), symbol.exported?_eq, symbol'.exported?_eq, borrowed,
        twin.name_scope.1]
  | false =>
      obtain ⟨outermost, top, first⟩ := exists_outermost twin.stands
      obtain ⟨outermost', top', first'⟩ := exists_outermost twin.stands'
      rw [← twin.path] at first'
      obtain ⟨listing, groups⟩ := kin.groups
      obtain ⟨name, rest, path⟩ := List.exists_cons_of_ne_nil symbol.path_ne_nil
      have global : outermost.path = [name] := by
        rw [(groups.stands_of_symbol? first).1, path]
        rfl
      rw [qualifiedName_of_local isLocal top,
        qualifiedName_of_local (imported.symm.trans isLocal) top', qualifier, qualifier,
        kin.moduleName, kin.isExternal,
        kin.exported outermost outermost' name (kin.twin first first') global, twin.path]

/-- As a base, a symbol is written like its twin. -/
theorem ofResolved (kin : scopes.Kin scopes') {symbol symbol' : Symbol}
    (twin : scopes.Twin scopes' symbol symbol') :
    QualifiedName.ofResolved symbol (scopes.qualifiedName symbol) =
      QualifiedName.ofResolved symbol' (scopes'.qualifiedName symbol') := by
  rw [symbol.ofResolved_eq_borrowed, symbol'.ofResolved_eq_borrowed,
    kin.borrowed symbol symbol' twin,
    kin.qualifiedName twin]

end Kin

section

variable (groups : scopes.Groups listing) (groups' : scopes'.Groups listing')

include groups groups'

theorem found_iff_of_perm (perm : listing.sketch.Perm listing'.sketch) (path : List String) :
    (∃ symbol, scopes.symbol? path = some symbol) ↔
      ∃ symbol, scopes'.symbol? path = some symbol := by
  rw [groups.found, groups'.found, Listing.declared_iff_sketch, Listing.declared_iff_sketch,
    (perm.map Prod.fst).mem_iff]

/-- Globals at the same path are both exported or both not. -/
theorem Twin.isExported_eq {symbol symbol' : Symbol} (twin : scopes.Twin scopes' symbol symbol')
    (perm : listing.sketch.Perm listing'.sketch) {name : String} (global : symbol.path = [name]) :
    symbol.isExported = symbol'.isExported := by
  have exported (symbol : Symbol) : symbol.isExported =
      (symbol.declarations.map Declaration.isExported).any id := by
    rw [Symbol.isExported, List.any_map]
    rfl
  rw [exported, exported, (groups.declarations _ symbol twin.stands).2,
    (groups'.declarations _ symbol' twin.stands').2, ← twin.path, global,
    Listing.exported_of_sketch, Listing.exported_of_sketch]
  exact (perm.filterMap _).any_eq

/-- In files with the same sketch, twins are introduced in the same ways. -/
theorem Twin.borrowed?_eq {symbol symbol' : Symbol} (twin : scopes.Twin scopes' symbol symbol')
    (same : listing.sketch = listing'.sketch) : symbol.borrowed? = symbol'.borrowed? := by
  rw [symbol.borrowed?_eq_head, symbol'.borrowed?_eq_head,
    (groups.declarations _ symbol twin.stands).2,
    (groups'.declarations _ symbol' twin.stands').2, Listing.forms_of_sketch,
    Listing.forms_of_sketch, same, twin.path]

end

end Scopes

end SourceOutline
