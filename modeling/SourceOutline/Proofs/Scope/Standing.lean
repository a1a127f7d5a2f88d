import SourceOutline.Proofs.Scope.Grouping

/-!
# Symbols stand at their paths

A symbol carries the names of the scopes around it and its own. In a bound file these names
are right: they lead from the globals back to the symbol. Every way of finding a symbol keeps
to such symbols, whether a name is searched outward through the scopes or a member is taken.

The symbols of a file are therefore known by their paths. No path occurs twice, since siblings
differ in name and members extend the path of their owner. The aliases among them are listed
by `aliasPathsAll`, and every alias that can be found is there.
-/

namespace SourceOutline

theorem nodup_eraseDups (names : List String) : names.eraseDups.Nodup := by
  cases names with
  | nil => simp
  | cons name names =>
      rw [List.eraseDups_cons]
      refine List.nodup_cons.mpr ⟨?_, nodup_eraseDups _⟩
      simp [List.mem_eraseDups]
  termination_by names.length
  decreasing_by exact Nat.lt_succ_of_le (List.length_filter_le _ _)

namespace Symbol

theorem path_ne_nil (symbol : Symbol) : symbol.path ≠ [] := by
  simp [path]

/-- A symbol that is no alias originates from some other declaration. -/
theorem form_ne_of_plain {symbol : Symbol} {declaration : Declaration}
    (origin : symbol.origin? = some declaration) (plain : symbol.alias? = none)
    (target : String) : declaration.form ≠ .importAlias target := by
  intro form
  simp [alias?, origin, form, Form.target?] at plain

/-- The symbol that a chain of names leads to from a table. -/
def descend (table : List Symbol) : List String → Option Symbol
  | [] => none
  | name :: names => follow (find? table name) names

theorem descend_cons_cons {table : List Symbol} {name next : String} {names : List String} :
    descend table (name :: next :: names) =
      (find? table name).bind fun symbol => descend symbol.members (next :: names) := by
  cases found : find? table name with
  | none => simp only [descend, found, follow_none, Option.bind_none]
  | some symbol => simp only [descend, follow, found, List.foldl_cons, Option.bind_some, member?]

theorem mem_of_find? {table : List Symbol} {name : String} {symbol : Symbol}
    (found : find? table name = some symbol) : symbol ∈ table := List.mem_of_find?_eq_some found

/-- A table without repeated names is searched without loss. -/
theorem find?_of_mem {table : List Symbol} (distinct : (table.map Symbol.name).Nodup)
    {symbol : Symbol} (member : symbol ∈ table) : find? table symbol.name = some symbol := by
  induction table with
  | nil => cases member
  | cons first rest ih =>
      rw [List.map_cons, List.nodup_cons] at distinct
      rcases List.mem_cons.mp member with rfl | later
      · simp [find?]
      · have other : first.name ≠ symbol.name := by
          intro same
          exact distinct.1 (same ▸ List.mem_map_of_mem later)
        simpa [find?, other] using ih distinct.2 later

theorem aliasPaths_eq (symbol : Symbol) :
    aliasPaths symbol = (if symbol.alias?.isSome then [symbol.path] else []) ++
      aliasPathsAll symbol.members := by
  obtain ⟨name, scope, declarations, members⟩ := symbol
  rw [aliasPaths]

/-- What is listed for one symbol is listed for its table, if the table is gone through in turn. -/
theorem subset_of_append {α : Type} {each : Symbol → List α} {all : List Symbol → List α}
    (append : ∀ first rest, all (first :: rest) = each first ++ all rest) {table : List Symbol}
    {symbol : Symbol} (member : symbol ∈ table) : each symbol ⊆ all table := by
  induction table with
  | nil => cases member
  | cons first rest ih =>
      rw [append]
      rcases List.mem_cons.mp member with rfl | later
      · exact List.subset_append_left _ _
      · exact List.Subset.trans (ih later) (List.subset_append_right _ _)

theorem aliasPaths_subset {table : List Symbol} {symbol : Symbol} (member : symbol ∈ table) :
    aliasPaths symbol ⊆ aliasPathsAll table :=
  subset_of_append (fun _ _ => by rw [aliasPathsAll]) member

mutual

/-- A symbol and the symbols inside it. -/
def tree : Symbol → List Symbol
  | ⟨name, scope, declarations, members⟩ => ⟨name, scope, declarations, members⟩ :: forest members

/-- The symbols of a table and of the tables inside it. -/
def forest : List Symbol → List Symbol
  | [] => []
  | symbol :: rest => tree symbol ++ forest rest

end

theorem tree_eq (symbol : Symbol) : tree symbol = symbol :: forest symbol.members := by
  obtain ⟨name, scope, declarations, members⟩ := symbol
  rw [tree]

theorem tree_subset_forest {table : List Symbol} {symbol : Symbol} (member : symbol ∈ table) :
    tree symbol ⊆ forest table :=
  subset_of_append (fun _ _ => by rw [forest]) member

theorem mem_forest_of_mem {table : List Symbol} {symbol : Symbol} (member : symbol ∈ table) :
    symbol ∈ forest table := by
  refine tree_subset_forest member ?_
  rw [tree_eq]
  exact List.mem_cons_self

/-- Whatever a chain of names leads to lies inside the table. -/
theorem mem_forest_of_descend {names : List String} {table : List Symbol} {symbol : Symbol}
    (found : descend table names = some symbol) : symbol ∈ forest table := by
  induction names generalizing table with
  | nil => cases found
  | cons name names ih =>
      cases names with
      | nil => exact mem_forest_of_mem (mem_of_find? found)
      | cons next names =>
          rw [descend_cons_cons] at found
          obtain ⟨owner, here, deeper⟩ := Option.bind_eq_some_iff.mp found
          refine tree_subset_forest (mem_of_find? here) ?_
          rw [tree_eq]
          exact List.mem_cons_of_mem _ (ih deeper)

mutual

theorem tree_induction {motive : Symbol → Prop}
    (inner : ∀ owner, motive owner → ∀ symbol ∈ owner.members, motive symbol) (symbol : Symbol)
    (here : motive symbol) : ∀ other ∈ tree symbol, motive other := by
  obtain ⟨name, scope, declarations, members⟩ := symbol
  intro other member
  rw [tree] at member
  rcases List.mem_cons.mp member with rfl | below
  · exact here
  · exact forest_induction inner members (inner _ here) other below

/-- What holds of the symbols of a table and passes from every symbol to its members holds of
all symbols inside the table. -/
theorem forest_induction {motive : Symbol → Prop}
    (inner : ∀ owner, motive owner → ∀ symbol ∈ owner.members, motive symbol)
    (table : List Symbol) (outermost : ∀ symbol ∈ table, motive symbol) :
    ∀ other ∈ forest table, motive other := by
  cases table with
  | nil => exact nofun
  | cons first rest =>
      obtain ⟨here, others⟩ := List.forall_mem_cons.mp outermost
      intro other member
      rw [forest] at member
      rcases List.mem_append.mp member with inFirst | inRest
      · exact tree_induction inner first here other inFirst
      · exact forest_induction inner rest others other inRest

end

mutual

/-- The aliases are some of the symbols. -/
theorem aliasPaths_sublist (symbol : Symbol) :
    (aliasPaths symbol).Sublist ((tree symbol).map path) := by
  obtain ⟨name, scope, declarations, members⟩ := symbol
  have inner := aliasPathsAll_sublist members
  rw [aliasPaths, tree, List.map_cons]
  split
  · exact inner.cons_cons _
  · exact inner.cons _

theorem aliasPathsAll_sublist (table : List Symbol) :
    (aliasPathsAll table).Sublist ((forest table).map path) := by
  cases table with
  | nil => exact List.Sublist.slnil
  | cons symbol rest =>
      rw [aliasPathsAll, forest, List.map_append]
      exact (aliasPaths_sublist symbol).append (aliasPathsAll_sublist rest)

end

/-- Every alias that a chain of names leads to is listed. -/
theorem path_mem_aliasPathsAll {names : List String} {table : List Symbol} {symbol : Symbol}
    (found : descend table names = some symbol) (isAlias : symbol.alias?.isSome = true) :
    symbol.path ∈ aliasPathsAll table := by
  induction names generalizing table with
  | nil => cases found
  | cons name names ih =>
      cases names with
      | nil =>
          have member : symbol ∈ table := mem_of_find? found
          refine aliasPaths_subset member ?_
          rw [aliasPaths_eq, if_pos isAlias]
          exact List.mem_append_left _ (List.mem_singleton.mpr rfl)
      | cons next names =>
          rw [descend_cons_cons] at found
          obtain ⟨owner, here, deeper⟩ := Option.bind_eq_some_iff.mp found
          refine aliasPaths_subset (mem_of_find? here) ?_
          rw [aliasPaths_eq]
          exact List.mem_append_right _ (ih deeper)

end Symbol

namespace Scopes

variable {scopes : Scopes} {listing : Listing}

/-- The tables of a bound file are the groups of some listing. -/
theorem exists_groups {document : Document} {moduleName : Option String}
    (bound : Scopes.bind document moduleName = .ok scopes) :
    ∃ listing, scopes.Groups listing := by
  obtain ⟨listing, listed, recorded⟩ := globals_of_bind bound
  exact ⟨listing, groups_of_recordAll (Document.listBlock_proper _ listed) recorded⟩

/-- The path of a symbol leads from the globals to the symbol itself. -/
def Stands (scopes : Scopes) (symbol : Symbol) : Prop :=
  scopes.symbol? symbol.path = some symbol

theorem symbol?_eq_descend (path : List String) :
    scopes.symbol? path = Symbol.descend scopes.globals path := by
  cases path <;> rfl

theorem symbol?_snoc {path : List String} (nonempty : path ≠ []) (name : String) :
    scopes.symbol? (path ++ [name]) = (scopes.symbol? path).bind (Symbol.member? · name) := by
  cases path with
  | nil => exact absurd rfl nonempty
  | cons first rest => simp only [List.cons_append, symbol?, List.foldl_append, List.foldl_cons,
      List.foldl_nil]

/-- A name that a scope declares itself is found there first. -/
theorem lookupFrom_of_descend {table : List Symbol} {scope : List String} {name : String}
    {symbol : Symbol} (found : Symbol.descend table (scope ++ [name]) = some symbol) :
    lookupFrom table name scope = some symbol := by
  induction scope generalizing table with
  | nil => exact found
  | cons segment inner ih =>
      obtain ⟨next, names, split⟩ : ∃ next names, inner ++ [name] = next :: names :=
        List.exists_cons_of_ne_nil (by simp)
      rw [List.cons_append, split, Symbol.descend_cons_cons, ← split] at found
      obtain ⟨owner, here, deeper⟩ := Option.bind_eq_some_iff.mp found
      rw [lookupFrom, here, Option.bind_some, ih deeper, Option.some_or]

theorem lookup_of_symbol? {scope : List String} {name : String} {symbol : Symbol}
    (found : scopes.symbol? (scope ++ [name]) = some symbol) :
    scopes.lookup scope name = some symbol := by
  rw [symbol?_eq_descend] at found
  exact lookupFrom_of_descend found

/-- Every alias that stands at its path is listed among the aliases. -/
theorem Stands.mem_aliasPaths {symbol : Symbol} (stands : scopes.Stands symbol)
    (isAlias : symbol.alias?.isSome = true) :
    symbol.path ∈ Symbol.aliasPathsAll scopes.globals := by
  rw [Stands, symbol?_eq_descend] at stands
  exact Symbol.path_mem_aliasPathsAll stands isAlias

namespace Groups

theorem stands_of_symbol? (groups : scopes.Groups listing) {path : List String}
    {symbol : Symbol} (found : scopes.symbol? path = some symbol) :
    symbol.path = path ∧ scopes.Stands symbol := by
  have leads := (groups.declarations path symbol found).1
  refine ⟨leads, ?_⟩
  rw [Stands, leads]
  exact found

theorem stands_global (groups : scopes.Groups listing) {name : String} {symbol : Symbol}
    (found : Symbol.find? scopes.globals name = some symbol) :
    symbol.path = [name] ∧ scopes.Stands symbol := by
  have leads : scopes.symbol? [name] = some symbol := found
  exact groups.stands_of_symbol? leads

/-- The members of a standing symbol stand one name further in. -/
theorem stands_member (groups : scopes.Groups listing) {owner symbol : Symbol} {name : String}
    (stands : scopes.Stands owner) (found : owner.member? name = some symbol) :
    symbol.path = owner.path ++ [name] ∧ scopes.Stands symbol := by
  apply groups.stands_of_symbol?
  rw [symbol?_snoc owner.path_ne_nil, show scopes.symbol? owner.path = some owner from stands]
  exact found

theorem stands_lookupFrom (groups : scopes.Groups listing) {table : List Symbol}
    (each : ∀ name symbol, Symbol.find? table name = some symbol → scopes.Stands symbol)
    {scope : List String} {name : String} {symbol : Symbol}
    (found : lookupFrom table name scope = some symbol) : scopes.Stands symbol := by
  induction scope generalizing table with
  | nil => exact each name symbol found
  | cons segment inner ih =>
      rw [lookupFrom] at found
      rcases Option.or_eq_some_iff.mp found with deeper | ⟨-, here⟩
      · obtain ⟨owner, opened, deeper⟩ := Option.bind_eq_some_iff.mp deeper
        have stands := each segment owner opened
        exact ih (fun name symbol member => (groups.stands_member stands member).2) deeper
      · exact each name symbol here

/-- Whatever a lookup finds stands at its path. -/
theorem stands_lookup (groups : scopes.Groups listing) {scope : List String} {name : String}
    {symbol : Symbol} (found : scopes.lookup scope name = some symbol) :
    scopes.Stands symbol :=
  groups.stands_lookupFrom (fun _ _ here => (groups.stands_global here).2) found

/-- A standing symbol has been declared. -/
theorem exists_origin (groups : scopes.Groups listing) {symbol : Symbol}
    (stands : scopes.Stands symbol) : ∃ declaration, symbol.origin? = some declaration := by
  obtain ⟨declaration, listed⟩ := (groups.found symbol.path).mp ⟨symbol, stands⟩
  have declared : declaration ∈ symbol.declarations := by
    rw [(groups.declarations symbol.path symbol stands).2]
    exact Listing.mem_declarationsAt.mpr listed
  obtain ⟨first, rest, split⟩ := List.exists_cons_of_ne_nil (List.ne_nil_of_mem declared)
  exact ⟨first, by rw [Symbol.origin?, split, List.head?_cons]⟩

/-- The members of a standing symbol stand, and no two have the same name. -/
theorem members_of_stands (groups : scopes.Groups listing) {owner : Symbol}
    (stands : scopes.Stands owner) :
    (owner.members.map Symbol.name).Nodup ∧
      ∀ symbol ∈ owner.members, symbol.path = owner.path ++ [symbol.name] ∧
        scopes.Stands symbol := by
  have distinct : (owner.members.map Symbol.name).Nodup := by
    rw [groups.members owner.path owner stands]
    exact nodup_eraseDups _
  refine ⟨distinct, ?_⟩
  intro symbol member
  exact groups.stands_member stands (Symbol.find?_of_mem distinct member)

mutual

/-- The symbols at a standing symbol and inside it have different paths, all of which extend
the path of the symbol. -/
theorem nodup_tree (groups : scopes.Groups listing) (symbol : Symbol)
    (stands : scopes.Stands symbol) :
    ((Symbol.tree symbol).map Symbol.path).Nodup ∧
      ∀ path ∈ (Symbol.tree symbol).map Symbol.path, symbol.path <+: path := by
  obtain ⟨name, scope, declarations, members⟩ := symbol
  obtain ⟨distinct, each⟩ := groups.members_of_stands stands
  have inner := groups.nodup_forest members (scope ++ [name]) distinct each
  have deeper (path : List String) (member : path ∈ (Symbol.forest members).map Symbol.path) :
      scope ++ [name] <+: path ∧ scope ++ [name] ≠ path := by
    obtain ⟨below, among, longer⟩ := inner.2 path member
    have leads : below.path = scope ++ [name] ++ [below.name] := (each below among).1
    rw [leads] at longer
    refine ⟨(List.prefix_append _ _).trans longer, ?_⟩
    rintro rfl
    have shorter := longer.length_le
    rw [List.length_append, List.length_singleton] at shorter
    omega
  rw [Symbol.tree, List.map_cons]
  refine ⟨List.nodup_cons.mpr ⟨fun member => (deeper _ member).2 rfl, inner.1⟩, ?_⟩
  intro path member
  rcases List.mem_cons.mp member with rfl | below
  · exact List.prefix_refl _
  · exact (deeper path below).1

theorem nodup_forest (groups : scopes.Groups listing) (table : List Symbol)
    (scope : List String) (distinct : (table.map Symbol.name).Nodup)
    (each : ∀ symbol ∈ table, symbol.path = scope ++ [symbol.name] ∧ scopes.Stands symbol) :
    ((Symbol.forest table).map Symbol.path).Nodup ∧
      ∀ path ∈ (Symbol.forest table).map Symbol.path, ∃ symbol ∈ table, symbol.path <+: path := by
  cases table with
  | nil => exact ⟨List.nodup_nil, nofun⟩
  | cons first rest =>
      rw [List.map_cons, List.nodup_cons] at distinct
      have here := groups.nodup_tree first (each first List.mem_cons_self).2
      have others := groups.nodup_forest rest scope distinct.2
        fun symbol member => each symbol (List.mem_cons_of_mem _ member)
      rw [Symbol.forest, List.map_append]
      refine ⟨List.nodup_append.mpr ⟨here.1, others.1, ?_⟩, ?_⟩
      · -- Two siblings with a common extension would have the same name.
        rintro path inFirst _ inRest rfl
        obtain ⟨symbol, member, longer⟩ := others.2 path inRest
        have left := here.2 path inFirst
        rw [(each first List.mem_cons_self).1] at left
        rw [(each symbol (List.mem_cons_of_mem _ member)).1] at longer
        have same := List.prefix_of_prefix_length_le left longer (by simp)
        have equal : first.name = symbol.name := by
          simpa using same.eq_of_length (by simp)
        exact distinct.1 (equal ▸ List.mem_map_of_mem member)
      · intro path member
        rcases List.mem_append.mp member with inFirst | inRest
        · exact ⟨first, List.mem_cons_self, here.2 path inFirst⟩
        · obtain ⟨symbol, among, longer⟩ := others.2 path inRest
          exact ⟨symbol, List.mem_cons_of_mem _ among, longer⟩

end

theorem nodup_globals (groups : scopes.Groups listing) :
    (scopes.globals.map Symbol.name).Nodup := by
  rw [groups.globals]
  exact nodup_eraseDups _

/-- The symbols of a bound file have different paths. -/
theorem nodup_paths (groups : scopes.Groups listing) :
    ((Symbol.forest scopes.globals).map Symbol.path).Nodup := by
  refine (groups.nodup_forest scopes.globals [] groups.nodup_globals ?_).1
  intro symbol member
  exact groups.stands_global (Symbol.find?_of_mem groups.nodup_globals member)

/-- Every symbol of a bound file stands at its path. -/
theorem stands_of_mem_forest (groups : scopes.Groups listing) {symbol : Symbol}
    (member : symbol ∈ Symbol.forest scopes.globals) : scopes.Stands symbol := by
  refine Symbol.forest_induction (motive := scopes.Stands) ?_ scopes.globals ?_ symbol member
  · intro owner stands symbol among
    exact ((groups.members_of_stands stands).2 symbol among).2
  · intro symbol among
    exact (groups.stands_global (Symbol.find?_of_mem groups.nodup_globals among)).2

/-- The aliases of a bound file have different paths. -/
theorem nodup_aliases (groups : scopes.Groups listing) :
    (Symbol.aliasPathsAll scopes.globals).Nodup :=
  groups.nodup_paths.sublist (Symbol.aliasPathsAll_sublist scopes.globals)

end Groups

end Scopes

end SourceOutline
