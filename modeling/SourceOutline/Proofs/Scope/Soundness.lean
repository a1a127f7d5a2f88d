import SourceOutline.Proofs.Scope.Enclosing
import SourceOutline.Proofs.Scope.Standing

/-!
# Symbol tables stay well-formed

A table is sound at a scope if its names differ and each of its symbols knows that scope, has
been declared, and holds members, in a sound table one name further in, only if a namespace
declares it. Every operation of the binder adds one declaration at a time and changes the
members of a symbol only below a namespace, so it leaves a sound table sound. The tables of a
bound file are sound therefore, and the paths of its symbols are as good as the symbols
themselves: a path leads to one symbol, and parents are found along it.
-/

namespace SourceOutline

/-- A declaration by a namespace node. -/
def Declaration.IsNamespace (declaration : Declaration) : Prop :=
  declaration.form = .plain declaration.site.type ∧ isNamespaceType declaration.site.type = true

instance (declaration : Declaration) : Decidable declaration.IsNamespace :=
  inferInstanceAs (Decidable (_ ∧ _))

namespace Symbol

mutual

/-- A symbol that belongs into the table of a scope. -/
def Sound (scope : List String) : Symbol → Prop
  | ⟨name, own, declarations, members⟩ =>
    own = scope ∧ declarations ≠ [] ∧
      (members ≠ [] → ∃ declaration ∈ declarations, declaration.IsNamespace) ∧
      AllSound (scope ++ [name]) members

/-- A table of a scope: every name has one symbol, which belongs there. -/
def AllSound (scope : List String) : List Symbol → Prop
  | [] => True
  | symbol :: rest =>
    symbol.name ∉ rest.map Symbol.name ∧ Sound scope symbol ∧ AllSound scope rest

end

variable {scope : List String} {table : List Symbol} {symbol : Symbol}

theorem sound_iff : Sound scope symbol ↔ symbol.scope = scope ∧ symbol.declarations ≠ [] ∧
    (symbol.members ≠ [] → ∃ declaration ∈ symbol.declarations, declaration.IsNamespace) ∧
    AllSound (scope ++ [symbol.name]) symbol.members := by
  obtain ⟨name, own, declarations, members⟩ := symbol
  rw [Sound]

theorem allSound_iff :
    AllSound scope table ↔
      (table.map Symbol.name).Nodup ∧ ∀ symbol ∈ table, Sound scope symbol := by
  induction table with
  | nil => simp [AllSound]
  | cons first rest ih =>
      rw [AllSound, ih, List.map_cons, List.nodup_cons, List.forall_mem_cons]
      constructor
      · rintro ⟨unique, here, distinct, others⟩
        exact ⟨⟨unique, distinct⟩, here, others⟩
      · rintro ⟨⟨unique, distinct⟩, here, others⟩
        exact ⟨unique, here, distinct, others⟩

theorem Sound.scope_eq (sound : Sound scope symbol) : symbol.scope = scope := (sound_iff.mp sound).1

theorem Sound.declared (sound : Sound scope symbol) : symbol.declarations ≠ [] :=
  (sound_iff.mp sound).2.1

theorem Sound.opened (sound : Sound scope symbol) (holds : symbol.members ≠ []) :
    ∃ declaration ∈ symbol.declarations, declaration.IsNamespace :=
  (sound_iff.mp sound).2.2.1 holds

theorem Sound.members (sound : Sound scope symbol) :
    AllSound (scope ++ [symbol.name]) symbol.members := (sound_iff.mp sound).2.2.2

/-- Another symbol in the place of the one with a name keeps a table sound. -/
theorem AllSound.update (sound : AllSound scope table) (name : String) {change : Symbol → Symbol}
    (stays : ∀ symbol, (change symbol).name = symbol.name)
    (changed : Sound scope (change ((find? table name).getD (fresh scope name)))) :
    AllSound scope (update scope name change table) := by
  induction table with
  | nil => exact ⟨List.not_mem_nil, changed, trivial⟩
  | cons first rest ih =>
      obtain ⟨unique, here, others⟩ := sound
      by_cases same : first.name = name
      · simp only [Symbol.update, same, if_true]
        refine ⟨?_, ?_, others⟩
        · rwa [stays]
        · simpa [find?, same] using changed
      · simp only [Symbol.update, same, if_false]
        refine ⟨?_, here, ih others ?_⟩
        · rw [map_name_update scope name stays]
          split
          · exact unique
          · simpa [same] using unique
        · simpa [find?, same] using changed

/-- Every symbol inside a sound table is sound at its own scope. -/
theorem AllSound.of_mem_forest (sound : AllSound scope table) (member : symbol ∈ forest table) :
    Sound symbol.scope symbol := by
  refine forest_induction (motive := fun symbol => Sound symbol.scope symbol) ?_ table ?_ symbol
    member
  · intro owner above inner among
    have placed := (allSound_iff.mp above.members).2 inner among
    rwa [placed.scope_eq]
  · intro outer among
    have placed := (allSound_iff.mp sound).2 outer among
    rwa [placed.scope_eq]

end Symbol

namespace Binder

variable {before after : Blocks} {scope : List String} {table grown : List Symbol}

/-- Whenever the operation succeeds on a sound table of a scope, the outcome is one too. -/
def KeepsSound (scope : List String) (operation : List Symbol → Binder (List Symbol)) : Prop :=
  ∀ table before grown after, Symbol.AllSound scope table →
    (operation table).Runs before grown after → Symbol.AllSound scope grown

theorem keepsSound_pure (scope : List String) : KeepsSound scope pure := by
  intro table before grown after sound ran
  rwa [← (runs_pure_iff.mp ran).1]

/-- One declaration: the members may only change below a namespace. -/
theorem keepsSound_enter {name : String} {declaration : Declaration}
    {inside : List Symbol → Binder (List Symbol)}
    (inner : KeepsSound (scope ++ [name]) inside)
    (still : declaration.IsNamespace ∨ ∀ members before changed after,
      (inside members).Runs before changed after → changed = members) :
    KeepsSound scope (enter scope name declaration inside) := by
  intro table before grown after sound ran
  obtain ⟨changed, ranInside, rfl⟩ := ran.enter_eq
  refine sound.update name (fun _ => rfl) ?_
  rw [Symbol.sound_iff]
  cases found : Symbol.find? table name with
  | none =>
      rw [found] at ranInside
      refine ⟨rfl, by simp, fun holds => ?_, inner [] _ _ _ trivial ranInside⟩
      rcases still with opens | same
      · exact ⟨declaration, by simp, opens⟩
      · exact absurd (same _ _ _ _ ranInside) holds
  | some symbol =>
      rw [found] at ranInside
      have member := (Symbol.allSound_iff.mp sound).2 symbol (Symbol.mem_of_find? found)
      obtain rfl : symbol.name = name := by simpa using List.find?_some found
      refine ⟨member.scope_eq, by simp, fun holds => ?_,
        inner _ _ _ _ member.members ranInside⟩
      rcases still with opens | same
      · exact ⟨declaration, by simp, opens⟩
      · rw [Option.getD_some, same _ _ _ _ ranInside] at holds
        obtain ⟨earlier, among, opens⟩ := member.opened holds
        exact ⟨earlier, List.mem_append_left _ among, opens⟩

/-- A chain of scopes that a namespace opens. -/
theorem keepsSound_enterChain {declaration : Declaration} (opens : declaration.IsNamespace)
    {inside : List String → List Symbol → Binder (List Symbol)}
    (inner : ∀ scope, KeepsSound scope (inside scope)) (scope names : List String) :
    KeepsSound scope (enterChain declaration inside scope names) := by
  induction names generalizing scope with
  | nil => exact inner scope
  | cons name names ih => exact keepsSound_enter (ih (scope ++ [name])) (.inl opens)

/-- Names that open no scope. -/
theorem keepsSound_enterAll (scope : List String) (namings : List Naming) :
    KeepsSound scope fun table => enterAll scope table namings := by
  induction namings with
  | nil => exact keepsSound_pure scope
  | cons naming namings ih =>
      intro table before grown after sound ran
      obtain ⟨middle, between, entered, rest⟩ := runs_bind_iff.mp ran
      have first : KeepsSound scope (enter scope naming.1 naming.2 pure) :=
        keepsSound_enter (keepsSound_pure _) (.inr fun _ _ _ _ ran => (runs_pure_iff.mp ran).1.symm)
      exact ih _ _ _ _ (first _ _ _ _ sound entered) rest

mutual

/-- Binding a statement keeps the table of its block sound. -/
theorem keepsSound_bindStatement (document : Document) (scope : List String)
    (ancestors : List Node) (node : Node) :
    KeepsSound scope (bindStatement document scope ancestors · node) := by
  obtain ⟨head, children⟩ := node
  intro table before grown after sound ran
  by_cases transparent : isTransparentType head.type = true
  · exact keepsSound_bindBlock document scope _ children _ _ _ _ sound
      (ran.block_of_transparent transparent)
  · simp only [bindStatement, if_neg transparent] at ran
    by_cases nested : isNamespaceType head.type = true
    · rw [if_pos nested] at ran
      obtain ⟨names, between, -, entered⟩ := runs_bind_iff.mp ran
      have opens : Declaration.IsNamespace ⟨.plain head.type, ⟨⟨head, children⟩, ancestors⟩⟩ :=
        ⟨rfl, nested⟩
      refine keepsSound_enterChain opens (fun path => ?_) scope names _ _ _ _ sound entered
      intro members before changed after soundInside ranInside
      obtain ⟨⟨⟩, between, -, body⟩ := runs_bind_iff.mp ranInside
      exact keepsSound_bindBody document path _ children _ _ _ _ soundInside body
    · rw [if_neg nested] at ran
      obtain ⟨namings, between, -, entered⟩ := runs_bind_iff.mp ran
      exact keepsSound_enterAll scope namings _ _ _ _ sound entered

theorem keepsSound_bindBlock (document : Document) (scope : List String)
    (ancestors : List Node) (nodes : List Node) :
    KeepsSound scope (bindBlock document scope ancestors · nodes) := by
  intro table before grown after sound ran
  cases nodes with
  | nil => exact keepsSound_pure scope _ _ _ _ sound ran
  | cons node nodes =>
      simp only [bindBlock_cons] at ran
      obtain ⟨middle, between, first, rest⟩ := runs_bind_iff.mp ran
      refine keepsSound_bindBlock document scope ancestors nodes _ _ _ _ ?_ rest
      split at first
      · exact keepsSound_bindStatement document scope ancestors node _ _ _ _ sound first
      · exact keepsSound_pure scope _ _ _ _ sound first

theorem keepsSound_bindBody (document : Document) (scope : List String)
    (ancestors : List Node) (nodes : List Node) :
    KeepsSound scope (bindBody document scope ancestors · nodes) := by
  intro table before grown after sound ran
  cases nodes with
  | nil => exact keepsSound_pure scope _ _ _ _ sound ran
  | cons node nodes =>
      obtain ⟨head, children⟩ := node
      simp only [bindBody] at ran
      split at ran
      · exact keepsSound_bindBlock document scope _ children _ _ _ _ sound ran
      · exact keepsSound_bindBody document scope ancestors nodes _ _ _ _ sound ran

end

end Binder

namespace Scopes

variable {scopes : Scopes}

/-- All symbols of a bound file. -/
def symbols (scopes : Scopes) : List Symbol := Symbol.forest scopes.globals

/-- All tables of a bound file. -/
def tables (scopes : Scopes) : List (List Symbol) :=
  scopes.globals :: scopes.symbols.map Symbol.members

/-- The symbol in whose scope a symbol stands. -/
def parent? (scopes : Scopes) (symbol : Symbol) : Option Symbol := scopes.symbol? symbol.scope

/-- The names along the chain of parents of a symbol, outermost first. -/
inductive Lineage (scopes : Scopes) : Symbol → List String → Prop
  | outermost {symbol : Symbol} (orphan : scopes.parent? symbol = none) :
    Lineage scopes symbol [symbol.name]
  | inner {symbol owner : Symbol} {names : List String}
    (parent : scopes.parent? symbol = some owner) (above : Lineage scopes owner names) :
    Lineage scopes symbol (names ++ [symbol.name])

/-- What the nested tables of a file promise. -/
structure WellFormed (scopes : Scopes) : Prop where
  /-- A symbol of a table is found there by its name and by no other key. -/
  keys : ∀ table ∈ scopes.tables, ∀ symbol ∈ table, ∀ key,
    Symbol.find? table key = some symbol ↔ key = symbol.name
  globals : ∀ symbol ∈ scopes.globals, scopes.parent? symbol = none
  members : ∀ owner ∈ scopes.symbols, ∀ symbol ∈ owner.members, scopes.parent? symbol = some owner
  declared : ∀ symbol ∈ scopes.symbols, ∃ declaration, symbol.origin? = some declaration
  /-- Only namespaces hold members. -/
  opened : ∀ symbol ∈ scopes.symbols, symbol.members ≠ [] →
    ∃ declaration ∈ symbol.declarations, declaration.IsNamespace
  /-- No member is found through imports, classes, functions and variables. -/
  closed : ∀ symbol ∈ scopes.symbols,
    (∀ declaration ∈ symbol.declarations, ¬ declaration.IsNamespace) →
      ∀ name, symbol.member? name = none
  /-- The names of the parents lead from the globals to the symbol. -/
  leads : ∀ symbol ∈ scopes.symbols, ∃ names, scopes.Lineage symbol names ∧
    scopes.symbol? names = some symbol
  /-- No two symbols have the same path. -/
  distinct : (scopes.symbols.map Symbol.path).Nodup

theorem sound_of_bind {document : Document} {moduleName : Option String}
    (bound : Scopes.bind document moduleName = .ok scopes) :
    Symbol.AllSound [] scopes.globals :=
  Binder.keepsSound_bindBlock document [] [document.root] document.root.children [] [] _ _ trivial
    (runs_of_bind bound)

/-- Members find their owner under the scope that they know. -/
theorem Stands.parent?_eq {owner symbol : Symbol} (stands : scopes.Stands owner)
    (sound : Symbol.Sound owner.scope owner) (member : symbol ∈ owner.members) :
    scopes.parent? symbol = some owner := by
  have placed := (Symbol.allSound_iff.mp sound.members).2 symbol member
  rw [parent?, placed.scope_eq]
  exact stands

theorem parent?_of_global (sound : Symbol.AllSound [] scopes.globals) {symbol : Symbol}
    (member : symbol ∈ scopes.globals) : scopes.parent? symbol = none := by
  rw [parent?, ((Symbol.allSound_iff.mp sound).2 symbol member).scope_eq]
  rfl

/-- The path of a symbol lists the names of its parents and its own. -/
theorem Groups.lineage_path {listing : Listing} (groups : scopes.Groups listing)
    (sound : Symbol.AllSound [] scopes.globals) {symbol : Symbol}
    (member : symbol ∈ scopes.symbols) : scopes.Lineage symbol symbol.path := by
  refine (Symbol.forest_induction (motive := fun symbol => scopes.Stands symbol ∧
    Symbol.Sound symbol.scope symbol ∧ scopes.Lineage symbol symbol.path) ?_ scopes.globals ?_
      symbol member).2.2
  · rintro owner ⟨stands, soundOwner, above⟩ inner among
    have placed := (Symbol.allSound_iff.mp soundOwner.members).2 inner among
    have path : inner.path = owner.path ++ [inner.name] := by
      rw [Symbol.path, placed.scope_eq]
      rfl
    refine ⟨((groups.members_of_stands stands).2 inner among).2, ?_, ?_⟩
    · rwa [placed.scope_eq]
    · rw [path]
      exact .inner (stands.parent?_eq soundOwner among) above
  · intro outer among
    have placed := (Symbol.allSound_iff.mp sound).2 outer among
    refine ⟨groups.stands_of_mem_forest (Symbol.mem_forest_of_mem among), ?_, ?_⟩
    · rwa [placed.scope_eq]
    · rw [Symbol.path, placed.scope_eq]
      exact .outermost (parent?_of_global sound among)

/-- The tables that the binder fills are well-formed. -/
theorem wellFormed_of_bind {document : Document} {moduleName : Option String}
    (bound : Scopes.bind document moduleName = .ok scopes) : scopes.WellFormed := by
  obtain ⟨listing, groups⟩ := exists_groups bound
  have sound := sound_of_bind bound
  have each (symbol : Symbol) (member : symbol ∈ scopes.symbols) := sound.of_mem_forest member
  have stands (symbol : Symbol) (member : symbol ∈ scopes.symbols) :=
    groups.stands_of_mem_forest member
  constructor
  case keys =>
    intro table among symbol member key
    have soundTable : ∃ scope, Symbol.AllSound scope table := by
      rcases List.mem_cons.mp among with rfl | inner
      · exact ⟨[], sound⟩
      · obtain ⟨owner, held, rfl⟩ := List.mem_map.mp inner
        exact ⟨_, (each owner held).members⟩
    obtain ⟨scope, soundTable⟩ := soundTable
    constructor
    · intro found
      have same : symbol.name = key := by simpa using List.find?_some found
      exact same.symm
    · rintro rfl
      exact Symbol.find?_of_mem (Symbol.allSound_iff.mp soundTable).1 member
  case globals => exact fun symbol member => parent?_of_global sound member
  case members =>
    intro owner among symbol member
    exact (stands owner among).parent?_eq (each owner among) member
  case declared => exact fun symbol member => groups.exists_origin (stands symbol member)
  case opened => exact fun symbol member => (each symbol member).opened
  case closed =>
    intro symbol member plain name
    have empty : symbol.members = [] := by
      by_contra holds
      obtain ⟨declaration, declared, opens⟩ := (each symbol member).opened holds
      exact plain declaration declared opens
    rw [Symbol.member?, empty]
    rfl
  case leads =>
    exact fun symbol member => ⟨_, groups.lineage_path sound member, stands symbol member⟩
  case distinct => exact groups.nodup_paths

/-- Every operation of the binder leaves a sound table sound, and the tables of a bound file
are well-formed. -/
theorem bind_wellFormed :
    (∀ scope namings, Binder.KeepsSound scope fun table =>
      Binder.enterAll scope table namings) ∧
    (∀ (declaration : Declaration) inside, declaration.IsNamespace →
      (∀ scope, Binder.KeepsSound scope (inside scope)) → ∀ scope names,
        Binder.KeepsSound scope (Binder.enterChain declaration inside scope names)) ∧
    (∀ document scope ancestors node, Binder.KeepsSound scope fun table =>
      Binder.bindStatement document scope ancestors table node) ∧
    (∀ document scope ancestors nodes, Binder.KeepsSound scope fun table =>
      Binder.bindBlock document scope ancestors table nodes) ∧
    (∀ document scope ancestors nodes, Binder.KeepsSound scope fun table =>
      Binder.bindBody document scope ancestors table nodes) ∧
    ∀ document moduleName scopes, Scopes.bind document moduleName = .ok scopes →
      Symbol.AllSound [] scopes.globals ∧ scopes.WellFormed := by
  refine ⟨Binder.keepsSound_enterAll, ?_, Binder.keepsSound_bindStatement,
    Binder.keepsSound_bindBlock, Binder.keepsSound_bindBody, ?_⟩
  · intro declaration inside opens inner
    exact Binder.keepsSound_enterChain opens inner
  · intro document moduleName scopes bound
    exact ⟨sound_of_bind bound, wellFormed_of_bind bound⟩

set_option maxRecDepth 10000 in
theorem mergedBlocks_wellFormed : ∃ scopes declaration,
    Scopes.bind mergedBlocks none = .ok scopes ∧
      scopes.symbols.map Symbol.path = [["A"], ["A", "B"], ["A", "B", "C"], ["A", "f"]] ∧
      scopes.WellFormed ∧ declaration.IsNamespace ∧
      Binder.KeepsSound [] (Binder.enterChain declaration (fun _ => pure) [] ["A", "B"]) := by
  obtain ⟨-, chains, -, -, -, files⟩ := bind_wellFormed
  obtain ⟨scopes, bound⟩ : ∃ scopes, Scopes.bind mergedBlocks none = .ok scopes := ⟨_, rfl⟩
  have paths : (Scopes.bind mergedBlocks none).map (fun scopes => scopes.symbols.map Symbol.path) =
      .ok [["A"], ["A", "B"], ["A", "B", "C"], ["A", "f"]] := rfl
  rw [bound] at paths
  have opens : Declaration.IsNamespace
      ⟨.plain "internal_module", ⟨⟨⟨1, "internal_module", 0, true, none, 0, 28⟩, []⟩, []⟩⟩ := by
    decide
  refine ⟨scopes, _, bound, Except.ok.inj paths, (files _ _ _ bound).2, opens, ?_⟩
  exact chains _ (fun _ => pure) opens Binder.keepsSound_pure [] ["A", "B"]

end Scopes

end SourceOutline
