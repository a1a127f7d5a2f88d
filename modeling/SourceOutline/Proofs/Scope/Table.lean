import Mathlib.Data.List.Infix
import SourceOutline.Scope.Lookup

/-!
# Recording declarations in nested tables

A listing is a sequence of declarations, each with the names that lead to its symbol.
Recording a listing appends every declaration to the symbol at its path and creates the
symbols that are missing on the way. What becomes of one name of a table depends on the part
of the listing inside that name alone; therefore the symbol at a path is found by narrowing
the listing along the path, whatever else is recorded in between.
-/

namespace SourceOutline

/-- Declarations, each with the names that lead to its symbol, outermost first. -/
abbrev Listing : Type := List (List String × Declaration)

namespace Listing

/-- The declarations with a path, in order. -/
def declarationsAt (listing : Listing) (path : List String) : List Declaration :=
  listing.filterMap fun pair => if pair.1 = path then some pair.2 else none

/-- The names that are declared directly in the scope with a path, in order. -/
def namesIn (listing : Listing) (path : List String) : List String :=
  listing.filterMap fun pair => if pair.1.dropLast = path then pair.1.getLast? else none

/-- The outermost names of the paths, in order. -/
def heads (listing : Listing) : List String := listing.filterMap fun pair => pair.1.head?

/-- A listing moved into the scope with a name. -/
def within (name : String) (listing : Listing) : Listing :=
  listing.map fun pair => (name :: pair.1, pair.2)

/-- What a listing declares from the scope with a name on inward. -/
def inside (name : String) (listing : Listing) : Listing :=
  listing.filterMap fun pair =>
    match pair.1 with
    | [] => none
    | first :: rest => if first = name then some (rest, pair.2) else none

/-- What a listing declares from the scope with a path on inward. -/
def narrow (listing : Listing) : List String → Listing
  | [] => listing
  | name :: path => narrow (inside name listing) path

theorem mem_declarationsAt {listing : Listing} {path : List String} {declaration : Declaration} :
    declaration ∈ listing.declarationsAt path ↔ (path, declaration) ∈ listing := by
  simp only [declarationsAt, List.mem_filterMap]
  constructor
  · rintro ⟨⟨other, found⟩, member, same⟩
    split at same
    · next equal =>
      cases same
      rwa [← equal]
    · cases same
  · intro member
    exact ⟨_, member, by simp⟩

theorem mem_inside {listing : Listing} {name : String} {path : List String}
    {declaration : Declaration} :
    (path, declaration) ∈ inside name listing ↔ (name :: path, declaration) ∈ listing := by
  simp only [inside, List.mem_filterMap]
  constructor
  · rintro ⟨⟨_ | ⟨first, rest⟩, found⟩, member, same⟩
    · cases same
    · simp only at same
      split at same
      · next equal =>
        cases same
        rwa [← equal]
      · cases same
  · intro member
    exact ⟨_, member, by simp⟩

theorem declarationsAt_inside (listing : Listing) (name : String) (path : List String) :
    (inside name listing).declarationsAt path = listing.declarationsAt (name :: path) := by
  rw [inside, declarationsAt, declarationsAt, List.filterMap_filterMap]
  congr 1
  funext ⟨route, declaration⟩
  cases route with
  | nil => rfl
  | cons first rest => by_cases same : first = name <;> simp [same]

theorem namesIn_inside (listing : Listing) (name : String) (path : List String) :
    (inside name listing).namesIn path = listing.namesIn (name :: path) := by
  rw [inside, namesIn, namesIn, List.filterMap_filterMap]
  congr 1
  funext ⟨route, declaration⟩
  rcases route with _ | ⟨first, _ | ⟨second, rest⟩⟩
  · rfl
  · by_cases same : first = name <;> simp [same]
  · by_cases same : first = name <;> simp [same]

/-- The declarations at a path are those that remain when the listing is narrowed to it. -/
theorem declarationsAt_narrow (listing : Listing) (path : List String) :
    (listing.narrow path).declarationsAt [] = listing.declarationsAt path := by
  induction path generalizing listing with
  | nil => rfl
  | cons name path ih => rw [narrow, ih, declarationsAt_inside]

theorem namesIn_narrow (listing : Listing) (path : List String) :
    (listing.narrow path).namesIn [] = listing.namesIn path := by
  induction path generalizing listing with
  | nil => rfl
  | cons name path ih => rw [narrow, ih, namesIn_inside]

theorem narrow_nil (path : List String) : narrow [] path = [] := by
  induction path with
  | nil => rfl
  | cons name path ih => exact ih

theorem mem_narrow {listing : Listing} {path rest : List String} {declaration : Declaration} :
    (rest, declaration) ∈ listing.narrow path ↔ (path ++ rest, declaration) ∈ listing := by
  induction path generalizing listing with
  | nil => rfl
  | cons name path ih => rw [narrow, ih, mem_inside, List.cons_append]

/-- Every scope that is declared into has been declared before. The paths in `known` count
as declared from the start. -/
def Rooted (known : List (List String)) : Listing → Prop
  | [] => True
  | (path, _) :: listing =>
    (path.dropLast = [] ∨ path.dropLast ∈ known) ∧ Rooted (path :: known) listing

theorem Rooted.mono {listing : Listing} {known more : List (List String)}
    (rooted : Rooted known listing) (less : known ⊆ more) : Rooted more listing := by
  induction listing generalizing known more with
  | nil => trivial
  | cons pair listing ih =>
      exact ⟨rooted.1.imp_right fun member => less member,
        ih rooted.2 (List.cons_subset_cons _ less)⟩

theorem Rooted.append {first second : Listing} {known : List (List String)}
    (left : Rooted known first) (right : Rooted known second) :
    Rooted known (first ++ second) := by
  induction first generalizing known with
  | nil => exact right
  | cons pair first ih =>
      exact ⟨left.1, ih left.2 (right.mono (List.subset_cons_self _ _))⟩

/-- A listing is rooted inside a scope that is declared. -/
theorem Rooted.within {listing : Listing} {known : List (List String)}
    (rooted : Rooted known listing) (name : String) {more : List (List String)}
    (opened : [name] ∈ more) (less : known.map (name :: ·) ⊆ more) :
    Rooted more (within name listing) := by
  induction listing generalizing known more with
  | nil => trivial
  | cons pair listing ih =>
      obtain ⟨path, declaration⟩ := pair
      refine ⟨?_, ih rooted.2 (List.mem_cons_of_mem _ opened) (List.cons_subset_cons _ less)⟩
      cases path with
      | nil => exact .inl rfl
      | cons first rest =>
          refine .inr ?_
          rw [List.dropLast_cons_cons]
          rcases rooted.1 with outermost | member
          · rwa [outermost]
          · exact less (List.mem_map_of_mem member)

theorem Rooted.inside {listing : Listing} {known : List (List String)}
    (rooted : Rooted known listing) (name : String) :
    Rooted (known.filterMap fun path => if path.head? = some name then path.tail? else none)
      (inside name listing) := by
  induction listing generalizing known with
  | nil => trivial
  | cons pair listing ih =>
      obtain ⟨_ | ⟨first, rest⟩, declaration⟩ := pair
      · simpa [Listing.inside] using ih rooted.2
      · have deeper := ih rooted.2
        by_cases same : first = name
        · subst same
          simp only [Listing.inside, List.filterMap_cons, if_true] at deeper ⊢
          refine ⟨?_, by simpa using deeper⟩
          cases rest with
          | nil => exact .inl rfl
          | cons second rest =>
              rcases rooted.1 with empty | member
              · cases empty
              · exact .inr (List.mem_filterMap.mpr ⟨_, member, by simp⟩)
        · simpa [Listing.inside, same] using deeper

theorem eraseDups_append_cons_of_mem {seen names : List String} {name : String}
    (known : name ∈ seen) : (seen ++ name :: names).eraseDups = (seen ++ names).eraseDups := by
  simp [List.eraseDups_append, List.removeAll, known]

/-- In a rooted listing the names of a table appear in the order in which they are first
declared, since what is declared inside a name comes after the name. -/
theorem Rooted.eraseDups_heads {listing : Listing} {known : List (List String)}
    (rooted : Rooted known listing) (seen : List String)
    (covered : ∀ path ∈ known, ∀ name ∈ path.head?, name ∈ seen) :
    (seen ++ listing.heads).eraseDups = (seen ++ listing.namesIn []).eraseDups := by
  induction listing generalizing known seen with
  | nil => rfl
  | cons pair listing ih =>
      obtain ⟨_ | ⟨first, _ | ⟨second, rest⟩⟩, declaration⟩ := pair
      · refine ih rooted.2 seen ?_
        simpa using covered
      · have shifted := ih rooted.2 (seen ++ [first]) (by
          rintro path member name head
          rcases List.mem_cons.mp member with rfl | declared
          · cases head
            simp
          · exact List.mem_append_left _ (covered path declared name head))
        simpa [heads, namesIn] using shifted
      · have declared : first ∈ seen := by
          rcases rooted.1 with outermost | member
          · cases outermost
          · exact covered _ member first rfl
        have skipped := ih rooted.2 seen (by simpa [declared] using covered)
        have unnamed : namesIn ((first :: second :: rest, declaration) :: listing) [] =
            namesIn listing [] := by
          simp [namesIn]
        rw [unnamed, ← skipped]
        exact eraseDups_append_cons_of_mem declared

theorem Rooted.narrow {listing : Listing} (rooted : Rooted [] listing) (path : List String) :
    Rooted [] (listing.narrow path) := by
  induction path generalizing listing with
  | nil => exact rooted
  | cons name path ih => exact ih (rooted.inside name)

theorem mem_heads_iff {listing : Listing} {name : String} :
    name ∈ listing.heads ↔ listing.inside name ≠ [] := by
  rw [heads, List.mem_filterMap]
  constructor
  · rintro ⟨⟨_ | ⟨first, rest⟩, declaration⟩, member, head⟩
    · cases head
    · cases head
      exact List.ne_nil_of_mem (mem_inside.mpr member)
  · intro nonempty
    obtain ⟨⟨rest, declaration⟩, member⟩ := List.exists_mem_of_ne_nil _ nonempty
    exact ⟨_, mem_inside.mp member, rfl⟩

/-- In a rooted listing something is declared at a path as soon as something is declared
inside it. -/
theorem Rooted.declared_of_narrow {listing : Listing} (rooted : Rooted [] listing)
    {name : String} {names : List String} (nonempty : listing.narrow (name :: names) ≠ []) :
    ∃ declaration, (name :: names, declaration) ∈ listing := by
  induction names generalizing listing name with
  | nil =>
      have outermost : name ∈ listing.namesIn [] := by
        have same := rooted.eraseDups_heads [] nofun
        rw [← List.mem_eraseDups, ← List.nil_append (listing.namesIn []), ← same,
          List.nil_append, List.mem_eraseDups]
        exact mem_heads_iff.mpr nonempty
      obtain ⟨⟨path, declaration⟩, member, last⟩ := List.mem_filterMap.mp outermost
      refine ⟨declaration, ?_⟩
      rcases path with _ | ⟨first, _ | ⟨second, rest⟩⟩
      · cases last
      · cases last
        exact member
      · cases last
  | cons next names ih =>
      obtain ⟨declaration, member⟩ := ih (rooted.inside name) nonempty
      exact ⟨declaration, mem_inside.mp member⟩

end Listing

namespace Symbol

/-- A symbol that nothing has declared yet. -/
def fresh (scope : List String) (name : String) : Symbol := ⟨name, scope, [], []⟩

/-- Change the symbol with a name, which is created at the end of the table if there is
none. -/
def update (scope : List String) (name : String) (change : Symbol → Symbol) :
    List Symbol → List Symbol
  | [] => [change (fresh scope name)]
  | symbol :: rest =>
    if symbol.name = name then change symbol :: rest
    else symbol :: update scope name change rest

/-- Append a declaration to the symbol at a path below a table of the given scope. -/
def record (declaration : Declaration) (scope : List String) :
    List String → List Symbol → List Symbol
  | [], table => table
  | name :: path, table =>
    update scope name
      (fun symbol =>
        { symbol with
          declarations := symbol.declarations ++ if path = [] then [declaration] else []
          members := record declaration (scope ++ [name]) path symbol.members })
      table

/-- Record the declarations of a listing one after the other. -/
def recordAll (scope : List String) (table : List Symbol) (listing : Listing) : List Symbol :=
  listing.foldl (fun grown pair => record pair.2 scope pair.1 grown) table

/-- Take up the declarations of a listing that lie at a symbol or inside it. -/
def absorb (path : List String) (listing : Listing) (symbol : Symbol) : Symbol :=
  { symbol with
    declarations := symbol.declarations ++ listing.declarationsAt []
    members := recordAll path symbol.members listing }

@[simp] theorem name_absorb (path : List String) (listing : Listing) (symbol : Symbol) :
    (absorb path listing symbol).name = symbol.name := rfl

theorem recordAll_append (scope : List String) (table : List Symbol)
    (first second : Listing) :
    recordAll scope table (first ++ second) =
      recordAll scope (recordAll scope table first) second := List.foldl_append

theorem record_cons (declaration : Declaration) (scope : List String) (name : String)
    (path : List String) (table : List Symbol) :
    record declaration scope (name :: path) table =
      update scope name (absorb (scope ++ [name]) [(path, declaration)]) table := by
  rw [record]
  congr 1
  funext symbol
  by_cases here : path = [] <;> simp [absorb, recordAll, Listing.declarationsAt, here]

theorem absorb_append (path : List String) (first second : Listing) (symbol : Symbol) :
    absorb path (first ++ second) symbol = absorb path second (absorb path first symbol) := by
  simp [absorb, Listing.declarationsAt, recordAll_append]

/-- A declaration of the symbol itself, before a listing that only lies inside it. -/
theorem absorb_declared (path : List String) (declaration : Declaration) {listing : Listing}
    (deeper : listing.declarationsAt [] = []) :
    absorb path (([], declaration) :: listing) = fun symbol =>
      { symbol with
        declarations := symbol.declarations ++ [declaration]
        members := recordAll path symbol.members listing } := by
  have only : Listing.declarationsAt (([], declaration) :: listing) [] = [declaration] := by
    simpa [Listing.declarationsAt] using deeper
  funext symbol
  simp [absorb, only, recordAll, record]

theorem update_update (scope : List String) (name : String) {first second : Symbol → Symbol}
    (stays : ∀ symbol, (first symbol).name = symbol.name) (table : List Symbol) :
    update scope name second (update scope name first table) =
      update scope name (fun symbol => second (first symbol)) table := by
  induction table with
  | nil => simp [update, stays, fresh]
  | cons symbol rest ih =>
      by_cases same : symbol.name = name
      · simp [update, same, stays]
      · simp [update, same, ih]

/-- Everything recorded inside one name goes to its symbol. -/
theorem recordAll_within (scope : List String) (name : String) (table : List Symbol)
    (pair : List String × Declaration) (listing : Listing) :
    recordAll scope table (Listing.within name (pair :: listing)) =
      update scope name (absorb (scope ++ [name]) (pair :: listing)) table := by
  induction listing generalizing pair table with
  | nil => exact record_cons pair.2 scope name pair.1 table
  | cons next listing ih =>
      have first : recordAll scope table (Listing.within name (pair :: next :: listing)) =
          recordAll scope (record pair.2 scope (name :: pair.1) table)
            (Listing.within name (next :: listing)) := rfl
      rw [first, ih, record_cons, update_update scope name (name_absorb _ _)]
      congr 1
      funext symbol
      exact (absorb_append _ [pair] (next :: listing) symbol).symm

theorem find?_update_self (scope : List String) (name : String) {change : Symbol → Symbol}
    (stays : ∀ symbol, (change symbol).name = symbol.name) (table : List Symbol) :
    find? (update scope name change table) name =
      some (change ((find? table name).getD (fresh scope name))) := by
  induction table with
  | nil => simp [update, find?, stays, fresh]
  | cons symbol rest ih =>
      by_cases same : symbol.name = name
      · simp [update, find?, same, stays]
      · simpa [update, find?, same] using ih

theorem find?_update_of_ne (scope : List String) {name other : String}
    {change : Symbol → Symbol} (stays : ∀ symbol, (change symbol).name = symbol.name)
    (different : name ≠ other) (table : List Symbol) :
    find? (update scope name change table) other = find? table other := by
  induction table with
  | nil => simp [update, find?, stays, fresh, different]
  | cons symbol rest ih =>
      by_cases same : symbol.name = name
      · simp [update, find?, same, stays, different]
      · simp only [update, same, if_false, find?, List.find?_cons] at ih ⊢
        rw [ih]

/-- The symbol with a name takes up what is listed inside the name. Without any such
declaration it stays as it was. -/
theorem find?_recordAll (scope : List String) (name : String) (table : List Symbol)
    (listing : Listing) :
    find? (recordAll scope table listing) name =
      if listing.inside name = [] then find? table name
      else some (absorb (scope ++ [name]) (listing.inside name)
        ((find? table name).getD (fresh scope name))) := by
  induction listing generalizing table with
  | nil => rfl
  | cons pair listing ih =>
      obtain ⟨_ | ⟨first, rest⟩, declaration⟩ := pair
      · exact ih table
      · have stepped : recordAll scope table ((first :: rest, declaration) :: listing) =
            recordAll scope
              (update scope first (absorb (scope ++ [first]) [(rest, declaration)]) table)
              listing := by
          rw [← record_cons]
          rfl
        rw [stepped, ih]
        by_cases same : first = name
        · subst same
          have more : Listing.inside first ((first :: rest, declaration) :: listing) =
              (rest, declaration) :: Listing.inside first listing := by
            simp [Listing.inside]
          rw [more, if_neg (List.cons_ne_nil _ _),
            find?_update_self scope first (name_absorb _ _)]
          by_cases last : Listing.inside first listing = []
          · rw [if_pos last, last]
          · rw [if_neg last, Option.getD_some, ← absorb_append, List.singleton_append]
        · have skipped : Listing.inside name ((first :: rest, declaration) :: listing) =
              Listing.inside name listing := by
            simp [Listing.inside, same]
          rw [skipped, find?_update_of_ne scope (name_absorb _ _) same]

theorem map_name_update (scope : List String) (name : String) {change : Symbol → Symbol}
    (stays : ∀ symbol, (change symbol).name = symbol.name) (table : List Symbol) :
    (update scope name change table).map Symbol.name =
      if name ∈ table.map Symbol.name then table.map Symbol.name
      else table.map Symbol.name ++ [name] := by
  induction table with
  | nil => simp [update, stays, fresh]
  | cons symbol rest ih =>
      by_cases same : symbol.name = name
      · simp [update, same, stays]
      · have other : name ≠ symbol.name := fun equal => same equal.symm
        simp only [update, same, if_false, List.map_cons, ih, List.mem_cons, other, false_or]
        split <;> rfl

/-- A table that was filled from a listing has its names in the order of the listing. -/
theorem map_name_recordAll (scope : List String) (listing : Listing) :
    (recordAll scope [] listing).map Symbol.name = listing.heads.eraseDups := by
  induction listing using List.reverseRecOn with
  | nil => rfl
  | append_singleton listing pair ih =>
      rw [recordAll_append]
      obtain ⟨_ | ⟨first, rest⟩, declaration⟩ := pair
      · simpa [recordAll, record, Listing.heads, List.filterMap_cons] using ih
      · change (record declaration scope (first :: rest) (recordAll scope [] listing)).map
          Symbol.name = _
        have longer : Listing.heads (listing ++ [(first :: rest, declaration)]) =
            Listing.heads listing ++ [first] := by
          simp [Listing.heads]
        rw [record_cons, map_name_update scope first (name_absorb _ _), ih, longer,
          List.eraseDups_append]
        by_cases known : first ∈ Listing.heads listing
        · simp [known, List.mem_eraseDups, List.removeAll]
        · simp [known, List.mem_eraseDups, List.removeAll, List.eraseDups_cons]

mutual

/-- The declarations of a symbol and of the symbols inside it, each with its path. -/
def recorded (path : List String) : Symbol → Listing
  | ⟨_, _, declarations, members⟩ =>
    declarations.map (fun declaration => (path, declaration)) ++ recordedAll path members

/-- The declarations of a table and of the tables inside it. -/
def recordedAll (scope : List String) : List Symbol → Listing
  | [] => []
  | symbol :: rest => recorded (scope ++ [symbol.name]) symbol ++ recordedAll scope rest

end

theorem recorded_eq (path : List String) (symbol : Symbol) :
    recorded path symbol = symbol.declarations.map (fun declaration => (path, declaration)) ++
      recordedAll path symbol.members := by
  obtain ⟨name, scope, declarations, members⟩ := symbol
  rw [recorded]

/-- A change that adds one declaration to a symbol adds that one to its table. -/
theorem recordedAll_update {scope : List String} {name : String} {change : Symbol → Symbol}
    {pair : List String × Declaration}
    (stays : ∀ symbol, (change symbol).name = symbol.name)
    (adds : ∀ symbol, (recorded (scope ++ [name]) (change symbol)).Perm
      (pair :: recorded (scope ++ [name]) symbol)) (table : List Symbol) :
    (recordedAll scope (update scope name change table)).Perm
      (pair :: recordedAll scope table) := by
  induction table with
  | nil =>
      have single := adds (fresh scope name)
      simpa [update, recordedAll, stays, fresh, recorded] using single
  | cons symbol rest ih =>
      by_cases same : symbol.name = name
      · subst same
        simpa [update, recordedAll, stays] using (adds symbol).append_right _
      · simp only [update, same, if_false, recordedAll]
        exact (ih.append_left _).trans List.perm_middle

theorem recordedAll_record (declaration : Declaration) (scope : List String) (name : String)
    (path : List String) (table : List Symbol) :
    (recordedAll scope (record declaration scope (name :: path) table)).Perm
      ((scope ++ name :: path, declaration) :: recordedAll scope table) := by
  induction path generalizing scope name table with
  | nil =>
      rw [record]
      refine recordedAll_update ?_ (fun symbol => ?_) table
      · exact fun _ => rfl
      simp only [recorded_eq, if_true, record, List.map_append, List.map_singleton,
        List.append_assoc]
      exact List.perm_middle
  | cons next path ih =>
      rw [record]
      refine recordedAll_update ?_ (fun symbol => ?_) table
      · exact fun _ => rfl
      have deeper := ih (scope ++ [name]) next symbol.members
      simp only [recorded_eq, List.cons_ne_nil, if_false, List.append_nil]
      rw [List.append_assoc] at deeper
      exact (deeper.append_left _).trans List.perm_middle

/-- Recording a listing adds every declaration of it exactly once. -/
theorem recordedAll_recordAll (scope : List String) (listing : Listing)
    (placed : ∀ pair ∈ listing, pair.1 ≠ []) (table : List Symbol) :
    (recordedAll scope (recordAll scope table listing)).Perm
      (listing.map (fun pair => (scope ++ pair.1, pair.2)) ++ recordedAll scope table) := by
  induction listing generalizing table with
  | nil => exact .refl _
  | cons pair listing ih =>
      obtain ⟨_ | ⟨first, rest⟩, declaration⟩ := pair
      · exact absurd rfl (placed _ List.mem_cons_self)
      · have added := recordedAll_record declaration scope first rest table
        have others := ih (fun pair member => placed pair (List.mem_cons_of_mem _ member))
          (record declaration scope (first :: rest) table)
        exact others.trans ((added.append_left _).trans List.perm_middle)

/-- A symbol that holds what a listing declares at its path and inside it. -/
structure Collects (path : List String) (listing : Listing) (symbol : Symbol) : Prop where
  path_eq : symbol.path = path
  declarations_eq : symbol.declarations = listing.declarationsAt []
  members_eq : symbol.members = recordAll path [] listing

/-- The symbol with a name collects what is listed inside the name, if anything is. -/
theorem find?_recordAll_nil (scope : List String) (name : String) (listing : Listing) :
    (listing.inside name = [] ∧ find? (recordAll scope [] listing) name = none) ∨
      listing.inside name ≠ [] ∧ ∃ symbol,
        find? (recordAll scope [] listing) name = some symbol ∧
          Collects (scope ++ [name]) (listing.inside name) symbol := by
  rw [find?_recordAll]
  by_cases empty : listing.inside name = []
  · exact .inl ⟨empty, by simp [empty, find?]⟩
  · exact .inr ⟨empty, _, if_neg empty, rfl, rfl, rfl⟩

/-- Take members one after the other. -/
def follow (symbol : Option Symbol) (names : List String) : Option Symbol :=
  names.foldl (fun symbol member => symbol.bind (member? · member)) symbol

theorem follow_none (names : List String) : follow none names = none := by
  induction names with
  | nil => rfl
  | cons name names ih => exact ih

/-- Following members narrows the listing along the names. -/
theorem follow_recordAll (scope : List String) (name : String) (names : List String)
    (listing : Listing) :
    (listing.narrow (name :: names) = [] ∧
        follow (find? (recordAll scope [] listing) name) names = none) ∨
      listing.narrow (name :: names) ≠ [] ∧ ∃ symbol,
        follow (find? (recordAll scope [] listing) name) names = some symbol ∧
          Collects (scope ++ name :: names) (listing.narrow (name :: names)) symbol := by
  induction names generalizing scope name listing with
  | nil => exact find?_recordAll_nil scope name listing
  | cons next names ih =>
      rcases find?_recordAll_nil scope name listing with ⟨empty, missing⟩ | ⟨-, symbol, found, at_⟩
      · refine .inl ⟨?_, ?_⟩
        · rw [Listing.narrow, empty, Listing.narrow_nil]
        · rw [missing]
          exact follow_none _
      · have deeper := ih (scope ++ [name]) next (listing.inside name)
        rw [← at_.members_eq, List.append_assoc] at deeper
        rw [found]
        exact deeper

end Symbol

end SourceOutline
