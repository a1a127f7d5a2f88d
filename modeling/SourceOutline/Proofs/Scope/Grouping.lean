import SourceOutline.Proofs.Journal
import SourceOutline.Proofs.Scope.Table

/-!
# Binding groups declarations by path

The binder threads nested tables through a recursion over the statements of a file, and the
blocks of one namespace enter the same table from different places. `listing` recurses over
the same statements without any table: it lists the declarations with their paths in source
order. Binding a block is recording its listing, with the same failure if there is one. The
tables of a bound file are then the groups of its listing, since a namespace is always listed
before what its blocks declare.
-/

namespace SourceOutline

/-- The paths of the scopes that a chain of names opens, outermost first. -/
def scopePaths (names : List String) : List (List String) := names.inits.tail

theorem scopePaths_cons (name : String) (names : List String) :
    scopePaths (name :: names) = [name] :: (scopePaths names).map (name :: ·) := by
  cases names <;> rfl

theorem getLast?_scopePaths {names : List String} (nonempty : names ≠ []) :
    (scopePaths names).getLast? = some names := by
  induction names with
  | nil => exact absurd rfl nonempty
  | cons name names ih =>
      rw [scopePaths_cons]
      cases names with
      | nil => rfl
      | cons next names => simp [List.getLast?_cons, ih (List.cons_ne_nil _ _)]

/-- A declaration at each scope that a chain of names opens, and then the body of the
innermost scope. -/
def Listing.opened (declaration : Declaration) (names : List String) (body : Listing) :
    Listing :=
  (scopePaths names).map (fun path => (path, declaration)) ++
    body.map fun pair => (names ++ pair.1, pair.2)

namespace Document

variable (document : Document)

mutual

/-- The declarations of a statement, with paths that start in the block around it. -/
def listStatement (ancestors : List Node) : Node → Except Failure Listing
  | ⟨head, children⟩ =>
    let node : Node := ⟨head, children⟩
    if isTransparentType head.type then listBlock (node :: ancestors) children
    else if isNamespaceType head.type then do
      let names ← Binder.namespaceNames document node
      let body ← listBody (node :: ancestors) children
      return Listing.opened ⟨.plain head.type, ⟨node, ancestors⟩⟩ names body
    else do
      let namings ← Site.declared document ⟨node, ancestors⟩
      return namings.map fun naming => ([naming.1], naming.2)

/-- The declarations of the named statements of a block. -/
def listBlock (ancestors : List Node) : List Node → Except Failure Listing
  | [] => .ok []
  | node :: nodes =>
    if node.named then do
      let first ← listStatement ancestors node
      let others ← listBlock ancestors nodes
      return first ++ others
    else listBlock ancestors nodes

/-- The declarations of the first child that is a body. -/
def listBody (ancestors : List Node) : List Node → Except Failure Listing
  | [] => .ok []
  | ⟨head, children⟩ :: nodes =>
    if head.field == some "body" then listBlock (⟨head, children⟩ :: ancestors) children
    else listBody ancestors nodes

end

/-- The declarations of a file with their paths, in source order. -/
def listing : Except Failure Listing :=
  document.listBlock [document.root] document.root.children

end Document

namespace Listing

theorem opened_nil (declaration : Declaration) (body : Listing) :
    opened declaration [] body = body := by
  simp [opened, scopePaths]

/-- The outermost name of a chain holds everything else. -/
theorem opened_cons (declaration : Declaration) (name : String) (names : List String)
    (body : Listing) :
    opened declaration (name :: names) body =
      within name (([], declaration) :: opened declaration names body) := by
  simp only [opened, scopePaths_cons, within, List.map_cons, List.map_append, List.map_map,
    List.cons_append]
  rfl

/-- Every declaration has a name, and every scope is listed before what it holds. -/
structure Proper (listing : Listing) : Prop where
  named : ∀ pair ∈ listing, pair.1 ≠ []
  rooted : Rooted [] listing

theorem proper_nil : Proper [] := ⟨nofun, trivial⟩

theorem Proper.append {first second : Listing} (left : Proper first) (right : Proper second) :
    Proper (first ++ second) := by
  refine ⟨fun pair member => ?_, left.rooted.append right.rooted⟩
  rcases List.mem_append.mp member with earlier | later
  · exact left.named pair earlier
  · exact right.named pair later

theorem proper_namings (namings : List Naming) :
    Proper (namings.map fun naming => ([naming.1], naming.2)) := by
  induction namings with
  | nil => exact proper_nil
  | cons naming namings ih =>
      have single : Proper [([naming.1], naming.2)] := ⟨by simp, .inl rfl, trivial⟩
      exact single.append ih

theorem Proper.opened {body : Listing} (proper : Proper body) (declaration : Declaration)
    (names : List String) : Proper (opened declaration names body) := by
  induction names with
  | nil => rwa [opened_nil]
  | cons name names ih =>
      rw [opened_cons]
      refine ⟨?_, .inl rfl, ih.rooted.within name List.mem_cons_self nofun⟩
      rintro pair member
      obtain ⟨inner, -, rfl⟩ := List.mem_map.mp member
      exact List.cons_ne_nil _ _

theorem Proper.declarationsAt_nil {listing : Listing} (proper : Proper listing) :
    listing.declarationsAt [] = [] := by
  rw [List.eq_nil_iff_forall_not_mem]
  intro declaration member
  exact proper.named _ (mem_declarationsAt.mp member) rfl

end Listing

namespace Document

mutual

theorem listStatement_proper {document : Document} {ancestors : List Node} (node : Node)
    {listing : Listing} (listed : document.listStatement ancestors node = .ok listing) :
    listing.Proper := by
  obtain ⟨head, children⟩ := node
  rw [listStatement] at listed
  by_cases transparent : isTransparentType head.type = true
  · simp only [transparent, if_true] at listed
    exact listBlock_proper children listed
  · by_cases nested : isNamespaceType head.type = true
    · simp only [transparent, nested, if_true] at listed
      obtain ⟨names, -, listed⟩ := bind_eq_ok_iff.mp listed
      obtain ⟨body, inner, listed⟩ := bind_eq_ok_iff.mp listed
      cases listed
      exact (listBody_proper children inner).opened _ names
    · simp only [transparent, nested] at listed
      obtain ⟨namings, -, listed⟩ := bind_eq_ok_iff.mp listed
      cases listed
      exact Listing.proper_namings namings

theorem listBlock_proper {document : Document} {ancestors : List Node} (nodes : List Node)
    {listing : Listing} (listed : document.listBlock ancestors nodes = .ok listing) :
    listing.Proper := by
  cases nodes with
  | nil =>
      cases listed
      exact Listing.proper_nil
  | cons node nodes =>
      rw [listBlock] at listed
      by_cases named : node.named = true
      · rw [if_pos named] at listed
        obtain ⟨first, here, listed⟩ := bind_eq_ok_iff.mp listed
        obtain ⟨others, later, listed⟩ := bind_eq_ok_iff.mp listed
        cases listed
        exact (listStatement_proper node here).append (listBlock_proper nodes later)
      · rw [if_neg named] at listed
        exact listBlock_proper nodes listed

theorem listBody_proper {document : Document} {ancestors : List Node} (nodes : List Node)
    {listing : Listing} (listed : document.listBody ancestors nodes = .ok listing) :
    listing.Proper := by
  cases nodes with
  | nil =>
      cases listed
      exact Listing.proper_nil
  | cons node nodes =>
      obtain ⟨head, children⟩ := node
      rw [listBody] at listed
      by_cases found : (head.field == some "body") = true
      · rw [if_pos found] at listed
        exact listBlock_proper children listed
      · rw [if_neg found] at listed
        exact listBody_proper nodes listed

end

end Document

namespace Binder

variable {α β : Type}

/-- Whatever blocks are known at first, a binder has this outcome. -/
def Yields (binder : Binder α) (result : Except Failure α) : Prop :=
  ∀ blocks, binder.run' blocks = result

theorem yields_pure (value : α) : Yields (pure value) (.ok value) := fun _ => rfl

theorem yields_lift (result : Except Failure α) : Yields (liftM result) result := by
  intro blocks
  cases result <;> rfl

theorem Yields.bind {binder : Binder α} {next : α → Binder β} {result : Except Failure α}
    {rest : α → Except Failure β} (first : Yields binder result)
    (others : ∀ value, Yields (next value) (rest value)) :
    Yields (binder >>= next) (result >>= rest) := by
  intro blocks
  have outcome := first blocks
  change (binder blocks).map Prod.fst = result at outcome
  change Except.map Prod.fst (binder blocks >>= fun pair => next pair.1 pair.2) = result >>= rest
  cases ran : binder blocks with
  | error failure =>
      rw [ran] at outcome
      subst outcome
      rfl
  | ok pair =>
      rw [ran] at outcome
      subst outcome
      exact others pair.1 pair.2

theorem yields_noteBlock (id : Nat) (path : List String) :
    Yields (noteBlock id path) (.ok ()) := fun _ => rfl

theorem Yields.then_pure {γ : Type} {binder : Binder α} {body : Except Failure γ} {f : γ → α}
    (first : Yields binder (f <$> body)) (g : α → β) :
    Yields (binder >>= fun value => pure (g value)) ((fun given => g (f given)) <$> body) := by
  have both := first.bind fun value => yields_pure (g value)
  cases body <;> exact both

/-- Entering a declaration updates the symbol of its name. -/
theorem yields_enter {γ : Type} {inside : List Symbol → Binder (List Symbol)}
    {body : Except Failure γ} {change : γ → List Symbol → List Symbol}
    (scope : List String) (name : String) (declaration : Declaration)
    (inner : ∀ members, Yields (inside members) ((change · members) <$> body))
    (table : List Symbol) :
    Yields (enter scope name declaration inside table)
      ((fun given => Symbol.update scope name
        (fun symbol =>
          { symbol with
            declarations := symbol.declarations ++ [declaration]
            members := change given symbol.members })
        table) <$> body) := by
  induction table with
  | nil => exact (inner []).then_pure _
  | cons symbol rest ih =>
      by_cases same : symbol.name = name
      · simp only [enter, Symbol.update, same, if_true]
        exact (inner symbol.members).then_pure _
      · simp only [enter, Symbol.update, same, if_false]
        exact ih.then_pure _

/-- Entering a chain of names records the chain and what its innermost scope lists. -/
theorem yields_enterChain {declaration : Declaration}
    {inside : List String → List Symbol → Binder (List Symbol)} {body : Except Failure Listing}
    (proper : ∀ listing, body = .ok listing → listing.Proper)
    (inner : ∀ scope members,
      Yields (inside scope members) (Symbol.recordAll scope members <$> body))
    (scope names : List String) (table : List Symbol) :
    Yields (enterChain declaration inside scope names table)
      ((fun listing => Symbol.recordAll scope table (Listing.opened declaration names listing)) <$>
        body) := by
  induction names generalizing scope table with
  | nil =>
      simp only [enterChain, Listing.opened_nil]
      exact inner scope table
  | cons name names ih =>
      have entered := yields_enter scope name declaration (ih (scope ++ [name])) table
      rw [enterChain]
      cases body with
      | error failure => exact entered
      | ok listing =>
          -- The declarations of the name itself are exactly the one that is entered here.
          have deeper := ((proper listing rfl).opened declaration names).declarationsAt_nil
          change Yields _ (.ok (Symbol.recordAll scope table (Listing.opened _ _ listing)))
          rw [Listing.opened_cons, Symbol.recordAll_within,
            Symbol.absorb_declared _ declaration deeper]
          exact entered

theorem yields_enterAll (scope : List String) (table : List Symbol) (namings : List Naming) :
    Yields (enterAll scope table namings)
      (.ok (Symbol.recordAll scope table
        (namings.map fun naming => ([naming.1], naming.2)))) := by
  induction namings generalizing table with
  | nil => exact yields_pure table
  | cons naming namings ih =>
      obtain ⟨name, declaration⟩ := naming
      have unchanged (members : List Symbol) :
          Yields (pure members) ((fun _ => members) <$> Except.ok ()) := yields_pure members
      have entered := yields_enter scope name declaration unchanged table
      change Yields _
        (.ok (Symbol.recordAll scope (Symbol.record declaration scope [name] table) _))
      rw [Symbol.record_cons, Symbol.absorb_declared _ declaration rfl]
      exact entered.bind ih

mutual

/-- Binding a statement records what it lists, and fails where the listing does. -/
theorem yields_bindStatement (document : Document) (scope : List String)
    (ancestors : List Node) (table : List Symbol) (node : Node) :
    Yields (bindStatement document scope ancestors table node)
      (Symbol.recordAll scope table <$> document.listStatement ancestors node) := by
  obtain ⟨head, children⟩ := node
  rw [bindStatement, Document.listStatement]
  by_cases transparent : isTransparentType head.type = true
  · rw [if_pos transparent, if_pos transparent]
    exact yields_bindBlock document scope _ table children
  · rw [if_neg transparent, if_neg transparent]
    by_cases nested : isNamespaceType head.type = true
    · rw [if_pos nested, if_pos nested, map_bind]
      refine (yields_lift (namespaceNames document ⟨head, children⟩)).bind fun names => ?_
      have inner (path : List String) (members : List Symbol) :=
        (yields_noteBlock head.id path).bind fun _ =>
          yields_bindBody document path (⟨head, children⟩ :: ancestors) members children
      rw [map_bind]
      exact yields_enterChain (fun listing listed => Document.listBody_proper children listed)
        inner scope names table
    · rw [if_neg nested, if_neg nested, map_bind]
      exact (yields_lift (Site.declared document ⟨⟨head, children⟩, ancestors⟩)).bind
        fun namings => yields_enterAll scope table namings

theorem yields_bindBlock (document : Document) (scope : List String)
    (ancestors : List Node) (table : List Symbol) (nodes : List Node) :
    Yields (bindBlock document scope ancestors table nodes)
      (Symbol.recordAll scope table <$> document.listBlock ancestors nodes) := by
  cases nodes with
  | nil => exact yields_pure table
  | cons node nodes =>
      rw [bindBlock, Document.listBlock]
      by_cases named : node.named = true
      · have both := (yields_bindStatement document scope ancestors table node).bind
          fun grown => yields_bindBlock document scope ancestors grown nodes
        rw [bind_map_left] at both
        simp only [named, if_true, map_bind, map_pure, Symbol.recordAll_append]
        exact both
      · rw [if_neg named, if_neg named]
        exact yields_bindBlock document scope ancestors table nodes

theorem yields_bindBody (document : Document) (scope : List String)
    (ancestors : List Node) (table : List Symbol) (nodes : List Node) :
    Yields (bindBody document scope ancestors table nodes)
      (Symbol.recordAll scope table <$> document.listBody ancestors nodes) := by
  cases nodes with
  | nil => exact yields_pure table
  | cons node nodes =>
      obtain ⟨head, children⟩ := node
      rw [bindBody, Document.listBody]
      by_cases found : (head.field == some "body") = true
      · simp only [found, if_true]
        exact yields_bindBlock document scope _ table children
      · simp only [found]
        exact yields_bindBody document scope ancestors table nodes

end

end Binder

namespace Scopes

/-- The tables of a bound file are the groups of a listing. -/
structure Groups (scopes : Scopes) (listing : Listing) : Prop where
  /-- There is a symbol exactly at the paths at which something is declared. -/
  found : ∀ path, (∃ symbol, scopes.symbol? path = some symbol) ↔
    ∃ declaration, (path, declaration) ∈ listing
  /-- A symbol has the declarations with its path, in source order. -/
  declarations : ∀ path symbol, scopes.symbol? path = some symbol →
    symbol.path = path ∧ symbol.declarations = listing.declarationsAt path
  /-- Every declaration is recorded once, and nothing else is recorded. -/
  once : (Symbol.recordedAll [] scopes.globals).Perm listing
  /-- The globals stand in the order of their first declarations. -/
  globals : scopes.globals.map Symbol.name = (listing.namesIn []).eraseDups
  /-- So do the members of every symbol. -/
  members : ∀ path symbol, scopes.symbol? path = some symbol →
    symbol.members.map Symbol.name = (listing.namesIn path).eraseDups

/-- The globals of a bound file are its listing, recorded. -/
theorem globals_of_bind {document : Document} {moduleName : Option String} {scopes : Scopes}
    (bound : Scopes.bind document moduleName = .ok scopes) :
    ∃ listing, document.listing = .ok listing ∧
      scopes.globals = Symbol.recordAll [] [] listing := by
  obtain ⟨⟨globals, blocks⟩, ran, bound⟩ := bind_eq_ok_iff.mp bound
  cases bound
  have outcome : Prod.fst <$> Except.ok (globals, blocks) =
      Symbol.recordAll [] [] <$> document.listing := by
    rw [← ran]
    exact Binder.yields_bindBlock document [] [document.root] [] document.root.children []
  obtain ⟨listing, listed, same⟩ := map_eq_ok_iff.mp outcome.symm
  exact ⟨listing, listed, same.symm⟩

theorem names_of_recordAll {scope : List String} {listing : Listing}
    (rooted : listing.Rooted []) :
    (Symbol.recordAll scope [] listing).map Symbol.name = (listing.namesIn []).eraseDups := by
  rw [Symbol.map_name_recordAll]
  exact rooted.eraseDups_heads [] nofun

/-- Recording a proper listing groups it. -/
theorem groups_of_recordAll {scopes : Scopes} {listing : Listing} (proper : listing.Proper)
    (recorded : scopes.globals = Symbol.recordAll [] [] listing) : scopes.Groups listing := by
  have looked (name : String) (names : List String) :=
    Symbol.follow_recordAll [] name names listing
  simp only [← recorded] at looked
  have collects (path : List String) (symbol : Symbol)
      (found : scopes.symbol? path = some symbol) :
      Symbol.Collects path (listing.narrow path) symbol := by
    cases path with
    | nil => cases found
    | cons name names =>
        rcases looked name names with ⟨-, missing⟩ | ⟨-, other, same, collects⟩
        · cases missing.symm.trans found
        · cases same.symm.trans found
          exact collects
  refine ⟨?_, ?_, ?_, ?_, ?_⟩
  · rintro (_ | ⟨name, names⟩)
    · exact ⟨nofun, fun ⟨declaration, member⟩ => absurd rfl (proper.named _ member)⟩
    · rcases looked name names with ⟨empty, missing⟩ | ⟨nonempty, symbol, found, -⟩
      · refine ⟨fun ⟨symbol, found⟩ => ?_, fun ⟨declaration, member⟩ => ?_⟩
        · cases missing.symm.trans found
        · rw [← List.append_nil (name :: names), ← Listing.mem_narrow, empty] at member
          cases member
      · exact ⟨fun _ => proper.rooted.declared_of_narrow nonempty, fun _ => ⟨symbol, found⟩⟩
  · intro path symbol found
    exact ⟨(collects path symbol found).path_eq,
      (collects path symbol found).declarations_eq.trans (listing.declarationsAt_narrow path)⟩
  · have once := Symbol.recordedAll_recordAll [] listing proper.named []
    rw [recorded]
    simpa [Symbol.recordedAll] using once
  · rw [recorded]
    exact names_of_recordAll proper.rooted
  · intro path symbol found
    rw [(collects path symbol found).members_eq,
      names_of_recordAll (proper.rooted.narrow path), listing.namesIn_narrow]

/-- A bound file has its declarations grouped by path. -/
theorem bind_groups {document : Document} {moduleName : Option String} {scopes : Scopes}
    (bound : Scopes.bind document moduleName = .ok scopes) :
    ∃ listing, document.listing = .ok listing ∧ scopes.Groups listing := by
  obtain ⟨listing, listed, recorded⟩ := globals_of_bind bound
  exact ⟨listing, listed, groups_of_recordAll (Document.listBlock_proper _ listed) recorded⟩

end Scopes

/-- The tree of `namespace A.B { class C {} } export namespace A { function f() {} }`. -/
def mergedBlocks : Document where
  content := "namespace A.B { class C {} } export namespace A { function f() {} }".toUTF8
  root := ⟨⟨0, "program", 0, true, none, 0, 67⟩, [
    ⟨⟨1, "internal_module", 0, true, none, 0, 28⟩, [
      ⟨⟨2, "nested_identifier", 0, true, some "name", 10, 13⟩, []⟩,
      ⟨⟨3, "statement_block", 0, true, some "body", 14, 28⟩, [
        ⟨⟨4, "class_declaration", 0, true, none, 16, 26⟩, [
          ⟨⟨5, "type_identifier", 0, true, some "name", 22, 23⟩, []⟩]⟩]⟩]⟩,
    ⟨⟨6, "export_statement", 0, true, none, 29, 67⟩, [
      ⟨⟨7, "internal_module", 0, true, none, 36, 67⟩, [
        ⟨⟨8, "identifier", 0, true, some "name", 46, 47⟩, []⟩,
        ⟨⟨9, "statement_block", 0, true, some "body", 48, 67⟩, [
          ⟨⟨10, "function_declaration", 0, true, none, 50, 65⟩, [
            ⟨⟨11, "identifier", 0, true, some "name", 59, 60⟩, []⟩]⟩]⟩]⟩]⟩]⟩

set_option maxRecDepth 10000 in
theorem mergedBlocks_groups : ∃ scopes listing,
    Scopes.bind mergedBlocks none = .ok scopes ∧ mergedBlocks.listing = .ok listing ∧
      listing.map Prod.fst = [["A"], ["A", "B"], ["A", "B", "C"], ["A"], ["A", "f"]] ∧
      scopes.Groups listing := by
  obtain ⟨scopes, bound⟩ : ∃ scopes, Scopes.bind mergedBlocks none = .ok scopes := ⟨_, rfl⟩
  obtain ⟨listing, listed, groups⟩ := Scopes.bind_groups bound
  refine ⟨scopes, listing, bound, listed, ?_, groups⟩
  have paths : (mergedBlocks.listing.map (List.map Prod.fst)) =
      .ok [["A"], ["A", "B"], ["A", "B", "C"], ["A"], ["A", "f"]] := rfl
  rw [listed] at paths
  exact Except.ok.inj paths

end SourceOutline
