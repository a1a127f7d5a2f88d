import Mathlib.Data.List.Nodup
import SourceOutline.Proofs.Scope.Statement

/-!
# The scope around a statement

The blocks of a bound file are exactly the namespaces among its statements, with the scopes
that they open. If no two nodes share an id, a block is found by its id alone, and climbing
from a statement to the nearest block gives the scope into which the statement was bound. The
one thing to exclude is that a body counts as a block itself, which it would if it were a
statement too.
-/

namespace SourceOutline

namespace Document

variable {document : Document} {site : Site}

/-- A namespace among the statements, by its id, with the scope that it opens. -/
def Opened (document : Document) (entry : Nat × List String) : Prop :=
  ∃ site scope names, document.StatementAt site scope ∧ isNamespaceType site.type = true ∧
    Binder.namespaceNames document site.node = .ok names ∧
    entry = (site.node.id, scope ++ names)

/-- No two nodes of the tree have the same id. -/
def HasDistinctIds (document : Document) : Prop :=
  (document.sites.map fun site => site.node.id).Nodup

instance : Decidable document.HasDistinctIds := inferInstanceAs (Decidable (List.Nodup _))

theorem HasDistinctIds.site_eq (distinct : document.HasDistinctIds) {other : Site}
    (member : site ∈ document.sites) (among : other ∈ document.sites)
    (same : site.node.id = other.node.id) : site = other :=
  List.inj_on_of_nodup_map distinct member among same

theorem HasDistinctIds.site?_eq (distinct : document.HasDistinctIds)
    (member : site ∈ document.sites) : document.site? site.node.id = some site := by
  cases found : document.site? site.node.id with
  | none => simpa using List.find?_eq_none.mp found site member
  | some other =>
      have among := List.mem_of_find?_eq_some found
      rw [distinct.site_eq among member (id_of_site? found)]

end Document

namespace Binder

variable {α β : Type} {document : Document} {before after : Blocks}

/-- Started with the blocks `before`, the binder succeeds with `value` and the blocks
`after`. -/
def Runs (binder : Binder α) (before : Blocks) (value : α) (after : Blocks) : Prop :=
  binder.run before = .ok (value, after)

theorem runs_pure_iff {value other : α} :
    (pure value : Binder α).Runs before other after ↔ value = other ∧ before = after := by
  rw [Runs, StateT.run_pure]
  simp [pure, Except.pure]

theorem runs_bind_iff {binder : Binder α} {next : α → Binder β} {value : β} :
    (binder >>= next).Runs before value after ↔
      ∃ first middle, binder.Runs before first middle ∧ (next first).Runs middle value after := by
  rw [Runs, StateT.run_bind, bind_eq_ok_iff]
  exact ⟨fun ⟨⟨first, middle⟩, ran, rest⟩ => ⟨first, middle, ran, rest⟩,
    fun ⟨first, middle, ran, rest⟩ => ⟨(first, middle), ran, rest⟩⟩

theorem runs_lift_iff {result : Except Failure α} {value : α} :
    (liftM result : Binder α).Runs before value after ↔ result = .ok value ∧ before = after := by
  cases result with
  | error failure => exact ⟨nofun, nofun⟩
  | ok given => exact runs_pure_iff.trans (by simp)

/-- Entering a declaration transforms the members of the symbol with its name and puts the
declaration behind those it has. -/
theorem Runs.enter_eq {scope : List String} {name : String} {declaration : Declaration}
    {inside : List Symbol → Binder (List Symbol)} {table grown : List Symbol}
    (ran : (enter scope name declaration inside table).Runs before grown after) :
    ∃ changed,
      (inside ((Symbol.find? table name).getD (Symbol.fresh scope name)).members).Runs before
        changed after ∧
      grown = Symbol.update scope name
        (fun symbol =>
          { symbol with
            declarations := symbol.declarations ++ [declaration], members := changed }) table := by
  induction table generalizing grown with
  | nil =>
      obtain ⟨changed, middle, inner, rest⟩ := runs_bind_iff.mp ran
      obtain ⟨rfl, rfl⟩ := runs_pure_iff.mp rest
      exact ⟨changed, inner, rfl⟩
  | cons symbol table ih =>
      rw [enter] at ran
      by_cases same : symbol.name = name
      · rw [if_pos same] at ran
        obtain ⟨changed, middle, inner, rest⟩ := runs_bind_iff.mp ran
        obtain ⟨rfl, rfl⟩ := runs_pure_iff.mp rest
        refine ⟨changed, ?_, ?_⟩
        · simpa [Symbol.find?, same] using inner
        · simp [Symbol.update, same]
      · rw [if_neg same] at ran
        obtain ⟨others, middle, later, rest⟩ := runs_bind_iff.mp ran
        obtain ⟨rfl, rfl⟩ := runs_pure_iff.mp rest
        obtain ⟨changed, inner, rfl⟩ := ih later
        refine ⟨changed, ?_, ?_⟩
        · simpa [Symbol.find?, same] using inner
        · simp [Symbol.update, same]

theorem Runs.inside_enterChain {declaration : Declaration}
    {inside : List String → List Symbol → Binder (List Symbol)} {scope names : List String}
    {table grown : List Symbol}
    (ran : (enterChain declaration inside scope names table).Runs before grown after) :
    ∃ members changed, (inside (scope ++ names) members).Runs before changed after := by
  induction names generalizing scope table grown with
  | nil =>
      rw [List.append_nil]
      exact ⟨table, grown, ran⟩
  | cons name names ih =>
      obtain ⟨changed, inner, -⟩ := ran.enter_eq
      rw [List.append_cons]
      exact ih inner

theorem Runs.blocks_enterAll {scope : List String} {table grown : List Symbol}
    {namings : List Naming} (ran : (enterAll scope table namings).Runs before grown after) :
    before = after := by
  induction namings generalizing before table with
  | nil => exact (runs_pure_iff.mp ran).2
  | cons naming namings ih =>
      obtain ⟨changed, middle, entered, rest⟩ := runs_bind_iff.mp ran
      obtain ⟨same, inner, -⟩ := entered.enter_eq
      rw [(runs_pure_iff.mp inner).2]
      exact ih rest

/-- A namespace is noted with the scope that it opens before its body is bound. -/
theorem Runs.body_of_namespace {scope : List String} {ancestors : List Node} {node : Node}
    {table grown : List Symbol} (nested : isNamespaceType node.type = true)
    (ran : (bindStatement document scope ancestors table node).Runs before grown after) :
    ∃ names members changed, namespaceNames document node = .ok names ∧
      (bindBody document (scope ++ names) (node :: ancestors) members node.children).Runs
        (before ++ [(node.id, scope ++ names)]) changed after := by
  obtain ⟨head, children⟩ := node
  have solid : ¬ isTransparentType head.type = true := by
    rw [Document.not_transparent_of_namespace nested]
    exact Bool.false_ne_true
  rw [bindStatement, if_neg solid, if_pos nested] at ran
  obtain ⟨names, middle, lifted, entered⟩ := runs_bind_iff.mp ran
  obtain ⟨named, rfl⟩ := runs_lift_iff.mp lifted
  obtain ⟨members, changed, inner⟩ := entered.inside_enterChain
  obtain ⟨⟨⟩, middle, noted, body⟩ := runs_bind_iff.mp inner
  cases noted
  exact ⟨names, members, changed, named, body⟩

theorem Runs.block_of_transparent {scope : List String} {ancestors : List Node} {node : Node}
    {table grown : List Symbol} (transparent : isTransparentType node.type = true)
    (ran : (bindStatement document scope ancestors table node).Runs before grown after) :
    (bindBlock document scope (node :: ancestors) table node.children).Runs before grown after := by
  obtain ⟨head, children⟩ := node
  rwa [bindStatement, if_pos transparent] at ran

theorem Runs.blocks_of_other {scope : List String} {ancestors : List Node} {node : Node}
    {table grown : List Symbol} (solid : ¬ isTransparentType node.type = true)
    (plain : ¬ isNamespaceType node.type = true)
    (ran : (bindStatement document scope ancestors table node).Runs before grown after) :
    before = after := by
  obtain ⟨head, children⟩ := node
  rw [bindStatement, if_neg solid, if_neg plain] at ran
  obtain ⟨namings, middle, declared, entered⟩ := runs_bind_iff.mp ran
  rw [(runs_lift_iff.mp declared).2]
  exact entered.blocks_enterAll

/-- The body of a namespace is its first child under that field. -/
theorem bindBody_eq (scope : List String) (ancestors : List Node) (table : List Symbol)
    (nodes : List Node) :
    bindBody document scope ancestors table nodes =
      match nodes.find? (fun child => child.head.field == some "body") with
      | some body => bindBlock document scope (body :: ancestors) table body.children
      | none => pure table := by
  induction nodes with
  | nil => rw [bindBody, List.find?_nil]
  | cons node nodes ih =>
      obtain ⟨head, children⟩ := node
      rw [bindBody]
      by_cases found : (head.field == some "body") = true
      · simp only [found, if_true, List.find?_cons]
      · simp only [found, List.find?_cons, ih]
        rfl

theorem bindBlock_cons (scope : List String) (ancestors : List Node) (table : List Symbol)
    (node : Node) (nodes : List Node) :
    bindBlock document scope ancestors table (node :: nodes) =
      (if node.named then bindStatement document scope ancestors table node else pure table) >>=
        fun grown => bindBlock document scope ancestors grown nodes := by
  rw [bindBlock]
  split <;> rfl

/-- Blocks are only added, and every one that is added is an opened namespace. -/
structure Extends (document : Document) (before after : Blocks) : Prop where
  kept : before ⊆ after
  opened : ∀ entry ∈ after, entry ∈ before ∨ document.Opened entry

theorem Extends.refl (before : Blocks) : Extends document before before :=
  ⟨List.Subset.refl _, fun _ member => .inl member⟩

theorem Extends.trans {middle : Blocks} (first : Extends document before middle)
    (second : Extends document middle after) : Extends document before after := by
  refine ⟨List.Subset.trans first.kept second.kept, fun entry member => ?_⟩
  rcases second.opened entry member with earlier | opened
  · exact first.opened entry earlier
  · exact .inr opened

mutual

/-- Binding a statement adds the namespaces at it and inside it. -/
theorem extends_bindStatement {scope : List String} {ancestors : List Node}
    {table grown : List Symbol} {before after : Blocks} (node : Node)
    (reached : document.StatementAt ⟨node, ancestors⟩ scope)
    (ran : (bindStatement document scope ancestors table node).Runs before grown after) :
    Extends document before after := by
  obtain ⟨head, children⟩ := node
  by_cases transparent : isTransparentType head.type = true
  · refine extends_bindBlock children (fun node member named => ?_)
      (ran.block_of_transparent transparent)
    exact .wrapped reached transparent (List.mem_filter.mpr ⟨member, named⟩)
  · by_cases nested : isNamespaceType head.type = true
    · obtain ⟨names, members, changed, named, inner⟩ := ran.body_of_namespace nested
      have noted : Extends document before (before ++ [(head.id, scope ++ names)]) := by
        refine ⟨List.subset_append_left _ _, fun entry member => ?_⟩
        refine (List.mem_append.mp member).imp_right fun last => ?_
        exact ⟨_, scope, names, reached, nested, named, List.mem_singleton.mp last⟩
      refine noted.trans (extends_bindBody children (fun body found node member => ?_) inner)
      exact .enclosed reached nested named found member
    · rw [ran.blocks_of_other transparent nested]
      exact .refl after

theorem extends_bindBlock {scope : List String} {ancestors : List Node}
    {table grown : List Symbol} {before after : Blocks} (nodes : List Node)
    (each : ∀ node ∈ nodes, node.named = true → document.StatementAt ⟨node, ancestors⟩ scope)
    (ran : (bindBlock document scope ancestors table nodes).Runs before grown after) :
    Extends document before after := by
  cases nodes with
  | nil =>
      rw [(runs_pure_iff.mp ran).2]
      exact .refl after
  | cons node nodes =>
      have later := fun other member => each other (List.mem_cons_of_mem node member)
      rw [bindBlock_cons] at ran
      obtain ⟨changed, middle, first, rest⟩ := runs_bind_iff.mp ran
      refine Extends.trans ?_ (extends_bindBlock nodes later rest)
      split at first
      · next named =>
        exact extends_bindStatement node (each node List.mem_cons_self named) first
      · rw [(runs_pure_iff.mp first).2]
        exact .refl middle

theorem extends_bindBody {scope : List String} {ancestors : List Node}
    {table grown : List Symbol} {before after : Blocks} (nodes : List Node)
    (each : ∀ body, nodes.find? (fun child => child.head.field == some "body") = some body →
      ∀ node ∈ body.namedChildren, document.StatementAt ⟨node, body :: ancestors⟩ scope)
    (ran : (bindBody document scope ancestors table nodes).Runs before grown after) :
    Extends document before after := by
  cases nodes with
  | nil =>
      rw [(runs_pure_iff.mp ran).2]
      exact .refl after
  | cons node nodes =>
      obtain ⟨head, children⟩ := node
      rw [bindBody] at ran
      by_cases found : (head.field == some "body") = true
      · rw [if_pos found] at ran
        refine extends_bindBlock children (fun node member named => ?_) ran
        refine each ⟨head, children⟩ ?_ node (List.mem_filter.mpr ⟨member, named⟩)
        simp only [List.find?_cons, found]
      · rw [if_neg found] at ran
        refine extends_bindBody nodes (fun body deeper => each body ?_) ran
        simp only [List.find?_cons, found, deeper]

end

/-- A block that is bound binds each of its named statements. -/
theorem Runs.exists_statement {scope : List String} {ancestors nodes : List Node}
    {table grown : List Symbol}
    (each : ∀ node ∈ nodes, node.named = true → document.StatementAt ⟨node, ancestors⟩ scope)
    (ran : (bindBlock document scope ancestors table nodes).Runs before grown after)
    {node : Node} (member : node ∈ nodes) (named : node.named = true) :
    ∃ table' before' grown' after',
      (bindStatement document scope ancestors table' node).Runs before' grown' after' ∧
        after' ⊆ after := by
  induction nodes generalizing table before with
  | nil => cases member
  | cons first nodes ih =>
      have later := fun other member => each other (List.mem_cons_of_mem first member)
      rw [bindBlock_cons] at ran
      obtain ⟨changed, middle, here, rest⟩ := runs_bind_iff.mp ran
      rcases List.mem_cons.mp member with rfl | deeper
      · rw [if_pos named] at here
        exact ⟨table, before, changed, middle, here, (extends_bindBlock nodes later rest).kept⟩
      · exact ih later rest deeper

end Binder

namespace Scopes

variable {document : Document} {scopes : Scopes} {moduleName : Option String}

theorem runs_of_bind (bound : Scopes.bind document moduleName = .ok scopes) :
    (Binder.bindBlock document [] [document.root] [] document.root.children).Runs []
      scopes.globals scopes.blocks := by
  obtain ⟨⟨globals, blocks⟩, ran, bound⟩ := bind_eq_ok_iff.mp bound
  cases bound
  exact ran

/-- Every statement that can be reached has been bound. -/
theorem exists_run (bound : Scopes.bind document moduleName = .ok scopes) {site : Site}
    {scope : List String} (reached : document.StatementAt site scope) :
    ∃ table before grown after,
      (Binder.bindStatement document scope site.ancestors table site.node).Runs before grown
        after ∧ after ⊆ scopes.blocks := by
  induction reached with
  | inFile member =>
      obtain ⟨member, named⟩ := List.mem_filter.mp member
      exact (runs_of_bind bound).exists_statement
        (fun node member named => .inFile (List.mem_filter.mpr ⟨member, named⟩)) member named
  | wrapped reached transparent member ih =>
      obtain ⟨member, named⟩ := List.mem_filter.mp member
      obtain ⟨table, before, grown, after, ran, among⟩ := ih
      obtain ⟨table', before', grown', after', inner, less⟩ :=
        (ran.block_of_transparent transparent).exists_statement
          (fun node member named =>
            .wrapped reached transparent (List.mem_filter.mpr ⟨member, named⟩))
          member named
      exact ⟨table', before', grown', after', inner, List.Subset.trans less among⟩
  | enclosed reached nested opens found member ih =>
      obtain ⟨member, named⟩ := List.mem_filter.mp member
      obtain ⟨table, before, grown, after, ran, among⟩ := ih
      obtain ⟨names, members, changed, same, body⟩ := ran.body_of_namespace nested
      cases opens.symm.trans same
      rw [Binder.bindBody_eq, show List.find? _ _ = some _ from found] at body
      obtain ⟨table', before', grown', after', inner, less⟩ := body.exists_statement
        (fun node member named =>
          .enclosed reached nested opens found (List.mem_filter.mpr ⟨member, named⟩))
        member named
      exact ⟨table', before', grown', after', inner, List.Subset.trans less among⟩

/-- The blocks of a bound file are the namespaces among its statements, with the scopes that
they open. -/
theorem mem_blocks_iff (bound : Scopes.bind document moduleName = .ok scopes)
    {entry : Nat × List String} : entry ∈ scopes.blocks ↔ document.Opened entry := by
  constructor
  · intro member
    have all := Binder.extends_bindBlock document.root.children
      (fun node member named => .inFile (List.mem_filter.mpr ⟨member, named⟩)) (runs_of_bind bound)
    exact (all.opened entry member).resolve_left List.not_mem_nil
  · rintro ⟨site, scope, names, reached, nested, named, rfl⟩
    obtain ⟨table, before, grown, after, ran, among⟩ := exists_run bound reached
    obtain ⟨_, members, changed, same, body⟩ := ran.body_of_namespace nested
    cases named.symm.trans same
    refine among ((Binder.extends_bindBody site.node.children (fun body found node member => ?_)
      body).kept (List.mem_append_right _ (List.mem_singleton.mpr rfl)))
    exact .enclosed reached nested named found member

/-- Only the namespaces among the statements have a block, which is the scope they open. -/
theorem opened_of_lookup (bound : Scopes.bind document moduleName = .ok scopes)
    (distinct : document.HasDistinctIds) {site : Site} (member : site ∈ document.sites)
    {path : List String} (looked : scopes.blocks.lookup site.node.id = some path) :
    ∃ scope names, document.StatementAt site scope ∧ isNamespaceType site.type = true ∧
      Binder.namespaceNames document site.node = .ok names ∧ path = scope ++ names := by
  obtain ⟨front, back, split, -⟩ := List.lookup_eq_some_iff.mp looked
  have noted : (site.node.id, path) ∈ scopes.blocks := by
    rw [split]
    exact List.mem_append_right _ List.mem_cons_self
  obtain ⟨other, scope, names, reached, nested, named, entry⟩ := (mem_blocks_iff bound).mp noted
  obtain ⟨same, rfl⟩ := Prod.mk.inj entry
  obtain rfl := distinct.site_eq member reached.mem_sites same
  exact ⟨scope, names, reached, nested, named, rfl⟩

theorem lookup_blocks_of_namespace (bound : Scopes.bind document moduleName = .ok scopes)
    (distinct : document.HasDistinctIds) {site : Site} {scope names : List String}
    (reached : document.StatementAt site scope) (nested : isNamespaceType site.type = true)
    (named : Binder.namespaceNames document site.node = .ok names) :
    scopes.blocks.lookup site.node.id = some (scope ++ names) := by
  have noted : (site.node.id, scope ++ names) ∈ scopes.blocks :=
    (mem_blocks_iff bound).mpr ⟨site, scope, names, reached, nested, named, rfl⟩
  cases looked : scopes.blocks.lookup site.node.id with
  | none => simpa using List.lookup_eq_none_iff.mp looked _ noted
  | some path =>
      obtain ⟨scope', names', again, -, named', rfl⟩ :=
        opened_of_lookup bound distinct reached.mem_sites looked
      rw [reached.unique again, Except.ok.inj (named.symm.trans named')]

theorem lookup_blocks_eq_none (bound : Scopes.bind document moduleName = .ok scopes)
    (distinct : document.HasDistinctIds) {site : Site} (member : site ∈ document.sites)
    (other : ∀ scope, document.StatementAt site scope → ¬ isNamespaceType site.type = true) :
    scopes.blocks.lookup site.node.id = none := by
  cases looked : scopes.blocks.lookup site.node.id with
  | none => rfl
  | some path =>
      obtain ⟨scope, names, reached, nested, -, -⟩ := opened_of_lookup bound distinct member looked
      exact absurd nested (other scope reached)

theorem enclosing_cons (node : Node) (ancestors : List Node) :
    scopes.enclosing (node :: ancestors) =
      (scopes.blocks.lookup node.id).getD (scopes.enclosing ancestors) := by
  rw [enclosing, List.findSome?_cons]
  cases scopes.blocks.lookup node.id <;> rfl

/-- Climbing past a node that is no namespace. -/
theorem enclosing_below (bound : Scopes.bind document moduleName = .ok scopes)
    (distinct : document.HasDistinctIds) {site : Site} (member : site ∈ document.sites)
    (plain : ¬ isNamespaceType site.type = true) :
    scopes.enclosing (site.node :: site.ancestors) = scopes.enclosing site.ancestors := by
  rw [enclosing_cons, lookup_blocks_eq_none bound distinct member fun _ _ => plain]
  rfl

/-- Climbing from a statement leads to the scope into which it was bound. -/
theorem enclosing_of_statementAt (bound : Scopes.bind document moduleName = .ok scopes)
    (distinct : document.HasDistinctIds) {site : Site} {scope : List String}
    (reached : document.StatementAt site scope) : scopes.enclosing site.ancestors = scope := by
  induction reached with
  | inFile _ =>
      have file : scopes.blocks.lookup document.root.id = none :=
        lookup_blocks_eq_none bound distinct document.rootSite_mem_sites
          fun _ reached => absurd rfl reached.ancestors_ne_nil
      change scopes.enclosing [document.root] = []
      rw [enclosing_cons, file]
      rfl
  | wrapped reached transparent _ ih =>
      refine (enclosing_below bound distinct reached.mem_sites fun nested => ?_).trans ih
      rw [Document.not_transparent_of_namespace nested] at transparent
      cases transparent
  | @enclosed outer _ _ body _ reached nested named found _ _ =>
      have inBody := Document.mem_sites_below reached.mem_sites (List.mem_of_find?_eq_some found)
      have skipped : scopes.blocks.lookup body.id = none :=
        lookup_blocks_eq_none bound distinct inBody
          fun _ statement => absurd statement (reached.not_below nested body _)
      have opened := lookup_blocks_of_namespace bound distinct reached nested named
      change scopes.enclosing (body :: outer.node :: outer.ancestors) = _
      rw [enclosing_cons, enclosing_cons, skipped, opened]
      rfl

end Scopes

end SourceOutline
