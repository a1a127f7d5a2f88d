import SourceOutline.Proofs.Outline.Visibility
import SourceOutline.Proofs.Scope.Grouping

/-!
# The statements that binding reaches

`StatementAt` says which statements binding reaches and into which scope it binds them,
without any table: the statements of the file, those inside a transparent statement, and
those in the body of a namespace. A statement is reached in one way only, since a body is never
a statement itself. Every declaration of a listing belongs to one of these statements.
-/

namespace SourceOutline

namespace Document

variable {document : Document} {site : Site} {scope : List String}

/-- Binding reaches a statement, and its names go into the scope with a path. -/
inductive StatementAt (document : Document) : Site → (scope : List String) → Prop
  | inFile {node : Node} (member : node ∈ document.root.namedChildren) :
      StatementAt document (document.rootSite.below node) []
  | wrapped {outer : Site} {scope : List String} {node : Node}
      (reached : StatementAt document outer scope)
      (transparent : isTransparentType outer.type = true)
      (member : node ∈ outer.node.namedChildren) : StatementAt document (outer.below node) scope
  | enclosed {outer : Site} {scope names : List String} {body node : Node}
      (reached : StatementAt document outer scope) (nested : isNamespaceType outer.type = true)
      (named : Binder.namespaceNames document outer.node = .ok names)
      (found : outer.node.child? "body" = some body) (member : node ∈ body.namedChildren) :
      StatementAt document ((outer.below body).below node) (scope ++ names)

theorem StatementAt.mem_sites (reached : document.StatementAt site scope) :
    site ∈ document.sites := by
  induction reached with
  | inFile member =>
      exact mem_sites_below document.rootSite_mem_sites (mem_children_of_namedChildren member)
  | wrapped _ _ member ih => exact mem_sites_below ih (mem_children_of_namedChildren member)
  | enclosed _ _ _ found member ih =>
      have inBody := mem_sites_below ih (List.mem_of_find?_eq_some found)
      exact mem_sites_below inBody (mem_children_of_namedChildren member)

theorem StatementAt.ancestors_ne_nil (reached : document.StatementAt site scope) :
    site.ancestors ≠ [] := by
  cases reached <;> exact List.cons_ne_nil _ _

/-- What stands directly above a statement: the file, a transparent statement, or the body
of a namespace. -/
theorem StatementAt.above {node : Node} {inner : List String}
    (reached : document.StatementAt (site.below node) inner) :
    site = document.rootSite ∨ isTransparentType site.type = true ∨
      ∃ outer body scope, document.StatementAt outer scope ∧
        isNamespaceType outer.type = true ∧ site = outer.below body := by
  obtain ⟨upper, above⟩ := site
  cases reached with
  | inFile _ => exact .inl rfl
  | wrapped _ transparent _ => exact .inr (.inl transparent)
  | enclosed outer nested _ _ _ => exact .inr (.inr ⟨_, _, _, outer, nested, rfl⟩)

theorem not_transparent_of_namespace {type : String} (nested : isNamespaceType type = true) :
    isTransparentType type = false := by
  simp only [isNamespaceType, Bool.or_eq_true, beq_iff_eq] at nested
  rcases nested with rfl | rfl <;> decide

/-- A namespace passes on the statements of its body alone: nothing directly below it is a
statement. -/
theorem StatementAt.not_below {site : Site} {scope : List String}
    (reached : document.StatementAt site scope) (nested : isNamespaceType site.type = true)
    (node : Node) (inner : List String) : ¬ document.StatementAt (site.below node) inner := by
  intro below
  rcases below.above with top | transparent | ⟨outer, body, _, further, outerNested, same⟩
  · exact reached.ancestors_ne_nil (congrArg Site.ancestors top)
  · rw [not_transparent_of_namespace nested] at transparent
    cases transparent
  · -- The namespace would be a body as well, directly below another namespace.
    rw [same] at reached
    exact further.not_below outerNested body scope reached
  termination_by site.ancestors.length
  decreasing_by
    rw [same]
    exact Nat.lt_succ_self _

/-- A statement binds into one scope. -/
theorem StatementAt.unique {other : List String} (first : document.StatementAt site scope)
    (second : document.StatementAt site other) : scope = other := by
  induction first generalizing other with
  | inFile _ =>
      generalize same : document.rootSite.below _ = site at second
      cases second with
      | inFile _ => rfl
      | @wrapped outer _ _ reached _ _ =>
          have top : [] = outer.ancestors := (List.cons.inj (congrArg Site.ancestors same)).2
          exact absurd top.symm reached.ancestors_ne_nil
      | enclosed _ _ _ _ _ => cases same
  | @wrapped outer _ _ reached transparent _ ih =>
      obtain ⟨upper, above⟩ := outer
      generalize same : Site.below ⟨upper, above⟩ _ = site at second
      cases second with
      | inFile _ =>
          cases same
          exact absurd rfl reached.ancestors_ne_nil
      | wrapped again _ _ =>
          cases same
          exact ih again
      | enclosed around nested _ _ _ =>
          cases same
          exact absurd reached (around.not_below nested _ _)
  | @enclosed outer _ _ body _ reached nested named _ _ ih =>
      obtain ⟨upper, above⟩ := outer
      generalize same : (Site.below ⟨upper, above⟩ body).below _ = site at second
      cases second with
      | inFile _ => cases same
      | @wrapped between _ _ again _ _ =>
          obtain ⟨middle, higher⟩ := between
          cases same
          exact absurd again (reached.not_below nested _ _)
      | enclosed around _ named' _ _ =>
          cases same
          rw [ih around, Except.ok.inj (named.symm.trans named')]

/-- A statement declares something at a path: a namespace opens the scopes of its name, and
every other statement has the names it introduces in its own scope. -/
inductive Declares (document : Document) : (path : List String) → Declaration → Prop
  | opens {site : Site} {scope names path : List String}
      (reached : document.StatementAt site scope) (nested : isNamespaceType site.type = true)
      (named : Binder.namespaceNames document site.node = .ok names)
      (among : path ∈ scopePaths names) :
      Declares document (scope ++ path) ⟨.plain site.type, site⟩
  | names {site : Site} {scope : List String} {namings : List Naming} {naming : Naming}
      (reached : document.StatementAt site scope)
      (declared : site.declared document = .ok namings) (member : naming ∈ namings) :
      Declares document (scope ++ [naming.1]) naming.2

mutual

/-- Whatever the listing of a statement holds is declared by a statement. -/
theorem declares_of_listStatement {scope : List String} {ancestors : List Node}
    {listing : Listing} (node : Node) (reached : document.StatementAt ⟨node, ancestors⟩ scope)
    (listed : document.listStatement ancestors node = .ok listing) :
    ∀ pair ∈ listing, document.Declares (scope ++ pair.1) pair.2 := by
  obtain ⟨head, children⟩ := node
  rw [listStatement] at listed
  by_cases transparent : isTransparentType head.type = true
  · rw [if_pos transparent] at listed
    refine declares_of_listBlock children (fun node member named => ?_) listed
    exact .wrapped reached transparent (List.mem_filter.mpr ⟨member, named⟩)
  · rw [if_neg transparent] at listed
    by_cases nested : isNamespaceType head.type = true
    · rw [if_pos nested] at listed
      obtain ⟨names, named, listed⟩ := bind_eq_ok_iff.mp listed
      obtain ⟨body, inner, listed⟩ := bind_eq_ok_iff.mp listed
      cases listed
      have inside := declares_of_listBody children
        (fun body found node member => .enclosed reached nested named found member) inner
      intro pair member
      rcases List.mem_append.mp member with opened | deeper
      · obtain ⟨path, among, rfl⟩ := List.mem_map.mp opened
        exact .opens reached nested named among
      · obtain ⟨lower, among, rfl⟩ := List.mem_map.mp deeper
        rw [← List.append_assoc]
        exact inside lower among
    · rw [if_neg nested] at listed
      obtain ⟨namings, declared, listed⟩ := bind_eq_ok_iff.mp listed
      cases listed
      intro pair member
      obtain ⟨naming, among, rfl⟩ := List.mem_map.mp member
      exact .names reached declared among

theorem declares_of_listBlock {scope : List String} {ancestors : List Node} {listing : Listing}
    (nodes : List Node)
    (each : ∀ node ∈ nodes, node.named = true → document.StatementAt ⟨node, ancestors⟩ scope)
    (listed : document.listBlock ancestors nodes = .ok listing) :
    ∀ pair ∈ listing, document.Declares (scope ++ pair.1) pair.2 := by
  cases nodes with
  | nil =>
      cases listed
      exact nofun
  | cons node nodes =>
      have later := fun other member => each other (List.mem_cons_of_mem node member)
      rw [listBlock] at listed
      by_cases named : node.named = true
      · rw [if_pos named] at listed
        obtain ⟨first, here, listed⟩ := bind_eq_ok_iff.mp listed
        obtain ⟨others, rest, listed⟩ := bind_eq_ok_iff.mp listed
        cases listed
        have inFirst := declares_of_listStatement node (each node List.mem_cons_self named) here
        have inRest := declares_of_listBlock nodes later rest
        intro pair member
        exact (List.mem_append.mp member).elim (inFirst pair) (inRest pair)
      · rw [if_neg named] at listed
        exact declares_of_listBlock nodes later listed

theorem declares_of_listBody {scope : List String} {ancestors : List Node} {listing : Listing}
    (nodes : List Node)
    (each : ∀ body, nodes.find? (fun child => child.head.field == some "body") = some body →
      ∀ node ∈ body.namedChildren, document.StatementAt ⟨node, body :: ancestors⟩ scope)
    (listed : document.listBody ancestors nodes = .ok listing) :
    ∀ pair ∈ listing, document.Declares (scope ++ pair.1) pair.2 := by
  cases nodes with
  | nil =>
      cases listed
      exact nofun
  | cons node nodes =>
      obtain ⟨head, children⟩ := node
      rw [listBody] at listed
      by_cases found : (head.field == some "body") = true
      · rw [if_pos found] at listed
        refine declares_of_listBlock children (fun node member named => ?_) listed
        refine each ⟨head, children⟩ ?_ node (List.mem_filter.mpr ⟨member, named⟩)
        simp only [List.find?_cons, found]
      · rw [if_neg found] at listed
        refine declares_of_listBody nodes (fun body deeper => each body ?_) listed
        simp only [List.find?_cons, found, deeper]

end

/-- The declarations of a file are those of its statements. -/
theorem declares_of_listing {listing : Listing} (listed : document.listing = .ok listing) :
    ∀ pair ∈ listing, document.Declares pair.1 pair.2 :=
  declares_of_listBlock document.root.children
    (fun _ member named => .inFile (List.mem_filter.mpr ⟨member, named⟩)) listed

end Document

end SourceOutline
