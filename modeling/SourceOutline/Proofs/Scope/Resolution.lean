import SourceOutline.Proofs.Scope.Pursuit

/-!
# What an expression denotes

An expression is evaluated from its innermost object outward: the head is looked up, members
are taken, and aliases are followed after every step. `Evaluates` gives the rules of this
evaluation, failures included, with the recursion that follows aliases as its own finished
calls. `Denotes` gives what a name means without any set of aliases seen.

Every expression evaluates in one way. Where evaluation finds a symbol, the symbol is no
alias, and the expression denotes it by a finite chain of lookups, members and replaced
aliases, in each step along a trail without repetition.
-/

namespace SourceOutline

namespace Node

theorem object?_mem {node object : Node} (found : node.object? = some object) :
    object ∈ node.children := List.mem_of_find?_eq_some found

theorem property?_mem {node property : Node} (found : node.property? = some property) :
    property ∈ node.children := by
  rcases Option.or_eq_some_iff.mp found with field | ⟨-, last⟩
  · exact List.mem_of_find?_eq_some field
  · exact (List.mem_filter.mp (List.mem_of_getLast? last)).1

theorem object?_of_child? {node object : Node} (found : node.child? "object" = some object) :
    node.object? = some object := by
  have byField : node.isObject = fun child => child.head.field == some "object" := by
    funext child
    rw [isObject, found, Option.isSome_some, if_pos rfl]
  rw [object?, byField]
  exact found

theorem property?_of_child? {node property : Node}
    (found : node.child? "property" = some property) : node.property? = some property := by
  rw [property?, found, Option.some_or]

/-- A member node with a named child has an object and a property. -/
theorem exists_object_property {node first : Node} {rest : List Node}
    (children : node.namedChildren = first :: rest) :
    ∃ object property, node.object? = some object ∧ node.property? = some property := by
  have hasObject : ∃ object, node.object? = some object := by
    cases field : node.child? "object" with
    | some object => exact ⟨object, object?_of_child? field⟩
    | none =>
        have byName : node.isObject = Node.named := by
          funext child
          rw [isObject, field]
          rfl
        refine ⟨first, ?_⟩
        rw [object?, byName, ← List.head?_filter]
        exact congrArg List.head? children
  have hasProperty : ∃ property, node.property? = some property := by
    rw [property?, children]
    cases node.child? "property" with
    | some property => exact ⟨property, rfl⟩
    | none => exact ⟨_, List.getLast?_cons⟩
  obtain ⟨object, objectAt⟩ := hasObject
  obtain ⟨property, propertyAt⟩ := hasProperty
  exact ⟨object, property, objectAt, propertyAt⟩

end Node

/-- Induction along the objects of an expression, innermost first. Every node is an expression
in this sense; those that are neither names nor members have nothing to evaluate. -/
@[elab_as_elim]
theorem Site.object_induction {motive : Site → Prop}
    (identifier : ∀ site : Site, site.type = "identifier" → motive site)
    (childless : ∀ site : Site, isMemberType site.type = true →
      site.node.object? = none ∨ site.node.property? = none → motive site)
    (member : ∀ (site : Site) (object property : Node), isMemberType site.type = true →
      site.node.object? = some object → site.node.property? = some property →
      motive (site.below object) → motive site)
    (other : ∀ site : Site, site.type ≠ "identifier" → isMemberType site.type = false →
      motive site) (site : Site) : motive site := by
  by_cases isIdentifier : site.type = "identifier"
  · exact identifier site isIdentifier
  · cases isMember : isMemberType site.type with
    | false => exact other site isIdentifier isMember
    | true =>
        cases hasObject : site.node.object? with
        | none => exact childless site isMember (.inl hasObject)
        | some object =>
            cases hasProperty : site.node.property? with
            | none => exact childless site isMember (.inr hasProperty)
            | some property =>
                exact member site object property isMember hasObject hasProperty
                  (object_induction identifier childless member other (site.below object))
  termination_by site.node.size
  decreasing_by exact Node.size_lt_of_mem (Node.object?_mem hasObject)

namespace Scopes

variable {scopes : Scopes} {listing : Listing} {document : Document} {site : Site}

/-- The first suitable child is the one that a search would find. -/
theorem symbolAtFirst_eq (ancestors : List Node) (suitable : Node → Bool) (nodes : List Node) :
    scopes.symbolAtFirst document ancestors suitable nodes =
      match nodes.find? suitable with
      | some node => scopes.symbolAtNode document ancestors node
      | none => .ok none := by
  induction nodes with
  | nil => rw [symbolAtFirst, List.find?_nil]
  | cons node nodes ih =>
      rw [symbolAtFirst]
      by_cases isSuitable : suitable node = true
      · rw [if_pos isSuitable, List.find?_cons_of_pos isSuitable]
      · rw [if_neg isSuitable, List.find?_cons_of_neg isSuitable, ih]

theorem symbolAt_identifier (type : site.type = "identifier") :
    scopes.symbolAt document site = (do
      let name ← document.text site.node
      return scopes.resolve (scopes.lookup (scopes.enclosing site.ancestors) name)) := by
  obtain ⟨⟨head, children⟩, ancestors⟩ := site
  have isIdentifier : (head.type == "identifier") = true := beq_iff_eq.mpr type
  rw [symbolAt, symbolAtNode, if_pos isIdentifier]

theorem ne_identifier_of_isMemberType {type : String} (isMember : isMemberType type = true) :
    type ≠ "identifier" := by
  rintro rfl
  exact absurd isMember (by decide)

/-- A member node evaluates its object first. -/
theorem symbolAt_member {object property : Node} (isMember : isMemberType site.type = true)
    (hasObject : site.node.object? = some object)
    (hasProperty : site.node.property? = some property) :
    scopes.symbolAt document site = (do
      match ← scopes.symbolAt document (site.below object) with
      | some owner =>
        let name ← document.text property
        return scopes.resolve (owner.member? name)
      | none => return none) := by
  obtain ⟨⟨head, children⟩, ancestors⟩ := site
  have notIdentifier : ¬ (head.type == "identifier") = true := by
    rw [beq_iff_eq]
    exact ne_identifier_of_isMemberType isMember
  have found : children.find? (Node.isObject ⟨head, children⟩) = some object := hasObject
  have first : scopes.symbolAtFirst document (⟨head, children⟩ :: ancestors)
      (Node.isObject ⟨head, children⟩) children =
      scopes.symbolAtNode document (⟨head, children⟩ :: ancestors) object := by
    rw [symbolAtFirst_eq, found]
  rw [symbolAt, symbolAtNode, if_neg notIdentifier, if_pos isMember]
  simp only [hasObject, hasProperty, first]
  rfl

/-- Once the object has a symbol, the member is read and taken. -/
theorem symbolAt_of_owner {object property : Node} {owner : Symbol}
    (isMember : isMemberType site.type = true) (hasObject : site.node.object? = some object)
    (hasProperty : site.node.property? = some property)
    (inner : scopes.symbolAt document (site.below object) = .ok (some owner)) :
    scopes.symbolAt document site = (do
      let name ← document.text property
      return scopes.resolve (owner.member? name)) := by
  rw [symbolAt_member isMember hasObject hasProperty, inner]
  rfl

theorem symbolAt_of_nothing {object property : Node} (isMember : isMemberType site.type = true)
    (hasObject : site.node.object? = some object)
    (hasProperty : site.node.property? = some property)
    (inner : scopes.symbolAt document (site.below object) = .ok none) :
    scopes.symbolAt document site = .ok none := by
  rw [symbolAt_member isMember hasObject hasProperty, inner]
  rfl

theorem symbolAt_childless (isMember : isMemberType site.type = true)
    (missing : site.node.object? = none ∨ site.node.property? = none) :
    scopes.symbolAt document site = .error .noNamedChild := by
  obtain ⟨⟨head, children⟩, ancestors⟩ := site
  have notIdentifier : ¬ (head.type == "identifier") = true := by
    rw [beq_iff_eq]
    exact ne_identifier_of_isMemberType isMember
  rw [symbolAt, symbolAtNode, if_neg notIdentifier, if_pos isMember]
  simp only
  split
  · next hasObject hasProperty =>
    rcases missing with none | none
    · cases none.symm.trans hasObject
    · cases none.symm.trans hasProperty
  · rfl

theorem symbolAt_other (notIdentifier : site.type ≠ "identifier")
    (notMember : isMemberType site.type = false) :
    scopes.symbolAt document site = .ok none := by
  obtain ⟨⟨head, children⟩, ancestors⟩ := site
  have other : ¬ (head.type == "identifier") = true := by
    rw [beq_iff_eq]
    exact notIdentifier
  have noMember : isMemberType head.type = false := notMember
  rw [symbolAt, symbolAtNode, if_neg other, noMember, if_neg Bool.false_ne_true]

/-- A name or a dotted expression denotes a symbol: the head is looked up from the place
where it is used, members are taken from symbols that are no aliases, and every symbol found
is followed to what it stands for. There is one trail of aliases for each name. -/
inductive Denotes (scopes : Scopes) (document : Document) :
    Site → (trails : List (List (List String))) → Symbol → Prop
  | identifier {site : Site} {name : String} {start result : Symbol}
      {trail : List (List String)} (type : site.type = "identifier")
      (read : document.text site.node = .ok name)
      (found : scopes.lookup (scopes.enclosing site.ancestors) name = some start)
      (leads : scopes.Leads start [] trail result) : Denotes scopes document site [trail] result
  | member {site : Site} {object property : Node} {name : String} {owner start result : Symbol}
      {trails : List (List (List String))} {trail : List (List String)}
      (type : isMemberType site.type = true) (hasObject : site.node.object? = some object)
      (hasProperty : site.node.property? = some property)
      (inner : Denotes scopes document (site.below object) trails owner)
      (read : document.text property = .ok name) (found : owner.member? name = some start)
      (leads : scopes.Leads start [] trail result) :
      Denotes scopes document site (trails ++ [trail]) result

theorem Denotes.plain {trails : List (List (List String))} {symbol : Symbol}
    (denotes : scopes.Denotes document site trails symbol) : symbol.alias? = none := by
  cases denotes with
  | identifier _ _ _ leads => exact leads.plain
  | member _ _ _ _ _ _ leads => exact leads.plain

namespace Groups

theorem stands_of_denotes (groups : scopes.Groups listing) {trails : List (List (List String))}
    {symbol : Symbol} (denotes : scopes.Denotes document site trails symbol) :
    scopes.Stands symbol := by
  induction denotes with
  | identifier _ _ found leads =>
      exact (groups.stands_of_leads leads (groups.stands_lookup found)).1
  | member _ _ _ _ _ found leads ih =>
      exact (groups.stands_of_leads leads (groups.stands_member ih found).2).1

/-- What evaluation finds is denoted, and no step met an alias twice. -/
theorem denotes_of_symbolAt (groups : scopes.Groups listing) (site : Site) {symbol : Symbol}
    (answered : scopes.symbolAt document site = .ok (some symbol)) :
    ∃ trails, scopes.Denotes document site trails symbol ∧ ∀ trail ∈ trails, trail.Nodup := by
  induction site using Site.object_induction generalizing symbol with
  | identifier site type =>
      rw [symbolAt_identifier type] at answered
      obtain ⟨name, read, answered⟩ := bind_eq_ok_iff.mp answered
      obtain ⟨start, trail, found, leads, once⟩ := (groups.resolve_eq_some_iff
        fun _ looked => groups.stands_lookup looked).mp (Except.ok.inj answered)
      exact ⟨[trail], .identifier type read found leads, by simpa using once⟩
  | childless site isMember missing =>
      rw [symbolAt_childless isMember missing] at answered
      cases answered
  | member site object property isMember hasObject hasProperty ih =>
      rw [symbolAt_member isMember hasObject hasProperty] at answered
      obtain ⟨owner, inner, answered⟩ := bind_eq_ok_iff.mp answered
      cases owner with
      | none => cases answered
      | some owner =>
          obtain ⟨name, read, answered⟩ := bind_eq_ok_iff.mp answered
          obtain ⟨trails, denotes, each⟩ := ih inner
          have stands := groups.stands_of_denotes denotes
          obtain ⟨start, trail, found, leads, once⟩ := (groups.resolve_eq_some_iff
            fun _ taken => (groups.stands_member stands taken).2).mp (Except.ok.inj answered)
          refine ⟨trails ++ [trail],
            .member isMember hasObject hasProperty denotes read found leads, ?_⟩
          intro other among
          rcases List.mem_append.mp among with earlier | last
          · exact each other earlier
          · rwa [List.mem_singleton.mp last]
  | other site notIdentifier notMember =>
      rw [symbolAt_other notIdentifier notMember] at answered
      cases answered

/-- What is denoted is found, if no step meets an alias twice. -/
theorem symbolAt_of_denotes (groups : scopes.Groups listing) {trails : List (List (List String))}
    {symbol : Symbol} (denotes : scopes.Denotes document site trails symbol)
    (each : ∀ trail ∈ trails, trail.Nodup) :
    scopes.symbolAt document site = .ok (some symbol) := by
  induction denotes with
  | identifier type read found leads =>
      have resolved := (groups.resolve_eq_some_iff fun _ looked =>
        groups.stands_lookup looked).mpr ⟨_, _, found, leads, each _ List.mem_cons_self⟩
      rw [symbolAt_identifier type]
      exact bind_eq_ok_iff.mpr ⟨_, read, congrArg Except.ok resolved⟩
  | @member _ _ _ _ _ _ _ trails trail type hasObject hasProperty inner read found leads ih =>
      have before := ih fun other among => each other (List.mem_append_left _ among)
      have stands := groups.stands_of_denotes inner
      have last : trail.Nodup :=
        each trail (List.mem_append_right _ (List.mem_singleton.mpr rfl))
      have resolved := (groups.resolve_eq_some_iff fun _ taken =>
        (groups.stands_member stands taken).2).mpr ⟨_, _, found, leads, last⟩
      rw [symbolAt_of_owner type hasObject hasProperty before]
      exact bind_eq_ok_iff.mpr ⟨_, read, congrArg Except.ok resolved⟩

theorem stands_symbolAt (groups : scopes.Groups listing) {symbol : Symbol}
    (answered : scopes.symbolAt document site = .ok (some symbol)) : scopes.Stands symbol := by
  obtain ⟨trails, denotes, -⟩ := groups.denotes_of_symbolAt site answered
  exact groups.stands_of_denotes denotes

end Groups

/-- The rules by which an expression is evaluated. Nothing but unreadable text and a member
node without children makes evaluation fail. -/
inductive Evaluates (scopes : Scopes) (document : Document) :
    Site → Except Failure (Option Symbol) → Prop
  | identifier {site : Site} {name : String} {after : List (List String)}
      {result : Option Symbol} (type : site.type = "identifier")
      (read : document.text site.node = .ok name)
      (resolved : scopes.Pursuit []
        (scopes.lookup (scopes.enclosing site.ancestors) name) [] after result) :
      Evaluates scopes document site (.ok result)
  | unreadable {site : Site} {failure : Failure} (type : site.type = "identifier")
      (unread : document.text site.node = .error failure) :
      Evaluates scopes document site (.error failure)
  | childless {site : Site} (type : isMemberType site.type = true)
      (missing : site.node.object? = none ∨ site.node.property? = none) :
      Evaluates scopes document site (.error .noNamedChild)
  | member {site : Site} {object property : Node} {name : String} {owner : Symbol}
      {after : List (List String)} {result : Option Symbol}
      (type : isMemberType site.type = true) (hasObject : site.node.object? = some object)
      (hasProperty : site.node.property? = some property)
      (inner : Evaluates scopes document (site.below object) (.ok (some owner)))
      (read : document.text property = .ok name)
      (resolved : scopes.Pursuit [] (owner.member? name) [] after result) :
      Evaluates scopes document site (.ok result)
  | ofNothing {site : Site} {object property : Node} (type : isMemberType site.type = true)
      (hasObject : site.node.object? = some object)
      (hasProperty : site.node.property? = some property)
      (inner : Evaluates scopes document (site.below object) (.ok none)) :
      Evaluates scopes document site (.ok none)
  | ofFailure {site : Site} {object property : Node} {failure : Failure}
      (type : isMemberType site.type = true) (hasObject : site.node.object? = some object)
      (hasProperty : site.node.property? = some property)
      (inner : Evaluates scopes document (site.below object) (.error failure)) :
      Evaluates scopes document site (.error failure)
  | unreadableMember {site : Site} {object property : Node} {owner : Symbol}
      {failure : Failure} (type : isMemberType site.type = true)
      (hasObject : site.node.object? = some object)
      (hasProperty : site.node.property? = some property)
      (inner : Evaluates scopes document (site.below object) (.ok (some owner)))
      (unread : document.text property = .error failure) :
      Evaluates scopes document site (.error failure)
  | other {site : Site} (notIdentifier : site.type ≠ "identifier")
      (notMember : isMemberType site.type = false) : Evaluates scopes document site (.ok none)

namespace Groups

/-- The rules determine the outcome. -/
theorem symbolAt_of_evaluates (groups : scopes.Groups listing)
    {outcome : Except Failure (Option Symbol)}
    (evaluates : scopes.Evaluates document site outcome) :
    scopes.symbolAt document site = outcome := by
  induction evaluates with
  | identifier type read resolved =>
      have found := (groups.pursuit_iff fun _ looked => groups.stands_lookup looked).mp
        ⟨_, resolved⟩
      rw [symbolAt_identifier type]
      exact bind_eq_ok_iff.mpr ⟨_, read, congrArg Except.ok found⟩
  | unreadable type unread =>
      rw [symbolAt_identifier type]
      exact bind_error unread _
  | childless type missing => exact symbolAt_childless type missing
  | member type hasObject hasProperty _ read resolved ih =>
      have stands := groups.stands_symbolAt ih
      have found := (groups.pursuit_iff fun _ taken => (groups.stands_member stands taken).2).mp
        ⟨_, resolved⟩
      rw [symbolAt_of_owner type hasObject hasProperty ih]
      exact bind_eq_ok_iff.mpr ⟨_, read, congrArg Except.ok found⟩
  | ofNothing type hasObject hasProperty _ ih =>
      exact symbolAt_of_nothing type hasObject hasProperty ih
  | ofFailure type hasObject hasProperty _ ih =>
      rw [symbolAt_member type hasObject hasProperty]
      exact bind_error ih _
  | unreadableMember type hasObject hasProperty _ unread ih =>
      rw [symbolAt_of_owner type hasObject hasProperty ih]
      exact bind_error unread _
  | other notIdentifier notMember => exact symbolAt_other notIdentifier notMember

/-- Every expression has a finished evaluation. -/
theorem exists_evaluates (groups : scopes.Groups listing) (document : Document) (site : Site) :
    ∃ outcome, scopes.Evaluates document site outcome := by
  induction site using Site.object_induction with
  | identifier site type =>
      cases read : document.text site.node with
      | error failure => exact ⟨_, .unreadable type read⟩
      | ok name =>
          obtain ⟨after, result, resolved⟩ := groups.exists_pursuit [] []
            (scopes.lookup (scopes.enclosing site.ancestors) name)
            fun _ looked => groups.stands_lookup looked
          exact ⟨_, .identifier type read resolved⟩
  | childless site isMember missing => exact ⟨_, .childless isMember missing⟩
  | member site object property isMember hasObject hasProperty ih =>
      obtain ⟨outcome, inner⟩ := ih
      cases outcome with
      | error failure => exact ⟨_, .ofFailure isMember hasObject hasProperty inner⟩
      | ok owner =>
          cases owner with
          | none => exact ⟨_, .ofNothing isMember hasObject hasProperty inner⟩
          | some owner =>
              have stands := groups.stands_symbolAt (groups.symbolAt_of_evaluates inner)
              cases read : document.text property with
              | error failure =>
                  exact ⟨_, .unreadableMember isMember hasObject hasProperty inner read⟩
              | ok name =>
                  obtain ⟨after, result, resolved⟩ := groups.exists_pursuit [] []
                    (owner.member? name) fun _ taken => (groups.stands_member stands taken).2
                  exact ⟨_, .member isMember hasObject hasProperty inner read resolved⟩
  | other site notIdentifier notMember => exact ⟨_, .other notIdentifier notMember⟩

end Groups

/-- Evaluation ends for every expression of a bound file, whatever circles its aliases form:
the rules give exactly one outcome, and it is the answer. A symbol that is answered does not
originate from an alias and is denoted by the expression; an expression that denotes nothing
has no symbol for an answer. -/
theorem symbolAt_sound {moduleName : Option String}
    (bound : Scopes.bind document moduleName = .ok scopes) (site : Site) :
    (∃! outcome, scopes.Evaluates document site outcome) ∧
      scopes.Evaluates document site (scopes.symbolAt document site) ∧
      (∀ symbol, scopes.symbolAt document site = .ok (some symbol) →
        (∃ declaration, symbol.origin? = some declaration ∧
          ∀ target, declaration.form ≠ .importAlias target) ∧
        ∃ trails, scopes.Denotes document site trails symbol) ∧
      ((∀ trails symbol, ¬ scopes.Denotes document site trails symbol) →
        ∀ answer, scopes.symbolAt document site = .ok answer → answer = none) := by
  obtain ⟨listing, groups⟩ := exists_groups bound
  have outcome {given : Except Failure (Option Symbol)}
      (evaluates : scopes.Evaluates document site given) :
      given = scopes.symbolAt document site := (groups.symbolAt_of_evaluates evaluates).symm
  obtain ⟨given, evaluates⟩ := groups.exists_evaluates document site
  refine ⟨⟨given, evaluates, fun other also => ?_⟩, ?_, ?_, ?_⟩
  · rw [outcome also, outcome evaluates]
  · rwa [← outcome evaluates]
  · intro symbol answered
    obtain ⟨trails, denotes, -⟩ := groups.denotes_of_symbolAt site answered
    obtain ⟨declaration, origin⟩ := groups.exists_origin (groups.stands_of_denotes denotes)
    exact ⟨⟨declaration, origin, Symbol.form_ne_of_plain origin denotes.plain⟩, trails, denotes⟩
  · intro nothing answer answered
    cases answer with
    | none => rfl
    | some symbol =>
        obtain ⟨trails, denotes, -⟩ := groups.denotes_of_symbolAt site answered
        exact absurd denotes (nothing trails symbol)

end Scopes

/-- The tree of `import A = B; import B = A; namespace N { class K {} } import C = N.K;`. -/
def circularAliases : Document where
  content := "import A = B; import B = A; namespace N { class K {} } import C = N.K;".toUTF8
  root := ⟨⟨0, "program", 0, true, none, 0, 70⟩, [
    ⟨⟨1, "import_alias", 0, true, none, 0, 13⟩, [
      ⟨⟨2, "identifier", 0, true, none, 7, 8⟩, []⟩,
      ⟨⟨3, "identifier", 0, true, none, 11, 12⟩, []⟩]⟩,
    ⟨⟨4, "import_alias", 0, true, none, 14, 27⟩, [
      ⟨⟨5, "identifier", 0, true, none, 21, 22⟩, []⟩,
      ⟨⟨6, "identifier", 0, true, none, 25, 26⟩, []⟩]⟩,
    ⟨⟨7, "internal_module", 0, true, none, 28, 54⟩, [
      ⟨⟨8, "identifier", 0, true, some "name", 38, 39⟩, []⟩,
      ⟨⟨9, "statement_block", 0, true, some "body", 40, 54⟩, [
        ⟨⟨10, "class_declaration", 0, true, none, 42, 52⟩, [
          ⟨⟨11, "type_identifier", 0, true, some "name", 48, 49⟩, []⟩]⟩]⟩]⟩,
    ⟨⟨12, "import_alias", 0, true, none, 55, 70⟩, [
      ⟨⟨13, "identifier", 0, true, none, 62, 63⟩, []⟩,
      ⟨⟨14, "nested_identifier", 0, true, none, 66, 69⟩, [
        ⟨⟨15, "identifier", 0, true, some "object", 66, 67⟩, []⟩,
        ⟨⟨16, "property_identifier", 0, true, some "property", 68, 69⟩, []⟩]⟩]⟩]⟩

set_option maxRecDepth 10000 in
/-- The circle of `A` and `B` ends without a symbol, and `C` leads to the class. -/
theorem circularAliases_sound : ∃ scopes circle through symbol trails,
    Scopes.bind circularAliases none = .ok scopes ∧
      circularAliases.site? 2 = some circle ∧
      scopes.symbolAt circularAliases circle = .ok none ∧
      scopes.Evaluates circularAliases circle (.ok none) ∧
      circularAliases.site? 13 = some through ∧
      scopes.symbolAt circularAliases through = .ok (some symbol) ∧
      symbol.path = ["N", "K"] ∧ scopes.Denotes circularAliases through trails symbol := by
  obtain ⟨scopes, circle, through, symbol, trails, bound, atCircle, ends, atThrough, denotes, once,
      path⟩ :
      ∃ scopes circle through symbol trails, Scopes.bind circularAliases none = .ok scopes ∧
        circularAliases.site? 2 = some circle ∧
        scopes.Evaluates circularAliases circle (.ok none) ∧
        circularAliases.site? 13 = some through ∧
        scopes.Denotes circularAliases through trails symbol ∧
        (∀ trail ∈ trails, trail.Nodup) ∧ symbol.path = ["N", "K"] :=
    ⟨_, _, _, _, _, rfl, rfl,
      .identifier rfl rfl (.followed rfl (by decide) rfl
        (.followed rfl (by decide) rfl (.again rfl (by decide)))),
      rfl, .identifier rfl rfl rfl (.replaced rfl rfl rfl (.member rfl rfl (.arrived rfl))),
      by decide, rfl⟩
  obtain ⟨listing, groups⟩ := Scopes.exists_groups bound
  have lost := groups.symbolAt_of_evaluates ends
  have ended := (Scopes.symbolAt_sound bound circle).2.1
  rw [lost] at ended
  have answered := groups.symbolAt_of_denotes denotes once
  obtain ⟨-, trails, denotes⟩ := (Scopes.symbolAt_sound bound through).2.2.1 symbol answered
  exact ⟨scopes, circle, through, symbol, trails, bound, atCircle, lost, ended, atThrough,
    answered, path, denotes⟩

end SourceOutline
