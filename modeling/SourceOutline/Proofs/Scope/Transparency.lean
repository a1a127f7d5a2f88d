import SourceOutline.Proofs.Scope.Declared
import SourceOutline.Proofs.Scope.Enclosing
import SourceOutline.Proofs.Scope.Resolution

/-!
# Aliases and their targets

The target of `import X = A.B.C` can be asked for twice: as an expression of its own, and
through the identifier `X`. Both take the same lookups, members and replacements in the same
order, for the target is cut into the names that the expression is made of, and the scope
around the alias is the one in which its name was declared.

They differ in one point. The expression forgets after every name which aliases it has
followed, and the alias remembers them to its end. So the alias agrees with its target
exactly if no alias is met twice on the whole way, itself included; otherwise the target may
have a symbol while the alias has none.
-/

namespace SourceOutline

/-- A dotted name that is written without anything between its names. -/
inductive Document.Spelled (document : Document) : Node → (names : List String) → Prop
  | identifier {node : Node} {name : String} (type : node.type = "identifier")
      (read : document.text node = .ok name) (undotted : '.' ∉ name.toList) :
      Spelled document node [name]
  | member {node object property : Node} {names : List String} {name : String}
      (type : node.type = "nested_identifier") (hasObject : node.child? "object" = some object)
      (hasProperty : node.child? "property" = some property)
      (inner : Spelled document object names) (readMember : document.text property = .ok name)
      (undotted : '.' ∉ name.toList)
      (read : document.text node = .ok (Text.join '.' (names ++ [name]))) :
      Spelled document node (names ++ [name])

namespace Document.Spelled

variable {document : Document} {node : Node} {names : List String}

theorem names_ne_nil (spelled : document.Spelled node names) : names ≠ [] := by
  cases spelled <;> simp

theorem undotted_of_mem (spelled : document.Spelled node names) :
    ∀ name ∈ names, '.' ∉ name.toList := by
  induction spelled with
  | identifier _ _ undotted => simpa using undotted
  | member _ _ _ _ _ undotted _ ih =>
      intro name member
      rcases List.mem_append.mp member with earlier | last
      · exact ih name earlier
      · rwa [List.mem_singleton.mp last]

/-- The text of a dotted name is cut into its names. -/
theorem segments_text (spelled : document.Spelled node names) {target : String}
    (read : document.text node = .ok target) : Text.segments '.' target = names := by
  have joined : target = Text.join '.' names := by
    cases spelled with
    | identifier _ read' _ =>
        rw [Except.ok.inj (read.symm.trans read'), Text.join_singleton]
    | member _ _ _ _ _ _ read' => exact Except.ok.inj (read.symm.trans read')
  rw [joined, Text.segments_join '.' names spelled.names_ne_nil spelled.undotted_of_mem]

end Document.Spelled

namespace Scopes

variable {document : Document} {scopes : Scopes} {moduleName : Option String}

/-- Climbing out of a dotted name. -/
theorem enclosing_of_nested (bound : Scopes.bind document moduleName = .ok scopes)
    (distinct : document.HasDistinctIds) {node : Node} {ancestors : List Node}
    (type : node.type = "nested_identifier") (member : ⟨node, ancestors⟩ ∈ document.sites) :
    scopes.enclosing (node :: ancestors) = scopes.enclosing ancestors :=
  enclosing_below bound distinct member (by simp [Site.type, type, isNamespaceType])

theorem isMemberType_nested {node : Node} (type : node.type = "nested_identifier") :
    isMemberType node.type = true := by
  rw [type]
  rfl

/-- What a dotted name denotes is reached from its first name along the others. -/
theorem leads_of_denotes (bound : Scopes.bind document moduleName = .ok scopes)
    (distinct : document.HasDistinctIds) {node : Node} {names : List String}
    (spelled : document.Spelled node names) {ancestors : List Node}
    (member : ⟨node, ancestors⟩ ∈ document.sites) {trails : List (List (List String))}
    {result : Symbol} (denotes : scopes.Denotes document ⟨node, ancestors⟩ trails result) :
    ∃ first rest start, names = first :: rest ∧
      scopes.lookup (scopes.enclosing ancestors) first = some start ∧
      scopes.Leads start rest trails.flatten result := by
  induction spelled generalizing ancestors trails result with
  | @identifier node name type read undotted =>
      cases denotes with
      | @identifier _ _ start _ trail _ read' found leads =>
          obtain rfl := Except.ok.inj (read.symm.trans read')
          exact ⟨name, [], start, rfl, found, by simpa using leads⟩
      | member isMember _ _ _ _ _ _ => exact absurd type (ne_identifier_of_isMemberType isMember)
  | @member node object property names name type hasObject hasProperty _ readMember _ _ ih =>
      have objectAt := Node.object?_of_child? hasObject
      cases denotes with
      | identifier type' _ _ _ => exact absurd (type.symm.trans type') (by decide)
      | @member _ _ _ _ _ start _ trails trail _ objectAt' propertyAt' inner read' found leads =>
          obtain rfl := Option.some.inj (objectAt.symm.trans objectAt')
          obtain rfl := Option.some.inj
            ((Node.property?_of_child? hasProperty).symm.trans propertyAt')
          obtain rfl := Except.ok.inj (readMember.symm.trans read')
          have below := Document.mem_sites_below member (Node.object?_mem objectAt)
          obtain ⟨first, rest, origin, rfl, looked, before⟩ := ih below inner
          rw [enclosing_of_nested bound distinct type member] at looked
          refine ⟨first, rest ++ [name], origin, rfl, looked, ?_⟩
          rw [List.flatten_append, List.flatten_singleton]
          exact before.append (.member inner.plain found leads)

/-- Whatever is reached from the first name along the others is denoted. -/
theorem denotes_of_leads (bound : Scopes.bind document moduleName = .ok scopes)
    (distinct : document.HasDistinctIds) {node : Node} {names : List String}
    (spelled : document.Spelled node names) {ancestors : List Node}
    (member : ⟨node, ancestors⟩ ∈ document.sites) {first : String} {rest : List String}
    (split : names = first :: rest) {start result : Symbol}
    (looked : scopes.lookup (scopes.enclosing ancestors) first = some start)
    {trail : List (List String)} (leads : scopes.Leads start rest trail result) :
    ∃ trails, scopes.Denotes document ⟨node, ancestors⟩ trails result ∧
      trails.flatten = trail := by
  induction spelled generalizing ancestors rest trail result with
  | identifier type read _ =>
      obtain ⟨rfl, rfl⟩ := List.cons.inj split
      exact ⟨[trail], .identifier type read looked leads, List.flatten_singleton⟩
  | @member node object property names name type hasObject hasProperty inner readMember _ _ ih =>
      have objectAt := Node.object?_of_child? hasObject
      have propertyAt := Node.property?_of_child? hasProperty
      have below := Document.mem_sites_below member (Node.object?_mem objectAt)
      obtain ⟨head, tail, rfl⟩ := List.exists_cons_of_ne_nil inner.names_ne_nil
      obtain ⟨rfl, rfl⟩ := List.cons.inj split
      obtain ⟨owner, before, after, rfl, toOwner, onward⟩ := leads.exists_split
      have here : scopes.lookup (scopes.enclosing (node :: ancestors)) head = some start := by
        rw [enclosing_of_nested bound distinct type member, looked]
      obtain ⟨trails, denotes, rfl⟩ := ih below rfl here toOwner
      cases onward with
      | member plain found onward =>
          refine ⟨trails ++ [after], ?_, by rw [List.flatten_append, List.flatten_singleton]⟩
          exact .member (isMemberType_nested type) objectAt propertyAt denotes readMember found
            onward
      | replaced isAlias _ _ _ =>
          rw [toOwner.plain] at isAlias
          cases isAlias

/-- Asking for a readable dotted name always gives an answer. -/
theorem exists_answer_of_spelled {node : Node} {names : List String}
    (spelled : document.Spelled node names) (ancestors : List Node) :
    ∃ answer, scopes.symbolAt document ⟨node, ancestors⟩ = .ok answer := by
  induction spelled generalizing ancestors with
  | identifier type read _ =>
      rw [symbolAt_identifier type]
      exact ⟨_, bind_eq_ok_iff.mpr ⟨_, read, rfl⟩⟩
  | @member node _ _ _ _ type hasObject hasProperty _ readMember _ _ ih =>
      obtain ⟨owner, answered⟩ := ih (node :: ancestors)
      have isMember := isMemberType_nested type
      have objectAt := Node.object?_of_child? hasObject
      have propertyAt := Node.property?_of_child? hasProperty
      cases owner with
      | none => exact ⟨none, symbolAt_of_nothing isMember objectAt propertyAt answered⟩
      | some owner =>
          rw [symbolAt_of_owner isMember objectAt propertyAt answered]
          exact ⟨_, bind_eq_ok_iff.mpr ⟨_, readMember, rfl⟩⟩

/-- Where an alias comes from: a statement whose names are its children. -/
theorem statement_of_alias (bound : Scopes.bind document moduleName = .ok scopes)
    {path : List String} {symbol : Symbol} (found : scopes.symbol? path = some symbol)
    {target : String} {site : Site} (origin : symbol.origin? = some ⟨.importAlias target, site⟩) :
    ∃ scope text name expression, document.StatementAt site scope ∧ path = scope ++ [text] ∧
      site.type = "import_alias" ∧ site.node.namedChildren.head? = some name ∧
      site.node.namedChildren.getLast? = some expression ∧ document.text name = .ok text ∧
      document.text expression = .ok target := by
  obtain ⟨listing, listed, recorded⟩ := globals_of_bind bound
  have groups := groups_of_recordAll (Document.listBlock_proper _ listed) recorded
  have among : ⟨.importAlias target, site⟩ ∈ listing.declarationsAt path := by
    rw [← (groups.declarations path symbol found).2]
    exact List.mem_of_head? origin
  have declares := Document.declares_of_listing listed _ (Listing.mem_declarationsAt.mp among)
  generalize declared : (⟨.importAlias target, site⟩ : Declaration) = declaration at declares
  cases declares with
  | opens _ _ _ _ => cases declared
  | @names outer scope namings naming reached isDeclared member =>
      have form : naming.2.form = .importAlias target := congrArg Declaration.form declared.symm
      obtain ⟨type, same, name, expression, first, last, read, spelled⟩ :=
        Site.declared_alias isDeclared member form
      obtain rfl : site = outer := (congrArg Declaration.site declared).trans same
      exact ⟨scope, naming.1, name, expression, reached, rfl, type, first, last, read, spelled⟩

theorem alias?_of_origin {symbol : Symbol} {target : String} {site : Site}
    (origin : symbol.origin? = some ⟨.importAlias target, site⟩) :
    symbol.alias? = some (target, site) := by
  simp [Symbol.alias?, origin, Form.target?]

/-- Climbing out of an alias leads to the scope that declares its name. -/
theorem enclosing_of_alias (bound : Scopes.bind document moduleName = .ok scopes)
    (distinct : document.HasDistinctIds) {site : Site} {scope : List String}
    (reached : document.StatementAt site scope) (type : site.type = "import_alias") :
    scopes.enclosing (site.node :: site.ancestors) = scopes.enclosing site.ancestors ∧
      scopes.enclosing site.ancestors = scope :=
  ⟨enclosing_below bound distinct reached.mem_sites (by simp [type, isNamespaceType]),
    enclosing_of_statementAt bound distinct reached⟩

/-- The identifier of an alias is found to be the alias, and the alias is followed. -/
theorem symbolAt_aliasName (bound : Scopes.bind document moduleName = .ok scopes)
    (distinct : document.HasDistinctIds) {path : List String} {symbol : Symbol}
    (found : scopes.symbol? path = some symbol) {target : String} {site : Site}
    (origin : symbol.origin? = some ⟨.importAlias target, site⟩) {name : Node}
    (first : site.node.namedChildren.head? = some name) (type : name.type = "identifier") :
    scopes.symbolAt document (site.below name) = .ok (scopes.resolve (some symbol)) := by
  obtain ⟨scope, text, name', -, reached, rfl, isAlias, first', -, read, -⟩ :=
    statement_of_alias bound found origin
  obtain rfl := Option.some.inj (first.symm.trans first')
  obtain ⟨climbed, around⟩ := enclosing_of_alias bound distinct reached isAlias
  rw [symbolAt_identifier type]
  refine bind_eq_ok_iff.mpr ⟨text, read, ?_⟩
  change Except.ok (scopes.resolve (scopes.lookup (scopes.enclosing (site.node :: site.ancestors))
    text)) = _
  rw [climbed, around, lookup_of_symbol? found]

/-- An alias leads where its target does, along itself and the trails of the target. -/
theorem leads_alias_iff (bound : Scopes.bind document moduleName = .ok scopes)
    (distinct : document.HasDistinctIds) {path : List String} {symbol : Symbol}
    (found : scopes.symbol? path = some symbol) {target : String} {site : Site}
    (origin : symbol.origin? = some ⟨.importAlias target, site⟩) {expression : Node}
    (last : site.node.namedChildren.getLast? = some expression) {names : List String}
    (spelled : document.Spelled expression names) {trail : List (List String)}
    {result : Symbol} :
    scopes.Leads symbol [] trail result ↔
      ∃ trails, scopes.Denotes document (site.below expression) trails result ∧
        trail = symbol.path :: trails.flatten := by
  obtain ⟨scope, -, -, expression', reached, -, type, -, last', -, read⟩ :=
    statement_of_alias bound found origin
  obtain rfl := Option.some.inj (last.symm.trans last')
  have isAlias := alias?_of_origin origin
  have climbed := (enclosing_of_alias bound distinct reached type).1
  have member : site.below expression ∈ document.sites :=
    Document.mem_sites_below reached.mem_sites
      (Document.mem_children_of_namedChildren (List.mem_of_getLast? last))
  constructor
  · intro leads
    cases leads with
    | arrived plain => cases plain.symm.trans isAlias
    | replaced isAlias' split looked onward =>
        cases isAlias.symm.trans isAlias'
        rw [← climbed] at looked
        rw [List.append_nil] at onward
        obtain ⟨trails, denotes, rfl⟩ := denotes_of_leads bound distinct spelled member
          ((spelled.segments_text read).symm.trans split) looked onward
        exact ⟨trails, denotes, rfl⟩
  · rintro ⟨trails, denotes, rfl⟩
    obtain ⟨first, rest, start, split, looked, leads⟩ :=
      leads_of_denotes bound distinct spelled member denotes
    rw [climbed] at looked
    rw [← List.append_nil rest] at leads
    exact .replaced isAlias ((spelled.segments_text read).trans split) looked leads

/-- An alias has a symbol exactly if its target has it along trails that, put together and
with the alias itself, hold no alias twice. Both can always be asked for. -/
theorem symbolAt_alias_iff (bound : Scopes.bind document moduleName = .ok scopes)
    (distinct : document.HasDistinctIds) {path : List String} {symbol : Symbol}
    (found : scopes.symbol? path = some symbol) {target : String} {site : Site}
    (origin : symbol.origin? = some ⟨.importAlias target, site⟩) {name expression : Node}
    (first : site.node.namedChildren.head? = some name) (type : name.type = "identifier")
    (last : site.node.namedChildren.getLast? = some expression) {names : List String}
    (spelled : document.Spelled expression names) :
    (∃ answer, scopes.symbolAt document (site.below name) = .ok answer) ∧
      (∃ answer, scopes.symbolAt document (site.below expression) = .ok answer) ∧
      ∀ result, scopes.symbolAt document (site.below name) = .ok (some result) ↔
        scopes.symbolAt document (site.below expression) = .ok (some result) ∧
          ∃ trails, scopes.Denotes document (site.below expression) trails result ∧
            (path :: trails.flatten).Nodup := by
  obtain ⟨listing, groups⟩ := exists_groups bound
  obtain ⟨leads, stands⟩ := groups.stands_of_symbol? found
  have named := symbolAt_aliasName bound distinct found origin first type
  refine ⟨⟨_, named⟩, exists_answer_of_spelled spelled _, fun result => ?_⟩
  have follows : scopes.resolve (some symbol) = some result ↔ _ :=
    groups.resolve_eq_some_iff fun _ same => Option.some.inj same ▸ stands
  rw [named, Except.ok.injEq, follows]
  constructor
  · rintro ⟨_, trail, ⟨⟩, leads', once⟩
    obtain ⟨trails, denotes, rfl⟩ :=
      (leads_alias_iff bound distinct found origin last spelled).mp leads'
    rw [leads] at once
    refine ⟨groups.symbolAt_of_denotes denotes fun trail member => ?_, trails, denotes, once⟩
    exact (List.nodup_flatten.mp (List.nodup_cons.mp once).2).1 trail member
  · rintro ⟨-, trails, denotes, once⟩
    refine ⟨symbol, path :: trails.flatten, rfl, ?_, once⟩
    rw [← leads]
    exact (leads_alias_iff bound distinct found origin last spelled).mpr ⟨trails, denotes, rfl⟩

end Scopes

/-- The tree of `namespace N { class C {} import T = S.C; } import S = N; import X = S.T;`. -/
def repeatedAlias : Document where
  content := "namespace N { class C {} import T = S.C; } import S = N; import X = S.T;".toUTF8
  root := ⟨⟨0, "program", 0, true, none, 0, 72⟩, [
    ⟨⟨1, "internal_module", 0, true, none, 0, 42⟩, [
      ⟨⟨2, "identifier", 0, true, some "name", 10, 11⟩, []⟩,
      ⟨⟨3, "statement_block", 0, true, some "body", 12, 42⟩, [
        ⟨⟨4, "class_declaration", 0, true, none, 14, 24⟩, [
          ⟨⟨5, "type_identifier", 0, true, some "name", 20, 21⟩, []⟩]⟩,
        ⟨⟨6, "import_alias", 0, true, none, 25, 40⟩, [
          ⟨⟨7, "identifier", 0, true, none, 32, 33⟩, []⟩,
          ⟨⟨8, "nested_identifier", 0, true, none, 36, 39⟩, [
            ⟨⟨9, "identifier", 0, true, some "object", 36, 37⟩, []⟩,
            ⟨⟨10, "property_identifier", 0, true, some "property", 38, 39⟩, []⟩]⟩]⟩]⟩]⟩,
    ⟨⟨11, "import_alias", 0, true, none, 43, 56⟩, [
      ⟨⟨12, "identifier", 0, true, none, 50, 51⟩, []⟩,
      ⟨⟨13, "identifier", 0, true, none, 54, 55⟩, []⟩]⟩,
    ⟨⟨14, "import_alias", 0, true, none, 57, 72⟩, [
      ⟨⟨15, "identifier", 0, true, none, 64, 65⟩, []⟩,
      ⟨⟨16, "nested_identifier", 0, true, none, 68, 71⟩, [
        ⟨⟨17, "identifier", 0, true, some "object", 68, 69⟩, []⟩,
        ⟨⟨18, "property_identifier", 0, true, some "property", 70, 71⟩, []⟩]⟩]⟩]⟩

/-- Inside `N` both the alias `T` and its target `S.C` are the class. -/
theorem repeatedAlias_inner : ∃ scopes symbol site name expression result trails,
    Scopes.bind repeatedAlias none = .ok scopes ∧ scopes.symbol? ["N", "T"] = some symbol ∧
      symbol.origin? = some ⟨.importAlias "S.C", site⟩ ∧
      site.node.namedChildren = [name, expression] ∧
      repeatedAlias.Spelled expression ["S", "C"] ∧ result.path = ["N", "C"] ∧
      scopes.symbolAt repeatedAlias (site.below name) = .ok (some result) ∧
      scopes.symbolAt repeatedAlias (site.below expression) = .ok (some result) ∧
      scopes.Denotes repeatedAlias (site.below expression) trails result ∧
      (["N", "T"] :: trails.flatten).Nodup := by
  obtain ⟨scopes, symbol, site, name, expression, result, trails, bound, found, origin, children,
      type, spelled, denotes, once, path⟩ :
      ∃ scopes symbol site name expression result trails,
        Scopes.bind repeatedAlias none = .ok scopes ∧ scopes.symbol? ["N", "T"] = some symbol ∧
        symbol.origin? = some ⟨.importAlias "S.C", site⟩ ∧
        site.node.namedChildren = [name, expression] ∧ name.type = "identifier" ∧
        repeatedAlias.Spelled expression (["S"] ++ ["C"]) ∧
        scopes.Denotes repeatedAlias (site.below expression) trails result ∧
        (["N", "T"] :: trails.flatten).Nodup ∧ result.path = ["N", "C"] :=
    ⟨_, _, _, _, _, _, _, rfl, rfl, rfl, rfl, rfl,
      .member rfl rfl rfl (.identifier rfl rfl (by decide)) rfl (by decide) rfl,
      .member rfl rfl rfl (.identifier rfl rfl rfl (.replaced rfl rfl rfl (.arrived rfl))) rfl rfl
        (.arrived rfl), by decide, rfl⟩
  obtain ⟨listing, groups⟩ := Scopes.exists_groups bound
  have atTarget := groups.symbolAt_of_denotes denotes
    (List.nodup_flatten.mp (List.nodup_cons.mp once).2).1
  have atName := ((Scopes.symbolAt_alias_iff bound (by decide) found origin
    (by rw [children]; rfl) type (by rw [children]; rfl) spelled).2.2 result).mpr
      ⟨atTarget, trails, denotes, once⟩
  exact ⟨scopes, symbol, site, name, expression, result, trails, bound, found, origin, children,
    spelled, path, atName, atTarget, denotes, once⟩

/-- The target `S.T` is the class, while its alias `X` is nothing: `S` is met again inside
`T`. -/
theorem repeatedAlias_not_transparent : ∃ scopes symbol site name expression result,
    Scopes.bind repeatedAlias none = .ok scopes ∧ scopes.symbol? ["X"] = some symbol ∧
      symbol.origin? = some ⟨.importAlias "S.T", site⟩ ∧
      site.node.namedChildren = [name, expression] ∧ name.type = "identifier" ∧
      repeatedAlias.Spelled expression ["S", "T"] ∧ result.path = ["N", "C"] ∧
      scopes.symbolAt repeatedAlias (site.below expression) = .ok (some result) ∧
      scopes.symbolAt repeatedAlias (site.below name) = .ok none := by
  obtain ⟨scopes, symbol, site, name, expression, result, trails, bound, found, origin, children,
      type, spelled, denotes, once, path, nothing⟩ :
      ∃ scopes symbol site name expression result trails,
        Scopes.bind repeatedAlias none = .ok scopes ∧ scopes.symbol? ["X"] = some symbol ∧
        symbol.origin? = some ⟨.importAlias "S.T", site⟩ ∧
        site.node.namedChildren = [name, expression] ∧ name.type = "identifier" ∧
        repeatedAlias.Spelled expression (["S"] ++ ["T"]) ∧
        scopes.Denotes repeatedAlias (site.below expression) trails result ∧
        (∀ trail ∈ trails, trail.Nodup) ∧ result.path = ["N", "C"] ∧
        scopes.Evaluates repeatedAlias (site.below name) (.ok none) :=
    ⟨_, _, _, _, _, _, _, rfl, rfl, rfl, rfl, rfl,
      .member rfl rfl rfl (.identifier rfl rfl (by decide)) rfl (by decide) rfl,
      .member rfl rfl rfl (.identifier rfl rfl rfl (.replaced rfl rfl rfl (.arrived rfl))) rfl rfl
        (.replaced rfl rfl rfl (.replaced rfl rfl rfl (.member rfl rfl (.arrived rfl)))),
      by decide, rfl,
      .identifier rfl rfl (.followed rfl (by decide) rfl
        (.member (.followed rfl (by decide) rfl (.plain rfl))
          (.followed rfl (by decide) rfl (.lost (.again rfl (by decide))))))⟩
  obtain ⟨listing, groups⟩ := Scopes.exists_groups bound
  exact ⟨scopes, symbol, site, name, expression, result, bound, found, origin, children, type,
    spelled, path, groups.symbolAt_of_denotes denotes once, groups.symbolAt_of_evaluates nothing⟩

end SourceOutline
