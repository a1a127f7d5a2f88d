import SourceOutline.Proofs.Scope.Correspondence
import SourceOutline.Proofs.Scope.Resolution

/-!
# Lexical scoping

A name means what the innermost scope that declares it says. Which scopes are around a place is
read off the tree: the nearest namespace above it that was bound opens the innermost one, and the
others are the parts of its path from the beginning. The name is searched at these paths, longest
first, and a dotted expression takes members from there on, one after the other.

All of this depends on the path alone, so it makes no difference in which block of a namespace a
name is used, nor whether the path was opened in one piece or name by name.
-/

namespace SourceOutline

namespace Document

/-- A namespace was bound and opens the scope with a path. -/
def OpensScope (document : Document) (site : Site) (path : List String) : Prop :=
  ∃ scope names, document.StatementAt site scope ∧ isNamespaceType site.type = true ∧
    Binder.namespaceNames document site.node = .ok names ∧ path = scope ++ names

/-- The scope that a place is in: the one that is opened by the innermost bound namespace above it,
or the file. -/
inductive Within (document : Document) : Site → (path : List String) → Prop
  | file : Within document document.rootSite []
  | opened {site : Site} {path : List String} {child : Node}
      (opens : document.OpensScope site path) (member : child ∈ site.node.children) :
      Within document (site.below child) path
  | passed {site : Site} {path : List String} {child : Node}
      (around : Within document site path) (closed : ∀ other, ¬ document.OpensScope site other)
      (member : child ∈ site.node.children) : Within document (site.below child) path

variable {document : Document} {site : Site} {path : List String}

theorem OpensScope.mem_sites (opens : document.OpensScope site path) : site ∈ document.sites := by
  obtain ⟨_, _, reached, -⟩ := opens
  exact reached.mem_sites

theorem Within.mem_sites (within : document.Within site path) : site ∈ document.sites := by
  induction within with
  | file => exact document.rootSite_mem_sites
  | opened opens member => exact mem_sites_below opens.mem_sites member
  | passed _ _ member ih => exact mem_sites_below ih member

end Document

namespace Scopes

variable {document : Document} {scopes : Scopes} {moduleName : Option String} {site : Site}

theorem enclosing_of_within (bound : Scopes.bind document moduleName = .ok scopes)
    (distinct : document.HasDistinctIds) {path : List String}
    (within : document.Within site path) : scopes.enclosing site.ancestors = path := by
  induction within with
  | file => rfl
  | opened opens _ =>
      have looked := (lookup_blocks_iff bound distinct opens.mem_sites).mpr opens
      rw [Site.below, enclosing_cons, looked, Option.getD_some]
  | passed around closed _ ih =>
      have looked := Option.eq_none_iff_forall_ne_some.mpr fun other found =>
        closed other ((lookup_blocks_iff bound distinct around.mem_sites).mp found)
      rw [Site.below, enclosing_cons, looked, Option.getD_none, ih]

/-- Climbing from a place leads to the scope that it is in. -/
theorem within_enclosing (bound : Scopes.bind document moduleName = .ok scopes)
    (distinct : document.HasDistinctIds) :
    ∀ site ∈ document.sites, document.Within site (scopes.enclosing site.ancestors) := by
  refine Document.sitesBelow_induction
    (motive := fun site => document.Within site (scopes.enclosing site.ancestors)) ?_
    document.root .file
  intro site within child member
  have looked (path : List String) :
      scopes.blocks.lookup site.node.id = some path ↔ document.OpensScope site path :=
    lookup_blocks_iff bound distinct within.mem_sites
  rw [Site.below, enclosing_cons]
  cases found : scopes.blocks.lookup site.node.id with
  | some path => exact .opened ((looked path).mp found) member
  | none =>
      refine .passed within (fun other opens => ?_) member
      cases found.symm.trans ((looked other).mpr opens)

theorem within_iff (bound : Scopes.bind document moduleName = .ok scopes)
    (distinct : document.HasDistinctIds) (member : site ∈ document.sites) {path : List String} :
    document.Within site path ↔ path = scopes.enclosing site.ancestors := by
  constructor
  · intro within
    exact (enclosing_of_within bound distinct within).symm
  · rintro rfl
    exact within_enclosing bound distinct site member

/-- What a name means inside a scope before aliases are followed: the symbol of that name at the
longest part of the path, from its beginning, at which there is one. The file is the empty part. -/
inductive Visible (scopes : Scopes) (path : List String) (name : String) : Option Symbol → Prop
  | found {outer : List String} {symbol : Symbol} (part : outer <+: path)
      (here : scopes.symbol? (outer ++ [name]) = some symbol)
      (longest : ∀ longer, longer <+: path → outer.length < longer.length →
        scopes.symbol? (longer ++ [name]) = none) : Visible scopes path name (some symbol)
  | nowhere (missing : ∀ outer, outer <+: path → scopes.symbol? (outer ++ [name]) = none) :
      Visible scopes path name none

theorem lookupFrom_snoc (table : List Symbol) (name segment : String) (scope : List String) :
    lookupFrom table name (scope ++ [segment]) =
      (Symbol.descend table (scope ++ [segment, name])).or (lookupFrom table name scope) := by
  induction scope generalizing table with
  | nil =>
      rw [List.nil_append, List.nil_append, Symbol.descend_cons_cons]
      rfl
  | cons first scope ih =>
      obtain ⟨next, names, split⟩ : ∃ next names, scope ++ [segment, name] = next :: names :=
        List.exists_cons_of_ne_nil (by simp)
      rw [List.cons_append, List.cons_append, lookupFrom, lookupFrom, split,
        Symbol.descend_cons_cons, ← split]
      cases Symbol.find? table first with
      | none => rfl
      | some symbol => simp only [Option.bind_some, ih, Option.or_assoc]

/-- One step outward: a name that the innermost scope does not declare is searched in the scope
around it. -/
theorem lookup_snoc (scope : List String) (segment name : String) :
    scopes.lookup (scope ++ [segment]) name =
      (scopes.symbol? (scope ++ [segment] ++ [name])).or (scopes.lookup scope name) := by
  rw [lookup, lookupFrom_snoc, symbol?_eq_descend, List.append_assoc]
  rfl

/-- The search outward finds what is visible. -/
theorem visible_lookup (path : List String) (name : String) :
    scopes.Visible path name (scopes.lookup path name) := by
  induction path using List.reverseRecOn with
  | nil =>
      have global : scopes.lookup [] name = scopes.symbol? ([] ++ [name]) := rfl
      cases found : scopes.lookup [] name with
      | none =>
          refine .nowhere fun outer part => ?_
          rw [List.prefix_nil.mp part, ← global, found]
      | some symbol =>
          refine .found (List.prefix_refl []) (global.symm.trans found) fun longer part more => ?_
          rw [List.prefix_nil.mp part] at more
          cases more
  | append_singleton path segment ih =>
      rw [lookup_snoc]
      cases here : scopes.symbol? (path ++ [segment] ++ [name]) with
      | some symbol =>
          refine .found (List.prefix_refl _) here fun longer part longest => ?_
          exact absurd part.length_le (Nat.not_le.mpr longest)
      | none =>
          rw [Option.none_or]
          generalize scopes.lookup path name = result at ih ⊢
          cases ih with
          | found part found longest =>
              refine .found (part.trans (List.prefix_append _ _)) found fun longer among more => ?_
              rcases List.prefix_concat_iff.mp among with rfl | shorter
              · exact here
              · exact longest longer shorter more
          | nowhere missing =>
              refine .nowhere fun outer among => ?_
              rcases List.prefix_concat_iff.mp among with rfl | shorter
              · exact here
              · exact missing outer shorter

/-- Take a member of what stands before the dot, if anything does, and follow aliases. -/
def takeMember (scopes : Scopes) (owner : Option Symbol) (read : Except Failure String) :
    Except Failure (Option Symbol) :=
  match owner with
  | none => .ok none
  | some owner => do
    let name ← read
    return scopes.resolve (owner.member? name)

end Scopes

/-- A dotted expression, as the identifier at its head and the members behind the dots. -/
inductive Site.Chain : Site → (head : Site) → (properties : List Node) → Prop
  | identifier {site : Site} (type : site.type = "identifier") : Chain site site []
  | member {site head : Site} {object property : Node} {properties : List Node}
      (type : isMemberType site.type = true) (hasObject : site.node.object? = some object)
      (hasProperty : site.node.property? = some property)
      (inner : Chain (site.below object) head properties) :
      Chain site head (properties ++ [property])

namespace Site.Chain

variable {document : Document} {scopes : Scopes} {site head : Site} {properties : List Node}

theorem head_type (chain : site.Chain head properties) : head.type = "identifier" := by
  induction chain with
  | identifier type => exact type
  | member _ _ _ _ ih => exact ih

/-- A dotted expression is evaluated from left to right. -/
theorem symbolAt_eq (chain : site.Chain head properties) :
    scopes.symbolAt document site = (do
      let owner ← scopes.symbolAt document head
      (properties.map document.text).foldlM scopes.takeMember owner) := by
  induction chain with
  | identifier _ => simp only [List.map_nil, List.foldlM_nil, bind_pure]
  | @member site head object property properties type hasObject hasProperty _ ih =>
      have last : scopes.symbolAt document site = (do
          let owner ← scopes.symbolAt document (site.below object)
          scopes.takeMember owner (document.text property)) := by
        rw [Scopes.symbolAt_member type hasObject hasProperty]
        refine bind_congr fun owner => ?_
        cases owner <;> rfl
      rw [last, ih, bind_assoc]
      simp only [List.map_append, List.foldlM_append, List.map_cons, List.map_nil,
        List.foldlM_cons, List.foldlM_nil, bind_pure]

end Site.Chain

/-- A place of a file and the place in an expansion of it that is reached in the same way from the
root. The body of a dotted namespace corresponds to that of the innermost of the nested ones. -/
inductive Corresponds (document document' : Document) : Site → Site → Prop
  | root : Corresponds document document' document.rootSite document'.rootSite
  | child {site site' : Site} {child child' : Node}
      (upper : Corresponds document document' site site')
      (below : List.Forall₂ (Expands document document') site.node.children site'.node.children)
      (pair : (child, child') ∈ site.node.children.zip site'.node.children) :
      Corresponds document document' (site.below child) (site'.below child')
  | body {node node' body body' : Node} {ancestors ancestors' spine : List Node}
      {names : List String}
      (upper : Corresponds document document' ⟨node, ancestors⟩ ⟨node', ancestors'⟩)
      (dotted : document.Opens names node body) (nested : document'.Nests body' names node' spine)
      (inside : Expands document document' body body') :
      Corresponds document document' ⟨body, node :: ancestors⟩ ⟨body', spine ++ ancestors'⟩

theorem Corresponds.linked {document document' : Document} {scopes scopes' : Scopes}
    {site site' : Site} (expands : Expands document document' document.root document'.root)
    (paired : Paired document document' scopes scopes')
    (corresponds : Corresponds document document' site site') :
    Linked document document' scopes scopes' site site' := by
  induction corresponds with
  | root => exact .root expands
  | child _ below pair ih => exact (List.forall₂_iff_zip.mp (ih.nodes paired below)).2 pair
  | body _ dotted nested inside ih => exact ih.inside paired dotted nested inside

namespace Scopes

variable {document : Document} {scopes : Scopes} {moduleName : Option String}

/-- Names are scoped lexically in a bound file. -/
structure Lexical (document : Document) (scopes : Scopes) : Prop where
  /-- Every place is in one scope. -/
  within : ∀ site ∈ document.sites, ∃! path, document.Within site path
  /-- An identifier denotes what is visible under its name, after aliases. -/
  identifier : ∀ site path name, document.Within site path → site.type = "identifier" →
    document.text site.node = .ok name →
    ∃ start, scopes.Visible path name start ∧
      scopes.symbolAt document site = .ok (scopes.resolve start)
  /-- A dotted expression starts there and takes its members from left to right, until one of
  them is missing. -/
  chain : ∀ site head properties path name, site.Chain head properties →
    document.Within head path → document.text head.node = .ok name →
    ∃ start, scopes.Visible path name start ∧
      scopes.symbolAt document site =
        (properties.map document.text).foldlM scopes.takeMember (scopes.resolve start)
  /-- Blocks that open the same path, in one piece or name by name, are interchangeable. -/
  merged : ∀ site head properties site' head' properties' path,
    site.Chain head properties → site'.Chain head' properties' →
    document.Within head path → document.Within head' path →
    document.text head.node = document.text head'.node →
    properties.map document.text = properties'.map document.text →
    scopes.symbolAt document site = scopes.symbolAt document site'
  /-- So are a dotted namespace and the nested ones that it stands for, in the whole file. -/
  nested : ∀ document', document.content = document'.content →
    Expands document document' document.root document'.root → document'.HasDistinctIds →
    ∃ scopes', Scopes.bind document' scopes.moduleName = .ok scopes' ∧
      ∀ site site', Corresponds document document' site site' →
        (∀ path, document.Within site path ↔ document'.Within site' path) ∧
          Agree (Option.Rel (scopes.Twin scopes')) (scopes.symbolAt document site)
            (scopes'.symbolAt document' site')

theorem symbolAt_of_within (bound : Scopes.bind document moduleName = .ok scopes)
    (distinct : document.HasDistinctIds) {site : Site} {path : List String} {name : String}
    (within : document.Within site path) (type : site.type = "identifier")
    (read : document.text site.node = .ok name) :
    scopes.symbolAt document site = .ok (scopes.resolve (scopes.lookup path name)) := by
  rw [symbolAt_identifier type, enclosing_of_within bound distinct within, read]
  rfl

/-- What an expression denotes depends on the scope it is in and on the names it is made of. -/
theorem symbolAt_congr (bound : Scopes.bind document moduleName = .ok scopes)
    (distinct : document.HasDistinctIds) {site head site' head' : Site}
    {properties properties' : List Node} {path : List String} (chain : site.Chain head properties)
    (chain' : site'.Chain head' properties') (within : document.Within head path)
    (within' : document.Within head' path)
    (heads : document.text head.node = document.text head'.node)
    (members : properties.map document.text = properties'.map document.text) :
    scopes.symbolAt document site = scopes.symbolAt document site' := by
  have climbed := enclosing_of_within bound distinct within
  have climbed' := enclosing_of_within bound distinct within'
  rw [chain.symbolAt_eq, chain'.symbolAt_eq, symbolAt_identifier chain.head_type,
    symbolAt_identifier chain'.head_type, climbed, climbed', heads, members]

/-- Expansions are bound as well, and corresponding places are in the same scope and denote the
same. -/
theorem symbolAt_expanded (bound : Scopes.bind document moduleName = .ok scopes)
    (distinct : document.HasDistinctIds) {document' : Document}
    (content : document.content = document'.content)
    (expands : Expands document document' document.root document'.root)
    (distinct' : document'.HasDistinctIds) :
    ∃ scopes', Scopes.bind document' moduleName = .ok scopes' ∧
      ∀ site site', Corresponds document document' site site' →
        (∀ path, document.Within site path ↔ document'.Within site' path) ∧
          Agree (Option.Rel (scopes.Twin scopes')) (scopes.symbolAt document site)
            (scopes'.symbolAt document' site') := by
  have binding := bind_agree content expands distinct distinct' moduleName
  rw [bound] at binding
  generalize bound' : Scopes.bind document' moduleName = result at binding ⊢
  cases binding with
  | @ok _ scopes' paired =>
      refine ⟨scopes', rfl, fun site site' corresponds => ?_⟩
      have linked := corresponds.linked expands paired
      refine ⟨fun path => ?_, linked.tied.symbolAt_agree paired site linked.expands.like⟩
      rw [within_iff bound distinct linked.member, within_iff bound' distinct' linked.member',
        linked.enclosing]

/-- In every bound file names are scoped lexically. -/
theorem bind_lexical (bound : Scopes.bind document moduleName = .ok scopes)
    (distinct : document.HasDistinctIds) : scopes.Lexical document where
  within site member :=
    ⟨_, within_enclosing bound distinct site member,
      fun _ within => (enclosing_of_within bound distinct within).symm⟩
  identifier site path name within type read :=
    ⟨_, visible_lookup path name, symbolAt_of_within bound distinct within type read⟩
  chain site head properties path name chain within read := by
    refine ⟨_, visible_lookup path name, ?_⟩
    rw [chain.symbolAt_eq, symbolAt_of_within bound distinct within chain.head_type read]
    rfl
  merged _ _ _ _ _ _ _ chain chain' within within' heads members :=
    symbolAt_congr bound distinct chain chain' within within' heads members
  nested document' content expands distinct' := by
    rw [moduleName_of_bind bound]
    exact symbolAt_expanded bound distinct content expands distinct'

end Scopes

/-- The tree of `namespace A.B { class C {} } namespace A { class D {} namespace B { D; } }
namespace A.B { D; B.C; }`. -/
def reopenedNamespace : Document where
  content := ("namespace A.B \x7b class C \x7b\x7d \x7d namespace A \x7b class D \x7b\x7d " ++
    "namespace B \x7b D; \x7d \x7d namespace A.B \x7b D; B.C; \x7d").toUTF8
  root := ⟨⟨0, "program", 0, true, none, 0, 100⟩, [
    ⟨⟨1, "internal_module", 0, true, none, 0, 28⟩, [
      ⟨⟨2, "nested_identifier", 0, true, some "name", 10, 13⟩, []⟩,
      ⟨⟨3, "statement_block", 0, true, some "body", 14, 28⟩, [
        ⟨⟨4, "class_declaration", 0, true, none, 16, 26⟩, [
          ⟨⟨5, "type_identifier", 0, true, some "name", 22, 23⟩, []⟩]⟩]⟩]⟩,
    ⟨⟨6, "internal_module", 0, true, none, 29, 74⟩, [
      ⟨⟨7, "identifier", 0, true, some "name", 39, 40⟩, []⟩,
      ⟨⟨8, "statement_block", 0, true, some "body", 41, 74⟩, [
        ⟨⟨9, "class_declaration", 0, true, none, 43, 53⟩, [
          ⟨⟨10, "type_identifier", 0, true, some "name", 49, 50⟩, []⟩]⟩,
        ⟨⟨11, "internal_module", 0, true, none, 54, 72⟩, [
          ⟨⟨12, "identifier", 0, true, some "name", 64, 65⟩, []⟩,
          ⟨⟨13, "statement_block", 0, true, some "body", 66, 72⟩, [
            ⟨⟨14, "expression_statement", 0, true, none, 68, 70⟩, [
              ⟨⟨15, "identifier", 0, true, none, 68, 69⟩, []⟩]⟩]⟩]⟩]⟩]⟩,
    ⟨⟨16, "internal_module", 0, true, none, 75, 100⟩, [
      ⟨⟨17, "nested_identifier", 0, true, some "name", 85, 88⟩, []⟩,
      ⟨⟨18, "statement_block", 0, true, some "body", 89, 100⟩, [
        ⟨⟨19, "expression_statement", 0, true, none, 91, 93⟩, [
          ⟨⟨20, "identifier", 0, true, none, 91, 92⟩, []⟩]⟩,
        ⟨⟨21, "expression_statement", 0, true, none, 94, 98⟩, [
          ⟨⟨22, "member_expression", 0, true, none, 94, 97⟩, [
            ⟨⟨23, "identifier", 0, true, some "object", 94, 95⟩, []⟩,
            ⟨⟨24, "property_identifier", 0, true, some "property", 96, 97⟩, []⟩]⟩]⟩]⟩]⟩]⟩

set_option maxRecDepth 10000 in
/-- `D` is found one scope outward, in the nested block as in the dotted one, and `B.C` starts at
the namespace that it is in. -/
theorem reopenedNamespace_lexical : ∃ scopes nested dotted chained head,
    Scopes.bind reopenedNamespace none = .ok scopes ∧
      reopenedNamespace.site? 15 = some nested ∧ reopenedNamespace.site? 20 = some dotted ∧
      reopenedNamespace.site? 22 = some chained ∧ reopenedNamespace.site? 23 = some head ∧
      reopenedNamespace.Within nested ["A", "B"] ∧ reopenedNamespace.Within dotted ["A", "B"] ∧
      (∃ start symbol, scopes.Visible ["A", "B"] "D" start ∧
        scopes.symbolAt reopenedNamespace nested = .ok (scopes.resolve start) ∧
        scopes.symbolAt reopenedNamespace dotted = .ok (some symbol) ∧
        scopes.symbolAt reopenedNamespace nested = .ok (some symbol) ∧
        symbol.path = ["A", "D"]) ∧
      ∃ start, scopes.Visible ["A", "B"] "B" start ∧
        scopes.symbolAt reopenedNamespace chained =
          [.ok "C"].foldlM scopes.takeMember (scopes.resolve start) := by
  obtain ⟨scopes, nested, dotted, chained, head, property, symbol, bound, atNested, atDotted,
      atChained, atHead, inNested, inDotted, inHead, ⟨nestedType, dottedType⟩, chain,
      ⟨readNested, readDotted, readHead, readMember⟩, denotes, path⟩ :
      ∃ scopes nested dotted chained head property symbol,
        Scopes.bind reopenedNamespace none = .ok scopes ∧
        reopenedNamespace.site? 15 = some nested ∧ reopenedNamespace.site? 20 = some dotted ∧
        reopenedNamespace.site? 22 = some chained ∧ reopenedNamespace.site? 23 = some head ∧
        scopes.enclosing nested.ancestors = ["A", "B"] ∧
        scopes.enclosing dotted.ancestors = ["A", "B"] ∧
        scopes.enclosing head.ancestors = ["A", "B"] ∧
        (nested.type = "identifier" ∧ dotted.type = "identifier") ∧
        chained.Chain head [property] ∧
        (reopenedNamespace.text nested.node = .ok "D" ∧
          reopenedNamespace.text dotted.node = .ok "D" ∧
          reopenedNamespace.text head.node = .ok "B" ∧
          reopenedNamespace.text property = .ok "C") ∧
        scopes.Denotes reopenedNamespace nested [[]] symbol ∧ symbol.path = ["A", "D"] :=
    ⟨_, _, _, _, _, _, _, rfl, rfl, rfl, rfl, rfl, rfl, rfl, rfl, ⟨rfl, rfl⟩,
      .member rfl rfl rfl (.identifier rfl), ⟨rfl, rfl, rfl, rfl⟩,
      .identifier rfl rfl rfl (.arrived rfl), rfl⟩
  have distinct : reopenedNamespace.HasDistinctIds := by decide
  have within (site : Site) (member : site ∈ reopenedNamespace.sites)
      (climbed : scopes.enclosing site.ancestors = ["A", "B"]) :
      reopenedNamespace.Within site ["A", "B"] :=
    (Scopes.within_iff bound distinct member).mpr climbed.symm
  have nestedWithin := within nested (List.mem_of_find?_eq_some atNested) inNested
  have dottedWithin := within dotted (List.mem_of_find?_eq_some atDotted) inDotted
  have headWithin := within head (List.mem_of_find?_eq_some atHead) inHead
  have lexical := Scopes.bind_lexical bound distinct
  obtain ⟨listing, groups⟩ := Scopes.exists_groups bound
  have answered := groups.symbolAt_of_denotes denotes (by decide)
  have same := lexical.merged nested nested [] dotted dotted [] _ (.identifier nestedType)
    (.identifier dottedType) nestedWithin dottedWithin (readNested.trans readDotted.symm) rfl
  obtain ⟨start, visible, resolved⟩ :=
    lexical.identifier nested _ _ nestedWithin nestedType readNested
  obtain ⟨first, seen, selected⟩ := lexical.chain chained head _ _ _ chain headWithin readHead
  rw [List.map_singleton, readMember] at selected
  exact ⟨scopes, nested, dotted, chained, head, bound, atNested, atDotted, atChained, atHead,
    nestedWithin, dottedWithin,
    ⟨start, symbol, visible, resolved, same.symm.trans answered, answered, path⟩,
    first, seen, selected⟩
end SourceOutline
