import SourceOutline.Proofs.QualifiedName
import SourceOutline.Proofs.Scope.Transparency

/-!
# Spaces inside the target of an alias

The target of an alias is kept as it is written and cut at its dots only when the alias is followed.
So a blank or a comment beside a dot becomes part of a name, and no declared name has one at either
end. Such an alias stands for nothing, whatever its names denote when written without spaces.
-/

namespace SourceOutline

namespace Text

/-- What may stand at the ends of a space between two names: a blank, or the slash of a comment. -/
def isSpacing (c : Char) : Bool := isBlank c || c == '/'

/-- A name that neither begins nor ends in a space. -/
structure IsTidy (name : String) : Prop where
  begins : name.toList.head?.any isSpacing = false
  ends : name.toList.getLast?.any isSpacing = false

instance (name : String) : Decidable (IsTidy name) :=
  decidable_of_iff
    (name.toList.head?.any isSpacing = false ∧ name.toList.getLast?.any isSpacing = false)
    ⟨fun ⟨begins, ends⟩ => ⟨begins, ends⟩, fun tidy => ⟨tidy.begins, tidy.ends⟩⟩

theorem ne_dot_of_isSpacing {c : Char} (spacing : isSpacing c = true) : c ≠ '.' := by
  rintro rfl
  exact absurd spacing (by decide)

/-- The first segment begins as the text does. -/
theorem exists_segment_head {separator c : Char} {text : String}
    (begins : text.toList.head? = some c) (other : c ≠ separator) :
    ∃ segment ∈ segments separator text, segment.toList.head? = some c := by
  obtain ⟨first, rest, parts⟩ := List.exists_cons_of_ne_nil (segments_ne_nil separator text)
  refine ⟨first, by rw [parts]; exact List.mem_cons_self, ?_⟩
  rw [← join_segments separator text, parts] at begins
  by_cases empty : first.toList = []
  · cases rest with
    | nil =>
        rw [join_singleton, empty] at begins
        cases begins
    | cons next rest =>
        rw [toList_join_cons_cons, empty] at begins
        exact absurd (Option.some.inj begins).symm other
  · rwa [head?_join separator rest empty] at begins

/-- The last segment ends as the text does. -/
theorem exists_segment_last {separator c : Char} {text : String}
    (ends : text.toList.getLast? = some c) (other : c ≠ separator) :
    ∃ segment ∈ segments separator text, segment.toList.getLast? = some c := by
  obtain ⟨front, last, parts⟩ :=
    List.eq_nil_or_concat (segments separator text) |>.resolve_left (segments_ne_nil separator text)
  refine ⟨last, by rw [parts]; simp, ?_⟩
  rw [← join_segments separator text, parts, List.concat_eq_append] at ends
  cases front with
  | nil => rwa [List.nil_append, join_singleton] at ends
  | cons first front =>
      rw [toList_join_append separator (List.cons_ne_nil _ _) (List.cons_ne_nil _ _),
        join_singleton] at ends
      rw [List.getLast?_append, List.getLast?_cons, Option.some_or, Option.some_inj] at ends
      cases found : last.toList.getLast? with
      | none =>
          rw [found, Option.getD_none] at ends
          exact absurd ends.symm other
      | some c' =>
          rw [found, Option.getD_some] at ends
          rw [ends]

theorem exists_untidy_of_head {c : Char} {text : String} (begins : text.toList.head? = some c)
    (spacing : isSpacing c = true) : ∃ segment ∈ segments '.' text, ¬ IsTidy segment := by
  obtain ⟨segment, member, first⟩ := exists_segment_head begins (ne_dot_of_isSpacing spacing)
  exact ⟨segment, member, fun tidy => absurd tidy.begins (by simp [first, spacing])⟩

theorem exists_untidy_of_last {c : Char} {text : String} (ends : text.toList.getLast? = some c)
    (spacing : isSpacing c = true) : ∃ segment ∈ segments '.' text, ¬ IsTidy segment := by
  obtain ⟨segment, member, last⟩ := exists_segment_last ends (ne_dot_of_isSpacing spacing)
  exact ⟨segment, member, fun tidy => absurd tidy.ends (by simp [last, spacing])⟩

end Text

/-- A dotted name with spaces between its names and the dots. -/
inductive Document.Spaced (document : Document) : Node → (names : List String) → Prop
  | identifier {node : Node} {name : String} (type : node.type = "identifier")
      (read : document.text node = .ok name) : Spaced document node [name]
  | member {node object property : Node} {names : List String} {text owner name : String}
      {before after : List Char} (type : node.type = "nested_identifier")
      (hasObject : node.child? "object" = some object)
      (hasProperty : node.child? "property" = some property)
      (inner : Spaced document object names) (readObject : document.text object = .ok owner)
      (readMember : document.text property = .ok name) (read : document.text node = .ok text)
      (written : text.toList = owner.toList ++ before ++ '.' :: (after ++ name.toList))
      (opens : after.head?.all Text.isSpacing = true)
      (closes : before.getLast?.all Text.isSpacing = true) :
      Spaced document node (names ++ [name])

namespace Document.Spaced

variable {document : Document} {node : Node} {names : List String}

theorem names_ne_nil (spaced : document.Spaced node names) : names ≠ [] := by
  cases spaced <;> simp

/-- Where a dotted name is not written without spaces, one of its segments has a space at an end. -/
theorem exists_untidy (spaced : document.Spaced node names) {target : String}
    (read : document.text node = .ok target) (loose : target ≠ Text.join '.' names) :
    ∃ segment ∈ Text.segments '.' target, ¬ Text.IsTidy segment := by
  induction spaced generalizing target with
  | identifier _ read' =>
      rw [Except.ok.inj (read.symm.trans read'), Text.join_singleton] at loose
      exact absurd rfl loose
  | @member node object property names text owner name before after _ _ _ inner readObject _ read'
      written opens closes ih =>
      obtain rfl := Except.ok.inj (read.symm.trans read')
      have cut : Text.segments '.' target =
          Text.segments '.' (String.ofList (owner.toList ++ before)) ++
            Text.segments '.' (String.ofList (after ++ name.toList)) :=
        Text.segments_append_cons (by simpa using written)
      rw [cut]
      cases behind : after.head? with
      | some c =>
          rw [behind] at opens
          obtain ⟨segment, member, untidy⟩ := Text.exists_untidy_of_head
            (show (String.ofList (after ++ name.toList)).toList.head? = some c by simp [behind])
            opens
          exact ⟨segment, List.mem_append_right _ member, untidy⟩
      | none =>
          cases ahead : before.getLast? with
          | some c =>
              rw [ahead] at closes
              obtain ⟨segment, member, untidy⟩ := Text.exists_untidy_of_last
                (show (String.ofList (owner.toList ++ before)).toList.getLast? = some c by
                  simp [ahead]) closes
              exact ⟨segment, List.mem_append_left _ member, untidy⟩
          | none =>
              -- Nothing stands around the last dot, so the spaces are further in.
              obtain rfl := List.head?_eq_none_iff.mp behind
              obtain rfl := List.getLast?_eq_none_iff.mp ahead
              have inside : owner ≠ Text.join '.' names := by
                rintro rfl
                refine loose (String.toList_injective ?_)
                rw [written, Text.toList_join_append '.' inner.names_ne_nil (List.cons_ne_nil _ _),
                  Text.join_singleton, List.append_nil, List.nil_append]
              obtain ⟨segment, member, untidy⟩ := ih readObject inside
              refine ⟨segment, List.mem_append_left _ ?_, untidy⟩
              rwa [List.append_nil, String.ofList_toList]

end Document.Spaced

namespace Symbol

/-- The symbol as it would be if its first declaration were an alias of something else. -/
def aliasing (symbol : Symbol) (target : String) : Symbol :=
  { symbol with declarations := symbol.declarations.modifyHead fun declaration =>
      { declaration with form := .importAlias target } }

theorem aliasing_self {symbol : Symbol} {target : String} {site : Site}
    (origin : symbol.origin? = some ⟨.importAlias target, site⟩) :
    symbol.aliasing target = symbol := by
  obtain ⟨name, scope, declarations, members⟩ := symbol
  cases declarations with
  | nil => cases origin
  | cons first rest =>
      obtain rfl := Option.some.inj origin
      rfl

end Symbol

namespace Scopes

variable {document : Document} {scopes : Scopes} {moduleName : Option String} {listing : Listing}

theorem name_of_lookupFrom {table : List Symbol} {name : String} {scope : List String}
    {symbol : Symbol} (found : lookupFrom table name scope = some symbol) : symbol.name = name := by
  induction scope generalizing table with
  | nil => simpa using List.find?_some found
  | cons segment inner ih =>
      rw [lookupFrom] at found
      rcases Option.or_eq_some_iff.mp found with deeper | ⟨-, here⟩
      · obtain ⟨owner, -, inside⟩ := Option.bind_eq_some_iff.mp deeper
        exact ih inside
      · simpa using List.find?_some here

/-- Every member that is taken on the way is named as it was asked for. -/
theorem exists_named_of_leads (groups : scopes.Groups listing) {symbol result : Symbol}
    {pending : List String} {trail : List (List String)}
    (leads : scopes.Leads symbol pending trail result) (stands : scopes.Stands symbol) :
    ∀ name ∈ pending, ∃ other, scopes.Stands other ∧ other.name = name := by
  induction leads with
  | arrived _ => exact nofun
  | @member _ next _ name _ _ _ found _ ih =>
      have nextStands := (groups.stands_member stands found).2
      intro other member
      rcases List.mem_cons.mp member with rfl | later
      · exact ⟨next, nextStands, by simpa using List.find?_some found⟩
      · exact ih nextStands other later
  | replaced _ _ found _ ih =>
      intro name member
      exact ih (groups.stands_lookup found) name (List.mem_append_right _ member)

/-- An alias stands for something only if every segment of its target is a name of the file. -/
theorem exists_named_of_resolve (groups : scopes.Groups listing) {symbol result : Symbol}
    (stands : scopes.Stands symbol) {target : String} {site : Site}
    (isAlias : symbol.alias? = some (target, site))
    (resolved : scopes.resolve (some symbol) = some result) :
    ∀ segment ∈ Text.segments '.' target, ∃ other, scopes.Stands other ∧ other.name = segment := by
  obtain ⟨start, trail, same, leads, -⟩ :=
    (groups.resolve_eq_some_iff (by rintro _ ⟨⟩; exact stands)).mp resolved
  obtain rfl := Option.some.inj same
  cases leads with
  | arrived plain => cases plain.symm.trans isAlias
  | @replaced _ start _ _ first _ rest _ _ isAlias' split found onward =>
      cases isAlias.symm.trans isAlias'
      have startStands := groups.stands_lookup found
      rw [split]
      intro segment member
      rcases List.mem_cons.mp member with rfl | later
      · exact ⟨start, startStands, name_of_lookupFrom found⟩
      · exact exists_named_of_leads groups onward startStands segment
          (List.mem_append_left _ later)

/-- Spaces in the target of an alias, in a file whose names have none at their ends. The alias is
what it would be with the names of its target written without spaces if they are so written, and
nothing otherwise. So spaces make no difference exactly if there are none, or if the names written
without them denote nothing. -/
theorem symbolAt_spaced_iff (bound : Scopes.bind document moduleName = .ok scopes)
    (distinct : document.HasDistinctIds) {path : List String} {symbol : Symbol}
    (found : scopes.symbol? path = some symbol) {target : String} {site : Site}
    (origin : symbol.origin? = some ⟨.importAlias target, site⟩) {name expression : Node}
    (first : site.node.namedChildren.head? = some name) (type : name.type = "identifier")
    (last : site.node.namedChildren.getLast? = some expression) {names : List String}
    (spaced : document.Spaced expression names)
    (tidy : ∀ other ∈ Symbol.forest scopes.globals, Text.IsTidy other.name) :
    scopes.symbolAt document (site.below name) = .ok (if target = Text.join '.' names then
        scopes.resolve (some (symbol.aliasing (Text.join '.' names))) else none) ∧
      (scopes.symbolAt document (site.below name) =
          .ok (scopes.resolve (some (symbol.aliasing (Text.join '.' names)))) ↔
        target = Text.join '.' names ∨
          scopes.resolve (some (symbol.aliasing (Text.join '.' names))) = none) := by
  obtain ⟨listing, groups⟩ := exists_groups bound
  obtain ⟨-, stands⟩ := groups.stands_of_symbol? found
  obtain ⟨-, -, -, expression', -, -, -, -, last', -, read⟩ := statement_of_alias bound found origin
  obtain rfl := Option.some.inj (last.symm.trans last')
  have answer : scopes.resolve (some symbol) = if target = Text.join '.' names then
      scopes.resolve (some (symbol.aliasing (Text.join '.' names))) else none := by
    split
    · next tight => rw [← tight, Symbol.aliasing_self origin]
    · next loose =>
      obtain ⟨segment, member, untidy⟩ := spaced.exists_untidy read loose
      by_contra lost
      obtain ⟨result, resolved⟩ := Option.ne_none_iff_exists'.mp lost
      obtain ⟨other, standsOther, rfl⟩ :=
        exists_named_of_resolve groups stands (alias?_of_origin origin) resolved segment member
      rw [Stands, symbol?_eq_descend] at standsOther
      exact untidy (tidy other (Symbol.mem_forest_of_descend standsOther))
  rw [symbolAt_aliasName bound distinct found origin first type, answer]
  refine ⟨rfl, ?_⟩
  rw [Except.ok.injEq]
  split
  · next tight => exact iff_of_true rfl (.inl tight)
  · next loose => exact ⟨fun same => .inr same.symm, fun lost => (lost.resolve_left loose).symm⟩

end Scopes

/-- The tree of `import A = X . Y; import B = X.Y;` and, behind it,
`namespace X { export class Y {} }`. -/
def spacedAliases : Document where
  content := "import A = X . Y; import B = X.Y; namespace X { export class Y {} }".toUTF8
  root := ⟨⟨0, "program", 0, true, none, 0, 67⟩, [
    ⟨⟨1, "import_alias", 0, true, none, 0, 17⟩, [
      ⟨⟨2, "identifier", 0, true, none, 7, 8⟩, []⟩,
      ⟨⟨3, "nested_identifier", 0, true, none, 11, 16⟩, [
        ⟨⟨4, "identifier", 0, true, some "object", 11, 12⟩, []⟩,
        ⟨⟨5, "property_identifier", 0, true, some "property", 15, 16⟩, []⟩]⟩]⟩,
    ⟨⟨6, "import_alias", 0, true, none, 18, 33⟩, [
      ⟨⟨7, "identifier", 0, true, none, 25, 26⟩, []⟩,
      ⟨⟨8, "nested_identifier", 0, true, none, 29, 32⟩, [
        ⟨⟨9, "identifier", 0, true, some "object", 29, 30⟩, []⟩,
        ⟨⟨10, "property_identifier", 0, true, some "property", 31, 32⟩, []⟩]⟩]⟩,
    ⟨⟨11, "expression_statement", 0, true, none, 34, 67⟩, [
      ⟨⟨12, "internal_module", 0, true, none, 34, 67⟩, [
        ⟨⟨13, "identifier", 0, true, some "name", 44, 45⟩, []⟩,
        ⟨⟨14, "statement_block", 0, true, some "body", 46, 67⟩, [
          ⟨⟨15, "export_statement", 0, true, none, 48, 65⟩, [
            ⟨⟨16, "class_declaration", 0, true, some "declaration", 55, 65⟩, [
              ⟨⟨17, "type_identifier", 0, true, some "name", 61, 62⟩, []⟩]⟩]⟩]⟩]⟩]⟩]⟩

set_option maxRecDepth 10000 in
/-- The target of `B` is written without spaces, and `B` is the class. -/
theorem spacedAliases_tight : ∃ scopes symbol site name expression result,
    Scopes.bind spacedAliases none = .ok scopes ∧ scopes.symbol? ["B"] = some symbol ∧
      symbol.origin? = some ⟨.importAlias "X.Y", site⟩ ∧
      site.node.namedChildren = [name, expression] ∧
      spacedAliases.Spaced expression ["X", "Y"] ∧ result.path = ["X", "Y"] ∧
      scopes.symbolAt spacedAliases (site.below name) = .ok (some result) := by
  obtain ⟨scopes, symbol, site, name, expression, result, trail, bound, found, origin, children,
      type, spaced, tidy, leads, once, path⟩ :
      ∃ scopes symbol site name expression result trail,
        Scopes.bind spacedAliases none = .ok scopes ∧ scopes.symbol? ["B"] = some symbol ∧
        symbol.origin? = some ⟨.importAlias "X.Y", site⟩ ∧
        site.node.namedChildren = [name, expression] ∧ name.type = "identifier" ∧
        spacedAliases.Spaced expression (["X"] ++ ["Y"]) ∧
        (∀ other ∈ Symbol.forest scopes.globals, Text.IsTidy other.name) ∧
        scopes.Leads symbol [] trail result ∧ trail.Nodup ∧ result.path = ["X", "Y"] :=
    ⟨_, _, _, _, _, _, _, rfl, rfl, rfl, rfl, rfl,
      .member rfl rfl rfl (.identifier rfl rfl) rfl rfl rfl
        (show "X.Y".toList = "X".toList ++ [] ++ '.' :: ([] ++ "Y".toList) from rfl) rfl rfl,
      by decide, .replaced rfl rfl rfl (.member rfl rfl (.arrived rfl)), by decide, rfl⟩
  obtain ⟨listing, groups⟩ := Scopes.exists_groups bound
  obtain ⟨-, stands⟩ := groups.stands_of_symbol? found
  have followed := (groups.resolve_eq_some_iff (by rintro _ ⟨⟩; exact stands)).mpr
    ⟨symbol, trail, rfl, leads, once⟩
  have same := (Scopes.symbolAt_spaced_iff bound (by decide) found origin
    (by rw [children]; rfl) type (by rw [children]; rfl) spaced tidy).2.mpr (.inl rfl)
  rw [show Text.join '.' (["X"] ++ ["Y"]) = "X.Y" from rfl, Symbol.aliasing_self origin,
    followed] at same
  exact ⟨scopes, symbol, site, name, expression, result, bound, found, origin, children, spaced,
    path, same⟩

set_option maxRecDepth 10000 in
/-- The target of `A` has the same names with spaces around the dot, and `A` is nothing. -/
theorem spacedAliases_loose : ∃ scopes symbol site name expression result,
    Scopes.bind spacedAliases none = .ok scopes ∧ scopes.symbol? ["A"] = some symbol ∧
      symbol.origin? = some ⟨.importAlias "X . Y", site⟩ ∧
      site.node.namedChildren = [name, expression] ∧
      spacedAliases.Spaced expression ["X", "Y"] ∧ result.path = ["X", "Y"] ∧
      scopes.resolve (some (symbol.aliasing (Text.join '.' ["X", "Y"]))) = some result ∧
      scopes.symbolAt spacedAliases (site.below name) = .ok none := by
  obtain ⟨scopes, symbol, site, name, expression, result, trail, bound, found, origin, children,
      spaced, leads, once, among, path, nothing⟩ :
      ∃ scopes symbol site name expression result trail,
        Scopes.bind spacedAliases none = .ok scopes ∧ scopes.symbol? ["A"] = some symbol ∧
        symbol.origin? = some ⟨.importAlias "X . Y", site⟩ ∧
        site.node.namedChildren = [name, expression] ∧
        spacedAliases.Spaced expression (["X"] ++ ["Y"]) ∧
        scopes.Leads (symbol.aliasing (Text.join '.' ["X", "Y"])) [] trail result ∧ trail.Nodup ∧
        trail ⊆ Symbol.aliasPathsAll scopes.globals ∧ result.path = ["X", "Y"] ∧
        scopes.Evaluates spacedAliases (site.below name) (.ok none) :=
    ⟨_, _, _, _, _, _, _, rfl, rfl, rfl, rfl,
      .member rfl rfl rfl (.identifier rfl rfl) rfl rfl rfl
        (show "X . Y".toList = "X".toList ++ [' '] ++ '.' :: ([' '] ++ "Y".toList) from rfl)
        rfl rfl,
      .replaced rfl rfl rfl (.member rfl rfl (.arrived rfl)), by decide, by decide, rfl,
      .identifier rfl rfl (.followed rfl (by decide) rfl (.lost .absent))⟩
  obtain ⟨listing, groups⟩ := Scopes.exists_groups bound
  exact ⟨scopes, symbol, site, name, expression, result, bound, found, origin, children, spaced,
    path, Scopes.chase_of_leads leads once among, groups.symbolAt_of_evaluates nothing⟩

end SourceOutline
