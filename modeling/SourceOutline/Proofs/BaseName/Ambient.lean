import SourceOutline.Proofs.BaseName
import SourceOutline.Proofs.Scope.Statement
import SourceOutline.Proofs.Text.Blank

/-!
# Bases inside ambient modules

A namespace may be named by a string literal, whose quotes then belong to the name of its symbol.
Of the three quotes only one is understood where the name of a base is split: double quotes keep
the dots between them, and they are taken off in front. Between other quotes the dots cut the name,
and the quotes stay on the pieces. Inside another namespace no quotes make a module one segment.
-/

namespace SourceOutline

namespace Text

/-- A string literal: a quote at both ends and none in between. -/
structure IsQuoted (quote : Char) (content text : String) : Prop where
  isQuote : isQuote quote = true
  free : content.toList.any Text.isQuote = false
  written : text.toList = quote :: content.toList ++ [quote]

namespace IsQuoted

variable {quote : Char} {content text : String}

theorem toList_ne_nil (quoted : IsQuoted quote content text) : text.toList ≠ [] := by
  rw [quoted.written]
  exact List.cons_ne_nil _ _

theorem head? (quoted : IsQuoted quote content text) : text.toList.head? = some quote := by
  rw [quoted.written]
  rfl

theorem content_ne (quoted : IsQuoted quote content text) : content ≠ text := by
  rintro rfl
  have begins : quote ∈ content.toList := List.mem_of_head? quoted.head?
  exact absurd quoted.isQuote (List.any_eq_false.mp quoted.free quote begins)

theorem quote_ne_dot (quoted : IsQuoted quote content text) : quote ≠ '.' := by
  rintro rfl
  exact absurd quoted.isQuote (by decide)

/-- Quotes are not blank, so nothing is stripped from a literal. -/
theorem strip_eq (quoted : IsQuoted quote content text) : strip text = text := by
  have visible : isBlank quote = false := by
    have isQuote := quoted.isQuote
    simp only [Text.isQuote, Bool.or_eq_true, beq_iff_eq] at isQuote
    rcases isQuote with (rfl | rfl) | rfl <;> decide
  apply String.toList_injective
  rw [strip, String.toList_ofList, quoted.written]
  simp [trimBy, visible]

theorem eq_of_double (quoted : IsQuoted '"' content text) : text = "\"" ++ content ++ "\"" := by
  apply String.toList_injective
  rw [quoted.written]
  simp

end IsQuoted

/-- Names without dots are not cut. -/
theorem flatMap_segments {names : List String} (undotted : ∀ name ∈ names, '.' ∉ name.toList) :
    names.flatMap (segments '.') = names := by
  induction names with
  | nil => rfl
  | cons name names ih =>
      rw [List.flatMap_cons, segments_of_undotted (undotted name List.mem_cons_self),
        ih fun other among => undotted other (List.mem_cons_of_mem _ among), List.singleton_append]

/-- Dots behind two texts that end in something else do not make the texts alike. -/
theorem eq_of_append_dots {cs cs' dots dots' : List Char} {c c' : Char} (ends : c ≠ '.')
    (ends' : c' ≠ '.') (onlyDots : ∀ d ∈ dots, d = '.') (onlyDots' : ∀ d ∈ dots', d = '.')
    (same : cs ++ [c] ++ dots = cs' ++ [c'] ++ dots') : cs ++ [c] = cs' ++ [c'] := by
  have trimmed (cs : List Char) {c : Char} {dots : List Char} (ends : c ≠ '.')
      (onlyDots : ∀ d ∈ dots, d = '.') :
      (cs ++ [c] ++ dots).reverse.dropWhile (· == '.') = (cs ++ [c]).reverse := by
    rw [List.reverse_append, List.dropWhile_append_of_pos (by simpa using onlyDots),
      List.reverse_append]
    exact List.dropWhile_cons_of_neg (by simpa using ends)
  have alike := congrArg (fun cs => cs.reverse.dropWhile (· == '.')) same
  rw [trimmed cs ends onlyDots, trimmed cs' ends' onlyDots'] at alike
  exact List.reverse_injective alike

end Text

namespace QualifiedName

variable {quote : Char} {content text first : String} {outer names : List String}

/-- If the names before the last ones make a single piece, then there is only one such name. -/
theorem eq_text_of_segments (undotted : ∀ name ∈ names, '.' ∉ name.toList)
    (cut : Text.segments '.' (Text.join '.' (outer ++ text :: names)) = first :: names) :
    outer = [] ∧ first = text := by
  rw [Text.segments_join_eq_flatMap '.' (by simp), List.append_cons, List.flatMap_append,
    Text.flatMap_segments undotted, ← List.singleton_append (l := names),
    List.append_cancel_right_eq, List.flatMap_append, List.flatMap_singleton] at cut
  cases outer with
  | nil =>
      have sole : Text.segments '.' text = [first] := cut
      exact ⟨rfl, by rw [← Text.join_segments '.' text, sole, Text.join_singleton]⟩
  | cons name outer =>
      obtain ⟨piece, pieces, here⟩ := List.exists_cons_of_ne_nil (Text.segments_ne_nil '.' text)
      obtain ⟨piece', pieces', there⟩ := List.exists_cons_of_ne_nil (Text.segments_ne_nil '.' name)
      simp [here, there] at cut

/-- A joined text that ends in a quoted name is that name, or a dot stands before it. -/
theorem toList_join_quoted (quoted : Text.IsQuoted quote content text) (outer : List String) :
    ∃ front : List Char,
      (Text.join '.' (outer ++ [text])).toList = front ++ quote :: content.toList ++ [quote] ∧
        (front = [] → outer = []) := by
  cases outer with
  | nil =>
      refine ⟨[], ?_, fun _ => rfl⟩
      rw [List.nil_append, Text.join_singleton, quoted.written, List.nil_append]
  | cons name outer =>
      refine ⟨(Text.join '.' (name :: outer)).toList ++ ['.'], ?_, fun empty => by simp at empty⟩
      rw [Text.toList_join_append '.' (List.cons_ne_nil _ _) (List.cons_ne_nil _ _),
        Text.join_singleton, quoted.written]
      simp

/-- Where names stand behind a quoted one, all that is written before them is a single segment
only if that is the quoted name alone. -/
theorem eq_quoted_of_split (quoted : Text.IsQuoted quote content text) (nonempty : names ≠ [])
    (undotted : ∀ name ∈ names, '.' ∉ name.toList)
    (parts : split (Text.join '.' (outer ++ text :: names)) = first :: names) :
    outer = [] ∧ first = text := by
  rcases split_cases (Text.join '.' (outer ++ text :: names)) with
    cut | ⟨inner, dots, behind, unquoted, onlyDots, written, cut⟩
  · exact eq_text_of_segments undotted (cut.symm.trans parts)
  · obtain ⟨rfl, rest⟩ := List.cons.inj (cut.symm.trans parts)
    have more : behind ≠ [] := by
      rintro rfl
      exact nonempty rest.symm
    rw [if_neg more] at rest
    have joined : behind = (Text.join '.' names).toList := by
      rw [← rest, Text.join_segments, String.toList_ofList]
    obtain ⟨front, ends, alone⟩ := toList_join_quoted quoted outer
    rw [List.append_cons, Text.toList_join_append '.' (by simp) nonempty, ends, joined] at written
    have same : '"' :: inner ++ ['"'] ++ dots =
        front ++ quote :: content.toList ++ [quote] ++ ['.'] := by
      rw [← List.append_left_inj (Text.join '.' names).toList]
      simpa using written.symm
    obtain ⟨same, last⟩ := List.append_inj'
      (Text.eq_of_append_dots (by decide) quoted.quote_ne_dot onlyDots (by simp) same) rfl
    obtain rfl : '"' = quote := (List.cons.inj last).1
    cases front with
    | nil =>
        refine ⟨alone rfl, String.toList_injective ?_⟩
        rw [quoted.written, String.toList_ofList, same]
        rfl
    | cons c front =>
        -- The quote before the content would stand inside the part that is split off.
        refine absurd ?_ unquoted
        rw [(List.cons.inj same).2]
        simp

/-- Without a quote in front, a name is the list of its segments. -/
theorem ofResolved_of_unquotedText {symbol : Symbol} {name : String}
    (unnamed : ∀ source exported,
      symbol.origin?.map Declaration.form ≠ some (.namedImport source exported))
    (unquoted : name.toList.head? ≠ some '"') :
    ofResolved symbol name = ⟨Text.segments '.' name⟩ := by
  obtain ⟨first, rest, parts⟩ := List.exists_cons_of_ne_nil (Text.segments_ne_nil '.' name)
  have begins : first.toList.head? ≠ some '"' := by
    by_cases empty : first.toList = []
    · simp [empty]
    · rw [← Text.join_segments '.' name, parts, Text.head?_join '.' rest empty] at unquoted
      exact unquoted
  rw [ofResolved_of_unquoted unnamed ((split_of_unquoted unquoted).trans parts) begins, parts]

end QualifiedName

/-- A namespace statement of a scope whose name is a string literal. -/
structure Document.AmbientModule (document : Document) (block : Site) (scope : List String)
    (quote : Char) (content text : String) : Prop where
  reached : document.StatementAt block scope
  nested : isNamespaceType block.type = true
  literal : ∃ literal, block.node.child? "name" = some literal ∧ literal.type = "string" ∧
    document.text literal = .ok text
  quoted : Text.IsQuoted quote content text

/-- The module opens one scope, and the quotes belong to its name. -/
theorem Document.AmbientModule.namespaceNames_eq {document : Document} {block : Site}
    {scope : List String} {quote : Char} {content text : String}
    (ambient : document.AmbientModule block scope quote content text) :
    Binder.namespaceNames document block.node = .ok [text] := by
  obtain ⟨literal, named, type, read⟩ := ambient.literal
  have whole : (if literal.type == "string" then [text] else Text.segments '.' text).map
      Text.strip = [text] := by
    rw [if_pos (beq_iff_eq.mpr type), List.map_singleton, ambient.quoted.strip_eq]
  simp only [Binder.namespaceNames, named]
  exact bind_eq_ok_iff.mpr ⟨text, read, congrArg Except.ok whole⟩

namespace Scopes

theorem qualifier_of_nameless {document : Document} {scopes : Scopes}
    (bound : Scopes.bind document none = .ok scopes) (outermost : Symbol) :
    scopes.qualifier outermost = none := by
  rw [qualifier, moduleName_of_bind bound]
  rfl

/-- A path through an ambient module, split and unquoted. -/
theorem ofResolved_of_ambient {quote : Char} {content text : String} {symbol : Symbol}
    (quoted : Text.IsQuoted quote content text) (isLocal : symbol.isImported = false)
    {scope names : List String} (nonempty : names ≠ [])
    (proper : ∀ name ∈ names, name ≠ "" ∧ '.' ∉ name.toList)
    (plain : ∀ name ∈ scope, IsPlainName name) :
    QualifiedName.ofResolved symbol (Text.join '.' (scope ++ text :: names)) =
      ⟨if scope = [] ∧ quote = '"' then content :: names
        else scope ++ Text.segments '.' text ++ names⟩ := by
  have unnamed := not_namedImport_of_local isLocal
  have undotted := fun name member => (proper name member).2
  by_cases double : scope = [] ∧ quote = '"'
  · obtain ⟨rfl, rfl⟩ := double
    obtain ⟨name, names, rfl⟩ := List.exists_cons_of_ne_nil nonempty
    have begins : name.toList ≠ [] := by simpa using (proper name List.mem_cons_self).1
    have whole : "\"" ++ content ++ "\"." ++ Text.join '.' (name :: names) =
        Text.join '.' (text :: name :: names) := by
      apply String.toList_injective
      rw [Text.toList_join_cons_cons, quoted.eq_of_double]
      simp
    have free : '"' ∉ content.toList := fun inside =>
      List.any_eq_false.mp quoted.free '"' inside (by decide)
    have parts := QualifiedName.split_quoted free begins undotted
    rw [whole] at parts
    rw [List.nil_append, QualifiedName.ofResolved_eq unnamed parts, if_pos (by simp),
      if_pos ⟨rfl, rfl⟩, Text.unquote_quoted]
  · have unquoted : (Text.join '.' (scope ++ text :: names)).toList.head? ≠ some '"' := by
      cases scope with
      | nil =>
          rw [List.nil_append, Text.head?_join '.' names quoted.toList_ne_nil, quoted.head?]
          simpa using double
      | cons first scope =>
          have firstPlain := plain first List.mem_cons_self
          rw [List.cons_append, Text.head?_join '.' _ firstPlain.nonempty]
          exact firstPlain.unquoted
    rw [QualifiedName.ofResolved_of_unquotedText unnamed unquoted, if_neg double,
      Text.segments_join_eq_flatMap '.' (by simp), List.flatMap_append, List.flatMap_cons,
      Text.flatMap_segments undotted,
      Text.flatMap_segments fun name member => (plain name member).undotted, List.append_assoc]

theorem ofResolved_of_ambient_iff {quote : Char} {content text : String} {symbol : Symbol}
    (quoted : Text.IsQuoted quote content text) (isLocal : symbol.isImported = false)
    {scope names : List String} (nonempty : names ≠ [])
    (proper : ∀ name ∈ names, name ≠ "" ∧ '.' ∉ name.toList) :
    QualifiedName.ofResolved symbol (Text.join '.' (scope ++ text :: names)) =
      ⟨content :: names⟩ ↔ scope = [] ∧ quote = '"' := by
  constructor
  · intro exact
    obtain ⟨first, rest, parts⟩ := List.exists_cons_of_ne_nil
      (QualifiedName.split_ne_nil (Text.join '.' (scope ++ text :: names)))
    rw [QualifiedName.ofResolved_eq (not_namedImport_of_local isLocal) parts] at exact
    have same : rest = names := by
      split at exact <;> exact (List.cons.inj (congrArg QualifiedName.parts exact)).2
    rw [same] at parts
    obtain ⟨alone, rfl⟩ := QualifiedName.eq_quoted_of_split quoted nonempty
      (fun name member => (proper name member).2) parts
    refine ⟨alone, ?_⟩
    by_contra other
    rw [quoted.head?, if_neg (by simpa using other)] at exact
    exact quoted.content_ne (List.cons.inj (congrArg QualifiedName.parts exact)).1.symm
  · rintro ⟨rfl, rfl⟩
    rw [ofResolved_of_ambient quoted isLocal nonempty proper (by simp), if_pos ⟨rfl, rfl⟩]

end Scopes

/-- Without a module name in front, the text that is split is the path. -/
theorem Site.baseName_of_unprefixed {document : Document} {moduleName : Option String}
    {scopes : Scopes} (bound : Scopes.bind document moduleName = .ok scopes) {expression : Site}
    {symbol : Symbol} (resolved : scopes.symbolAt document expression = .ok (some symbol))
    (isLocal : symbol.isImported = false)
    (unprefixed : ∀ outermost, scopes.symbol? (symbol.path.take 1) = some outermost →
      scopes.qualifier outermost = none) (before : Journal) :
    (expression.baseName document (scopes.resolver document)).Gives before
      (QualifiedName.ofResolved symbol (Text.join '.' symbol.path))
      { before with lookups := before.lookups ++ [expression.node.id] } := by
  obtain ⟨listing, groups⟩ := Scopes.exists_groups bound
  obtain ⟨outermost, top, first⟩ := Scopes.exists_outermost (groups.stands_symbolAt resolved)
  have given : (expression.baseName document (scopes.resolver document)).Gives before
      (QualifiedName.ofResolved symbol (scopes.qualifiedName symbol)) _ :=
    baseName_gives resolved before
  rwa [Scopes.qualifiedName_of_local isLocal top, unprefixed outermost first] at given

/-- Bases inside ambient modules, where no module name stands in front. The module opens one scope,
named by its literal. The base is the content of the literal, followed by the names below the
module, exactly if the module stands at the top of the file and has double quotes. In every other
case the path is cut at all its dots, also at those between the quotes, and the quotes stay. -/
theorem Site.baseName_of_ambient_iff {document : Document} {moduleName : Option String}
    {scopes : Scopes} (bound : Scopes.bind document moduleName = .ok scopes) {block : Site}
    {scope : List String} {quote : Char} {content text : String}
    (ambient : document.AmbientModule block scope quote content text) {expression : Site}
    {symbol : Symbol} (resolved : scopes.symbolAt document expression = .ok (some symbol))
    (isLocal : symbol.isImported = false) {opened names : List String}
    (opens : Binder.namespaceNames document block.node = .ok opened)
    (inside : symbol.path = scope ++ opened ++ names) (nonempty : names ≠ [])
    (proper : ∀ name ∈ names, name ≠ "" ∧ '.' ∉ name.toList)
    (unprefixed : ∀ outermost, scopes.symbol? (symbol.path.take 1) = some outermost →
      scopes.qualifier outermost = none) (before : Journal) :
    opened = [text] ∧
      ((∀ name ∈ scope, IsPlainName name) →
        (expression.baseName document (scopes.resolver document)).Gives before
          ⟨if scope = [] ∧ quote = '"' then content :: names
            else scope ++ Text.segments '.' text ++ names⟩
          { before with lookups := before.lookups ++ [expression.node.id] }) ∧
      ((expression.baseName document (scopes.resolver document)).Gives before
          ⟨content :: names⟩ { before with lookups := before.lookups ++ [expression.node.id] } ↔
        scope = [] ∧ quote = '"') := by
  obtain rfl : opened = [text] := Except.ok.inj (opens.symm.trans ambient.namespaceNames_eq)
  rw [List.append_assoc, List.singleton_append] at inside
  have given := baseName_of_unprefixed bound resolved isLocal unprefixed before
  rw [inside] at given
  refine ⟨rfl, fun plain => ?_, ?_⟩
  · rwa [Scopes.ofResolved_of_ambient ambient.quoted isLocal nonempty proper plain] at given
  · rw [← Scopes.ofResolved_of_ambient_iff ambient.quoted isLocal nonempty proper]
    exact ⟨fun exact => given.unique exact, fun same => same ▸ given⟩

/-- The tree of `declare module "q.r" { class X {} class Y extends X {} }`, for any quotes around
the name. -/
def ambientModule (quote : String) : Document where
  content := ("declare module " ++ quote ++ "q.r" ++ quote ++
    " { class X {} class Y extends X {} }").toUTF8
  root := ⟨⟨0, "program", 0, true, none, 0, 56⟩, [
    ⟨⟨1, "ambient_declaration", 0, true, none, 0, 56⟩, [
      ⟨⟨2, "module", 0, true, none, 8, 56⟩, [
        ⟨⟨3, "string", 0, true, some "name", 15, 20⟩, []⟩,
        ⟨⟨4, "statement_block", 0, true, some "body", 21, 56⟩, [
          ⟨⟨5, "class_declaration", 0, true, none, 23, 33⟩, [
            ⟨⟨6, "type_identifier", 0, true, some "name", 29, 30⟩, []⟩]⟩,
          ⟨⟨7, "class_declaration", 0, true, none, 34, 54⟩, [
            ⟨⟨8, "type_identifier", 0, true, some "name", 40, 41⟩, []⟩,
            ⟨⟨9, "class_heritage", 0, true, none, 42, 51⟩, [
              ⟨⟨10, "extends_clause", 0, true, none, 42, 51⟩, [
                ⟨⟨11, "identifier", 0, true, some "value", 50, 51⟩, []⟩]⟩]⟩]⟩]⟩]⟩]⟩]⟩

set_option maxRecDepth 10000 in
/-- Double quotes come off, and the dot between them stays. -/
theorem ambientModule_double_quotes : ∃ scopes block base symbol,
    Scopes.bind (ambientModule "\"") none = .ok scopes ∧
      (ambientModule "\"").site? 2 = some block ∧
      (ambientModule "\"").AmbientModule block [] '"' "q.r" "\"q.r\"" ∧
      (ambientModule "\"").site? 11 = some base ∧
      scopes.symbolAt (ambientModule "\"") base = .ok (some symbol) ∧
      symbol.path = ["\"q.r\"", "X"] ∧
      (base.baseName (ambientModule "\"") (scopes.resolver (ambientModule "\""))).Gives {}
        ⟨["q.r", "X"]⟩ { lookups := [11] } := by
  obtain ⟨scopes, block, base, trails, symbol, bound, atBlock, ambient, atBase, denotes, once,
      path, isLocal⟩ : ∃ scopes block base trails symbol,
        Scopes.bind (ambientModule "\"") none = .ok scopes ∧
        (ambientModule "\"").site? 2 = some block ∧
        (ambientModule "\"").AmbientModule block [] '"' "q.r" "\"q.r\"" ∧
        (ambientModule "\"").site? 11 = some base ∧
        scopes.Denotes (ambientModule "\"") base trails symbol ∧
        (∀ trail ∈ trails, trail.Nodup) ∧ symbol.path = ["\"q.r\"", "X"] ∧
        symbol.isImported = false :=
    ⟨_, _, _, _, _, rfl, rfl,
      ⟨.wrapped (.inFile (.head _)) rfl (.head _), rfl, ⟨_, rfl, rfl, rfl⟩, ⟨rfl, rfl, rfl⟩⟩,
      rfl, .identifier rfl rfl rfl (.arrived rfl), by decide, rfl, rfl⟩
  obtain ⟨listing, groups⟩ := Scopes.exists_groups bound
  have resolved := groups.symbolAt_of_denotes denotes once
  have inside : symbol.path = [] ++ ["\"q.r\""] ++ ["X"] := path
  obtain ⟨-, -, exact⟩ := Site.baseName_of_ambient_iff bound ambient resolved isLocal
    ambient.namespaceNames_eq inside (by decide) (by decide)
    (fun outermost _ => Scopes.qualifier_of_nameless bound outermost) {}
  have given := exact.mpr ⟨rfl, rfl⟩
  rw [Document.id_of_site? atBase] at given
  exact ⟨scopes, block, base, symbol, bound, atBlock, ambient, atBase, resolved, path, given⟩

set_option maxRecDepth 10000 in
/-- Single quotes stay, and the dot between them cuts the name of the module in two. -/
theorem ambientModule_single_quotes : ∃ scopes block base symbol,
    Scopes.bind (ambientModule "'") none = .ok scopes ∧
      (ambientModule "'").site? 2 = some block ∧
      (ambientModule "'").AmbientModule block [] '\'' "q.r" "'q.r'" ∧
      (ambientModule "'").site? 11 = some base ∧
      scopes.symbolAt (ambientModule "'") base = .ok (some symbol) ∧
      symbol.path = ["'q.r'", "X"] ∧ symbol.isImported = false ∧
      (base.baseName (ambientModule "'") (scopes.resolver (ambientModule "'"))).Gives {}
        ⟨["'q", "r'", "X"]⟩ { lookups := [11] } ∧
      ∀ after, ¬ (base.baseName (ambientModule "'") (scopes.resolver (ambientModule "'"))).Gives {}
        ⟨["q.r", "X"]⟩ after := by
  obtain ⟨scopes, block, base, trails, symbol, bound, atBlock, ambient, atBase, denotes, once,
      path, isLocal⟩ : ∃ scopes block base trails symbol,
        Scopes.bind (ambientModule "'") none = .ok scopes ∧
        (ambientModule "'").site? 2 = some block ∧
        (ambientModule "'").AmbientModule block [] '\'' "q.r" "'q.r'" ∧
        (ambientModule "'").site? 11 = some base ∧
        scopes.Denotes (ambientModule "'") base trails symbol ∧
        (∀ trail ∈ trails, trail.Nodup) ∧ symbol.path = ["'q.r'", "X"] ∧
        symbol.isImported = false :=
    ⟨_, _, _, _, _, rfl, rfl,
      ⟨.wrapped (.inFile (.head _)) rfl (.head _), rfl, ⟨_, rfl, rfl, rfl⟩, ⟨rfl, rfl, rfl⟩⟩,
      rfl, .identifier rfl rfl rfl (.arrived rfl), by decide, rfl, rfl⟩
  obtain ⟨listing, groups⟩ := Scopes.exists_groups bound
  have resolved := groups.symbolAt_of_denotes denotes once
  have given := Site.baseName_of_unprefixed bound resolved isLocal
    (fun outermost _ => Scopes.qualifier_of_nameless bound outermost) {}
  have named := Scopes.ofResolved_of_ambient ambient.quoted isLocal
    (show ["X"] ≠ [] by decide) (by decide) (show ∀ name ∈ [], IsPlainName name by simp)
  rw [path, show ["'q.r'", "X"] = [] ++ "'q.r'" :: ["X"] from rfl, named,
    Document.id_of_site? atBase] at given
  refine ⟨scopes, block, base, symbol, bound, atBlock, ambient, atBase, resolved, path, isLocal,
    given, ?_⟩
  intro after whole
  exact absurd (given.unique whole) (by decide)

end SourceOutline
