import SourceOutline.Proofs.Outline.Likeness
import SourceOutline.Proofs.Scope.Reordering

/-!
# Resolution does not depend on the order of statements

The statements of a file and of its namespaces may be written in another order. Then every
expression still has the name it had, or none, or fails as it did, and every class extends the
same. Binding is sensitive to the order all the same: the first declaration of a name decides
whether the name is borrowed. So no alias or import may share its name with another declaration.
-/

namespace SourceOutline

namespace Scopes

variable (scopes : Scopes) (document : Document) (site : Site)

/-- The qualified name of what stands at a site, if it denotes anything. -/
def nameAt : Except Failure (Option String) :=
  (scopes.symbolAt document site).map (Option.map scopes.qualifiedName)

/-- The name of what a class extends, if it extends anything. -/
def extendedAt? : Option (Except Failure QualifiedName) :=
  site.extendsExpression?.map fun base =>
    (Recorded.run (base.baseName document (scopes.resolver document))).1

end Scopes

variable {document document' : Document} {scopes scopes' : Scopes} {rename : Nat → Nat}
  {site site' : Site}

namespace Reorders

section

variable (paired : Paired document document' scopes scopes')
  (tied : Tied document document' scopes scopes' site site')
  (reorders : Reorders Site.IsStatementBlock rename site site')

include paired tied reorders

theorem symbolAt_agree : Agree (Option.Rel (scopes.Twin scopes')) (scopes.symbolAt document site)
    (scopes'.symbolAt document' site') :=
  tied.symbolAt_agree paired site (reorders.like site.node)

theorem nameAt_eq : scopes.nameAt document site = scopes'.nameAt document' site' := by
  refine (symbolAt_agree paired tied reorders).map_eq fun symbol? symbol?' both => ?_
  cases both with
  | none => rfl
  | some twin => exact congrArg some (paired.kin.qualifiedName twin)

theorem extendedAt?_eq (isClass : isClassType site.type = true) :
    scopes.extendedAt? document site = scopes'.extendedAt? document' site' := by
  have fixed : ¬ site.IsStatementBlock := fun moved => moved.not_class isClass
  have below := Node.forall₂_substance (fun _ _ like => like.alike) reorders.alike.type_eq
    (reorders.like_children fixed)
  rw [Scopes.extendedAt?, Scopes.extendedAt?]
  obtain ⟨missing, missing'⟩ | ⟨base, base', found, found', deeper, like⟩ :=
    Option.rel_cases (tied.extendsExpression? paired below)
  · rw [missing, missing', Option.map_none, Option.map_none]
  · obtain ⟨agree, -⟩ := deeper.baseName_parallel paired like {} {} rfl
    rw [found, found']
    exact congrArg some agree.eq

end

end Reorders

/-- Resolution does not depend on the order of statements. Let a file of the grammar be bound without
failure, let no alias or import of it share its name with another declaration of the same scope, and
let the statements of the file and of the bodies of its namespaces be written in another order. Then
the other file is bound as well. Every node has the same name there, or the same failure, and every
class extends the same. -/
theorem resolution_of_reorders (content : document.content = document'.content)
    (blocks : document.HasStatementBlocks)
    (root : Reorders Site.IsBlock rename document.rootSite document'.rootSite)
    (distinct : document.HasDistinctIds) (distinct' : document'.HasDistinctIds)
    {moduleName : Option String} (bound : Scopes.bind document moduleName = .ok scopes)
    (unmixed : scopes.Unmixed) :
    ∃ scopes', Scopes.bind document' moduleName = .ok scopes' ∧
      ∀ id site, document.site? id = some site →
        ∃ site', document'.site? (rename id) = some site' ∧ site'.type = site.type ∧
          scopes'.nameAt document' site' = scopes.nameAt document site ∧
          (isClassType site.type = true →
            scopes'.extendedAt? document' site' = scopes.extendedAt? document site) := by
  replace root : Reorders Site.IsStatementBlock rename document.rootSite document'.rootSite :=
    root.of_imp (fun _ member block => blocks.isStatementBlock member block) document.root
      document.rootSite_mem_sites
  obtain ⟨scopes', bound', paired⟩ := root.exists_paired content distinct distinct' bound unmixed
  refine ⟨scopes', bound', fun id site found => ?_⟩
  obtain ⟨site', tied, reorders⟩ := root.exists_tied paired (List.mem_of_find?_eq_some found)
  have known : site'.node.id = rename id := by
    rw [reorders.id_eq, Document.id_of_site? found]
  refine ⟨site', known ▸ distinct'.site?_eq tied.member', tied.type_eq.symm, ?_, ?_⟩
  · exact (reorders.nameAt_eq paired tied).symm
  · exact fun isClass => (reorders.extendedAt?_eq paired tied isClass).symm

namespace Scopes

section

variable (scopes : Scopes) (document : Document)

/-- The node with this id has that name, or none. -/
def Names (id : Nat) (name : Option String) : Prop :=
  ∃ site, document.site? id = some site ∧ scopes.nameAt document site = .ok name

/-- The node with this id is a class that extends what has the given parts. -/
def Extends (id : Nat) (parts : List String) : Prop :=
  ∃ site, document.site? id = some site ∧ isClassType site.type = true ∧
    scopes.extendedAt? document site = some (.ok ⟨parts⟩)

variable {scopes document} {moduleName : Option String} {site base : Site} {id : Nat}

theorem names_of_evaluates (bound : Scopes.bind document moduleName = .ok scopes)
    (found : document.site? id = some site) {answer : Option Symbol}
    (evaluates : scopes.Evaluates document site (.ok answer)) {name : Option String}
    (named : answer.map scopes.qualifiedName = name) : scopes.Names document id name := by
  obtain ⟨listing, groups⟩ := exists_groups bound
  refine ⟨site, found, ?_⟩
  rw [nameAt, groups.symbolAt_of_evaluates evaluates, ← named]
  rfl

theorem extends_of_evaluates (bound : Scopes.bind document moduleName = .ok scopes)
    (found : document.site? id = some site) (isClass : isClassType site.type = true)
    (extended : site.extendsExpression? = some base) {symbol : Symbol}
    (evaluates : scopes.Evaluates document base (.ok (some symbol))) {parts : List String}
    (named : QualifiedName.ofResolved symbol (scopes.qualifiedName symbol) = ⟨parts⟩) :
    scopes.Extends document id parts := by
  obtain ⟨listing, groups⟩ := exists_groups bound
  have given : (base.baseName document (scopes.resolver document)).Gives {}
      (QualifiedName.ofResolved symbol (scopes.qualifiedName symbol)) _ :=
    Site.baseName_gives (groups.symbolAt_of_evaluates evaluates) {}
  refine ⟨site, found, isClass, ?_⟩
  rw [extendedAt?, extended, Option.map_some, ← named]
  exact congrArg (fun result => some result.1) given

end

end Scopes

/-- The tree of `import X = N.K; class D extends X {} namespace N { class K {} var k; }`, where the
statements of the file and of the namespace are arranged somehow. -/
def arrangedFile (arrange : List Node → List Node) : Document where
  content := ("import X = N.K; class D extends X \x7b\x7d " ++
    "namespace N \x7b class K \x7b\x7d var k; \x7d").toUTF8
  root := ⟨⟨0, "program", 0, true, none, 0, 70⟩, arrange [
    ⟨⟨1, "import_alias", 0, true, none, 0, 15⟩, [
      ⟨⟨2, "identifier", 0, true, none, 7, 8⟩, []⟩,
      ⟨⟨3, "nested_identifier", 0, true, none, 11, 14⟩, [
        ⟨⟨4, "identifier", 0, true, some "object", 11, 12⟩, []⟩,
        ⟨⟨5, "property_identifier", 0, true, some "property", 13, 14⟩, []⟩]⟩]⟩,
    ⟨⟨6, "class_declaration", 0, true, none, 16, 36⟩, [
      ⟨⟨7, "type_identifier", 0, true, some "name", 22, 23⟩, []⟩,
      ⟨⟨8, "class_heritage", 0, true, none, 24, 33⟩, [
        ⟨⟨9, "extends_clause", 0, true, none, 24, 33⟩, [
          ⟨⟨10, "identifier", 0, true, some "value", 32, 33⟩, []⟩]⟩]⟩]⟩,
    ⟨⟨11, "internal_module", 0, true, none, 37, 70⟩, [
      ⟨⟨12, "identifier", 0, true, some "name", 47, 48⟩, []⟩,
      ⟨⟨13, "statement_block", 0, true, some "body", 49, 70⟩, arrange [
        ⟨⟨14, "class_declaration", 0, true, none, 51, 61⟩, [
          ⟨⟨15, "type_identifier", 0, true, some "name", 57, 58⟩, []⟩]⟩,
        ⟨⟨16, "variable_declaration", 0, true, none, 62, 68⟩, [
          ⟨⟨17, "variable_declarator", 0, true, none, 66, 67⟩, [
            ⟨⟨18, "identifier", 0, true, some "name", 66, 67⟩, []⟩]⟩]⟩]⟩]⟩]⟩

theorem arrangedFile_reorders : Reorders Site.IsBlock id (arrangedFile id).rootSite
    (arrangedFile List.reverse).rootSite := by
  refine .node rfl rfl (List.reverse_perm _).symm (.inr (.inl rfl))
    (.cons (.kept _ _ _) (.cons (.kept _ _ _) (.cons ?_ .nil)))
  refine .node rfl rfl (.refl _) (.inl rfl) (.cons (.kept _ _ _) (.cons ?_ .nil))
  exact .node rfl rfl (List.reverse_perm _).symm (.inr (Site.isBlock_of_body rfl rfl))
    (.cons (.kept _ _ _) (.cons (.kept _ _ _) .nil))

set_option maxRecDepth 10000 in
/-- Written backwards, the file names and extends the same class through its alias. -/
theorem arrangedFile_resolved : ∃ scopes scopes',
    Scopes.bind (arrangedFile id) (some "m") = .ok scopes ∧ scopes.Unmixed ∧
      Scopes.bind (arrangedFile List.reverse) (some "m") = .ok scopes' ∧
      scopes'.Names (arrangedFile List.reverse) 2 (some "N.K") ∧
      scopes'.Extends (arrangedFile List.reverse) 6 ["N", "K"] := by
  obtain ⟨scopes, bound, unmixed, ⟨short, atShort, name⟩, derived, atDerived, isClass, base⟩ :
      ∃ scopes, Scopes.bind (arrangedFile id) (some "m") = .ok scopes ∧ scopes.Unmixed ∧
        scopes.Names (arrangedFile id) 2 (some "N.K") ∧
        scopes.Extends (arrangedFile id) 6 ["N", "K"] := by
    refine ⟨_, rfl, Scopes.unmixed_of_forest (by decide), ?_, ?_⟩
    · exact Scopes.names_of_evaluates rfl rfl (.identifier rfl rfl
        (.followed rfl (by decide) rfl (.member (.plain rfl) (.plain rfl)))) rfl
    · exact Scopes.extends_of_evaluates rfl rfl rfl rfl (.identifier rfl rfl
        (.followed rfl (by decide) rfl (.member (.plain rfl) (.plain rfl)))) rfl
  have content : (arrangedFile id).content = (arrangedFile List.reverse).content := rfl
  obtain ⟨scopes', bound', same⟩ := resolution_of_reorders content (by decide)
    arrangedFile_reorders (by decide) (by decide) bound unmixed
  obtain ⟨short', atShort', -, name', -⟩ := same 2 short atShort
  obtain ⟨derived', atDerived', type, -, base'⟩ := same 6 derived atDerived
  refine ⟨scopes, scopes', bound, unmixed, bound', ⟨short', atShort', name'.trans name⟩, ?_⟩
  exact ⟨derived', atDerived', type ▸ isClass, (base' isClass).trans base⟩

end SourceOutline
