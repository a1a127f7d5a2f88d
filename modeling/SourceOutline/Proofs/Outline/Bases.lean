import SourceOutline.Proofs.Diagnostics
import SourceOutline.Proofs.Outline.Coupling

/-!
# What a resolver decides

A walk asks its resolver about the base expressions of the visible classes, one after the other
in document order, and about nothing else. The answers go into the names of the bases and into the
diagnostics; which elements there are, what else is said of them and where the walk fails does not
depend on them, as long as the resolver answers. Two resolvers that give the same answers there
cannot be told apart at all.
-/

namespace SourceOutline

/-- Forget which base a class has, but not whether it has one. -/
def Detail.eraseBase : Detail → Detail
  | classLike isAbstract base => classLike isAbstract (base.map fun _ => ⟨[]⟩)
  | detail => detail

def Traits.eraseBase (traits : Traits) : Traits := { traits with detail := traits.detail.eraseBase }

namespace Element

mutual

/-- Forget the names of all bases in an element. -/
def eraseBases : Element → Element
  | ⟨traits, children⟩ => ⟨traits.eraseBase, eraseBasesAll children⟩

def eraseBasesAll : List Element → List Element
  | [] => []
  | element :: elements => eraseBases element :: eraseBasesAll elements

end

theorem eraseBasesAll_append (first second : List Element) :
    eraseBasesAll (first ++ second) = eraseBasesAll first ++ eraseBasesAll second := by
  induction first with
  | nil => rfl
  | cons element elements ih => rw [List.cons_append, eraseBasesAll, eraseBasesAll, ih]; rfl

theorem eraseBasesAll_nest (chain : List Traits) (below : List Element) :
    eraseBasesAll (nest chain below) = nest (chain.map Traits.eraseBase) (eraseBasesAll below) := by
  induction chain with
  | nil => rfl
  | cons traits chain ih =>
      simp only [nest, eraseBasesAll, eraseBases, List.map_cons, ih]

end Element

/-- Forests with the same elements up to the names of bases. -/
def SameUpToBases (forest forest' : List Branch) : Prop :=
  Element.eraseBasesAll (Branch.elementsAll forest) =
    Element.eraseBasesAll (Branch.elementsAll forest')

theorem congruence_sameUpToBases : Branch.Congruence
    (fun chain chain' => chain.map Traits.eraseBase = chain'.map Traits.eraseBase)
    SameUpToBases := by
  constructor
  case nil => rfl
  case append =>
    intro first first' second second' here later
    simp only [SameUpToBases, Branch.elementsAll_append, Element.eraseBasesAll_append]
      at here later ⊢
    rw [here, later]
  case branch =>
    intro site site' chain chain' below below' equal same
    simp only [SameUpToBases, Branch.elementsAll, Branch.elements, List.append_nil,
      Element.eraseBasesAll_nest]
    rw [equal, show Element.eraseBasesAll (Branch.elementsAll below) = _ from same]

namespace Recorded

variable {α β : Type}

/-- Results are compared, whatever the journals hold. -/
abbrev Alike (related : α → β → Prop) (computation : Recorded α) (computation' : Recorded β) :
    Prop :=
  Coupled (fun _ _ => True) related computation computation'

theorem alike_of_succeeds {computation : Recorded α} {computation' : Recorded β}
    (first : computation.Succeeds) (second : computation'.Succeeds) :
    Alike (fun _ _ => True) computation computation' := by
  intro before before' _
  obtain ⟨value, after, given⟩ := first before
  obtain ⟨value', after', given'⟩ := second before'
  rw [given, given']
  exact ⟨.ok trivial, trivial⟩

/-- The computation asks for symbols at these nodes in order. It stops asking when it fails. -/
def Asks (computation : Recorded α) (ids : List Nat) : Prop :=
  ∀ before, ∃ own, (computation.runFrom before).2.lookups = before.lookups ++ own ∧ own <+: ids ∧
    ∀ value after, computation.Gives before value after → own = ids

theorem asks_ofExcept (result : Except Failure α) : Asks (ofExcept result) [] :=
  fun _ => ⟨[], (List.append_nil _).symm, List.prefix_refl _, fun _ _ _ => rfl⟩

theorem asks_pure (value : α) : Asks (pure value : Recorded α) [] := asks_ofExcept (.ok value)

theorem asks_noteLookup (id : Nat) : Asks (noteLookup id) [id] :=
  fun _ => ⟨[id], rfl, List.prefix_refl _, fun _ _ _ => rfl⟩

theorem asks_diagnose (diagnostic : Diagnostic) : Asks (diagnose diagnostic) [] :=
  fun _ => ⟨[], (List.append_nil _).symm, List.prefix_refl _, fun _ _ _ => rfl⟩

theorem Asks.bind {computation : Recorded α} {next : α → Recorded β} {first rest : List Nat}
    (asks : Asks computation first) (others : ∀ value, Asks (next value) rest) :
    Asks (computation >>= next) (first ++ rest) := by
  intro before
  obtain ⟨own, noted, among, all⟩ := asks before
  rcases outcome : computation.runFrom before with ⟨failure | value, middle⟩
  · rw [outcome] at noted
    refine ⟨own, ?_, among.trans (List.prefix_append _ _), ?_⟩
    · rw [runFrom_bind, outcome]
      exact noted
    · intro value after given
      rw [Gives, runFrom_bind, outcome] at given
      cases given
  · rw [outcome] at noted
    obtain rfl := all value middle outcome
    obtain ⟨later, notedLater, amongLater, allLater⟩ := others value middle
    refine ⟨own ++ later, ?_, (List.prefix_append_right_inj _).mpr amongLater, ?_⟩
    · rw [runFrom_bind, outcome]
      exact notedLater.trans (by rw [noted, List.append_assoc])
    · intro final after given
      rw [Gives, runFrom_bind, outcome] at given
      rw [allLater final after given]

theorem asks_map_iff {computation : Recorded α} {ids : List Nat} {f : α → β} :
    Asks (f <$> computation) ids ↔ Asks computation ids := by
  refine forall_congr' fun before => ?_
  simp only [runFrom_map, gives_map_iff]
  refine exists_congr fun own => and_congr_right fun _ => and_congr_right fun _ => ?_
  constructor
  · intro all value after given
    exact all (f value) after ⟨value, given, rfl⟩
  · rintro all _ after ⟨value, given, -⟩
    exact all value after given

section

variable {step : α → Recorded Unit} {ids : α → List Nat}
  (each : ∀ item, Asks (step item) (ids item))

include each

theorem asks_forM (items : List α) : Asks (forM items step) (items.flatMap ids) := by
  induction items with
  | nil => exact asks_pure ()
  | cons item rest ih =>
      rw [List.forM_cons, List.flatMap_cons]
      exact (each item).bind fun _ => ih

/-- Up to the step that fails, every step asks for all it has to ask for. -/
theorem lookups_of_forM_error (additive : ∀ item, Additive (step item)) {items : List α}
    {before after : Journal} {failure : Failure}
    (failed : (forM items step).runFrom before = (.error failure, after)) :
    ∃ earlier item later own, items = earlier ++ item :: later ∧
      (step item).failure? = some failure ∧ own <+: ids item ∧
      after.lookups = before.lookups ++ (earlier.flatMap ids ++ own) := by
  induction items generalizing before with
  | nil => cases failed
  | cons first rest ih =>
      rw [List.forM_cons, runFrom_bind] at failed
      obtain ⟨own, noted, among, all⟩ := each first before
      rcases outcome : (step first).runFrom before with ⟨reason | value, middle⟩
      · rw [outcome] at failed noted
        cases failed
        refine ⟨[], first, rest, own, rfl, ?_, among, noted⟩
        exact ((additive first).uniform.error_iff before).mp (congrArg Prod.fst outcome)
      · rw [outcome] at failed noted
        obtain rfl := all value middle outcome
        obtain ⟨earlier, item, later, own', rfl, reason, among', noted'⟩ := ih failed
        refine ⟨first :: earlier, item, later, own', rfl, reason, among', ?_⟩
        rw [noted', noted, List.flatMap_cons, List.append_assoc, List.append_assoc]

end

theorem coupled_of_eq {computation computation' : Recorded α}
    (same : computation = computation') : Coupled Eq Eq computation computation' := by
  rintro before _ rfl
  rw [same]
  exact ⟨.refl _, rfl⟩

theorem eq_of_coupled {computation computation' : Recorded α}
    (coupled : Coupled Eq Eq computation computation') : computation = computation' := by
  funext before
  obtain ⟨agree, after⟩ := coupled before before rfl
  exact Prod.ext agree.eq after

end Recorded

/-- The base expression of a class. -/
def Site.baseExpression? (site : Site) : Option Site :=
  if isClassType site.type then site.extendsExpression? else none

/-- The base expressions of the visible classes in document order. -/
def Document.baseExpressions (document : Document) : List Site :=
  document.visibleSites.filterMap Site.baseExpression?

/-- The nodes at which a walk asks for a symbol because of a site. -/
def Site.lookups (site : Site) : List Nat :=
  site.baseExpression?.toList.map fun expression => expression.node.id

theorem Document.flatMap_lookups (sites : List Site) :
    sites.flatMap Site.lookups =
      (sites.filterMap Site.baseExpression?).map fun expression => expression.node.id := by
  induction sites with
  | nil => rfl
  | cons site sites ih =>
      rw [List.flatMap_cons, ih, List.filterMap_cons, Site.lookups]
      cases site.baseExpression? <;> rfl

namespace Site

variable {document : Document} {resolver : Resolver} {site : Site}

theorem asks_baseName : (site.baseName document resolver).Asks [site.node.id] := by
  refine (Recorded.asks_noteLookup site.node.id).bind fun _ => ?_
  refine (Recorded.asks_ofExcept _).bind fun found => ?_
  cases found with
  | some symbol => exact Recorded.asks_pure _
  | none =>
      refine (Recorded.asks_ofExcept _).bind fun text => ?_
      exact (Recorded.asks_diagnose _).bind fun _ => Recorded.asks_pure _

theorem asks_classTraits :
    (site.classTraits document resolver).Asks
      (site.extendsExpression?.toList.map fun expression => expression.node.id) := by
  refine (Recorded.asks_ofExcept _).bind fun node => ?_
  refine (Recorded.asks_ofExcept _).bind fun name => ?_
  refine (Recorded.asks_ofExcept _).bind fun visibility => ?_
  refine (Recorded.asks_ofExcept _).bind fun isAbstract => ?_
  cases site.extendsExpression? with
  | none => exact (Recorded.asks_pure _).bind fun _ => Recorded.asks_pure _
  | some expression =>
      exact (Recorded.asks_map_iff.mpr asks_baseName).bind fun _ => Recorded.asks_pure _

theorem lookups_of_class (type : isClassType site.type = true) :
    site.lookups = site.extendsExpression?.toList.map fun expression => expression.node.id := by
  rw [lookups, baseExpression?, if_pos type]

theorem lookups_of_other (type : ¬ isClassType site.type = true) : site.lookups = [] := by
  rw [lookups, baseExpression?, if_neg type]
  rfl

/-- The kind of a classified site is that of a class exactly if its type is. -/
theorem isClassType_iff {kind : DeclarationKind}
    (classified : site.classify document = .ok (some kind)) :
    isClassType site.type = true ↔ kind = .classLike := by
  constructor
  · intro type
    have known := (classify_class type).symm.trans classified
    cases known
    rfl
  · rintro rfl
    exact fits_of_classify classified

/-- Nothing but the base of a class is looked up at a node. -/
theorem asks_inspect : (site.inspect document resolver).Asks site.lookups := by
  by_cases type : isClassType site.type = true
  · rw [inspect_of_classified (classify_class type), lookups_of_class type, ← List.append_nil
      (List.map _ _)]
    exact Recorded.asks_map_iff.mpr (asks_classTraits.bind fun _ => Recorded.asks_pure _)
  · rw [lookups_of_other type]
    cases classified : site.classify document with
    | error failure =>
        rw [inspect_of_error classified]
        exact Recorded.asks_ofExcept _
    | ok kind? =>
        cases kind? with
        | none =>
            rw [inspect_of_unclassified classified]
            exact Recorded.asks_pure _
        | some kind =>
            have other : kind ≠ .classLike :=
              fun same => type ((isClassType_iff classified).mpr same)
            obtain ⟨result, reads⟩ := site.contribution_of_ne document other
            rw [inspect_of_classified classified, reads]
            exact Recorded.asks_map_iff.mpr (Recorded.asks_ofExcept result)

end Site

variable {document : Document} {resolver resolver' : Resolver}

/-- What a walk notes about lookups is what its visible nodes note. -/
theorem runFrom_collect (document : Document) (resolver : Resolver) (path : String)
    (before : Journal) :
    ((collect document path resolver).runFrom before).1.map (fun _ => ()) =
        ((forM document.visibleSites (Site.inspect document resolver)).runFrom before).1 ∧
      ((collect document path resolver).runFrom before).2.lookups =
        ((forM document.visibleSites
          (Site.inspect document resolver)).runFrom before).2.lookups := by
  rw [← outline_root_inspects, collect_eq_outline, Recorded.runFrom_bind, Recorded.runFrom_map]
  rcases (outline document resolver [] document.root).runFrom before with ⟨_ | forest, middle⟩
  · exact ⟨rfl, rfl⟩
  · exact ⟨rfl, rfl⟩

/-- Visible nodes that contribute related chains make related outlines. -/
theorem outline_coupled_of_visible {linked : Journal → Journal → Prop}
    {chained : List Traits → List Traits → Prop} {related : List Branch → List Branch → Prop}
    (congruence : Branch.Congruence chained related)
    (contributes : ∀ site ∈ document.visibleSites, ∀ kind,
      site.classify document = .ok (some kind) → Recorded.Coupled linked chained
        (site.contribution document resolver kind) (site.contribution document resolver' kind))
    (node : Node) {ancestors : List Node}
    (visible : (⟨node, ancestors⟩ : Site) ∈ document.visibleSites) :
    Recorded.Coupled linked related (outline document resolver ancestors node)
      (outline document resolver' ancestors node) := by
  obtain ⟨member, seen⟩ := List.mem_filter.mp visible
  refine outline_coupled congruence ⟨node, ancestors⟩ ⟨node, ancestors⟩ rfl
    (contributes _ visible) fun inner => outlineAll_coupled congruence ?_
  refine List.forall₂_same.mpr fun child below => ?_
  refine outline_coupled_of_visible congruence contributes child ?_
  exact List.mem_filter.mpr ⟨Document.mem_sites_below member below, Site.isVisible_below seen inner⟩
  termination_by node.size
  decreasing_by exact Node.size_lt_of_mem below

theorem Document.rootSite_mem_visibleSites : document.rootSite ∈ document.visibleSites :=
  List.mem_filter.mpr ⟨document.rootSite_mem_sites, rfl⟩

namespace Resolver

/-- Both resolvers give the same answer for an expression. -/
def SameAnswer (resolver resolver' : Resolver) (expression : Site) : Prop :=
  resolver.symbolAt expression = resolver'.symbolAt expression ∧
    ∀ symbol, resolver.symbolAt expression = .ok (some symbol) →
      resolver.qualifiedName symbol = resolver'.qualifiedName symbol

theorem SameAnswer.baseName_eq {expression : Site}
    (same : resolver.SameAnswer resolver' expression) :
    expression.baseName document resolver = expression.baseName document resolver' := by
  rw [Site.baseName, Site.baseName, ← same.1]
  cases answered : resolver.symbolAt expression with
  | error failure => rfl
  | ok answer =>
      cases answer with
      | none => rfl
      | some symbol =>
          change (Recorded.noteLookup _ >>= fun _ => pure (QualifiedName.ofResolved symbol _)) = _
          rw [same.2 symbol answered]
          rfl

end Resolver

namespace Site

variable {site : Site}

theorem classTraits_alike
    (answered : ∀ expression ∈ site.extendsExpression?, Defined (document.text expression.node) ∧
      Defined (resolver.symbolAt expression) ∧ Defined (resolver'.symbolAt expression)) :
    Recorded.Alike (fun traits traits' => traits.eraseBase = traits'.eraseBase)
      (site.classTraits document resolver) (site.classTraits document resolver') := by
  have step {α : Type} (result : Except Failure α) :
      Recorded.Alike Eq (Recorded.ofExcept result) (Recorded.ofExcept result) :=
    Recorded.coupled_ofExcept (.refl result)
  refine (step _).bind ?_
  rintro node _ rfl
  refine (step _).bind ?_
  rintro name _ rfl
  refine (step _).bind ?_
  rintro visibility _ rfl
  refine (step _).bind ?_
  rintro isAbstract _ rfl
  cases found : site.extendsExpression? with
  | none => exact fun _ _ _ => ⟨.ok rfl, trivial⟩
  | some expression =>
      obtain ⟨readable, first, second⟩ := answered expression found
      have bases := Recorded.alike_of_succeeds (succeeds_baseName first readable)
        (succeeds_baseName second readable)
      simp only [bind_map_left]
      exact bases.bind fun base base' _ => Recorded.coupled_pure rfl

/-- The names of the bases are all that depends on a resolver that answers. -/
theorem contribution_alike {kind : DeclarationKind}
    (classified : site.classify document = .ok (some kind))
    (answered : ∀ expression ∈ site.baseExpression?, Defined (document.text expression.node) ∧
      Defined (resolver.symbolAt expression) ∧ Defined (resolver'.symbolAt expression)) :
    Recorded.Alike
      (fun chain chain' => chain.map Traits.eraseBase = chain'.map Traits.eraseBase)
      (site.contribution document resolver kind) (site.contribution document resolver' kind) := by
  by_cases isClass : kind = .classLike
  · subst isClass
    rw [baseExpression?, if_pos ((isClassType_iff classified).mpr rfl)] at answered
    refine (classTraits_alike answered).bind fun traits traits' same => ?_
    exact Recorded.coupled_pure (congrArg (fun traits => [traits]) same)
  · obtain ⟨result, reads⟩ := site.contribution_of_ne document isClass
    rw [reads, reads]
    exact Recorded.coupled_ofExcept (.of_map_eq rfl)

/-- A node contributes the same if the answers for its base are the same. -/
theorem contribution_eq_of_sameAnswer {kind : DeclarationKind}
    (classified : site.classify document = .ok (some kind))
    (same : ∀ expression ∈ site.baseExpression?, resolver.SameAnswer resolver' expression) :
    site.contribution document resolver kind = site.contribution document resolver' kind := by
  by_cases isClass : kind = .classLike
  · subst isClass
    rw [baseExpression?, if_pos ((isClassType_iff classified).mpr rfl)] at same
    have traits : site.classTraits document resolver = site.classTraits document resolver' := by
      rw [classTraits, classTraits]
      cases found : site.extendsExpression? with
      | none => rfl
      | some expression => simp only [(same expression found).baseName_eq]
    simp only [contribution, traits]
  · obtain ⟨result, reads⟩ := site.contribution_of_ne document isClass
    rw [reads, reads]

end Site

/-- The modules that two resolvers give differ in the names of bases only. -/
theorem collect_alike (path : String)
    (answered : ∀ expression ∈ document.baseExpressions, Defined (document.text expression.node) ∧
      Defined (resolver.symbolAt expression) ∧ Defined (resolver'.symbolAt expression)) :
    Recorded.Alike
      (fun collected collected' => (collected.1.view collected.2).eraseBases =
        (collected'.1.view collected'.2).eraseBases)
      (collect document path resolver) (collect document path resolver') := by
  have outlined : Recorded.Alike SameUpToBases (outline document resolver [] document.root)
      (outline document resolver' [] document.root) := by
    refine outline_coupled_of_visible congruence_sameUpToBases ?_ document.root
      Document.rootSite_mem_visibleSites
    intro site visible kind classified
    refine Site.contribution_alike classified fun expression found => ?_
    exact answered expression (List.mem_filterMap.mpr ⟨site, visible, found⟩)
  rw [collect_eq_outline, collect_eq_outline]
  refine outlined.bind fun forest forest' same _ _ _ => ⟨.ok ?_, trivial⟩
  rw [Registry.view_rooted, Registry.view_rooted, Element.eraseBases, Element.eraseBases, same]

theorem lookups_of_collect {path : String} {before after : Journal} {collected : Registry × Nat}
    (given : (collect document path resolver).Gives before collected after) :
    after.lookups = before.lookups ++
      document.baseExpressions.map fun expression => expression.node.id := by
  obtain ⟨outcome, noted⟩ := runFrom_collect document resolver path before
  rw [given] at outcome noted
  obtain ⟨own, asked, -, all⟩ := Recorded.asks_forM (fun _ => Site.asks_inspect)
    document.visibleSites before
  rw [← noted] at asked
  rw [asked, all () _ (Prod.ext outcome.symm rfl), Document.flatMap_lookups]
  rfl

theorem lookups_of_collect_error {path : String} {before after : Journal} {failure : Failure}
    (failed : (collect document path resolver).runFrom before = (.error failure, after)) :
    ∃ earlier site later own, document.visibleSites = earlier ++ site :: later ∧
      site.failure? document resolver = some failure ∧ own <+: site.lookups ∧
      after.lookups = before.lookups ++ (earlier.flatMap Site.lookups ++ own) := by
  obtain ⟨outcome, noted⟩ := runFrom_collect document resolver path before
  rw [failed] at outcome noted
  obtain ⟨earlier, site, later, own, split, reason, among, asked⟩ :=
    Recorded.lookups_of_forM_error (fun _ => Site.asks_inspect)
      (Site.additive_inspect document resolver) (Prod.ext outcome.symm rfl)
  refine ⟨earlier, site, later, own, split, ?_, among, noted.trans asked⟩
  rwa [← Site.failure?_inspect]

theorem collect_eq_of_sameAnswer (path : String)
    (same : ∀ expression ∈ document.baseExpressions, resolver.SameAnswer resolver' expression) :
    collect document path resolver = collect document path resolver' := by
  have outlined : Recorded.Coupled Eq SameElements (outline document resolver [] document.root)
      (outline document resolver' [] document.root) := by
    refine outline_coupled_of_visible congruence_sameElements ?_ document.root
      Document.rootSite_mem_visibleSites
    intro site visible kind classified
    apply Recorded.coupled_of_eq
    refine Site.contribution_eq_of_sameAnswer classified fun expression found => ?_
    exact same expression (List.mem_filterMap.mpr ⟨site, visible, found⟩)
  rw [collect_eq_outline, collect_eq_outline]
  apply Recorded.eq_of_coupled
  refine outlined.bind fun forest forest' equal => Recorded.coupled_of_eq ?_
  rw [show Branch.elementsAll forest = _ from equal]

/-- The resolver can only influence the names of bases. Of a tree whose base expressions can be
read, two resolvers that answer give modules that are equal up to these names, or the same
failure. Whatever the resolver, a walk that succeeds asks exactly once for each base expression
of a visible class, in document order; a walk that fails has asked for all of them at the nodes
before the one that fails. No other answer plays a part: resolvers that agree on the base
expressions are walked with in the same way. -/
theorem collect_of_resolver (document : Document) (path : String) :
    (∀ resolver resolver' : Resolver,
      (∀ expression ∈ document.baseExpressions, Defined (document.text expression.node)) →
      (∀ expression ∈ document.baseExpressions, Defined (resolver.symbolAt expression)) →
      (∀ expression ∈ document.baseExpressions, Defined (resolver'.symbolAt expression)) →
      ∀ before before',
        ((collect document path resolver).runFrom before).1.map
            (fun collected => (collected.1.view collected.2).eraseBases) =
          ((collect document path resolver').runFrom before').1.map
            (fun collected => (collected.1.view collected.2).eraseBases)) ∧
    (∀ resolver before collected after,
      (collect document path resolver).Gives before collected after →
        after.lookups = before.lookups ++
          document.baseExpressions.map fun expression => expression.node.id) ∧
    (∀ resolver before failure after,
      (collect document path resolver).runFrom before = (.error failure, after) →
        ∃ earlier site later own, document.visibleSites = earlier ++ site :: later ∧
          site.failure? document resolver = some failure ∧ own <+: site.lookups ∧
          after.lookups = before.lookups ++ (earlier.flatMap Site.lookups ++ own)) ∧
    ∀ resolver resolver' : Resolver,
      (∀ expression ∈ document.baseExpressions, resolver.SameAnswer resolver' expression) →
        collect document path resolver = collect document path resolver' := by
  refine ⟨?_, ?_, ?_, ?_⟩
  · intro resolver resolver' readable answers answers' before before'
    have alike := collect_alike path fun expression among =>
      ⟨readable expression among, answers expression among, answers' expression among⟩
    exact (alike before before' trivial).1.map_eq fun _ _ same => same
  · intro resolver before collected after given
    exact lookups_of_collect given
  · intro resolver before failure after failed
    exact lookups_of_collect_error failed
  · intro resolver resolver' same
    exact collect_eq_of_sameAnswer path same

/-- A resolver that gives the same answer everywhere. -/
def Resolver.constant (answer : Except Failure (Option Symbol)) : Resolver where
  symbolAt := fun _ => answer
  qualifiedName := Symbol.name

set_option maxRecDepth 10000 in
/-- The computed base of the second class is named by one resolver and unknown to the other, and
both are asked for it once. A resolver that fails there fails the walk. -/
theorem computedBase_asks : ∃ named asked unknown asked' failed,
    (collect computedBase "a.ts" (.constant (.ok (some ⟨"B", [], [], []⟩)))).Gives {} named asked ∧
      (collect computedBase "a.ts" .silent).Gives {} unknown asked' ∧
      named.1.view named.2 ≠ unknown.1.view unknown.2 ∧
      (named.1.view named.2).eraseBases = (unknown.1.view unknown.2).eraseBases ∧
      asked.lookups = [7] ∧ asked'.lookups = [7] ∧
      (collect computedBase "a.ts" (.constant (.error .noNamedChild))).runFrom {} =
        (.error .noNamedChild, failed) ∧
      ∃ earlier site later own, computedBase.visibleSites = earlier ++ site :: later ∧
        own <+: site.lookups ∧ failed.lookups = earlier.flatMap Site.lookups ++ own := by
  obtain ⟨named, asked, unknown, asked', failed, given, given', different, stops⟩ :
      ∃ named asked unknown asked' failed,
        (collect computedBase "a.ts" (.constant (.ok (some ⟨"B", [], [], []⟩)))).Gives {} named
          asked ∧
        (collect computedBase "a.ts" .silent).Gives {} unknown asked' ∧
        named.1.view named.2 ≠ unknown.1.view unknown.2 ∧
        (collect computedBase "a.ts" (.constant (.error .noNamedChild))).runFrom {} =
          (.error .noNamedChild, failed) := by
    simp only [collect_eq_outline]
    exact ⟨_, _, _, _, _, rfl, rfl, by decide +kernel, rfl⟩
  obtain ⟨alike, asks, fails, -⟩ := collect_of_resolver computedBase "a.ts"
  have readable : ∀ expression ∈ computedBase.baseExpressions,
      Defined (computedBase.text expression.node) := by decide +kernel
  have erased := alike (.constant (.ok (some ⟨"B", [], [], []⟩))) .silent readable
    (fun _ _ => defined_ok _) (fun _ _ => defined_ok _) {} {}
  rw [given, given'] at erased
  obtain ⟨earlier, site, later, own, split, -, among, noted⟩ := fails _ _ _ _ stops
  refine ⟨named, asked, unknown, asked', failed, given, given', different, Except.ok.inj erased,
    ?_, ?_, stops, earlier, site, later, own, split, among, noted⟩
  · rw [asks _ _ _ _ given]
    decide +kernel
  · rw [asks _ _ _ _ given']
    decide +kernel

end SourceOutline
