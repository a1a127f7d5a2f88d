import SourceOutline.Proofs.Scope.Standing

/-!
# Following aliases

`Leads` is what an alias means, without any bookkeeping: an alias is replaced by the symbol
that its target starts with, the rest of the target is put in front of the members still to
be taken, and members are taken from symbols that are no aliases. The derivation keeps the
trail of the aliases it follows.

The machine that follows aliases strikes every alias it has followed. So it finds exactly the
symbols that are reached along a trail without repetition; on every other input it stops
without a result, whether the aliases form a circle or merely meet twice.
-/

namespace SourceOutline

namespace Scopes

/-- Taking the pending members of a symbol, with every alias on the way replaced by its
target, leads to a symbol that is no alias. The trail lists the aliases in order. -/
inductive Leads (scopes : Scopes) :
    Symbol → (pending : List String) → (trail : List (List String)) → Symbol → Prop
  | arrived {symbol : Symbol} (plain : symbol.alias? = none) : Leads scopes symbol [] [] symbol
  | member {symbol next result : Symbol} {name : String} {names : List String}
      {trail : List (List String)} (plain : symbol.alias? = none)
      (found : symbol.member? name = some next) (onward : Leads scopes next names trail result) :
      Leads scopes symbol (name :: names) trail result
  | replaced {symbol start result : Symbol} {target first : String} {site : Site}
      {rest pending : List String} {trail : List (List String)}
      (stands : symbol.alias? = some (target, site))
      (split : Text.segments '.' target = first :: rest)
      (found : scopes.lookup (scopes.enclosing site.ancestors) first = some start)
      (onward : Leads scopes start (rest ++ pending) trail result) :
      Leads scopes symbol pending (symbol.path :: trail) result

variable {scopes : Scopes} {listing : Listing}

/-- What is reached is no alias. -/
theorem Leads.plain {symbol result : Symbol} {pending : List String} {trail : List (List String)}
    (leads : scopes.Leads symbol pending trail result) : result.alias? = none := by
  induction leads with
  | arrived plain => exact plain
  | member _ _ _ ih => exact ih
  | replaced _ _ _ _ ih => exact ih

/-- Members can be taken in two runs: the first ends at a symbol that is no alias, and the
second goes on from there. -/
theorem Leads.append {symbol middle result : Symbol} {names pending : List String}
    {trail trail' : List (List String)} (first : scopes.Leads symbol names trail middle)
    (second : scopes.Leads middle pending trail' result) :
    scopes.Leads symbol (names ++ pending) (trail ++ trail') result := by
  induction first with
  | arrived _ => exact second
  | member plain found _ ih => exact .member plain found (ih second)
  | replaced stands split found _ ih =>
      have onward := ih second
      rw [List.append_assoc] at onward
      exact .replaced stands split found onward

theorem Leads.exists_split {symbol result : Symbol} {names pending : List String}
    {trail : List (List String)} (leads : scopes.Leads symbol (names ++ pending) trail result) :
    ∃ middle first second, trail = first ++ second ∧ scopes.Leads symbol names first middle ∧
      scopes.Leads middle pending second result := by
  generalize taken : names ++ pending = all at leads
  induction leads generalizing names with
  | arrived plain =>
      obtain ⟨rfl, rfl⟩ := List.append_eq_nil_iff.mp taken
      exact ⟨_, [], [], rfl, .arrived plain, .arrived plain⟩
  | @member symbol next result name _ trail plain found onward ih =>
      cases names with
      | nil =>
          have whole : pending = name :: _ := taken
          rw [whole]
          exact ⟨symbol, [], trail, rfl, .arrived plain, .member plain found onward⟩
      | cons first names =>
          cases taken
          obtain ⟨middle, before, after, rfl, leads, rest⟩ := ih rfl
          exact ⟨middle, before, after, rfl, .member plain found leads, rest⟩
  | replaced stands split found _ ih =>
      subst taken
      obtain ⟨middle, before, after, rfl, leads, rest⟩ := ih (List.append_assoc _ _ _)
      exact ⟨middle, _, after, rfl, .replaced stands split found leads, rest⟩

namespace Groups

/-- Whatever is reached from a standing symbol stands, and the trail consists of aliases of
the file. -/
theorem stands_of_leads (groups : scopes.Groups listing) {symbol result : Symbol}
    {pending : List String} {trail : List (List String)}
    (leads : scopes.Leads symbol pending trail result) (stands : scopes.Stands symbol) :
    scopes.Stands result ∧ trail ⊆ Symbol.aliasPathsAll scopes.globals := by
  induction leads with
  | arrived _ => exact ⟨stands, List.nil_subset _⟩
  | member _ found _ ih => exact ih (groups.stands_member stands found).2
  | replaced isAlias _ found _ ih =>
      obtain ⟨arrived, among⟩ := ih (groups.stands_lookup found)
      have listed := stands.mem_aliasPaths (by rw [isAlias]; rfl)
      exact ⟨arrived, List.cons_subset.mpr ⟨listed, among⟩⟩

end Groups

/-- An alias is followed if it has not been struck. -/
theorem chase_alias {symbol : Symbol} {target first : String} {site : Site}
    {rest pending : List String} {unfollowed : List (List String)}
    (isAlias : symbol.alias? = some (target, site))
    (split : Text.segments '.' target = first :: rest) (fresh : symbol.path ∈ unfollowed) :
    scopes.chase (some symbol) pending unfollowed =
      scopes.chase (scopes.lookup (scopes.enclosing site.ancestors) first) (rest ++ pending)
        (unfollowed.erase symbol.path) := by
  rw [chase.eq_def]
  simp only [isAlias, fresh, split, dite_true]

theorem chase_struck {symbol : Symbol} {stands : String × Site} {pending : List String}
    {unfollowed : List (List String)} (isAlias : symbol.alias? = some stands)
    (struck : symbol.path ∉ unfollowed) :
    scopes.chase (some symbol) pending unfollowed = none := by
  rw [chase.eq_def]
  simp only [isAlias, struck, dite_false]

theorem chase_arrived {symbol : Symbol} {unfollowed : List (List String)}
    (plain : symbol.alias? = none) : scopes.chase (some symbol) [] unfollowed = some symbol := by
  rw [chase]
  simp only [plain]

theorem chase_member {symbol : Symbol} {name : String} {names : List String}
    {unfollowed : List (List String)} (plain : symbol.alias? = none) :
    scopes.chase (some symbol) (name :: names) unfollowed =
      scopes.chase (symbol.member? name) names unfollowed := by
  rw [chase]
  simp only [plain]

theorem chase_none (pending : List String) (unfollowed : List (List String)) :
    scopes.chase none pending unfollowed = none := by
  rw [chase]

/-- The machine only finds what the aliases lead to, and strikes the trail on its way. -/
theorem leads_of_chase {start : Option Symbol} {pending : List String}
    {unfollowed : List (List String)} (distinct : unfollowed.Nodup) {result : Symbol}
    (found : scopes.chase start pending unfollowed = some result) :
    ∃ symbol trail, start = some symbol ∧ scopes.Leads symbol pending trail result ∧
      trail.Nodup ∧ trail ⊆ unfollowed := by
  induction start, pending, unfollowed using chase.induct scopes with
  | case1 pending unfollowed =>
      rw [chase_none] at found
      cases found
  | case2 pending unfollowed symbol target site isAlias fresh split =>
      exact absurd split (Text.segments_ne_nil '.' target)
  | case3 pending unfollowed symbol target site isAlias fresh first rest split ih =>
      rw [chase_alias isAlias split fresh] at found
      obtain ⟨start, trail, looked, leads, once, among⟩ := ih (distinct.erase _) found
      refine ⟨symbol, symbol.path :: trail, rfl, .replaced isAlias split looked leads, ?_, ?_⟩
      · refine List.nodup_cons.mpr ⟨fun again => ?_, once⟩
        exact distinct.not_mem_erase (among again)
      · refine List.cons_subset.mpr ⟨fresh, fun path member => ?_⟩
        exact List.mem_of_mem_erase (among member)
  | case4 pending unfollowed symbol target site isAlias struck =>
      rw [chase_struck isAlias struck] at found
      cases found
  | case5 unfollowed symbol plain =>
      rw [chase_arrived plain] at found
      obtain rfl := Option.some.inj found
      exact ⟨symbol, [], rfl, .arrived plain, List.nodup_nil, List.nil_subset _⟩
  | case6 unfollowed symbol plain name names ih =>
      rw [chase_member plain] at found
      obtain ⟨next, trail, taken, leads, once, among⟩ := ih distinct found
      exact ⟨symbol, trail, rfl, .member plain taken leads, once, among⟩

/-- The machine finds whatever the aliases lead to along a trail that it may follow. -/
theorem chase_of_leads {symbol result : Symbol} {pending : List String}
    {trail : List (List String)} (leads : scopes.Leads symbol pending trail result)
    {unfollowed : List (List String)} (once : trail.Nodup) (among : trail ⊆ unfollowed) :
    scopes.chase (some symbol) pending unfollowed = some result := by
  induction leads generalizing unfollowed with
  | arrived plain => exact chase_arrived plain
  | member plain found _ ih =>
      rw [chase_member plain, found]
      exact ih once among
  | replaced isAlias split found _ ih =>
      obtain ⟨fresh, others⟩ := List.cons_subset.mp among
      obtain ⟨new, once⟩ := List.nodup_cons.mp once
      rw [chase_alias isAlias split fresh, found]
      refine ih once fun path member => (List.mem_erase_of_ne ?_).mpr (others member)
      rintro rfl
      exact new member

namespace Groups

/-- A symbol stands for another one exactly if aliases lead there and none of them is met
twice. -/
theorem resolve_eq_some_iff (groups : scopes.Groups listing) {start : Option Symbol}
    {result : Symbol} (stands : ∀ symbol ∈ start, scopes.Stands symbol) :
    scopes.resolve start = some result ↔
      ∃ symbol trail, start = some symbol ∧ scopes.Leads symbol [] trail result ∧
        trail.Nodup := by
  constructor
  · intro found
    obtain ⟨symbol, trail, same, leads, once, -⟩ := leads_of_chase groups.nodup_aliases found
    exact ⟨symbol, trail, same, leads, once⟩
  · rintro ⟨symbol, trail, rfl, leads, once⟩
    exact chase_of_leads leads once (groups.stands_of_leads leads (stands symbol rfl)).2

end Groups

end Scopes

end SourceOutline
