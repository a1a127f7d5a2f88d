import SourceOutline.Proofs.Scope.Aliases

/-!
# Following aliases by recursion

An alias is resolved by a recursion with one set of the aliases seen so far. The recursion
calls itself for every name of a dotted target and once more at its end, and all these calls
read and enlarge the same set. `Pursuit` is that recursion as a relation: a derivation is a
finished call, with the set before and after it.

Every call finishes. An alias that is followed leaves the aliases not yet seen, the calls
inside never give any back, and a file has finitely many. What a call returns is what the
machine `chase` finds, which keeps the pending names in a list and strikes aliases instead.
-/

namespace SourceOutline

namespace Scopes

/-- Resolve a symbol, take members of what it stands for and resolve each of them, sharing
the set of aliases seen. Without names this is resolving alone. -/
inductive Pursuit (scopes : Scopes) :
    (seen : List (List String)) → Option Symbol → (names : List String) →
      (after : List (List String)) → Option Symbol → Prop
  | absent {seen : List (List String)} : Pursuit scopes seen none [] seen none
  | plain {seen : List (List String)} {symbol : Symbol} (plain : symbol.alias? = none) :
      Pursuit scopes seen (some symbol) [] seen (some symbol)
  | again {seen : List (List String)} {symbol : Symbol} {stands : String × Site}
      (isAlias : symbol.alias? = some stands) (met : symbol.path ∈ seen) :
      Pursuit scopes seen (some symbol) [] seen none
  | followed {seen after : List (List String)} {symbol : Symbol} {target first : String}
      {site : Site} {rest : List String} {result : Option Symbol}
      (isAlias : symbol.alias? = some (target, site)) (new : symbol.path ∉ seen)
      (split : Text.segments '.' target = first :: rest)
      (inner : Pursuit scopes (symbol.path :: seen)
        (scopes.lookup (scopes.enclosing site.ancestors) first) rest after result) :
      Pursuit scopes seen (some symbol) [] after result
  | lost {seen after : List (List String)} {symbol : Option Symbol} {name : String}
      {names : List String} (resolved : Pursuit scopes seen symbol [] after none) :
      Pursuit scopes seen symbol (name :: names) after none
  | member {seen middle after : List (List String)} {symbol result : Option Symbol}
      {owner : Symbol} {name : String} {names : List String}
      (resolved : Pursuit scopes seen symbol [] middle (some owner))
      (onward : Pursuit scopes middle (owner.member? name) names after result) :
      Pursuit scopes seen symbol (name :: names) after result

variable {scopes : Scopes} {listing : Listing} {seen after : List (List String)}
  {symbol result : Option Symbol} {names : List String}

namespace Pursuit

/-- The set of aliases seen only grows. -/
theorem grows (pursuit : scopes.Pursuit seen symbol names after result) : seen ⊆ after := by
  induction pursuit with
  | absent => exact List.Subset.refl _
  | plain _ => exact List.Subset.refl _
  | again _ _ => exact List.Subset.refl _
  | followed _ _ _ _ ih => exact List.Subset.trans (List.subset_cons_self _ _) ih
  | lost _ ih => exact ih
  | member _ _ first rest => exact List.Subset.trans first rest

theorem result_plain (pursuit : scopes.Pursuit seen symbol names after result) :
    ∀ found ∈ result, found.alias? = none := by
  induction pursuit with
  | absent => exact nofun
  | plain plain =>
      rintro _ ⟨⟩
      exact plain
  | again _ _ => exact nofun
  | followed _ _ _ _ ih => exact ih
  | lost _ _ => exact nofun
  | member _ _ _ ih => exact ih

/-- Pursuit keeps to symbols that stand at their paths. -/
theorem result_stands (groups : scopes.Groups listing)
    (pursuit : scopes.Pursuit seen symbol names after result)
    (stands : ∀ start ∈ symbol, scopes.Stands start) : ∀ found ∈ result, scopes.Stands found := by
  induction pursuit with
  | absent => exact nofun
  | plain _ => exact stands
  | again _ _ => exact nofun
  | followed _ _ _ _ ih => exact ih fun start found => groups.stands_lookup found
  | lost _ _ => exact nofun
  | member _ _ first rest =>
      refine rest fun start found => ?_
      exact (groups.stands_member (first stands _ rfl) found).2

end Pursuit

/-- The aliases of a file that are not among those seen. -/
def unseen (scopes : Scopes) (seen : List (List String)) : List (List String) :=
  (Symbol.aliasPathsAll scopes.globals).filter fun path => !seen.contains path

theorem unseen_nil : scopes.unseen [] = Symbol.aliasPathsAll scopes.globals := by
  simp [unseen]

theorem mem_unseen {path : List String} :
    path ∈ scopes.unseen seen ↔
      path ∈ Symbol.aliasPathsAll scopes.globals ∧ path ∉ seen := by
  simp [unseen]

/-- The measure of the recursion: seeing more leaves no more unseen. -/
theorem length_unseen_le (more : seen ⊆ after) :
    (scopes.unseen after).length ≤ (scopes.unseen seen).length := by
  rw [unseen, unseen, ← List.countP_eq_length_filter, ← List.countP_eq_length_filter]
  refine List.countP_mono_left fun path _ fresh => ?_
  simp only [Bool.not_eq_eq_eq_not, Bool.not_true, List.contains_eq_mem,
    decide_eq_false_iff_not] at fresh ⊢
  exact fun earlier => fresh (more earlier)

namespace Groups

theorem unseen_cons (groups : scopes.Groups listing) (path : List String) :
    scopes.unseen (path :: seen) = (scopes.unseen seen).erase path := by
  have distinct : (scopes.unseen seen).Nodup := groups.nodup_aliases.filter _
  rw [distinct.erase_eq_filter, unseen, unseen, List.filter_filter]
  refine List.filter_congr fun other _ => ?_
  by_cases same : other = path <;> simp [same]

/-- Following a new alias leaves fewer unseen. -/
theorem length_unseen_lt (groups : scopes.Groups listing) {path : List String}
    (fresh : path ∈ scopes.unseen seen) :
    (scopes.unseen (path :: seen)).length < (scopes.unseen seen).length := by
  rw [groups.unseen_cons, List.length_erase_of_mem fresh]
  exact Nat.sub_lt (List.length_pos_of_mem fresh) Nat.one_pos

/-- The loop over the names of a target finishes if the resolving calls inside do. -/
theorem exists_pursuit_of_resolving (groups : scopes.Groups listing) {bound : Nat}
    (resolving : ∀ seen symbol, (scopes.unseen seen).length ≤ bound →
      (∀ start ∈ symbol, scopes.Stands start) →
      ∃ after result, scopes.Pursuit seen symbol [] after result)
    (names : List String) (seen : List (List String)) (symbol : Option Symbol)
    (within : (scopes.unseen seen).length ≤ bound)
    (stands : ∀ start ∈ symbol, scopes.Stands start) :
    ∃ after result, scopes.Pursuit seen symbol names after result := by
  induction names generalizing seen symbol with
  | nil => exact resolving seen symbol within stands
  | cons name names ih =>
      obtain ⟨middle, owner, resolved⟩ := resolving seen symbol within stands
      cases owner with
      | none => exact ⟨middle, none, .lost resolved⟩
      | some owner =>
          have fewer : (scopes.unseen middle).length ≤ (scopes.unseen seen).length :=
            length_unseen_le resolved.grows
          have owned := resolved.result_stands groups stands owner rfl
          obtain ⟨after, result, onward⟩ := ih middle (owner.member? name)
            (Nat.le_trans fewer within)
            (fun start found => (groups.stands_member owned found).2)
          exact ⟨after, result, .member resolved onward⟩

/-- Every call of the recursion finishes, whatever circles the aliases form. -/
theorem exists_pursuit (groups : scopes.Groups listing) (names : List String)
    (seen : List (List String)) (symbol : Option Symbol)
    (stands : ∀ start ∈ symbol, scopes.Stands start) :
    ∃ after result, scopes.Pursuit seen symbol names after result := by
  suffices resolving : ∀ bound seen symbol, (scopes.unseen seen).length ≤ bound →
      (∀ start ∈ symbol, scopes.Stands start) →
      ∃ after result, scopes.Pursuit seen symbol [] after result from
    groups.exists_pursuit_of_resolving (resolving (scopes.unseen seen).length) names seen symbol
      (Nat.le_refl _) stands
  intro bound
  -- The induction is on the number of aliases that have not been seen.
  induction bound using Nat.strong_induction_on with
  | _ bound ih =>
      intro seen symbol within stands
      cases symbol with
      | none => exact ⟨seen, none, .absent⟩
      | some symbol =>
          cases isAlias : symbol.alias? with
          | none => exact ⟨seen, some symbol, .plain isAlias⟩
          | some target =>
              obtain ⟨target, site⟩ := target
              by_cases met : symbol.path ∈ seen
              · exact ⟨seen, none, .again isAlias met⟩
              · have listed := (stands symbol rfl).mem_aliasPaths (by rw [isAlias]; rfl)
                have fewer := groups.length_unseen_lt (mem_unseen.mpr ⟨listed, met⟩)
                obtain ⟨first, rest, split⟩ :=
                  List.exists_cons_of_ne_nil (Text.segments_ne_nil '.' target)
                obtain ⟨after, result, inner⟩ := groups.exists_pursuit_of_resolving
                  (ih _ (Nat.lt_of_lt_of_le fewer within)) rest (symbol.path :: seen)
                  (scopes.lookup (scopes.enclosing site.ancestors) first) (Nat.le_refl _)
                  (fun start found => groups.stands_lookup found)
                exact ⟨after, result, .followed isAlias met split inner⟩

end Groups

/-- The machine does in one run what the recursion does in nested calls: names that are still
pending are taken from whatever the call returns. -/
theorem Pursuit.chase_eq (groups : scopes.Groups listing)
    (pursuit : scopes.Pursuit seen symbol names after result)
    (stands : ∀ start ∈ symbol, scopes.Stands start) (pending : List String) :
    scopes.chase symbol (names ++ pending) (scopes.unseen seen) =
      scopes.chase result pending (scopes.unseen after) := by
  induction pursuit generalizing pending with
  | absent => exact (chase_none pending _).trans (chase_none pending _).symm
  | plain _ => rfl
  | again isAlias met =>
      rw [List.nil_append, chase_none]
      exact chase_struck isAlias fun fresh => (mem_unseen.mp fresh).2 met
  | @followed seen _ symbol _ _ _ _ _ isAlias new split _ ih =>
      have listed := (stands symbol rfl).mem_aliasPaths (by rw [isAlias]; rfl)
      rw [List.nil_append, chase_alias isAlias split (mem_unseen.mpr ⟨listed, new⟩),
        ← groups.unseen_cons]
      exact ih (fun start found => groups.stands_lookup found) pending
  | @lost _ _ _ name names _ ih =>
      have gone := ih stands (name :: names ++ pending)
      rw [chase_none] at gone ⊢
      exact gone
  | @member _ _ _ _ _ owner name names resolved _ first rest =>
      have reached := first stands (name :: names ++ pending)
      have owned := resolved.result_stands groups stands owner rfl
      have plain := resolved.result_plain owner rfl
      rw [List.cons_append, chase_member plain] at reached
      rw [List.cons_append, ← rest (fun start found => (groups.stands_member owned found).2)]
      exact reached

namespace Groups

/-- Resolving a symbol is a call that starts with nothing seen. -/
theorem pursuit_iff (groups : scopes.Groups listing)
    (stands : ∀ start ∈ symbol, scopes.Stands start) :
    (∃ after, scopes.Pursuit [] symbol [] after result) ↔ scopes.resolve symbol = result := by
  have returned {after : List (List String)} {result : Option Symbol}
      (pursuit : scopes.Pursuit [] symbol [] after result) : scopes.resolve symbol = result := by
    have reached := pursuit.chase_eq groups stands []
    rw [unseen_nil, List.nil_append] at reached
    rw [resolve, reached]
    cases result with
    | none => exact chase_none _ _
    | some found => exact chase_arrived (pursuit.result_plain found rfl)
  constructor
  · rintro ⟨after, pursuit⟩
    exact returned pursuit
  · rintro rfl
    obtain ⟨after, result, pursuit⟩ := groups.exists_pursuit [] [] symbol stands
    rw [returned pursuit]
    exact ⟨after, pursuit⟩

end Groups

end Scopes

end SourceOutline
