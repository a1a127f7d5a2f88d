import Mathlib.Logic.Relation
import SourceOutline.Proofs.Model.Preorder

/-!
# Histories of a registry

Elements are created one after the other, each with an existing owner or none, and they are
attached in any order and any number of times. An operation that is refused leaves the registry as
it was, and the history goes on.

Two facts are kept by every operation: who holds an element owns it, and owners are older than what
they own. Everything else follows from them. An element has one holder, neither the children below
an element nor the owners above it go round in a circle, and so its JSON view and its qualified name
can be computed along them.
-/

namespace SourceOutline

theorem Text.join_concat (separator : Char) {parts : List String} (nonempty : parts ≠ [])
    (last : String) :
    join separator (parts ++ [last]) =
      join separator parts ++ String.singleton separator ++ last := by
  apply String.toList_injective
  simp only [toList_join, String.toList_append, String.toList_singleton, List.map_append,
    List.map_cons, List.map_nil]
  induction parts with
  | nil => exact absurd rfl nonempty
  | cons first rest ih =>
      cases rest with
      | nil => simp [List.intercalate]
      | cons second rest =>
          have shorter := ih (List.cons_ne_nil second rest)
          simp only [List.map_cons, List.cons_append, List.intercalate_cons_cons,
            List.append_assoc] at shorter ⊢
          rw [shorter]

theorem Element.toJsonAll_eq_map (elements : List Element) :
    toJsonAll elements = elements.map toJson := by
  induction elements with
  | nil => rfl
  | cons element elements ih => rw [toJsonAll, ih, List.map_cons]

/-- A step in the history of a registry. -/
inductive Operation where
  | create (traits : Traits) (owner : Option Nat)
  | attach (owner child : Nat)

namespace Registry

/-- Carry out an operation. -/
def perform (registry : Registry) : Operation → Except Failure Registry
  | .create traits owner => .ok (registry.create traits owner).1
  | .attach owner child => registry.attach owner child

/-- What is there after an operation, whether it was carried out or refused. -/
def after (registry : Registry) (operation : Operation) : Registry :=
  match registry.perform operation with
  | .ok changed => changed
  | .error _ => registry

/-- What is there after a sequence of operations. -/
def run (registry : Registry) (operations : List Operation) : Registry :=
  operations.foldl after registry

/-- The operation names existing elements alone. -/
def Knows (registry : Registry) : Operation → Prop
  | .create _ owner => ∀ ref ∈ owner, ref < registry.entries.size
  | .attach owner child => owner < registry.entries.size ∧ child < registry.entries.size

/-- Every operation names elements that exist when its turn comes. -/
def Admits (registry : Registry) : List Operation → Prop
  | [] => True
  | operation :: later => registry.Knows operation ∧ (registry.after operation).Admits later

instance decidableKnows (registry : Registry) (operation : Operation) :
    Decidable (registry.Knows operation) :=
  match operation with
  | .create _ none => isTrue (by rintro _ ⟨⟩)
  | .create _ (some owner) =>
    decidable_of_iff (owner < registry.entries.size) (by simp [Knows])
  | .attach owner child =>
    inferInstanceAs (Decidable (owner < registry.entries.size ∧ child < registry.entries.size))

instance decidableAdmits (registry : Registry) (operations : List Operation) :
    Decidable (registry.Admits operations) :=
  match operations with
  | [] => isTrue trivial
  | operation :: later =>
    @instDecidableAnd _ _ (registry.decidableKnows operation)
      ((registry.after operation).decidableAdmits later)

variable {registry : Registry}

theorem run_append (first second : List Operation) :
    registry.run (first ++ second) = (registry.run first).run second := List.foldl_append

section

variable {ref : Nat}

theorem lt_size_of_owner? {owner : Nat} (owned : registry.owner? ref = some owner) :
    ref < registry.entries.size := by
  obtain ⟨entry, found, -⟩ := Option.bind_eq_some_iff.mp owned
  exact (Array.getElem?_eq_some_iff.mp found).1

theorem getElem?_create (traits : Traits) (owner : Option Nat) :
    (registry.create traits owner).1.entries[ref]? =
      if ref = registry.entries.size then some ⟨traits, owner, []⟩ else registry.entries[ref]? :=
  Array.getElem?_push

theorem owner?_create (traits : Traits) (owner : Option Nat) :
    (registry.create traits owner).1.owner? ref =
      if ref = registry.entries.size then owner else registry.owner? ref := by
  rw [owner?, getElem?_create]
  split <;> rfl

theorem childrenOf_create (traits : Traits) (owner : Option Nat) :
    (registry.create traits owner).1.childrenOf ref = registry.childrenOf ref := by
  rw [childrenOf, childrenOf, getElem?_create]
  split
  · next new =>
    rw [new, Array.getElem?_size]
    rfl
  · rfl

theorem owner?_grow_nil {owner : Nat} (children : List Nat) :
    (registry.grow owner children []).owner? ref = registry.owner? ref := by
  by_cases old : ref < registry.entries.size
  · exact registry.owner?_grow old children []
  · have missing : registry.entries[ref]? = none := Array.getElem?_eq_none (Nat.le_of_not_lt old)
    rw [owner?, owner?, getElem?_grow, if_neg old, missing, List.getElem?_nil]

theorem mem_childrenOf_grow {owner child other : Nat}
    (member : other ∈ (registry.grow owner [child] []).childrenOf ref) :
    other ∈ registry.childrenOf ref ∨ ref = owner ∧ other = child := by
  rw [childrenOf, getElem?_grow] at member
  rw [childrenOf]
  split at member
  · cases found : registry.entries[ref]? with
    | none => simp [found] at member
    | some entry =>
        by_cases same : ref = owner
        · subst same
          simpa [found] using member
        · exact .inl (by simpa [found, same] using member)
  · cases member

end

/-- What an operation can do: enter a new element at the end, append an element to the children of
its owner, or nothing, if the element belongs to another one. -/
theorem after_cases (operation : Operation) :
    (∃ traits owner, operation = .create traits owner ∧
      registry.after operation = (registry.create traits owner).1) ∨
    (∃ owner child, operation = .attach owner child ∧ registry.owner? child = some owner ∧
      registry.after operation = registry.grow owner [child] []) ∨
    ∃ owner child, operation = .attach owner child ∧ registry.owner? child ≠ some owner ∧
      registry.after operation = registry := by
  cases operation with
  | create traits owner => exact .inl ⟨traits, owner, rfl, rfl⟩
  | attach owner child =>
      refine .inr ?_
      by_cases owned : registry.owner? child = some owner
      · refine .inl ⟨owner, child, rfl, owned, ?_⟩
        rw [after, perform, registry.attach_eq_grow owned]
      · refine .inr ⟨owner, child, rfl, owned, ?_⟩
        rw [after, perform, attach]
        cases found : registry.entries[child]? with
        | none => rfl
        | some entry =>
            have other : entry.owner ≠ some owner := by
              intro same
              exact owned (by rw [owner?, found]; exact same)
            simp only [if_neg other]

/-- An element is only attached to its owner. -/
theorem attach_foreign {owner child : Nat} {entry : Entry}
    (found : registry.entries[child]? = some entry) (foreign : entry.owner ≠ some owner) :
    registry.attach owner child =
      .error (.foreignOwner entry.traits.detail.kind entry.traits.name) := by
  rw [attach, found]
  exact if_neg foreign

section

variable {operation : Operation} {operations : List Operation}

theorem size_le_after (operation : Operation) :
    registry.entries.size ≤ (registry.after operation).entries.size := by
  obtain ⟨traits, owner, -, same⟩ | ⟨owner, child, -, -, same⟩ | ⟨_, _, -, -, same⟩ :=
    registry.after_cases operation
  · rw [same, create, Array.size_push]
    omega
  · rw [same, size_grow, List.length_nil]
    omega
  · exact Nat.le_of_eq (congrArg (fun registry => registry.entries.size) same.symm)

/-- No operation changes an owner. -/
theorem owner?_after {ref : Nat} (old : ref < registry.entries.size) :
    (registry.after operation).owner? ref = registry.owner? ref := by
  obtain ⟨traits, owner, -, same⟩ | ⟨owner, child, -, -, same⟩ | ⟨_, _, -, -, same⟩ :=
    registry.after_cases operation
  · rw [same, owner?_create, if_neg (Nat.ne_of_lt old)]
  · rw [same, owner?_grow_nil]
  · rw [same]

theorem owner?_run {ref : Nat} (old : ref < registry.entries.size) :
    (registry.run operations).owner? ref = registry.owner? ref := by
  induction operations generalizing registry with
  | nil => rfl
  | cons operation later ih =>
      have kept := ih (Nat.lt_of_lt_of_le old (registry.size_le_after operation))
      exact kept.trans (owner?_after old)

end

/-- Who holds an element owns it, and owners are older than what they own. -/
structure Coherent (registry : Registry) : Prop where
  owned : ∀ ref child, child ∈ registry.childrenOf ref → registry.owner? child = some ref
  ordered : ∀ ref child, registry.owner? child = some ref → ref < child

theorem coherent_empty : ({} : Registry).Coherent where
  owned _ _ member := nomatch member
  ordered _ _ owned := nomatch owned

theorem Coherent.after (coherent : registry.Coherent) {operation : Operation}
    (knows : registry.Knows operation) : (registry.after operation).Coherent := by
  obtain ⟨traits, owner, rfl, same⟩ | ⟨owner, child, -, owned, same⟩ | ⟨_, _, -, -, same⟩ :=
    registry.after_cases operation
  · rw [same]
    constructor
    · intro ref child member
      rw [childrenOf_create] at member
      have held := coherent.owned ref child member
      rwa [owner?_create, if_neg (Nat.ne_of_lt (lt_size_of_owner? held))]
    · intro ref child held
      rw [owner?_create] at held
      split at held
      · next new =>
        rw [new]
        exact knows ref held
      · exact coherent.ordered ref child held
  · rw [same]
    constructor
    · intro ref other member
      rw [owner?_grow_nil]
      rcases mem_childrenOf_grow member with before | ⟨rfl, rfl⟩
      · exact coherent.owned ref other before
      · exact owned
    · intro ref other held
      rw [owner?_grow_nil] at held
      exact coherent.ordered ref other held
  · rwa [same]

theorem Coherent.run (coherent : registry.Coherent) {operations : List Operation}
    (admitted : registry.Admits operations) : (registry.run operations).Coherent := by
  induction operations generalizing registry with
  | nil => exact coherent
  | cons operation later ih => exact ih (coherent.after admitted.1) admitted.2

namespace Coherent

theorem lt_of_child (coherent : registry.Coherent) {ref child : Nat}
    (member : child ∈ registry.childrenOf ref) : ref < child :=
  coherent.ordered ref child (coherent.owned ref child member)

/-- Going down, the numbers grow and stay below the size of the registry. -/
theorem descends (coherent : registry.Coherent) :
    WellFounded fun child ref => child ∈ registry.childrenOf ref := by
  refine Subrelation.wf ?_ (measure fun ref => registry.entries.size - ref).wf
  intro child ref member
  have older := coherent.lt_of_child member
  have bound := lt_size_of_owner? (coherent.owned ref child member)
  change registry.entries.size - child < registry.entries.size - ref
  omega

/-- Going up, the numbers fall. -/
theorem climbs (coherent : registry.Coherent) :
    WellFounded fun owner ref => registry.owner? ref = some owner :=
  Subrelation.wf (fun {owner ref} owned => coherent.ordered owner ref owned) Nat.lt_wfRel.wf

theorem view_eq (coherent : registry.Coherent) {ref : Nat} {entry : Entry}
    (found : registry.entries[ref]? = some entry) :
    registry.view ref = ⟨entry.traits, entry.children.map registry.view⟩ := by
  refine Registry.view_eq found fun child member => coherent.lt_of_child ?_
  simpa [childrenOf, found] using member

theorem qualifiedName_eq (coherent : registry.Coherent) {ref : Nat} {entry : Entry}
    (found : registry.entries[ref]? = some entry) :
    registry.qualifiedName ref =
      match entry.owner with
      | some owner => registry.qualifiedName owner ++ "." ++ entry.traits.name
      | none => entry.traits.name := by
  have known : registry.traits? ref = some entry.traits := by rw [traits?, found]; rfl
  have same : registry.owner? ref = entry.owner := by rw [owner?, found]; rfl
  cases owner? : entry.owner with
  | none =>
      rw [qualifiedName, namePath_root known (same.trans owner?), Text.join_singleton]
  | some owner =>
      have owned := same.trans owner?
      have older := coherent.ordered owner ref owned
      have bound := lt_size_of_owner? owned
      rw [qualifiedName, namePath_owned known owned older,
        Text.join_concat '.' (namePath_ne_nil (Nat.lt_trans older bound))]
      rfl

end Coherent

/-- What can be relied on after every history. -/
structure Lawful (registry : Registry) : Prop where
  /-- Who holds an element owns it. -/
  owned : ∀ ref child, child ∈ registry.childrenOf ref → registry.owner? child = some ref
  /-- No element is held by two. -/
  single : ∀ first second child, child ∈ registry.childrenOf first →
    child ∈ registry.childrenOf second → first = second
  /-- No element is among the children of its children, however deep. -/
  acyclic : ∀ ref, ¬ Relation.TransGen (fun ref child => child ∈ registry.childrenOf ref) ref ref
  /-- Going from elements to their children comes to an end, -/
  descends : WellFounded fun child ref => child ∈ registry.childrenOf ref
  /-- and so does going from elements to their owners. -/
  climbs : WellFounded fun owner ref => registry.owner? ref = some owner
  /-- The JSON view of an element is made of its traits and of the views of all its children. -/
  shown : ∀ ref entry, registry.entries[ref]? = some entry →
    (registry.view ref).toJson = .object (Element.members entry.traits
      (.array (entry.children.map fun child => (registry.view child).toJson)))
  /-- An element is called by its name behind what its owner is called. -/
  named : ∀ ref entry, registry.entries[ref]? = some entry →
    registry.qualifiedName ref =
      match entry.owner with
      | some owner => registry.qualifiedName owner ++ "." ++ entry.traits.name
      | none => entry.traits.name

theorem Coherent.lawful (coherent : registry.Coherent) : registry.Lawful where
  owned := coherent.owned
  single first second child held held' := by
    have owned := coherent.owned first child held
    rw [coherent.owned second child held'] at owned
    exact (Option.some.inj owned).symm
  acyclic ref circle := by
    have older : ∀ {lower}, Relation.TransGen
        (fun ref child => child ∈ registry.childrenOf ref) ref lower → ref < lower := by
      intro lower path
      induction path with
      | single member => exact coherent.lt_of_child member
      | tail _ member ih => exact Nat.lt_trans ih (coherent.lt_of_child member)
    exact Nat.lt_irrefl ref (older circle)
  descends := coherent.descends
  climbs := coherent.climbs
  shown ref entry found := by
    rw [coherent.view_eq found, Element.toJson, Element.toJsonAll_eq_map, List.map_map]
    rfl
  named ref entry found := coherent.qualifiedName_eq found

/-- Whatever operations on existing elements have been tried, in whatever order, the registry is
lawful. What comes later changes no owner, and an element that is offered to another than its owner
is refused and nothing changes. -/
theorem run_lawful (operations : List Operation) (admitted : ({} : Registry).Admits operations) :
    (run {} operations).Lawful ∧
      (∀ later ref, ref < (run {} operations).entries.size →
        (run {} (operations ++ later)).owner? ref = (run {} operations).owner? ref) ∧
      ∀ owner child entry, (run {} operations).entries[child]? = some entry →
        entry.owner ≠ some owner →
          (run {} operations).attach owner child =
              .error (.foreignOwner entry.traits.detail.kind entry.traits.name) ∧
            run {} (operations ++ [.attach owner child]) = run {} operations := by
  refine ⟨(coherent_empty.run admitted).lawful, ?_, ?_⟩
  · intro later ref old
    rw [run_append]
    exact owner?_run old
  · intro owner child entry found foreign
    have refused := attach_foreign found foreign
    refine ⟨refused, ?_⟩
    rw [run_append]
    change after (run {} operations) (.attach owner child) = run {} operations
    rw [after, perform, refused]

/-- A module with a class that holds a method, which is then offered to the module. The class is
attached twice. -/
def sharedMethod : List Operation := [
  .create { name := "m", detail := .module none } none,
  .create { name := "C", detail := .classLike false none } (some 0),
  .create { name := "f", detail := .method false } (some 1),
  .attach 1 2, .attach 0 1, .attach 0 2, .attach 0 1]

theorem sharedMethod_lawful : ({} : Registry).Admits sharedMethod ∧
    (run {} sharedMethod).Lawful ∧ (run {} sharedMethod).childrenOf 0 = [1, 1] ∧
    (run {} sharedMethod).qualifiedName 2 = "m.C.f" ∧
    (run {} sharedMethod).attach 0 2 = .error (.foreignOwner "method" "f") := by
  have admitted : ({} : Registry).Admits sharedMethod := by decide
  obtain ⟨lawful, -, refused⟩ := run_lawful sharedMethod admitted
  exact ⟨admitted, lawful, by decide, by decide +kernel, (refused 0 2 _ rfl (by decide)).1⟩

end Registry

end SourceOutline
