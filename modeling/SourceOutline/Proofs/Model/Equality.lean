import Mathlib.Data.List.Forall2
import Mathlib.Data.Option.Basic
import SourceOutline.Proofs.Model.History
import SourceOutline.Proofs.Parallel

/-!
# Equal elements and equal JSON views

Two elements are the same if they agree in their traits and, one by one, in their children; who
owns them does not count. The elements of a registry refer to each other, so this is a relation of
references. After every history it is equality of the trees below them, and then their JSON views
are equal as well.

The converse needs more, for a JSON view leaves things out: an import edge shows its name alone,
modules and classes do not show how they live, and members do not show children. An element is
evident if what its view leaves out is at its default. Evident elements with equal views are equal.
-/

namespace SourceOutline

namespace Json

/-- The values are equal as data: the order of the members of an object does not count. -/
inductive Equal : Json → Json → Prop where
  | null : Equal .null .null
  | bool (value : Bool) : Equal (.bool value) (.bool value)
  | int (value : Int) : Equal (.int value) (.int value)
  | float (value : Float) : Equal (.float value) (.float value)
  | string (value : String) : Equal (.string value) (.string value)
  | array {items items' : List Json} (each : List.Forall₂ Equal items items') :
    Equal (.array items) (.array items')
  | object {members members' : List (String × Json)}
    (each : ∀ key, Option.Rel Equal (members.lookup key) (members'.lookup key)) :
    Equal (.object members) (.object members')

mutual

theorem Equal.refl : (json : Json) → Equal json json
  | .null => .null
  | .bool value => .bool value
  | .int value => .int value
  | .float value => .float value
  | .string value => .string value
  | .array items => .array (Equal.reflAll items)
  | .object members => .object (Equal.reflMembers members)

theorem Equal.reflAll : (items : List Json) → List.Forall₂ Equal items items
  | [] => .nil
  | item :: items => .cons (Equal.refl item) (Equal.reflAll items)

theorem Equal.reflMembers : (members : List (String × Json)) → (key : String) →
    Option.Rel Equal (members.lookup key) (members.lookup key)
  | [], _ => .none
  | (name, value) :: members, key => by
      rw [List.lookup_cons]
      split
      · exact .some (Equal.refl value)
      · exact Equal.reflMembers members key

end

@[simp] theorem equal_bool_iff {value value' : Bool} :
    Equal (.bool value) (.bool value') ↔ value = value' := by
  constructor
  · rintro ⟨⟩
    rfl
  · rintro rfl
    exact .bool value

@[simp] theorem equal_string_iff {text text' : String} :
    Equal (.string text) (.string text') ↔ text = text' := by
  constructor
  · rintro ⟨⟩
    rfl
  · rintro rfl
    exact .string text

@[simp] theorem equal_array_iff {items items' : List Json} :
    Equal (.array items) (.array items') ↔ List.Forall₂ Equal items items' := by
  constructor
  · rintro (_ | _ | _ | _ | _ | each)
    exact each
  · exact .array

@[simp] theorem equal_strings_iff {texts texts' : List String} :
    Equal (strings texts) (strings texts') ↔ texts = texts' := by
  rw [strings, strings, equal_array_iff, List.forall₂_map_left_iff, List.forall₂_map_right_iff]
  simp only [equal_string_iff, List.forall₂_eq_eq_eq]

theorem equal_optional_iff {α : Type} {encode : α → Json}
    (present : ∀ value, ¬ Equal (encode value) .null ∧ ¬ Equal .null (encode value))
    (inside : ∀ value value', Equal (encode value) (encode value') ↔ value = value')
    {value? value?' : Option α} :
    Equal (optional encode value?) (optional encode value?') ↔ value? = value?' := by
  cases value? with
  | none =>
      cases value?' with
      | none => simp [optional, Equal.null]
      | some value' => simp [optional, (present value').2]
  | some value =>
      cases value?' with
      | none => simp [optional, (present value).1]
      | some value' => simp [optional, inside]

theorem lookup_eq_none {members : List (String × Json)} {key : String}
    (absent : key ∉ members.map Prod.fst) : members.lookup key = none := by
  rw [List.lookup_eq_none_iff]
  intro member among
  rw [bne_iff_ne]
  rintro rfl
  exact absent (List.mem_map_of_mem among)

/-- Objects with the same keys, each of them once, have equal values if they are equal. -/
theorem Equal.values {members members' : List (String × Json)}
    (same : Equal (.object members) (.object members'))
    (keys : members.map Prod.fst = members'.map Prod.fst)
    (distinct : (members.map Prod.fst).Nodup) :
    List.Forall₂ Equal (members.map Prod.snd) (members'.map Prod.snd) := by
  induction members generalizing members' with
  | nil =>
      cases members' with
      | nil => exact .nil
      | cons _ _ => cases keys
  | cons member members ih =>
      cases members' with
      | nil => cases keys
      | cons member' members' =>
          obtain ⟨key, value⟩ := member
          obtain ⟨key', value'⟩ := member'
          obtain ⟨rfl, rest⟩ : key = key' ∧ members.map Prod.fst = members'.map Prod.fst := by
            simpa using keys
          obtain ⟨absent, distinct⟩ := List.nodup_cons.mp distinct
          obtain _ | _ | _ | _ | _ | _ | each := same
          have first := each key
          simp only [List.lookup_cons_self] at first
          refine .cons (by simpa using first) (ih (.object fun other => ?_) rest distinct)
          by_cases here : other = key
          · rw [here, lookup_eq_none absent, lookup_eq_none (rest ▸ absent)]
            exact .none
          · simpa only [List.lookup_cons, beq_false_of_ne here] using each other

end Json

/-- What the JSON view of an element leaves out is at its default. -/
def Traits.Evident (traits : Traits) : Prop :=
  match traits.detail with
  | .element | .property .. | .method _ => True
  | .module _ | .classLike .. => traits.lifetime = .perInstance
  | .importedModule => traits.visibility = .pub ∧ traits.lifetime = .perInstance

/-- Whether the JSON view of an element shows its children. -/
def Traits.showsChildren (traits : Traits) : Bool :=
  match traits.detail with
  | .element | .module _ | .classLike .. => true
  | .importedModule | .property .. | .method _ => false

@[simp] theorem Visibility.label_eq_iff {visibility visibility' : Visibility} :
    visibility.label = visibility'.label ↔ visibility = visibility' := by
  cases visibility <;> cases visibility' <;> simp [label]

@[simp] theorem Lifetime.label_eq_iff {lifetime lifetime' : Lifetime} :
    lifetime.label = lifetime'.label ↔ lifetime = lifetime' := by
  cases lifetime <;> cases lifetime' <;> simp [label]

namespace Element

open Json (Equal)

theorem kind_eq_of_equal {traits traits' : Traits} {below below' : Json}
    (same : Equal (.object (members traits below)) (.object (members traits' below'))) :
    traits.detail.kind = traits'.detail.kind := by
  have shown (traits : Traits) (below : Json) :
      (members traits below).lookup "kind" = some (.string traits.detail.kind) := by
    unfold members
    cases traits.detail <;> rfl
  obtain _ | _ | _ | _ | _ | _ | each := same
  have kinds := each "kind"
  rw [shown, shown] at kinds
  simpa using kinds

/-- A path or its absence. -/
@[simp] theorem equal_path_iff {path path' : Option String} :
    Equal (.optional .string path) (.optional .string path') ↔ path = path' :=
  Json.equal_optional_iff (fun _ => ⟨by rintro ⟨⟩, by rintro ⟨⟩⟩) fun _ _ => Json.equal_string_iff

/-- The base of a class or its absence. -/
@[simp] theorem equal_base_iff {base base' : Option QualifiedName} :
    Equal (.optional (fun base => .strings base.parts) base)
      (.optional (fun base => .strings base.parts) base') ↔ base = base' := by
  refine Json.equal_optional_iff (fun _ => ⟨by rintro ⟨⟩, by rintro ⟨⟩⟩) fun base base' => ?_
  rw [Json.equal_strings_iff, QualifiedName.mk.injEq]

/-- Evident traits and the children that are shown can be read off a view. -/
theorem traits_eq_of_equal {traits traits' : Traits} {below below' : Json}
    (evident : traits.Evident) (evident' : traits'.Evident)
    (same : Equal (.object (members traits below)) (.object (members traits' below'))) :
    traits = traits' ∧ (traits.showsChildren = true → Equal below below') := by
  have kinds := kind_eq_of_equal same
  obtain ⟨name, visibility, lifetime, detail⟩ := traits
  obtain ⟨name', visibility', lifetime', detail'⟩ := traits'
  -- Different kinds are called differently, and an object of one kind has fixed keys.
  cases detail <;> cases detail' <;> simp [Detail.kind] at kinds
  all_goals
    have values := same.values rfl (by simp [members])
    simp [members, Detail.kind] at values
  case element => simp [values, Traits.showsChildren]
  case module =>
    obtain rfl : lifetime = .perInstance := evident
    obtain rfl : lifetime' = .perInstance := evident'
    simp [values]
  case importedModule =>
    obtain ⟨rfl, rfl⟩ : visibility = .pub ∧ lifetime = .perInstance := evident
    obtain ⟨rfl, rfl⟩ : visibility' = .pub ∧ lifetime' = .perInstance := evident'
    simp [values, Traits.showsChildren]
  case classLike =>
    obtain rfl : lifetime = .perInstance := evident
    obtain rfl : lifetime' = .perInstance := evident'
    simp [values]
  case property => simp [values, Traits.showsChildren]
  case method => simp [values, Traits.showsChildren]

mutual

/-- What the views of a whole tree leave out is at its default, and what does not show its children
has none. -/
def Evident : Element → Prop
  | ⟨traits, children⟩ =>
    traits.Evident ∧ (traits.showsChildren = false → children = []) ∧ EvidentAll children

def EvidentAll : List Element → Prop
  | [] => True
  | element :: elements => Evident element ∧ EvidentAll elements

end

theorem evidentAll_append {first second : List Element} (left : EvidentAll first)
    (right : EvidentAll second) : EvidentAll (first ++ second) := by
  induction first with
  | nil => exact right
  | cons element elements ih => exact ⟨left.1, ih left.2⟩

theorem evidentAll_nest {chain : List Traits} {below : List Element}
    (each : ∀ traits ∈ chain, traits.Evident ∧ traits.showsChildren = true)
    (evident : EvidentAll below) : EvidentAll (nest chain below) := by
  induction chain with
  | nil => exact evident
  | cons traits inner ih =>
      obtain ⟨first, shows⟩ := each traits List.mem_cons_self
      refine ⟨⟨first, fun hides => absurd hides (by simp [shows]), ih ?_⟩, trivial⟩
      exact fun other member => each other (List.mem_cons_of_mem _ member)

mutual

/-- Evident elements with equal views are equal. -/
theorem eq_of_equal (element element' : Element) (evident : element.Evident)
    (evident' : element'.Evident) (same : Equal element.toJson element'.toJson) :
    element = element' := by
  obtain ⟨traits, children⟩ := element
  obtain ⟨traits', children'⟩ := element'
  obtain ⟨outer, hidden, inner⟩ := evident
  obtain ⟨outer', hidden', inner'⟩ := evident'
  rw [toJson, toJson] at same
  obtain ⟨rfl, below⟩ := traits_eq_of_equal outer outer' same
  cases shows : traits.showsChildren with
  | true =>
      rw [eq_of_equalAll children children' inner inner' (Json.equal_array_iff.mp (below shows))]
  | false => rw [hidden shows, hidden' shows]

theorem eq_of_equalAll (elements elements' : List Element) (evident : EvidentAll elements)
    (evident' : EvidentAll elements')
    (same : List.Forall₂ Equal (toJsonAll elements) (toJsonAll elements')) :
    elements = elements' := by
  cases elements with
  | nil =>
      cases elements' with
      | nil => rfl
      | cons _ _ => cases same
  | cons element elements =>
      cases elements' with
      | nil => cases same
      | cons element' elements' =>
          obtain _ | ⟨first, rest⟩ := same
          rw [eq_of_equal element element' evident.1 evident'.1 first,
            eq_of_equalAll elements elements' evident.2 evident'.2 rest]

end

end Element

namespace Registry

variable {registry registry' : Registry}

/-- The elements agree in their traits and one by one in their children. -/
inductive Same (registry registry' : Registry) : Nat → Nat → Prop where
  | intro {ref ref' : Nat} {entry entry' : Entry} (found : registry.entries[ref]? = some entry)
    (found' : registry'.entries[ref']? = some entry') (traits : entry.traits = entry'.traits)
    (children : List.Forall₂ (Same registry registry') entry.children entry'.children) :
    Same registry registry' ref ref'

theorem Coherent.lt_size_of_child (coherent : registry.Coherent) {ref child : Nat} {entry : Entry}
    (found : registry.entries[ref]? = some entry) (member : child ∈ entry.children) :
    child < registry.entries.size := by
  have held : child ∈ registry.childrenOf ref := by simpa [childrenOf, found] using member
  exact lt_size_of_owner? (coherent.owned ref child held)

/-- Children with the same views one by one. -/
theorem map_view_eq_iff {refs refs' : List Nat} :
    refs.map registry.view = refs'.map registry'.view ↔
      List.Forall₂ (fun ref ref' => registry.view ref = registry'.view ref') refs refs' := by
  rw [← List.forall₂_eq_eq_eq, List.forall₂_map_left_iff, List.forall₂_map_right_iff]

theorem view_eq_of_same (coherent : registry.Coherent) (coherent' : registry'.Coherent)
    {ref ref' : Nat} (same : Same registry registry' ref ref') :
    registry.view ref = registry'.view ref' := by
  induction ref using coherent.descends.induction generalizing ref' with
  | _ ref ih =>
      obtain ⟨found, found', traits, children⟩ := same
      rw [coherent.view_eq found, coherent'.view_eq found', traits]
      congr 1
      rw [map_view_eq_iff]
      refine (List.forall₂_mem children).imp fun child child' ⟨member, same⟩ => ?_
      exact ih child (by simpa [childrenOf, found] using member) same

theorem same_of_view_eq (coherent : registry.Coherent) (coherent' : registry'.Coherent)
    {ref ref' : Nat} (known : ref < registry.entries.size) (known' : ref' < registry'.entries.size)
    (same : registry.view ref = registry'.view ref') : Same registry registry' ref ref' := by
  induction ref using coherent.descends.induction generalizing ref' with
  | _ ref ih =>
      have found := Array.getElem?_eq_getElem known
      have found' := Array.getElem?_eq_getElem known'
      rw [coherent.view_eq found, coherent'.view_eq found', Element.mk.injEq, map_view_eq_iff]
        at same
      obtain ⟨traits, children⟩ := same
      refine .intro found found' traits (List.forall₂_iff_zip.mpr ⟨children.length_eq, ?_⟩)
      intro child child' pair
      obtain ⟨member, member'⟩ := List.of_mem_zip pair
      exact ih child (by simpa [childrenOf, found] using member)
        (coherent.lt_size_of_child found member) (coherent'.lt_size_of_child found' member')
        (List.forall₂_zip children pair)

end Registry

end SourceOutline
