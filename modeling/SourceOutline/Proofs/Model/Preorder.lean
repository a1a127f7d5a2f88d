import SourceOutline.Proofs.Model.Planting

/-!
# Reading a planted forest

A registry holds a list of entries from a number on when it has exactly these entries there.
Whatever else it holds, a held forest is read back unchanged: `view` gives its trees, and
`preorder` counts through its numbers without a gap, a repetition or an exchange. Owners and
children of a held forest mirror each other.
-/

namespace SourceOutline

namespace Registry

variable (registry : Registry)

/-- The entries from `start` on begin with the given ones. -/
def Holds : (start : Nat) → List Entry → Prop
  | _, [] => True
  | start, entry :: rest => registry.entries[start]? = some entry ∧ Holds (start + 1) rest

variable {registry}

theorem holds_append_iff {start : Nat} {first second : List Entry} :
    registry.Holds start (first ++ second) ↔
      registry.Holds start first ∧ registry.Holds (start + first.length) second := by
  induction first generalizing start with
  | nil => simp [Holds]
  | cons entry rest ih =>
      simp only [List.cons_append, Holds, ih, List.length_cons, and_assoc]
      rw [Nat.add_right_comm, Nat.add_assoc]

theorem holds_of_getElem? {start : Nat} {entries : List Entry}
    (same : ∀ i, i < entries.length → registry.entries[start + i]? = entries[i]?) :
    registry.Holds start entries := by
  induction entries generalizing start with
  | nil => trivial
  | cons entry rest ih =>
      refine ⟨by simpa using same 0 (by simp), ih ?_⟩
      intro i bound
      simpa [Nat.add_assoc, Nat.add_comm 1 i] using same (i + 1) (by simpa using bound)

/-- A planted forest is held where the registry ended before. -/
theorem holds_plant (owner : Nat) (forest : List Element) :
    (registry.plant owner forest).Holds registry.entries.size
      (Element.entriesAll owner registry.entries.size forest) := by
  apply holds_of_getElem?
  intro i _
  have added : ¬ registry.entries.size + i < registry.entries.size := by omega
  simp [plant, getElem?_grow, added]

theorem filter_lt_children {ref : Nat} {children : List Nat}
    (above : ∀ child ∈ children, ref < child) : children.filter (ref < ·) = children := by
  simpa [List.filter_eq_self] using above

theorem preorder_eq {ref : Nat} {entry : Entry} (found : registry.entries[ref]? = some entry)
    (above : ∀ child ∈ entry.children, ref < child) :
    registry.preorder ref = ref :: entry.children.flatMap registry.preorder := by
  rw [preorder]
  split
  · simp_all
  · rename_i other same
    obtain rfl : entry = other := by simpa [found] using same
    simp only [List.flatMap_subtype, List.unattach_attach, filter_lt_children above]

theorem view_eq {ref : Nat} {entry : Entry} (found : registry.entries[ref]? = some entry)
    (above : ∀ child ∈ entry.children, ref < child) :
    registry.view ref = ⟨entry.traits, entry.children.map registry.view⟩ := by
  rw [view]
  split
  · simp_all
  · rename_i other same
    obtain rfl : entry = other := by simpa [found] using same
    simp only [List.map_subtype, List.unattach_attach, filter_lt_children above]

theorem namePath_root {root : Nat} {traits : Traits} (known : registry.traits? root = some traits)
    (top : registry.owner? root = none) : registry.namePath root = [traits.name] := by
  obtain ⟨entry, found, rfl⟩ := Option.map_eq_some_iff.mp known
  rw [owner?, found] at top
  rw [namePath, found]
  simp only
  rw [show entry.owner = none from top]

theorem namePath_owned {ref owner : Nat} {traits : Traits}
    (known : registry.traits? ref = some traits) (owned : registry.owner? ref = some owner)
    (less : owner < ref) : registry.namePath ref = registry.namePath owner ++ [traits.name] := by
  obtain ⟨entry, found, rfl⟩ := Option.map_eq_some_iff.mp known
  rw [owner?, found] at owned
  rw [namePath, found]
  simp only
  rw [show entry.owner = some owner from owned]
  simp [less]

theorem namePath_ne_nil {ref : Nat} (bound : ref < registry.entries.size) :
    registry.namePath ref ≠ [] := by
  rw [namePath, Array.getElem?_eq_getElem bound]
  simp only
  split <;> simp

end Registry

namespace Element

theorem length_tops (start : Nat) (forest : List Element) :
    (tops start forest).length = forest.length := by
  induction forest generalizing start with
  | nil => rfl
  | cons element elements ih => simp only [tops, List.length_cons, ih]

theorem le_of_mem_tops {start ref : Nat} {forest : List Element}
    (member : ref ∈ tops start forest) : start ≤ ref := by
  induction forest generalizing start with
  | nil => cases member
  | cons element elements ih =>
      rcases List.mem_cons.mp member with rfl | later
      · exact Nat.le_refl _
      · exact Nat.le_trans (Nat.le_add_right _ _) (ih later)

end Element

namespace Registry

variable {registry : Registry}

mutual

/-- A held tree is counted through in pre-order. -/
theorem preorder_of_holds {owner start : Nat} (element : Element)
    (held : registry.Holds start (element.entries owner start)) :
    registry.preorder start = List.range' start element.size := by
  obtain ⟨traits, children⟩ := element
  obtain ⟨found, below⟩ := held
  rw [preorder_eq found (fun child member => Element.le_of_mem_tops member),
    preorder_tops_of_holds children below, Element.size, Nat.add_comm 1, List.range'_succ]

theorem preorder_tops_of_holds {owner start : Nat} (forest : List Element)
    (held : registry.Holds start (Element.entriesAll owner start forest)) :
    (Element.tops start forest).flatMap registry.preorder =
      List.range' start (Element.sizeAll forest) := by
  cases forest with
  | nil => rfl
  | cons element elements =>
      rw [Element.entriesAll, holds_append_iff, Element.length_entries] at held
      rw [Element.tops, List.flatMap_cons, preorder_of_holds element held.1,
        preorder_tops_of_holds elements held.2, Element.sizeAll, List.range'_append_1]

end

mutual

/-- A held tree is read back as it was planted. -/
theorem view_of_holds {owner start : Nat} (element : Element)
    (held : registry.Holds start (element.entries owner start)) :
    registry.view start = element := by
  obtain ⟨traits, children⟩ := element
  obtain ⟨found, below⟩ := held
  rw [view_eq found (fun child member => Element.le_of_mem_tops member),
    view_tops_of_holds children below]

theorem view_tops_of_holds {owner start : Nat} (forest : List Element)
    (held : registry.Holds start (Element.entriesAll owner start forest)) :
    (Element.tops start forest).map registry.view = forest := by
  cases forest with
  | nil => rfl
  | cons element elements =>
      rw [Element.entriesAll, holds_append_iff, Element.length_entries] at held
      rw [Element.tops, List.map_cons, view_of_holds element held.1,
        view_tops_of_holds elements held.2]

end

/-- The topmost elements of a held forest have the owner it was planted under. -/
theorem owner?_of_mem_tops {owner start : Nat} (forest : List Element)
    (held : registry.Holds start (Element.entriesAll owner start forest)) {ref : Nat}
    (member : ref ∈ Element.tops start forest) : registry.owner? ref = some owner := by
  induction forest generalizing start with
  | nil => cases member
  | cons element elements ih =>
      rw [Element.entriesAll, holds_append_iff, Element.length_entries] at held
      rcases List.mem_cons.mp member with rfl | later
      · obtain ⟨traits, children⟩ := element
        obtain ⟨⟨found, -⟩, -⟩ := held
        simp [owner?, found]
      · exact ih held.2 later

mutual

/-- Inside a held tree every child follows the element that holds it, which owns it. -/
theorem children_of_holds {owner start : Nat} (element : Element)
    (held : registry.Holds start (element.entries owner start)) {ref child : Nat}
    (inside : ref ∈ List.range' start element.size) (member : child ∈ registry.childrenOf ref) :
    ref < child ∧ registry.owner? child = some ref := by
  obtain ⟨traits, children⟩ := element
  obtain ⟨found, below⟩ := held
  rw [Element.size, Nat.add_comm 1, List.range'_succ] at inside
  rcases List.mem_cons.mp inside with rfl | deeper
  · have top : child ∈ Element.tops (ref + 1) children := by
      simpa [childrenOf, found] using member
    exact ⟨Element.le_of_mem_tops top, owner?_of_mem_tops children below top⟩
  · exact children_of_holds_all children below deeper member

theorem children_of_holds_all {owner start : Nat} (forest : List Element)
    (held : registry.Holds start (Element.entriesAll owner start forest)) {ref child : Nat}
    (inside : ref ∈ List.range' start (Element.sizeAll forest))
    (member : child ∈ registry.childrenOf ref) :
    ref < child ∧ registry.owner? child = some ref := by
  cases forest with
  | nil => cases inside
  | cons element elements =>
      rw [Element.entriesAll, holds_append_iff, Element.length_entries] at held
      rw [Element.sizeAll, ← List.range'_append_1] at inside
      rcases List.mem_append.mp inside with first | later
      · exact children_of_holds element held.1 first member
      · exact children_of_holds_all elements held.2 later member

end

mutual

/-- Inside a held tree every element but the topmost is a child of its owner. -/
theorem attached_of_holds {owner start : Nat} (element : Element)
    (held : registry.Holds start (element.entries owner start)) {ref : Nat}
    (inside : ref ∈ List.range' start element.size) :
    ref = start ∨ ∃ above, registry.owner? ref = some above ∧ ref ∈ registry.childrenOf above := by
  obtain ⟨traits, children⟩ := element
  obtain ⟨found, below⟩ := held
  rw [Element.size, Nat.add_comm 1, List.range'_succ] at inside
  rcases List.mem_cons.mp inside with rfl | deeper
  · exact .inl rfl
  · rcases attached_of_holds_all children below deeper with top | attached
    · have owned := owner?_of_mem_tops children below top
      exact .inr ⟨start, owned, by simpa [childrenOf, found] using top⟩
    · exact .inr attached

theorem attached_of_holds_all {owner start : Nat} (forest : List Element)
    (held : registry.Holds start (Element.entriesAll owner start forest)) {ref : Nat}
    (inside : ref ∈ List.range' start (Element.sizeAll forest)) :
    ref ∈ Element.tops start forest ∨
      ∃ above, registry.owner? ref = some above ∧ ref ∈ registry.childrenOf above := by
  cases forest with
  | nil => cases inside
  | cons element elements =>
      rw [Element.entriesAll, holds_append_iff, Element.length_entries] at held
      rw [Element.sizeAll, ← List.range'_append_1] at inside
      rcases List.mem_append.mp inside with first | later
      · rcases attached_of_holds element held.1 first with rfl | attached
        · exact .inl List.mem_cons_self
        · exact .inr attached
      · rcases attached_of_holds_all elements held.2 later with top | attached
        · exact .inl (List.mem_cons_of_mem _ top)
        · exact .inr attached

end

/-- A fresh root with a forest below it. The root has the number zero. -/
def rooted (root : Traits) (forest : List Element) : Registry :=
  (({} : Registry).create root none).1.plant 0 forest

variable (root : Traits) (forest : List Element)

theorem size_rooted : (rooted root forest).entries.size = 1 + Element.sizeAll forest :=
  size_plant _ forest

theorem rooted_holds : (rooted root forest).Holds 1 (Element.entriesAll 0 1 forest) :=
  holds_plant 0 forest

theorem getElem?_rooted_zero :
    (rooted root forest).entries[0]? = some ⟨root, none, Element.tops 1 forest⟩ := by
  simp [rooted, plant, getElem?_grow, create]

theorem childCount_rooted : (rooted root forest).childCount 0 = forest.length := by
  simp [childCount, getElem?_rooted_zero, Element.length_tops]

theorem view_rooted : (rooted root forest).view 0 = ⟨root, forest⟩ := by
  rw [view_eq (getElem?_rooted_zero root forest)
      (fun child member => Element.le_of_mem_tops member),
    view_tops_of_holds forest (rooted_holds root forest)]

/-- Pre-order from the root counts through all elements. -/
theorem preorder_rooted :
    (rooted root forest).preorder 0 = List.range' 0 (1 + Element.sizeAll forest) := by
  rw [preorder_eq (getElem?_rooted_zero root forest)
      (fun child member => Element.le_of_mem_tops member),
    preorder_tops_of_holds forest (rooted_holds root forest), Nat.add_comm 1, List.range'_succ]

theorem childrenOf_rooted_zero : (rooted root forest).childrenOf 0 = Element.tops 1 forest := by
  simp [childrenOf, getElem?_rooted_zero]

theorem owner?_rooted_zero : (rooted root forest).owner? 0 = none := by
  simp [owner?, getElem?_rooted_zero]

/-- An existing element is the root or belongs to the forest. -/
theorem eq_zero_or_mem_range' {ref : Nat} {entry : Entry}
    (found : (rooted root forest).entries[ref]? = some entry) :
    ref = 0 ∨ ref ∈ List.range' 1 (Element.sizeAll forest) := by
  have bound := (Array.getElem?_eq_some_iff.mp found).1
  rw [size_rooted] at bound
  rw [List.mem_range'_1]
  omega

/-- Every element but the root has an entry of the forest. -/
theorem mem_entriesAll_of_ne_zero {ref : Nat} {entry : Entry} (nonzero : ref ≠ 0)
    (found : (rooted root forest).entries[ref]? = some entry) :
    entry ∈ Element.entriesAll 0 1 forest := by
  have size : (({} : Registry).create root none).1.entries.size = 1 := rfl
  have added : ¬ ref < 1 := by omega
  rw [rooted, plant, getElem?_grow, size, if_neg added] at found
  exact List.mem_of_getElem? found

/-- Children follow the element that holds them, and it owns them. -/
theorem children_rooted {ref child : Nat}
    (member : child ∈ (rooted root forest).childrenOf ref) :
    ref < child ∧ (rooted root forest).owner? child = some ref := by
  cases found : (rooted root forest).entries[ref]? with
  | none => simp [childrenOf, found] at member
  | some entry =>
      rcases eq_zero_or_mem_range' root forest found with rfl | inside
      · rw [childrenOf_rooted_zero] at member
        exact ⟨Element.le_of_mem_tops member,
          owner?_of_mem_tops forest (rooted_holds root forest) member⟩
      · exact children_of_holds_all forest (rooted_holds root forest) inside member

/-- An owned element is among the children of its owner. -/
theorem attached_rooted {ref child : Nat}
    (owned : (rooted root forest).owner? child = some ref) :
    child ∈ (rooted root forest).childrenOf ref := by
  cases found : (rooted root forest).entries[child]? with
  | none => simp [owner?, found] at owned
  | some entry =>
      rcases eq_zero_or_mem_range' root forest found with rfl | inside
      · rw [owner?_rooted_zero] at owned
        cases owned
      · rcases attached_of_holds_all forest (rooted_holds root forest) inside with
          top | ⟨above, same, member⟩
        · have outer := owner?_of_mem_tops forest (rooted_holds root forest) top
          obtain rfl : ref = 0 := Option.some.inj (owned.symm.trans outer)
          rwa [childrenOf_rooted_zero]
        · obtain rfl : ref = above := Option.some.inj (owned.symm.trans same)
          exact member

end Registry

end SourceOutline
