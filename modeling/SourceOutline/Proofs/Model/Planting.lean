import SourceOutline.Model.Registry

/-!
# Forests in a registry

A walk grows a registry in pre-order: an element is entered, then everything below it, then
its next sibling. `Registry.plant` says in closed form what a whole forest adds: the entries
of its elements numbered in pre-order, and the numbers of its topmost elements at the end of
their owner's children. Planting is compositional over sibling lists and over nesting, so
`graft` and every later step of a walk are plantings.
-/

namespace SourceOutline

namespace Element

mutual

/-- The number of elements of a tree. -/
def size : Element → Nat
  | ⟨_, children⟩ => 1 + sizeAll children

def sizeAll : List Element → Nat
  | [] => 0
  | element :: elements => size element + sizeAll elements

end

/-- The numbers of the topmost elements of a forest that is numbered in pre-order. -/
def tops (start : Nat) : List Element → List Nat
  | [] => []
  | element :: elements => start :: tops (start + element.size) elements

mutual

/-- The entries of a tree whose element has the number `start`, in pre-order. -/
def entries (owner start : Nat) : Element → List Entry
  | ⟨traits, children⟩ =>
    ⟨traits, some owner, tops (start + 1) children⟩ :: entriesAll start (start + 1) children

def entriesAll (owner start : Nat) : List Element → List Entry
  | [] => []
  | element :: elements =>
    entries owner start element ++ entriesAll owner (start + element.size) elements

end

/-- One element per trait, each inside the one before, with a forest inside the last. -/
def nest : List Traits → List Element → List Element
  | [], below => below
  | traits :: inner, below => [⟨traits, nest inner below⟩]

theorem sizeAll_append (first second : List Element) :
    sizeAll (first ++ second) = sizeAll first + sizeAll second := by
  induction first with
  | nil => simp [sizeAll]
  | cons element elements ih => simp only [List.cons_append, sizeAll, ih, Nat.add_assoc]

theorem sizeAll_nest (chain : List Traits) (below : List Element) :
    sizeAll (nest chain below) = chain.length + sizeAll below := by
  induction chain with
  | nil => simp [nest]
  | cons traits inner ih =>
      simp only [nest, sizeAll, size, ih, List.length_cons]
      omega

mutual

theorem length_entries (owner start : Nat) (element : Element) :
    (entries owner start element).length = element.size := by
  obtain ⟨traits, children⟩ := element
  simp only [entries, size, List.length_cons, length_entriesAll start (start + 1) children]
  omega

theorem length_entriesAll (owner start : Nat) (forest : List Element) :
    (entriesAll owner start forest).length = sizeAll forest := by
  cases forest with
  | nil => rfl
  | cons element elements =>
      simp only [entriesAll, sizeAll, List.length_append, length_entries owner start element,
        length_entriesAll owner (start + element.size) elements]

end

theorem tops_append (start : Nat) (first second : List Element) :
    tops start (first ++ second) = tops start first ++ tops (start + sizeAll first) second := by
  induction first generalizing start with
  | nil => simp [tops, sizeAll]
  | cons element elements ih =>
      simp only [List.cons_append, tops, sizeAll, ih, Nat.add_assoc]

theorem entriesAll_append (owner start : Nat) (first second : List Element) :
    entriesAll owner start (first ++ second) =
      entriesAll owner start first ++ entriesAll owner (start + sizeAll first) second := by
  induction first generalizing start with
  | nil => simp [entriesAll, sizeAll]
  | cons element elements ih =>
      simp only [List.cons_append, entriesAll, sizeAll, ih, Nat.add_assoc, List.append_assoc]

end Element

namespace Registry

section

variable (registry : Registry) (ref : Nat)

/-- The owner that an element was created with. -/
def owner? : Option Nat := (registry.entries[ref]?).bind Entry.owner

/-- The children attached to an element. -/
def childrenOf : List Nat := ((registry.entries[ref]?).map Entry.children).getD []

def traits? : Option Traits := (registry.entries[ref]?).map Entry.traits

end

/-- Append children to an existing element and entries at the end. -/
def grow (registry : Registry) (owner : Nat) (children : List Nat) (added : List Entry) :
    Registry :=
  ⟨registry.entries.modify owner
      (fun entry => { entry with children := entry.children ++ children }) ++ added.toArray⟩

/-- Enter a forest below an existing element. -/
def plant (registry : Registry) (owner : Nat) (forest : List Element) : Registry :=
  registry.grow owner (Element.tops registry.entries.size forest)
    (Element.entriesAll owner registry.entries.size forest)

variable (registry : Registry) {owner : Nat}

theorem getElem?_grow (children : List Nat) (added : List Entry) (ref : Nat) :
    (registry.grow owner children added).entries[ref]? =
      if ref < registry.entries.size then
        (registry.entries[ref]?).map fun entry =>
          if ref = owner then { entry with children := entry.children ++ children } else entry
      else added[ref - registry.entries.size]? := by
  simp only [grow, Array.getElem?_append, Array.getElem?_modify, Array.size_modify,
    List.getElem?_toArray]
  by_cases old : ref < registry.entries.size
  · by_cases same : owner = ref
    · simp [old, same]
    · simp [old, same, Ne.symm same]
  · simp [old]

theorem size_grow (children : List Nat) (added : List Entry) :
    (registry.grow owner children added).entries.size =
      registry.entries.size + added.length := by
  simp [grow]

theorem size_plant (forest : List Element) :
    (registry.plant owner forest).entries.size =
      registry.entries.size + Element.sizeAll forest := by
  rw [plant, size_grow, Element.length_entriesAll]

theorem ext_getElem? {first second : Registry}
    (same : ∀ ref : Nat, first.entries[ref]? = second.entries[ref]?) : first = second := by
  obtain ⟨entries⟩ := first
  obtain ⟨entries'⟩ := second
  exact congrArg Registry.mk (Array.ext_getElem? same)

theorem plant_nil : registry.plant owner [] = registry := by
  apply ext_getElem?
  intro ref
  simp only [plant, Element.tops, Element.entriesAll, getElem?_grow, List.append_nil, ite_self]
  by_cases old : ref < registry.entries.size
  · simp [old]
  · simp [old]

/-- Growing twice below the same element. -/
theorem grow_grow (bound : owner < registry.entries.size) (children children' : List Nat)
    (added added' : List Entry) :
    (registry.grow owner children added).grow owner children' added' =
      registry.grow owner (children ++ children') (added ++ added') := by
  apply ext_getElem?
  intro ref
  simp only [getElem?_grow, size_grow]
  grind

/-- Growing below an element that was entered last. -/
theorem grow_grow_last (bound : owner < registry.entries.size) (traits : Traits)
    (children : List Nat) (added : List Entry) :
    (registry.grow owner [registry.entries.size] [⟨traits, some owner, []⟩]).grow
        registry.entries.size children added =
      registry.grow owner [registry.entries.size] (⟨traits, some owner, children⟩ :: added) := by
  apply ext_getElem?
  intro ref
  simp only [getElem?_grow, size_grow]
  grind

/-- Siblings may be planted in two goes. -/
theorem plant_plant (bound : owner < registry.entries.size) (first second : List Element) :
    (registry.plant owner first).plant owner second = registry.plant owner (first ++ second) := by
  rw [plant, size_plant, plant, grow_grow registry bound, plant, Element.tops_append,
    Element.entriesAll_append]

/-- So may an element and the forest below it. -/
theorem plant_below (bound : owner < registry.entries.size) (traits : Traits)
    (below : List Element) :
    (registry.plant owner [⟨traits, []⟩]).plant registry.entries.size below =
      registry.plant owner [⟨traits, below⟩] := by
  have size : (registry.plant owner [⟨traits, []⟩]).entries.size = registry.entries.size + 1 := by
    simp [size_plant, Element.sizeAll, Element.size]
  rw [plant, size]
  simp only [plant, Element.tops, Element.entriesAll, Element.entries, List.append_nil]
  exact grow_grow_last registry bound traits _ _

/-- The number of the innermost element of a chain that is entered at `start`. -/
def innermost (owner start : Nat) : List Traits → Nat
  | [] => owner
  | _ :: inner => innermost start (start + 1) inner

theorem innermost_lt {start : Nat} (bound : owner < start) (chain : List Traits) :
    innermost owner start chain < start + chain.length := by
  induction chain generalizing owner start with
  | nil => exact bound
  | cons traits inner ih =>
      have deeper := ih (show start < start + 1 by omega)
      simp only [innermost, List.length_cons]
      omega

/-- What is planted into a planted chain lies inside its innermost element. -/
theorem plant_innermost (bound : owner < registry.entries.size) (chain : List Traits)
    (below : List Element) :
    (registry.plant owner (Element.nest chain [])).plant
        (innermost owner registry.entries.size chain) below =
      registry.plant owner (Element.nest chain below) := by
  induction chain generalizing registry owner with
  | nil => rw [Element.nest, plant_nil, innermost, Element.nest]
  | cons traits inner ih =>
      have size : (registry.plant owner [⟨traits, []⟩]).entries.size =
          registry.entries.size + 1 := by
        simp [size_plant, Element.sizeAll, Element.size]
      have nested := @ih (registry.plant owner [⟨traits, []⟩]) registry.entries.size (by omega)
      rw [size, plant_below registry bound, plant_below registry bound] at nested
      simpa only [Element.nest, innermost] using nested

/-- Growing changes no owner. -/
theorem owner?_grow {ref : Nat} (old : ref < registry.entries.size) (children : List Nat)
    (added : List Entry) :
    (registry.grow owner children added).owner? ref = registry.owner? ref := by
  simp only [owner?, getElem?_grow, if_pos old]
  cases registry.entries[ref]? with
  | none => rfl
  | some entry =>
      simp only [Option.map_some, Option.bind_some]
      split <;> rfl

/-- Attaching to the right owner succeeds. -/
theorem attach_eq_grow {child : Nat} (owned : registry.owner? child = some owner) :
    registry.attach owner child = .ok (registry.grow owner [child] []) := by
  obtain ⟨entry, found, same⟩ := Option.bind_eq_some_iff.mp owned
  rw [attach, found]
  simp [same, grow]

/-- An element that is created first, filled next and attached last is planted. -/
theorem attach_created (bound : owner < registry.entries.size) (traits : Traits)
    (below : List Element) :
    ((registry.create traits (some owner)).1.plant registry.entries.size below).attach owner
        registry.entries.size =
      .ok (registry.plant owner [⟨traits, below⟩]) := by
  have size : (registry.create traits (some owner)).1.entries.size =
      registry.entries.size + 1 := by
    simp [create]
  have owned : ((registry.create traits (some owner)).1.plant registry.entries.size
      below).owner? registry.entries.size = some owner := by
    rw [plant, owner?_grow _ (by omega)]
    simp [owner?, create]
  rw [attach_eq_grow _ owned]
  congr 1
  apply ext_getElem?
  intro ref
  simp only [plant, size_grow, size, getElem?_grow, Element.tops, Element.entriesAll,
    Element.entries, List.append_nil]
  simp only [create, Array.getElem?_push]
  grind

/-- Grafting a chain is planting it, and it never fails on an existing owner. -/
theorem graft_eq_plant (bound : owner < registry.entries.size) (chain : List Traits) :
    registry.graft owner chain =
      .ok (registry.plant owner (Element.nest chain []),
        innermost owner registry.entries.size chain) := by
  induction chain generalizing registry owner with
  | nil => rw [graft, Element.nest, plant_nil, innermost]
  | cons traits inner ih =>
      have size : (registry.create traits (some owner)).1.entries.size =
          registry.entries.size + 1 := by
        simp [create]
      have filled :=
        @ih (registry.create traits (some owner)).1 registry.entries.size (by omega)
      have attached := registry.attach_created bound traits (Element.nest inner [])
      rw [graft]
      simp only [show (registry.create traits (some owner)).2 = registry.entries.size from rfl]
      rw [filled, size]
      simp only [Element.nest, innermost]
      change (do
        let grown ← ((registry.create traits (some owner)).1.plant registry.entries.size
          (Element.nest inner [])).attach owner registry.entries.size
        pure (grown, innermost registry.entries.size (registry.entries.size + 1) inner)) = _
      rw [attached]
      rfl

/-- Whatever the registry and the owner, a chain can be grafted: an element is attached only
to the owner it was created with, and owners never change. -/
theorem exists_graft_eq_ok (owner : Nat) (chain : List Traits) :
    ∃ grown inner, registry.graft owner chain = .ok (grown, inner) ∧
      registry.entries.size ≤ grown.entries.size ∧
      ∀ ref, ref < registry.entries.size → grown.owner? ref = registry.owner? ref := by
  induction chain generalizing registry owner with
  | nil => exact ⟨registry, owner, rfl, Nat.le_refl _, fun _ _ => rfl⟩
  | cons traits inner ih =>
      obtain ⟨grown, innermost, filled, larger, kept⟩ :=
        ih (registry.create traits (some owner)).1 registry.entries.size
      have size : (registry.create traits (some owner)).1.entries.size =
          registry.entries.size + 1 := by
        simp [create]
      have created : grown.owner? registry.entries.size = some owner := by
        rw [kept _ (by omega)]
        simp [owner?, create]
      refine ⟨grown.grow owner [registry.entries.size] [], innermost, ?_, ?_, ?_⟩
      · rw [graft]
        simp only [show (registry.create traits (some owner)).2 = registry.entries.size from rfl]
        rw [filled]
        change (do
          let attached ← grown.attach owner registry.entries.size
          pure (attached, innermost)) = _
        rw [attach_eq_grow _ created]
        rfl
      · rw [size_grow]
        omega
      · intro ref bound
        rw [owner?_grow _ (by omega), kept ref (by omega)]
        simp [owner?, create, Array.getElem?_push, Nat.ne_of_lt bound]

end Registry

end SourceOutline
