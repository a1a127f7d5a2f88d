import SourceOutline.Failure
import SourceOutline.Model.Element

/-!
# The registry of elements

Elements are created with a fixed owner and attached to it afterwards, possibly more than
once. The registry numbers them in the order of creation. An owner exists before what it
owns, so numbers grow from owners to children; this is why the tree below an element and the
chain of owners above it are both finite.
-/

namespace SourceOutline

structure Entry where
  traits : Traits
  owner : Option Nat
  children : List Nat
  deriving DecidableEq, Repr, Inhabited

structure Registry where
  entries : Array Entry := #[]
  deriving DecidableEq, Repr, Inhabited

namespace Registry

/-- Create an element. It is not attached yet. -/
def create (registry : Registry) (traits : Traits) (owner : Option Nat) : Registry × Nat :=
  (⟨registry.entries.push ⟨traits, owner, []⟩⟩, registry.entries.size)

/-- Append an element to the children of another one, which must be its owner. -/
def attach (registry : Registry) (owner child : Nat) : Except Failure Registry :=
  match registry.entries[child]? with
  | none => .ok registry
  | some entry =>
    if entry.owner = some owner then
      .ok ⟨registry.entries.modify owner fun e => { e with children := e.children ++ [child] }⟩
    else .error (.foreignOwner entry.traits.detail.kind entry.traits.name)

/-- Create a chain of elements, the first owned by `owner` and every other by the one before,
and attach each to its owner. The result is the innermost element. -/
def graft (registry : Registry) (owner : Nat) : List Traits → Except Failure (Registry × Nat)
  | [] => .ok (registry, owner)
  | traits :: inner => do
    let (created, ref) := registry.create traits (some owner)
    let (grown, innermost) ← created.graft ref inner
    return (← grown.attach owner ref, innermost)

/-- The tree below an element. -/
def view (registry : Registry) (ref : Nat) : Element :=
  match _ : registry.entries[ref]? with
  | none => default
  | some entry =>
    { traits := entry.traits
      children := (entry.children.filter (ref < ·)).attach.map fun child =>
        registry.view child.1 }
  termination_by registry.entries.size - ref
  decreasing_by
    obtain ⟨bound, -⟩ := Array.getElem?_eq_some_iff.1 ‹_›
    have above := of_decide_eq_true (List.mem_filter.1 child.2).2
    omega

/-- The names from the outermost owner down to an element. -/
def namePath (registry : Registry) (ref : Nat) : List String :=
  match registry.entries[ref]? with
  | none => []
  | some entry =>
    match entry.owner with
    | some owner => (if owner < ref then registry.namePath owner else []) ++ [entry.traits.name]
    | none => [entry.traits.name]
  termination_by ref

/-- The names of an element and its owners with dots between them. -/
def qualifiedName (registry : Registry) (ref : Nat) : String :=
  Text.join '.' (registry.namePath ref)

/-- The numbers of an element and of all elements below it, in pre-order. -/
def preorder (registry : Registry) (ref : Nat) : List Nat :=
  match _ : registry.entries[ref]? with
  | none => []
  | some entry =>
    ref :: (entry.children.filter (ref < ·)).attach.flatMap fun child => registry.preorder child.1
  termination_by registry.entries.size - ref
  decreasing_by
    obtain ⟨bound, -⟩ := Array.getElem?_eq_some_iff.1 ‹_›
    have above := of_decide_eq_true (List.mem_filter.1 child.2).2
    omega

/-- How many children an element has. -/
def childCount (registry : Registry) (ref : Nat) : Nat :=
  ((registry.entries[ref]?).map (fun entry => entry.children.length)).getD 0

end Registry

end SourceOutline
