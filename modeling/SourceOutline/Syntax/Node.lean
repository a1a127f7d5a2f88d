/-!
# Syntax trees

A node has a grammar type, a span of bytes and children; a child may stand under a field
name of its parent. Anonymous nodes are the keyword and punctuation tokens.

Trees arrive as rows in document order, each row naming the row of its parent. `ofRows?`
goes through the rows from the last to the first, so that the children of a node are
complete before the node itself is built.
-/

namespace SourceOutline

/-- What a node is, apart from its children. -/
structure Head where
  id : Nat
  type : String
  kindId : Int
  named : Bool
  field : Option String
  start : Nat
  stop : Nat
  deriving DecidableEq, Repr, Inhabited

structure Node where
  head : Head
  children : List Node
  deriving Repr, Inhabited

namespace Node

abbrev id (node : Node) : Nat := node.head.id

abbrev type (node : Node) : String := node.head.type

abbrev named (node : Node) : Bool := node.head.named

def namedChildren (node : Node) : List Node := node.children.filter Node.named

/-- The first child under a field name. -/
def child? (node : Node) (field : String) : Option Node :=
  node.children.find? (fun child => child.head.field == some field)

/-- Whether some child, named or not, has a type. -/
def hasChildOfType (node : Node) (type : String) : Bool :=
  node.children.any (fun child => child.type == type)

mutual

/-- The number of nodes of a tree. -/
def size : Node → Nat
  | ⟨_, children⟩ => 1 + sizeAll children

/-- The number of nodes of a list of trees. -/
def sizeAll : List Node → Nat
  | [] => 0
  | node :: nodes => size node + sizeAll nodes

end

theorem size_pos (node : Node) : 0 < node.size := by
  obtain ⟨head, children⟩ := node
  simp only [size]
  omega

@[simp] theorem sizeAll_append (left right : List Node) :
    sizeAll (left ++ right) = sizeAll left + sizeAll right := by
  induction left with
  | nil => simp [sizeAll]
  | cons node nodes ih => simp only [List.cons_append, sizeAll, ih]; omega

theorem size_le_sizeAll {nodes : List Node} {node : Node} (member : node ∈ nodes) :
    node.size ≤ sizeAll nodes := by
  induction nodes with
  | nil => cases member
  | cons first rest ih =>
      rw [sizeAll]
      rcases List.mem_cons.mp member with rfl | later
      · omega
      · have smaller := ih later
        omega

theorem size_lt_of_mem {node child : Node} (member : child ∈ node.children) :
    child.size < node.size := by
  obtain ⟨head, children⟩ := node
  have smaller : child.size ≤ sizeAll children := size_le_sizeAll member
  rw [size]
  omega

/-- A node of a tree that was written row by row. -/
structure Row where
  parent : Option Nat
  head : Head

/-- Build the tree of rows whose first one is the root; nothing without rows. A row's
children are the rows that name it as their parent, in order. -/
def ofRows? (rows : List Row) : Option Node :=
  let below := rows.foldr
    (fun row below =>
      match row.parent with
      | some parent =>
        below.modify parent (fun siblings => ⟨row.head, below.getD row.head.id []⟩ :: siblings)
      | none => below)
    (Array.replicate rows.length [])
  rows.head?.map (fun root => ⟨root.head, below.getD root.head.id []⟩)

end Node

end SourceOutline
