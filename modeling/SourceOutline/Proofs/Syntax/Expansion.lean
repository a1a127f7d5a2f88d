import SourceOutline.Proofs.Syntax.Likeness
import SourceOutline.Proofs.Text.Blank

/-!
# Dotted namespaces and nested ones

`namespace A.B.C { … }` may be written as three namespaces inside each other. A tree expands to
another one if dotted namespaces are replaced in this way, in any number of places; the ids of
the nodes are free, and everything else stays as it is. The new namespaces are plain statements
of their blocks: nothing stands beside them but punctuation, and nothing around them but
expression statements.

Most of what is read at a node is the same after an expansion, since it depends on the types and
spans of the node and its children, and on the types of its ancestors up to the next namespace.
-/

namespace SourceOutline

namespace Node

/-- A keyword or a punctuation mark. -/
structure IsToken (types : List String) (node : Node) : Prop where
  type : node.type ∈ types
  anonymous : node.named = false
  childless : node.children = []
  unplaced : node.head.field = none

mutual

/-- Whether a tree consists of identifiers and dots. -/
def isDotted : Node → Bool
  | ⟨head, children⟩ =>
    (head.type == "nested_identifier" || head.type == "member_expression" ||
      head.type == "identifier" || head.type == "property_identifier" || head.type == ".") &&
      isDottedAll children

def isDottedAll : List Node → Bool
  | [] => true
  | node :: nodes => isDotted node && isDottedAll nodes

end

/-- All children but one are punctuation. -/
def Encloses (node inner : Node) : Prop :=
  ∃ before after, node.children = before ++ inner :: after ∧
    ∀ token ∈ before ++ after, token.IsToken ["\x7b", "\x7d", ";"]

/-- A named node is the only statement of a block, possibly inside expression statements, which
are listed from the inside out. -/
inductive Carries : (block inner : Node) → (between : List Node) → Prop
  | directly {block inner : Node} (encloses : block.Encloses inner) (named : inner.named = true) :
      Carries block inner []
  | wrapped {block statement inner : Node} {between : List Node}
      (encloses : block.Encloses statement) (named : statement.named = true)
      (type : statement.type = "expression_statement")
      (deeper : Carries statement inner between) : Carries block inner (between ++ [statement])

end Node

namespace Document

/-- A node that stands for names: an identifier, or a dotted name with blanks around its dots. -/
inductive Calls (document : Document) : List String → Node → Prop
  | identifier {label : Node} {name : String} (type : label.type = "identifier")
      (childless : label.children = []) (read : document.text label = .ok name)
      (undotted : '.' ∉ name.toList) : Calls document [name] label
  | dotted {label : Node} {names : List String} {text : String}
      (type : label.type = "nested_identifier") (made : label.isDotted = true)
      (read : document.text label = .ok text) (spells : Text.Spells names text)
      (nonempty : names ≠ []) (undotted : ∀ name ∈ names, '.' ∉ name.toList) :
      Calls document names label

/-- A namespace that consists of its keyword, a name and a body. -/
structure Opens (document : Document) (names : List String) (node body : Node) : Prop where
  type : node.type = "internal_module"
  parts : ∃ keyword label, node.children = [keyword, label, body] ∧
    keyword.IsToken ["namespace"] ∧ label.head.field = some "name" ∧ document.Calls names label
  bodyType : body.type = "statement_block"
  bodyField : body.head.field = some "body"

/-- Namespaces inside each other, with their names in a row and the body of the innermost. The
spine leads from that body up to the outermost namespace. -/
inductive Nests (document : Document) (body : Node) :
    List String → (outermost : Node) → (spine : List Node) → Prop
  | innermost {names : List String} {node : Node} (opens : document.Opens names node body) :
      Nests document body names node [node]
  | around {outer names : List String} {node block inner : Node} {between spine : List Node}
      (opens : document.Opens outer node block) (carries : block.Carries inner between)
      (rest : Nests document body names inner spine) :
      Nests document body (outer ++ names) node (spine ++ (between ++ [block, node]))

end Document

/-- A tree of one file expands to a tree of another: some of its dotted namespaces are written
as nested ones. -/
inductive Expands (document document' : Document) : Node → Node → Prop
  | same {node node' : Node} (alike : node.Matches node')
      (below : List.Forall₂ (Expands document document') node.children node'.children) :
      Expands document document' node node'
  | split {node node' body body' : Node} {names : List String} {spine : List Node}
      (alike : node.Matches node') (dotted : document.Opens names node body)
      (nested : document'.Nests body' names node' spine)
      (inside : Expands document document' body body') : Expands document document' node node'

namespace Document

variable {document : Document} {names : List String} {node body : Node} {spine : List Node}

namespace Opens

theorem isNamespace (opens : document.Opens names node body) :
    isNamespaceType node.type = true := by
  rw [opens.type]
  rfl

theorem child?_name (opens : document.Opens names node body) :
    ∃ label, node.child? "name" = some label ∧ document.Calls names label := by
  obtain ⟨keyword, label, children, token, field, calls⟩ := opens.parts
  refine ⟨label, ?_, calls⟩
  simp [Node.child?, children, token.unplaced, field]

theorem child?_body (opens : document.Opens names node body) : node.child? "body" = some body := by
  obtain ⟨keyword, label, children, token, field, -⟩ := opens.parts
  simp [Node.child?, children, token.unplaced, field, opens.bodyField]

theorem body_mem (opens : document.Opens names node body) : body ∈ node.children :=
  List.mem_of_find?_eq_some opens.child?_body

end Opens

/-- The outermost of nested namespaces is a namespace itself. -/
theorem Nests.opens (nests : document.Nests body names node spine) :
    ∃ outer block, document.Opens outer node block := by
  cases nests with
  | innermost opens => exact ⟨_, _, opens⟩
  | around opens _ _ => exact ⟨_, _, opens⟩

/-- The way up from the innermost body passes the inner namespaces first. -/
theorem spine_append (spine between : List Node) (block node : Node) (above : List Node) :
    spine ++ (between ++ [block, node]) ++ above =
      spine ++ (between ++ block :: node :: above) := by
  simp only [List.append_assoc, List.cons_append, List.nil_append]

/-- The innermost of nested namespaces stands directly above the body. -/
theorem Nests.spine_eq (nests : document.Nests body names node spine) :
    ∃ inner higher, spine = inner :: higher ∧ inner.type = "internal_module" := by
  induction nests with
  | innermost opens => exact ⟨_, _, rfl, opens.type⟩
  | around _ _ _ ih =>
      obtain ⟨inner, higher, rfl, type⟩ := ih
      exact ⟨inner, _, rfl, type⟩

end Document

variable {document document' : Document} {node node' : Node}

namespace Expands

mutual

/-- Nothing has to be replaced. -/
theorem refl (node : Node) : Expands document document' node node := by
  obtain ⟨head, children⟩ := node
  exact .same rfl (refl_all children)

theorem refl_all (nodes : List Node) : List.Forall₂ (Expands document document') nodes nodes := by
  cases nodes with
  | nil => exact .nil
  | cons node nodes => exact .cons (refl node) (refl_all nodes)

end

theorem alike (expands : Expands document document' node node') : node.Matches node' := by
  cases expands <;> assumption

theorem below_or_split (expands : Expands document document' node node') :
    List.Forall₂ (Expands document document') node.children node'.children ∨
      ∃ names body body' spine, document.Opens names node body ∧
        document'.Nests body' names node' spine ∧ Expands document document' body body' := by
  cases expands with
  | same _ below => exact .inl below
  | split _ dotted nested inside => exact .inr ⟨_, _, _, _, dotted, nested, inside⟩

/-- Namespaces are not looked into, so an expansion reads the same. -/
theorem like {node node' : Node} (expands : Expands document document' node node') :
    node.Like node' := by
  obtain below | ⟨_, _, _, _, dotted, _⟩ := expands.below_or_split
  · refine .of_children expands.alike ((List.forall₂_mem below).imp ?_)
    intro child child' ⟨member, deeper⟩
    exact like deeper
  · exact .closed expands.alike (by rw [dotted.type]; rfl)
  termination_by node.size
  decreasing_by exact Node.size_lt_of_mem member

end Expands

/-- Below a namespace and inside nested ones, the same is seen on the way up. -/
theorem Document.Nests.sameAbove {names : List String} {body outermost : Node} {spine : List Node}
    (nests : document.Nests body names outermost spine) {outer : Node}
    (type : outer.type = "internal_module") (above above' : List Node) :
    SameAbove (outer :: above) (spine ++ above') := by
  obtain ⟨inner, higher, rfl, innerType⟩ := nests.spine_eq
  exact .inside type innerType

end SourceOutline
