import SourceOutline.Proofs.Declaration.Visibility
import SourceOutline.Proofs.Parallel

/-!
# Trees that read the same

Little of a tree is ever read. Of most nodes only the head counts: the type, the field and the
span. A few types are looked into when something around them is read, such as dotted expressions
and the clauses of a class or an import. Comments among the children are passed over, unless the
children are taken by their position. Two nodes are alike if their heads match and if the children
that count are alike wherever they are looked into.

What is read at a site depends on its node up to this likeness and on the types of its ancestors,
so sites that resemble each other have the same text, the same modifiers and the same context.
-/

namespace SourceOutline

namespace Node

/-- The nodes differ at most in their ids and their children. -/
def Matches (node node' : Node) : Prop := node'.head = { node.head with id := node'.id }

namespace Matches

variable {node node' : Node}

theorem type_eq (alike : node.Matches node') : node.type = node'.type :=
  (congrArg Head.type alike).symm

theorem named_eq (alike : node.Matches node') : node.named = node'.named :=
  (congrArg Head.named alike).symm

theorem field_eq (alike : node.Matches node') : node.head.field = node'.head.field :=
  (congrArg Head.field alike).symm

theorem kindId_eq (alike : node.Matches node') : node.head.kindId = node'.head.kindId :=
  (congrArg Head.kindId alike).symm

theorem start_eq (alike : node.Matches node') : node.head.start = node'.head.start :=
  (congrArg Head.start alike).symm

theorem stop_eq (alike : node.Matches node') : node.head.stop = node'.head.stop :=
  (congrArg Head.stop alike).symm

end Matches

/-- Comments that stand under no field. -/
def isRemark (node : Node) : Bool :=
  node.type == "comment" && node.named && node.head.field.isNone

theorem type_of_isRemark {node : Node} (remark : node.isRemark = true) :
    node.type = "comment" := by
  simp only [isRemark, Bool.and_eq_true, beq_iff_eq] at remark
  exact remark.1.1

theorem field_of_isRemark {node : Node} (remark : node.isRemark = true) :
    node.head.field = none := by
  simp only [isRemark, Bool.and_eq_true, Option.isNone_iff_eq_none] at remark
  exact remark.2

theorem Matches.isRemark_eq {node node' : Node} (alike : node.Matches node') :
    node.isRemark = node'.isRemark := by
  rw [isRemark, isRemark, alike.type_eq, alike.named_eq, alike.field_eq]

end Node

/-- Types whose named children are taken by their position, comments among them. -/
def isOrderedType (type : String) : Bool :=
  ["type_annotation", "array_type", "import_alias", "import_require_clause", "namespace_import",
    "extends_clause", "member_expression", "nested_identifier"].contains type

namespace Node

/-- The children that count when a node is read. -/
def substance (node : Node) : List Node :=
  if isOrderedType node.type then node.children
  else node.children.filter fun child => !child.isRemark

/-- Some children of a node, among them the first one under each field. -/
structure Selection (node : Node) (nodes : List Node) : Prop where
  sublist : nodes.Sublist node.children
  child?_eq (field : String) :
    node.child? field = nodes.find? fun child => child.head.field == some field

section

variable {node : Node}

theorem substance_of_ordered (ordered : isOrderedType node.type = true) :
    node.substance = node.children := if_pos ordered

/-- What no remark passes selects from all children what it selects from those that count. -/
theorem filter_substance {test : Node → Bool}
    (ignores : ∀ child : Node, child.isRemark = true → test child = false) :
    node.substance.filter test = node.children.filter test := by
  rw [substance]
  split
  · rfl
  · rw [List.filter_filter]
    refine List.filter_congr fun child _ => ?_
    cases remark : child.isRemark with
    | true => rw [ignores child remark, Bool.false_and]
    | false => exact Bool.and_true _

theorem find?_substance {test : Node → Bool}
    (ignores : ∀ child : Node, child.isRemark = true → test child = false) :
    node.substance.find? test = node.children.find? test := by
  rw [← List.head?_filter, ← List.head?_filter, filter_substance ignores]

theorem any_substance {test : Node → Bool}
    (ignores : ∀ child : Node, child.isRemark = true → test child = false) :
    node.substance.any test = node.children.any test := by
  rw [← List.isSome_find?, ← List.isSome_find?, find?_substance ignores]

theorem ignores_field (field : String) (child : Node) (remark : child.isRemark = true) :
    (child.head.field == some field) = false := by
  rw [field_of_isRemark remark]
  rfl

theorem ignores_type {type : String} (spoken : type ≠ "comment") (child : Node)
    (remark : child.isRemark = true) : (child.type == type) = false := by
  rw [type_of_isRemark remark, beq_eq_false_iff_ne]
  exact spoken.symm

theorem Selection.children : node.Selection node.children := ⟨.refl _, fun _ => rfl⟩

theorem Selection.substance : node.Selection node.substance := by
  refine ⟨?_, fun field => ?_⟩
  · rw [Node.substance]
    split
    · exact List.Sublist.refl _
    · exact List.filter_sublist
  · rw [child?, find?_substance (ignores_field field)]

end

section

variable {related : Node → Node → Prop} {node node' : Node}
  (matching : ∀ child child', related child child' → child.Matches child')

include matching

/-- A test of heads selects related nodes. -/
theorem rel_filter {nodes nodes' : List Node} {test : Node → Bool}
    (heads : ∀ child child' : Node, child.Matches child' → test child = test child')
    (each : List.Forall₂ related nodes nodes') :
    List.Forall₂ related (nodes.filter test) (nodes'.filter test) := by
  refine List.rel_filter (fun child child' alike => ?_) each
  exact iff_of_eq (congrArg (· = true) (heads child child' (matching child child' alike)))

/-- If all children are related, those that count are. -/
theorem forall₂_substance (types : node.type = node'.type)
    (each : List.Forall₂ related node.children node'.children) :
    List.Forall₂ related node.substance node'.substance := by
  rw [substance, substance, types]
  split
  · exact each
  · exact rel_filter matching (fun _ _ alike => congrArg not alike.isRemark_eq) each

theorem rel_child? {nodes nodes' : List Node} (selected : node.Selection nodes)
    (selected' : node'.Selection nodes') (each : List.Forall₂ related nodes nodes')
    (field : String) : Option.Rel related (node.child? field) (node'.child? field) := by
  rw [selected.child?_eq, selected'.child?_eq]
  refine List.rel_find? each fun child child' alike => ?_
  rw [(matching child child' alike).field_eq]

variable (each : List.Forall₂ related node.substance node'.substance)

include each

theorem hasChildOfType_eq {type : String} (spoken : type ≠ "comment") :
    node.hasChildOfType type = node'.hasChildOfType type := by
  rw [hasChildOfType, hasChildOfType, ← any_substance (ignores_type spoken),
    ← any_substance (ignores_type spoken)]
  refine List.any_eq_of_forall₂ each fun child child' alike => ?_
  rw [(matching child child' alike).type_eq]

theorem rel_ofType {type : String} (spoken : type ≠ "comment") :
    List.Forall₂ related (node.children.filter fun child => child.type == type)
      (node'.children.filter fun child => child.type == type) := by
  rw [← filter_substance (ignores_type spoken), ← filter_substance (ignores_type spoken)]
  exact rel_filter matching (fun _ _ alike => congrArg (· == type) alike.type_eq) each

theorem rel_namedOfType {type : String} (spoken : type ≠ "comment") :
    Option.Rel related (node.namedChildren.find? fun child => child.type == type)
      (node'.namedChildren.find? fun child => child.type == type) := by
  rw [namedChildren, namedChildren, ← List.head?_filter, ← List.head?_filter,
    List.filter_comm _ named node.children, List.filter_comm _ named node'.children]
  exact List.rel_head? (rel_filter matching (fun _ _ => Matches.named_eq)
    (rel_ofType matching each spoken))

/-- Named children by their position. -/
theorem rel_namedChildren (types : node.type = node'.type)
    (ordered : isOrderedType node.type = true) :
    List.Forall₂ related node.namedChildren node'.namedChildren := by
  rw [substance_of_ordered ordered, substance_of_ordered (types ▸ ordered)] at each
  exact rel_filter matching (fun _ _ => Matches.named_eq) each

end

end Node

/-- Types that are looked into when something around them is read. -/
def isOpenType (type : String) : Bool :=
  ["class_heritage", "extends_clause", "member_expression", "nested_identifier",
    "variable_declarator", "import_clause", "import_require_clause", "named_imports",
    "namespace_import", "import_specifier", "type_annotation", "array_type",
    "generic_type"].contains type

/-- Types whose children may be looked into: the open ones, and the declarations with parts of
such a type. -/
def isDeepType (type : String) : Bool :=
  isOpenType type || isClassType type || type == "lexical_declaration" ||
    type == "variable_declaration" || type == "import_statement"

/-- The nodes read the same from outside. -/
inductive Node.Like : Node → Node → Prop
  | closed {node node' : Node} (alike : node.Matches node')
      (unread : isOpenType node.type = false) : Like node node'
  | opened {node node' : Node} (alike : node.Matches node')
      (below : List.Forall₂ Like node.substance node'.substance) : Like node node'

namespace Node.Like

variable {node node' : Node}

theorem alike (like : node.Like node') : node.Matches node' := by
  cases like <;> assumption

theorem inside (like : node.Like node') (read : isOpenType node.type = true) :
    List.Forall₂ Like node.substance node'.substance := by
  cases like with
  | closed _ unread => cases unread.symm.trans read
  | opened _ below => exact below

theorem of_children (alike : node.Matches node')
    (below : List.Forall₂ Like node.children node'.children) : node.Like node' :=
  .opened alike (forall₂_substance (fun _ _ like => like.alike) alike.type_eq below)

end Node.Like

variable {document document' : Document} {node node' : Node}

section

variable (content : document.content = document'.content)

include content

theorem text_eq_of_matches (alike : node.Matches node') :
    document.text node = document'.text node' := by
  rw [Document.text, Document.text, content, alike.start_eq, alike.stop_eq]

theorem position_eq_of_matches (alike : node.Matches node') :
    document.position node = document'.position node' := by
  rw [Document.position, Document.position, content, alike.start_eq]

theorem text?_eq_of_rel {node? node?' : Option Node}
    (both : Option.Rel Node.Matches node? node?') :
    document.text? node? = document'.text? node?' := by
  cases both with
  | none => rfl
  | some alike => exact text_eq_of_matches content alike

theorem childModifiers_eq {nodes nodes' : List Node}
    (each : List.Forall₂ Node.Matches nodes nodes') :
    childModifiers document nodes = childModifiers document' nodes' := by
  induction each with
  | nil => rfl
  | cons first _ ih =>
      rw [childModifiers, childModifiers, ih, childModifier?, childModifier?, first.type_eq,
        text_eq_of_matches content first]

end

/-- A remark is no modifier. -/
theorem childModifiers_substance (document : Document) (node : Node) :
    childModifiers document node.substance = childModifiers document node.children := by
  rw [Node.substance]
  split
  · rfl
  · induction node.children with
    | nil => rfl
    | cons child children ih =>
        cases remark : child.isRemark with
        | false => rw [List.filter_cons_of_pos (by rw [remark]; rfl), childModifiers,
            childModifiers, ih]
        | true =>
            have none : childModifier? document child = .ok none := by
              rw [childModifier?, Node.type_of_isRemark remark]
              rfl
            rw [List.filter_cons_of_neg (by rw [remark]; decide), childModifiers, none, ih]
            cases childModifiers document children <;> rfl

/-- Chains of ancestors with the same types up to the nearest namespace. -/
inductive SameAbove : List Node → List Node → Prop
  | file : SameAbove [] []
  | cons {node node' : Node} {above above' : List Node} (type : node.type = node'.type)
      (higher : SameAbove above above') : SameAbove (node :: above) (node' :: above')
  | inside {node node' : Node} {above above' : List Node} (type : node.type = "internal_module")
      (type' : node'.type = "internal_module") : SameAbove (node :: above) (node' :: above')

namespace SameAbove

variable {above above' : List Node}

theorem parent (same : SameAbove above above') :
    above.head?.map Node.type = above'.head?.map Node.type := by
  cases same with
  | file => rfl
  | cons type _ => exact congrArg some type
  | inside type type' => exact congrArg some (type.trans type'.symm)

/-- Namespaces are no wrappers. -/
theorem lineage (same : SameAbove above above') : SameLineage above above' := by
  induction same with
  | file => exact .file
  | cons type _ ih => exact .wrapper type ih
  | inside type type' => exact .owner (type.trans type'.symm) (by rw [type]; decide)

end SameAbove

namespace Site

/-- Sites of two files at which the same is read. -/
structure Resembles (document document' : Document) (site site' : Site) : Prop where
  content : document.content = document'.content
  head : site.node.Matches site'.node
  heads : List.Forall₂ Node.Matches site.node.substance site'.node.substance
  inside : isDeepType site.type = true →
    List.Forall₂ Node.Like site.node.substance site'.node.substance
  /-- The annotations of properties and accessors are always looked into. -/
  typed : ∀ field ∈ ["type", "return_type"],
    Option.Rel Node.Like (site.node.child? field) (site'.node.child? field)
  above : SameAbove site.ancestors site'.ancestors

namespace Resembles

variable {site site' : Site}

/-- Nothing else is needed where all children that count are alike. -/
theorem of_substance (content : document.content = document'.content)
    (head : site.node.Matches site'.node)
    (below : List.Forall₂ Node.Like site.node.substance site'.node.substance)
    (above : SameAbove site.ancestors site'.ancestors) :
    Resembles document document' site site' where
  content := content
  head := head
  heads := below.imp fun _ _ like => like.alike
  inside _ := below
  typed field _ := Node.rel_child? (fun _ _ like => like.alike) .substance .substance below field
  above := above

theorem of_like (content : document.content = document'.content)
    (head : site.node.Matches site'.node)
    (below : List.Forall₂ Node.Like site.node.children site'.node.children)
    (above : SameAbove site.ancestors site'.ancestors) :
    Resembles document document' site site' :=
  .of_substance content head
    (Node.forall₂_substance (fun _ _ like => like.alike) head.type_eq below) above

theorem type_eq (resembles : Resembles document document' site site') : site.type = site'.type :=
  resembles.head.type_eq

theorem child? (resembles : Resembles document document' site site') (field : String) :
    Option.Rel Node.Matches (site.node.child? field) (site'.node.child? field) :=
  Node.rel_child? (fun _ _ alike => alike) .substance .substance resembles.heads field

/-- Where children are taken by their position, the named ones match. -/
theorem namedChildren (resembles : Resembles document document' site site') {type : String}
    (known : site.type = type) (ordered : isOrderedType type = true) :
    List.Forall₂ Node.Matches site.node.namedChildren site'.node.namedChildren := by
  subst known
  exact Node.rel_namedChildren (fun _ _ alike => alike) resembles.heads resembles.type_eq
    ordered

theorem hasChildOfType_eq (resembles : Resembles document document' site site') {type : String}
    (spoken : type ≠ "comment") :
    site.node.hasChildOfType type = site'.node.hasChildOfType type :=
  Node.hasChildOfType_eq (fun _ _ alike => alike) resembles.heads spoken

/-- A node that is looked into reads the same at its own site as well. -/
theorem of_open (content : document.content = document'.content)
    (like : site.node.Like site'.node) {type : String} (known : site.type = type)
    (read : isOpenType type = true) (above : SameAbove site.ancestors site'.ancestors) :
    Resembles document document' site site' := by
  subst known
  exact .of_substance content like.alike (like.inside read) above

theorem child (resembles : Resembles document document' site site') {child child' : Node}
    (like : child.Like child') {type : String} (known : (site.below child).type = type)
    (read : isOpenType type = true) :
    Resembles document document' (site.below child) (site'.below child') :=
  .of_open resembles.content like known read (.cons resembles.type_eq resembles.above)

theorem modifiers_eq (resembles : Resembles document document' site site') :
    site.modifiers document = site'.modifiers document' := by
  rw [modifiers, modifiers, ← childModifiers_substance, ← childModifiers_substance,
    childModifiers_eq resembles.content resembles.heads,
    resembles.above.lineage.wrapperModifiers_eq]

theorem context_eq (resembles : Resembles document document' site site') :
    site.context = site'.context := by
  rw [context_eq_owner, context_eq_owner, resembles.above.lineage.ownerType_eq]

theorem visibility_eq (resembles : Resembles document document' site site') :
    site.visibility document = site'.visibility document' := by
  rw [visibility, visibility, resembles.modifiers_eq, resembles.context_eq]

theorem lifetime_eq (resembles : Resembles document document' site site') :
    site.lifetime document = site'.lifetime document' := by
  rw [lifetime, lifetime, resembles.modifiers_eq]

theorem isAbstract_eq (resembles : Resembles document document' site site') :
    site.isAbstract document = site'.isAbstract document' := by
  rw [isAbstract, isAbstract, resembles.modifiers_eq]

end Resembles

end Site

end SourceOutline
