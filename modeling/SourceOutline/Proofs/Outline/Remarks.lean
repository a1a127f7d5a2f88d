import SourceOutline.Proofs.Outline.Comments

/-!
# Comments where position counts

The type of an annotation, the element of an array and both names of an alias are taken by their
position among the named children, and a comment is a named child. So a comment that comes first is
taken for the type, the element or the alias, and one that comes last for the target of the alias.
Comments anywhere else change nothing.
-/

namespace SourceOutline

/-- Types of which nothing is read but named children by their position. -/
def readsByPlace (type : String) : Bool :=
  type == "type_annotation" || type == "array_type" || type == "import_alias"

/-- A tree with more comments among the children that are taken by their position. -/
inductive Interspersed : Node → Node → Prop
  | node {node node' : Node} {kept : List Node} (alike : node.Matches node')
      (below : List.Forall₂ Interspersed node.children kept) (strewn : Strewn kept node'.children)
      (fixed : readsByPlace node.type = false → kept = node'.children) :
      Interspersed node node'

namespace Node

theorem named_of_isRemark {node : Node} (remark : node.isRemark = true) : node.named = true := by
  simp only [isRemark, Bool.and_eq_true] at remark
  exact remark.1.2

/-- A comment in front of the named children. -/
def leadingRemark? (node : Node) : Option Node := node.namedChildren.head?.filter isRemark

/-- A comment behind the named children. -/
def trailingRemark? (node : Node) : Option Node := node.namedChildren.getLast?.filter isRemark

end Node

namespace Strewn

variable {nodes nodes' : List Node}

/-- Comments are strewn between the named nodes alone. -/
theorem filter_named (strewn : Strewn nodes nodes') :
    Strewn (nodes.filter Node.named) (nodes'.filter Node.named) := by
  induction strewn with
  | nil => exact .nil
  | kept node _ ih =>
      rw [List.filter_cons, List.filter_cons]
      split
      · exact .kept node ih
      · exact ih
  | remark isRemark bare _ ih =>
      rw [List.filter_cons_of_pos (Node.named_of_isRemark isRemark)]
      exact .remark isRemark bare ih

/-- In front stands what stood there before, or a comment. -/
theorem head?_cases (strewn : Strewn nodes nodes') :
    nodes.head? = nodes'.head? ∨ ∃ remark, nodes'.head? = some remark ∧ remark.isRemark = true := by
  cases strewn with
  | nil => exact .inl rfl
  | kept _ _ => exact .inl rfl
  | remark isRemark _ _ => exact .inr ⟨_, rfl, isRemark⟩

/-- At the end stands what stood there before, or a comment. -/
theorem getLast?_cases (strewn : Strewn nodes nodes') :
    nodes.getLast? = nodes'.getLast? ∨
      ∃ remark, nodes'.getLast? = some remark ∧ remark.isRemark = true := by
  induction strewn with
  | nil => exact .inl rfl
  | kept node _ ih =>
      rw [List.getLast?_cons, List.getLast?_cons]
      rcases ih with same | ⟨remark, last, isRemark⟩
      · exact .inl (by rw [same])
      · exact .inr ⟨remark, by rw [last, Option.getD_some], isRemark⟩
  | @remark nodes nodes' node isRemark _ _ ih =>
      rw [List.getLast?_cons]
      rcases ih with same | ⟨remark, last, isRemark'⟩
      · cases last : nodes'.getLast? with
        | none => exact .inr ⟨node, rfl, isRemark⟩
        | some other => exact .inl (same.trans last)
      · exact .inr ⟨remark, by rw [last, Option.getD_some], isRemark'⟩

end Strewn

namespace Interspersed

variable {document document' : Document} {node node' : Node}

mutual

theorem refl (node : Node) : Interspersed node node := by
  obtain ⟨head, children⟩ := node
  exact .node rfl (refl_all children) (.refl children) fun _ => rfl

theorem refl_all (nodes : List Node) : List.Forall₂ Interspersed nodes nodes := by
  cases nodes with
  | nil => exact .nil
  | cons node nodes => exact .cons (refl node) (refl_all nodes)

end

theorem alike (interspersed : Interspersed node node') : node.Matches node' := by
  cases interspersed
  assumption

/-- The named children, before the comments are strewn between them. -/
theorem exists_named (interspersed : Interspersed node node') :
    ∃ kept, List.Forall₂ Interspersed node.namedChildren kept ∧
      Strewn kept node'.namedChildren := by
  cases interspersed with
  | node _ below strewn _ =>
      exact ⟨_, Node.rel_filter (fun _ _ deeper => deeper.alike) (fun _ _ => Node.Matches.named_eq)
        below, strewn.filter_named⟩

/-- Unless a comment comes first, the first named child is the one it was. -/
theorem rel_first (interspersed : Interspersed node node') (clear : node'.leadingRemark? = none) :
    Option.Rel Interspersed node.namedChildren.head? node'.namedChildren.head? := by
  obtain ⟨kept, below, strewn⟩ := interspersed.exists_named
  rcases strewn.head?_cases with same | ⟨remark, first, isRemark⟩
  · exact same ▸ List.rel_head? below
  · rw [Node.leadingRemark?, first] at clear
    simp [isRemark] at clear

/-- Unless a comment comes last, the last named child is the one it was. -/
theorem rel_last (interspersed : Interspersed node node') (clear : node'.trailingRemark? = none) :
    Option.Rel Interspersed node.namedChildren.getLast? node'.namedChildren.getLast? := by
  obtain ⟨kept, below, strewn⟩ := interspersed.exists_named
  rcases strewn.getLast?_cases with same | ⟨remark, last, isRemark⟩
  · exact same ▸ List.rel_getLast? below
  · rw [Node.trailingRemark?, last] at clear
    simp [isRemark] at clear

/-- Nodes that are read in another way get no comments. -/
theorem forall₂_children (interspersed : Interspersed node node')
    (other : readsByPlace node.type = false) :
    List.Forall₂ Interspersed node.children node'.children := by
  cases interspersed with
  | node _ below _ fixed => exact fixed other ▸ below

end Interspersed

/-- The text of a named child that has to be there. -/
def Document.requiredText (document : Document) : Option Node → Except Failure String
  | some node => document.text node
  | none => .error .noNamedChild

namespace Site

variable {document : Document} (site : Site)

theorem importAlias_eq_requiredText (type : site.type = "import_alias") :
    site.importAlias document = document.requiredText site.node.namedChildren.head? := by
  have other : ¬ (site.type == "import_statement") = true := by
    rw [type]
    decide
  rw [importAlias, if_neg other]
  dsimp only [bind, Except.bind]
  cases site.node.namedChildren <;> rfl

/-- An alias is declared by its first name and stands for its last. -/
theorem declaredAlias_eq_requiredText :
    site.declaredAlias document = do
      let name ← document.requiredText site.node.namedChildren.head?
      let target ← document.requiredText site.node.namedChildren.getLast?
      return [(name, ⟨.importAlias target, site⟩)] := by
  rw [declaredAlias]
  cases site.node.namedChildren with
  | nil => rfl
  | cons first rest =>
      rw [List.getLast?_cons]
      rfl

end Site

namespace TypeName

/-- The name of an array, by the text of its element. -/
def arrayOf (element : String) : String := "Array&lt;" ++ Text.strip element ++ "&gt;"

theorem ofType_array {document : Document} {node : Node} (type : node.type = "array_type") :
    ofType document node = (document.requiredText node.namedChildren.head?).map arrayOf := by
  rw [ofType, type]
  dsimp only
  cases node.namedChildren with
  | nil => rfl
  | cons element rest =>
      change (do return arrayOf (← document.text element)) = (document.text element).map arrayOf
      cases document.text element <;> rfl

/-- The name of an array whose element is taken to be a comment. -/
def mistakenElement? (document : Document) (node : Node) : Option (Except Failure String) :=
  if node.type == "array_type" then
    node.leadingRemark?.map fun remark => (document.text remark).map arrayOf
  else none

/-- The name of a type or its annotation where a comment is taken for the type, which is then
shown as the number of its kind, or for the element of an array. -/
def mistaken? (document : Document) (node : Node) : Option (Except Failure String) :=
  if node.type == "type_annotation" then
    (node.leadingRemark?.map fun remark => .ok (toString remark.head.kindId)).or
      (node.namedChildren.head?.bind (mistakenElement? document))
  else mistakenElement? document node

theorem ofType_remark {document : Document} {node : Node} (comment : node.type = "comment") :
    ofType document node = .ok (toString node.head.kindId) := by
  rw [ofType, comment]
  rfl

end TypeName

namespace Interspersed

variable {document document' : Document} {node node' : Node}

/-- A child that is taken by its position is the one it was, or a comment. -/
theorem requiredText_eq (content : document.content = document'.content)
    {found found' : Option Node}
    (deeper : found'.filter Node.isRemark = none → Option.Rel Interspersed found found') :
    document'.requiredText found' =
      (found'.filter Node.isRemark).elim (document.requiredText found) document'.text := by
  cases taken : found'.filter Node.isRemark with
  | some remark =>
      rw [(Option.filter_eq_some_iff.mp taken).1]
      rfl
  | none =>
      cases deeper taken with
      | none => rfl
      | some same => exact (text_eq_of_matches content same.alike).symm

/-- Types that are no annotations. -/
theorem ofType_eq (content : document.content = document'.content)
    (interspersed : Interspersed node node') :
    TypeName.ofType document' node' =
      (TypeName.mistakenElement? document' node').getD (TypeName.ofType document node) := by
  have alike := interspersed.alike
  rw [TypeName.mistakenElement?, ← alike.type_eq]
  by_cases array : node.type = "array_type"
  · rw [if_pos (beq_iff_eq.mpr array), TypeName.ofType_array array,
      TypeName.ofType_array (alike.type_eq ▸ array),
      requiredText_eq content interspersed.rel_first]
    change Except.map _ (node'.leadingRemark?.elim _ _) = _
    cases node'.leadingRemark? <;> rfl
  · rw [if_neg (by rwa [beq_iff_eq]), Option.getD_none]
    unfold TypeName.ofType
    rw [← alike.type_eq, alike.kindId_eq, text_eq_of_matches content alike]
    split
    · rfl
    · rfl
    · next type => exact absurd type array
    · rfl
    · rfl
    · next type =>
      have below := interspersed.forall₂_children (by rw [type]; decide)
      rw [text?_eq_of_rel content (Node.rel_child? (fun _ _ alike => alike) .children .children
        (below.imp fun _ _ deeper => deeper.alike) "name")]
    · rfl

/-- Types and their annotations. -/
theorem render_eq (content : document.content = document'.content)
    (interspersed : Interspersed node node') :
    TypeName.render document' (some node') =
      (TypeName.mistaken? document' node').getD (TypeName.render document (some node)) := by
  rw [TypeName.render, TypeName.render, Option.bind_some, Option.bind_some, TypeName.annotated?,
    TypeName.annotated?, TypeName.mistaken?, ← interspersed.alike.type_eq]
  by_cases marked : node.type = "type_annotation"
  · rw [if_pos (beq_iff_eq.mpr marked), if_pos (beq_iff_eq.mpr marked),
      if_pos (beq_iff_eq.mpr marked)]
    cases leading : node'.leadingRemark? with
    | some remark =>
        obtain ⟨first, isRemark⟩ := Option.filter_eq_some_iff.mp leading
        rw [first]
        exact TypeName.ofType_remark (Node.type_of_isRemark isRemark)
    | none =>
        obtain ⟨missing, missing'⟩ | ⟨first, first', found, found', deeper⟩ :=
          Option.rel_cases (interspersed.rel_first leading)
        · rw [missing, missing']
          rfl
        · rw [found, found']
          exact deeper.ofType_eq content
  · rw [if_neg (by rwa [beq_iff_eq]), if_neg (by rwa [beq_iff_eq]), if_neg (by rwa [beq_iff_eq])]
    exact interspersed.ofType_eq content

end Interspersed

/-- Comments among children that are taken by their position, over the same content. A type has the
name it had, unless a comment is taken for the type or for the element of an array. An imported
module has the name it had, and an alias is declared by the name and stands for the target that it
had, unless a comment comes first or, for the target, last. In these cases the comment is read in
their place. -/
theorem readings_of_interspersed {document document' : Document}
    (content : document.content = document'.content) {node node' : Node}
    (interspersed : Interspersed node node') (ancestors ancestors' : List Node) :
    TypeName.render document' (some node') =
        (TypeName.mistaken? document' node').getD (TypeName.render document (some node)) ∧
      (node.type = "import_alias" →
        Site.importAlias document' ⟨node', ancestors'⟩ =
          node'.leadingRemark?.elim (Site.importAlias document ⟨node, ancestors⟩) document'.text) ∧
      Site.declaredAlias document ⟨node, ancestors⟩ = (do
        let name ← document.requiredText node.namedChildren.head?
        let target ← document.requiredText node.namedChildren.getLast?
        return [(name, ⟨.importAlias target, ⟨node, ancestors⟩⟩)]) ∧
      Site.declaredAlias document' ⟨node', ancestors'⟩ = (do
        let name ← node'.leadingRemark?.elim
          (document.requiredText node.namedChildren.head?) document'.text
        let target ← node'.trailingRemark?.elim
          (document.requiredText node.namedChildren.getLast?) document'.text
        return [(name, ⟨.importAlias target, ⟨node', ancestors'⟩⟩)]) := by
  have first : document'.requiredText node'.namedChildren.head? = node'.leadingRemark?.elim
      (document.requiredText node.namedChildren.head?) document'.text :=
    Interspersed.requiredText_eq content interspersed.rel_first
  have last : document'.requiredText node'.namedChildren.getLast? = node'.trailingRemark?.elim
      (document.requiredText node.namedChildren.getLast?) document'.text :=
    Interspersed.requiredText_eq content interspersed.rel_last
  refine ⟨interspersed.render_eq content, fun type => ?_, Site.declaredAlias_eq_requiredText _, ?_⟩
  · have type' : node'.type = "import_alias" := interspersed.alike.type_eq ▸ type
    rw [Site.importAlias_eq_requiredText ⟨node, ancestors⟩ type,
      Site.importAlias_eq_requiredText ⟨node', ancestors'⟩ type']
    exact first
  · rw [Site.declaredAlias_eq_requiredText, first, last]

/-- A comment of the file below. -/
def remarkAt (start stop : Nat) : Node :=
  ⟨⟨100 + start, "comment", 104, true, none, start, stop⟩, []⟩

/-- The annotation of `x`, with comments in front of the type and behind the element. -/
def remarkedType (front behind : List Node) : Node :=
  ⟨⟨6, "type_annotation", 302, true, some "type", 11, 38⟩, front ++ [
    ⟨⟨7, "array_type", 346, true, none, 21, 38⟩,
      ⟨⟨8, "predefined_type", 335, true, none, 21, 27⟩, []⟩ :: behind⟩]⟩

/-- The alias of `N.b`, with comments in front, between its names and behind. -/
def remarkedAlias (front between behind : List Node) : Node :=
  ⟨⟨9, "import_alias", 286, true, none, 42, 81⟩, front ++
    ⟨⟨10, "identifier", 1, true, none, 57, 58⟩, []⟩ :: between ++
    ⟨⟨11, "nested_identifier", 219, true, none, 69, 72⟩, [
      ⟨⟨12, "identifier", 1, true, some "object", 69, 70⟩, []⟩,
      ⟨⟨13, "property_identifier", 377, true, some "property", 71, 72⟩, []⟩]⟩ :: behind⟩

/-- The tree of `class C { x: number []; } import a = N.b;`, in a file that has comments at five
places of the annotation and the alias. -/
def remarkedFile (typing name : Node) : Document where
  content := ("class C \x7b x: /* t */ number /* e */ []; \x7d " ++
    "import /* n */ a /* m */ = N.b /* s */;").toUTF8
  root := ⟨⟨0, "program", 166, true, none, 0, 81⟩, [
    ⟨⟨1, "class_declaration", 221, true, none, 0, 41⟩, [
      ⟨⟨2, "type_identifier", 382, true, some "name", 6, 7⟩, []⟩,
      ⟨⟨3, "class_body", 256, true, some "body", 8, 41⟩, [
        ⟨⟨4, "public_field_definition", 266, true, none, 10, 38⟩, [
          ⟨⟨5, "property_identifier", 377, true, some "name", 10, 11⟩, []⟩, typing]⟩]⟩]⟩,
    name]⟩

/-- The file without comments in its tree. -/
def plainFile : Document := remarkedFile (remarkedType [] []) (remarkedAlias [] [] [])

/-- The annotation with a comment behind the element. -/
def innerType : Node := remarkedType [] [remarkAt 28 35]

/-- The alias with a comment between its names. -/
def innerAlias : Node := remarkedAlias [] [remarkAt 59 66] []

def innerFile : Document := remarkedFile innerType innerAlias

/-- The annotation with a comment in front of the type. -/
def outerType : Node := remarkedType [remarkAt 13 20] []

/-- The alias with comments in front of its names and behind them. -/
def outerAlias : Node := remarkedAlias [remarkAt 49 56] [] [remarkAt 73 80]

def outerFile : Document := remarkedFile outerType outerAlias

/-- Comments further inside are read nowhere. -/
theorem innerRemarks_unread :
    Interspersed (remarkedType [] []) innerType ∧
      Interspersed (remarkedAlias [] [] []) innerAlias ∧
      TypeName.render innerFile (some innerType) =
        .ok "Array&lt;number&gt;" ∧
      Site.importAlias innerFile ⟨innerAlias, [innerFile.root]⟩ = .ok "a" ∧
      Site.declaredAlias innerFile ⟨innerAlias, [innerFile.root]⟩ =
        .ok [("a", ⟨.importAlias "N.b", ⟨innerAlias, [innerFile.root]⟩⟩)] := by
  have content : plainFile.content = innerFile.content := rfl
  have type : Interspersed (remarkedType [] []) innerType := by
    refine .node rfl (.cons ?_ .nil) (.refl _) fun _ => rfl
    exact .node rfl (.cons (.refl _) .nil) (.kept _ (.remark rfl rfl .nil))
      fun other => absurd other (by decide)
  have name : Interspersed (remarkedAlias [] [] []) innerAlias :=
    .node rfl (Interspersed.refl_all _) (.kept _ (.remark rfl rfl (.refl _)))
      fun other => absurd other (by decide)
  obtain ⟨rendered, -⟩ := readings_of_interspersed content type [] []
  obtain ⟨-, imported, -, declared⟩ := readings_of_interspersed content name [plainFile.root] _
  refine ⟨type, name, rendered.trans ?_, (imported rfl).trans ?_, declared.trans ?_⟩
  · decide
  · decide
  · rfl

/-- A comment in front is read as the type and as the name, and one behind as the target. -/
theorem outerRemarks_read :
    Interspersed (remarkedType [] []) outerType ∧
      Interspersed (remarkedAlias [] [] []) outerAlias ∧
      TypeName.render plainFile (some (remarkedType [] [])) = .ok "Array&lt;number&gt;" ∧
      TypeName.render outerFile (some outerType) = .ok "104" ∧
      Site.importAlias plainFile ⟨remarkedAlias [] [] [], [plainFile.root]⟩ = .ok "a" ∧
      Site.importAlias outerFile ⟨outerAlias, [outerFile.root]⟩ = .ok "/* n */" ∧
      Site.declaredAlias plainFile ⟨remarkedAlias [] [] [], [plainFile.root]⟩ =
        .ok [("a", ⟨.importAlias "N.b", ⟨remarkedAlias [] [] [], [plainFile.root]⟩⟩)] ∧
      Site.declaredAlias outerFile ⟨outerAlias, [outerFile.root]⟩ =
        .ok [("/* n */", ⟨.importAlias "/* s */", ⟨outerAlias, [outerFile.root]⟩⟩)] := by
  refine ⟨?_, ?_, by decide, by decide, by decide, by decide, rfl, rfl⟩
  · exact .node rfl (Interspersed.refl_all _) (.remark rfl rfl (.refl _))
      fun other => absurd other (by decide)
  · exact .node rfl (Interspersed.refl_all _)
      (.remark rfl rfl (.kept _ (.kept _ (.remark rfl rfl .nil))))
      fun other => absurd other (by decide)

end SourceOutline
