import SourceOutline.Proofs.Scope.Likeness
import SourceOutline.Proofs.Syntax.Expansion

/-!
# Binding dotted and nested namespaces

A dotted namespace lists a declaration for every one of its names, and so do nested ones. The
declarations are different: the dotted one lists the same node every time. But their paths and
forms are the same, and the inner ones are never globals, so it does not matter that only the
outermost can be exported. An expanded file therefore has the sketch of the original one, and
the two are bound as twins or fail in the same way.
-/

namespace SourceOutline

variable {document document' : Document}

theorem scopePaths_append (outer names : List String) :
    scopePaths (outer ++ names) =
      scopePaths outer ++ (scopePaths names).map (outer ++ ·) := by
  induction outer with
  | nil => simp [scopePaths]
  | cons name outer ih =>
      rw [List.cons_append, scopePaths_cons, scopePaths_cons, ih]
      simp

theorem ne_nil_of_mem_scopePaths {names path : List String} (member : path ∈ scopePaths names) :
    path ≠ [] := by
  cases names with
  | nil => cases member
  | cons name names =>
      rw [scopePaths_cons] at member
      rcases List.mem_cons.mp member with rfl | deeper
      · exact List.cons_ne_nil _ _
      · obtain ⟨inner, -, rfl⟩ := List.mem_map.mp deeper
        exact List.cons_ne_nil _ _

namespace Listing

/-- Opening names one part after the other. Only the outermost part can hold a global. -/
theorem openSketch_append (form : Form) (isExported inner : Bool) {outer : List String}
    (nonempty : outer ≠ []) (names : List String) (body : List (List String × Form × Bool)) :
    openSketch form isExported (outer ++ names) body =
      openSketch form isExported outer (openSketch form inner names body) := by
  rw [openSketch, openSketch, openSketch, scopePaths_append, List.map_append, List.map_append,
    List.map_map, List.map_map, List.map_map, List.append_assoc]
  congr 2
  · refine List.map_congr_left fun path member => ?_
    have deep : ¬ (outer ++ path).length ≤ 1 := by
      have outside := List.length_pos_of_ne_nil nonempty
      have inside := List.length_pos_of_ne_nil (ne_nil_of_mem_scopePaths member)
      rw [List.length_append]
      omega
    simp only [Function.comp_apply, decide_eq_false deep, Bool.false_and]
  · refine List.map_congr_left fun entry _ => ?_
    simp only [Function.comp_apply, ← global_flag, List.append_assoc]

end Listing

namespace Document

variable {names : List String} {node body : Node} {spine : List Node}

theorem Calls.type_eq {label : Node} (calls : document.Calls names label) :
    label.type = "identifier" ∨ label.type = "nested_identifier" := by
  cases calls with
  | identifier type _ _ _ => exact .inl type
  | dotted type _ _ _ _ _ => exact .inr type

theorem Calls.names_ne_nil {label : Node} (calls : document.Calls names label) : names ≠ [] := by
  cases calls with
  | identifier _ _ _ _ => exact List.cons_ne_nil _ _
  | dotted _ _ _ _ nonempty _ => exact nonempty

theorem Opens.names_ne_nil (opens : document.Opens names node body) : names ≠ [] := by
  obtain ⟨label, -, calls⟩ := opens.child?_name
  exact calls.names_ne_nil

theorem Calls.segments_eq {label : Node} (calls : document.Calls names label) :
    ∃ text, document.text label = .ok text ∧
      (Text.segments '.' text).map Text.strip = names.map Text.strip := by
  cases calls with
  | identifier _ _ read undotted => exact ⟨_, read, by rw [Text.segments_of_undotted undotted]⟩
  | dotted _ _ read spells nonempty undotted =>
      exact ⟨_, read, spells.segments_eq nonempty undotted⟩

theorem Opens.namespaceNames_eq (opens : document.Opens names node body) :
    Binder.namespaceNames document node = .ok (names.map Text.strip) := by
  obtain ⟨label, found, calls⟩ := opens.child?_name
  obtain ⟨text, read, segments⟩ := calls.segments_eq
  have plain : (label.type == "string") = false := by
    rcases calls.type_eq with type | type <;> rw [type] <;> rfl
  rw [Binder.namespaceNames, found]
  simp only [read, plain]
  exact congrArg Except.ok segments

theorem listBlock_tokens {ancestors tokens nodes : List Node}
    (anonymous : ∀ token ∈ tokens, token.named = false) :
    document.listBlock ancestors (tokens ++ nodes) = document.listBlock ancestors nodes := by
  induction tokens with
  | nil => rfl
  | cons token tokens ih =>
      rw [List.cons_append, listBlock, if_neg (by rw [anonymous token List.mem_cons_self]; decide)]
      exact ih fun other member => anonymous other (List.mem_cons_of_mem _ member)

theorem listBlock_of_encloses {ancestors : List Node} {inner : Node}
    (encloses : node.Encloses inner) (named : inner.named = true) :
    document.listBlock ancestors node.children = document.listStatement ancestors inner := by
  obtain ⟨before, after, children, tokens⟩ := encloses
  have anonymous (token : Node) (member : token ∈ before ++ after) : token.named = false :=
    (tokens token member).anonymous
  have nothing : document.listBlock ancestors after = .ok [] := by
    rw [← List.append_nil after]
    exact listBlock_tokens fun token member => anonymous token (List.mem_append_right _ member)
  rw [children, listBlock_tokens fun token member =>
    anonymous token (List.mem_append_left _ member), listBlock, if_pos named, nothing]
  cases document.listStatement ancestors inner with
  | error failure => rfl
  | ok listing => exact congrArg Except.ok (List.append_nil listing)

/-- The block lists what its only statement lists. -/
theorem listBlock_of_carries {inner : Node} {between : List Node} {block : Node}
    (carries : block.Carries inner between) (ancestors : List Node) :
    document.listBlock (block :: ancestors) block.children =
      document.listStatement (between ++ block :: ancestors) inner := by
  induction carries generalizing ancestors with
  | directly encloses named => exact listBlock_of_encloses encloses named
  | @wrapped block statement inner between encloses named type _ ih =>
      rw [listBlock_of_encloses encloses named, List.append_assoc]
      change _ = document.listStatement (between ++ statement :: block :: ancestors) inner
      rw [← ih, listStatement_of_transparent (by rw [type]; rfl)]

theorem Opens.sketch_eq (opens : document.Opens names node body) (ancestors : List Node) :
    (document.listStatement ancestors node).map Listing.sketch =
      ((document.listBlock (body :: node :: ancestors) body.children).map Listing.sketch).map
        (Listing.openSketch (.plain "internal_module") (exportsBelow ancestors)
          (names.map Text.strip)) := by
  have exported : (⟨.plain node.type, ⟨node, ancestors⟩⟩ : Declaration).isExported =
      exportsBelow ancestors :=
    Declaration.isExported_of_ne (by rw [Site.type, opens.type]; decide)
  rw [listStatement_of_namespace opens.isNamespace, opens.namespaceNames_eq, listBody_eq,
    opens.child?_body]
  cases listed : document.listBlock (body :: node :: ancestors) body.children with
  | error failure =>
      simp only [listed]
      rfl
  | ok listing =>
      simp only [listed]
      change Except.ok (Listing.sketch (Listing.opened _ _ listing)) = _
      rw [Listing.sketch_opened, exported, opens.type]
      rfl

/-- Nested namespaces list every one of their names before the body of the innermost. -/
theorem Nests.sketch_eq (nests : document.Nests body names node spine) (ancestors : List Node) :
    (document.listStatement ancestors node).map Listing.sketch =
      ((document.listBlock (body :: (spine ++ ancestors)) body.children).map Listing.sketch).map
        (Listing.openSketch (.plain "internal_module") (exportsBelow ancestors)
          (names.map Text.strip)) := by
  induction nests generalizing ancestors with
  | innermost opens => exact opens.sketch_eq ancestors
  | @around outer names node block inner between spine opens carries _ ih =>
      have named : outer.map Text.strip ≠ [] := by
        rw [Ne, List.map_eq_nil_iff]
        exact opens.names_ne_nil
      rw [opens.sketch_eq, listBlock_of_carries carries, ih, spine_append, List.map_append]
      cases document.listBlock (body :: (spine ++ (between ++ block :: node :: ancestors)))
        body.children with
      | error failure => rfl
      | ok listing =>
          exact congrArg Except.ok (Listing.openSketch_append _ _ _ named _ _).symm

/-- Names and bodies declare nothing when they are taken for statements. -/
theorem listStatement_of_part {ancestors : List Node} (part : Node)
    (kind : part.type ∈ ["identifier", "nested_identifier", "statement_block"]) :
    document.listStatement ancestors part = .ok [] := by
  obtain ⟨⟨id, type, kindId, named, field, start, stop⟩, children⟩ := part
  rw [listStatement]
  simp only [List.mem_cons, List.not_mem_nil, or_false] at kind
  rcases kind with rfl | rfl | rfl <;> rfl

/-- Directly inside a namespace, outside its body, nothing is declared. -/
theorem Opens.listBlock_eq (opens : document.Opens names node body) (ancestors : List Node) :
    document.listBlock ancestors node.children = .ok [] := by
  obtain ⟨keyword, label, children, token, -, calls⟩ := opens.parts
  have ofLabel : document.listStatement ancestors label = .ok [] := by
    apply listStatement_of_part
    rcases calls.type_eq with type | type <;> rw [type] <;> decide
  have ofBody : document.listStatement ancestors body = .ok [] := by
    apply listStatement_of_part
    rw [opens.bodyType]
    decide
  rw [children, listBlock, if_neg (by rw [token.anonymous]; decide)]
  simp only [listBlock, ofLabel, ofBody]
  split <;> split <;> rfl

end Document

mutual

/-- A statement lists the same names after an expansion. -/
theorem agree_listStatement (content : document.content = document'.content) (node : Node)
    {node' : Node} (expands : Expands document document' node node')
    {ancestors ancestors' : List Node} (above : SameAbove ancestors ancestors') :
    Agree SameSketch (document.listStatement ancestors node)
      (document'.listStatement ancestors' node') := by
  obtain below | ⟨names, body, body', spine, dotted, nested, inside⟩ := expands.below_or_split
  · have resembles : Site.Resembles document document' ⟨node, ancestors⟩ ⟨node', ancestors'⟩ :=
      .of_like content expands.alike (below.imp fun _ _ deeper => deeper.like) above
    refine resembles.agree_listStatement ?_ ?_
    · intro transparent
      exact agree_listBlock content node expands above
    · intro isNamespace body body' found found'
      have smaller := Node.size_lt_of_mem (List.mem_of_find?_eq_some found)
      have bodies := Node.rel_child? (fun _ _ deeper => deeper.alike) .children .children below
        "body"
      rw [found, found'] at bodies
      cases bodies with
      | some inside => exact agree_listBlock content body inside (.cons expands.alike.type_eq above)
  · have smaller := Node.size_lt_of_mem dotted.body_mem
    have inner := agree_listBlock content body inside
      (nested.sameAbove dotted.type ancestors ancestors')
    apply Agree.of_map_eq
    rw [dotted.sketch_eq, nested.sketch_eq, above.exportsBelow_eq]
    exact congrArg (Except.map _) (inner.map_eq fun _ _ same => same)
  termination_by (node.size, 1)
  decreasing_by
  · exact Prod.Lex.right _ Nat.zero_lt_one
  · exact Prod.Lex.left _ _ smaller
  · exact Prod.Lex.left _ _ smaller

/-- So does the inside of a node that is taken for a block. -/
theorem agree_listBlock (content : document.content = document'.content) (node : Node)
    {node' : Node} (expands : Expands document document' node node')
    {ancestors ancestors' : List Node} (above : SameAbove ancestors ancestors') :
    Agree SameSketch (document.listBlock (node :: ancestors) node.children)
      (document'.listBlock (node' :: ancestors') node'.children) := by
  obtain below | ⟨names, body, body', spine, dotted, nested, -⟩ := expands.below_or_split
  · refine agree_listBlock_of_forall₂ ?_
    refine (List.forall₂_mem below).imp fun child child' ⟨member, deeper⟩ => ?_
    exact ⟨deeper.alike.named_eq, agree_listStatement content child deeper
      (.cons expands.alike.type_eq above)⟩
  · obtain ⟨outer, block, opens⟩ := nested.opens
    rw [dotted.listBlock_eq, opens.listBlock_eq]
    exact .ok rfl
  termination_by (node.size, 0)
  decreasing_by
    exact Prod.Lex.left _ _ (Node.size_lt_of_mem member)

end

end SourceOutline
