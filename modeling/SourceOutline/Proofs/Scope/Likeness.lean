import SourceOutline.Proofs.Scope.Aliases
import SourceOutline.Proofs.Scope.Twins
import SourceOutline.Proofs.Syntax.Likeness

/-!
# Listings of trees that read the same

Statements at which the same is read declare the same names in the same ways, exported or not.
The sketch of a listing keeps just that, so it is put together from the sketches of the parts:
blocks append them, and a namespace opens its scopes around the sketch of its body.
-/

namespace SourceOutline

variable {document document' : Document}

namespace Naming

/-- The name, the way it is introduced and whether it is exported. -/
def look (naming : Naming) : String × Form × Bool :=
  (naming.1, naming.2.form, naming.2.isExported)

/-- Namings that differ in their sites at most. -/
def LookAlike (namings namings' : List Naming) : Prop := namings.map look = namings'.map look

theorem LookAlike.append {first first' others others' : List Naming}
    (here : LookAlike first first') (later : LookAlike others others') :
    LookAlike (first ++ others) (first' ++ others') := by
  rw [LookAlike, List.map_append, List.map_append, here, later]

theorem lookAlike_single {name : String} {form : Form} {site site' : Site}
    (exported : (⟨form, site⟩ : Declaration).isExported =
      (⟨form, site'⟩ : Declaration).isExported) :
    LookAlike [(name, ⟨form, site⟩)] [(name, ⟨form, site'⟩)] := by
  rw [LookAlike, List.map_singleton, List.map_singleton, look, look, exported]

theorem agree_collectMap {f g : Site → Except Failure (List Naming)} {sites sites' : List Site}
    (each : List.Forall₂ (fun site site' => Agree LookAlike (f site) (g site')) sites sites') :
    Agree LookAlike (collectMap f sites) (collectMap g sites') := by
  induction each with
  | nil => exact .ok rfl
  | cons first _ ih =>
      exact first.bind fun _ _ here => ih.bind fun _ _ later => .ok (here.append later)

end Naming

/-- Whether a chain of ancestors starts with an export statement. -/
def exportsBelow (ancestors : List Node) : Bool :=
  (ancestors.head?.map Node.type).any (· == "export_statement")

theorem SameAbove.exportsBelow_eq {above above' : List Node} (same : SameAbove above above') :
    exportsBelow above = exportsBelow above' := by
  rw [exportsBelow, exportsBelow, same.parent]

theorem Declaration.isExported_of_ne {form : Form} {site : Site}
    (other : site.type ≠ "variable_declarator") :
    (⟨form, site⟩ : Declaration).isExported = exportsBelow site.ancestors := by
  rw [Declaration.isExported, if_neg (by rwa [beq_iff_eq]), exportsBelow, Option.any_map]

theorem Declaration.isExported_congr {form : Form} {site site' : Site}
    (types : site.type = site'.type) (above : SameAbove site.ancestors site'.ancestors)
    {type : String} (known : site.type = type) (other : type ≠ "variable_declarator") :
    (⟨form, site⟩ : Declaration).isExported = (⟨form, site'⟩ : Declaration).isExported := by
  have other' : site'.type ≠ "variable_declarator" := types ▸ known ▸ other
  rw [isExported_of_ne (known ▸ other), isExported_of_ne other', above.exportsBelow_eq]

/-- The names that a namespace opens are read off the child that names it. -/
theorem namespaceNames_eq_of_rel (content : document.content = document'.content)
    {node node' : Node}
    (both : Option.Rel Node.Matches (node.child? "name") (node'.child? "name")) :
    Binder.namespaceNames document node = Binder.namespaceNames document' node' := by
  rw [Binder.namespaceNames, Binder.namespaceNames]
  obtain ⟨missing, missing'⟩ | ⟨name, name', found, found', named⟩ :=
    Option.rel_cases both
  · rw [missing, missing']
  · rw [found, found']
    simp only [text_eq_of_matches content named, named.type_eq]

namespace Site

variable {site : Site} {source : Option String}

/-! A comment declares nothing, wherever it stands. -/

theorem declaredVariable_comment (comment : site.type = "comment") :
    site.declaredVariable document = .ok [] := by
  simp [declaredVariable, comment]

theorem declaredSpecifier_comment (comment : site.type = "comment") :
    site.declaredSpecifier document source = .ok [] := by
  simp [declaredSpecifier, comment]

theorem declaredImportPart_comment (comment : site.type = "comment") :
    site.declaredImportPart document source = .ok [] := by
  simp [declaredImportPart, comment]

theorem declaredImport_comment (comment : site.type = "comment") :
    site.declaredImport document source = .ok [] := by
  simp [declaredImport, comment]

theorem collectMap_substance {f : Site → Except Failure (List Naming)}
    (silent : ∀ site : Site, site.type = "comment" → f site = .ok []) :
    collectMap f ((site.node.substance.filter Node.named).map site.below) =
      collectMap f site.namedChildren := by
  rw [namedChildren, Node.namedChildren, Node.substance]
  split
  · rfl
  · induction site.node.children with
    | nil => rfl
    | cons child children ih =>
        cases remark : child.isRemark with
        | false =>
            rw [List.filter_cons_of_pos (by rw [remark]; rfl), List.filter_cons, List.filter_cons]
            split
            · rw [List.map_cons, List.map_cons, collectMap, collectMap, ih]
            · exact ih
        | true =>
            have nothing := silent (site.below child) (Node.type_of_isRemark remark)
            rw [List.filter_cons_of_neg (by rw [remark]; decide), ih, List.filter_cons]
            split
            · rw [List.map_cons, collectMap, nothing]
              cases collectMap f ((children.filter Node.named).map site.below) <;> rfl
            · rfl

end Site

namespace Site.Resembles

variable {site site' : Site}

theorem isExported_eq (resembles : Resembles document document' site site') {form : Form}
    {type : String} (known : site.type = type) (other : type ≠ "variable_declarator") :
    (⟨form, site⟩ : Declaration).isExported = (⟨form, site'⟩ : Declaration).isExported :=
  Declaration.isExported_congr resembles.type_eq resembles.above known other

/-- Named children that declare names, where a comment declares none. -/
theorem collectMap_agree {f g : Site → Except Failure (List Naming)}
    (below : List.Forall₂ Node.Like site.node.substance site'.node.substance)
    (silent : ∀ site : Site, site.type = "comment" → f site = .ok [])
    (silent' : ∀ site : Site, site.type = "comment" → g site = .ok [])
    (each : ∀ child child', child.Like child' →
      Agree Naming.LookAlike (f (site.below child)) (g (site'.below child'))) :
    Agree Naming.LookAlike (collectMap f site.namedChildren)
      (collectMap g site'.namedChildren) := by
  rw [← collectMap_substance silent, ← collectMap_substance silent']
  refine Naming.agree_collectMap ?_
  rw [List.forall₂_map_left_iff, List.forall₂_map_right_iff]
  exact (Node.rel_filter (fun _ _ like => like.alike) (fun _ _ => Node.Matches.named_eq)
    below).imp each

theorem moduleSpecifier_eq (resembles : Resembles document document' site site') :
    moduleSpecifier document site.node = moduleSpecifier document' site'.node := by
  have literals := Node.rel_namedOfType (fun _ _ alike => alike) resembles.heads
    (show "string" ≠ "comment" by decide)
  rw [moduleSpecifier, moduleSpecifier]
  obtain ⟨missing, missing'⟩ | ⟨literal, literal', found, found', alike⟩ :=
    Option.rel_cases (Option.rel_or (resembles.child? "source") literals)
  · simp only [missing, missing']
  · simp only [found, found', text_eq_of_matches resembles.content alike]

/-- A name that is read at one node introduces the same naming on both sides. -/
theorem read_agree (resembles : Resembles document document' site site') {node node' : Node}
    (alike : node.Matches node') {form : Form} {place place' : Site}
    (exported : (⟨form, place⟩ : Declaration).isExported =
      (⟨form, place'⟩ : Declaration).isExported) :
    Agree Naming.LookAlike (do return [(← document.text node, ⟨form, place⟩)])
      (do return [(← document'.text node', ⟨form, place'⟩)]) := by
  rw [text_eq_of_matches resembles.content alike]
  exact (Agree.refl _).bind fun name _ same => .ok (same ▸ Naming.lookAlike_single exported)

/-- A declarator is exported by the statement around it. -/
theorem declaredVariable_agree (content : document.content = document'.content)
    (outer : site.type = site'.type) (above : SameAbove site.ancestors site'.ancestors)
    {child child' : Node} (like : child.Like child') :
    Agree Naming.LookAlike ((site.below child).declaredVariable document)
      ((site'.below child').declaredVariable document') := by
  have types : (site.below child).type = (site'.below child').type := like.alike.type_eq
  by_cases declarator : (site.below child).type = "variable_declarator"
  · have inner : Resembles document document' (site.below child) (site'.below child') :=
      .of_open content like declarator (by decide) (.cons outer above)
    have exported : (⟨.plain "variable_declarator", site.below child⟩ : Declaration).isExported =
        (⟨.plain "variable_declarator", site'.below child'⟩ : Declaration).isExported := by
      have parents := above.exportsBelow_eq
      simp only [exportsBelow, Option.any_map] at parents
      simp only [Declaration.isExported, ← types, declarator, beq_self_eq_true, if_true]
      exact parents
    obtain ⟨missing, missing'⟩ | ⟨name, name', found, found', named⟩ :=
      Option.rel_cases (inner.child? "name")
    · simp only [declaredVariable, ← types, declarator, missing, missing', beq_self_eq_true]
      exact .ok rfl
    · simp only [declaredVariable, ← types, declarator, found, found', beq_self_eq_true,
        ← named.type_eq]
      split
      · exact inner.read_agree named exported
      · exact .ok rfl
  · have other : ((site.below child).type == "variable_declarator") = false := by
      rwa [beq_eq_false_iff_ne]
    simp only [declaredVariable, ← types, other]
    exact .ok rfl

theorem declaredSpecifier_agree (resembles : Resembles document document' site site')
    {child child' : Node} (like : child.Like child') (source : Option String) :
    Agree Naming.LookAlike ((site.below child).declaredSpecifier document source)
      ((site'.below child').declaredSpecifier document' source) := by
  have types : (site.below child).type = (site'.below child').type := like.alike.type_eq
  rw [declaredSpecifier, declaredSpecifier, ← types]
  by_cases specifier : (site.below child).type = "import_specifier"
  · have inner := resembles.child like specifier (by decide)
    rw [if_pos (beq_iff_eq.mpr specifier), if_pos (beq_iff_eq.mpr specifier)]
    simp only [text?_eq_of_rel resembles.content (inner.child? "name"),
      text?_eq_of_rel resembles.content
        (Option.rel_or (inner.child? "alias") (inner.child? "name"))]
    refine (Agree.refl _).bind fun name _ same => (Agree.refl _).bind fun exported _ same' => ?_
    subst same same'
    exact .ok (Naming.lookAlike_single (inner.isExported_eq specifier (by decide)))
  · rw [if_neg (by rwa [beq_iff_eq]), if_neg (by rwa [beq_iff_eq])]
    exact .ok rfl

theorem declaredImportPart_agree (resembles : Resembles document document' site site')
    {child child' : Node} (like : child.Like child') (source : Option String) :
    Agree Naming.LookAlike ((site.below child).declaredImportPart document source)
      ((site'.below child').declaredImportPart document' source) := by
  have types : (site.below child).type = (site'.below child').type := like.alike.type_eq
  rw [declaredImportPart, declaredImportPart, ← types]
  split
  · next type =>
    exact resembles.read_agree like.alike (Declaration.isExported_congr types
      (.cons resembles.type_eq resembles.above) type (by decide))
  · next type =>
    have inner := resembles.child like type (by decide)
    obtain ⟨missing, missing'⟩ | ⟨last, last', found, found', named⟩ :=
      Option.rel_cases (List.rel_getLast? (inner.namedChildren type (by decide)))
    · rw [missing, missing']
      exact .error _
    · rw [found, found']
      exact resembles.read_agree named (inner.isExported_eq type (by decide))
  · next type =>
    have inner := resembles.child like type (by decide)
    refine collectMap_agree (like.inside (by rw [show child.type = _ from type]; decide))
      (fun site => declaredSpecifier_comment) (fun site => declaredSpecifier_comment) ?_
    exact fun _ _ deeper => inner.declaredSpecifier_agree deeper source
  · exact .ok rfl

theorem declaredImport_agree (resembles : Resembles document document' site site')
    {child child' : Node} (like : child.Like child') (source : Option String) :
    Agree Naming.LookAlike ((site.below child).declaredImport document source)
      ((site'.below child').declaredImport document' source) := by
  have types : (site.below child).type = (site'.below child').type := like.alike.type_eq
  rw [declaredImport, declaredImport, ← types]
  split
  · next type =>
    have inner := resembles.child like type (by decide)
    have named := inner.namedChildren type (by decide)
    rw [inner.moduleSpecifier_eq]
    generalize (site.below child).node.namedChildren = nodes at named ⊢
    generalize (site'.below child').node.namedChildren = nodes' at named ⊢
    cases named with
    | nil => exact .error _
    | cons first _ =>
        simp only [text_eq_of_matches resembles.content first]
        refine (Agree.refl _).bind fun name _ same => (Agree.refl _).bind fun clause _ same' => ?_
        subst same same'
        exact .ok (Naming.lookAlike_single (inner.isExported_eq type (by decide)))
  · next type =>
    have inner := resembles.child like type (by decide)
    refine collectMap_agree (like.inside (by rw [show child.type = _ from type]; decide))
      (fun site => declaredImportPart_comment) (fun site => declaredImportPart_comment) ?_
    exact fun _ _ deeper => inner.declaredImportPart_agree deeper source
  · exact .ok rfl

theorem declaredAlias_agree (resembles : Resembles document document' site site')
    (type : site.type = "import_alias") :
    Agree Naming.LookAlike (site.declaredAlias document) (site'.declaredAlias document') := by
  have children := resembles.namedChildren type (by decide)
  rw [declaredAlias, declaredAlias]
  obtain ⟨missing, missing'⟩ | ⟨name, name', found, found', named⟩ :=
    Option.rel_cases (List.rel_head? children)
  · rw [missing, missing']
    exact .error _
  · obtain ⟨gone, gone'⟩ | ⟨target, target', last, last', aimed⟩ :=
      Option.rel_cases (List.rel_getLast? children)
    · rw [gone, gone', found, found']
      exact .error _
    · rw [found, found', last, last']
      simp only [text_eq_of_matches resembles.content named,
        text_eq_of_matches resembles.content aimed]
      refine (Agree.refl _).bind fun text _ same => (Agree.refl _).bind fun goal _ same' => ?_
      subst same same'
      exact .ok (Naming.lookAlike_single (resembles.isExported_eq type (by decide)))

theorem declared_agree (resembles : Resembles document document' site site') :
    Agree Naming.LookAlike (site.declared document) (site'.declared document') := by
  have inside {type : String} (known : site.type = type) (deep : isDeepType type = true) :=
    resembles.inside (known ▸ deep)
  have declarator {child child' : Node} (like : child.Like child') :=
    declaredVariable_agree resembles.content resembles.type_eq resembles.above like
  rw [declared, declared, ← resembles.type_eq]
  split
  · next declaring =>
    have other : site.type ≠ "variable_declarator" := by
      intro type
      rw [show site.type = _ from type] at declaring
      exact absurd declaring (by decide)
    obtain ⟨missing, missing'⟩ | ⟨name, name', found, found', named⟩ :=
      Option.rel_cases (resembles.child? "name")
    · rw [missing, missing']
      exact .ok rfl
    · rw [found, found']
      exact resembles.read_agree named (resembles.isExported_eq rfl other)
  · split
    · next type =>
      exact collectMap_agree (inside type (by decide)) (fun site => declaredVariable_comment)
        (fun site => declaredVariable_comment) fun _ _ => declarator
    · next type =>
      exact collectMap_agree (inside type (by decide)) (fun site => declaredVariable_comment)
        (fun site => declaredVariable_comment) fun _ _ => declarator
    · next type =>
      rw [resembles.moduleSpecifier_eq]
      refine (Agree.refl _).bind fun source _ same => ?_
      subst same
      refine collectMap_agree (inside type (by decide)) (fun site => declaredImport_comment)
        (fun site => declaredImport_comment) fun _ _ like => ?_
      exact resembles.declaredImport_agree like source
    · next type => exact resembles.declaredAlias_agree type
    · exact .ok rfl

end Site.Resembles

namespace Listing

/-- The sketch of scopes that are opened, from the sketch of what is inside. -/
def openSketch (form : Form) (isExported : Bool) (names : List String)
    (body : List (List String × Form × Bool)) : List (List String × Form × Bool) :=
  (scopePaths names).map (fun path => (path, form, decide (path.length ≤ 1) && isExported)) ++
    body.map fun entry =>
      (names ++ entry.1, entry.2.1, decide ((names ++ entry.1).length ≤ 1) && entry.2.2)

/-- A global of the whole is a global of its inner part, where its export is noted already. -/
theorem global_flag (outer inner : List String) (flag : Bool) :
    (decide ((outer ++ inner).length ≤ 1) && flag) =
      (decide ((outer ++ inner).length ≤ 1) && (decide (inner.length ≤ 1) && flag)) := by
  by_cases short : inner.length ≤ 1
  · rw [decide_eq_true short, Bool.true_and]
  · have long : ¬ (outer ++ inner).length ≤ 1 := by
      rw [List.length_append]
      omega
    rw [decide_eq_false long, Bool.false_and, Bool.false_and]

theorem sketch_append (first second : Listing) :
    sketch (first ++ second) = first.sketch ++ second.sketch := List.map_append

theorem sketch_opened (declaration : Declaration) (names : List String) (body : Listing) :
    (opened declaration names body).sketch =
      openSketch declaration.form declaration.isExported names body.sketch := by
  rw [opened, sketch_append, openSketch, sketch, sketch, sketch, List.map_map, List.map_map,
    List.map_map]
  congr 1
  refine List.map_congr_left fun pair _ => ?_
  simp only [Function.comp_apply, ← global_flag]

end Listing

/-- Two listings with the same sketch. -/
def SameSketch (listing listing' : Listing) : Prop := listing.sketch = listing'.sketch

theorem Naming.sketch_eq (namings : List Naming) :
    Listing.sketch (namings.map fun naming => ([naming.1], naming.2)) =
      (namings.map look).map fun seen => ([seen.1], seen.2.1, seen.2.2) := by
  rw [Listing.sketch, List.map_map, List.map_map]
  exact List.map_congr_left fun naming _ => by simp [look]

theorem Naming.LookAlike.sameSketch {namings namings' : List Naming}
    (same : LookAlike namings namings') :
    SameSketch (namings.map fun naming => ([naming.1], naming.2))
      (namings'.map fun naming => ([naming.1], naming.2)) := by
  rw [SameSketch, sketch_eq, sketch_eq, same]

namespace Document

variable {node : Node}

theorem listBody_eq (ancestors : List Node) (node : Node) :
    document.listBody ancestors node.children =
      match node.child? "body" with
      | some body => document.listBlock (body :: ancestors) body.children
      | none => .ok [] := by
  rw [Node.child?]
  induction node.children with
  | nil => rw [listBody, List.find?_nil]
  | cons node nodes ih =>
      obtain ⟨head, children⟩ := node
      rw [listBody]
      by_cases found : (head.field == some "body") = true
      · simp only [found, if_true, List.find?_cons]
      · simp only [found, List.find?_cons, ih]
        rfl

theorem listStatement_of_namespace {ancestors : List Node}
    (nested : isNamespaceType node.type = true) :
    document.listStatement ancestors node = (do
      let names ← Binder.namespaceNames document node
      let body ← document.listBody (node :: ancestors) node.children
      return Listing.opened ⟨.plain node.type, ⟨node, ancestors⟩⟩ names body) := by
  obtain ⟨head, children⟩ := node
  have solid : ¬ isTransparentType head.type = true := by
    rw [not_transparent_of_namespace nested]
    exact Bool.false_ne_true
  rw [listStatement, if_neg solid, if_pos nested]

theorem listStatement_of_transparent {ancestors : List Node}
    (transparent : isTransparentType node.type = true) :
    document.listStatement ancestors node =
      document.listBlock (node :: ancestors) node.children := by
  obtain ⟨head, children⟩ := node
  rw [listStatement, if_pos transparent]

theorem listStatement_of_other {ancestors : List Node}
    (solid : ¬ isTransparentType node.type = true) (plain : ¬ isNamespaceType node.type = true) :
    document.listStatement ancestors node = (do
      let namings ← Site.declared document ⟨node, ancestors⟩
      return namings.map fun naming => ([naming.1], naming.2)) := by
  obtain ⟨head, children⟩ := node
  rw [listStatement, if_neg solid, if_neg plain]

end Document

theorem agree_listBlock_of_forall₂ {ancestors ancestors' nodes nodes' : List Node}
    (each : List.Forall₂ (fun node node' => node.named = node'.named ∧
      Agree SameSketch (document.listStatement ancestors node)
        (document'.listStatement ancestors' node')) nodes nodes') :
    Agree SameSketch (document.listBlock ancestors nodes)
      (document'.listBlock ancestors' nodes') := by
  induction each with
  | nil => exact .ok rfl
  | @cons node node' nodes nodes' first _ ih =>
      obtain ⟨named, agree⟩ := first
      rw [Document.listBlock, Document.listBlock, named]
      split
      · refine agree.bind fun _ _ here => ih.bind fun _ _ later => .ok ?_
        rw [SameSketch, Listing.sketch_append, Listing.sketch_append, here, later]
      · exact ih

/-- Statements at which the same is read list the same names, if what is inside does: the
statement itself for a transparent one, the body for a namespace. -/
theorem Site.Resembles.agree_listStatement {node node' : Node} {ancestors ancestors' : List Node}
    (resembles : Site.Resembles document document' ⟨node, ancestors⟩ ⟨node', ancestors'⟩)
    (block : isTransparentType node.type = true →
      Agree SameSketch (document.listBlock (node :: ancestors) node.children)
        (document'.listBlock (node' :: ancestors') node'.children))
    (body : isNamespaceType node.type = true → ∀ body body', node.child? "body" = some body →
      node'.child? "body" = some body' →
        Agree SameSketch (document.listBlock (body :: node :: ancestors) body.children)
          (document'.listBlock (body' :: node' :: ancestors') body'.children)) :
    Agree SameSketch (document.listStatement ancestors node)
      (document'.listStatement ancestors' node') := by
  have type : node.type = node'.type := resembles.type_eq
  by_cases transparent : isTransparentType node.type = true
  · rw [Document.listStatement_of_transparent transparent,
      Document.listStatement_of_transparent (type ▸ transparent)]
    exact block transparent
  · by_cases isNamespace : isNamespaceType node.type = true
    · have other : node.type ≠ "variable_declarator" :=
        ne_of_apply_ne isNamespaceType (by rw [isNamespace]; decide)
      have inner : Agree SameSketch (document.listBody (node :: ancestors) node.children)
          (document'.listBody (node' :: ancestors') node'.children) := by
        rw [Document.listBody_eq, Document.listBody_eq]
        obtain ⟨missing, missing'⟩ | ⟨block, block', found, found', -⟩ :=
          Option.rel_cases (resembles.child? "body")
        · rw [missing, missing']
          exact .ok rfl
        · rw [found, found']
          exact body isNamespace block block' found found'
      rw [Document.listStatement_of_namespace isNamespace,
        Document.listStatement_of_namespace (type ▸ isNamespace),
        namespaceNames_eq_of_rel resembles.content (resembles.child? "name")]
      refine (Agree.refl _).bind fun names _ same => inner.bind fun _ _ below => .ok ?_
      subst same
      rw [SameSketch, Listing.sketch_opened, Listing.sketch_opened, below,
        resembles.isExported_eq rfl other, type]
    · rw [Document.listStatement_of_other transparent isNamespace,
        Document.listStatement_of_other (type ▸ transparent) (type ▸ isNamespace)]
      refine resembles.declared_agree.bind fun namings namings' same => .ok ?_
      exact same.sameSketch

end SourceOutline
