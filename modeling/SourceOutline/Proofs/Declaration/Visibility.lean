import SourceOutline.Declaration.Policy
import SourceOutline.Proofs.Journal

/-!
# How visible a declaration is

Three things tell how visible a declaration is: the words of the access modifiers among its
children, the unbroken run of export statements and ambient declarations directly above it, and
its owner, the first node above it that is no wrapper. `Shows` puts them in order: the strictest
word decides, then an export, then the owner. The visibility that is computed from the modifiers is
the one that is shown.

Nothing else is read. Two sites with the same words, in any order and any number, and with
ancestors of the same types up to the owner are equally visible, whatever stands around them.
-/

namespace SourceOutline

namespace Modifier

/-- The words of an access modifier. -/
def isAccess : Modifier → Bool
  | pub | prot | priv => true
  | exporting | static | abstract | readonly | declare | async | override => false

theorem ofAccessibility?_eq_some_iff {word : String} {modifier : Modifier} :
    ofAccessibility? word = some modifier ↔ modifier.isAccess = true ∧ word = modifier.label := by
  unfold ofAccessibility?
  split
  case h_4 publicly protectedly privately =>
    refine ⟨nofun, fun ⟨access, same⟩ => ?_⟩
    cases modifier with
    | pub => exact absurd same publicly
    | prot => exact absurd same protectedly
    | priv => exact absurd same privately
    | _ => cases access
  all_goals cases modifier <;> simp [isAccess, label]

theorem ofToken?_shape {type : String} {modifier : Modifier}
    (known : ofToken? type = some modifier) : modifier.isAccess = false ∧ modifier ≠ exporting := by
  unfold ofToken? at known
  split at known <;> cases known <;> exact ⟨rfl, by decide⟩

theorem ofWrapper?_eq_some_iff {type : String} {modifier : Modifier} :
    ofWrapper? type = some modifier ↔
      type = "export_statement" ∧ modifier = exporting ∨
        type = "ambient_declaration" ∧ modifier = declare := by
  unfold ofWrapper?
  split
  · simp [eq_comm]
  · simp [eq_comm]
  · next notExport notAmbient =>
    refine ⟨nofun, ?_⟩
    rintro (⟨type, -⟩ | ⟨type, -⟩)
    · exact absurd type notExport
    · exact absurd type notAmbient

/-- Whatever lends a modifier is a wrapper. -/
theorem ofWrapper?_of_solid {type : String} (solid : isWrapperType type = false) :
    ofWrapper? type = none := by
  cases known : ofWrapper? type with
  | none => rfl
  | some modifier =>
      rcases ofWrapper?_eq_some_iff.mp known with ⟨rfl, -⟩ | ⟨rfl, -⟩
      · exact absurd solid (by decide)
      · exact absurd solid (by decide)

end Modifier

section

variable {document : Document} {child : Node} {children : List Node}

/-- A child writes a word of access exactly if it is an access modifier that reads as this word. -/
theorem childModifier?_access_iff {modifier : Modifier} (access : modifier.isAccess = true) :
    childModifier? document child = .ok (some modifier) ↔
      child.type = "accessibility_modifier" ∧
        (document.text child).map Text.strip = .ok modifier.label := by
  rw [childModifier?]
  by_cases type : child.type = "accessibility_modifier"
  · rw [if_pos (beq_iff_eq.mpr type), map_eq_ok_iff]
    refine ⟨fun given => ⟨type, ?_⟩, ?_⟩
    · obtain ⟨text, read, given⟩ := bind_eq_ok_iff.mp given
      simp only at given
      split at given
      · next known =>
        cases given
        exact ⟨text, read, (Modifier.ofAccessibility?_eq_some_iff.mp known).2⟩
      · cases given
    · rintro ⟨-, text, read, word⟩
      refine bind_eq_ok_iff.mpr ⟨text, read, ?_⟩
      simp only [Modifier.ofAccessibility?_eq_some_iff.mpr ⟨access, word⟩]
      rfl
  · rw [if_neg (by rwa [beq_iff_eq])]
    refine ⟨fun given => ?_, fun given => absurd given.1 type⟩
    have token := Modifier.ofToken?_shape (Except.ok.inj given)
    cases token.1.symm.trans access

/-- The modifier of a child can be read unless the child is an access modifier with another
word. -/
theorem defined_childModifier?_iff :
    Defined (childModifier? document child) ↔
      (child.type = "accessibility_modifier" → ∃ modifier : Modifier, modifier.isAccess = true ∧
        (document.text child).map Text.strip = .ok modifier.label) := by
  constructor
  · rintro ⟨modifier?, given⟩ type
    have accepted := given
    rw [childModifier?, if_pos (beq_iff_eq.mpr type)] at accepted
    obtain ⟨text, -, accepted⟩ := bind_eq_ok_iff.mp accepted
    simp only at accepted
    split at accepted
    · next modifier known =>
      cases accepted
      have access := (Modifier.ofAccessibility?_eq_some_iff.mp known).1
      exact ⟨modifier, access, ((childModifier?_access_iff access).mp given).2⟩
    · cases accepted
  · intro reads
    by_cases type : child.type = "accessibility_modifier"
    · obtain ⟨modifier, access, read⟩ := reads type
      exact ⟨_, (childModifier?_access_iff access).mpr ⟨type, read⟩⟩
    · rw [childModifier?, if_neg (by rwa [beq_iff_eq])]
      exact defined_ok _

theorem childModifier?_ne_exporting {modifier? : Option Modifier}
    (given : childModifier? document child = .ok modifier?) : modifier? ≠ some .exporting := by
  rintro rfl
  rw [childModifier?] at given
  split at given
  · obtain ⟨text, -, given⟩ := bind_eq_ok_iff.mp given
    simp only at given
    split at given
    · next known =>
      cases given
      cases (Modifier.ofAccessibility?_eq_some_iff.mp known).1
    · cases given
  · exact (Modifier.ofToken?_shape (Except.ok.inj given)).2 rfl

theorem mem_childModifiers_iff {written : List Modifier}
    (given : childModifiers document children = .ok written) {modifier : Modifier} :
    modifier ∈ written ↔
      ∃ child ∈ children, childModifier? document child = .ok (some modifier) := by
  induction children generalizing written with
  | nil =>
      cases given
      simp
  | cons child rest ih =>
      obtain ⟨first, here, given⟩ := bind_eq_ok_iff.mp given
      obtain ⟨others, later, given⟩ := bind_eq_ok_iff.mp given
      cases given
      simp [List.mem_append, ih later, here]

/-- No child writes `export`: it comes from a wrapper or not at all. -/
theorem exporting_not_mem_childModifiers {written : List Modifier}
    (given : childModifiers document children = .ok written) : .exporting ∉ written := by
  intro member
  obtain ⟨child, -, here⟩ := (mem_childModifiers_iff given).mp member
  exact childModifier?_ne_exporting here rfl

theorem defined_childModifiers_iff :
    Defined (childModifiers document children) ↔
      ∀ child ∈ children, Defined (childModifier? document child) := by
  induction children with
  | nil => exact ⟨fun _ => nofun, fun _ => defined_ok []⟩
  | cons child rest ih =>
      rw [List.forall_mem_cons, ← ih]
      constructor
      · rintro ⟨written, given⟩
        obtain ⟨first, here, given⟩ := bind_eq_ok_iff.mp given
        obtain ⟨others, later, -⟩ := bind_eq_ok_iff.mp given
        exact ⟨⟨first, here⟩, others, later⟩
      · rintro ⟨here, later⟩
        exact here.bind fun _ _ => later.bind fun _ _ => defined_ok _

end

namespace Site

variable (document : Document) (site : Site)

/-- The words of the access modifiers among the children, as far as they can be read. -/
def readings : List (Except Failure String) :=
  (site.node.children.filter fun child => child.type == "accessibility_modifier").map
    fun child => (document.text child).map Text.strip

/-- Some access modifier reads as the word. -/
def Reads (word : String) : Prop := .ok word ∈ site.readings document

/-- An export statement stands in the unbroken run of export statements and ambient declarations
directly above the site. -/
def Exports : Prop :=
  ∃ run statement above, site.ancestors = run ++ statement :: above ∧
    (∀ node ∈ run, node.type = "export_statement" ∨ node.type = "ambient_declaration") ∧
    statement.type = "export_statement"

/-- The owner of a site is the first node above it that is no wrapper. -/
def OwnedBy (owner : Site) : Prop :=
  ∃ run, site.ancestors = run ++ owner.node :: owner.ancestors ∧
    (∀ node ∈ run, isWrapperType node.type = true) ∧ isWrapperType owner.type = false

def InClass : Prop := ∃ owner, site.OwnedBy owner ∧ isClassType owner.type = true

/-- How visible a declaration is. The first rule that applies decides. -/
inductive Shows : Visibility → Prop
  | guarded (word : site.Reads document "protected") : Shows .prot
  | hidden (unguarded : ¬ site.Reads document "protected")
      (word : site.Reads document "private") : Shows .priv
  | opened (unguarded : ¬ site.Reads document "protected")
      (unhidden : ¬ site.Reads document "private")
      (marked : site.Reads document "public" ∨ site.Exports) : Shows .pub
  | member (unguarded : ¬ site.Reads document "protected")
      (unhidden : ¬ site.Reads document "private")
      (unmarked : ¬ (site.Reads document "public" ∨ site.Exports))
      (owned : site.InClass) : Shows .pub
  | other (unguarded : ¬ site.Reads document "protected")
      (unhidden : ¬ site.Reads document "private")
      (unmarked : ¬ (site.Reads document "public" ∨ site.Exports))
      (unowned : ¬ site.InClass) : Shows .priv

variable {document site}

theorem Shows.unique {one two : Visibility} (first : site.Shows document one)
    (second : site.Shows document two) : one = two := by
  cases first <;> cases second <;> trivial

theorem mem_readings_iff {reading : Except Failure String} :
    reading ∈ site.readings document ↔ ∃ child ∈ site.node.children,
      child.type = "accessibility_modifier" ∧ (document.text child).map Text.strip = reading := by
  simp [readings, and_assoc]

/-- The modifiers can be read exactly if every access modifier holds a word of access. -/
theorem defined_modifiers_iff :
    Defined (site.modifiers document) ↔ ∀ reading ∈ site.readings document,
      ∃ modifier : Modifier, modifier.isAccess = true ∧ reading = .ok modifier.label := by
  have written : Defined (site.modifiers document) ↔
      Defined (childModifiers document site.node.children) := by
    constructor
    · rintro ⟨modifiers, given⟩
      obtain ⟨written, fromChildren, -⟩ := bind_eq_ok_iff.mp given
      exact ⟨written, fromChildren⟩
    · exact fun fromChildren => fromChildren.bind fun _ _ => defined_ok _
  rw [written, defined_childModifiers_iff]
  simp only [defined_childModifier?_iff, mem_readings_iff]
  constructor
  · rintro each reading ⟨child, member, type, rfl⟩
    exact each child member type
  · exact fun each child member type => each _ ⟨child, member, type, rfl⟩

end Site

theorem isAccess_of_mem_wrapperModifiers {ancestors : List Node} {modifier : Modifier}
    (member : modifier ∈ wrapperModifiers ancestors) : modifier.isAccess = false := by
  induction ancestors with
  | nil => cases member
  | cons node above ih =>
      rw [wrapperModifiers] at member
      split at member
      · next lent =>
        rcases List.mem_cons.mp member with rfl | higher
        · rcases Modifier.ofWrapper?_eq_some_iff.mp lent with ⟨-, rfl⟩ | ⟨-, rfl⟩ <;> rfl
        · exact ih higher
      · cases member

namespace Site

variable {document : Document} {site : Site} {modifiers : List Modifier}

/-- An export statement stands in the run of wrappers exactly if the run lends `export`. -/
theorem exports_iff {node : Node} {ancestors : List Node} :
    (⟨node, ancestors⟩ : Site).Exports ↔ .exporting ∈ wrapperModifiers ancestors := by
  induction ancestors with
  | nil => simp [wrapperModifiers, Exports]
  | cons parent above ih =>
      rw [wrapperModifiers]
      constructor
      · rintro ⟨run, statement, rest, split, wrappers, exports⟩
        cases run with
        | nil =>
            obtain ⟨rfl, rfl⟩ := List.cons.inj split
            simp [exports, Modifier.ofWrapper?]
        | cons first run =>
            obtain ⟨rfl, behind⟩ := List.cons.inj split
            obtain ⟨type, wrappers⟩ := List.forall_mem_cons.mp wrappers
            have higher := ih.mp ⟨run, statement, rest, behind, wrappers, exports⟩
            rcases type with type | type
            · simp [type, Modifier.ofWrapper?]
            · simp [type, Modifier.ofWrapper?, higher]
      · intro member
        split at member
        · next lent =>
          have type := Modifier.ofWrapper?_eq_some_iff.mp lent
          rcases List.mem_cons.mp member with rfl | higher
          · exact ⟨[], parent, above, rfl, nofun, by simpa using type⟩
          · obtain ⟨run, statement, rest, split, wrappers, exports⟩ := ih.mpr higher
            refine ⟨parent :: run, statement, rest, congrArg (parent :: ·) split, ?_, exports⟩
            exact List.forall_mem_cons.mpr ⟨type.imp And.left And.left, wrappers⟩
        · cases member

theorem access_mem_modifiers_iff (given : site.modifiers document = .ok modifiers)
    (modifier : Modifier) (access : modifier.isAccess = true) :
    modifier ∈ modifiers ↔ site.Reads document modifier.label := by
  obtain ⟨written, fromChildren, joined⟩ := bind_eq_ok_iff.mp given
  cases joined
  have unlent : modifier ∉ wrapperModifiers site.ancestors := by
    intro lent
    cases (isAccess_of_mem_wrapperModifiers lent).symm.trans access
  rw [List.mem_append, List.mem_reverse, or_iff_right unlent, mem_childModifiers_iff fromChildren,
    Reads, mem_readings_iff]
  simp only [childModifier?_access_iff access]

theorem exporting_mem_modifiers_iff (given : site.modifiers document = .ok modifiers) :
    .exporting ∈ modifiers ↔ site.Exports := by
  obtain ⟨written, fromChildren, joined⟩ := bind_eq_ok_iff.mp given
  cases joined
  rw [List.mem_append, List.mem_reverse,
    or_iff_left (exporting_not_mem_childModifiers fromChildren)]
  exact exports_iff.symm

theorem context_eq_owner (site : Site) :
    site.context =
      match (site.ancestors.find? fun node => !isWrapperType node.type).map Node.type with
      | none => .elsewhere
      | some type =>
        if isClassType type then .classBody
        else if isNamespaceType type then .moduleBody
        else .elsewhere := by
  rw [context]
  cases site.ancestors.find? fun node => !isWrapperType node.type <;> rfl

theorem context_of_ownedBy {owner : Site} (owned : site.OwnedBy owner) :
    site.context =
      if isClassType owner.type then .classBody
      else if isNamespaceType owner.type then .moduleBody
      else .elsewhere := by
  obtain ⟨run, split, wrappers, solid⟩ := owned
  have found : site.ancestors.find? (fun node => !isWrapperType node.type) = some owner.node := by
    refine List.find?_eq_some_iff_append.mpr ⟨by rw [solid]; rfl, run, owner.ancestors, split, ?_⟩
    intro node member
    rw [wrappers node member]
    rfl
  rw [context, found]

/-- Only a site without an owner has nothing but wrappers above it. -/
theorem exists_ownedBy (decided : site.context ≠ .elsewhere) : ∃ owner, site.OwnedBy owner := by
  rw [context] at decided
  cases found : site.ancestors.find? fun node => !isWrapperType node.type with
  | none =>
      rw [found] at decided
      exact absurd rfl decided
  | some owner =>
      obtain ⟨solid, run, above, split, wrappers⟩ := List.find?_eq_some_iff_append.mp found
      refine ⟨⟨owner, above⟩, run, split, fun node member => ?_, by simpa using solid⟩
      simpa using wrappers node member

theorem context_eq_classBody_iff : site.context = .classBody ↔ site.InClass := by
  constructor
  · intro inClass
    obtain ⟨owner, owned⟩ := exists_ownedBy (by rw [inClass]; decide)
    rw [context_of_ownedBy owned] at inClass
    refine ⟨owner, owned, ?_⟩
    cases classLike : isClassType owner.type with
    | true => rfl
    | false => cases nested : isNamespaceType owner.type <;> simp [classLike, nested] at inClass
  · rintro ⟨owner, owned, classLike⟩
    rw [context_of_ownedBy owned, if_pos classLike]

/-- What is computed from the modifiers and the context is what the declaration shows. -/
theorem shows_resolve (given : site.modifiers document = .ok modifiers) :
    site.Shows document (Visibility.resolve modifiers site.context) := by
  have guarded := access_mem_modifiers_iff given .prot rfl
  have hidden := access_mem_modifiers_iff given .priv rfl
  have opened := access_mem_modifiers_iff given .pub rfl
  have exported := exporting_mem_modifiers_iff given
  rw [Visibility.resolve]
  split
  · next word => exact .guarded (guarded.mp word)
  next unguarded =>
  rw [guarded] at unguarded
  split
  · next word => exact .hidden unguarded (hidden.mp word)
  next unhidden =>
  rw [hidden] at unhidden
  split
  · next word => exact .opened unguarded unhidden (.inl (opened.mp word))
  next unopened =>
  split
  · next marked => exact .opened unguarded unhidden (.inr (exported.mp marked))
  next unexported =>
  have unmarked : ¬ (site.Reads document "public" ∨ site.Exports) := by
    rintro (word | exports)
    · exact unopened (opened.mpr word)
    · exact unexported (exported.mpr exports)
  by_cases owned : site.InClass
  · rw [context_eq_classBody_iff.mpr owned]
    exact .member unguarded unhidden unmarked owned
  · have elsewhere : Visibility.default site.context = .priv := by
      cases decided : site.context with
      | classBody => exact absurd (context_eq_classBody_iff.mp decided) owned
      | moduleBody => rfl
      | elsewhere => rfl
    rw [elsewhere]
    exact .other unguarded unhidden unmarked owned

theorem visibility_eq_resolve (given : site.modifiers document = .ok modifiers) :
    site.visibility document = .ok (Visibility.resolve modifiers site.context) :=
  bind_eq_ok_iff.mpr ⟨modifiers, given, rfl⟩

end Site

/-- Chains of ancestors with the same types up to the first one that is no wrapper. -/
inductive SameLineage : List Node → List Node → Prop
  | file : SameLineage [] []
  | wrapper {node node' : Node} {above above' : List Node} (type : node.type = node'.type)
      (higher : SameLineage above above') : SameLineage (node :: above) (node' :: above')
  | owner {node node' : Node} {above above' : List Node} (type : node.type = node'.type)
      (solid : isWrapperType node.type = false) : SameLineage (node :: above) (node' :: above')

namespace SameLineage

variable {above above' : List Node}

theorem wrapperModifiers_eq (same : SameLineage above above') :
    wrapperModifiers above = wrapperModifiers above' := by
  induction same with
  | file => rfl
  | wrapper type _ ih => rw [wrapperModifiers, wrapperModifiers, type, ih]
  | owner type solid =>
      have unlent := Modifier.ofWrapper?_of_solid solid
      rw [wrapperModifiers, wrapperModifiers, ← type, unlent]

/-- The first ancestor that is no wrapper has the same type. -/
theorem ownerType_eq (same : SameLineage above above') :
    (above.find? fun node => !isWrapperType node.type).map Node.type =
      (above'.find? fun node => !isWrapperType node.type).map Node.type := by
  induction same with
  | file => rfl
  | @wrapper node node' _ _ type _ ih =>
      rw [List.find?_cons, List.find?_cons, type]
      cases isWrapperType node'.type with
      | true => exact ih
      | false => exact congrArg some type
  | owner type solid =>
      rw [List.find?_cons, List.find?_cons, ← type, solid]
      exact congrArg some type

end SameLineage

namespace Site

variable {document document' : Document} {site site' : Site}

/-- Sites with the same words and the same lineage are equally visible. -/
theorem visibility_eq_of_readings (readable : Defined (site.modifiers document))
    (words : ∀ reading, reading ∈ site'.readings document' ↔ reading ∈ site.readings document)
    (lineage : SameLineage site.ancestors site'.ancestors) :
    site'.visibility document' = site.visibility document := by
  have readable' : Defined (site'.modifiers document') := by
    rw [defined_modifiers_iff] at readable ⊢
    exact fun reading member => readable reading ((words reading).mp member)
  obtain ⟨modifiers, given⟩ := readable
  obtain ⟨modifiers', given'⟩ := readable'
  have access (modifier : Modifier) (isAccess : modifier.isAccess = true) :
      modifier ∈ modifiers' ↔ modifier ∈ modifiers := by
    rw [access_mem_modifiers_iff given modifier isAccess,
      access_mem_modifiers_iff given' modifier isAccess]
    exact words _
  have exported : .exporting ∈ modifiers' ↔ .exporting ∈ modifiers := by
    rw [exporting_mem_modifiers_iff given, exporting_mem_modifiers_iff given', exports_iff,
      exports_iff, lineage.wrapperModifiers_eq]
  have context : site'.context = site.context := by
    rw [context_eq_owner, context_eq_owner, lineage.ownerType_eq]
  rw [visibility_eq_resolve given, visibility_eq_resolve given', Visibility.resolve,
    Visibility.resolve, context]
  simp only [access .prot rfl, access .priv rfl, access .pub rfl, exported]

/-- A declaration whose modifiers can be read has one visibility, the one that it shows. It is the
visibility of every other site with the same words of access, however often and in whatever order,
and with ancestors of the same types up to the owner. -/
theorem visibility_shown (readable : Defined (site.modifiers document)) :
    (∃ visibility, site.visibility document = .ok visibility ∧
      ∀ other, site.Shows document other ↔ other = visibility) ∧
    ∀ (document' : Document) (site' : Site),
      (∀ reading, reading ∈ site'.readings document' ↔ reading ∈ site.readings document) →
      SameLineage site.ancestors site'.ancestors →
      site'.visibility document' = site.visibility document := by
  refine ⟨?_, fun document' site' words lineage => ?_⟩
  · obtain ⟨modifiers, given⟩ := readable
    have shown := shows_resolve given
    refine ⟨_, visibility_eq_resolve given, fun other => ⟨fun also => also.unique shown, ?_⟩⟩
    rintro rfl
    exact shown
  · exact visibility_eq_of_readings readable words lineage

end Site

/-- The tree of `class K { private protected f() {} }` and
`class L { g; protected private protected f() {} }`. -/
def mixedWords : Document where
  content := ("class K { private protected f() {} }\n" ++
    "class L { g; protected private protected f() {} }").toUTF8
  root := ⟨⟨0, "program", 0, true, none, 0, 86⟩, [
    ⟨⟨1, "class_declaration", 0, true, none, 0, 36⟩, [
      ⟨⟨2, "type_identifier", 0, true, some "name", 6, 7⟩, []⟩,
      ⟨⟨3, "class_body", 0, true, some "body", 8, 36⟩, [
        ⟨⟨4, "method_definition", 0, true, none, 10, 34⟩, [
          ⟨⟨5, "accessibility_modifier", 0, true, none, 10, 17⟩, []⟩,
          ⟨⟨6, "accessibility_modifier", 0, true, none, 18, 27⟩, []⟩,
          ⟨⟨7, "property_identifier", 0, true, some "name", 28, 29⟩, []⟩]⟩]⟩]⟩,
    ⟨⟨8, "class_declaration", 0, true, none, 37, 86⟩, [
      ⟨⟨9, "type_identifier", 0, true, some "name", 43, 44⟩, []⟩,
      ⟨⟨10, "class_body", 0, true, some "body", 45, 86⟩, [
        ⟨⟨11, "public_field_definition", 0, true, none, 47, 48⟩, [
          ⟨⟨12, "property_identifier", 0, true, some "name", 47, 48⟩, []⟩]⟩,
        ⟨⟨13, "method_definition", 0, true, none, 50, 84⟩, [
          ⟨⟨14, "accessibility_modifier", 0, true, none, 50, 59⟩, []⟩,
          ⟨⟨15, "accessibility_modifier", 0, true, none, 60, 67⟩, []⟩,
          ⟨⟨16, "accessibility_modifier", 0, true, none, 68, 77⟩, []⟩,
          ⟨⟨17, "property_identifier", 0, true, some "name", 78, 79⟩, []⟩]⟩]⟩]⟩]⟩

set_option maxRecDepth 10000 in
/-- The stricter word decides, whatever their order and number. -/
theorem mixedWords_shown : ∃ site site', mixedWords.site? 4 = some site ∧
    mixedWords.site? 13 = some site' ∧ site.visibility mixedWords = .ok .prot ∧
    site'.visibility mixedWords = .ok .prot := by
  obtain ⟨site, site', found, found', words, words', lineage⟩ : ∃ site site',
      mixedWords.site? 4 = some site ∧ mixedWords.site? 13 = some site' ∧
      site.readings mixedWords = [.ok "private", .ok "protected"] ∧
      site'.readings mixedWords = [.ok "protected", .ok "private", .ok "protected"] ∧
      SameLineage site.ancestors site'.ancestors :=
    ⟨_, _, rfl, rfl, rfl, rfl, .wrapper rfl (.owner rfl rfl)⟩
  have readable : Defined (site.modifiers mixedWords) := by
    rw [Site.defined_modifiers_iff, words]
    simpa using ⟨⟨.priv, rfl, rfl⟩, ⟨.prot, rfl, rfl⟩⟩
  obtain ⟨⟨visibility, given, only⟩, same⟩ := Site.visibility_shown readable
  have guarded : site.Reads mixedWords "protected" := by
    rw [Site.Reads, words]
    simp
  obtain rfl := (only .prot).mp (.guarded guarded)
  refine ⟨site, site', found, found', given, ?_⟩
  rw [same mixedWords site' (fun reading => ?_) lineage, given]
  rw [words, words']
  grind

end SourceOutline
