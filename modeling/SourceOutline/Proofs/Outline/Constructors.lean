import SourceOutline.Proofs.BaseName.Ambient
import SourceOutline.Proofs.Outline.Ownership
import SourceOutline.Proofs.Outline.Total

/-!
# Constructors and what is declared in them

A method node that is named `constructor` starts no declaration. It has no element, and what is
declared in it belongs to the element around it.

Two readings of its name meet here. The kind of a node is decided by the name as it is written;
the element is called by the name without the quotes of a string literal. So a constructor whose
name is written as a literal is taken for a method: it has an element called `constructor`, and
nothing in its body is seen.
-/

namespace SourceOutline

variable {document : Document} {resolver : Resolver}

namespace Text

/-- Of the other texts, only the literals of a content have that content. -/
theorem unquote_eq_iff {content text : String} (differs : text ≠ content)
    (free : content.toList.any isQuote = false) :
    unquote text = content ↔ ∃ quote, IsQuoted quote content text := by
  constructor
  · rintro rfl
    obtain ⟨quote, quotes, written⟩ := eq_quoted_of_unquote_ne differs.symm
    exact ⟨quote, quotes, free, written⟩
  · rintro ⟨quote, quoted⟩
    exact unquote_of_quoted quoted.isQuote quoted.written

end Text

namespace Site

/-- A constructor whose name is written without quotes. -/
structure IsConstructor (document : Document) (site : Site) : Prop where
  method : isMethodType site.type = true
  name : document.text? (site.node.child? "name") = .ok "constructor"

/-- The name is the string literal of `constructor`, in any of the three quotes. -/
def QuotesConstructor (document : Document) (site : Site) : Prop :=
  ∃ name text quote, site.node.child? "name" = some name ∧ name.type = "string" ∧
    document.text name = .ok text ∧ Text.IsQuoted quote "constructor" text

/-- A site inside another one, with nothing classified in between. -/
inductive Encloses (document : Document) (outer : Site) : Site → Prop
  | child {node : Node} : node ∈ outer.node.children → Encloses document outer (outer.below node)
  | deeper {site : Site} {node : Node} : Encloses document outer site →
      site.kind? document = none → node ∈ site.node.children →
      Encloses document outer (site.below node)

namespace Encloses

variable {outer inner : Site}

theorem mem_sites (within : outer.Encloses document inner) (member : outer ∈ document.sites) :
    inner ∈ document.sites := by
  induction within with
  | child among => exact Document.mem_sites_below member among
  | deeper _ _ among ih => exact Document.mem_sites_below ih among

/-- What is not classified hides nothing. -/
theorem isVisible (within : outer.Encloses document inner)
    (unclassified : outer.kind? document = none) (visible : outer.isVisible document = true) :
    inner.isVisible document = true := by
  have inside {site : Site} (unknown : site.kind? document = none) :
      site.isLeaf document = false := by
    rw [isLeaf, unknown]
    rfl
  induction within with
  | child => exact isVisible_below visible (inside unclassified)
  | deeper _ unknown _ ih => exact isVisible_below ih (inside unknown)

/-- What is not classified is passed by. -/
theorem nearest?_eq (within : outer.Encloses document inner)
    (unclassified : outer.kind? document = none) :
    inner.nearest? document = outer.nearest? document := by
  induction within with
  | child => exact nearestAmong_of_unclassified unclassified
  | deeper _ unknown _ ih => exact (nearestAmong_of_unclassified unknown).trans ih

end Encloses

variable {site : Site} {kind : DeclarationKind}

theorem classify_method (method : isMethodType site.type = true) :
    site.classify document =
      if site.type == "method_signature" && !site.inClassBody then .ok none
      else site.methodKind document := by
  simp only [isMethodType, Bool.or_eq_true, beq_iff_eq] at method
  rcases method with (type | type) | type <;> simp only [classify, type] <;> rfl

theorem methodKind_of_kind? (method : isMethodType site.type = true)
    (known : site.kind? document = some kind) : site.methodKind document = .ok (some kind) := by
  have classified := classify_of_kind? known
  rw [classify_method method] at classified
  split at classified
  · cases classified
  · exact classified

theorem isLeaf_of_methodKind (classified : site.methodKind document = .ok (some kind)) :
    kind.isLeaf = true := by
  rcases methodKind_shape classified with rfl | rfl | rfl <;> rfl

theorem IsConstructor.kind?_eq_none (constructs : site.IsConstructor document) :
    site.kind? document = none := by
  apply kind?_eq_of_classify
  rw [classify_method constructs.method]
  split
  · rfl
  · rw [methodKind, constructs.name]
    rfl

/-- A method or accessor is called `constructor` exactly if its name is a literal. -/
theorem declaredName_eq_constructor_iff {name : String}
    (classified : site.methodKind document = .ok (some kind))
    (named : site.declaredName document = .ok name) :
    name = "constructor" ↔ site.QuotesConstructor document := by
  obtain ⟨node, required, named⟩ := bind_eq_ok_iff.mp named
  obtain ⟨text, read, named⟩ := bind_eq_ok_iff.mp named
  have found := requiredField_eq_ok_iff.mp required
  have differs : text ≠ "constructor" := by
    rintro rfl
    rw [methodKind, found, Document.text?, read] at classified
    cases classified
  by_cases literal : node.type = "string"
  · rw [if_pos (beq_iff_eq.mpr literal)] at named
    cases named
    rw [Text.unquote_eq_iff differs (by decide)]
    constructor
    · rintro ⟨quote, quoted⟩
      exact ⟨node, text, quote, found, literal, read, quoted⟩
    · rintro ⟨other, written, quote, foundOther, -, readOther, quoted⟩
      cases found.symm.trans foundOther
      cases read.symm.trans readOther
      exact ⟨quote, quoted⟩
  · rw [if_neg (by simpa using literal)] at named
    cases named
    refine iff_of_false differs ?_
    rintro ⟨other, -, -, foundOther, isString, -⟩
    cases found.symm.trans foundOther
    exact literal isString

end Site

namespace Layout

variable {registry : Registry} {root : Nat} {placed : Placement} {site : Site} {refs : List Nat}

/-- The element of a method node is called `constructor` exactly if the name is a literal. -/
theorem method_named (layout : Layout document resolver registry root placed)
    (member : (site, refs) ∈ placed) (method : isMethodType site.type = true) :
    ∃ ref traits, refs = [ref] ∧ registry.traits? ref = some traits ∧
      (traits.name = "constructor" ↔ site.QuotesConstructor document) := by
  obtain ⟨kind, chain, owner, _, known, given, -, linked⟩ := layout.contributed member
  have classified := Site.methodKind_of_kind? method known
  have leaf := Site.isLeaf_of_methodKind classified
  obtain ⟨traits, rfl, named, -⟩ := Site.contribution_member leaf given
  have spelled := Site.declaredName_eq_constructor_iff classified named
  cases refs with
  | nil => exact linked.elim
  | cons ref others =>
      obtain ⟨⟨found, -⟩, rest⟩ := linked
      cases others with
      | nil => exact ⟨ref, traits, rfl, found, spelled⟩
      | cons _ _ => exact rest.elim

/-- Nothing inside a method node has an element. -/
theorem method_closed (layout : Layout document resolver registry root placed)
    (member : (site, refs) ∈ placed) (method : isMethodType site.type = true)
    {inner : Site} {others : List Nat} (among : (inner, others) ∈ placed) :
    site ∉ Site.ancestorSites inner.ancestors := by
  intro above
  obtain ⟨kind, _, _, _, known, -⟩ := layout.contributed member
  have leaf := Site.isLeaf_of_methodKind (Site.methodKind_of_kind? method known)
  have visible := (layout.declaring among).1
  have entered := Site.isVisible_iff.mp visible site above
  rw [Site.isLeaf, known] at entered
  cases leaf.symm.trans entered

/-- What is declared in a visible node of no kind belongs to the element in charge there. -/
theorem enclosed_owned (layout : Layout document resolver registry root placed)
    (member : site ∈ document.sites) (visible : site.isVisible document = true)
    (unclassified : site.kind? document = none) {inner : Site}
    (within : site.Encloses document inner) (classified : (inner.kind? document).isSome = true) :
    ∃ refs ref owner, (inner, refs) ∈ placed ∧ refs.head? = some ref ∧
      placed.InCharge root (site.nearest? document) owner ∧
      ref ∈ registry.childrenOf owner := by
  obtain ⟨refs, place⟩ := layout.exists_mem_placed (within.mem_sites member)
    (within.isVisible unclassified visible) classified
  obtain ⟨_, chain, owner, _, -, given, charge, linked⟩ := layout.contributed place
  rw [within.nearest?_eq unclassified] at charge
  obtain ⟨first, rest, rfl⟩ := List.exists_cons_of_ne_nil (Branch.chain_ne_nil given)
  cases refs with
  | nil => exact linked.elim
  | cons ref others =>
      exact ⟨_, ref, owner, place, rfl, charge, (layout.owned owner ref).mpr linked.1.2⟩

end Layout

/-- In a successful collection a method node has no element that is called `constructor`, unless
its name is a string literal: then it has, and nothing inside it has an element. A constructor whose
name is written without quotes has no element, and what is declared in it, at any depth but not
inside another declaration, is owned by the element of the nearest classified node above it. -/
theorem collect_constructors {path : String} {registry : Registry} {root : Nat}
    {before after : Journal}
    (success : (collect document path resolver).Gives before (registry, root) after) :
    ∃ placed, Layout document resolver registry root placed ∧
      (∀ site refs, (site, refs) ∈ placed → isMethodType site.type = true →
        (∃ ref traits, refs = [ref] ∧ registry.traits? ref = some traits ∧
          (traits.name = "constructor" ↔ site.QuotesConstructor document)) ∧
        ∀ inner others, (inner, others) ∈ placed → site ∉ Site.ancestorSites inner.ancestors) ∧
      ∀ site ∈ document.sites, site.isVisible document = true → site.IsConstructor document →
        (∀ refs, (site, refs) ∉ placed) ∧
        ∀ inner, site.Encloses document inner → (inner.kind? document).isSome = true →
          ∃ refs ref owner, (inner, refs) ∈ placed ∧ refs.head? = some ref ∧
            placed.InCharge root (site.nearest? document) owner ∧
            ref ∈ registry.childrenOf owner := by
  obtain ⟨placed, layout⟩ := exists_layout success
  refine ⟨placed, layout, fun site refs member method => ?_, ?_⟩
  · exact ⟨layout.method_named member method, fun _ _ => layout.method_closed member method⟩
  · intro site member visible constructs
    have unclassified := constructs.kind?_eq_none
    refine ⟨fun refs among => ?_, fun inner within classified =>
      layout.enclosed_owned member visible unclassified within classified⟩
    obtain ⟨kind, _, _, _, known, -⟩ := layout.contributed among
    cases unclassified.symm.trans known

/-- The tree of `class A { constructor() { function f() {} } }`, for any way to write the name. -/
def constructing (type name : String) : Document where
  content := ("class A \x7b " ++ name ++ "() \x7b function f() \x7b\x7d \x7d \x7d").toUTF8
  root :=
    let stop := 10 + name.utf8ByteSize
    ⟨⟨0, "program", 0, true, none, 0, stop + 24⟩, [
      ⟨⟨1, "class_declaration", 0, true, none, 0, stop + 24⟩, [
        ⟨⟨2, "type_identifier", 0, true, some "name", 6, 7⟩, []⟩,
        ⟨⟨3, "class_body", 0, true, some "body", 8, stop + 24⟩, [
          ⟨⟨4, "method_definition", 0, true, none, 10, stop + 22⟩, [
            ⟨⟨5, type, 0, true, some "name", 10, stop⟩, []⟩,
            ⟨⟨6, "formal_parameters", 0, true, some "parameters", stop, stop + 2⟩, []⟩,
            ⟨⟨7, "statement_block", 0, true, some "body", stop + 3, stop + 22⟩, [
              ⟨⟨8, "function_declaration", 0, true, none, stop + 5, stop + 20⟩, [
                ⟨⟨9, "identifier", 0, true, some "name", stop + 14, stop + 15⟩, []⟩]⟩]⟩]⟩]⟩]⟩]⟩

def plainConstructor : Document := constructing "property_identifier" "constructor"

def quotedConstructor : Document := constructing "string" "'constructor'"

set_option maxRecDepth 10000 in
/-- The function in the body of the constructor belongs to the class. -/
theorem plainConstructor_entered : ∃ registry root after,
    (collect plainConstructor "a.ts" .silent).Gives {} (registry, root) after ∧
      registry.entries.toList.map (fun entry => entry.traits.name) = ["a", "A", "f"] ∧
      ∃ placed site inner refs ref owner, Layout plainConstructor .silent registry root placed ∧
        plainConstructor.site? 4 = some site ∧ plainConstructor.site? 8 = some inner ∧
        (inner, refs) ∈ placed ∧ refs.head? = some ref ∧
        placed.InCharge root (site.nearest? plainConstructor) owner ∧
        ref ∈ registry.childrenOf owner := by
  have success : ∃ registry root after,
      (collect plainConstructor "a.ts" .silent).Gives {} (registry, root) after ∧
        registry.entries.toList.map (fun entry => entry.traits.name) = ["a", "A", "f"] := by
    rw [collect_eq_outline]
    exact ⟨_, _, _, rfl, rfl⟩
  obtain ⟨registry, root, after, gives, names⟩ := success
  obtain ⟨placed, layout, -, transparent⟩ := collect_constructors gives
  obtain ⟨site, inner, found, foundInner, visible, constructs, within, known⟩ : ∃ site inner,
      plainConstructor.site? 4 = some site ∧ plainConstructor.site? 8 = some inner ∧
      site.isVisible plainConstructor = true ∧ site.IsConstructor plainConstructor ∧
      site.Encloses plainConstructor inner ∧
      (inner.kind? plainConstructor).isSome = true :=
    ⟨_, _, rfl, rfl, rfl, ⟨rfl, rfl⟩,
      .deeper (.child (.tail _ (.tail _ (.head _)))) rfl (.head _), rfl⟩
  obtain ⟨refs, ref, owner, place, first, charge, child⟩ :=
    (transparent site (List.mem_of_find?_eq_some found) visible constructs).2 inner within known
  exact ⟨registry, root, after, gives, names, placed, site, inner, refs, ref, owner, layout, found,
    foundInner, place, first, charge, child⟩

set_option maxRecDepth 10000 in
/-- Between quotes it is a method, and the function in its body is lost. -/
theorem quotedConstructor_is_method : ∃ registry root after site,
    (collect quotedConstructor "a.ts" .silent).Gives {} (registry, root) after ∧
      registry.entries.toList.map (fun entry => (entry.traits.name, entry.traits.isMember)) =
        [("a", false), ("A", false), ("constructor", true)] ∧
      quotedConstructor.site? 4 = some site ∧ site.type = "method_definition" ∧
      site.kind? quotedConstructor = some .method ∧
      (site.elements quotedConstructor .silent).map Traits.name = ["constructor"] := by
  rw [collect_eq_outline]
  exact ⟨_, _, _, _, rfl, rfl, rfl, rfl, rfl, rfl⟩

end SourceOutline
