import SourceOutline.Proofs.Outline.Layout
import SourceOutline.Proofs.Outline.Total
import SourceOutline.Proofs.Scope.Convention
import SourceOutline.Proofs.Scope.Total

/-!
# Extraction of well-formed files

Binding never fails on a well-formed file, and neither does resolving the base types of its
classes. The walk visits tokens as well as named nodes and fails at one of them alone: the
keyword `module`, which has the type of a namespace and no name. So a well-formed file can be
extracted exactly if that keyword stands nowhere outside the bodies of functions and members.
-/

namespace SourceOutline

variable {document : Document} {resolver : Resolver}

namespace Document.WellFormed

theorem isTotal_resolver (wellFormed : document.WellFormed) (scopes : Scopes) :
    (scopes.resolver document).IsTotal document :=
  fun expression member => wellFormed.defined_symbolAt scopes expression member

/-- Every node but the keyword `module` can be built. -/
theorem isBuildable (wellFormed : document.WellFormed) (total : resolver.IsTotal document)
    {site : Site} (member : site ∈ document.sites)
    (ordinary : site.node.named = false → site.type ≠ "module") :
    site.IsBuildable document resolver := by
  obtain ⟨kind?, classified⟩ := wellFormed.legible.defined_classify member
  refine ⟨kind?, classified, fun kind known => ?_⟩
  obtain rfl : kind? = some kind := known
  have named : site.node.named = true := by
    cases named : site.node.named with
    | true => rfl
    | false =>
        have token := ((wellFormed site member).token named).2.2
        rw [Site.classify_token token (ordinary named)] at classified
        cases classified
  refine wellFormed.legible.succeeds_contribution total member classified ?_ ?_
  · exact wellFormed.findsChildren member named
  · exact wellFormed.missing?_eq_none member named (Site.fits_of_classify classified)

/-- The keyword `module` cannot be collected. -/
theorem not_collected (wellFormed : document.WellFormed) {path : String} {registry : Registry}
    {root : Nat} {before after : Journal}
    (success : (collect document path resolver).Gives before (registry, root) after) {site : Site}
    (member : site ∈ document.sites) (visible : site.isVisible document = true)
    (anonymous : site.node.named = false) : site.type ≠ "module" := by
  intro type
  obtain ⟨placed, layout⟩ := exists_layout success
  have kind : site.kind? document = some .nested := Site.kind?_of_namespace (by rw [type]; rfl)
  obtain ⟨refs, among⟩ := layout.exists_mem_placed member visible (by rw [kind]; rfl)
  obtain ⟨-, names, -⟩ := layout.modules _ refs among kind
  -- A token has no children, so it has no name either.
  have childless := List.isEmpty_iff.mp ((wellFormed _ member).token anonymous).1
  obtain ⟨name, found, -⟩ := bind_eq_ok_iff.mp names
  have named := Site.requiredField_eq_ok_iff.mp found
  rw [Node.child?, childless, List.find?_nil] at named
  cases named

theorem succeeds_collect (wellFormed : document.WellFormed) (total : resolver.IsTotal document)
    (ordinary : ∀ site ∈ document.sites, site.isVisible document = true →
      site.node.named = false → site.type ≠ "module") (path : String) :
    (collect document path resolver).Succeeds := by
  intro before
  refine (collect_gives_iff path before).mpr fun site visible => ?_
  obtain ⟨member, seen⟩ := List.mem_filter.mp visible
  exact wellFormed.isBuildable total member (ordinary site member seen)

end Document.WellFormed

/-- Report that the text did not fit the grammar, if that is so. -/
def reportErrors (document : Document) (path : String) : Recorded Unit :=
  if document.hasErrors then Recorded.report (.syntaxErrorsPresent path) else pure ()

/-- Extraction as a sequence of steps, of which only binding and collecting can fail. -/
theorem extract_eq (document : Document) (path : String) :
    extract document path = (do
      let scopes ← bindScopes document (some (modulePath path).text)
      reportErrors document path
      let collected ← collect document path (scopes.resolver document)
      let journal ← get
      pure {
        registry := collected.1, root := collected.2, diagnostics := journal.diagnostics }) := by
  unfold extract reportErrors
  cases document.hasErrors <;> rfl

/-- A file with the keyword `module` outside the bodies of functions and members is not
extracted. -/
theorem Document.WellFormed.not_extracted (wellFormed : document.WellFormed) {path : String}
    {extraction : Extraction} {before after : Journal}
    (success : (extract document path).Gives before extraction after) {site : Site}
    (member : site ∈ document.sites) (visible : site.isVisible document = true)
    (anonymous : site.node.named = false) : site.type ≠ "module" := by
  rw [extract_eq] at success
  obtain ⟨scopes, _, -, success⟩ := Recorded.gives_bind_iff.mp success
  obtain ⟨_, _, -, success⟩ := Recorded.gives_bind_iff.mp success
  obtain ⟨⟨registry, root⟩, _, collected, -⟩ := Recorded.gives_bind_iff.mp success
  exact wellFormed.not_collected collected member visible anonymous

theorem Document.WellFormed.succeeds_bindScopes (wellFormed : document.WellFormed)
    (moduleName : Option String) : (bindScopes document moduleName).Succeeds := by
  refine (Recorded.succeeds_ofExcept (wellFormed.defined_bind _)).bind fun _ scopes _ _ => ?_
  exact (Recorded.succeeds_report _).bind fun _ _ _ _ => Recorded.succeeds_pure _

theorem succeeds_reportErrors (path : String) : (reportErrors document path).Succeeds := by
  rw [reportErrors]
  split
  · exact Recorded.succeeds_report _
  · exact Recorded.succeeds_pure _

/-- A well-formed file can be extracted exactly if no visible token is the keyword
`module`. -/
theorem extract_gives_iff (wellFormed : document.WellFormed) (path : String) (before : Journal) :
    (∃ extraction after, (extract document path).Gives before extraction after) ↔
      ∀ site ∈ document.sites, site.isVisible document = true → site.node.named = false →
        site.type ≠ "module" := by
  constructor
  · rintro ⟨extraction, after, given⟩ site member visible anonymous
    exact wellFormed.not_extracted given member visible anonymous
  · intro ordinary
    rw [extract_eq]
    refine (wellFormed.succeeds_bindScopes _).bind (fun _ scopes _ _ => ?_) before
    refine (succeeds_reportErrors path).bind fun _ _ _ _ => ?_
    have total := wellFormed.isTotal_resolver scopes
    refine (wellFormed.succeeds_collect total ordinary path).bind fun _ collected _ _ => ?_
    have read : (get : Recorded Journal).Succeeds := fun journal => ⟨journal, journal, rfl⟩
    exact read.bind fun _ _ _ _ => Recorded.succeeds_pure _

/-- The tree of `module Foo {}`. -/
def keywordModule : Document where
  content := "module Foo {}".toUTF8
  root := ⟨⟨0, "program", 0, true, none, 0, 13⟩, [
    ⟨⟨1, "module", 0, true, none, 0, 13⟩, [
      ⟨⟨2, "module", 0, false, none, 0, 6⟩, []⟩,
      ⟨⟨3, "identifier", 0, true, some "name", 7, 10⟩, []⟩,
      ⟨⟨4, "statement_block", 0, true, some "body", 11, 13⟩, [
        ⟨⟨5, "\x7b", 0, false, none, 11, 12⟩, []⟩,
        ⟨⟨6, "\x7d", 0, false, none, 12, 13⟩, []⟩]⟩]⟩]⟩

/-- The tree of `class K { private xs: T[]; }`. -/
def privateField : Document where
  content := "class K { private xs: T[]; }".toUTF8
  root := ⟨⟨0, "program", 0, true, none, 0, 28⟩, [
    ⟨⟨1, "class_declaration", 0, true, none, 0, 28⟩, [
      ⟨⟨2, "class", 0, false, none, 0, 5⟩, []⟩,
      ⟨⟨3, "type_identifier", 0, true, some "name", 6, 7⟩, []⟩,
      ⟨⟨4, "class_body", 0, true, some "body", 8, 28⟩, [
        ⟨⟨5, "\x7b", 0, false, none, 8, 9⟩, []⟩,
        ⟨⟨6, "public_field_definition", 0, true, none, 10, 25⟩, [
          ⟨⟨7, "accessibility_modifier", 0, true, none, 10, 17⟩, [
            ⟨⟨8, "private", 0, false, none, 10, 17⟩, []⟩]⟩,
          ⟨⟨9, "property_identifier", 0, true, some "name", 18, 20⟩, []⟩,
          ⟨⟨10, "type_annotation", 0, true, some "type", 20, 25⟩, [
            ⟨⟨11, ":", 0, false, none, 20, 21⟩, []⟩,
            ⟨⟨12, "array_type", 0, true, none, 22, 25⟩, [
              ⟨⟨13, "type_identifier", 0, true, none, 22, 23⟩, []⟩,
              ⟨⟨14, "[", 0, false, none, 23, 24⟩, []⟩,
              ⟨⟨15, "]", 0, false, none, 24, 25⟩, []⟩]⟩]⟩]⟩,
        ⟨⟨16, ";", 0, false, none, 25, 26⟩, []⟩,
        ⟨⟨17, "\x7d", 0, false, none, 27, 28⟩, []⟩]⟩]⟩]⟩

set_option maxRecDepth 10000 in
theorem privateField_gives : privateField.WellFormed ∧
    ∃ extraction after, (extract privateField "a/b.ts").Gives {} extraction after := by
  have wellFormed : privateField.WellFormed := by decide +kernel
  exact ⟨wellFormed, (extract_gives_iff wellFormed "a/b.ts" {}).mpr (by decide)⟩

/-- The tree is well-formed and is not extracted: its keyword is taken for a namespace without a
name. -/
theorem keywordModule_fails : keywordModule.WellFormed ∧
    ¬ ∃ extraction after,
      (extract keywordModule "module.ts").Gives {} extraction after := by
  have wellFormed : keywordModule.WellFormed := by decide
  refine ⟨wellFormed, ?_⟩
  rintro ⟨extraction, after, given⟩
  have keyword : ¬ ∀ site ∈ keywordModule.sites, site.isVisible keywordModule = true →
      site.node.named = false → site.type ≠ "module" := by decide
  refine keyword fun site member visible anonymous => ?_
  exact wellFormed.not_extracted given member visible anonymous

end SourceOutline
