import SourceOutline.Proofs.Outline.Layout
import SourceOutline.Proofs.Outline.Total

/-!
# Where a walk fails

Collecting a file fails exactly if some visible node fails, and then with the failure of the
first such node in document order: nothing behind that node plays a part, and neither does
anything below a leaf kind. In a legible tree whose children are where they are looked for, a
node has one reason to fail. It lacks the field that its kind requires, and the failure names the
type of the node, its line and the field.
-/

namespace SourceOutline

/-- In a legible tree a node fails for want of its required field, or not at all. -/
theorem Document.Legible.failure?_eq {document : Document} {resolver : Resolver} {site : Site}
    (legible : document.Legible) (total : resolver.IsTotal document)
    (member : site ∈ document.sites) (finds : site.FindsChildren document) :
    ∃ kind?, site.classify document = .ok kind? ∧
      site.failure? document resolver = kind?.bind (site.missing? document) := by
  obtain ⟨kind?, classified⟩ := legible.defined_classify member
  refine ⟨kind?, classified, ?_⟩
  rw [Site.failure?, classified]
  cases kind? with
  | none => rfl
  | some kind =>
      change (site.contribution document resolver kind).failure? = site.missing? document kind
      cases missing : site.missing? document kind with
      | some failure => exact Site.failure?_of_missing missing
      | none =>
          have built := legible.succeeds_contribution total member classified finds missing
          have uniform := (site.additive_contribution document resolver kind).uniform
          exact (uniform.gives_iff {}).mp (built {})

/-- A file can be collected exactly if every visible node can be classified and, where it is
classified, built. Otherwise the failure is that of the first visible node for which this is not
so. If all texts can be read, the access modifiers are valid and every named child is where it is
looked for, then a node fails exactly if it lacks its required field. -/
theorem collect_fails_at_first (document : Document) (path : String) (resolver : Resolver) :
    (∀ before,
      (∃ collected after, (collect document path resolver).Gives before collected after) ↔
        ∀ site ∈ document.visibleSites, site.failure? document resolver = none) ∧
    (∀ before failure,
      ((collect document path resolver).runFrom before).1 = .error failure ↔
        ∃ earlier site later, document.visibleSites = earlier ++ site :: later ∧
          site.failure? document resolver = some failure ∧
          ∀ other ∈ earlier, other.failure? document resolver = none) ∧
    (resolver.IsTotal document → document.Legible →
      (∀ site ∈ document.visibleSites, site.FindsChildren document) →
      ∀ site ∈ document.visibleSites, ∃ kind?, site.classify document = .ok kind? ∧
        site.failure? document resolver = kind?.bind (site.missing? document)) := by
  refine ⟨fun before => ?_, fun before failure => ?_, fun total legible finds site visible => ?_⟩
  · simp only [collect_gives_iff path before, Site.failure?_eq_none_iff]
  · rw [collect_error_iff path before, List.findSome?_eq_some_iff]
  · have member := (List.mem_filter.mp visible).1
    exact legible.failure?_eq total member (finds site visible)

/-- The tree of a class without a name in the second line, and of a property without a name behind
it. -/
def namelessClass : Document where
  content := "class A {}\nclass {} class C { = 1 }".toUTF8
  root := ⟨⟨0, "program", 0, true, none, 0, 35⟩, [
    ⟨⟨1, "class_declaration", 0, true, none, 0, 10⟩, [
      ⟨⟨2, "type_identifier", 0, true, some "name", 6, 7⟩, []⟩,
      ⟨⟨3, "class_body", 0, true, some "body", 8, 10⟩, []⟩]⟩,
    ⟨⟨4, "class_declaration", 0, true, none, 11, 19⟩, [
      ⟨⟨5, "class_body", 0, true, some "body", 17, 19⟩, []⟩]⟩,
    ⟨⟨6, "class_declaration", 0, true, none, 20, 35⟩, [
      ⟨⟨7, "type_identifier", 0, true, some "name", 26, 27⟩, []⟩,
      ⟨⟨8, "class_body", 0, true, some "body", 28, 35⟩, [
        ⟨⟨9, "public_field_definition", 0, true, none, 30, 33⟩, []⟩]⟩]⟩]⟩

set_option maxRecDepth 10000 in
/-- The class in the second line is the first node that fails. -/
theorem namelessClass_fails :
    ((collect namelessClass "a.ts" .silent).runFrom {}).1 =
      .error (.missingField "class_declaration" 2 "name") := by
  have total : Resolver.silent.IsTotal namelessClass := fun _ _ => defined_ok _
  have legible : namelessClass.Legible := by decide +kernel
  have finds : ∀ site ∈ namelessClass.visibleSites, site.FindsChildren namelessClass := by
    decide +kernel
  obtain ⟨-, located, reason⟩ := collect_fails_at_first namelessClass "a.ts" .silent
  have known : ∀ site ∈ namelessClass.visibleSites, site.failure? namelessClass .silent =
      (site.kind? namelessClass).bind (site.missing? namelessClass) := by
    intro site visible
    obtain ⟨kind?, classified, failed⟩ := reason total legible finds site visible
    rw [failed, Site.kind?_eq_of_classify classified]
  obtain ⟨earlier, site, later, sites, missing, present⟩ : ∃ earlier site later,
      namelessClass.visibleSites = earlier ++ site :: later ∧
      (site.kind? namelessClass).bind (site.missing? namelessClass) =
        some (.missingField "class_declaration" 2 "name") ∧
      ∀ other ∈ earlier,
        (other.kind? namelessClass).bind (other.missing? namelessClass) = none :=
    ⟨namelessClass.visibleSites.take 4, _, _, rfl, by decide +kernel, by decide +kernel⟩
  refine (located {} _).mpr ⟨earlier, site, later, sites, ?_, fun other among => ?_⟩
  · rw [known site (by rw [sites]; simp), missing]
  · rw [known other (by rw [sites]; simp [among]), present other among]

end SourceOutline
