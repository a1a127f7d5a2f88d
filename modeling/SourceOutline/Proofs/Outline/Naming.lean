import SourceOutline.Proofs.Extraction
import SourceOutline.Proofs.Path.Suffix

/-!
# Naming the module of a file

The root module of a file has the name of the file without its suffix and the path of the file's
directory. Together with the suffix these two are the normalised path of the file, so files with one
suffix have root modules of the same name and path only if they are the same file.
-/

namespace SourceOutline

/-- The path of a file, told by the traits of its root module and by its suffix. -/
def Traits.filePath? (traits : Traits) (suffix : String) : Option Path :=
  match traits.detail with
  | .module (some directory) => some ((Path.ofText directory).child (traits.name ++ suffix))
  | _ => none

/-- The root module tells the path of the file. -/
theorem filePath?_rootModule (path : String) :
    (rootModule path).filePath? (Path.ofText path).suffix = some (Path.ofText path) := by
  have normal := Path.isNormal_ofText path
  have directory : Path.ofText (modulePath path).parent.text = (Path.ofText path).parent := by
    rw [modulePath, Path.parent_withoutSuffix, normal.parent.ofText_text]
  have name : (modulePath path).name ++ (Path.ofText path).suffix = (Path.ofText path).name :=
    (Path.name_eq_append _).symm
  have told : (rootModule path).filePath? (Path.ofText path).suffix =
      some ((Path.ofText (modulePath path).parent.text).child
        ((modulePath path).name ++ (Path.ofText path).suffix)) := rfl
  rw [told, directory, name, normal.child_parent]

section

variable {document other : Document} {path path' : String} {extraction extraction' : Extraction}
variable {before before' after after' : Journal}

/-- The root module of an extraction is the one named after the file. -/
theorem traits_module_of_extract
    (given : (extract document path).Gives before extraction after) :
    extraction.module.traits = rootModule path := by
  rw [extract_eq] at given
  obtain ⟨_, _, -, given⟩ := Recorded.gives_bind_iff.mp given
  obtain ⟨_, _, -, given⟩ := Recorded.gives_bind_iff.mp given
  obtain ⟨⟨registry, root⟩, _, collected, given⟩ := Recorded.gives_bind_iff.mp given
  obtain ⟨_, _, -, given⟩ := Recorded.gives_bind_iff.mp given
  obtain ⟨rfl, -⟩ := Recorded.gives_pure_iff.mp given
  obtain ⟨forest, _, -, view⟩ := collect_view collected
  exact congrArg Element.traits view

theorem filePath?_of_extract (given : (extract document path).Gives before extraction after) :
    extraction.module.traits.filePath? (Path.ofText path).suffix = some (Path.ofText path) := by
  rw [traits_module_of_extract given, filePath?_rootModule]

theorem ofText_eq_of_extract (given : (extract document path).Gives before extraction after)
    (given' : (extract other path').Gives before' extraction' after')
    (suffix : (Path.ofText path).suffix = (Path.ofText path').suffix)
    (name : extraction.module.traits.name = extraction'.module.traits.name)
    (detail : extraction.module.traits.detail = extraction'.module.traits.detail) :
    Path.ofText path = Path.ofText path' := by
  have same : extraction.module.traits.filePath? (Path.ofText path).suffix =
      extraction'.module.traits.filePath? (Path.ofText path').suffix := by
    rw [Traits.filePath?, Traits.filePath?, suffix, name, detail]
  rw [filePath?_of_extract given, filePath?_of_extract given'] at same
  exact Option.some.inj same

end

/-- Removing the suffix of a file's path loses nothing. The path as it is written, and its last
component, are those of the path without the suffix followed by the suffix, and the directory is the
same. So name and path of the root module tell the file's path, given its suffix; and two files with
one suffix whose root modules have the same name and path are one file. -/
theorem modulePath_keeps (path : String) :
    (Path.ofText path).text = (modulePath path).text ++ (Path.ofText path).suffix ∧
    (Path.ofText path).name = (modulePath path).name ++ (Path.ofText path).suffix ∧
    (Path.ofText path).parent = (modulePath path).parent ∧
    Path.HasSuffix (Path.ofText path).name (Path.ofText path).suffix ∧
    (∀ document before extraction after,
      (extract document path).Gives before extraction after →
        extraction.module.traits.filePath? (Path.ofText path).suffix = some (Path.ofText path)) ∧
    ∀ path' document document' before before' extraction extraction' after after',
      (extract document path).Gives before extraction after →
      (extract document' path').Gives before' extraction' after' →
      (Path.ofText path).suffix = (Path.ofText path').suffix →
      extraction.module.traits.name = extraction'.module.traits.name →
      extraction.module.traits.detail = extraction'.module.traits.detail →
        Path.ofText path = Path.ofText path' ∧
          (Path.ofText path).text = (Path.ofText path').text := by
  refine ⟨(Path.isNormal_ofText path).text_eq_append, Path.name_eq_append _,
    (Path.parent_withoutSuffix _).symm, Path.hasSuffix_iff.mpr rfl, ?_, ?_⟩
  · intro document before extraction after given
    exact filePath?_of_extract given
  · intro path' document document' before before' extraction extraction' after after' given given'
      suffix name detail
    have same := ofText_eq_of_extract given given' suffix name detail
    exact ⟨same, congrArg Path.text same⟩

/-- The stem of a file need not be a name: here it is a single dot. -/
example : (modulePath "a/..ts").text = "a/." ∧ (rootModule "a/..ts").name = "." := by decide +kernel

set_option maxRecDepth 10000 in
/-- A declaration file under two spellings of its path. -/
theorem declarationFile_keeps : ∃ extraction extraction' after after',
    (extract dottedNamespace "./src//a.d.ts").Gives {} extraction after ∧
      (extract dottedNamespace "src/a.d.ts").Gives {} extraction' after' ∧
      extraction.module.traits.name = "a.d" ∧ extraction'.module.traits.name = "a.d" ∧
      extraction.module.traits.filePath? ".ts" = some ⟨.here, ["src", "a.d.ts"]⟩ ∧
      Path.ofText "./src//a.d.ts" = Path.ofText "src/a.d.ts" := by
  have success (path : String) : ∃ extraction after,
      (extract dottedNamespace path).Gives {} extraction after := by
    simp only [extract_eq, collect_eq_outline]
    exact ⟨_, _, rfl⟩
  obtain ⟨extraction, after, given⟩ := success "./src//a.d.ts"
  obtain ⟨extraction', after', given'⟩ := success "src/a.d.ts"
  have traits := traits_module_of_extract given
  have traits' := traits_module_of_extract given'
  obtain ⟨-, -, -, -, told, alike⟩ := modulePath_keeps "./src//a.d.ts"
  have same : (rootModule "./src//a.d.ts") = rootModule "src/a.d.ts" := by decide +kernel
  refine ⟨extraction, extraction', after, after', given, given', ?_, ?_, ?_, ?_⟩
  · rw [traits]
    decide +kernel
  · rw [traits']
    decide +kernel
  · exact (told _ _ _ _ given).trans (by decide +kernel)
  · exact (alike _ _ _ _ _ _ _ _ _ given given' (by decide +kernel) (by rw [traits, traits', same])
      (by rw [traits, traits', same])).1

end SourceOutline
