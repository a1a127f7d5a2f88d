import SourceOutline.Proofs.Project
import SourceOutline.Proofs.Project.Discovery

/-!
# One more file in a project

A file that is added to a project does not change what becomes of the other files: they keep their
results and errors, in order, and the new file has one entry among them. This holds as long as the
new file is not read or its own extraction succeeds. A file that is read and cannot be extracted
ends the run, and then there is no project at all.
-/

namespace SourceOutline

namespace Project

section

variable {tree : FileTree} {settings : ExtractorSettings} {directory : Path} {present : Bool}

/-- A run succeeds exactly if every file that is read can be extracted. -/
theorem defined_extract_iff (proper : directory.hasNull = false)
    (asked : tree.exists? (tree.resolve directory) = .ok present) :
    Defined (Recorded.run (extract tree settings directory)).1 ↔
      ∀ entry ∈ discover tree settings (tree.resolve directory),
        settings.reads entry.2 = true → Defined (alone entry).1 := by
  constructor
  · rintro ⟨project, run⟩ entry member read
    -- The first file that is read and fails would have ended the run.
    have none : (discover tree settings (tree.resolve directory)).find?
        (fun entry => settings.reads entry.2 && !decide (Defined (alone entry).1)) = none := by
      cases found : (discover tree settings (tree.resolve directory)).find? _ with
      | none => rfl
      | some first =>
          obtain ⟨test, earlier, later, split, before⟩ := List.find?_eq_some_iff_append.mp found
          simp only [Bool.and_eq_true, Bool.not_eq_true', decide_eq_false_iff_not] at test before
          cases outcome : (alone first).1 with
          | ok extraction => exact absurd ⟨extraction, outcome⟩ test.2
          | error failure =>
              have failed := fails_extract proper asked split
                (fun other among read => by simpa [read] using before other among) test.1 outcome
              cases run.symm.trans failed
    simpa [read] using List.find?_eq_none.mp none entry member
  · intro extracted
    obtain ⟨project, -, -, run⟩ := gives_extract proper asked rfl extracted
    exact ⟨project, by rw [run]⟩

theorem accounts_of_extract (proper : directory.hasNull = false)
    (asked : tree.exists? (tree.resolve directory) = .ok present) {project : Project}
    (given : (Recorded.run (extract tree settings directory)).1 = .ok project) :
    project.root = tree.resolve directory ∧
      Accounts settings (discover tree settings (tree.resolve directory)) project := by
  have extracted := (defined_extract_iff proper asked).mp ⟨project, given⟩
  obtain ⟨other, root, accounts, run⟩ := gives_extract proper asked rfl extracted
  rw [run] at given
  cases given
  exact ⟨root, accounts⟩

end

/-- A project with one more file: every other result and error is as before, in order, and the
new file has a result or an error, depending on whether it is read. -/
structure Enters (settings : ExtractorSettings) (entry : List String × SourceFile)
    (before after : Project) : Prop where
  root : after.root = before.root
  read : settings.reads entry.2 = true → ∃ extraction earlier later,
    (alone entry).1 = .ok extraction ∧ before.results = earlier ++ later ∧
      after.results = earlier ++ (nameOf entry, extraction) :: later ∧
      after.errors = before.errors
  unread : settings.reads entry.2 = false → ∃ earlier later,
    before.errors = earlier ++ later ∧
      after.errors = earlier ++ complaint settings before.root entry :: later ∧
      after.results = before.results

theorem rightUnique_isOutline : Relator.RightUnique IsOutline := by
  rintro entry ⟨name, extraction⟩ ⟨name', extraction'⟩ ⟨rfl, given⟩ ⟨rfl, given'⟩
  cases given.symm.trans given'
  rfl

variable {settings : ExtractorSettings} {entry : List String × SourceFile}
  {before after : Project} {earlier later : List (List String × SourceFile)}

/-- The results of files in two parts. -/
theorem exists_append_of_outlines {results : List (String × Extraction)}
    (outlines : List.Forall₂ IsOutline (earlier ++ later) results) :
    ∃ first second, results = first ++ second ∧ List.Forall₂ IsOutline earlier first ∧
      List.Forall₂ IsOutline later second := by
  refine ⟨results.take earlier.length, results.drop earlier.length,
    (List.take_append_drop _ _).symm, ?_, ?_⟩
  · simpa using List.forall₂_take earlier.length outlines
  · simpa using List.forall₂_drop earlier.length outlines

/-- What a file adds to the account of the others. -/
theorem Enters.of_accounts (root : after.root = before.root)
    (old : Accounts settings (earlier ++ later) before)
    (new : Accounts settings (earlier ++ entry :: later) after) :
    Enters settings entry before after := by
  have outlines := old.results
  have outlines' := new.results
  have errors := old.errors
  have errors' := new.errors
  rw [List.filter_append] at outlines outlines' errors errors'
  rw [List.map_append] at errors errors'
  refine ⟨root, fun read => ?_, fun unread => ?_⟩
  · rw [List.filter_cons, if_pos read] at outlines'
    rw [List.filter_cons, if_neg (by simp [read]), root] at errors'
    obtain ⟨first, _, split, ahead, behind⟩ := exists_append_of_outlines outlines'
    obtain ⟨⟨_, extraction⟩, second, ⟨rfl, given⟩, rest, rfl⟩ :=
      List.forall₂_cons_left_iff.mp behind
    have same := rightUnique_isOutline.forall₂ outlines (List.rel_append ahead rest)
    exact ⟨extraction, first, second, given, same, split, errors'.trans errors.symm⟩
  · rw [List.filter_cons, if_neg (by simp [unread])] at outlines'
    rw [List.filter_cons, if_pos (by simp [unread]), List.map_cons, root] at errors'
    exact ⟨_, _, errors, errors', (rightUnique_isOutline.forall₂ outlines outlines').symm⟩

/-- A file that is added to a project leaves the others alone. There is a project with it exactly if
there is one without it and the file, unless it is not read, can be extracted; a file that cannot
be extracted ends the run with its own failure. -/
theorem extract_isolates (tree grown : FileTree) (settings : ExtractorSettings) (directory : Path)
    (parts relative : List String) (file : SourceFile) (present present' : Bool)
    (adds : tree.Adds grown parts file) (proper : directory.hasNull = false)
    (asked : tree.exists? (tree.resolve directory) = .ok present)
    (asked' : grown.exists? (tree.resolve directory) = .ok present')
    (below : tree.location.parts ++ parts = (tree.resolve directory).parts ++ relative)
    (nonempty : relative ≠ []) (source : isSource settings relative = true) :
    (Defined (Recorded.run (extract grown settings directory)).1 ↔
      Defined (Recorded.run (extract tree settings directory)).1 ∧
        (settings.reads file = true → Defined (alone (relative, file)).1)) ∧
    (∀ before after, (Recorded.run (extract tree settings directory)).1 = .ok before →
      (Recorded.run (extract grown settings directory)).1 = .ok after →
        Enters settings (relative, file) before after) ∧
    ∀ failure, Defined (Recorded.run (extract tree settings directory)).1 →
      settings.reads file = true → (alone (relative, file)).1 = .error failure →
        (Recorded.run (extract grown settings directory)).1 = .error failure := by
  have same : grown.resolve directory = tree.resolve directory := by
    rw [FileTree.resolve, FileTree.resolve, FileTree.fromRoot, FileTree.fromRoot, adds.location]
  obtain ⟨earlier, later, split, split'⟩ := discover_of_adds adds below nonempty source
  rw [← same] at asked' split'
  refine ⟨?_, fun before after given given' => ?_, fun failure defined read failed => ?_⟩
  · rw [defined_extract_iff proper asked, defined_extract_iff proper asked', split, split']
    simp only [List.forall_mem_append, List.forall_mem_cons]
    tauto
  · obtain ⟨root, accounts⟩ := accounts_of_extract proper asked given
    obtain ⟨root', accounts'⟩ := accounts_of_extract proper asked' given'
    rw [split] at accounts
    rw [split'] at accounts'
    exact .of_accounts (root'.trans (same.trans root.symm)) accounts accounts'
  · have extracted := (defined_extract_iff proper asked).mp defined
    rw [split] at extracted
    exact fails_extract proper asked' split'
      (fun other among => extracted other (List.mem_append_left _ among)) read failed

/-- A directory with a single class. -/
def soleClass : FileTree where
  location := { anchor := .slash, parts := ["work"] }
  entries := [(["src", "a.ts"], .file { document := emptyClass })]

/-- The same directory with a file next to the class. -/
def neighbouring (document : Document) : FileTree :=
  soleClass.withFile ["src", "b.ts"] { document := document }

theorem soleClass_adds (document : Document) :
    soleClass.Adds (neighbouring document) ["src", "b.ts"] { document := document } where
  location := rfl
  entries := .refl _
  distinct := by
    change [["src", "b.ts"], ["src", "a.ts"]].Nodup
    decide

/-- There is a project if every source file can be extracted alone. -/
theorem defined_extract_of_sources {tree : FileTree} {settings : ExtractorSettings}
    {directory : Path} (proper : directory.hasNull = false) (present : Bool)
    (asked : tree.exists? (tree.resolve directory) = .ok present)
    (each : ∀ entry ∈ (tree.filesBelow (tree.resolve directory)).filter
      fun entry => isSource settings entry.1, Defined (alone entry).1) :
    Defined (Recorded.run (extract tree settings directory)).1 :=
  (defined_extract_iff proper asked).mpr fun entry member _ =>
    each entry (List.mem_mergeSort.mp member)

theorem defined_soleClass :
    Defined (Recorded.run (extract soleClass {} ⟨.here, ["src"]⟩)).1 :=
  defined_extract_of_sources (by decide) true (by decide +kernel) (by decide +kernel)

/-- A second class is one more result. -/
theorem soleClass_isolates : ∃ before after,
    (Recorded.run (extract soleClass {} ⟨.here, ["src"]⟩)).1 = .ok before ∧
      (Recorded.run (extract (neighbouring emptyClass) {} ⟨.here, ["src"]⟩)).1 = .ok after ∧
      Enters {} (["b.ts"], { document := emptyClass }) before after := by
  obtain ⟨defined, enters, -⟩ := extract_isolates soleClass (neighbouring emptyClass) {}
    ⟨.here, ["src"]⟩ ["src", "b.ts"] ["b.ts"] { document := emptyClass } true true
    (soleClass_adds emptyClass) (by decide) (by decide +kernel) (by decide +kernel)
    (by decide) (by decide) (by decide +kernel)
  obtain ⟨before, given⟩ := defined_soleClass
  obtain ⟨after, given'⟩ := defined.mpr ⟨defined_soleClass, fun _ => by decide +kernel⟩
  exact ⟨before, after, given, given', enters before after given given'⟩

/-- The tree of `import '?';`, where the question mark stands for a byte that is not UTF-8. -/
def undecodableImport : Document where
  content := "import '".toUTF8.push 0x80 ++ "';".toUTF8
  root := ⟨⟨0, "program", 0, true, none, 0, 11⟩, [
    ⟨⟨1, "import_statement", 0, true, none, 0, 11⟩, [
      ⟨⟨2, "import", 0, false, none, 0, 6⟩, []⟩,
      ⟨⟨3, "string", 0, true, some "source", 7, 10⟩, [
        ⟨⟨4, "'", 0, false, none, 7, 8⟩, []⟩,
        ⟨⟨5, "string_fragment", 0, true, none, 8, 9⟩, []⟩,
        ⟨⟨6, "'", 0, false, none, 9, 10⟩, []⟩]⟩,
      ⟨⟨7, ";", 0, false, none, 10, 11⟩, []⟩]⟩]⟩

/-- A file with bytes that are not UTF-8 takes the class next to it along: there is a project
without it and none with it. -/
theorem undecodableImport_fails :
    soleClass.Adds (neighbouring undecodableImport) ["src", "b.ts"]
        { document := undecodableImport } ∧
      soleClass.location.parts ++ ["src", "b.ts"] =
        (soleClass.resolve ⟨.here, ["src"]⟩).parts ++ ["b.ts"] ∧
      isSource {} ["b.ts"] = true ∧
      Defined (Recorded.run (extract soleClass {} ⟨.here, ["src"]⟩)).1 ∧
      ¬ Defined (Recorded.run (extract (neighbouring undecodableImport) {}
        ⟨.here, ["src"]⟩)).1 := by
  refine ⟨soleClass_adds undecodableImport, by decide, by decide +kernel, defined_soleClass,
    fun defined => ?_⟩
  have failing : ∃ entry ∈ ((neighbouring undecodableImport).filesBelow
      (soleClass.resolve ⟨.here, ["src"]⟩)).filter fun entry => isSource {} entry.1,
      ExtractorSettings.reads {} entry.2 = true ∧ ¬ Defined (alone entry).1 := by decide +kernel
  obtain ⟨entry, member, read, fails⟩ := failing
  have asked : (neighbouring undecodableImport).exists?
      ((neighbouring undecodableImport).resolve ⟨.here, ["src"]⟩) = .ok true := by
    decide +kernel
  have extracted := (defined_extract_iff (by decide) asked).mp defined
  exact fails (extracted entry (List.mem_mergeSort.mpr member) read)

end Project

end SourceOutline
