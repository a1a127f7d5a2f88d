import Mathlib.Data.List.Perm.Basic
import SourceOutline.Proofs.Path.Suffix
import SourceOutline.Proofs.Project
import SourceOutline.Proofs.Project.Discovery

/-!
# Discovery is exact

The files of a project are told by their components below its root: the last one has a configured
suffix and is not the name of a declaration file, and none is ignored. All these files are
discovered, nothing else is, and they come in strictly increasing order, component by component.

A list in strictly increasing order is known from its members. So the order in which directories
list their entries makes no difference, and neither does the place of the root: what lies above it
is never compared with a pattern, and the results carry relative paths only.
-/

namespace SourceOutline

namespace FileTree

variable {tree moved : FileTree} {root : Path}

/-- Whoever follows absolute components into the tree finds this file. -/
def HasFile (tree : FileTree) (components : List String) (file : SourceFile) : Prop :=
  ∃ parts, tree.location.parts ++ parts = components ∧ tree.inner? parts = some (.file file)

/-- Below their roots two trees have the same files. -/
def SameFiles (tree : FileTree) (root : Path) (moved : FileTree) (above : Path) : Prop :=
  ∀ relative file, relative ≠ [] →
    (tree.HasFile (root.parts ++ relative) file ↔ moved.HasFile (above.parts ++ relative) file)

/-- A tree with distinct places has exactly the files that it lists. -/
theorem HasDistinctPlaces.inner?_eq_file_iff (distinct : tree.HasDistinctPlaces)
    {parts : List String} {file : SourceFile} :
    tree.inner? parts = some (.file file) ↔ (parts, .file file) ∈ tree.entries := by
  have listed : tree.inner? parts = some (.file file) ↔
      tree.entries.lookup parts = some (.file file) := by
    rw [inner?]
    cases tree.entries.lookup parts with
    | some item => rfl
    | none => simp
  rw [listed, List.lookup_eq_some_iff]
  constructor
  · rintro ⟨before, after, split, -⟩
    rw [split]
    exact List.mem_append_right _ List.mem_cons_self
  · intro member
    obtain ⟨before, after, split⟩ := List.append_of_mem member
    refine ⟨before, after, split, fun other among => ?_⟩
    rw [HasDistinctPlaces, split, List.map_append, List.map_cons] at distinct
    have apart := (List.nodup_append.mp distinct).2.2 other.1 (List.mem_map_of_mem among) parts
      List.mem_cons_self
    exact bne_iff_ne.mpr (Ne.symm apart)

theorem HasDistinctPlaces.mem_filesBelow_iff (distinct : tree.HasDistinctPlaces)
    {relative : List String} {file : SourceFile} :
    (relative, file) ∈ tree.filesBelow root ↔
      relative ≠ [] ∧ tree.HasFile (root.parts ++ relative) file := by
  rw [FileTree.mem_filesBelow_iff]
  refine and_congr_right fun _ => exists_congr fun parts => ?_
  rw [distinct.inner?_eq_file_iff, and_comm]

/-- No place is listed twice below a root. -/
theorem HasDistinctPlaces.nodup_filesBelow (distinct : tree.HasDistinctPlaces) :
    ((tree.filesBelow root).map Prod.fst).Nodup := by
  have place {entry : List String × Item} {found : List String × SourceFile}
      (here : found ∈ (FileTree.mk tree.location [entry]).filesBelow root) :
      tree.location.parts ++ entry.1 = root.parts ++ found.1 := by
    obtain ⟨-, parts, member, split⟩ := FileTree.mem_filesBelow_iff.mp here
    cases List.mem_singleton.mp member
    exact split
  rw [HasDistinctPlaces, List.Nodup, List.pairwise_map] at distinct
  rw [List.Nodup, List.pairwise_map, filesBelow]
  refine distinct.filterMap _ fun one two differ first found second found' same => differ ?_
  have before := place (List.mem_filterMap.mpr ⟨one, List.mem_cons_self, found⟩)
  have after := place (List.mem_filterMap.mpr ⟨two, List.mem_cons_self, found'⟩)
  rw [same, ← after] at before
  exact List.append_cancel_left before

/-- A tree that lies elsewhere has the same files below the same directory. -/
theorem sameFiles_of_location {above : Path} (base : List String)
    (entries : moved.entries = tree.entries) (here : root.parts = tree.location.parts ++ base)
    (there : above.parts = moved.location.parts ++ base) : tree.SameFiles root moved above := by
  intro relative file _
  simp only [HasFile, inner?, entries, here, there, List.append_assoc, List.append_cancel_left_eq]

end FileTree

namespace Project

/-- A file belongs to a project by its components below the root. -/
structure Belongs (settings : ExtractorSettings) (relative : List String) : Prop where
  /-- The last component is a source file's name. -/
  named : ∃ directories name, relative = directories ++ [name] ∧
    (∃ suffix ∈ settings.fileExtensions, Path.HasSuffix name suffix) ∧
    (settings.skipDeclarationFiles = true → ¬ ".d.ts".toList <:+ name.toList)
  /-- No component is ignored. -/
  followed : ∀ pattern ∈ settings.ignorePatterns, pattern ∉ relative

variable {tree moved : FileTree} {settings : ExtractorSettings} {root above : Path}

theorem isSource_iff_belongs {relative : List String} (nonempty : relative ≠ []) :
    isSource settings relative = true ↔ Belongs settings relative := by
  obtain ⟨directories, name, rfl⟩ := List.eq_nil_or_concat' relative |>.resolve_left nonempty
  have declared : ((settings.skipDeclarationFiles &&
      ".d.ts".toList.isSuffixOf name.toList) = false) ↔
      (settings.skipDeclarationFiles = true → ¬ ".d.ts".toList <:+ name.toList) := by
    rw [← Bool.not_eq_true, Bool.and_eq_true, List.isSuffixOf_iff_suffix, not_and]
  have suffixed : (settings.fileExtensions.contains (Path.splitName name).2 = true) ↔
      ∃ suffix ∈ settings.fileExtensions, Path.HasSuffix name suffix := by
    simp [Path.hasSuffix_iff]
  have followed : (settings.ignorePatterns.any (directories ++ [name]).contains = false) ↔
      ∀ pattern ∈ settings.ignorePatterns, pattern ∉ directories ++ [name] := by
    rw [List.any_eq_false]
    simp
  rw [isSource, List.getLast?_concat, Option.getD_some, Bool.and_eq_true, Bool.and_eq_true,
    Bool.not_eq_true', Bool.not_eq_true', suffixed, declared, followed]
  constructor
  · rintro ⟨⟨ends, plain⟩, clear⟩
    exact ⟨⟨directories, name, rfl, ends, plain⟩, clear⟩
  · rintro ⟨⟨directories', name', same, ends, plain⟩, clear⟩
    obtain ⟨rfl, rfl⟩ := List.append_singleton_inj.mp same
    exact ⟨⟨ends, plain⟩, clear⟩

theorem mem_discover_iff (distinct : tree.HasDistinctPlaces) {relative : List String}
    {file : SourceFile} :
    (relative, file) ∈ discover tree settings root ↔
      tree.HasFile (root.parts ++ relative) file ∧ Belongs settings relative := by
  rw [discover, List.mem_mergeSort, List.mem_filter, distinct.mem_filesBelow_iff]
  constructor
  · rintro ⟨⟨nonempty, found⟩, source⟩
    exact ⟨found, (isSource_iff_belongs nonempty).mp source⟩
  · rintro ⟨found, belongs⟩
    have nonempty : relative ≠ [] := by
      obtain ⟨directories, name, rfl, -⟩ := belongs.named
      simp
    exact ⟨⟨nonempty, found⟩, (isSource_iff_belongs nonempty).mpr belongs⟩

/-- What precedes something else is less, component by component. -/
theorem lt_of_precedes {one two : List String} (before : precedes one two = true)
    (differ : one ≠ two) : one < two := by
  induction one generalizing two with
  | nil =>
      cases two with
      | nil => exact absurd rfl differ
      | cons b bs => exact List.nil_lt_cons b bs
  | cons a as ih =>
      cases two with
      | nil => cases before
      | cons b bs =>
          rw [precedes] at before
          rw [List.cons_lt_cons_iff]
          by_cases same : a = b
          · subst same
            rw [if_pos rfl] at before
            exact .inr ⟨rfl, ih before (mt (congrArg (List.cons a)) differ)⟩
          · rw [if_neg same, decide_eq_true_iff] at before
            exact .inl before

theorem pairwise_discover (distinct : tree.HasDistinctPlaces) :
    ((discover tree settings root).map Prod.fst).Pairwise (· < ·) := by
  have once : ((discover tree settings root).map Prod.fst).Nodup := by
    rw [discover, ((List.mergeSort_perm _ _).map Prod.fst).nodup_iff]
    exact (List.filter_sublist.map Prod.fst).nodup distinct.nodup_filesBelow
  rw [List.Nodup, List.pairwise_map] at once
  rw [List.pairwise_map]
  exact ((pairwise_precedes _).and once).imp fun both => lt_of_precedes both.1 both.2

/-- Files in strictly increasing order are known from what they are. -/
theorem eq_of_increasing {files others : List (List String × SourceFile)}
    (increasing : (files.map Prod.fst).Pairwise (· < ·))
    (increasing' : (others.map Prod.fst).Pairwise (· < ·))
    (same : ∀ entry, entry ∈ files ↔ entry ∈ others) : files = others := by
  have once {listed : List (List String × SourceFile)}
      (sorted : (listed.map Prod.fst).Pairwise (· < ·)) : listed.Nodup := by
    refine List.Nodup.of_map Prod.fst (sorted.imp fun {one two} less => ?_)
    rintro rfl
    exact List.lt_irrefl one less
  refine List.Perm.eq_of_pairwise (fun one two _ _ before after => ?_)
    (List.pairwise_map.mp increasing) (List.pairwise_map.mp increasing')
    ((List.perm_ext_iff_of_nodup (once increasing) (once increasing')).mpr same)
  exact absurd (List.lt_trans before after) (List.lt_irrefl one.1)

/-- Discovery sees nothing but the files below the root. -/
theorem discover_eq_of_sameFiles (distinct : tree.HasDistinctPlaces)
    (distinct' : moved.HasDistinctPlaces) (same : tree.SameFiles root moved above) :
    discover moved settings above = discover tree settings root := by
  refine eq_of_increasing (pairwise_discover distinct') (pairwise_discover distinct) ?_
  rintro ⟨relative, file⟩
  rw [mem_discover_iff distinct', mem_discover_iff distinct, and_congr_left_iff]
  intro belongs
  obtain ⟨directories, name, rfl, -⟩ := belongs.named
  exact (same _ file (by simp)).symm

/-- The results of a run do not depend on where the root is and what was reported before. -/
theorem results_addFiles {project other : Project} (same : project.results = other.results)
    (files : List (List String × SourceFile)) (before before' : Journal) :
    ((addFiles settings project files).runFrom before).1.map results =
      ((addFiles settings other files).runFrom before').1.map results := by
  induction files generalizing project other before before' with
  | nil => exact congrArg Except.ok same
  | cons entry files ih =>
      rw [addFiles, addFiles, Recorded.runFrom_bind, Recorded.runFrom_bind]
      cases read : settings.reads entry.2 with
      | true =>
          rw [runFrom_addFile_read _ read, runFrom_addFile_read _ read]
          cases (alone entry).1 with
          | error failure => rfl
          | ok extraction => exact ih (congrArg (· ++ [(nameOf entry, extraction)]) same) _ _
      | false =>
          rw [runFrom_addFile_unread _ read, runFrom_addFile_unread _ read]
          refine ih ?_ _ _
          exact same

/-- A directory that can be looked for. -/
structure Opens (tree : FileTree) (directory : Path) : Prop where
  proper : directory.hasNull = false
  asked : ∃ present, tree.exists? (tree.resolve directory) = .ok present

theorem results_extract {directory : Path} (opens : Opens tree directory) :
    (Recorded.run (extract tree settings directory)).1.map results =
      (Recorded.run (addFiles settings { root := default }
        (discover tree settings (tree.resolve directory)))).1.map results := by
  obtain ⟨present, asked⟩ := opens.asked
  generalize discovered : discover tree settings (tree.resolve directory) = files
  have anywhere :
      ((addFiles settings { root := tree.resolve directory } files).runFrom
          (Journal.reporting {} (opening (tree.resolve directory) files))).1.map results =
        (Recorded.run (addFiles settings { root := default } files)).1.map results :=
    results_addFiles (by rfl) files _ _
  rw [extract_eq opens.proper asked, discovered, ← anywhere, Recorded.run_eq_runFrom,
    Recorded.runFrom_bind_of_gives (runFrom_announce _ _ {}), Recorded.runFrom_bind]
  generalize (addFiles settings { root := tree.resolve directory } files).runFrom _ = outcome
  rcases outcome with ⟨_ | project, after⟩ <;> rfl

/-- For a tree with distinct places, what is discovered is exactly the files below the root that
belong to the project, in strictly increasing order, component by component. The list is the same
for every order of the entries, and for every tree that has the same files below its own root,
wherever that is; then extraction has the same outcome too, but for the root and the errors. -/
theorem discover_exact (tree : FileTree) (settings : ExtractorSettings) (root : Path)
    (distinct : tree.HasDistinctPlaces) :
    (∀ relative file, (relative, file) ∈ discover tree settings root ↔
      tree.HasFile (root.parts ++ relative) file ∧ Belongs settings relative) ∧
    ((discover tree settings root).map Prod.fst).Pairwise (· < ·) ∧
    (∀ listed : FileTree, listed.location = tree.location → listed.entries.Perm tree.entries →
      discover listed settings root = discover tree settings root) ∧
    ∀ moved above, moved.HasDistinctPlaces → tree.SameFiles root moved above →
      discover moved settings above = discover tree settings root ∧
      ∀ directory directory', tree.resolve directory = root → moved.resolve directory' = above →
        Opens tree directory → Opens moved directory' →
          (Recorded.run (extract moved settings directory')).1.map results =
            (Recorded.run (extract tree settings directory)).1.map results := by
  refine ⟨fun relative file => mem_discover_iff distinct, pairwise_discover distinct, ?_, ?_⟩
  · exact fun listed location entries => discover_eq_of_perm location entries distinct
  · intro moved above distinct' same
    have files : discover moved settings above = discover tree settings root :=
      discover_eq_of_sameFiles distinct distinct' same
    refine ⟨files, ?_⟩
    rintro directory directory' rfl rfl opens opens'
    rw [results_extract opens, results_extract opens', files]

/-- A directory with two source files among others, at any place. -/
def checkout (place : List String) : FileTree where
  location := { anchor := .slash, parts := place }
  entries := [
    (["a-b.ts"], .file { document := emptyClass }),
    (["a"], .directory),
    (["a", "b.ts"], .file { document := emptyClass }),
    (["a", "c.d.ts"], .file { document := default }),
    (["a", ".ts"], .file { document := default }),
    (["a", "d.ts"], .directory),
    (["dist", "b.ts"], .file { document := emptyClass })]

/-- The whole directory may lie under an ignored name. -/
theorem checkout_discovered :
    (∃ file, (["a", "b.ts"], file) ∈
      discover (checkout ["work"]) {} ((checkout ["work"]).resolve ⟨.here, []⟩)) ∧
    (∀ file, (["a", ".ts"], file) ∉
      discover (checkout ["work"]) {} ((checkout ["work"]).resolve ⟨.here, []⟩)) ∧
    (Recorded.run (extract (checkout ["dist", "work"]) {} ⟨.here, []⟩)).1.map results =
      (Recorded.run (extract (checkout ["work"]) {} ⟨.here, []⟩)).1.map results := by
  have distinct (place : List String) : (checkout place).HasDistinctPlaces := by
    change [["a-b.ts"], ["a"], ["a", "b.ts"], ["a", "c.d.ts"], ["a", ".ts"], ["a", "d.ts"],
      ["dist", "b.ts"]].Nodup
    decide
  obtain ⟨members, -, -, anywhere⟩ := discover_exact (checkout ["work"]) {}
    ((checkout ["work"]).resolve ⟨.here, []⟩) (distinct ["work"])
  refine ⟨⟨{ document := emptyClass }, (members _ _).mpr ⟨⟨["a", "b.ts"], rfl, rfl⟩, ?_⟩⟩, ?_, ?_⟩
  · exact (isSource_iff_belongs (by decide)).mp (by decide)
  · intro file member
    have source := (isSource_iff_belongs (by decide)).mpr ((members _ _).mp member).2
    exact absurd source (by decide)
  · have same : (checkout ["work"]).SameFiles ((checkout ["work"]).resolve ⟨.here, []⟩)
        (checkout ["dist", "work"]) ((checkout ["dist", "work"]).resolve ⟨.here, []⟩) :=
      FileTree.sameFiles_of_location [] rfl (by decide) (by decide)
    exact (anywhere _ _ (distinct _) same).2 _ _ rfl rfl
      ⟨by decide, true, by decide +kernel⟩ ⟨by decide, true, by decide +kernel⟩

end Project

end SourceOutline
