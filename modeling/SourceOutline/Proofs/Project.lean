import Mathlib.Algebra.GroupWithZero.Nat
import Mathlib.Data.List.Forall2
import SourceOutline.Project.Basic
import SourceOutline.Proofs.Journal

/-!
# Projects account for their files

The discovered files are gone through once, in order. A file that is read has a result, the
extraction of the file alone under its name; every other one has an error. What happens to a file
depends neither on the files before it nor on what they have left in the journal, so a run is known
from its files one by one, and so is the failure that ends it.

A file that is not read is not looked into either: another one of the same size at its place gives
the same run.
-/

namespace SourceOutline

/-- A journal with more events. -/
def Journal.reporting (journal : Journal) (events : List Event) : Journal :=
  { journal with events := journal.events ++ events }

theorem Journal.reporting_reporting (journal : Journal) (first second : List Event) :
    (journal.reporting first).reporting second = journal.reporting (first ++ second) :=
  Journal.ext (List.append_assoc ..) rfl rfl

/-- Whether a file is read. -/
def ExtractorSettings.reads (settings : ExtractorSettings) (file : SourceFile) : Bool :=
  !settings.isTooLarge file.size && file.readable

namespace Recorded

variable {α β : Type} {computation : Recorded α} {before : Journal}

theorem runFrom_isolated (computation : Recorded α) (before : Journal) :
    computation.isolated.runFrom before =
      ((run computation).1, before.reporting (run computation).2.events) := rfl

theorem runFrom_bind_of_gives {value : α} {after : Journal}
    (given : computation.Gives before value after) (next : α → Recorded β) :
    (computation >>= next).runFrom before = (next value).runFrom after := by
  rw [runFrom_bind, given]

theorem runFrom_bind_error {failure : Failure}
    (failed : (computation.runFrom before).1 = .error failure) (next : α → Recorded β) :
    ((computation >>= next).runFrom before).1 = .error failure := by
  rw [runFrom_bind]
  rcases outcome : computation.runFrom before with ⟨result, after⟩
  rw [outcome] at failed
  obtain rfl : result = .error failure := failed
  rfl

end Recorded

namespace FileTree

/-- The same place with another file, if there is one. -/
def Item.map (change : SourceFile → SourceFile) : Item → Item
  | .file source => .file (change source)
  | .directory => .directory

def Item.isFile : Item → Bool
  | .file _ => true
  | .directory => false

/-- A file tree with other files at the same places. -/
def mapFiles (change : SourceFile → SourceFile) (tree : FileTree) : FileTree :=
  { tree with entries := tree.entries.map fun entry => (entry.1, entry.2.map change) }

variable (tree : FileTree) (change : SourceFile → SourceFile)

theorem isFile_inner?_mapFiles (parts : List String) :
    ((tree.mapFiles change).inner? parts).map Item.isFile =
      (tree.inner? parts).map Item.isFile := by
  have found : (tree.mapFiles change).entries.lookup parts =
      (tree.entries.lookup parts).map (Item.map change) := by
    change (tree.entries.map _).lookup parts = _
    induction tree.entries with
    | nil => rfl
    | cons entry entries ih =>
        obtain ⟨key, item⟩ := entry
        simp only [List.map_cons, List.lookup_cons]
        cases parts == key with
        | true => rfl
        | false => exact ih
  rw [inner?, inner?, found]
  cases tree.entries.lookup parts with
  | some item => cases item <;> rfl
  | none =>
      rw [mapFiles, List.any_map]
      rfl

theorem isFile_item?_mapFiles (parts : List String) :
    ((tree.mapFiles change).item? parts).map Item.isFile =
      (tree.item? parts).map Item.isFile := by
  have same : (tree.mapFiles change).inside? parts = tree.inside? parts := rfl
  rw [item?, item?, same]
  cases tree.inside? parts with
  | some inner => exact tree.isFile_inner?_mapFiles change inner
  | none => rfl

theorem follow_mapFiles (reached parts : List String) :
    ((tree.mapFiles change).follow reached parts).map (fun found => found.2.isSome) =
      (tree.follow reached parts).map fun found => found.2.isSome := by
  induction parts generalizing reached with
  | nil =>
      have same := congrArg Option.isSome (tree.isFile_item?_mapFiles change reached)
      rw [Option.isSome_map, Option.isSome_map] at same
      exact congrArg Except.ok same
  | cons part parts ih =>
      have same := tree.isFile_item?_mapFiles change reached
      rw [follow, follow]
      rcases here : (tree.mapFiles change).item? reached with _ | _ | _ <;>
        rcases there : tree.item? reached with _ | _ | _ <;>
        simp [here, there, Item.isFile] at same ⊢
      · split
        · rfl
        · split
          · exact ih _
          · exact ih _

theorem exists?_eq (path : Path) :
    tree.exists? path =
      match (tree.find path).map fun found => found.2.isSome with
      | .ok there => .ok there
      | .error .nameTooLong => .error .nameTooLong
      | .error _ => .ok false := by
  rw [exists?]
  rcases tree.find path with fault | found
  · cases fault <;> rfl
  · rfl

theorem exists?_mapFiles (path : Path) :
    (tree.mapFiles change).exists? path = tree.exists? path := by
  have same : ((tree.mapFiles change).find path).map (fun found => found.2.isSome) =
      (tree.find path).map fun found => found.2.isSome := by
    rw [find, find]
    split
    · rfl
    · exact tree.follow_mapFiles change [] _
  rw [exists?_eq, exists?_eq, same]

theorem filesBelow_mapFiles (root : Path) :
    (tree.mapFiles change).filesBelow root =
      (tree.filesBelow root).map fun entry => (entry.1, change entry.2) := by
  rw [filesBelow, filesBelow, mapFiles, List.filterMap_map, List.map_filterMap]
  congr 1
  funext ⟨parts, item⟩
  cases item with
  | directory => rfl
  | file file =>
      simp only [Function.comp_apply, Item.map]
      split <;> rfl

end FileTree

namespace Project

/-- The name of a discovered file is its path relative to the root. -/
def nameOf (entry : List String × SourceFile) : String :=
  Path.text { anchor := .here, parts := entry.1 }

/-- The extraction of a file alone under its name. -/
def alone (entry : List String × SourceFile) : Except Failure Extraction × Journal :=
  Recorded.run (SourceOutline.extract entry.2.document (nameOf entry))

def denial (root : Path) (entry : List String × SourceFile) : String :=
  FileTree.Fault.denied.message (root.append { anchor := .here, parts := entry.1 }).text

/-- Why a file that is not read has no outline. -/
def complaint (settings : ExtractorSettings) (root : Path) (entry : List String × SourceFile) :
    String :=
  if settings.isTooLarge entry.2.size then nameOf entry ++ ": file too large"
  else nameOf entry ++ ": " ++ denial root entry

/-- What is reported about a file. -/
def reports (settings : ExtractorSettings) (root : Path) (entry : List String × SourceFile) :
    List Event :=
  if settings.reads entry.2 then (alone entry).2.events
  else if settings.isTooLarge entry.2.size then [.fileTooLarge (nameOf entry)]
  else [.readError (nameOf entry) (denial root entry)]

section

variable {settings : ExtractorSettings} {entry : List String × SourceFile} (project : Project)

theorem runFrom_addFile_read (read : settings.reads entry.2 = true) (before : Journal) :
    (project.addFile settings entry).runFrom before =
      ((alone entry).1.map fun extraction =>
          { project with results := project.results ++ [(nameOf entry, extraction)] },
        before.reporting (reports settings project.root entry)) := by
  obtain ⟨fits, readable⟩ := Bool.and_eq_true_iff.mp read
  rw [Bool.not_eq_true'] at fits
  rw [addFile, reports, if_pos read]
  simp only [fits, readable, Bool.not_true, Bool.false_eq_true, if_false]
  rw [bind_pure_comp, Recorded.runFrom_map, Recorded.runFrom_isolated]
  rfl

theorem runFrom_addFile_unread (unread : settings.reads entry.2 = false) (before : Journal) :
    (project.addFile settings entry).runFrom before =
      (.ok { project with errors := project.errors ++ [complaint settings project.root entry] },
        before.reporting (reports settings project.root entry)) := by
  rw [addFile, reports, complaint, unread]
  cases large : settings.isTooLarge entry.2.size with
  | true => rfl
  | false =>
      have closed : entry.2.readable = false := by
        simpa [ExtractorSettings.reads, large] using unread
      rw [closed]
      rfl

/-- A result of a file is what extraction gives for the file alone. -/
def IsOutline (entry : List String × SourceFile) (result : String × Extraction) : Prop :=
  result.1 = nameOf entry ∧ (alone entry).1 = .ok result.2

variable {files : List (List String × SourceFile)}

/-- If no extraction fails, the files that are read add a result each and the others an error. -/
theorem gives_addFiles (extracted : ∀ entry ∈ files, settings.reads entry.2 = true →
      Defined (alone entry).1) (before : Journal) :
    ∃ found, List.Forall₂ IsOutline (files.filter fun entry => settings.reads entry.2) found ∧
      (addFiles settings project files).Gives before
        { project with
          results := project.results ++ found
          errors := project.errors ++ (files.filter fun entry => !settings.reads entry.2).map
            (complaint settings project.root) }
        (before.reporting (files.flatMap (reports settings project.root))) := by
  induction files generalizing project before with
  | nil =>
      have none : before.reporting [] = before := Journal.ext (List.append_nil _) rfl rfl
      refine ⟨[], .nil, Recorded.gives_pure_iff.mpr ⟨?_, none.symm⟩⟩
      simp
  | cons entry later ih =>
      have rest := fun other member => extracted other (List.mem_cons_of_mem entry member)
      cases read : settings.reads entry.2 with
      | true =>
          obtain ⟨extraction, given⟩ := extracted entry List.mem_cons_self read
          have first := project.runFrom_addFile_read read before
          rw [given] at first
          obtain ⟨found, outlines, ends⟩ := ih
            { project with results := project.results ++ [(nameOf entry, extraction)] }
            rest (before.reporting (reports settings project.root entry))
          refine ⟨(nameOf entry, extraction) :: found, ?_,
            Recorded.gives_bind_iff.mpr ⟨_, _, first, ?_⟩⟩
          · simpa [read] using ⟨⟨rfl, given⟩, outlines⟩
          · simpa [Journal.reporting_reporting, read] using ends
      | false =>
          have first := project.runFrom_addFile_unread read before
          obtain ⟨found, outlines, ends⟩ := ih
            { project with errors := project.errors ++ [complaint settings project.root entry] }
            rest (before.reporting (reports settings project.root entry))
          refine ⟨found, ?_, Recorded.gives_bind_iff.mpr ⟨_, _, first, ?_⟩⟩
          · simpa [read] using outlines
          · simpa [Journal.reporting_reporting, read] using ends

theorem addFiles_append (first second : List (List String × SourceFile)) :
    addFiles settings project (first ++ second) =
      addFiles settings project first >>= fun grown => addFiles settings grown second := by
  induction first generalizing project with
  | nil => rw [List.nil_append, addFiles, pure_bind]
  | cons entry first ih =>
      rw [List.cons_append, addFiles, addFiles, bind_assoc]
      exact congrArg _ (funext ih)

/-- The first failure of an extraction ends the run. -/
theorem fails_addFiles {earlier later : List (List String × SourceFile)} {failure : Failure}
    (extracted : ∀ other ∈ earlier, settings.reads other.2 = true → Defined (alone other).1)
    (read : settings.reads entry.2 = true) (failed : (alone entry).1 = .error failure)
    (before : Journal) :
    ((addFiles settings project (earlier ++ entry :: later)).runFrom before).1 =
      .error failure := by
  obtain ⟨_, -, start⟩ := project.gives_addFiles extracted before
  rw [addFiles_append, Recorded.runFrom_bind_of_gives start, addFiles]
  apply Recorded.runFrom_bind_error
  rw [runFrom_addFile_read _ read, failed]
  rfl

end

/-- Report which files are gone through. -/
def announce (root : Path) (files : List (List String × SourceFile)) : Recorded Unit := do
  Recorded.report (.discoveredFiles files.length root.text)
  if files.isEmpty then Recorded.report (.noSourceFilesFound root.text)

def opening (root : Path) (files : List (List String × SourceFile)) : List Event :=
  .discoveredFiles files.length root.text ::
    if files.isEmpty then [.noSourceFilesFound root.text] else []

theorem runFrom_announce (root : Path) (files : List (List String × SourceFile))
    (before : Journal) :
    (announce root files).runFrom before = (.ok (), before.reporting (opening root files)) := by
  cases files with
  | nil => exact congrArg (Prod.mk _) (before.reporting_reporting [_] [_])
  | cons entry later => rfl

/-- Report the counts of a finished project. -/
def conclude (project : Project) : Recorded Project := do
  Recorded.report
    (.projectExtracted project.results.length project.errors.length project.warningCount)
  return project

theorem runFrom_conclude (project : Project) (before : Journal) :
    project.conclude.runFrom before = (.ok project, before.reporting
      [.projectExtracted project.results.length project.errors.length project.warningCount]) := rfl

section

variable {tree : FileTree} {settings : ExtractorSettings} {directory : Path}

theorem extract_eq (proper : directory.hasNull = false) {present : Bool}
    (asked : tree.exists? (tree.resolve directory) = .ok present) :
    extract tree settings directory = (do
      let files := discover tree settings (tree.resolve directory)
      announce (tree.resolve directory) files
      let project ← addFiles settings { root := tree.resolve directory } files
      conclude project) := by
  unfold extract announce conclude
  simp only [proper, asked]
  generalize tree.resolve directory = root
  generalize discover tree settings root = files
  cases files with
  | nil => rfl
  | cons entry later => rfl

end

section

variable {settings : ExtractorSettings} {change : SourceFile → SourceFile}

/-- The change concerns only files that are not read, and neither their size nor, where it matters,
that they cannot be opened. -/
structure IsUnnoticed (settings : ExtractorSettings) (change : SourceFile → SourceFile) : Prop where
  size : ∀ file, (change file).size = file.size
  readable : ∀ file, settings.isTooLarge file.size = false → (change file).readable = file.readable
  kept : ∀ file, settings.reads file = true → change file = file

theorem IsUnnoticed.addFile (unnoticed : IsUnnoticed settings change) (project : Project)
    (entry : List String × SourceFile) :
    project.addFile settings (entry.1, change entry.2) = project.addFile settings entry := by
  cases read : settings.reads entry.2 with
  | true => rw [unnoticed.kept entry.2 read]
  | false =>
      unfold Project.addFile
      cases large : settings.isTooLarge entry.2.size with
      | true => simp only [unnoticed.size, large, if_true]
      | false =>
          have closed : entry.2.readable = false := by
            simpa [ExtractorSettings.reads, large] using read
          simp only [unnoticed.size, large, unnoticed.readable entry.2 large, closed,
            Bool.not_false, if_true]

theorem IsUnnoticed.addFiles (unnoticed : IsUnnoticed settings change) (project : Project)
    (files : List (List String × SourceFile)) :
    project.addFiles settings (files.map fun entry => (entry.1, change entry.2)) =
      project.addFiles settings files := by
  induction files generalizing project with
  | nil => rfl
  | cons entry later ih =>
      rw [List.map_cons, Project.addFiles, Project.addFiles, unnoticed.addFile]
      exact congrArg _ (funext ih)

theorem discover_mapFiles (tree : FileTree) (root : Path) :
    discover (tree.mapFiles change) settings root =
      (discover tree settings root).map fun entry => (entry.1, change entry.2) := by
  rw [discover, discover, FileTree.filesBelow_mapFiles, List.filter_map]
  symm
  apply List.map_mergeSort
  intro first _ second _
  rfl

theorem IsUnnoticed.extract (unnoticed : IsUnnoticed settings change) (tree : FileTree)
    (directory : Path) :
    Project.extract (tree.mapFiles change) settings directory =
      Project.extract tree settings directory := by
  have same : (tree.mapFiles change).resolve directory = tree.resolve directory := rfl
  unfold Project.extract
  simp only [same, FileTree.exists?_mapFiles, discover_mapFiles, List.length_map, List.isEmpty_map,
    unnoticed.addFiles]

end

theorem warningCount_eq (project : Project) :
    project.warningCount = (project.results.map fun result => result.2.warningCount).sum := by
  rw [warningCount, List.sum_eq_foldl, List.foldl_map]

/-- Every file has its place in a project, in order. -/
structure Accounts (settings : ExtractorSettings) (files : List (List String × SourceFile))
    (project : Project) : Prop where
  /-- A file that is read has a result, -/
  results : List.Forall₂ IsOutline (files.filter fun entry => settings.reads entry.2)
    project.results
  /-- and one that is not has an error. -/
  errors : project.errors = (files.filter fun entry => !settings.reads entry.2).map
    (complaint settings project.root)
  warnings : project.warningCount =
    (project.results.map fun result => result.2.warningCount).sum

/-- No file is lost or counted twice. -/
theorem Accounts.length_add_length {settings : ExtractorSettings}
    {files : List (List String × SourceFile)} {project : Project}
    (accounts : Accounts settings files project) :
    project.results.length + project.errors.length = files.length := by
  rw [← accounts.results.length_eq, accounts.errors, List.length_map,
    ← List.countP_eq_length_filter, ← List.countP_eq_length_filter]
  rw [List.length_eq_countP_add_countP fun entry => settings.reads entry.2]
  simp

/-- The reports on a whole project. -/
def reportsOn (settings : ExtractorSettings) (files : List (List String × SourceFile))
    (project : Project) : List Event :=
  opening project.root files ++ (files.flatMap (reports settings project.root) ++
    [.projectExtracted project.results.length project.errors.length project.warningCount])

section

variable {tree : FileTree} {settings : ExtractorSettings} {directory : Path}
variable {files : List (List String × SourceFile)}

theorem gives_extract (proper : directory.hasNull = false) {present : Bool}
    (asked : tree.exists? (tree.resolve directory) = .ok present)
    (discovered : discover tree settings (tree.resolve directory) = files)
    (extracted : ∀ entry ∈ files, settings.reads entry.2 = true → Defined (alone entry).1) :
    ∃ project, project.root = tree.resolve directory ∧ Accounts settings files project ∧
      Recorded.run (extract tree settings directory) =
        (.ok project, { events := reportsOn settings files project }) := by
  obtain ⟨found, outlines, given⟩ := gives_addFiles { root := tree.resolve directory } extracted
    (Journal.reporting {} (opening (tree.resolve directory) files))
  simp only [List.nil_append] at given
  refine ⟨⟨tree.resolve directory, found, (files.filter fun entry => !settings.reads entry.2).map
    (complaint settings (tree.resolve directory))⟩, rfl, ⟨outlines, ?_, warningCount_eq _⟩, ?_⟩
  · rfl
  · rw [extract_eq proper asked, discovered]
    refine Recorded.gives_bind_iff.mpr ⟨_, _, runFrom_announce _ files {}, ?_⟩
    refine Recorded.gives_bind_iff.mpr ⟨_, _, given, ?_⟩
    rw [Recorded.Gives, runFrom_conclude, Journal.reporting_reporting,
      Journal.reporting_reporting]
    rfl

theorem fails_extract (proper : directory.hasNull = false) {present : Bool}
    (asked : tree.exists? (tree.resolve directory) = .ok present)
    {earlier later : List (List String × SourceFile)} {entry : List String × SourceFile}
    {failure : Failure}
    (discovered : discover tree settings (tree.resolve directory) = earlier ++ entry :: later)
    (extracted : ∀ other ∈ earlier, settings.reads other.2 = true → Defined (alone other).1)
    (read : settings.reads entry.2 = true) (failed : (alone entry).1 = .error failure) :
    (Recorded.run (extract tree settings directory)).1 = .error failure := by
  rw [extract_eq proper asked, discovered, Recorded.run_eq_runFrom,
    Recorded.runFrom_bind_of_gives (runFrom_announce _ _ {})]
  apply Recorded.runFrom_bind_error
  exact fails_addFiles _ extracted read failed _

end

/-- If no extraction fails, the project accounts for the discovered files. If one does, the first
failure in their order is the failure of the whole run. A file that is not read is not looked
into. -/
theorem extract_accounts (tree : FileTree) (settings : ExtractorSettings) (directory : Path)
    (proper : directory.hasNull = false) (present : Bool)
    (asked : tree.exists? (tree.resolve directory) = .ok present) :
    ((∀ entry ∈ discover tree settings (tree.resolve directory),
        settings.reads entry.2 = true → Defined (alone entry).1) →
      ∃ project, project.root = tree.resolve directory ∧
        Accounts settings (discover tree settings (tree.resolve directory)) project ∧
        Recorded.run (extract tree settings directory) = (.ok project,
          { events := reportsOn settings (discover tree settings (tree.resolve directory))
              project })) ∧
    (∀ earlier entry later failure,
      discover tree settings (tree.resolve directory) = earlier ++ entry :: later →
      (∀ other ∈ earlier, settings.reads other.2 = true → Defined (alone other).1) →
      settings.reads entry.2 = true → (alone entry).1 = .error failure →
        (Recorded.run (extract tree settings directory)).1 = .error failure) ∧
    ∀ change, IsUnnoticed settings change →
      extract (tree.mapFiles change) settings directory = extract tree settings directory := by
  refine ⟨gives_extract proper asked rfl, ?_, ?_⟩
  · intro earlier entry later failure discovered extracted read failed
    exact fails_extract proper asked discovered extracted read failed
  · intro change unnoticed
    exact unnoticed.extract tree directory

/-- The tree of `class A {}`. -/
def emptyClass : Document where
  content := "class A \x7b\x7d".toUTF8
  root := ⟨⟨0, "program", 0, true, none, 0, 10⟩, [
    ⟨⟨1, "class_declaration", 0, true, none, 0, 10⟩, [
      ⟨⟨2, "class", 0, false, none, 0, 5⟩, []⟩,
      ⟨⟨3, "type_identifier", 0, true, some "name", 6, 7⟩, []⟩,
      ⟨⟨4, "class_body", 0, true, some "body", 8, 10⟩, [
        ⟨⟨5, "\x7b", 0, false, none, 8, 9⟩, []⟩,
        ⟨⟨6, "\x7d", 0, false, none, 9, 10⟩, []⟩]⟩]⟩]⟩

/-- A file of blanks, with more than ten megabytes of them. -/
def hugeFile : SourceFile where
  document := {
    content := ⟨Array.replicate 10485761 32⟩
    root := ⟨⟨0, "program", 0, true, none, 0, 10485761⟩, []⟩ }

/-- Its bytes are too many to be counted one by one. -/
theorem hugeFile_isTooLarge : ExtractorSettings.isTooLarge {} hugeFile.size = true := by
  have size : hugeFile.size = 10485761 := Array.size_replicate
  rw [size]
  decide +kernel

/-- A directory with three source files and a picture. One source file can be read; the first listed
cannot be opened, and the last is too large. -/
def halfOpen : FileTree where
  location := { anchor := .slash, parts := ["work"] }
  entries := [
    (["src", "b.ts"], .file { document := emptyClass, readable := false }),
    (["src", "a.ts"], .file { document := emptyClass }),
    (["src", "a.png"], .file { document := default }),
    (["src", "c.ts"], .file hugeFile)]

theorem discover_halfOpen : discover halfOpen {} (halfOpen.resolve ⟨.here, ["src"]⟩) = [
    (["a.ts"], { document := emptyClass }),
    (["b.ts"], { document := emptyClass, readable := false }), (["c.ts"], hugeFile)] := by
  have sources : (halfOpen.filesBelow (halfOpen.resolve ⟨.here, ["src"]⟩)).filter
      (fun entry => isSource {} entry.1) = [
        (["b.ts"], { document := emptyClass, readable := false }),
        (["a.ts"], { document := emptyClass }), (["c.ts"], hugeFile)] := rfl
  have ba : precedes ["b.ts"] ["a.ts"] = false := by decide
  have ac : precedes ["a.ts"] ["c.ts"] = true := by decide
  have bc : precedes ["b.ts"] ["c.ts"] = true := by decide
  rw [discover, sources]
  simp [List.mergeSort, List.MergeSort.Internal.splitInTwo, ba, ac, bc]

/-- The class has the only result. The other two source files have an error each. -/
theorem halfOpen_accounts : ∃ project extraction,
    (Recorded.run (extract halfOpen {} ⟨.here, ["src"]⟩)).1 = .ok project ∧
      Accounts {} (discover halfOpen {} (halfOpen.resolve ⟨.here, ["src"]⟩)) project ∧
      project.results = [("a.ts", extraction)] ∧
      project.errors = ["b.ts: [Errno 13] Permission denied: '/work/src/b.ts'",
        "c.ts: file too large"] := by
  have opened : ExtractorSettings.reads {} { document := emptyClass } = true := by
    decide +kernel
  have closed : ExtractorSettings.reads {} { document := emptyClass, readable := false } = false :=
    by decide +kernel
  have tooLarge : ExtractorSettings.reads {} hugeFile = false := by
    rw [ExtractorSettings.reads, hugeFile_isTooLarge]
    rfl
  have whole := (extract_accounts halfOpen {} ⟨.here, ["src"]⟩ (by decide) true
    (by decide +kernel)).1
  obtain ⟨project, root, accounts, run⟩ := whole (by
    have defined : Defined (alone (["a.ts"], { document := emptyClass })).1 := by decide +kernel
    rw [discover_halfOpen]
    intro entry member read
    simp only [List.mem_cons, List.not_mem_nil, or_false] at member
    rcases member with rfl | rfl | rfl
    · exact defined
    · cases closed.symm.trans read
    · cases tooLarge.symm.trans read)
  have results := accounts.results
  have errors := accounts.errors
  rw [discover_halfOpen] at results errors
  simp only [List.filter_cons, opened, closed, tooLarge, if_true, Bool.false_eq_true, if_false,
    List.filter_nil, Bool.not_true, Bool.not_false, List.map_cons, List.map_nil] at results errors
  obtain ⟨⟨name, extraction⟩, rest, ⟨named, -⟩, none, found⟩ := List.forall₂_cons_left_iff.mp results
  cases List.forall₂_nil_left_iff.mp none
  refine ⟨project, extraction, by rw [run], accounts, ?_, ?_⟩
  · rw [found, show name = "a.ts" from named.trans (by decide +kernel)]
  · have denied : complaint {} (halfOpen.resolve ⟨.here, ["src"]⟩)
        (["b.ts"], { document := emptyClass, readable := false }) =
          "b.ts: [Errno 13] Permission denied: '/work/src/b.ts'" := by
      decide +kernel
    rw [errors, root, denied, complaint, if_pos hugeFile_isTooLarge]
    decide +kernel

end Project

end SourceOutline
