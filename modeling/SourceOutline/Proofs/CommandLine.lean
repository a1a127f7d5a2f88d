import SourceOutline.CommandLine.Run
import SourceOutline.Proofs.Project.Exactness

/-!
# How a run over a directory ends

A run over a directory extracts its files as a project. If at least one of them is read, the run
delivers the project: its JSON, with the errors of all files that are not read, is printed or
written. If none is read, there is no result, and the run ends with the message that no sources were
found, whether any were discovered or not.
-/

namespace SourceOutline

theorem FileTree.exists?_of_isDirectory {tree : FileTree} {path : Path}
    (directory : tree.isDirectory path = true) : tree.exists? path = .ok true := by
  rw [isDirectory] at directory
  split at directory
  · next parts found =>
    rw [exists?, found]
    rfl
  · cases directory

/-- A project succeeds if one of its files is read. -/
theorem Project.Accounts.success_iff {settings : ExtractorSettings}
    {files : List (List String × SourceFile)} {project : Project}
    (accounts : Accounts settings files project) :
    project.success = true ↔ ∃ entry ∈ files, settings.reads entry.2 = true := by
  have some : project.success = true ↔ project.results ≠ [] := by simp [success]
  have read : project.results = [] ↔ (files.filter fun entry => settings.reads entry.2) = [] := by
    rw [← List.length_eq_zero_iff, ← accounts.results.length_eq, List.length_eq_zero_iff]
  rw [some, ne_eq, read, List.filter_eq_nil_iff]
  simp

namespace CommandLine

/-- How a run over a directory ends that has no result. -/
def noSources (directory : Path) : Exit :=
  failed ("No TypeScript files found under " ++ directory.text)

namespace Command

def directory (command : Command) : Path := Path.ofText command.path

/-- The files that are discovered. -/
def files (command : Command) (tree : FileTree) (settings : Settings) :
    List (List String × SourceFile) :=
  Project.discover tree settings.extractor (tree.resolve command.directory)

/-- The discovered files are the sources below the directory. -/
theorem mem_files_iff {command : Command} {tree : FileTree} {settings : Settings}
    {entry : List String × SourceFile} :
    entry ∈ command.files tree settings ↔
      entry ∈ tree.filesBelow (tree.resolve command.directory) ∧
        Project.isSource settings.extractor entry.1 = true := by
  rw [files, Project.discover, List.mem_mergeSort, List.mem_filter]

/-- The command names a directory that can be looked through. -/
structure Opens (command : Command) (tree : FileTree) : Prop where
  opens : Project.Opens tree command.directory
  isDirectory : tree.isDirectory command.directory = true

/-- The indentation can be carried out, and the file for the output can be written. -/
structure IsDeliverable (command : Command) (tree : FileTree) : Prop where
  styled : ∃ style, styleOf command.indent = .ok style
  writable : ∀ output, command.output = some output →
    (Path.ofText output).hasNull = false ∧ ∃ parts, tree.target (Path.ofText output) = .ok parts

/-- The run ends well and shows a text where the command says. -/
inductive Shows (command : Command) (tree : FileTree) (text : String) : Exit → Prop
  | printed : command.output = none → Shows command tree text { status := 0, stdout := text }
  | written {output : String} {parts : List String} : command.output = some output →
      tree.target (Path.ofText output) = .ok parts →
      Shows command tree text { status := 0, written := some { parts := parts, text := text } }

end Command

variable {command : Command} {tree : FileTree} {settings : Settings} {payload : Json}
variable {before : Journal} {exit : Exit}

theorem Command.Shows.status_eq {text : String} (shows : command.Shows tree text exit) :
    exit.status = 0 := by
  cases shows <;> rfl

/-- Whatever is delivered is shown. -/
theorem shows_of_deliver
    (given : ((deliver tree command payload).runFrom before).1 = .ok (.ok exit)) :
    ∃ style, styleOf command.indent = .ok style ∧
      command.Shows tree (payload.render style ++ "\n") exit := by
  rw [deliver] at given
  split at given
  · cases given
  · next style styled =>
    refine ⟨style, styled, ?_⟩
    split at given
    · next print =>
      cases given
      exact .printed print
    · next output write =>
      dsimp only at given
      split at given
      · cases given
      · split at given
        · cases given
        · next parts found =>
          cases given
          exact .written write found

theorem exists_delivered (deliverable : command.IsDeliverable tree) :
    ∃ exit, ((deliver tree command payload).runFrom before).1 = .ok (.ok exit) := by
  obtain ⟨style, styled⟩ := deliverable.styled
  rw [deliver]
  simp only [styled]
  cases write : command.output with
  | none => exact ⟨_, rfl⟩
  | some output =>
      obtain ⟨proper, parts, found⟩ := deliverable.writable output write
      simp only [proper, found]
      exact ⟨_, rfl⟩

theorem run_of_opens (opens : command.Opens tree) :
    command.run tree (.ok settings) = (do
      let project ← Project.extract tree settings.extractor command.directory
      if project.success then deliver tree command project.toJson
      else return .ok (noSources command.directory)) := by
  have proper : (Path.ofText command.path).hasNull = false := opens.opens.proper
  have directory : tree.isDirectory (Path.ofText command.path) = true := opens.isDirectory
  have there := FileTree.exists?_of_isDirectory directory
  unfold Command.run
  simp only [there, proper, directory, pure_bind, Bool.not_false, Bool.and_self, Bool.not_true,
    Bool.false_eq_true, if_false, if_true]
  rfl

section

variable (extracted : ∀ entry ∈ command.files tree settings,
  settings.extractor.reads entry.2 = true → Defined (Project.alone entry).1)

include extracted

/-- The run extracts the project of the directory, and then delivers it or not. -/
theorem exists_project (opens : command.Opens tree) :
    ∃ project after, project.root = tree.resolve command.directory ∧
      Project.Accounts settings.extractor (command.files tree settings) project ∧
      Recorded.run (command.run tree (.ok settings)) =
        if project.success then (deliver tree command project.toJson).runFrom after
        else (.ok (.ok (noSources command.directory)), after) := by
  obtain ⟨present, asked⟩ := opens.opens.asked
  obtain ⟨project, root, accounts, given⟩ :=
    Project.gives_extract opens.opens.proper asked rfl extracted
  let reported := Project.reportsOn settings.extractor (command.files tree settings) project
  refine ⟨project, { events := reported }, root, accounts, ?_⟩
  rw [run_of_opens opens, Recorded.run_eq_runFrom, Recorded.runFrom_bind_of_gives given]
  split <;> rfl

theorem run_eq_noSources_iff (opens : command.Opens tree) :
    (Recorded.run (command.run tree (.ok settings))).1 =
        .ok (.ok (noSources command.directory)) ↔
      ∀ entry ∈ command.files tree settings, settings.extractor.reads entry.2 = false := by
  obtain ⟨project, after, -, accounts, run⟩ := exists_project extracted opens
  have success := accounts.success_iff
  rw [run]
  constructor
  · intro ended
    have unsuccessful : project.success = false := by
      by_contra succeeds
      rw [if_pos (by simpa using succeeds)] at ended
      obtain ⟨_, -, shows⟩ := shows_of_deliver ended
      exact absurd shows.status_eq Nat.one_ne_zero
    intro entry member
    by_contra read
    rw [unsuccessful] at success
    cases success.mpr ⟨entry, member, by simpa using read⟩
  · intro unread
    rw [if_neg fun succeeds => ?_]
    obtain ⟨entry, member, read⟩ := success.mp succeeds
    rw [unread entry member] at read
    cases read

end

/-- Over a directory whose files can be extracted, the run ends with the message that there are no
sources exactly if none of the discovered files is read. If one of them is read, what the run prints
or writes is the JSON of the project, with an error for every discovered file that is not read. -/
theorem run_reports (arguments : List String) (command : Command) (tree : FileTree)
    (settings : Settings) (parsed : Command.parse arguments = .ok command)
    (opens : command.Opens tree)
    (extracted : ∀ entry ∈ command.files tree settings,
      settings.extractor.reads entry.2 = true → Defined (Project.alone entry).1) :
    ((Recorded.run (run arguments tree (.ok settings))).1 =
        .ok (.ok (noSources command.directory)) ↔
      ∀ entry ∈ command.files tree settings, settings.extractor.reads entry.2 = false) ∧
    ((∃ entry ∈ command.files tree settings, settings.extractor.reads entry.2 = true) →
      ∃ project : Project, project.root = tree.resolve command.directory ∧
        Project.Accounts settings.extractor (command.files tree settings) project ∧
        project.toJson.field? "errors" = some (.strings
          (((command.files tree settings).filter fun entry =>
            !settings.extractor.reads entry.2).map
              (Project.complaint settings.extractor project.root))) ∧
        (∀ exit, (Recorded.run (run arguments tree (.ok settings))).1 = .ok (.ok exit) →
          ∃ style, styleOf command.indent = .ok style ∧
            command.Shows tree (project.toJson.render style ++ "\n") exit) ∧
        (command.IsDeliverable tree →
          ∃ exit, (Recorded.run (run arguments tree (.ok settings))).1 = .ok (.ok exit))) := by
  have same : run arguments tree (.ok settings) = command.run tree (.ok settings) := by
    rw [run, parsed]
  rw [same]
  refine ⟨run_eq_noSources_iff extracted opens, fun read => ?_⟩
  obtain ⟨project, after, root, accounts, run⟩ := exists_project extracted opens
  rw [if_pos (accounts.success_iff.mpr read)] at run
  have errors : project.toJson.field? "errors" = some (.strings project.errors) := rfl
  refine ⟨project, root, accounts, by rw [errors, accounts.errors], ?_, ?_⟩
  · intro exit ended
    rw [run] at ended
    exact shows_of_deliver ended
  · intro deliverable
    rw [run]
    exact exists_delivered deliverable

/-- The second of two source files cannot be opened, and the output says so. -/
theorem halfOpen_reports : ∃ (project : Project) (exit : Exit) (style : Json.Style),
    (Recorded.run (run ["src"] Project.halfOpen (.ok {}))).1 = .ok (.ok exit) ∧
      Command.Shows ⟨"src", none, some 2⟩ Project.halfOpen
        (project.toJson.render style ++ "\n") exit ∧
      "b.ts: [Errno 13] Permission denied: '/work/src/b.ts'" ∈ project.errors := by
  let command : Command := ⟨"src", none, some 2⟩
  have parsed : Command.parse ["src"] = .ok command := by decide +kernel
  have opens : command.Opens Project.halfOpen :=
    ⟨⟨by decide +kernel, true, by decide +kernel⟩, by decide +kernel⟩
  have below : ∀ entry ∈ Project.halfOpen.filesBelow (Project.halfOpen.resolve command.directory),
      Defined (Project.alone entry).1 := by
    decide +kernel
  have found : (["b.ts"], { document := Project.emptyClass, readable := false }) ∈
      command.files Project.halfOpen {} :=
    Command.mem_files_iff.mpr ⟨FileTree.mem_filesBelow_iff.mpr ⟨by decide, ["src", "b.ts"],
      List.mem_cons_self, by decide +kernel⟩, by decide +kernel⟩
  have read : (["a.ts"], { document := Project.emptyClass }) ∈ command.files Project.halfOpen {} :=
    Command.mem_files_iff.mpr ⟨FileTree.mem_filesBelow_iff.mpr ⟨by decide, ["src", "a.ts"],
      List.mem_cons_of_mem _ List.mem_cons_self, by decide +kernel⟩, by decide +kernel⟩
  obtain ⟨-, reported⟩ := run_reports ["src"] command Project.halfOpen {} parsed opens
    fun entry member _ => below entry (Command.mem_files_iff.mp member).1
  obtain ⟨project, root, accounts, -, shown, ends⟩ := reported ⟨_, read, by decide +kernel⟩
  obtain ⟨exit, ended⟩ := ends ⟨⟨.indented 2, rfl⟩, nofun⟩
  obtain ⟨style, -, shows⟩ := shown exit ended
  refine ⟨project, exit, style, ended, shows, ?_⟩
  rw [accounts.errors, root]
  exact List.mem_map.mpr ⟨_, List.mem_filter.mpr ⟨found, by decide +kernel⟩, by decide +kernel⟩

/-- A directory with a source file that cannot be opened and nothing else. -/
def lockedSource : FileTree where
  location := { anchor := .slash, parts := ["work"] }
  entries := [(["src", "a.ts"], .file { document := Project.emptyClass, readable := false })]

/-- The file is discovered, but the run says that there is none, and its error is lost. -/
theorem lockedSource_misreported :
    (["a.ts"], { document := Project.emptyClass, readable := false }) ∈
        Command.files ⟨"src", none, some 2⟩ lockedSource {} ∧
      (Recorded.run (run ["src"] lockedSource (.ok {}))).1 =
        .ok (.ok { status := 1, stderr := "Error: No TypeScript files found under src\n" }) := by
  let command : Command := ⟨"src", none, some 2⟩
  have parsed : Command.parse ["src"] = .ok command := by decide +kernel
  have opens : command.Opens lockedSource :=
    ⟨⟨by decide +kernel, true, by decide +kernel⟩, by decide +kernel⟩
  have unread : ∀ entry ∈ lockedSource.filesBelow (lockedSource.resolve command.directory),
      ExtractorSettings.reads {} entry.2 = false := by
    decide +kernel
  constructor
  · exact Command.mem_files_iff.mpr ⟨FileTree.mem_filesBelow_iff.mpr ⟨by decide, ["src", "a.ts"],
      List.mem_cons_self, by decide +kernel⟩, by decide +kernel⟩
  · have same : run ["src"] lockedSource (.ok {}) = command.run lockedSource (.ok {}) := by
      rw [run, parsed]
    have message : noSources command.directory =
        { status := 1, stderr := "Error: No TypeScript files found under src\n" } := by
      decide +kernel
    rw [same, ← message]
    have closed : ∀ entry ∈ command.files lockedSource {},
        ExtractorSettings.reads {} entry.2 = false :=
      fun entry member => unread entry (Command.mem_files_iff.mp member).1
    refine (run_eq_noSources_iff (fun entry member read => ?_) opens).mpr closed
    rw [closed entry member] at read
    cases read

end CommandLine

end SourceOutline
