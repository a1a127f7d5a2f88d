import Mathlib.Data.List.Nodup
import SourceOutline.Project.Basic

/-!
# Discovering files

The files of a project come in the order of their components, which is a total order. If no two
entries of a tree are at the same place, the order in which the tree lists them makes no difference,
and one more file takes its place among the others without moving them.
-/

namespace SourceOutline

namespace FileTree

variable {tree grown : FileTree} {root : Path}

/-- No two entries are at the same place. -/
def HasDistinctPlaces (tree : FileTree) : Prop := (tree.entries.map Prod.fst).Nodup

/-- A tree with a file in front of its entries. -/
def withFile (tree : FileTree) (parts : List String) (file : SourceFile) : FileTree :=
  { tree with entries := (parts, .file file) :: tree.entries }

/-- A tree with one more file, listed anywhere. -/
structure Adds (tree grown : FileTree) (parts : List String) (file : SourceFile) : Prop where
  location : grown.location = tree.location
  entries : grown.entries.Perm ((parts, .file file) :: tree.entries)
  distinct : grown.HasDistinctPlaces

theorem mem_filesBelow_iff {entry : List String × SourceFile} :
    entry ∈ tree.filesBelow root ↔
      entry.1 ≠ [] ∧ ∃ parts, (parts, .file entry.2) ∈ tree.entries ∧
        tree.location.parts ++ parts = root.parts ++ entry.1 := by
  rw [filesBelow, List.mem_filterMap]
  constructor
  · rintro ⟨⟨parts, item⟩, member, found⟩
    cases item with
    | directory => cases found
    | file file =>
        simp only [Option.ite_none_right_eq_some, Bool.and_eq_true, List.isPrefixOf_iff_prefix,
          decide_eq_true_iff] at found
        obtain ⟨⟨⟨relative, split⟩, less⟩, found⟩ := found
        rw [← split, List.drop_left] at found
        cases found
        refine ⟨fun empty => ?_, parts, member, split.symm⟩
        rw [← split, show relative = [] from empty, List.append_nil] at less
        exact Nat.lt_irrefl _ less
  · rintro ⟨nonempty, parts, member, split⟩
    refine ⟨(parts, .file entry.2), member, ?_⟩
    have less : 0 < entry.1.length := List.length_pos_iff.mpr nonempty
    simp [split, less]

/-- At most one file is found at each place. -/
theorem HasDistinctPlaces.eq_of_mem_filesBelow (distinct : tree.HasDistinctPlaces)
    {first second : List String × SourceFile} (one : first ∈ tree.filesBelow root)
    (two : second ∈ tree.filesBelow root) (same : first.1 = second.1) : first = second := by
  obtain ⟨-, parts, member, split⟩ := mem_filesBelow_iff.mp one
  obtain ⟨-, parts', member', split'⟩ := mem_filesBelow_iff.mp two
  rw [same, ← split'] at split
  have place : parts = parts' := List.append_cancel_left split
  have item := List.inj_on_of_nodup_map distinct member member' place
  obtain ⟨-, file⟩ := Prod.mk.inj item
  exact Prod.ext same (Item.file.inj file)

theorem filesBelow_withFile {parts relative : List String} {file : SourceFile}
    (below : tree.location.parts ++ parts = root.parts ++ relative) (nonempty : relative ≠ []) :
    (tree.withFile parts file).filesBelow root = (relative, file) :: tree.filesBelow root := by
  have less : 0 < relative.length := List.length_pos_iff.mpr nonempty
  rw [filesBelow, withFile, List.filterMap_cons_some]
  · rfl
  · simp [below, less]

theorem filesBelow_perm (location : grown.location = tree.location)
    (entries : grown.entries.Perm tree.entries) :
    (grown.filesBelow root).Perm (tree.filesBelow root) := by
  rw [filesBelow, filesBelow, location]
  exact entries.filterMap _

end FileTree

namespace Project

theorem text_lt_or_gt_of_ne {one two : String} (differ : one ≠ two) :
    one < two ∨ two < one := by
  by_cases less : one < two
  · exact .inl less
  · by_cases more : two < one
    · exact .inr more
    · exact absurd (String.le_antisymm (String.not_lt.mp more) (String.not_lt.mp less)) differ

theorem precedes_trans (first second third : List String) (one : precedes first second = true)
    (two : precedes second third = true) : precedes first third = true := by
  induction first generalizing second third with
  | nil => rfl
  | cons a as ih =>
      cases second with
      | nil => cases one
      | cons b bs =>
          cases third with
          | nil => cases two
          | cons c cs =>
              rw [precedes] at one two ⊢
              by_cases same : a = b
              · subst same
                by_cases same : a = c
                · subst same
                  rw [if_pos rfl] at one two ⊢
                  exact ih _ _ one two
                · rwa [if_neg same] at two ⊢
              · rw [if_neg same, decide_eq_true_iff] at one
                by_cases other : b = c
                · subst other
                  rwa [if_neg same, decide_eq_true_iff]
                · rw [if_neg other, decide_eq_true_iff] at two
                  have less := String.lt_trans one two
                  have differ : a ≠ c := by
                    rintro rfl
                    exact String.lt_irrefl a less
                  rwa [if_neg differ, decide_eq_true_iff]

theorem precedes_total (first second : List String) :
    (precedes first second || precedes second first) = true := by
  induction first generalizing second with
  | nil => rfl
  | cons a as ih =>
      cases second with
      | nil => rfl
      | cons b bs =>
          rw [precedes, precedes]
          by_cases same : a = b
          · subst same
            rw [if_pos rfl, if_pos rfl]
            exact ih bs
          · rw [if_neg same, if_neg (Ne.symm same), Bool.or_eq_true, decide_eq_true_iff,
              decide_eq_true_iff]
            exact text_lt_or_gt_of_ne same

theorem precedes_antisymm {first second : List String} (one : precedes first second = true)
    (two : precedes second first = true) : first = second := by
  induction first generalizing second with
  | nil =>
      cases second with
      | nil => rfl
      | cons b bs => cases two
  | cons a as ih =>
      cases second with
      | nil => cases one
      | cons b bs =>
          rw [precedes] at one two
          by_cases same : a = b
          · subst same
            rw [if_pos rfl] at one two
            rw [ih one two]
          · rw [if_neg same, decide_eq_true_iff] at one
            rw [if_neg (Ne.symm same), decide_eq_true_iff] at two
            exact absurd two (String.lt_asymm one)

variable {tree grown : FileTree} {settings : ExtractorSettings} {root : Path}

theorem pairwise_precedes (files : List (List String × SourceFile)) :
    (files.mergeSort fun one two => precedes one.1 two.1).Pairwise
      fun one two => precedes one.1 two.1 = true :=
  List.pairwise_mergeSort (fun one two three => precedes_trans one.1 two.1 three.1)
    (fun one two => precedes_total one.1 two.1) files

/-- The order of discovery does not depend on the order of the entries. -/
theorem discover_eq_of_perm (location : grown.location = tree.location)
    (entries : grown.entries.Perm tree.entries) (distinct : tree.HasDistinctPlaces) :
    discover grown settings root = discover tree settings root := by
  have found {files : FileTree} {entry : List String × SourceFile}
      (member : entry ∈ discover files settings root) : entry ∈ files.filesBelow root :=
    (List.mem_filter.mp (List.mem_mergeSort.mp member)).1
  have files : (grown.filesBelow root).Perm (tree.filesBelow root) :=
    FileTree.filesBelow_perm location entries
  refine List.Perm.eq_of_pairwise (fun one two member member' before after => ?_)
    (pairwise_precedes _) (pairwise_precedes _) ?_
  · exact distinct.eq_of_mem_filesBelow (files.mem_iff.mp (found member)) (found member')
      (precedes_antisymm before after)
  · exact (List.mergeSort_perm _ _).trans ((files.filter _).trans (List.mergeSort_perm _ _).symm)

/-- One more file takes its place among the others. -/
theorem discover_of_adds {parts relative : List String} {file : SourceFile}
    (adds : tree.Adds grown parts file)
    (below : tree.location.parts ++ parts = root.parts ++ relative) (nonempty : relative ≠ [])
    (source : isSource settings relative = true) :
    ∃ earlier later, discover tree settings root = earlier ++ later ∧
      discover grown settings root = earlier ++ (relative, file) :: later := by
  have distinct : (tree.withFile parts file).HasDistinctPlaces :=
    (adds.entries.map Prod.fst).nodup_iff.mp adds.distinct
  have same : discover grown settings root = discover (tree.withFile parts file) settings root :=
    discover_eq_of_perm adds.location adds.entries distinct
  rw [same, discover, discover, FileTree.filesBelow_withFile below nonempty, List.filter_cons,
    if_pos source]
  obtain ⟨earlier, later, larger, smaller, -⟩ := List.mergeSort_cons
    (fun one two three => precedes_trans one.1 two.1 three.1)
    (fun one two => precedes_total one.1 two.1) (relative, file)
    ((tree.filesBelow root).filter fun entry => isSource settings entry.1)
  exact ⟨earlier, later, smaller, larger⟩

end Project

end SourceOutline
