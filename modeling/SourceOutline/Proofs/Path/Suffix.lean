import Mathlib.Data.List.Basic
import SourceOutline.Proofs.Path

/-!
# The suffix of a path

A name is cut in two at its last dot if something stands on both sides of that dot, and not at all
otherwise. Nothing is lost by this: the two parts in a row are the name, and the first part is empty
only if the name is.

Removing the suffix of a path changes its last component alone, so what is written for the path
without its suffix, and the suffix behind it, are the path as it was written before. This holds
although the component that is left may be one that reading the path again would drop.
-/

namespace SourceOutline

/-- What is written last may be written behind the others. -/
theorem Text.join_concat_append (separator : Char) (parts : List String) (last behind : String) :
    join separator (parts ++ [last ++ behind]) = join separator (parts ++ [last]) ++ behind := by
  by_cases empty : parts = []
  · rw [empty, List.nil_append, List.nil_append, join_singleton, join_singleton]
  · apply String.toList_injective
    rw [toList_join_append separator empty (List.cons_ne_nil _ _), String.toList_append,
      toList_join_append separator empty (List.cons_ne_nil _ _), join_singleton, join_singleton,
      String.toList_append, List.append_assoc, List.cons_append]

namespace Path

/-- The suffix of a name goes from its last dot to the end if something stands on both sides of
that dot; it is empty otherwise. -/
inductive HasSuffix (name : String) : String → Prop
  | dotted {stem extension : List Char} : name.toList = stem ++ '.' :: extension →
      stem ≠ [] → extension ≠ [] → '.' ∉ extension →
      HasSuffix name (String.ofList ('.' :: extension))
  | plain : (∀ stem extension, name.toList = stem ++ '.' :: extension → '.' ∉ extension →
      stem = [] ∨ extension = []) → HasSuffix name ""

section

variable {name suffix : String}

theorem dotless_reverse {chars : List Char} (dotless : '.' ∉ chars) :
    ∀ c ∈ chars.reverse, (c != '.') = true := by
  intro c member
  rw [bne_iff_ne]
  rintro rfl
  exact dotless (List.mem_reverse.mp member)

theorem splitName_of_dot {stem extension : List Char}
    (written : name.toList = stem ++ '.' :: extension) (last : '.' ∉ extension) :
    splitName name =
      if extension = [] ∨ stem = [] then (name, "")
      else (String.ofList stem, String.ofList ('.' :: extension)) := by
  have backward : name.toList.reverse = extension.reverse ++ '.' :: stem.reverse := by
    simp [written]
  simp only [splitName, backward, List.takeWhile_append_of_pos (dotless_reverse last),
    List.dropWhile_append_of_pos (dotless_reverse last)]
  by_cases oneSided : extension = [] ∨ stem = []
  · simp [oneSided]
  · simp [oneSided]

theorem splitName_of_dotless (dotless : '.' ∉ name.toList) : splitName name = (name, "") := by
  have nothing : name.toList.reverse.dropWhile (· != '.') = [] := by
    rw [← List.append_nil name.toList.reverse,
      List.dropWhile_append_of_pos (dotless_reverse dotless)]
    rfl
  simp only [splitName, nothing]

theorem exists_last_dot (dotted : '.' ∈ name.toList) :
    ∃ stem extension, name.toList = stem ++ '.' :: extension ∧ '.' ∉ extension := by
  obtain ⟨extension, stem, backward, last⟩ :=
    List.eq_append_cons_of_mem (List.mem_reverse.mpr dotted)
  refine ⟨stem.reverse, extension.reverse, ?_, by simpa using last⟩
  rw [← List.reverse_reverse name.toList, backward]
  simp

/-- All that cutting a name does. -/
theorem splitName_cases (name : String) :
    splitName name = (name, "") ∨
      ∃ stem extension, name.toList = stem ++ '.' :: extension ∧ stem ≠ [] ∧ extension ≠ [] ∧
        '.' ∉ extension ∧
        splitName name = (String.ofList stem, String.ofList ('.' :: extension)) := by
  by_cases dotted : '.' ∈ name.toList
  · obtain ⟨stem, extension, written, last⟩ := exists_last_dot dotted
    have cut := splitName_of_dot written last
    by_cases oneSided : extension = [] ∨ stem = []
    · exact .inl (cut.trans (if_pos oneSided))
    · rw [if_neg oneSided] at cut
      rw [not_or] at oneSided
      exact .inr ⟨stem, extension, written, oneSided.2, oneSided.1, last, cut⟩
  · exact .inl (splitName_of_dotless dotted)

/-- Cutting a name gives its suffix. -/
theorem hasSuffix_iff : HasSuffix name suffix ↔ (splitName name).2 = suffix := by
  constructor
  · intro has
    cases has with
    | dotted written before behind last =>
        rw [splitName_of_dot written last, if_neg (by simp [before, behind])]
    | plain oneSided =>
        rcases splitName_cases name with whole | ⟨stem, extension, written, before, behind, last, -⟩
        · rw [whole]
        · exact absurd (oneSided stem extension written last) (by simp [before, behind])
  · rintro rfl
    rcases splitName_cases name with whole | ⟨stem, extension, written, before, behind, last, cut⟩
    · rw [whole]
      refine .plain fun stem extension written last => ?_
      by_contra between
      rw [splitName_of_dot written last, if_neg (mt Or.symm between)] at whole
      simpa using congrArg (fun cut => cut.2.toList) whole
    · rw [cut]
      exact .dotted written before behind last

/-- The two parts of a name in a row are the name. -/
theorem splitName_append (name : String) : (splitName name).1 ++ (splitName name).2 = name := by
  rcases splitName_cases name with whole | ⟨stem, extension, written, -, -, -, cut⟩
  · rw [whole, String.append_empty]
  · rw [cut, ← String.ofList_append, ← written, String.ofList_toList]

theorem stem_ne_empty (nonempty : name ≠ "") : (splitName name).1 ≠ "" := by
  rcases splitName_cases name with whole | ⟨stem, extension, -, before, -, -, cut⟩
  · rwa [whole]
  · rw [cut]
    exact fun empty => before (String.ofList_eq_empty_iff.mp empty)

end

variable {path : Path}

theorem IsName.ne_empty {part : String} (isName : IsName part) : part ≠ "" :=
  fun empty => isName.toList_ne_nil (String.toList_eq_nil_iff.mpr empty)

/-- A path with components is written after its anchor, be they names or not. -/
theorem text_concat (anchor : Anchor) (above : List String) {last : String} (nonempty : last ≠ "") :
    text ⟨anchor, above ++ [last]⟩ = anchor.text ++ Text.join '/' (above ++ [last]) := by
  have same := Text.join_concat_append '/' above "" last
  rw [String.empty_append] at same
  refine if_neg fun nothing => nonempty ?_
  rw [same, ← String.append_assoc] at nothing
  exact (String.append_eq_empty_iff.mp nothing).2

/-- A path is the anchor alone, or it has a last component. -/
theorem IsNormal.cases_last (normal : path.IsNormal) :
    path.parts = [] ∨ ∃ above last, path.parts = above ++ [last] ∧ last ≠ "" := by
  rcases List.eq_nil_or_concat' path.parts with empty | ⟨above, last, split⟩
  · exact .inl empty
  · refine .inr ⟨above, last, split, (normal last ?_).ne_empty⟩
    rw [split]
    exact List.mem_append_right _ List.mem_cons_self

section

variable {anchor : Anchor} {above : List String} {last : String}

theorem withoutSuffix_concat :
    withoutSuffix ⟨anchor, above ++ [last]⟩ = ⟨anchor, above ++ [(splitName last).1]⟩ := by
  simp [withoutSuffix]

theorem suffix_concat : suffix ⟨anchor, above ++ [last]⟩ = (splitName last).2 := by
  simp [suffix, name]

end

theorem withoutSuffix_of_nil (empty : path.parts = []) :
    path.withoutSuffix = path ∧ path.suffix = "" := by
  obtain ⟨anchor, parts⟩ := path
  obtain rfl : parts = [] := empty
  exact ⟨rfl, rfl⟩

/-- What is written for a path is written for the path without its suffix, and then its suffix. -/
theorem IsNormal.text_eq_append (normal : path.IsNormal) :
    path.text = path.withoutSuffix.text ++ path.suffix := by
  rcases normal.cases_last with empty | ⟨above, last, split, nonempty⟩
  · obtain ⟨same, none⟩ := withoutSuffix_of_nil empty
    rw [same, none, String.append_empty]
  · obtain ⟨anchor, parts⟩ := path
    obtain rfl : parts = above ++ [last] := split
    rw [withoutSuffix_concat, suffix_concat, text_concat anchor above nonempty,
      text_concat anchor above (stem_ne_empty nonempty), String.append_assoc,
      ← Text.join_concat_append, splitName_append]

theorem name_eq_append (path : Path) : path.name = path.withoutSuffix.name ++ path.suffix := by
  rcases List.eq_nil_or_concat' path.parts with empty | ⟨above, last, split⟩
  · obtain ⟨same, none⟩ := withoutSuffix_of_nil empty
    rw [same, none, String.append_empty]
  · obtain ⟨anchor, parts⟩ := path
    obtain rfl : parts = above ++ [last] := split
    rw [withoutSuffix_concat, suffix_concat]
    simp [name, splitName_append]

theorem parent_withoutSuffix (path : Path) : path.withoutSuffix.parent = path.parent := by
  rcases List.eq_nil_or_concat' path.parts with empty | ⟨above, last, split⟩
  · rw [(withoutSuffix_of_nil empty).1]
  · obtain ⟨anchor, parts⟩ := path
    obtain rfl : parts = above ++ [last] := split
    rw [withoutSuffix_concat]
    simp [parent]

/-- The path of a name in a directory; no name is the directory itself. -/
def child (directory : Path) (name : String) : Path :=
  if name = "" then directory else { directory with parts := directory.parts ++ [name] }

/-- A path is its name in its parent. -/
theorem IsNormal.child_parent (normal : path.IsNormal) : path.parent.child path.name = path := by
  rcases normal.cases_last with empty | ⟨above, last, split, nonempty⟩
  · obtain ⟨anchor, parts⟩ := path
    obtain rfl : parts = [] := empty
    rfl
  · obtain ⟨anchor, parts⟩ := path
    obtain rfl : parts = above ++ [last] := split
    simp [child, Path.parent, name, nonempty]

end Path

end SourceOutline
