import Mathlib.Data.List.DropRight
import Mathlib.Data.List.Forall2
import Mathlib.Data.List.TakeWhile
import SourceOutline.Text.Basic

/-!
# Names between blanks

Blanks at either end of a text disappear when the text is stripped, and nothing else does: what is
left has no blank at its ends. So a dotted name may have blanks around its dots: its segments are
then the plain names once they are stripped.
-/

namespace SourceOutline.Text

/-- What is removed at both ends may be put there before. -/
theorem trimBy_append {p : Char → Bool} {left cs right : List Char}
    (before : ∀ c ∈ left, p c = true) (after : ∀ c ∈ right, p c = true) :
    trimBy p (left ++ cs ++ right) = trimBy p cs := by
  have behind : right.reverse.dropWhile p = [] :=
    List.dropWhile_eq_nil_iff.mpr fun c member => after c (List.mem_reverse.mp member)
  rw [trimBy, trimBy, List.append_assoc, List.dropWhile_append,
    List.dropWhile_eq_nil_iff.mpr before, List.isEmpty_nil, if_pos rfl, List.dropWhile_append]
  cases rest : cs.dropWhile p with
  | nil => simp [List.dropWhile_eq_nil_iff.mpr after]
  | cons c rest => simp [List.dropWhile_append, behind]

section

variable (p : Char → Bool) (cs : List Char)

/-- Nothing but the class is removed. -/
theorem exists_trimBy_split :
    ∃ left right, cs = left ++ trimBy p cs ++ right ∧
      (∀ c ∈ left, p c = true) ∧ ∀ c ∈ right, p c = true := by
  refine ⟨cs.takeWhile p, ((cs.dropWhile p).reverse.takeWhile p).reverse, ?_,
    fun c member => List.mem_takeWhile_imp member,
    fun c member => List.mem_takeWhile_imp (List.mem_reverse.mp member)⟩
  rw [trimBy, List.append_assoc, ← List.reverse_append, List.takeWhile_append_dropWhile,
    List.reverse_reverse, List.takeWhile_append_dropWhile]

theorem head?_dropWhile : ∀ c ∈ (cs.dropWhile p).head?, p c = false := by
  intro c begins
  have stops := List.head?_dropWhile_not p cs
  rwa [begins] at stops

theorem head?_trimBy : ∀ c ∈ (trimBy p cs).head?, p c = false := by
  intro c begins
  obtain ⟨rest, written⟩ := List.head?_eq_some_iff.mp begins
  obtain ⟨behind, whole⟩ : trimBy p cs <+: cs.dropWhile p := List.rdropWhile_prefix p _
  apply head?_dropWhile p cs
  rw [← whole, written]
  rfl

theorem getLast?_trimBy : ∀ c ∈ (trimBy p cs).getLast?, p c = false := by
  rw [trimBy, List.getLast?_reverse]
  exact head?_dropWhile p _

end

/-- A text without a blank at either end. -/
structure IsTight (text : String) : Prop where
  first : ∀ c ∈ text.toList.head?, isBlank c = false
  last : ∀ c ∈ text.toList.getLast?, isBlank c = false

theorem isTight_strip (text : String) : IsTight (strip text) := by
  constructor
  · rw [strip, String.toList_ofList]
    exact head?_trimBy isBlank text.toList
  · rw [strip, String.toList_ofList]
    exact getLast?_trimBy isBlank text.toList

/-- A name with blanks around it. -/
def Padded (name text : String) : Prop :=
  ∃ left right : List Char, text.toList = left ++ name.toList ++ right ∧
    (∀ c ∈ left, isBlank c = true) ∧ ∀ c ∈ right, isBlank c = true

theorem Padded.strip_eq {name text : String} (padded : Padded name text) :
    strip text = strip name := by
  obtain ⟨left, right, split, before, after⟩ := padded
  rw [strip, split, trimBy_append before after, strip]

/-- A text is its stripped form with blanks around it. -/
theorem padded_strip (text : String) : Padded (strip text) text := by
  obtain ⟨left, right, split, before, after⟩ := exists_trimBy_split isBlank text.toList
  refine ⟨left, right, ?_, before, after⟩
  rwa [strip, String.toList_ofList]

theorem strip_strip (text : String) : strip (strip text) = strip text :=
  (padded_strip text).strip_eq.symm

theorem strip_eq_empty_iff {text : String} :
    strip text = "" ↔ ∀ c ∈ text.toList, isBlank c = true := by
  constructor
  · intro empty
    obtain ⟨left, right, split, before, after⟩ := padded_strip text
    rw [empty, String.toList_empty, List.append_nil] at split
    intro c member
    rw [split] at member
    exact (List.mem_append.mp member).elim (before c) (after c)
  · intro blank
    have padded : Padded "" text := ⟨text.toList, [], by simp, blank, nofun⟩
    exact padded.strip_eq

theorem Padded.subset {name text : String} (padded : Padded name text) :
    name.toList ⊆ text.toList := by
  obtain ⟨left, right, split, -, -⟩ := padded
  rw [split]
  exact List.subset_append_of_subset_left _ (List.subset_append_right _ _)

/-- Blanks around a name bring in no separator. -/
theorem Padded.not_mem {name text : String} (padded : Padded name text) {separator : Char}
    (visible : isBlank separator = false) (free : separator ∉ name.toList) :
    separator ∉ text.toList := by
  obtain ⟨left, right, split, before, after⟩ := padded
  intro member
  rw [split, List.mem_append, List.mem_append] at member
  rcases member with (inLeft | inName) | inRight
  · exact absurd (before _ inLeft) (by simp [visible])
  · exact free inName
  · exact absurd (after _ inRight) (by simp [visible])

theorem not_mem_of_padded {names parts : List String} (padded : List.Forall₂ Padded names parts)
    {separator : Char} (visible : isBlank separator = false)
    (free : ∀ name ∈ names, separator ∉ name.toList) : ∀ part ∈ parts, separator ∉ part.toList := by
  induction padded with
  | nil => exact nofun
  | @cons name part names parts first _ ih =>
      intro other member
      rcases List.mem_cons.mp member with rfl | later
      · exact first.not_mem visible (free name List.mem_cons_self)
      · exact ih (fun name among => free name (List.mem_cons_of_mem _ among)) other later

/-- The segments of names that are joined with blanks around them are the names, up to
blanks. -/
theorem segments_join_of_padded {names parts : List String} {separator : Char}
    (padded : List.Forall₂ Padded names parts) (nonempty : names ≠ [])
    (visible : isBlank separator = false) (free : ∀ name ∈ names, separator ∉ name.toList) :
    (segments separator (join separator parts)).map strip = names.map strip := by
  have unbroken := not_mem_of_padded padded visible free
  have some : parts ≠ [] := by
    rintro rfl
    cases padded
    exact nonempty rfl
  rw [segments_join separator parts some unbroken]
  clear nonempty free unbroken some
  induction padded with
  | nil => rfl
  | cons first _ ih => rw [List.map_cons, List.map_cons, first.strip_eq, ih]

/-- A text spells names if it joins them by dots, possibly with blanks around the names. -/
def Spells (names : List String) (text : String) : Prop :=
  ∃ parts, List.Forall₂ Padded names parts ∧ text = join '.' parts

/-- The segments of a text that spells names are the names, up to blanks. -/
theorem Spells.segments_eq {names : List String} {text : String} (spells : Spells names text)
    (nonempty : names ≠ []) (undotted : ∀ name ∈ names, '.' ∉ name.toList) :
    (segments '.' text).map strip = names.map strip := by
  obtain ⟨parts, padded, rfl⟩ := spells
  exact segments_join_of_padded padded nonempty (by decide) undotted

/-- A name without dots is its own only segment. -/
theorem segments_of_undotted {name : String} (undotted : '.' ∉ name.toList) :
    segments '.' name = [name] := by
  have single := segments_join '.' [name] (List.cons_ne_nil _ _) (by simpa using undotted)
  rwa [join_singleton] at single

end SourceOutline.Text
