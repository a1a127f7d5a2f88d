import SourceOutline.Proofs.Json.Reader
import SourceOutline.Proofs.Text.Blank
import SourceOutline.Proofs.Text.Segments
import SourceOutline.Settings.Value

/-!
# Lists with commas

A list of items is written by joining them with commas, possibly with blanks around them. Read
as such a list, the text gives the items back. Any text can be read so: what stands between two
commas is an item with blanks around it, or blank and then skipped, and the items that are read are
exactly those that stand there, in their order.

Read as JSON, a text that lists items never gives them back: whatever list the JSON stands for has
less ink than the text, because quotes and brackets are ink too.
-/

namespace SourceOutline.Settings

open Text (ink inkOf)

/-- What an item of a list may be: it is not empty, and has no comma and no blanks around it. -/
structure IsItem (item : String) : Prop where
  nonempty : item ≠ ""
  free : ',' ∉ item.toList
  trimmed : Text.strip item = item

/-- A text lists items if it joins them by commas, possibly with blanks around them. -/
def Lists (items : List String) (text : String) : Prop :=
  ∃ parts, List.Forall₂ Text.Padded items parts ∧ text = Text.join ',' parts

/-- Items that stand in the parts of a text, in their order. What is not blank is an item. -/
inductive Fills : (items parts : List String) → Prop
  | nil : Fills [] []
  | blank {items parts : List String} {part : String}
      (blank : ∀ c ∈ part.toList, Text.isBlank c = true) (rest : Fills items parts) :
      Fills items (part :: parts)
  | item {items parts : List String} {item part : String}
      (isItem : IsItem item) (padded : Text.Padded item part) (rest : Fills items parts) :
      Fills (item :: items) (part :: parts)

/-- A text holds items if these fill what stands between its commas. -/
def Holds (items : List String) (text : String) : Prop :=
  ∃ parts, Fills items parts ∧ text = Text.join ',' parts

section

variable {items parts : List String} {text : String}

theorem isItem_strip {part : String} (free : ',' ∉ part.toList) (visible : Text.strip part ≠ "") :
    IsItem (Text.strip part) :=
  ⟨visible, fun member => free ((Text.padded_strip part).subset member), Text.strip_strip part⟩

theorem Fills.isItem (fills : Fills items parts) : ∀ item ∈ items, IsItem item := by
  induction fills with
  | nil => exact nofun
  | blank _ _ ih => exact ih
  | item isItem _ _ ih => exact List.forall_mem_cons.mpr ⟨isItem, ih⟩

theorem Fills.free (fills : Fills items parts) : ∀ part ∈ parts, ',' ∉ part.toList := by
  induction fills with
  | nil => exact nofun
  | blank blank _ ih =>
      refine List.forall_mem_cons.mpr ⟨fun comma => ?_, ih⟩
      exact absurd (blank ',' comma) (by decide)
  | item isItem padded _ ih =>
      exact List.forall_mem_cons.mpr ⟨padded.not_mem (by decide) isItem.free, ih⟩

/-- The items in the parts are what is left of these, stripped, without the blank ones. -/
theorem Fills.eq_filter (fills : Fills items parts) :
    (parts.map Text.strip).filter (· != "") = items := by
  induction fills with
  | nil => rfl
  | blank blank _ ih =>
      rw [List.map_cons, Text.strip_eq_empty_iff.mpr blank, List.filter_cons_of_neg (by decide), ih]
  | @item _ _ item _ isItem padded _ ih =>
      have kept : (item != "") = true := bne_iff_ne.mpr isItem.nonempty
      rw [List.map_cons, padded.strip_eq, isItem.trimmed, List.filter_cons, if_pos kept, ih]

/-- Parts without commas are filled by what is left of them. -/
theorem fills_filter (free : ∀ part ∈ parts, ',' ∉ part.toList) :
    Fills ((parts.map Text.strip).filter (· != "")) parts := by
  induction parts with
  | nil => exact .nil
  | cons part parts ih =>
      obtain ⟨unbroken, others⟩ := List.forall_mem_cons.mp free
      rw [List.map_cons, List.filter_cons]
      split_ifs with visible
      · exact .item (isItem_strip unbroken (bne_iff_ne.mp visible)) (Text.padded_strip part)
          (ih others)
      · have empty := bne_eq_false_iff_eq.mp (Bool.eq_false_iff.mpr visible)
        exact .blank (Text.strip_eq_empty_iff.mp empty) (ih others)

theorem fills_of_padded (padded : List.Forall₂ Text.Padded items parts)
    (each : ∀ item ∈ items, IsItem item) : Fills items parts := by
  induction padded with
  | nil => exact .nil
  | cons first _ ih =>
      obtain ⟨isItem, others⟩ := List.forall_mem_cons.mp each
      exact .item isItem first (ih others)

theorem commaList_join (fills : Fills items parts) (some : parts ≠ []) :
    commaList (Text.join ',' parts) = items := by
  rw [commaList, Text.segments_join ',' parts some fills.free, fills.eq_filter]

/-- The items that are read from a text are exactly those that it holds. -/
theorem commaList_eq_iff : commaList text = items ↔ Holds items text := by
  constructor
  · rintro rfl
    exact ⟨Text.segments ',' text, fills_filter fun part => Text.not_mem_of_mem_segments,
      (Text.join_segments ',' text).symm⟩
  · rintro ⟨parts, fills, rfl⟩
    cases fills with
    | nil => rfl
    | blank blank rest => exact commaList_join (.blank blank rest) (List.cons_ne_nil _ _)
    | item isItem padded rest =>
        exact commaList_join (.item isItem padded rest) (List.cons_ne_nil _ _)

theorem isItem_of_mem_commaList (text : String) : ∀ item ∈ commaList text, IsItem item := by
  obtain ⟨parts, fills, -⟩ := commaList_eq_iff.mp (Eq.refl (commaList text))
  exact fills.isItem

theorem IsItem.isTight {item : String} (isItem : IsItem item) : Text.IsTight item :=
  isItem.trimmed ▸ Text.isTight_strip item

theorem Lists.holds (lists : Lists items text) (each : ∀ item ∈ items, IsItem item) :
    Holds items text := by
  obtain ⟨parts, padded, written⟩ := lists
  exact ⟨parts, fills_of_padded padded each, written⟩

/-- Items that are joined by bare commas are listed. -/
theorem lists_join (items : List String) : Lists items (Text.join ',' items) :=
  ⟨items, List.forall₂_same.mpr fun _ _ => ⟨[], [], by simp, nofun, nofun⟩, rfl⟩

theorem commaList_of_lists (lists : Lists items text) (some : items ≠ [])
    (each : ∀ item ∈ items, IsItem item) : commaList text = items := by
  obtain ⟨parts, padded, rfl⟩ := lists
  refine commaList_join (fills_of_padded padded each) ?_
  rintro rfl
  cases padded
  exact some rfl

/-- The items of a text hold all of its ink. -/
theorem inkOf_commaList (text : String) : inkOf (commaList text) = ink text.toList := by
  rw [← Text.inkOf_segments, commaList]
  induction Text.segments ',' text with
  | nil => rfl
  | cons segment segments ih =>
      rw [List.map_cons, List.filter_cons, Text.inkOf_cons, ← Text.ink_strip segment]
      split_ifs with kept
      · rw [Text.inkOf_cons, ih]
      · rw [ih, bne_eq_false_iff_eq.mp (Bool.eq_false_iff.mpr kept)]
        simp

theorem Lists.ink_eq (lists : Lists items text) (some : items ≠ [])
    (each : ∀ item ∈ items, IsItem item) : ink text.toList = inkOf items := by
  rw [← commaList_of_lists lists some each, inkOf_commaList]

/-- What is no list is told as a problem. -/
theorem ne_nil_of_readStrings_error {json : Json} {problems : List Problem}
    (failed : readStrings json = .error problems) : problems ≠ [] := by
  cases json with
  | string text => cases failed
  | array values =>
      unfold readStrings at failed
      dsimp only at failed
      split at failed
      · cases failed
      · next found =>
        cases failed
        exact found
  | null | bool _ | int _ | float _ | object _ =>
      cases failed
      exact List.cons_ne_nil _ _

theorem itemProblems_strings (items : List String) : itemProblems (items.map .string) = [] := by
  rw [itemProblems, List.filterMap_eq_nil_iff]
  intro entry member
  obtain ⟨index, bound, rfl⟩ := List.mem_mapIdx.mp member
  dsimp only
  rw [List.getElem_map]

/-- A list of strings is read as it is. -/
theorem readStrings_strings (items : List String) : readStrings (.strings items) = .ok items := by
  unfold readStrings Json.strings
  dsimp only
  rw [itemProblems_strings, List.filterMap_map]
  exact congrArg Except.ok List.filterMap_some

/-- The strings of an array hold the ink that its items need. -/
theorem inkOf_strings (values : List Json) :
    inkOf (values.filterMap fun value =>
      match value with
      | .string text => some text
      | _ => none) = (values.map Json.itemInk).sum := by
  induction values with
  | nil => rfl
  | cons value values ih =>
      rw [List.map_cons, List.sum_cons, ← ih]
      cases value with
      | string text => rfl
      | null | bool _ | int _ | float _ | array _ | object _ => exact (Nat.zero_add _).symm

/-- A list that is read from a value has less ink than the value needs. -/
theorem inkOf_lt_of_readStrings {json : Json} (read : readStrings json = .ok items) :
    inkOf items < json.neededInk := by
  cases json with
  | string text =>
      cases read
      rw [inkOf_commaList]
      exact Nat.lt_succ_self _
  | array values =>
      unfold readStrings at read
      dsimp only at read
      split at read
      · cases read
        exact Nat.lt_succ_of_le (inkOf_strings values).le
      · cases read
  | null | bool _ | int _ | float _ | object _ => cases read

/-- A text that lists items stands for another list, or for none, if it is read as JSON. -/
theorem Lists.readStrings_ne {json : Json} (lists : Lists items text) (some : items ≠ [])
    (each : ∀ item ∈ items, IsItem item) (parsed : Json.parse text = .ok json) :
    readStrings json ≠ .ok items := by
  intro read
  have less := inkOf_lt_of_readStrings read
  have taken := (Json.parse_takes parsed).1
  have same := lists.ink_eq some each
  omega

end

end SourceOutline.Settings
