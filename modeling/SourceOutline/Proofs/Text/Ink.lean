import Mathlib.Algebra.GroupWithZero.Nat
import Mathlib.Data.List.TakeWhile
import SourceOutline.Text.Basic

/-!
# The ink of a text

The ink of a text is what blanks and commas add nothing to. Taking the blanks off its ends, or
cutting it at its commas, leaves all of it, so the items of a list that is written with commas
hold exactly the ink of the text.
-/

namespace SourceOutline.Text

/-- Whether a character is neither a blank nor a comma. -/
def isInk (c : Char) : Bool := c != ',' && !isBlank c

/-- How many characters of a text are ink. -/
def ink (cs : List Char) : Nat := cs.countP isInk

@[simp] theorem ink_nil : ink [] = 0 := rfl

@[simp] theorem ink_cons (c : Char) (cs : List Char) :
    ink (c :: cs) = ink cs + if isInk c then 1 else 0 := List.countP_cons

theorem ink_cons_le (c : Char) (cs : List Char) : ink (c :: cs) ≤ ink cs + 1 := by
  rw [ink_cons]
  split <;> omega

theorem ink_le_cons (c : Char) (cs : List Char) : ink cs ≤ ink (c :: cs) := by
  rw [ink_cons]
  omega

@[simp] theorem ink_append (left right : List Char) : ink (left ++ right) = ink left + ink right :=
  List.countP_append

@[simp] theorem ink_reverse (cs : List Char) : ink cs.reverse = ink cs := List.countP_reverse

theorem ink_eq_zero {cs : List Char} (blank : ∀ c ∈ cs, isInk c = false) : ink cs = 0 :=
  List.countP_eq_zero.mpr fun c member => by simp [blank c member]

/-- A run of a class without ink may be dropped in front. -/
theorem ink_dropWhile {p : Char → Bool} (inkless : ∀ c, p c = true → isInk c = false)
    (cs : List Char) : ink (cs.dropWhile p) = ink cs := by
  have run : ink (cs.takeWhile p) = 0 :=
    ink_eq_zero fun c member => inkless c (List.mem_takeWhile_imp member)
  have parts : ink (cs.takeWhile p ++ cs.dropWhile p) = ink cs :=
    congrArg ink List.takeWhile_append_dropWhile
  rwa [ink_append, run, Nat.zero_add] at parts

theorem ink_drop_le (count : Nat) (cs : List Char) : ink (cs.drop count) ≤ ink cs :=
  (List.drop_sublist count cs).countP_le

theorem ink_strip (text : String) : ink (strip text).toList = ink text.toList := by
  have inkless : ∀ c, isBlank c = true → isInk c = false := fun c blank => by simp [isInk, blank]
  rw [strip, String.toList_ofList, trimBy, ink_reverse, ink_dropWhile inkless, ink_reverse,
    ink_dropWhile inkless]

/-- How much ink some texts have together. -/
def inkOf (texts : List String) : Nat := (texts.map fun text => ink text.toList).sum

@[simp] theorem inkOf_nil : inkOf [] = 0 := rfl

@[simp] theorem inkOf_cons (text : String) (texts : List String) :
    inkOf (text :: texts) = ink text.toList + inkOf texts := rfl

theorem ink_join (parts : List String) : ink (join ',' parts).toList = inkOf parts := by
  rw [toList_join]
  induction parts with
  | nil => rfl
  | cons part parts ih =>
      cases parts with
      | nil => simp
      | cons next parts =>
          rw [List.map_cons, List.map_cons, List.intercalate_cons_cons, ← List.map_cons, ink_append,
            ink_append, ih, inkOf_cons]
          simp [isInk]

/-- Cutting a text at its commas loses no ink. -/
theorem inkOf_segments (text : String) : inkOf (segments ',' text) = ink text.toList := by
  rw [← ink_join, join_segments]

end SourceOutline.Text
