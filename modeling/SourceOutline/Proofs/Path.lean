import SourceOutline.Path
import SourceOutline.Proofs.QualifiedName

/-!
# Writing and reading paths

A path that was read consists of names: components that are neither empty nor single dots and hold
no slash. Such a path is read back as it was when it is written down, whatever its anchor, so two of
them that are written alike are the same.
-/

namespace SourceOutline.Path

/-- A component that reading a path neither drops nor cuts. -/
structure IsName (part : String) : Prop where
  kept : isPart part = true
  unslashed : '/' ∉ part.toList

theorem IsName.toList_ne_nil {part : String} (isName : IsName part) : part.toList ≠ [] := by
  intro empty
  have kept := isName.kept
  rw [String.toList_eq_nil_iff.mp empty] at kept
  exact absurd kept (by decide)

/-- All components are names. -/
def IsNormal (path : Path) : Prop := ∀ part ∈ path.parts, IsName part

theorem isNormal_ofText (text : String) : (ofText text).IsNormal := by
  intro part member
  obtain ⟨among, kept⟩ := List.mem_filter.mp member
  exact ⟨kept, Text.not_mem_of_mem_segments among⟩

variable {path : Path}

theorem IsNormal.parent (normal : path.IsNormal) : path.parent.IsNormal :=
  fun part member => normal part (List.dropLast_subset _ member)

/-- The slashes in front are the anchor, if the text behind them does not begin with another. -/
theorem anchorOf_append (anchor : Anchor) {text : String} (stops : text.toList.head? ≠ some '/') :
    anchorOf (anchor.text ++ text) = anchor := by
  have none : text.toList.takeWhile (· == '/') = [] := by
    cases begins : text.toList with
    | nil => rfl
    | cons c rest =>
        rw [begins] at stops
        exact List.takeWhile_cons_of_neg (by simpa using stops)
  cases anchor <;> simp [anchorOf, Anchor.text, none]

/-- The anchor is no component. -/
theorem parts_ofText_append (anchor : Anchor) (text : String) :
    (ofText (anchor.text ++ text)).parts = (ofText text).parts := by
  have behindSlash (rest : String) : (ofText ("/" ++ rest)).parts = (ofText rest).parts := by
    have cut : Text.segments '/' ("/" ++ rest) = Text.segments '/' "" ++ Text.segments '/' rest :=
      Text.segments_append_cons (by simp)
    rw [ofText, cut, List.filter_append]
    rfl
  cases anchor with
  | here => exact congrArg (fun text => (ofText text).parts) String.empty_append
  | slash => exact behindSlash text
  | twoSlashes =>
      have twice : Anchor.twoSlashes.text ++ text = "/" ++ ("/" ++ text) := by
        apply String.toList_injective
        simp [Anchor.text]
      rw [twice, behindSlash, behindSlash]

/-- Joined names are cut where they were joined. -/
theorem IsNormal.parts_ofText_join (normal : path.IsNormal) :
    (ofText (Text.join '/' path.parts)).parts = path.parts := by
  by_cases empty : path.parts = []
  · rw [empty]
    decide
  · have cut := Text.segments_join '/' path.parts empty fun part member =>
      (normal part member).unslashed
    rw [ofText, cut]
    exact List.filter_eq_self.mpr fun part member => (normal part member).kept

theorem IsNormal.head?_join_ne (normal : path.IsNormal) :
    (Text.join '/' path.parts).toList.head? ≠ some '/' := by
  cases names : path.parts with
  | nil => decide
  | cons first rest =>
      have isName : IsName first := normal first (names ▸ List.mem_cons_self)
      rw [Text.head?_join '/' rest isName.toList_ne_nil]
      exact fun slash => isName.unslashed (List.mem_of_head? slash)

/-- Only the path without anchor and components is written as a dot. -/
theorem IsNormal.text_eq (normal : path.IsNormal) (somewhere : path ≠ ⟨.here, []⟩) :
    path.text = path.anchor.text ++ Text.join '/' path.parts := by
  refine if_neg fun nothing => somewhere ?_
  have parts := normal.parts_ofText_join
  have anchor := anchorOf_append path.anchor normal.head?_join_ne
  rw [← parts_ofText_append path.anchor, nothing] at parts
  rw [nothing] at anchor
  cases path
  cases anchor
  cases parts
  rfl

/-- A path of names is read back as it was. -/
theorem IsNormal.ofText_text (normal : path.IsNormal) : ofText path.text = path := by
  by_cases nowhere : path = ⟨.here, []⟩
  · rw [nowhere]
    decide
  · rw [normal.text_eq nowhere]
    have anchor := anchorOf_append path.anchor normal.head?_join_ne
    have parts := (parts_ofText_append path.anchor _).trans normal.parts_ofText_join
    exact congrArg₂ Path.mk anchor parts

end SourceOutline.Path
