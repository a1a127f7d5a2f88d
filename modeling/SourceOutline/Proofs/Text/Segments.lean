import SourceOutline.Text.Basic

/-!
# Cutting and joining

A text is cut at each of its separators and nowhere else: cut at one of them, its pieces are those
of the two sides, and no piece holds a separator.
-/

namespace SourceOutline.Text

/-- A joined text begins as its first part does. -/
theorem head?_join (separator : Char) {first : String} (rest : List String)
    (nonempty : first.toList ≠ []) :
    (join separator (first :: rest)).toList.head? = first.toList.head? := by
  obtain ⟨c, cs, begins⟩ := List.exists_cons_of_ne_nil nonempty
  rw [toList_join, List.map_cons, begins]
  cases rest with
  | nil => simp
  | cons next rest => simp [List.intercalate_cons_cons]

theorem toList_join_cons_cons (separator : Char) (part next : String) (rest : List String) :
    (join separator (part :: next :: rest)).toList =
      part.toList ++ separator :: (join separator (next :: rest)).toList := by
  simp [toList_join, List.intercalate_cons_cons]

/-- Between two lists of joined texts stands one more separator. -/
theorem toList_join_append (separator : Char) {parts others : List String} (nonempty : parts ≠ [])
    (more : others ≠ []) :
    (join separator (parts ++ others)).toList =
      (join separator parts).toList ++ separator :: (join separator others).toList := by
  induction parts with
  | nil => exact absurd rfl nonempty
  | cons part rest ih =>
      cases rest with
      | nil =>
          obtain ⟨other, others, rfl⟩ := List.exists_cons_of_ne_nil more
          rw [join_singleton]
          exact toList_join_cons_cons separator part other others
      | cons next rest =>
          rw [List.cons_append, List.cons_append, toList_join_cons_cons, ← List.cons_append,
            ih (List.cons_ne_nil _ _), toList_join_cons_cons, List.append_assoc, List.cons_append]

/-- A text is cut at each of its separators. -/
theorem segments_append_cons {separator : Char} {text left right : String}
    (written : text.toList = left.toList ++ separator :: right.toList) :
    segments separator text = segments separator left ++ segments separator right := by
  rw [segments, written, List.splitOn_append_cons_self, List.map_append]
  rfl

/-- Joined parts are cut where they were joined and at the separators that they hold
themselves. -/
theorem segments_join_eq_flatMap (separator : Char) {parts : List String} (nonempty : parts ≠ []) :
    segments separator (join separator parts) = parts.flatMap (segments separator) := by
  induction parts with
  | nil => exact absurd rfl nonempty
  | cons part rest ih =>
      cases rest with
      | nil => rw [join_singleton, List.flatMap_singleton]
      | cons next rest =>
          rw [List.flatMap_cons, ← ih (List.cons_ne_nil _ _)]
          exact segments_append_cons (toList_join_cons_cons separator part next rest)

/-- No piece between separators holds one. -/
theorem not_mem_of_mem_segments {separator : Char} {text part : String}
    (member : part ∈ segments separator text) : separator ∉ part.toList := by
  have each : ∀ chars : List Char, ∀ piece ∈ chars.splitOn separator, separator ∉ piece := by
    intro chars
    induction chars with
    | nil => simp
    | cons c chars ih =>
        rw [List.splitOn_cons_eq_if_modifyHead]
        split
        · simpa using ih
        · next other =>
          obtain ⟨first, rest, cut⟩ :=
            List.exists_cons_of_ne_nil (List.splitOn_ne_nil separator chars)
          rw [cut] at ih ⊢
          have differ : separator ≠ c := fun same => other (beq_iff_eq.mpr same.symm)
          simpa [differ] using ih
  obtain ⟨piece, among, rfl⟩ := List.mem_map.mp member
  rw [String.toList_ofList]
  exact each text.toList piece among

end SourceOutline.Text
