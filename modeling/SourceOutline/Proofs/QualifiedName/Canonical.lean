import SourceOutline.Proofs.QualifiedName

/-!
# Splitting and writing again

A text that is split and written again is in its canonical form: it has the same segments as
before, and splitting it changes nothing any more. Without a part in double quotes at the beginning
the canonical form is the text itself. With one, exactly one dot stands behind the quoted part, or
none if nothing follows.

Only the quoted part may hold dots, and it does so only if its quotes are closed; an unclosed quote
is an ordinary character of the first name.
-/

namespace SourceOutline

namespace QualifiedName

/-- A part in double quotes, which hold no quote. -/
def IsQuoted (part : String) : Prop :=
  ∃ inner : List Char, '"' ∉ inner ∧ part.toList = '"' :: inner ++ ['"']

/-- A text without a quoted part at the beginning is written as it was. -/
theorem text_split_of_not_beginsQuoted {text : String} (unquoted : ¬ BeginsQuoted text) :
    QualifiedName.text ⟨split text⟩ = text := by
  rw [split_of_not_beginsQuoted unquoted]
  exact Text.join_segments '.' text

section

variable {text : String} {inner dots behind : List Char}

/-- A text with a quoted part at the beginning is written with one dot behind that part, or without
any if the part is all there is. -/
theorem text_split_of_quoted (free : '"' ∉ inner) (onlyDots : ∀ c ∈ dots, c = '.')
    (stops : behind.head? ≠ some '.')
    (written : text.toList = '"' :: inner ++ '"' :: (dots ++ behind)) :
    (QualifiedName.text ⟨split text⟩).toList =
      '"' :: inner ++ '"' :: if behind = [] then [] else '.' :: behind := by
  rw [split_of_quoted free onlyDots stops written, QualifiedName.text]
  by_cases nothing : behind = []
  · simp [nothing, Text.join_singleton]
  · obtain ⟨first, rest, cut⟩ := List.exists_cons_of_ne_nil
      (Text.segments_ne_nil '.' (String.ofList behind))
    have again := Text.join_segments '.' (String.ofList behind)
    rw [cut] at again
    rw [if_neg nothing, if_neg nothing, cut, Text.toList_join_cons_cons, again]
    simp

end

theorem undotted_of_mem_split {text part : String} {rest : List String}
    (cut : split text = part :: rest) :
    (∀ name ∈ rest, '.' ∉ name.toList) ∧ ('.' ∈ part.toList → IsQuoted part) := by
  by_cases quoted : BeginsQuoted text
  · obtain ⟨inner, dots, behind, free, onlyDots, stops, written⟩ := quoted.exists_parts
    rw [split_of_quoted free onlyDots stops written] at cut
    obtain ⟨rfl, rfl⟩ := List.cons.inj cut
    refine ⟨fun name member => ?_, fun _ => ⟨inner, free, String.toList_ofList⟩⟩
    split at member
    · cases member
    · exact Text.not_mem_of_mem_segments member
  · rw [split_of_not_beginsQuoted quoted] at cut
    have free : ∀ name ∈ part :: rest, '.' ∉ name.toList := by
      intro name member
      rw [← cut] at member
      exact Text.not_mem_of_mem_segments member
    exact ⟨fun name member => free name (List.mem_cons_of_mem _ member),
      fun dotted => absurd dotted (free part List.mem_cons_self)⟩

/-- The canonical form has the segments of the text. -/
theorem split_text_split (text : String) :
    split (QualifiedName.text ⟨split text⟩) = split text := by
  by_cases quoted : BeginsQuoted text
  · obtain ⟨inner, dots, behind, free, onlyDots, stops, written⟩ := quoted.exists_parts
    have again := text_split_of_quoted free onlyDots stops written
    rw [split_of_quoted free onlyDots stops written] at again ⊢
    -- One dot at most is left behind the quoted part, and splitting drops it like all the others.
    by_cases nothing : behind = []
    · have bare : '"' :: inner ++ '"' :: (if behind = [] then [] else '.' :: behind) =
          '"' :: inner ++ '"' :: ([] ++ behind) := by simp [nothing]
      exact split_of_quoted free (by simp) stops (again.trans bare)
    · have dotted : '"' :: inner ++ '"' :: (if behind = [] then [] else '.' :: behind) =
          '"' :: inner ++ '"' :: (['.'] ++ behind) := by simp [nothing]
      exact split_of_quoted free (by simp) stops (again.trans dotted)
  · rw [text_split_of_not_beginsQuoted quoted]

/-- Splitting is a canonicalisation. It gives at least one segment, of which only a first one in
double quotes may hold dots; written again, the segments are split into the same segments; and a
text that does not begin with a closed quoted part is written as it was. If it does, nothing changes
but the dots behind that part. -/
theorem split_canonical (text : String) :
    split text ≠ [] ∧
    (∀ part rest, split text = part :: rest →
      (∀ name ∈ rest, '.' ∉ name.toList) ∧ ('.' ∈ part.toList → IsQuoted part)) ∧
    split (QualifiedName.text ⟨split text⟩) = split text ∧
    (¬ BeginsQuoted text → QualifiedName.text ⟨split text⟩ = text) ∧
    ∀ inner dots behind : List Char, '"' ∉ inner → (∀ c ∈ dots, c = '.') →
      behind.head? ≠ some '.' → text.toList = '"' :: inner ++ '"' :: (dots ++ behind) →
        (QualifiedName.text ⟨split text⟩).toList =
          '"' :: inner ++ '"' :: if behind = [] then [] else '.' :: behind := by
  refine ⟨split_ne_nil text, fun part rest => undotted_of_mem_split, split_text_split text,
    text_split_of_not_beginsQuoted, ?_⟩
  intro inner dots behind free onlyDots stops written
  exact text_split_of_quoted free onlyDots stops written

/-- A path in quotes with too many dots behind it, and a quote that is not closed. -/
theorem split_canonical_cases :
    QualifiedName.text ⟨split "\"a.b\"..C."⟩ = "\"a.b\".C." ∧
      split "\"a.b\".C." = split "\"a.b\"..C." ∧
      QualifiedName.text ⟨split "\"a.b"⟩ = "\"a.b" ∧ IsQuoted "\"a.b\"" := by
  obtain ⟨-, parts, again, -, dotted⟩ := split_canonical "\"a.b\"..C."
  obtain ⟨-, -, -, plain, -⟩ := split_canonical "\"a.b"
  have form : QualifiedName.text ⟨split "\"a.b\"..C."⟩ = "\"a.b\".C." :=
    String.toList_injective
      (dotted ['a', '.', 'b'] ['.', '.'] ['C', '.'] (by decide) (by simp) (by decide) rfl)
  refine ⟨form, form ▸ again, plain ?_, ?_⟩
  · rintro ⟨inner, behind, written⟩
    have inside : ['a', '.', 'b'] = inner ++ '"' :: behind := (List.cons.inj written).2
    have quote : '"' ∈ ['a', '.', 'b'] := by
      rw [inside]
      exact List.mem_append_right inner List.mem_cons_self
    exact absurd quote (by decide)
  · exact (parts "\"a.b\"" ["C", ""] (by decide)).2 (by decide)

end QualifiedName

end SourceOutline
