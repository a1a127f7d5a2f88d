import Mathlib.Data.List.Basic
import Mathlib.Data.List.TakeWhile
import SourceOutline.Proofs.Text.Segments
import SourceOutline.QualifiedName
import SourceOutline.Text.Literal

/-!
# Writing and splitting qualified names

A qualified name is written by joining its names with dots, a module name standing in double
quotes in front. Splitting the text again gives the names back: dots inside the quotes do not
count, and neither names nor module are confused as long as no name begins with a quote and
the module name holds none.
-/

namespace SourceOutline

/-- A name that joining and splitting leave alone. -/
structure IsPlainName (name : String) : Prop where
  nonempty : name.toList ≠ []
  undotted : '.' ∉ name.toList
  unquoted : name.toList.head? ≠ some '"'

instance (name : String) : Decidable (IsPlainName name) :=
  decidable_of_iff
    (name.toList ≠ [] ∧ '.' ∉ name.toList ∧ name.toList.head? ≠ some '"')
    ⟨fun ⟨nonempty, undotted, unquoted⟩ => ⟨nonempty, undotted, unquoted⟩,
      fun plain => ⟨plain.nonempty, plain.undotted, plain.unquoted⟩⟩

namespace Text

/-- A quote at each end comes off. -/
theorem unquote_of_quoted {quote : Char} {content text : String} (quotes : isQuote quote = true)
    (written : text.toList = quote :: content.toList ++ [quote]) : unquote text = content := by
  obtain ⟨next, rest, split⟩ := List.exists_cons_of_ne_nil
    (show content.toList ++ [quote] ≠ [] by simp)
  have last : (next :: rest).getLast? = some quote := by rw [← split, List.getLast?_concat]
  have inner : (next :: rest).dropLast = content.toList := by rw [← split, List.dropLast_concat]
  rw [unquote, written, List.cons_append, split]
  simp [last, inner, quotes]

theorem unquote_quoted (text : String) : unquote ("\"" ++ text ++ "\"") = text :=
  unquote_of_quoted (show isQuote '"' = true by decide) (by simp)

/-- A text that loses its quotes had one at each end. -/
theorem eq_quoted_of_unquote_ne {text : String} (quoted : unquote text ≠ text) :
    ∃ quote, isQuote quote = true ∧ text.toList = quote :: (unquote text).toList ++ [quote] := by
  rw [unquote] at quoted ⊢
  split at quoted
  · next first next rest written =>
    split at quoted
    · next enclosed =>
      rw [Bool.and_eq_true, beq_iff_eq] at enclosed
      refine ⟨first, enclosed.1, ?_⟩
      rw [if_pos (by simpa using enclosed), String.toList_ofList, written, List.cons_append,
        List.dropLast_append_getLast? first enclosed.2]
    · exact absurd rfl quoted
  · exact absurd rfl quoted

end Text

namespace QualifiedName

/-- A text that does not begin with a quote is cut at its dots. -/
theorem split_of_unquoted {text : String} (unquoted : text.toList.head? ≠ some '"') :
    split text = Text.segments '.' text := by
  rw [split]
  split
  · next rest begins =>
    rw [begins] at unquoted
    exact absurd rfl unquoted
  · rfl

/-- Joined names are split where they were joined. -/
theorem split_join {first : String} {rest : List String} (nonempty : first.toList ≠ [])
    (undotted : ∀ name ∈ first :: rest, '.' ∉ name.toList)
    (unquoted : first.toList.head? ≠ some '"') :
    split (Text.join '.' (first :: rest)) = first :: rest := by
  rw [← Text.head?_join '.' rest nonempty] at unquoted
  rw [split_of_unquoted unquoted]
  exact Text.segments_join '.' (first :: rest) (List.cons_ne_nil _ _) undotted

/-- A text begins with a part in double quotes. -/
def BeginsQuoted (text : String) : Prop :=
  ∃ inner behind : List Char, text.toList = '"' :: inner ++ '"' :: behind

/-- A part in double quotes at the beginning is split off whole, together with the dots behind
it. -/
theorem split_of_quoted {text : String} {inner dots behind : List Char} (free : '"' ∉ inner)
    (onlyDots : ∀ c ∈ dots, c = '.') (stops : behind.head? ≠ some '.')
    (written : text.toList = '"' :: inner ++ '"' :: (dots ++ behind)) :
    split text = String.ofList ('"' :: inner ++ ['"']) ::
      if behind = [] then [] else Text.segments '.' (String.ofList behind) := by
  have inside : ∀ c ∈ inner, (c != '"') = true := by
    intro c member
    rw [bne_iff_ne]
    rintro rfl
    exact free member
  have taken : (inner ++ '"' :: (dots ++ behind)).takeWhile (· != '"') = inner := by
    rw [List.takeWhile_append_of_pos inside]
    exact List.append_nil _
  have ends : (inner ++ '"' :: (dots ++ behind)).dropWhile (· != '"') =
      '"' :: (dots ++ behind) := by
    rw [List.dropWhile_append_of_pos inside]
    rfl
  have dropped : (dots ++ behind).dropWhile (· == '.') = behind := by
    rw [List.dropWhile_append_of_pos (by simpa using onlyDots)]
    cases behind with
    | nil => rfl
    | cons c behind => exact List.dropWhile_cons_of_neg (by simpa using stops)
  rw [split, written, List.cons_append]
  simp only [taken, ends, dropped, List.isEmpty_iff]
  split <;> rfl

theorem split_of_not_beginsQuoted {text : String} (unquoted : ¬ BeginsQuoted text) :
    split text = Text.segments '.' text := by
  rw [split]
  split
  · next rest begins =>
    split
    · next behind ends =>
      have closed : '"' ∈ rest := by
        by_contra free
        have nothing := List.dropWhile_eq_nil_iff.mpr fun c member =>
          bne_iff_ne.mpr (ne_of_mem_of_not_mem member free)
        exact absurd (nothing.symm.trans ends) (List.cons_ne_nil _ _).symm
      obtain ⟨inner, behind, rfl⟩ := List.append_of_mem closed
      exact absurd ⟨inner, behind, begins⟩ unquoted
    · rfl
  · rfl

/-- The quoted part ends at its second quote, and the dots behind it end somewhere. -/
theorem BeginsQuoted.exists_parts {text : String} (quoted : BeginsQuoted text) :
    ∃ inner dots behind : List Char, '"' ∉ inner ∧ (∀ c ∈ dots, c = '.') ∧
      behind.head? ≠ some '.' ∧ text.toList = '"' :: inner ++ '"' :: (dots ++ behind) := by
  obtain ⟨start, rest, written⟩ := quoted
  obtain ⟨inner, behind, split, free⟩ := List.eq_append_cons_of_mem
    (show '"' ∈ start ++ '"' :: rest from List.mem_append_right _ List.mem_cons_self)
  refine ⟨inner, behind.takeWhile (· == '.'), behind.dropWhile (· == '.'), free, ?_, ?_, ?_⟩
  · intro c member
    exact beq_iff_eq.mp (List.mem_takeWhile_imp (p := (· == '.')) member)
  · intro dot
    have stopped := List.head?_dropWhile_not (· == '.') behind
    rw [dot] at stopped
    exact absurd stopped (by decide)
  · rw [List.takeWhile_append_dropWhile, List.cons_append, ← split]
    exact written

/-- A quoted module name is split off whole, dots and all. -/
theorem split_quoted {module first : String} {rest : List String}
    (unquoted : '"' ∉ module.toList) (nonempty : first.toList ≠ [])
    (undotted : ∀ name ∈ first :: rest, '.' ∉ name.toList) :
    split ("\"" ++ module ++ "\"." ++ Text.join '.' (first :: rest)) =
      ("\"" ++ module ++ "\"") :: first :: rest := by
  have head := Text.head?_join '.' rest nonempty
  -- No dot is lost behind the quotes, since the first name does not begin with one.
  have stops : (Text.join '.' (first :: rest)).toList.head? ≠ some '.' := by
    intro dot
    rw [head] at dot
    exact undotted first List.mem_cons_self (List.mem_of_head? dot)
  have names : (Text.join '.' (first :: rest)).toList ≠ [] := by
    intro empty
    rw [empty] at head
    exact nonempty (List.head?_eq_none_iff.mp head.symm)
  have quoted : String.ofList ('"' :: module.toList ++ ['"']) = "\"" ++ module ++ "\"" := by
    apply String.toList_injective
    simp
  have written : ("\"" ++ module ++ "\"." ++ Text.join '.' (first :: rest)).toList =
      '"' :: module.toList ++ '"' :: (['.'] ++ (Text.join '.' (first :: rest)).toList) := by
    simp
  rw [split_of_quoted unquoted (by simp) stops written, if_neg names, quoted,
    String.ofList_toList, Text.segments_join '.' (first :: rest) (List.cons_ne_nil _ _) undotted]

/-- The part that is split off behind a quote ends at the next quote, be it inside the module
name or behind it. -/
theorem head?_split_quoted (module behind : String) :
    (split ("\"" ++ module ++ "\"" ++ behind)).head? =
      some (String.ofList ('"' :: module.toList.takeWhile (· != '"') ++ ['"'])) := by
  have written : ("\"" ++ module ++ "\"" ++ behind).toList =
      '"' :: (module.toList ++ '"' :: behind.toList) := by
    simp
  have taken : (module.toList ++ '"' :: behind.toList).takeWhile (· != '"') =
      module.toList.takeWhile (· != '"') := by
    rw [List.takeWhile_append]
    split
    · next whole => simp [(List.takeWhile_prefix _).eq_of_length whole]
    · rfl
  have closed : (module.toList ++ '"' :: behind.toList).dropWhile (· != '"') ≠ [] := by
    rw [ne_eq, List.dropWhile_eq_nil_iff]
    intro free
    exact absurd (free '"' (List.mem_append_right _ List.mem_cons_self)) (by decide)
  obtain ⟨quote, rest, ends⟩ := List.exists_cons_of_ne_nil closed
  rw [split, written]
  simp only [ends, taken]
  split <;> rfl

/-- A quoted module name is split off whole exactly if it holds no quote. -/
theorem split_quoted_iff {module first : String} {rest : List String} (nonempty : first.toList ≠ [])
    (undotted : ∀ name ∈ first :: rest, '.' ∉ name.toList) :
    split ("\"" ++ module ++ "\"." ++ Text.join '.' (first :: rest)) =
      ("\"" ++ module ++ "\"") :: first :: rest ↔ '"' ∉ module.toList := by
  refine ⟨fun whole inside => ?_, fun unquoted => split_quoted unquoted nonempty undotted⟩
  have regrouped : "\"" ++ module ++ "\"." ++ Text.join '.' (first :: rest) =
      "\"" ++ module ++ "\"" ++ ("." ++ Text.join '.' (first :: rest)) := by
    apply String.toList_injective
    simp
  have start := head?_split_quoted module ("." ++ Text.join '.' (first :: rest))
  rw [← regrouped, whole, List.head?_cons, Option.some_inj] at start
  have kept : module.toList = module.toList.takeWhile (· != '"') := by
    simpa using congrArg String.toList start
  exact absurd (List.mem_takeWhile_imp (kept ▸ inside)) (by decide)

/-- What splitting does: a text is cut at its dots, or else it begins with a quoted part, which is
split off together with the dots behind it. -/
theorem split_cases (text : String) :
    split text = Text.segments '.' text ∨
      ∃ inner dots behind : List Char, '"' ∉ inner ∧ (∀ c ∈ dots, c = '.') ∧
        text.toList = '"' :: inner ++ '"' :: (dots ++ behind) ∧
        split text = String.ofList ('"' :: inner ++ ['"']) ::
          if behind = [] then [] else Text.segments '.' (String.ofList behind) := by
  by_cases quoted : BeginsQuoted text
  · obtain ⟨inner, dots, behind, free, onlyDots, stops, written⟩ := quoted.exists_parts
    exact .inr ⟨inner, dots, behind, free, onlyDots, written,
      split_of_quoted free onlyDots stops written⟩
  · exact .inl (split_of_not_beginsQuoted quoted)

theorem split_ne_nil (text : String) : split text ≠ [] := by
  rcases split_cases text with cut | ⟨_, _, _, -, -, -, cut⟩
  · rw [cut]
    exact Text.segments_ne_nil '.' text
  · rw [cut]
    exact List.cons_ne_nil _ _

/-- A name that splitting leaves whole is the text itself, up to dots behind a quoted part. -/
theorem split_eq_singleton {text part : String} (whole : split text = [part]) :
    ∃ dots : List Char, text.toList = part.toList ++ dots ∧ (∀ c ∈ dots, c = '.') ∧
      (part.toList.head? ≠ some '"' → dots = []) := by
  rcases split_cases text with cut | ⟨inner, dots, behind, -, onlyDots, written, cut⟩
  · have same : text = part := by
      rw [← Text.join_segments '.' text, ← cut, whole, Text.join_singleton]
    exact ⟨[], by rw [same, List.append_nil], nofun, fun _ => rfl⟩
  · obtain ⟨rfl, none⟩ := List.cons.inj (cut.symm.trans whole)
    have nothing : behind = [] := by
      by_contra more
      rw [if_neg more] at none
      exact Text.segments_ne_nil '.' _ none
    refine ⟨dots, ?_, onlyDots, fun unquoted => absurd (by simp) unquoted⟩
    simpa [nothing] using written

/-- A name without its quotes is not what splitting leaves of it. -/
theorem eq_of_split_eq_unquote {text : String} (whole : split text = [Text.unquote text]) :
    Text.unquote text = text := by
  by_contra quoted
  obtain ⟨quote, isQuote, written⟩ := Text.eq_quoted_of_unquote_ne quoted
  obtain ⟨dots, rest, onlyDots, -⟩ := split_eq_singleton whole
  -- Both quotes would have to be dots behind the name.
  have longer : dots.length = 2 := by
    have lengths := congrArg List.length (written.symm.trans rest)
    simp only [List.cons_append, List.length_cons, List.length_append, List.length_nil] at lengths
    omega
  have last : dots.getLast? = some quote := by
    have ends := congrArg List.getLast? (written.symm.trans rest)
    rw [List.cons_append, ← List.cons_append, List.getLast?_concat, List.getLast?_append] at ends
    cases found : dots.getLast? with
    | none =>
        rw [List.getLast?_eq_none_iff.mp found] at longer
        cases longer
    | some c =>
        rw [found, Option.some_or] at ends
        exact ends.symm
  rw [onlyDots quote (List.mem_of_getLast? last)] at isQuote
  exact absurd isQuote (by decide)

/-- Names as a text, behind the quoted module name if there is one. -/
def written (module : Option String) (names : List String) : String :=
  match module with
  | some module => "\"" ++ module ++ "\"." ++ Text.join '.' names
  | none => Text.join '.' names

end QualifiedName

end SourceOutline
