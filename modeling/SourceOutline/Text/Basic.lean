/-!
# Blanks, letter case, lines and segments

Two classes of blanks occur. `isWhiteSpace` is the Unicode property of that name and
decides what may surround a number. `isBlank` adds the four information separators and
decides what may surround a name or a word of source text. Removing blanks from both ends is
stated once, on lists of characters, for an arbitrary class, so that facts about it do not
depend on which class is meant.

Words that the program knows are plain ASCII words, compared without regard to case.

A line ends at any of the characters that Unicode counts as mandatory line breaks or at one
of the first three information separators. A carriage return with a line feed behind it is
one break, and a break at the end of the text starts no further line.

A dotted name, a path and a list setting are all texts cut at one separator. Cutting
keeps empty segments, so joining the segments gives the text back and nothing is lost.
-/

namespace SourceOutline.Text

/-- Characters with the Unicode property `White_Space`. -/
def isWhiteSpace (c : Char) : Bool :=
  let n := c.toNat
  (9 ≤ n && n ≤ 13) || n == 0x20 || n == 0x85 || n == 0xA0 || n == 0x1680 ||
    (0x2000 ≤ n && n ≤ 0x200A) || n == 0x2028 || n == 0x2029 || n == 0x202F ||
    n == 0x205F || n == 0x3000

/-- White space and the information separators U+001C to U+001F. -/
def isBlank (c : Char) : Bool :=
  isWhiteSpace c || (0x1C ≤ c.toNat && c.toNat ≤ 0x1F)

/-- Remove the longest runs of a class at both ends. -/
def trimBy (p : Char → Bool) (cs : List Char) : List Char :=
  ((cs.dropWhile p).reverse.dropWhile p).reverse

@[simp] theorem trimBy_nil (p : Char → Bool) : trimBy p [] = [] := rfl

/-- A text without the blanks around it. -/
def strip (text : String) : String :=
  String.ofList (trimBy isBlank text.toList)

/-- Lower case for the letters A to Z, and for the Kelvin sign, the one further character
whose small letter is an ASCII letter. -/
def lowerChar (c : Char) : Char :=
  if c.toNat == 0x212A then 'k' else c.toLower

/-- A text in small letters. -/
def lowerCase (text : String) : String :=
  String.ofList (text.toList.map lowerChar)

/-- Upper case for the letters a to z, and for the two further characters whose capital is
an ASCII letter: the dotless i and the long s. -/
def upperChar (c : Char) : Char :=
  if c.toNat == 0x131 then 'I' else if c.toNat == 0x17F then 'S' else c.toUpper

/-- A text in capitals. -/
def upperCase (text : String) : String :=
  String.ofList (text.toList.map upperChar)

def isLineBreak (c : Char) : Bool :=
  let n := c.toNat
  (10 ≤ n && n ≤ 13) || (0x1C ≤ n && n ≤ 0x1E) || n == 0x85 || n == 0x2028 || n == 0x2029

/-- The lines of a text, `done` being the start of the first of them, last character first. -/
def linesFrom (done : List Char) : List Char → List (List Char)
  | [] => if done.isEmpty then [] else [done.reverse]
  | '\r' :: '\n' :: rest => done.reverse :: linesFrom [] rest
  | c :: rest =>
    if isLineBreak c then done.reverse :: linesFrom [] rest else linesFrom (c :: done) rest

/-- The lines of a text without their breaks. -/
def lines (text : String) : List String := (linesFrom [] text.toList).map String.ofList

/-- The pieces of a text between the occurrences of a separator; never empty. -/
def segments (separator : Char) (text : String) : List String :=
  (text.toList.splitOn separator).map String.ofList

/-- Texts with a separator between neighbours. -/
def join (separator : Char) (parts : List String) : String :=
  (String.singleton separator).intercalate parts

theorem toList_join (separator : Char) (parts : List String) :
    (join separator parts).toList = [separator].intercalate (parts.map String.toList) := by
  rw [join, String.toList_intercalate, String.toList_singleton]

theorem join_singleton (separator : Char) (part : String) : join separator [part] = part := by
  apply String.toList_injective
  simp [toList_join]

theorem segments_ne_nil (separator : Char) (text : String) :
    segments separator text ≠ [] := by
  simp [segments]

theorem join_segments (separator : Char) (text : String) :
    join separator (segments separator text) = text := by
  apply String.toList_injective
  rw [toList_join, segments, List.map_map]
  have : String.toList ∘ String.ofList = id := funext fun _ => String.toList_ofList
  rw [this, List.map_id, List.intercalate_splitOn]

/-- Segments free of the separator survive joining. -/
theorem segments_join (separator : Char) (parts : List String) (nonempty : parts ≠ [])
    (free : ∀ part ∈ parts, separator ∉ part.toList) :
    segments separator (join separator parts) = parts := by
  have back : (parts.map String.toList).map String.ofList = parts := by
    rw [List.map_map]
    have : String.ofList ∘ String.toList = id := funext fun _ => String.ofList_toList
    rw [this, List.map_id]
  rw [segments, toList_join, List.splitOn_intercalate, back]
  · intro l hl
    obtain ⟨part, hp, rfl⟩ := List.mem_map.1 hl
    exact free part hp
  · simpa using nonempty

end SourceOutline.Text
