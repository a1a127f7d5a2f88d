import SourceOutline.Json.Reader
import SourceOutline.Proofs.Journal
import SourceOutline.Proofs.Text.Ink

/-!
# What a text of JSON can hold

Quotes and brackets are ink, and an escape stands for no more ink than it is made of. So what is
read has less ink than the text it is read from, if it is a string or an array of strings; and
the text of `null` has the ink of that word.
-/

namespace SourceOutline.Json

open Text (ink isInk)

/-- The ink of code points. -/
def pointInk (points : List Nat) : Nat := ink (points.map Char.ofNat)

@[simp] theorem pointInk_nil : pointInk [] = 0 := rfl

theorem pointInk_cons_le (point : Nat) (points : List Nat) :
    pointInk (point :: points) ≤ pointInk points + 1 := Text.ink_cons_le _ _

theorem pointInk_toNat_cons (c : Char) (points : List Nat) :
    pointInk (c.toNat :: points) = pointInk points + if isInk c then 1 else 0 := by
  rw [pointInk, List.map_cons, Char.ofNat_toNat, Text.ink_cons]
  rfl

@[simp] theorem pointInk_reverse (points : List Nat) :
    pointInk points.reverse = pointInk points := by
  rw [pointInk, List.map_reverse, Text.ink_reverse]
  rfl

/-- One unit brings in no more ink than one character. -/
theorem pointInk_addUnit_le (unit : Nat) (done : List Nat) :
    pointInk (addUnit unit done) ≤ pointInk done + 1 := by
  cases done with
  | nil => exact pointInk_cons_le unit []
  | cons last done =>
      rw [addUnit]
      split
      · -- the pair takes the place of its first half, which had ink or not
        have joined := pointInk_cons_le
          (0x10000 + (last - 0xD800) * 0x400 + (unit - 0xDC00)) done
        have kept : pointInk done ≤ pointInk (last :: done) := Text.ink_le_cons _ _
        omega
      · exact pointInk_cons_le unit (last :: done)

/-- A string has less ink than the text up to its closing quote. -/
theorem ink_readString {opening : Nat} {done : List Nat} {position : Nat} {cs : List Char}
    {points : List Nat} {next : Cursor}
    (read : readString opening done position cs = .ok (points, next)) :
    pointInk points + ink next.rest < pointInk done + ink cs := by
  have quote : ∀ rest, ink ('"' :: rest) = ink rest + 1 := fun rest => by rw [Text.ink_cons]; rfl
  have backslash : ∀ rest, ink ('\\' :: rest) = ink rest + 1 := fun rest => by
    rw [Text.ink_cons]; rfl
  fun_induction readString opening done position cs with
  | case2 done position rest =>
      cases read
      rw [pointInk_reverse, quote]
      dsimp only
      omega
  | case3 done position a b c d next' rest unit value ih =>
      have shorter := ih read
      have brought := pointInk_addUnit_le unit done
      rw [backslash]
      have rest_le : ink (next' :: rest) ≤ ink ('u' :: a :: b :: c :: d :: next' :: rest) :=
        Text.ink_drop_le 5 ('u' :: a :: b :: c :: d :: next' :: rest)
      omega
  | case7 done position c rest _ _ escaped _ ih =>
      have shorter := ih read
      have brought := pointInk_cons_le escaped.toNat done
      have rest_le := Text.ink_le_cons c rest
      rw [backslash]
      omega
  | case10 done position c rest _ _ _ _ _ ih =>
      have shorter := ih read
      rw [pointInk_toNat_cons] at shorter
      rw [Text.ink_cons]
      omega
  | case1 | case4 | case5 | case6 | case8 | case9 => cases read

namespace Cursor

theorem ink_advance_le (cursor : Cursor) (count : Nat) :
    ink (cursor.advance count).rest ≤ ink cursor.rest := Text.ink_drop_le count cursor.rest

/-- A bracket that is passed over is ink. -/
theorem ink_advance_one {cursor : Cursor} {c : Char} {rest : List Char}
    (at_char : cursor.rest = c :: rest) (visible : isInk c = true) :
    ink (cursor.advance 1).rest + 1 = ink cursor.rest := by
  rw [advance, at_char, Text.ink_cons, if_pos visible]
  rfl

@[simp] theorem ink_skipBlanks (cursor : Cursor) :
    ink cursor.skipBlanks.rest = ink cursor.rest := by
  have cut (p : Char → Bool) : cursor.rest.drop (cursor.rest.takeWhile p).length =
      cursor.rest.dropWhile p := by
    have parts := congrArg (List.drop (cursor.rest.takeWhile p).length)
      (List.takeWhile_append_dropWhile : cursor.rest.takeWhile p ++ cursor.rest.dropWhile p = _)
    rwa [List.drop_left, eq_comm] at parts
  unfold skipBlanks advance
  dsimp only
  rw [cut, Text.ink_dropWhile]
  intro c blank
  simp only [Bool.or_eq_true, beq_iff_eq] at blank
  rcases blank with ((rfl | rfl) | rfl) | rfl <;> rfl

end Cursor

/-- The ink of a value that is an item of a list of texts. -/
def itemInk : Json → Nat
  | string text => ink text.toList
  | _ => 0

/-- The ink that a text needs if a string or an array of strings is to be read from it. -/
def neededInk : Json → Nat
  | string text => ink text.toList + 1
  | array items => (items.map itemInk).sum + 1
  | _ => 0

namespace Raw

/-- The ink of a value that is an item of a list of strings. -/
def itemInk : Raw → Nat
  | string points => pointInk points
  | _ => 0

/-- The ink that a text needs if a string or an array of strings is to be read from it. -/
def neededInk : Raw → Nat
  | string points => pointInk points + 1
  | array items => (items.map itemInk).sum + 1
  | _ => 0

theorem itemInk_le (value : Raw) : itemInk value ≤ neededInk value := by
  cases value <;> simp [itemInk, neededInk]

end Raw

/-- Reading a value leaves `after` of the ink that was there `before`. -/
structure Takes (value : Raw) (before after : Nat) : Prop where
  enough : value.neededInk + after ≤ before
  null_word : value = .null → before = after + 4

theorem Takes.of_scalar {value : Raw} {before after : Nat} (scalar : value.neededInk = 0)
    (value_ne : value ≠ .null) (less : after ≤ before) : Takes value before after where
  enough := by rwa [scalar, Nat.zero_add]
  null_word is_null := absurd is_null value_ne

theorem readNumber_takes {cursor next : Cursor} {value : Raw}
    (read : readNumber cursor = .ok (value, next)) :
    Takes value (ink cursor.rest) (ink next.rest) := by
  unfold readNumber at read
  extract_lets _ _ _ _ _ _ _ length ahead _ _ at read
  have less := cursor.ink_advance_le length
  split_ifs at read <;> simp only [Except.ok.injEq, Prod.mk.injEq] at read <;>
    obtain ⟨rfl, rfl⟩ := read <;> exact .of_scalar rfl nofun less

/-- The words for values are scalars; `null` is spelled with four letters. -/
theorem wordValues_takes {word : String × Raw} (listed : word ∈ wordValues) (rest : List Char) :
    Takes word.2 (ink (word.1.toList ++ rest)) (ink rest) := by
  simp only [wordValues, List.mem_cons, List.not_mem_nil, or_false] at listed
  rw [Text.ink_append]
  rcases listed with rfl | rfl | rfl | rfl | rfl | rfl
  · have letters : ink "null".toList = 4 := by decide
    exact ⟨Nat.le_trans (Nat.le_of_eq (Nat.zero_add _)) (Nat.le_add_left _ _),
      fun _ => by rw [letters, Nat.add_comm]⟩
  all_goals exact .of_scalar rfl nofun (Nat.le_add_left _ _)

theorem readScalar_takes {cursor next : Cursor} {value : Raw}
    (read : readScalar cursor = .ok (value, next)) :
    Takes value (ink cursor.rest) (ink next.rest) := by
  unfold readScalar at read
  split at read
  · rename_i word word_value found
    cases read
    have begins := List.find?_some found
    obtain ⟨rest, split⟩ := List.isPrefixOf_iff_prefix.mp begins
    have behind : (cursor.advance word.length).rest = rest := by
      rw [Cursor.advance, ← split, ← String.length_toList, List.drop_left]
    rw [behind, ← split]
    exact wordValues_takes (List.mem_of_find?_eq_some found) rest
  · exact readNumber_takes read

/-- What the readers do with the ink of the text, as far as a bound on their recursion allows
them to read. -/
structure ReadsWithin (fuel : Nat) : Prop where
  value {room : Nat} {cursor next : Cursor} {value : Raw} :
    readValue fuel room cursor = .ok (value, next) →
      Takes value (ink cursor.rest) (ink next.rest)
  items {room : Nat} {done : List Raw} {cursor next : Cursor} {value : Raw} :
    readItems fuel room done cursor = .ok (value, next) →
      value ≠ .null ∧
        value.neededInk + ink next.rest ≤ (done.map Raw.itemInk).sum + ink cursor.rest
  members {room : Nat} {done : List (List Nat × Raw)} {cursor next : Cursor} {value : Raw} :
    readMembers fuel room done cursor = .ok (value, next) →
      value.neededInk = 0 ∧ value ≠ .null ∧ ink next.rest ≤ ink cursor.rest

namespace ReadsWithin

variable {fuel room : Nat} {cursor next : Cursor} {value : Raw}

theorem value_succ (within : ReadsWithin fuel)
    (read : readValue (fuel + 1) room cursor = .ok (value, next)) :
    Takes value (ink cursor.rest) (ink next.rest) := by
  unfold readValue at read
  split at read
  · rename_i rest quoted
    cases inside : readString cursor.position [] (cursor.position + 1) rest with
    | error unread => rw [inside] at read; cases read
    | ok given =>
        rw [inside] at read
        cases read
        have less := ink_readString inside
        have rest_le := Text.ink_le_cons '"' rest
        rw [pointInk_nil] at less
        rw [quoted]
        exact ⟨by rw [Raw.neededInk]; omega, nofun⟩
  · rename_i rest brace
    have passed := Cursor.ink_advance_one brace (by decide)
    split_ifs at read with full
    dsimp only at read
    split at read
    · cases read
      have less := (cursor.advance 1).skipBlanks.ink_advance_le 1
      rw [Cursor.ink_skipBlanks] at less
      exact .of_scalar rfl nofun (by omega)
    · obtain ⟨scalar, value_ne, less⟩ := within.members read
      rw [Cursor.ink_skipBlanks] at less
      exact .of_scalar scalar value_ne (by omega)
  · rename_i rest bracket
    have passed := Cursor.ink_advance_one bracket (by decide)
    split_ifs at read with full
    dsimp only at read
    split at read
    · cases read
      have less := (cursor.advance 1).skipBlanks.ink_advance_le 1
      rw [Cursor.ink_skipBlanks] at less
      exact ⟨by rw [Raw.neededInk, List.map_nil, List.sum_nil]; omega, nofun⟩
    · obtain ⟨value_ne, less⟩ := within.items read
      rw [Cursor.ink_skipBlanks, List.map_nil, List.sum_nil] at less
      exact ⟨by omega, fun is_null => absurd is_null value_ne⟩
  · exact readScalar_takes read

theorem items_succ (within : ReadsWithin fuel) {done : List Raw}
    (read : readItems (fuel + 1) room done cursor = .ok (value, next)) :
    value ≠ .null ∧
      value.neededInk + ink next.rest ≤ (done.map Raw.itemInk).sum + ink cursor.rest := by
  unfold readItems at read
  cases inside : readValue fuel (room - 1) cursor with
  | error unread => rw [inside] at read; cases read
  | ok given =>
      obtain ⟨item, behind⟩ := given
      rw [inside] at read
      dsimp only at read
      have taken := (within.value inside).enough
      have smaller := item.itemInk_le
      split at read
      · rename_i rest bracket
        cases read
        have passed := Cursor.ink_advance_one bracket (by decide)
        rw [Cursor.ink_skipBlanks] at passed
        refine ⟨nofun, ?_⟩
        rw [Raw.neededInk, List.map_reverse, List.sum_reverse, List.map_cons, List.sum_cons]
        omega
      · rename_i rest comma
        have less := behind.skipBlanks.ink_advance_le 1
        obtain ⟨value_ne, more⟩ := within.items read
        rw [List.map_cons, List.sum_cons, Cursor.ink_skipBlanks] at more
        rw [Cursor.ink_skipBlanks] at less
        exact ⟨value_ne, by omega⟩
      · cases read

theorem members_succ (within : ReadsWithin fuel) {done : List (List Nat × Raw)}
    (read : readMembers (fuel + 1) room done cursor = .ok (value, next)) :
    value.neededInk = 0 ∧ value ≠ .null ∧ ink next.rest ≤ ink cursor.rest := by
  unfold readMembers at read
  split at read
  · rename_i rest quoted
    cases inside : readString cursor.position [] (cursor.position + 1) rest with
    | error unread => rw [inside] at read; cases read
    | ok given =>
        obtain ⟨key, colon⟩ := given
        rw [inside] at read
        dsimp only at read
        have key_less := ink_readString inside
        have rest_le := Text.ink_le_cons '"' rest
        rw [pointInk_nil] at key_less
        rw [quoted]
        split at read
        · cases member : readValue fuel (room - 1) (colon.skipBlanks.advance 1).skipBlanks with
          | error unread => rw [member] at read; cases read
          | ok given =>
              obtain ⟨item, behind⟩ := given
              rw [member] at read
              dsimp only at read
              have taken := (within.value member).enough
              have colon_less := colon.skipBlanks.ink_advance_le 1
              have less := behind.skipBlanks.ink_advance_le 1
              rw [Cursor.ink_skipBlanks] at taken colon_less less
              split at read
              · cases read
                exact ⟨rfl, nofun, by omega⟩
              · obtain ⟨scalar, value_ne, more⟩ := within.members read
                rw [Cursor.ink_skipBlanks] at more
                exact ⟨scalar, value_ne, by omega⟩
              · cases read
        · cases read
  · cases read

end ReadsWithin

theorem readsWithin (fuel : Nat) : ReadsWithin fuel := by
  induction fuel with
  | zero => exact ⟨nofun, nofun, nofun⟩
  | succ fuel ih => exact ⟨ih.value_succ, ih.items_succ, ih.members_succ⟩

theorem read_takes {text : String} {room : Nat} {value : Raw}
    (given : read text room = .ok value) : Takes value (ink text.toList) 0 := by
  unfold read at given
  dsimp only at given
  cases inside : readValue ((Cursor.start text).skipBlanks.rest.length + 1) room
      (Cursor.start text).skipBlanks with
  | error unread => rw [inside] at given; cases given
  | ok found =>
      obtain ⟨found, next⟩ := found
      have taken := (readsWithin _).value inside
      rw [Cursor.ink_skipBlanks] at taken
      rw [inside] at given
      dsimp only [bind, Except.bind] at given
      split_ifs at given with ended
      cases given
      have nothing : ink next.rest = 0 := by
        rw [← Cursor.ink_skipBlanks, List.isEmpty_iff.mp ended, Text.ink_nil]
      rwa [nothing] at taken

/-- A text has the points it is made of. -/
theorem ink_of_ofPoints {points : List Nat} {text : String}
    (given : Text.ofPoints points = .ok text) : ink text.toList = pointInk points := by
  unfold Text.ofPoints at given
  split at given <;> cases given
  rw [String.toList_ofList]
  rfl

namespace Raw

theorem itemInk_of_toJson {raw : Raw} {json : Json} (given : raw.toJson = .ok json) :
    json.itemInk = raw.itemInk := by
  cases raw with
  | null | bool _ | int _ | float _ =>
      cases given
      rfl
  | string points =>
      obtain ⟨text, read, rest⟩ := bind_eq_ok_iff.mp given
      cases rest
      exact ink_of_ofPoints read
  | array _ | object _ =>
      obtain ⟨_, -, rest⟩ := bind_eq_ok_iff.mp given
      cases rest
      rfl

theorem map_itemInk_of_toItems {items : List Raw} {values : List Json}
    (given : toItems items = .ok values) : values.map Json.itemInk = items.map itemInk := by
  induction items generalizing values with
  | nil =>
      cases given
      rfl
  | cons item items ih =>
      obtain ⟨value, first, rest⟩ := bind_eq_ok_iff.mp given
      obtain ⟨others, later, rest⟩ := bind_eq_ok_iff.mp rest
      cases rest
      rw [List.map_cons, List.map_cons, itemInk_of_toJson first, ih later]

theorem neededInk_of_toJson {raw : Raw} {json : Json} (given : raw.toJson = .ok json) :
    json.neededInk = raw.neededInk := by
  cases raw with
  | null | bool _ | int _ | float _ =>
      cases given
      rfl
  | string points =>
      obtain ⟨text, read, rest⟩ := bind_eq_ok_iff.mp given
      cases rest
      exact congrArg (· + 1) (ink_of_ofPoints read)
  | array items =>
      obtain ⟨values, made, rest⟩ := bind_eq_ok_iff.mp given
      cases rest
      rw [Json.neededInk, neededInk, map_itemInk_of_toItems made]
  | object _ =>
      obtain ⟨_, -, rest⟩ := bind_eq_ok_iff.mp given
      cases rest
      rfl

theorem eq_null_of_toJson {raw : Raw} (given : raw.toJson = .ok .null) : raw = .null := by
  cases raw with
  | null => rfl
  | bool _ | int _ | float _ => cases given
  | string _ | array _ | object _ =>
      obtain ⟨_, -, rest⟩ := bind_eq_ok_iff.mp given
      cases rest

end Raw

/-- The value of a text takes its ink from the text. -/
theorem parse_takes {text : String} {room : Nat} {value : Json}
    (given : parse text room = .ok value) :
    value.neededInk ≤ ink text.toList ∧ (value = null → ink text.toList = 4) := by
  obtain ⟨raw, taken, made⟩ := bind_eq_ok_iff.mp given
  replace made : raw.toJson = .ok value := by
    cases outcome : raw.toJson with
    | error fault =>
        rw [outcome] at made
        cases made
    | ok json =>
        rw [outcome] at made
        cases made
        rfl
  obtain ⟨enough, null_word⟩ := read_takes taken
  refine ⟨Raw.neededInk_of_toJson made ▸ enough, ?_⟩
  rintro rfl
  exact null_word (Raw.eq_null_of_toJson made)

end SourceOutline.Json
