/-!
# Text

Documents, names and messages are lists of characters, so an offset counts
characters and a cut of a text is an equation between lists. This file holds the
operations every other part is built from: blanks and their removal, finding the
first or the last occurrence of a marker, and replacing single characters.

The two searches return what stands on either side of the marker rather than an
offset. What they promise is `cut?_eq_some` and `cutLast?_eq_some`: the two sides
and the marker put together are the text that was searched.
-/

namespace Graft

/-- A text is the list of its characters. -/
abbrev Text := List Char

namespace Text

/-! ## Blanks -/

/-- White space: the ASCII blanks and separators, and the spaces of the wider
character set. The zero-width space and the byte order mark are not blank. -/
def isBlank (c : Char) : Bool :=
  let n := c.toNat
  (9 ≤ n && n ≤ 13) || (28 ≤ n && n ≤ 32) || n == 0x85 || n == 0xA0 || n == 0x1680 ||
    (0x2000 ≤ n && n ≤ 0x200A) || n == 0x2028 || n == 0x2029 || n == 0x202F ||
    n == 0x205F || n == 0x3000

/-- The text without its leading blanks. -/
def trimLeft (t : Text) : Text := t.dropWhile isBlank

/-- The text without its trailing blanks. -/
def trimRight (t : Text) : Text := (t.reverse.dropWhile isBlank).reverse

/-- The trailing blanks of a text. -/
def blankTail (t : Text) : Text := (t.reverse.takeWhile isBlank).reverse

/-- The text without blanks on either side. -/
def trim (t : Text) : Text := trimRight (trimLeft t)

/-- A text is what is left after trimming on the right, then its trailing blanks. -/
theorem trimRight_append_blankTail (t : Text) : trimRight t ++ blankTail t = t := by
  rw [trimRight, blankTail, ← List.reverse_append, List.takeWhile_append_dropWhile,
    List.reverse_reverse]

/-! ## Markers -/

/-- What stands before and after the first occurrence of a marker. -/
def cut? (marker : Text) : Text → Option (Text × Text)
  | [] => if marker.isEmpty then some ([], []) else none
  | c :: rest =>
    if marker.isPrefixOf (c :: rest) then some ([], (c :: rest).drop marker.length)
    else (cut? marker rest).map fun (before, after) => (c :: before, after)

/-- What stands before and after the last occurrence of a marker. -/
def cutLast? (marker : Text) : Text → Option (Text × Text)
  | [] => if marker.isEmpty then some ([], []) else none
  | c :: rest =>
    match cutLast? marker rest with
    | some (before, after) => some (c :: before, after)
    | none =>
      if marker.isPrefixOf (c :: rest) then some ([], (c :: rest).drop marker.length) else none

/-- A text occurs in another. -/
def occursIn (part whole : Text) : Bool := (cut? part whole).isSome

private theorem isPrefixOf_drop {marker t : Text} (h : marker.isPrefixOf t) :
    marker ++ t.drop marker.length = t := by
  obtain ⟨rest, rfl⟩ := List.isPrefixOf_iff_prefix.1 h
  simp

/-- The sides of the first occurrence and the marker make up the text. -/
theorem cut?_eq_some {marker : Text} : ∀ {t before after : Text},
    cut? marker t = some (before, after) → before ++ marker ++ after = t
  | [], before, after, h => by
    simp only [cut?] at h
    split at h
    · rename_i hm
      simp only [Option.some.injEq, Prod.mk.injEq] at h
      obtain ⟨rfl, rfl⟩ := h
      simpa using hm
    · exact absurd h (by simp)
  | c :: rest, before, after, h => by
    simp only [cut?] at h
    split at h
    · rename_i hp
      simp only [Option.some.injEq, Prod.mk.injEq] at h
      obtain ⟨rfl, rfl⟩ := h
      simpa using isPrefixOf_drop hp
    · obtain ⟨⟨b, a⟩, hb, he⟩ := Option.map_eq_some_iff.1 h
      simp only [Prod.mk.injEq] at he
      obtain ⟨rfl, rfl⟩ := he
      simp [← cut?_eq_some hb]

/-- The sides of the last occurrence and the marker make up the text. -/
theorem cutLast?_eq_some {marker : Text} : ∀ {t before after : Text},
    cutLast? marker t = some (before, after) → before ++ marker ++ after = t
  | [], before, after, h => by
    simp only [cutLast?] at h
    split at h
    · rename_i hm
      simp only [Option.some.injEq, Prod.mk.injEq] at h
      obtain ⟨rfl, rfl⟩ := h
      simpa using hm
    · exact absurd h (by simp)
  | c :: rest, before, after, h => by
    simp only [cutLast?] at h
    split at h
    · rename_i b a hb
      simp only [Option.some.injEq, Prod.mk.injEq] at h
      obtain ⟨rfl, rfl⟩ := h
      simp [← cutLast?_eq_some hb]
    · split at h
      · rename_i hp
        simp only [Option.some.injEq, Prod.mk.injEq] at h
        obtain ⟨rfl, rfl⟩ := h
        simpa using isPrefixOf_drop hp
      · exact absurd h (by simp)

/-! ## Replacing and joining -/

/-- The text with every occurrence of one character replaced by a text. -/
def replaceChar (old : Char) (new : Text) (t : Text) : Text :=
  t.flatMap fun c => if c = old then new else [c]

/-- Texts put one after the other with a separator between them. -/
def join (separator : Text) (parts : List Text) : Text := List.intercalate separator parts

/-- A text cut at every occurrence of a character. -/
def split (separator : Char) : Text → List Text
  | [] => [[]]
  | c :: rest =>
    if c = separator then [] :: split separator rest
    else
      match split separator rest with
      | [] => [[c]]
      | part :: parts => (c :: part) :: parts

/-- The words of a text: its longest parts without blanks. -/
def words (t : Text) : List Text :=
  ((split ' ' (t.map fun c => if isBlank c then ' ' else c))).filter fun word => !word.isEmpty

/-- A text ends with another. -/
def endsWith (t ending : Text) : Bool := ending.isSuffixOf t

/-- A text starts with another. -/
def startsWith (t start : Text) : Bool := start.isPrefixOf t

/-- The decimal digits of a number. -/
def ofNat (n : Nat) : Text := Nat.toDigits 10 n

/-- The decimal digits of an integer, with a minus sign below zero. -/
def ofInt : Int → Text
  | .ofNat n => ofNat n
  | .negSucc n => '-' :: ofNat (n + 1)

end Text

end Graft
