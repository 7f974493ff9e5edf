import Graft.Text.CharacterNameTable
import Graft.Text.Digit

/-!
# Character names

A character can be called by its name. Most names are listed in a table, and these may be
written in letters of either case. Three families of names are not listed, because they
follow from the code point: names that end in it, the names of unified ideographs, which
end in it too, and the names of Hangul syllables, which spell out the sounds of the
syllable. The last two have to be in capital letters.
-/

namespace Graft.Text

/-! ## Names in the table -/

/-- A word of the table ends here. -/
def endsWord : Text → Bool
  | [] => true
  | c :: _ => c == ' ' || c == '\n' || c == '(' || c == ')' || c == '!'

/-- What comes after a word in the table, where the word stands by itself and at the level
of parentheses that the text starts at. A word can start after a blank and after an opening
parenthesis, which is what `fresh` says. -/
def afterWord? (word : Text) : (level : Nat) → (fresh : Bool) → Text → Option Text
  | _, _, [] => none
  | level, fresh, c :: rest =>
    let found := (c :: rest).drop word.length
    if level = 0 && fresh && startsWith (c :: rest) word && endsWord found then some found
    else if c = '(' then afterWord? word (level + 1) true rest
    else if c = ')' then if level = 0 then none else afterWord? word (level - 1) false rest
    else afterWord? word level (c == ' ' || c == '\n') rest

/-- The words are a name, given the part of the table where the first of them stands. -/
def isNameIn : List Text → Text → Bool
  | [], _ => false
  | [word], entries =>
    match afterWord? word 0 true entries with
    | some rest => rest.head? != some '('
    | none => false
  | word :: others, entries =>
    match afterWord? word 0 true entries with
    | some ('!' :: '(' :: rest) | some ('(' :: rest) => isNameIn others rest
    | _ => false

/-- A character that can be in a listed name, between blanks. -/
def isNameCharacter (c : Char) : Bool := c.isUpper || c.isDigit || c == '-'

/-- The name, in capital letters, is listed. -/
def isListedName (name : Text) : Bool :=
  let parts := split ' ' name
  parts.all (fun part => !part.isEmpty && part.all isNameCharacter) &&
    match name with
    | [] => false
    | first :: _ =>
      (characterNameTable.lookup first).any fun entries => isNameIn parts entries.toList

/-! ## Names that follow from the code point -/

/-- How the names start that end in the code point, and which code points have them. -/
def codedNames : List (String × List (Nat × Nat)) := [
  ("CJK COMPATIBILITY IDEOGRAPH-", [(0xF900, 0xFA6D), (0xFA70, 0xFAD9), (0x2F800, 0x2FA1D)]),
  ("KHITAN SMALL SCRIPT CHARACTER-", [(0x18B00, 0x18CD5)]),
  ("NUSHU CHARACTER-", [(0x1B170, 0x1B2FB)])]

/-- The code points of the unified ideographs. -/
def unifiedIdeographs : List (Nat × Nat) := [
  (0x3400, 0x4DBF), (0x4E00, 0x9FFF), (0x20000, 0x2A6DF), (0x2A700, 0x2B738), (0x2B740, 0x2B81D),
  (0x2B820, 0x2CEA1), (0x2CEB0, 0x2EBE0), (0x30000, 0x3134A)]

/-- A number lies in one of the ranges. -/
def isInRanges (ranges : List (Nat × Nat)) (n : Nat) : Bool :=
  ranges.any fun (low, high) => low ≤ n && n ≤ high

/-- The name, in capital letters, ends in the code point. -/
def isCodedName (name : Text) : Bool :=
  codedNames.any fun (start, ranges) =>
    let digits := name.drop start.length
    startsWith name start.toList && digits.all isHexDigit && digits.head? != some '0' &&
      isInRanges ranges (numberInBase 16 digits)

/-- The name is one of a unified ideograph. It ends in four or five digits. -/
def isIdeographName (name : Text) : Bool :=
  let start := "CJK UNIFIED IDEOGRAPH-"
  let digits := name.drop start.length
  startsWith name start.toList && digits.all (fun c => isHexDigit c && !c.isLower) &&
    (digits.length == 4 || digits.length == 5) &&
    isInRanges unifiedIdeographs (numberInBase 16 digits)

/-! ## Names of syllables -/

/-- The consonants a syllable can start with, the longer ones first. -/
def leadingSounds : List String :=
  ["GG", "DD", "BB", "SS", "JJ", "G", "N", "D", "R", "M", "B", "S", "J", "C", "K", "T", "P", "H",
    ""]

/-- The vowels of syllables, the longer ones first. -/
def vowelSounds : List String :=
  ["YAE", "YEO", "WAE", "WEO", "AE", "YA", "EO", "YE", "WA", "OE", "YO", "WE", "WI", "YU", "EU",
    "YI", "A", "E", "O", "U", "I"]

/-- The consonants a syllable can end with, the longer ones first. -/
def trailingSounds : List String :=
  ["GG", "GS", "NJ", "NH", "LG", "LM", "LB", "LS", "LT", "LP", "LH", "BS", "SS", "NG", "G", "N",
    "D", "L", "M", "B", "S", "J", "C", "K", "T", "P", "H", ""]

/-- What comes after the first of the sounds that the text starts with. -/
def afterSound? (sounds : List String) (t : Text) : Option Text :=
  (sounds.find? fun sound => startsWith t sound.toList).map fun sound => t.drop sound.length

/-- The name is one of a Hangul syllable. -/
def isSyllableName (name : Text) : Bool :=
  let start := "HANGUL SYLLABLE "
  startsWith name start.toList &&
    ((afterSound? leadingSounds (name.drop start.length)).bind (afterSound? vowelSounds)
      |>.bind (afterSound? trailingSounds)) == some []

/-- A character has this name. -/
def isCharacterName (name : Text) : Bool :=
  let capitals := name.map Char.toUpper
  isSyllableName name || isIdeographName name || isCodedName capitals || isListedName capitals

end Graft.Text
