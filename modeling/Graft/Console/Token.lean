import Graft.Number.Binary64
import Graft.Text.CharacterName
import Graft.Text.Utf8
import Graft.Text.Word
import Graft.Value.Reader

/-!
# Tokens

A literal is cut into tokens before it is put together. This file says what the tokens
are: brackets, commas, colons and signs, numbers, texts and bytes in quotes, and a few
words (`tokens?`).

A literal is one line. The line goes on after a line end inside brackets and after one
with a backslash in front of it. Blank lines and remarks may stand before it and after it.
The line itself is not indented.
-/

namespace Graft.Console

open Text

/-- A token of a literal. -/
inductive Token where
  /-- An opening parenthesis. -/
  | leftParen
  /-- A closing parenthesis. -/
  | rightParen
  /-- An opening brace. -/
  | leftBrace
  /-- A closing brace. -/
  | rightBrace
  /-- A comma. -/
  | comma
  /-- A colon. -/
  | colon
  /-- A plus or a minus. -/
  | sign
  /-- A real number. -/
  | real
  /-- A whole number that is too large to be added to an imaginary one. -/
  | huge
  /-- An imaginary number. -/
  | imaginary
  /-- A text in quotes. -/
  | text
  /-- Bytes in quotes. -/
  | bytes
  /-- A word for a value, or three dots. -/
  | constant
  /-- The word that makes an empty set. -/
  | setName
deriving DecidableEq, Repr

/-! ## Numbers -/

/-- Digits at the start of a text, which single underscores may group. -/
def digitRun (isDigit : Char → Bool) : Text → Text × Text
  | c :: '_' :: d :: rest =>
    if isDigit c then
      if isDigit d then
        let (digits, after) := digitRun isDigit (d :: rest)
        (c :: digits, after)
      else ([c], '_' :: d :: rest)
    else ([], c :: '_' :: d :: rest)
  | c :: rest =>
    if isDigit c then
      let (digits, after) := digitRun isDigit rest
      (c :: digits, after)
    else ([], c :: rest)
  | [] => ([], [])

/-- A number ends here: no letter, digit or underscore follows. -/
def endsNumber : Text → Bool
  | [] => true
  | c :: _ => !(isWord c || 128 ≤ c.toNat)

/-- The token of a whole number. It is added to an imaginary number in double precision,
where the largest ones have no place. -/
def wholeNumber (n : Nat) : Token :=
  if Binary64.ofRatio false n 1 = .infinite false then .huge else .real

/-- A whole number in a base, given the text after its mark. -/
def basedNumber? (base : Nat) (t : Text) : Option (Token × Text) :=
  let t := match t with
    | '_' :: rest => rest
    | _ => t
  match digitRun (fun c => (hexDigit? c).any (· < base)) t with
  | ([], _) => none
  | (digits, rest) =>
    if endsNumber rest then some (wholeNumber (numberInBase base digits), rest) else none

/-- The text after an exponent, where there is one. -/
def afterExponent? : Text → Option Text
  | mark :: rest =>
    if mark = 'e' ∨ mark = 'E' then
      let unsigned := match rest with
        | '+' :: more | '-' :: more => more
        | more => more
      match digitRun Char.isDigit unsigned with
      | ([], _) => none
      | (_, after) => some after
    else none
  | [] => none

/-- A decimal number. A whole number does not start with a zero, unless it is zero, and
has not too many digits. -/
def decimalNumber? (t : Text) : Option (Token × Text) :=
  let (whole, rest) := digitRun Char.isDigit t
  let (places, rest, pointed) := match rest with
    | '.' :: more =>
      let (places, after) := digitRun Char.isDigit more
      (places, after, true)
    | _ => ([], rest, false)
  if whole.isEmpty && places.isEmpty then none
  else
    let (rest, scaled) := match afterExponent? rest with
      | some after => (after, true)
      | none => (rest, false)
    match rest with
    | 'j' :: after | 'J' :: after => if endsNumber after then some (.imaginary, after) else none
    | _ =>
      if !endsNumber rest then none
      else if pointed || scaled || whole.all (· == '0') then some (.real, rest)
      else if whole.head? == some '0' || Value.maxDigits < whole.length then none
      else some (wholeNumber (numberInBase 10 whole), rest)

/-- A number. -/
def number? : Text → Option (Token × Text)
  | '0' :: mark :: rest =>
    if mark = 'x' ∨ mark = 'X' then basedNumber? 16 rest
    else if mark = 'o' ∨ mark = 'O' then basedNumber? 8 rest
    else if mark = 'b' ∨ mark = 'B' then basedNumber? 2 rest
    else decimalNumber? ('0' :: mark :: rest)
  | t => decimalNumber? t

/-! ## Texts and bytes -/

/-- How a text in quotes is read. -/
structure Quoting where
  /-- A backslash has no meaning except before a quote. -/
  raw : Bool := false
  /-- Bytes are meant. -/
  bytes : Bool := false
deriving DecidableEq, Repr

/-- The quoting that letters before the opening quote ask for. -/
def quoting? (letters : Text) : Option Quoting :=
  [("", ⟨false, false⟩), ("u", ⟨false, false⟩), ("r", ⟨true, false⟩), ("b", ⟨false, true⟩),
    ("br", ⟨true, true⟩), ("rb", ⟨true, true⟩)].findSome? fun (name, quoting) =>
      if name.toList == lowerAscii letters then some quoting else none
where
  /-- Letters in lower case. -/
  lowerAscii (t : Text) : Text := t.map Char.toLower

/-- The number of the hexadecimal digits a text starts with. -/
def hexNumber? (count : Nat) (t : Text) : Option Nat :=
  let digits := t.take count
  if digits.length = count && digits.all isHexDigit then some (numberInBase 16 digits) else none

/-- The text starts with the name of a character in braces. -/
def isNamed : Text → Bool
  | '\x7b' :: rest =>
    let name := rest.takeWhile (· != '\x7d')
    name.length < rest.length && isCharacterName name
  | _ => false

/-- What follows a backslash is an escape. A backslash before a character that it does
not escape stands for itself. -/
def isEscape (bytes : Bool) : Text → Bool
  | 'x' :: rest => (hexNumber? 2 rest).isSome
  | 'u' :: rest => bytes || (hexNumber? 4 rest).isSome
  | 'U' :: rest => bytes || (hexNumber? 8 rest).any (· ≤ 0x10FFFF)
  | 'N' :: rest => bytes || isNamed rest
  | _ => true

/-- The text after the closing quote. -/
def closeQuote? (q : Quoting) (quote : Char) (triple : Bool) : Text → Option Text
  | [] => none
  | '\\' :: c :: rest =>
    if (q.bytes && 128 ≤ c.toNat) || !(q.raw || isEscape q.bytes (c :: rest)) then none
    else closeQuote? q quote triple rest
  | c :: rest =>
    if c = quote then
      if !triple then some rest
      else
        match rest with
        | d :: e :: after =>
          if d = quote ∧ e = quote then some after else closeQuote? q quote triple (d :: e :: after)
        | _ => none
    else if (c == '\n' && !triple) || (q.bytes && 128 ≤ c.toNat) then none
    else closeQuote? q quote triple rest

/-- A text or bytes in quotes, given the letters before the opening quote. -/
def quoted? (letters : Text) (quote : Char) (rest : Text) : Option (Token × Text) := do
  let q ← quoting? letters
  let after ← match rest with
    | d :: e :: more =>
      if d = quote ∧ e = quote then closeQuote? q quote true more
      else closeQuote? q quote false rest
    | _ => closeQuote? q quote false rest
  return (if q.bytes then .bytes else .text, after)

/-! ## Words -/

/-- The letters that count as a plain letter in a name, besides itself. They have one
meaning with it and differ in how they look. -/
def lookalikes : List (Char × List Nat) := [
  ('s', [0x17F, 0x2E2, 0x209B, 0xFF53, 0x1D42C, 0x1D460, 0x1D494, 0x1D4C8, 0x1D4FC, 0x1D530,
    0x1D564, 0x1D598, 0x1D5CC, 0x1D600, 0x1D634, 0x1D668, 0x1D69C]),
  ('e', [0x1D49, 0x2091, 0x212F, 0x2147, 0xFF45, 0x1D41E, 0x1D452, 0x1D486, 0x1D4EE, 0x1D522,
    0x1D556, 0x1D58A, 0x1D5BE, 0x1D5F2, 0x1D626, 0x1D65A, 0x1D68E]),
  ('t', [0x1D57, 0x209C, 0xFF54, 0x1D42D, 0x1D461, 0x1D495, 0x1D4C9, 0x1D4FD, 0x1D531, 0x1D565,
    0x1D599, 0x1D5CD, 0x1D601, 0x1D635, 0x1D669, 0x1D69D])]

/-- The plain letter that a character counts as in a name. -/
def plainLetter (c : Char) : Char :=
  ((lookalikes.find? fun (_, codes) => codes.contains c.toNat).map (·.1)).getD c

/-- The token of a word. -/
def word? (word : Text) : Option Token :=
  if ["True", "False", "None"].any fun name => name.toList == word then some .constant
  else if word.map plainLetter = "set".toList then some .setName
  else none

/-! ## Lines -/

/-- How far a line is indented, and what comes after the indentation. A tab goes on to the
next multiple of eight, and a form feed starts over. Of the indentation of lines that are
joined by a backslash the first counts, given in `held`, unless it is none. No joined line
may be the end of the text. -/
def indentation? : (held column : Nat) → Text → Option (Nat × Text)
  | held, column, ' ' :: rest => indentation? held (column + 1) rest
  | held, column, '\t' :: rest => indentation? held ((column / 8 + 1) * 8) rest
  | held, _, '\x0c' :: rest => indentation? held 0 rest
  | held, column, '\\' :: '\n' :: c :: rest =>
    indentation? (if held = 0 then column else held) column (c :: rest)
  | _, _, '\\' :: _ => none
  | held, column, rest => some (if held = 0 then column else held, rest)

/-- What comes after blank lines and remarks. It must not be indented. As many steps as
there are lines are enough. -/
def skipLines? : Nat → Text → Option Text
  | 0, _ => none
  | steps + 1, t => do
    let (column, rest) ← indentation? 0 0 t
    match rest with
    | '\n' :: more => skipLines? steps more
    | '#' :: remark =>
      match remark.dropWhile (· != '\n') with
      | _ :: more => skipLines? steps more
      | [] => return []
    | _ => if column = 0 then return rest else none

/-! ## Tokens -/

/-- A token at the start of a text that starts with neither a blank nor a remark. -/
def token? (t : Text) : Option (Token × Text) :=
  match t with
  | [] => none
  | '(' :: rest => some (.leftParen, rest)
  | ')' :: rest => some (.rightParen, rest)
  | '\x7b' :: rest => some (.leftBrace, rest)
  | '\x7d' :: rest => some (.rightBrace, rest)
  | ',' :: rest => some (.comma, rest)
  | ':' :: rest => some (.colon, rest)
  | '+' :: rest | '-' :: rest => some (.sign, rest)
  | '.' :: '.' :: '.' :: rest => some (.constant, rest)
  | c :: rest =>
    if c = '"' ∨ c = '\x27' then quoted? [] c rest
    else if c.isDigit ∨ c = '.' then number? t
    else
      let letters := t.takeWhile isWord
      match t.drop letters.length with
      | quote :: after =>
        if (quote = '"' ∨ quote = '\x27') ∧ !letters.isEmpty then quoted? letters quote after
        else (word? letters).map (·, quote :: after)
      | [] => (word? letters).map (·, [])

/-- The most brackets inside one another. -/
def maxBrackets : Nat := 200

/-- The tokens of a text that stands inside so many brackets. Each step consumes a
character, so as many steps as there are characters are enough. -/
def tokensFrom? : Nat → Nat → Text → Option (List Token)
  | 0, _, t => if t.isEmpty then some [] else none
  | _, _, [] => some []
  | steps + 1, inside, c :: rest =>
    if c = ' ' ∨ c = '\t' ∨ c = '\x0c' then tokensFrom? steps inside rest
    else if c = '#' then tokensFrom? steps inside (rest.dropWhile (· != '\n'))
    else if c = '\n' then
      if inside ≠ 0 then tokensFrom? steps inside rest
      else if skipLines? (rest.length + 1) rest = some [] then some []
      else none
    else if c = '\\' then
      match rest with
      | '\n' :: d :: more => tokensFrom? steps inside (d :: more)
      | _ => none
    else do
      let (token, after) ← token? (c :: rest)
      let inside ← match token with
        | .leftParen | .leftBrace => if inside < maxBrackets then some (inside + 1) else none
        | .rightParen | .rightBrace => if inside = 0 then none else some (inside - 1)
        | _ => some inside
      return token :: (← tokensFrom? steps inside after)

/-- The tokens of a literal. Blanks in front of everything are no indentation. -/
def tokens? (t : Text) : Option (List Token) := do
  let t := unifyLineEnds (t.dropWhile fun c => c == ' ' || c == '\t')
  let line ← skipLines? (t.length + 1) t
  tokensFrom? (line.length + 1) 0 line

end Graft.Console
