import Graft.Text.Digit
import Graft.Value.Basic

/-!
# Reading values

A reader for JSON. Besides the standard it takes the words `NaN`, `Infinity` and
`-Infinity`; of two fields with one key the later value takes the earlier place.
Control characters inside strings are refused.

Every function consumes the front of a text and returns its result with what is left. A
flaw is reported at the place where it is noticed, which is kept as the number of
characters left there and turned into an offset once, at the end (`ReadError.message`).
An integer literal that is too long is no flaw of the text and has an error of its own,
and so have too many lists and objects inside one another. How many are too many depends on
the machine that reads, so it is given to the reader.
-/

namespace Graft.Value

open Text

/-- What can be wrong with a JSON text. -/
inductive Flaw where
  /-- A value should start here. -/
  | value
  /-- A key should start here. -/
  | propertyName
  /-- A colon should stand here. -/
  | colon
  /-- A comma or the closing bracket should stand here. -/
  | comma
  /-- The string that starts here has no end. -/
  | unterminated
  /-- A control character stands in a string. -/
  | control
  /-- A backslash is followed by a character that it does not escape. -/
  | escape
  /-- An escape by code has not four hexadecimal digits. -/
  | unicodeEscape
  /-- Something follows the value. -/
  | extra
  /-- The text starts with a byte order mark. -/
  | byteOrderMark
deriving DecidableEq, Repr

/-- The words a flaw is reported with. -/
def Flaw.message : Flaw → Text
  | .value => "Expecting value".toList
  | .propertyName => "Expecting property name enclosed in double quotes".toList
  | .colon => "Expecting ':' delimiter".toList
  | .comma => "Expecting ',' delimiter".toList
  | .unterminated => "Unterminated string starting at".toList
  | .control => "Invalid control character at".toList
  | .escape => "Invalid \\escape".toList
  | .unicodeEscape => "Invalid \\uXXXX escape".toList
  | .extra => "Extra data".toList
  | .byteOrderMark => "Unexpected UTF-8 BOM (decode using utf-8-sig)".toList

/-- Why reading stopped, within the text. -/
inductive Stop where
  /-- A flaw, noticed with so many characters left. -/
  | flaw (kind : Flaw) (left : Nat)
  /-- An integer literal with so many digits. -/
  | tooLong (digits : Nat)
  /-- Too many lists and objects inside one another. -/
  | tooDeep
deriving DecidableEq, Repr

/-- The text without leading white space, of which JSON has four characters. -/
def skipSpace (t : Text) : Text :=
  t.dropWhile fun c => c == ' ' || c == '\t' || c == '\n' || c == '\r'

/-! ## Strings -/

/-- The value of four hexadecimal digits at the start of a text that goes on after them. -/
def hexUnit? : Text → Option (Nat × Text)
  | a :: b :: c :: d :: next :: rest => do
    let a ← hexDigit? a
    let b ← hexDigit? b
    let c ← hexDigit? c
    let d ← hexDigit? d
    return (((a * 16 + b) * 16 + c) * 16 + d, next :: rest)
  | _ => none

/-- The escape that follows `\u`, given the text after it. A high half followed by
another escape is joined with it when that one is a low half. A half that stays alone
is no character and is read as the replacement character. -/
def unicodeEscape (t : Text) : Except Stop (Char × Text) :=
  match hexUnit? t with
  | none => .error (.flaw .unicodeEscape (t.length + 1))
  | some (unit, rest) =>
    let alone : Char := if 0xD800 ≤ unit ∧ unit < 0xE000 then Char.ofNat 0xFFFD else Char.ofNat unit
    match rest with
    | '\\' :: 'u' :: more =>
      if 0xD800 ≤ unit ∧ unit < 0xDC00 ∧ 4 < more.length then
        match hexUnit? more with
        | none => .error (.flaw .unicodeEscape (more.length + 1))
        | some (low, after) =>
          if 0xDC00 ≤ low ∧ low < 0xE000 then
            .ok (Char.ofNat (0x10000 + (unit - 0xD800) * 0x400 + (low - 0xDC00)), after)
          else .ok (alone, rest)
      else .ok (alone, rest)
    | _ => .ok (alone, rest)

/-- The character of an escape, given the text after the backslash. -/
def escape (start : Nat) : Text → Except Stop (Char × Text)
  | [] => .error (.flaw .unterminated start)
  | 'u' :: rest => unicodeEscape rest
  | '"' :: rest => .ok ('"', rest)
  | '\\' :: rest => .ok ('\\', rest)
  | '/' :: rest => .ok ('/', rest)
  | 'b' :: rest => .ok ('\x08', rest)
  | 'f' :: rest => .ok ('\x0c', rest)
  | 'n' :: rest => .ok ('\n', rest)
  | 'r' :: rest => .ok ('\r', rest)
  | 't' :: rest => .ok ('\t', rest)
  | c :: rest => .error (.flaw .escape ((c :: rest).length + 1))

/-- The rest of a string whose opening quote had `start` characters left, itself
included. Each step consumes a character, so as many steps as there are characters
are enough. -/
def stringRest (start : Nat) : Nat → Text → Except Stop (Text × Text)
  | 0, _ | _, [] => .error (.flaw .unterminated start)
  | steps + 1, c :: rest =>
    if c = '"' then .ok ([], rest)
    else if c = '\\' then do
      let (char, after) ← escape start rest
      let (chars, after) ← stringRest start steps after
      return (char :: chars, after)
    else if c.toNat < 32 then .error (.flaw .control (c :: rest).length)
    else do
      let (chars, after) ← stringRest start steps rest
      return (c :: chars, after)

/-- A string, given the text after its opening quote. -/
def string (t : Text) : Except Stop (Text × Text) := stringRest (t.length + 1) (t.length + 1) t

/-! ## Numbers -/

/-- The number that decimal digits stand for. -/
def digitsValue (digits : Text) : Nat :=
  digits.foldl (fun n c => 10 * n + (c.toNat - '0'.toNat)) 0

/-- Decimal digits at the start of a text. -/
def digits (t : Text) : Text × Text := (t.takeWhile Char.isDigit, t.dropWhile Char.isDigit)

/-- The whole part of a number: one zero, or digits that do not start with one. -/
def wholePart : Text → Text × Text
  | '0' :: rest => (['0'], rest)
  | t => digits t

/-- The digits after a point. A point that no digit follows is not part of the number. -/
def fraction : Text → Text × Text
  | '.' :: rest =>
    match digits rest with
    | ([], _) => ([], '.' :: rest)
    | found => found
  | t => ([], t)

/-- The exponent of a number, where it has one with at least one digit. -/
def exponent? (t : Text) : Option (Int × Text) :=
  match t with
  | mark :: rest =>
    if mark = 'e' ∨ mark = 'E' then
      let (negative, unsigned) :=
        match rest with
        | '-' :: more => (true, more)
        | '+' :: more => (false, more)
        | more => (false, more)
      match digits unsigned with
      | ([], _) => none
      | (found, after) =>
        let n : Int := digitsValue found
        some (if negative then -n else n, after)
    else none
  | [] => none

/-- The most digits an integer may have. -/
def maxDigits : Nat := 4300

/-- A number. It is an integer unless it has a fraction or an exponent. -/
def number (t : Text) : Except Stop (Value × Text) :=
  let (negative, unsigned) := match t with
    | '-' :: rest => (true, rest)
    | _ => (false, t)
  match wholePart unsigned with
  | ([], _) => .error (.flaw .value t.length)
  | (whole, rest) =>
    let (places, rest) := fraction rest
    match exponent? rest, places with
    | none, [] =>
      if maxDigits < whole.length then .error (.tooLong whole.length)
      else
        let n : Int := digitsValue whole
        .ok (.int (if negative then -n else n), rest)
    | none, _ =>
      .ok (.float (.ofDecimal negative (digitsValue (whole ++ places)) (-places.length)), rest)
    | some (e, rest), _ =>
      .ok (.float (.ofDecimal negative (digitsValue (whole ++ places)) (e - places.length)), rest)

/-! ## Values -/

/-- The words that stand for values. -/
def words : List (Text × Value) :=
  [("null".toList, .null), ("true".toList, .bool true), ("false".toList, .bool false),
    ("NaN".toList, .float .nan), ("Infinity".toList, .float (.infinite false)),
    ("-Infinity".toList, .float (.infinite true))]

/-- A value that is neither a string nor a list nor an object. -/
def scalar (t : Text) : Except Stop (Value × Text) :=
  match words.find? fun (word, _) => word.isPrefixOf t with
  | some (word, v) => .ok (v, t.drop word.length)
  | none => number t

mutual

/-- A value that may hold `room` lists and objects inside one another. Of every two steps
one consumes a character, so twice as many steps as there are characters are enough. -/
def value : Nat → Nat → Text → Except Stop (Value × Text)
  | 0, _, t => .error (.flaw .value t.length)
  | _, _, [] => .error (.flaw .value 0)
  | steps + 1, room, c :: rest =>
    if c = '"' then do
      let (t, after) ← string rest
      return (.str t, after)
    else if c = '[' then
      match room, skipSpace rest with
      | 0, _ => .error .tooDeep
      | _, ']' :: after => .ok (.list [], after)
      | room + 1, inner => do
        let (elements, after) ← elements steps room inner
        return (.list elements, after)
    else if c = '{' then
      match room, skipSpace rest with
      | 0, _ => .error .tooDeep
      | _, '}' :: after => .ok (.object [], after)
      | room + 1, inner => do
        let (fields, after) ← fields steps room [] inner
        return (.object fields, after)
    else scalar (c :: rest)

/-- The elements of a list, up to and with its closing bracket. -/
def elements : Nat → Nat → Text → Except Stop (List Value × Text)
  | 0, _, t => .error (.flaw .value t.length)
  | steps + 1, room, t => do
    let (v, rest) ← value steps room t
    match skipSpace rest with
    | ']' :: after => return ([v], after)
    | ',' :: more => do
      let (vs, after) ← elements steps room (skipSpace more)
      return (v :: vs, after)
    | other => .error (.flaw .comma other.length)

/-- The fields of an object, after those already read, up to and with its closing
brace. -/
def fields : Nat → Nat → List (Text × Value) → Text → Except Stop (List (Text × Value) × Text)
  | 0, _, _, t => .error (.flaw .propertyName t.length)
  | steps + 1, room, seen, t =>
    match t with
    | '"' :: rest => do
      let (key, rest) ← string rest
      match skipSpace rest with
      | ':' :: rest => do
        let (v, rest) ← value steps room (skipSpace rest)
        match skipSpace rest with
        | '}' :: after => return (setField key v seen, after)
        | ',' :: more => fields steps room (setField key v seen) (skipSpace more)
        | other => .error (.flaw .comma other.length)
      | other => .error (.flaw .colon other.length)
    | other => .error (.flaw .propertyName other.length)

end

/-! ## Whole texts -/

/-- Why a text could not be read. -/
inductive ReadError where
  /-- The text is not JSON: what is wrong, and the text up to that place. -/
  | malformed (kind : Flaw) (before : Text)
  /-- An integer literal has too many digits. -/
  | tooLong (digits : Nat)
  /-- There are too many lists and objects inside one another. -/
  | tooDeep
deriving DecidableEq, Repr

/-- A message says what is wrong and where: line, column and offset. -/
def ReadError.message : ReadError → Text
  | .malformed kind before =>
    let line := before.count '\n' + 1
    let column := (before.reverse.takeWhile (· != '\n')).length + 1
    kind.message ++ ": line ".toList ++ ofNat line ++ " column ".toList ++ ofNat column ++
      " (char ".toList ++ ofNat before.length ++ ")".toList
  | .tooLong digits =>
    "Exceeds the limit (".toList ++ ofNat maxDigits ++
      " digits) for integer string conversion: value has ".toList ++ ofNat digits ++
      " digits; use sys.set_int_max_str_digits() to increase the limit".toList
  | .tooDeep => "maximum recursion depth exceeded".toList

/-- A value with nothing but white space around it, with room for lists and objects inside one
another. -/
def whole (room : Nat) (t : Text) : Except Stop Value :=
  if t.head? == some (Char.ofNat 0xFEFF) then .error (.flaw .byteOrderMark t.length)
  else do
    let (v, rest) ← value (2 * t.length + 2) room (skipSpace t)
    match skipSpace rest with
    | [] => return v
    | other => .error (.flaw .extra other.length)

/-- How many lists and objects there can be inside one another unless the machine says
otherwise. -/
def usualRoom : Nat := 980

/-- Read a text as one value, with room for lists and objects inside one another. -/
def parse (t : Text) (room : Nat := usualRoom) : Except ReadError Value :=
  match whole room t with
  | .ok v => .ok v
  | .error (.flaw kind left) => .error (.malformed kind (t.take (t.length - left)))
  | .error (.tooLong digits) => .error (.tooLong digits)
  | .error .tooDeep => .error .tooDeep

end Graft.Value
