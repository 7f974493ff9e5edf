import Graft.Text.Quoted

/-!
# UTF-8

Files are bytes, and documents are read from them as UTF-8. A sequence of bytes that no
character has is refused with the place where it starts and what is wrong with it: a
byte that starts no character, a byte that does not continue one, or an end in the
middle of one. Line ends of every kind become a single newline.
-/

namespace Graft

/-- The content of a file. -/
abbrev Bytes := List UInt8

namespace Utf8

open Text

/-- What can be wrong with a sequence of bytes. -/
inductive Flaw where
  /-- The byte starts no character. -/
  | start
  /-- A character is not continued by the bytes it needs. -/
  | continuation
  /-- The bytes end in the middle of a character. -/
  | truncated
deriving DecidableEq, Repr

/-- The words a flaw is reported with. -/
def Flaw.message : Flaw → Text
  | .start => "invalid start byte".toList
  | .continuation => "invalid continuation byte".toList
  | .truncated => "unexpected end of data".toList

/-- A sequence of bytes that is no character. -/
structure Fault where
  /-- What is wrong. -/
  flaw : Flaw
  /-- The first byte of the sequence. -/
  byte : UInt8
  /-- Where the sequence starts. -/
  position : Nat
  /-- How many bytes it has. -/
  count : Nat
deriving DecidableEq, Repr

/-- A message names a single byte by its value and several by their places. -/
def Fault.message (fault : Fault) : Text :=
  let place :=
    if fault.count = 1 then
      "byte 0x".toList ++ hex 2 fault.byte.toNat ++ " in position ".toList ++
        ofNat fault.position
    else
      "bytes in position ".toList ++ ofNat fault.position ++ ['-'] ++
        ofNat (fault.position + fault.count - 1)
  "'utf-8' codec can't decode ".toList ++ place ++ ": ".toList ++ fault.flaw.message

/-- The bytes that may come second after a first one, and how many bytes follow the
first in all. -/
def lead? (first : UInt8) : Option (UInt8 × UInt8 × Nat) :=
  if first < 0xC2 then none
  else if first < 0xE0 then some (0x80, 0xBF, 1)
  else if first = 0xE0 then some (0xA0, 0xBF, 2)
  else if first = 0xED then some (0x80, 0x9F, 2)
  else if first < 0xF0 then some (0x80, 0xBF, 2)
  else if first = 0xF0 then some (0x90, 0xBF, 3)
  else if first < 0xF4 then some (0x80, 0xBF, 3)
  else if first = 0xF4 then some (0x80, 0x8F, 3)
  else none

/-- The bytes a character still needs, the first of them between two bounds. The result
is the code point with their bits appended and the bytes after them, or what is wrong
and how many bytes belong to it. -/
def following (seen : Nat) (low high : UInt8) :
    Nat → Nat → Bytes → Except (Flaw × Nat) (Nat × Bytes)
  | 0, code, rest => .ok (code, rest)
  | _ + 1, _, [] => .error (.truncated, seen)
  | need + 1, code, b :: rest =>
    if low ≤ b ∧ b ≤ high then
      following (seen + 1) 0x80 0xBF need (code * 64 + (b.toNat - 0x80)) rest
    else .error (.continuation, seen)

/-- The bits of a first byte that belong to the code point. -/
def leadBits (first : UInt8) (need : Nat) : Nat := first.toNat % Nat.pow 2 (6 - need)

/-- The first character of some bytes and the bytes after it. -/
def step (first : UInt8) (rest : Bytes) : Except (Flaw × Nat) (Char × Bytes) :=
  if first < 0x80 then .ok (Char.ofNat first.toNat, rest)
  else
    match lead? first with
    | none => .error (.start, 1)
    | some (low, high, need) =>
      match following 1 low high need (leadBits first need) rest with
      | .ok (code, after) => .ok (Char.ofNat code, after)
      | .error flaw => .error flaw

/-- The characters of some bytes that start at a position. Each step consumes a byte, so
as many steps as there are bytes are enough. -/
def decodeFrom : Nat → Nat → Bytes → Except Fault Text
  | 0, _, _ => .ok []
  | _, _, [] => .ok []
  | steps + 1, position, first :: rest =>
    match step first rest with
    | .error (flaw, count) => .error ⟨flaw, first, position, count⟩
    | .ok (c, after) =>
      match decodeFrom steps (position + c.utf8Size) after with
      | .ok t => .ok (c :: t)
      | .error fault => .error fault

/-- The text that bytes stand for. -/
def decode (bytes : Bytes) : Except Fault Text := decodeFrom bytes.length 0 bytes

/-- The bytes of a text. -/
def encode (t : Text) : Bytes := t.flatMap String.utf8EncodeChar

end Utf8

namespace Text

/-- Every line end, of one character or two, as a single newline. -/
def unifyLineEnds : Text → Text
  | [] => []
  | '\r' :: '\n' :: rest => '\n' :: unifyLineEnds rest
  | c :: rest => (if c = '\r' then '\n' else c) :: unifyLineEnds rest

end Text

end Graft
