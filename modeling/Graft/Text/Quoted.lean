import Graft.Text.Printable

/-!
# Quoted texts

Two ways to write a text between quotes. `quoteLiteral` is for messages: single quotes,
or double ones when only single ones occur inside, and everything unprintable escaped
by its code. `quoteJson` is the JSON string: double quotes, and only what JSON requires
is escaped.
-/

namespace Graft.Text

/-- The low `width` hexadecimal digits of a number, in lower case. -/
def hex (width n : Nat) : Text :=
  let digits := Nat.toDigits 16 n
  List.replicate (width - digits.length) '0' ++ digits

/-- A character inside a literal that is closed by `quote`. -/
def literalChar (quote c : Char) : Text :=
  if c = quote ∨ c = '\\' then ['\\', c]
  else if c = '\t' then ['\\', 't']
  else if c = '\n' then ['\\', 'n']
  else if c = '\r' then ['\\', 'r']
  else if isPrintable c then [c]
  else if c.toNat < 0x100 then ['\\', 'x'] ++ hex 2 c.toNat
  else if c.toNat < 0x10000 then ['\\', 'u'] ++ hex 4 c.toNat
  else ['\\', 'U'] ++ hex 8 c.toNat

/-- A text as a literal in a message. -/
def quoteLiteral (t : Text) : Text :=
  let quote := if t.contains '\x27' && !t.contains '"' then '"' else '\x27'
  quote :: t.flatMap (literalChar quote) ++ [quote]

/-- A character inside a JSON string. -/
def jsonChar (c : Char) : Text :=
  if c = '"' ∨ c = '\\' then ['\\', c]
  else if c = '\n' then ['\\', 'n']
  else if c = '\r' then ['\\', 'r']
  else if c = '\t' then ['\\', 't']
  else if c.toNat = 8 then ['\\', 'b']
  else if c.toNat = 12 then ['\\', 'f']
  else if c.toNat < 32 then ['\\', 'u'] ++ hex 4 c.toNat
  else [c]

/-- A text as a JSON string. -/
def quoteJson (t : Text) : Text := '"' :: t.flatMap jsonChar ++ ['"']

end Graft.Text
