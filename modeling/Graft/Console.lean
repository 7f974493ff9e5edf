import Graft.Console.Styled

/-!
# The console

What a command shows is a list of texts and tables, as they are when styling has been
resolved. Whatever is shown loses the control characters that would ring the bell or
move the cursor (`Printed.visible`).

How styling is resolved is not the program's own affair but that of the library it shows
things with, and the modules below this one only follow that library. What is proved of
runs, which files they leave and how they end, holds for any other way of showing things:
no proof opens `Console.plain`, `Console.escaped`, `Console.expand` or `Printed.visible`.
-/

namespace Graft

open Text

/-- Something that is shown. -/
inductive Printed where
  /-- A line, or several. -/
  | text (content : Text)
  /-- A table with a title, the names of its columns, and its rows. -/
  | table (title : Text) (columns : List Text) (rows : List (List Text))
deriving DecidableEq, Repr

namespace Console

/-- A character that rings the bell or moves the cursor: bell, backspace, vertical tab,
form feed or carriage return. -/
def isControl (c : Char) : Bool := c.toNat = 7 || c.toNat = 8 || (11 ≤ c.toNat && c.toNat ≤ 13)

/-- What is left of a text on the console. -/
def visible (t : Text) : Text := t.filter fun c => !isControl c

end Console

/-- What is left on the console of something that is shown. -/
def Printed.visible : Printed → Printed
  | .text content => .text (Console.visible content)
  | .table title columns rows =>
    .table (Console.visible title) (columns.map Console.visible)
      (rows.map (·.map Console.visible))

end Graft
