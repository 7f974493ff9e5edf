import Graft.Console.Color

/-!
# Styles

A style is a choice of attributes, a color, a color behind the text, and a link. It is
written in words, and there is more than one way to write the same style: attributes have
short names, and the order of words does not matter. So styles are compared by a normal
form (`Style.normalize`); what is no style is compared by its letters.
-/

namespace Graft.Console

open Text

/-- A style. -/
structure Style where
  /-- The attributes that are switched on or off, the latest first. -/
  attributes : List (Text × Bool) := []
  /-- The color of the text. -/
  color : Option Text := none
  /-- The color behind the text. -/
  background : Option Text := none
  /-- The address the text leads to. -/
  link : Option Text := none
deriving DecidableEq, Repr

namespace Style

/-- The attributes, in the order they are written, each with its short names. -/
def attributeNames : List (Text × List Text) :=
  [("bold", ["b"]), ("dim", ["d"]), ("italic", ["i"]), ("underline", ["u"]), ("blink", []),
    ("blink2", []), ("reverse", ["r"]), ("conceal", ["c"]), ("strike", ["s"]),
    ("underline2", ["uu"]), ("frame", []), ("encircle", []), ("overline", ["o"])].map
    fun (name, short) => (name.toList, short.map String.toList)

/-- The attribute a word stands for. -/
def attribute? (word : Text) : Option Text :=
  (attributeNames.find? fun (name, short) => name == word || short.contains word).map (·.1)

/-- Read the words of a style, after those already read. -/
def ofWords? (style : Style) : List Text → Except Fault (Option Style)
  | [] => .ok (some style)
  | word :: rest =>
    if lower word = "on".toList then
      match rest with
      | [] => .ok none
      | color :: more => do
        if ← isColor (lower color) then
          ofWords? { style with background := some (lower color) } more
        else return none
    else if lower word = "not".toList then
      match rest with
      | [] => .ok none
      | name :: more =>
        match attribute? name with
        | some name => ofWords? { style with attributes := (name, false) :: style.attributes } more
        | none => .ok none
    else if lower word = "link".toList then
      match rest with
      | [] => .ok none
      | address :: more => ofWords? { style with link := some address } more
    else
      match attribute? (lower word) with
      | some name => ofWords? { style with attributes := (name, true) :: style.attributes } rest
      | none => do
        if ← isColor (lower word) then ofWords? { style with color := some (lower word) } rest
        else return none

/-- Read a style. -/
def ofText? (t : Text) : Except Fault (Option Style) :=
  if trim t = "none".toList then .ok (some {}) else ofWords? {} (words t)

/-- The words of a style, in their order. -/
def toWords (style : Style) : List Text :=
  (attributeNames.filterMap fun (name, _) =>
    (style.attributes.lookup name).map fun on => if on then name else "not ".toList ++ name) ++
    style.color.toList ++ (style.background.map ("on ".toList ++ ·)).toList ++
    (style.link.map ("link ".toList ++ ·)).toList

/-- Write a style. -/
def toText (style : Style) : Text :=
  match style.toWords with
  | [] => "none".toList
  | words => join [' '] words

/-- The normal form of what a tag says. -/
def normalize (t : Text) : Except Fault Text := do
  match ← ofText? t with
  | some style => return style.toText
  | none => return lower (trim t)

end Style

end Graft.Console
