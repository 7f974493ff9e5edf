import Graft.Text.Case
import Graft.Text.Pattern

/-!
# The markup region

The markup of a document runs from the first bare `<template>` to the last
`</template>`. Blocks inside it carry attributes, so the first marker without any and
the last end marker are those of the root.

This file says whether a component already stands in a document (`hasComponent`), and
puts a tag into the markup region (`insert`). Presence is over-approximated on
purpose: an opening bracket followed by the name is enough, whatever comes after.
-/

namespace Graft

open Text

/-- Where in the markup region a tag goes. -/
inductive Position where
  /-- Right after the start marker. -/
  | beforeContent
  /-- After the root element's closing tag. -/
  | afterContent
  /-- Right before the end marker. -/
  | rootEnd
deriving DecidableEq, Repr

namespace Position

/-- The positions in the order in which they are listed. -/
def all : List Position := [.beforeContent, .afterContent, .rootEnd]

/-- The word a position is written as. -/
def name : Position → Text
  | .beforeContent => "before-content".toList
  | .afterContent => "after-content".toList
  | .rootEnd => "root-end".toList

/-- The position a word stands for. -/
def ofName? (name : Text) : Option Position := all.find? fun position => position.name == name

end Position

namespace Markup

/-- The marker that opens the markup region. -/
def startTag : Text := "<template>".toList

/-- The marker that closes the markup region. -/
def endTag : Text := "</template>".toList

/-- The document has a markup region to put a tag into. -/
def isPresent (code : Text) : Bool := occursIn startTag code

/-- A dynamic binding to a bare name: `:is`, an equals sign, and the name between two
equal quotes. -/
def bindingPatterns (name : Text) : List Pattern :=
  let quotes : List Char := ['"', '\x27']
  quotes.map fun q =>
    Pattern.exactly ":is".toList ++ Pattern.blanks ++ Pattern.exactly ['='] ++ Pattern.blanks ++
      Pattern.exactly [q] ++ Pattern.blanks ++ Pattern.exactly name ++ Pattern.blanks ++
      Pattern.exactly [q]

/-- A name stands in the document as an opening tag or a dynamic binding. -/
def mentions (code name : Text) : Bool :=
  occursIn ('<' :: name) code || Pattern.occurs (bindingPatterns name) code

/-- The component stands in the document, under its name as written or in lower case. -/
def hasName (code registerName : Text) : Bool :=
  mentions code registerName || mentions code (lower registerName)

/-- The text of a custom template stands in the document. An empty one never does. -/
def hasTemplate (code : Text) : Option Text → Bool
  | none => false
  | some template => !template.isEmpty && occursIn (trim template) code

/-- The component is already there, by name or by its custom template. -/
def hasComponent (code registerName : Text) (template : Option Text) : Bool :=
  hasName code registerName || hasTemplate code template

/-- A closing tag, up to the end of the text and blanks before it. -/
def closingPattern : Pattern :=
  let isNameChar (c : Char) : Bool := c.isAlphanum || c == '_' || c == '-'
  Pattern.exactly "</".toList ++ [.one isNameChar, .many isNameChar] ++ Pattern.exactly ['>'] ++
    Pattern.blanks ++ [.finish]

/-- Put a tag right before the end marker. -/
def insertAtEnd (head content tail tag : Text) : Text :=
  head ++ content ++ "  ".toList ++ tag ++ ['\n'] ++ tail

/-- Put a tag after the closing tag of the root element. Content that does not end in a
closing tag gets it right before the end marker. -/
def insertAfterRoot (head content tail tag : Text) : Text :=
  match Pattern.search? [closingPattern] content with
  | none => insertAtEnd head content tail tag
  | some cut =>
    head ++ cut.before ++ trimRight cut.found ++ "\n  ".toList ++ tag ++ blankTail cut.found ++
      cut.after ++ tail

/-- Put a tag into the markup region. A document without a start marker stays as it is,
and so does, unless the tag goes to the very start, one whose end marker is missing. -/
def insert (code tag : Text) (position : Position) : Text :=
  match cut? startTag code with
  | none => code
  | some (before, after) =>
    match position with
    | .beforeContent =>
      before ++ startTag ++ "\n  ".toList ++ tag ++ "\n  ".toList ++ trimLeft after
    | .afterContent =>
      match cutLast? endTag after with
      | none => code
      | some (content, rest) => insertAfterRoot (before ++ startTag) content (endTag ++ rest) tag
    | .rootEnd =>
      match cutLast? endTag after with
      | none => code
      | some (content, rest) => insertAtEnd (before ++ startTag) content (endTag ++ rest) tag

end Markup

end Graft
