import Graft.Console.Emoji
import Graft.Console.Literal
import Graft.Console.Style

/-!
# Styled text

Text that is shown may carry styling. A tag in square brackets switches a style on, and
one that starts with a slash switches it off again. A tag starts with a small letter or
one of three signs; a backslash before it makes it text, and two backslashes make one.

Only the plain text is of interest here, so styling is resolved away: `plain` gives the
text without its tags, or a fault where a closing tag closes nothing. What comes from
elsewhere is put into styled text by `escape`, which keeps its tags from being taken for
tags; `escaped` is what is then shown. It is nearly the same text, but not quite: a
backslash goes where it stands before a bracket that starts no tag, and comes where it
stands alone at the end.
-/

namespace Graft.Console

open Text

/-- A piece of styled text. -/
inductive Piece where
  /-- Text between two tags. -/
  | text (content : Text)
  /-- A tag and how many backslashes stand before it. -/
  | tag (slashes : Nat) (content : Text)
deriving DecidableEq, Repr

/-- A tag at the start of a text that follows an opening bracket: its content, and the
text after its closing bracket. -/
def tag? : Text → Option (Text × Text)
  | [] => none
  | c :: rest =>
    if ('a' ≤ c ∧ c ≤ 'z') ∨ c = '#' ∨ c = '/' ∨ c = '@' then
      let inner := rest.takeWhile fun d => d != ']' && d != '['
      match rest.drop inner.length with
      | ']' :: after => some (c :: inner, after)
      | _ => none
    else none

/-- Text in front of pieces. -/
def prepend (t : Text) : List Piece → List Piece
  | .text content :: rest => .text (t ++ content) :: rest
  | pieces => .text t :: pieces

/-- The pieces of styled text. Each step consumes a character, so as many steps as there
are characters are enough. -/
def piecesFrom : Nat → Text → List Piece
  | 0, _ | _, [] => []
  | steps + 1, c :: rest =>
    let slashes := (c :: rest).takeWhile (· == '\\')
    match (c :: rest).drop slashes.length with
    | '[' :: inner =>
      match tag? inner with
      | some (content, after) => .tag slashes.length content :: piecesFrom steps after
      | none => prepend (slashes ++ ['[']) (piecesFrom steps inner)
    | after =>
      if slashes.isEmpty then prepend [c] (piecesFrom steps rest)
      else prepend slashes (piecesFrom steps after)

/-- The pieces of styled text. -/
def pieces (t : Text) : List Piece := piecesFrom t.length t

/-- So many backslashes. -/
def slashes (count : Nat) : Text := List.replicate count '\\'

/-! ## Text -/

/-- The text without the backslash before each opening bracket. -/
def freeBrackets : Text → Text
  | '\\' :: '[' :: rest => '[' :: freeBrackets rest
  | c :: rest => c :: freeBrackets rest
  | [] => []

/-- What a piece shows. An odd number of backslashes makes a tag text. -/
def Piece.shown : Piece → Text
  | .text content => expand (freeBrackets content)
  | .tag count content =>
    slashes (count / 2) ++ if count % 2 = 1 then expand (['['] ++ content ++ [']']) else []

/-- What styled text shows. -/
def shown (t : Text) : Text := (pieces t).flatMap Piece.shown

/-- Text with its tags kept from being tags, and with a backslash at its end doubled. -/
def escape (t : Text) : Text :=
  let kept := (pieces t).flatMap fun piece =>
    match piece with
    | .text content => content
    | .tag count content => slashes (2 * count + 1) ++ ['['] ++ content ++ [']']
  if endsWith kept (slashes 1) && !endsWith kept (slashes 2) then kept ++ slashes 1 else kept

/-- What is shown of text that comes from elsewhere. -/
def escaped (t : Text) : Text := shown (escape t)

/-! ## Styles -/

/-- A style that is on: its normal form, and the parameters of its tag. -/
structure Opened where
  /-- The normal form of the style. -/
  name : Text
  /-- What follows the equals sign in the tag. -/
  parameters : Option Text
deriving DecidableEq, Repr

/-- Take the latest style of a name from those that are on. -/
def take? (name : Text) (styles : List Opened) : Option (Opened × List Opened) :=
  (styles.find? fun style => style.name == name).map fun style => (style, styles.erase style)

/-- An action that is switched off has parameters that are in order. -/
def Opened.isSound (style : Opened) : Bool :=
  match style.parameters with
  | some (c :: t) => style.name.head? != some '@' || isParameters (trim (c :: t))
  | _ => true

/-- The styles that are on after a tag, given those before it, the latest first. A bare
slash switches the latest one off. -/
def restyle (styles : List Opened) (tag : Text) : Except Fault (List Opened) := do
  let (name, parameters) := match cut? ['='] tag with
    | some (before, after) => (before, some after)
    | none => (tag, none)
  match name with
  | '/' :: closing =>
    let closed ←
      if (trim closing).isEmpty then pure (styles.head?.map fun style => (style, styles.tail))
      else pure (take? (← Style.normalize (trim closing)) styles)
    match closed with
    | some (style, rest) => if style.isSound then return rest else .error (.styling tag)
    | none => .error (.styling tag)
  | _ => return ⟨← Style.normalize name, parameters⟩ :: styles

/-- Every tag among the pieces can be followed. -/
def checkStyles (styles : List Opened) : List Piece → Except Fault Unit
  | [] => .ok ()
  | .tag count content :: rest =>
    if count % 2 = 1 then checkStyles styles rest
    else do checkStyles (← restyle styles content) rest
  | _ :: rest => checkStyles styles rest

/-- The plain text of styled text. -/
def plain (t : Text) : Except Fault Text := do
  checkStyles [] (pieces t)
  return shown t

end Graft.Console
