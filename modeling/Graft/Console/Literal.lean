import Graft.Console.Token

/-!
# Literals

A tag can name an action, and give it parameters. These have to be written out: numbers,
texts, bytes, a few constants, and tuples, sets and tables of these. This file decides
whether a text is such a literal (`isLiteral`), by putting its tokens together (`atom?`).

A sign may stand before a number, and a real number and an imaginary one may be added.
What is in a set or is a key of a table must not be a set or a table itself.

A literal is read with a stack of limited size. How much of it a literal needs is told
from its tokens alone (`peak`).
-/

namespace Graft.Console

open Text

/-! ## Values -/

/-- What matters about the value of a literal. -/
inductive Shape where
  /-- A real number without a sign. -/
  | real
  /-- A number without a sign that is too large to be added to an imaginary one. -/
  | huge
  /-- A real number with a sign. -/
  | signed
  /-- An imaginary number without a sign. -/
  | imaginary
  /-- Another value that can be in a set. -/
  | fixed
  /-- A value that cannot be in a set. -/
  | mutable
  /-- The name that makes an empty set, which is no value by itself. -/
  | setName
deriving DecidableEq, Repr

/-- What a sign before a number makes of it. -/
def signedShape? : Shape × List Token → Option (Shape × List Token)
  | (.real, rest) => some (.signed, rest)
  | (.huge, rest) | (.imaginary, rest) => some (.fixed, rest)
  | _ => none

/-- The name that makes an empty set makes one when empty parentheses follow. -/
def called : Shape × List Token → Shape × List Token
  | (.setName, .leftParen :: .rightParen :: rest) => (.mutable, rest)
  | other => other

/-- A value, and not only the name that makes one. -/
def value? : Shape × List Token → Option (Shape × List Token)
  | (.setName, _) => none
  | other => some other

mutual

/-- A value that is not put together by signs. Of every three steps one consumes a
token. -/
def atom? : Nat → List Token → Option (Shape × List Token)
  | 0, _ => none
  | _ + 1, .leftParen :: .rightParen :: rest => some (.fixed, rest)
  | steps + 1, .leftParen :: rest => do
    let (shape, rest) ← sum? steps rest
    match rest with
    | .rightParen :: rest => return called (shape, rest)
    | .comma :: rest =>
      let (shape, rest) ← value? (shape, rest)
      let (others, rest) ← items? steps .rightParen rest
      return (if (shape :: others).contains .mutable then .mutable else .fixed, rest)
    | _ => none
  | _ + 1, .leftBrace :: .rightBrace :: rest => some (.mutable, rest)
  | steps + 1, .leftBrace :: rest => do
    let (shape, rest) ← (sum? steps rest).bind value?
    if shape = .mutable then none
    else
      match rest with
      | .colon :: rest =>
        let (_, rest) ← (sum? steps rest).bind value?
        return (.mutable, ← fields? steps rest)
      | .rightBrace :: rest => return (.mutable, rest)
      | .comma :: rest =>
        let (others, rest) ← items? steps .rightBrace rest
        if others.contains .mutable then none else return (.mutable, rest)
      | _ => none
  | _ + 1, .real :: rest => some (.real, rest)
  | _ + 1, .huge :: rest => some (.huge, rest)
  | _ + 1, .imaginary :: rest => some (.imaginary, rest)
  | _ + 1, .constant :: rest => some (.fixed, rest)
  | _ + 1, .setName :: rest => some (called (.setName, rest))
  | _ + 1, .text :: rest =>
    let rest := rest.dropWhile (· == .text)
    if rest.head? == some .bytes then none else some (.fixed, rest)
  | _ + 1, .bytes :: rest =>
    let rest := rest.dropWhile (· == .bytes)
    if rest.head? == some .text then none else some (.fixed, rest)
  | _, _ => none

/-- A value. -/
def sum? : Nat → List Token → Option (Shape × List Token)
  | 0, _ => none
  | steps + 1, tokens => do
    let (shape, rest) ← match tokens with
      | .sign :: rest => (atom? steps rest).bind signedShape?
      | _ => atom? steps tokens
    match rest with
    | .sign :: rest =>
      if shape = .real ∨ shape = .signed then do
        match ← atom? steps rest with
        | (.imaginary, rest) => return (.fixed, rest)
        | _ => none
      else none
    | _ => return (shape, rest)

/-- The values after a comma, up to and with the closing bracket. -/
def items? : Nat → Token → List Token → Option (List Shape × List Token)
  | 0, _, _ => none
  | steps + 1, close, tokens =>
    if tokens.head? == some close then some ([], tokens.drop 1)
    else do
      let (shape, rest) ← (sum? steps tokens).bind value?
      match rest with
      | .comma :: rest =>
        let (others, rest) ← items? steps close rest
        return (shape :: others, rest)
      | token :: rest => if token = close then return ([shape], rest) else none
      | [] => none

/-- The fields of a table after the value of one, up to and with the closing brace. -/
def fields? : Nat → List Token → Option (List Token)
  | 0, _ => none
  | _ + 1, .rightBrace :: rest => some rest
  | _ + 1, .comma :: .rightBrace :: rest => some rest
  | steps + 1, .comma :: rest => do
    let (shape, rest) ← (sum? steps rest).bind value?
    if shape = .mutable then none
    else
      match rest with
      | .colon :: rest =>
        let (_, rest) ← (sum? steps rest).bind value?
        fields? steps rest
      | _ => none
  | _, _ => none

end

/-! ## How much of the stack is needed -/

/-- What a place in a literal is inside of. -/
inductive Enclosure where
  /-- Nothing. -/
  | nothing
  /-- The parentheses of a tuple or of a value. -/
  | parens
  /-- The braces of a set or of a table. -/
  | braces
  /-- The parentheses after the name that makes an empty set. -/
  | call
deriving DecidableEq, Repr

/-- A place where a value can stand. -/
structure Place where
  /-- What it is inside of. -/
  enclosure : Enclosure
  /-- How many commas stand before it in there. -/
  commas : Nat := 0
  /-- A sign stands before the value. -/
  signed : Bool := false
deriving DecidableEq, Repr

/-- How much of the stack is in use at a place, beyond what is in use outside. -/
def Place.weight (p : Place) : Nat :=
  let weights := match p.enclosure with
    | .nothing => [0, 2, 2]
    | .parens => [28, 30, 31]
    | .braces => [29, 30, 30]
    | .call => [24, 24, 24]
  weights.getD (min p.commas 2) 0 + if p.signed then 1 else 0

/-- A value can start after the token, or at the start. -/
def startsValue : Option Token → Bool
  | none | some .leftParen | some .leftBrace | some .comma | some .colon => true
  | _ => false

/-- The places after a token, the innermost first, given the places and the token before
it. -/
def advance (before : Option Token) (token : Token) : List Place → List Place
  | [] => []
  | here :: outer =>
    match token with
    | .leftParen =>
      let isCall := before == some .setName || before == some .rightParen
      { enclosure := if isCall then .call else .parens } :: here :: outer
    | .leftBrace => { enclosure := .braces } :: here :: outer
    | .rightParen | .rightBrace => outer
    | .comma => { here with commas := here.commas + 1, signed := false } :: outer
    | .colon => { here with signed := false } :: outer
    | .sign => { here with signed := startsValue before } :: outer
    | _ => here :: outer

/-- How much of the stack a number or a word needs. -/
def tokenWeight : Nat := 25

/-- The most of the stack that is in use from some token on. A text in quotes needs a
little more than other tokens do. -/
def peakFrom (before : Option Token) (places : List Place) : List Token → Nat
  | [] => 0
  | token :: rest =>
    let after := advance before token places
    let weight := (after.map Place.weight).sum + tokenWeight +
      if token = .text ∨ token = .bytes then 2 else 0
    max weight (peakFrom (some token) after rest)

/-- The most of the stack that is in use for a literal. -/
def peak (tokens : List Token) : Nat := peakFrom none [{ enclosure := .nothing }] tokens

/-- The size of the stack. -/
def stackSize : Nat := 6000

/-! ## Literals -/

/-- A text is a literal. Values with commas between them are a tuple also without
parentheses. -/
def isLiteral (t : Text) : Bool :=
  !t.contains '\x00' &&
    match tokens? t with
    | none | some [] => false
    | some tokens =>
      peak tokens ≤ stackSize &&
        match atom? (4 * tokens.length + 8) (.leftParen :: tokens ++ [.rightParen]) with
        | some (shape, []) => shape != .setName
        | _ => false

/-- The parameters of an action are in order. They are a name, a name and a literal in
parentheses, or a literal. -/
def isParameters (t : Text) : Bool :=
  let rest := t.dropWhile fun c => isWord c || c == '.'
  rest.isEmpty ||
    isLiteral (if rest.head? == some '(' && rest.getLast? == some ')' && !rest.contains '\n'
      then rest else t)

end Graft.Console
