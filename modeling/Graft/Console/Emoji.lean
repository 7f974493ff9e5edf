import Graft.Console.EmojiTable
import Graft.Text.Case
import Graft.Text.Digit

/-!
# Emoji

In a text that is shown, the name of an emoji between two colons stands for the emoji.
A name may end in `-text` or `-emoji`, which asks for one of the two ways an emoji can
look. What stands between two colons and is no name stays as it is.
-/

namespace Graft.Console

open Text

/-- What follows the first occurrence of a marker. -/
def following? (marker : Text) : Text → Option Text
  | [] => none
  | c :: rest =>
    if marker.isPrefixOf (c :: rest) then some ((c :: rest).drop marker.length)
    else following? marker rest

/-- The character of a hexadecimal code point. -/
def charOfHex (digits : Text) : Char :=
  Char.ofNat (numberInBase 16 digits)

/-- The emoji of a name in lower case. -/
def emoji? (name : Text) : Option Text := do
  let entries ← emojiTable.lookup (← name.head?)
  let found ← following? ([';'] ++ name ++ [':']) entries.toList
  return (split '.' (found.takeWhile fun c => c != ';' && !isBlank c)).map charOfHex

/-- The ways an emoji can look: how the name ends, and the character that asks for it. -/
def variants : List (Text × Char) :=
  [("-text".toList, Char.ofNat 0xFE0E), ("-emoji".toList, Char.ofNat 0xFE0F)]

/-- What stands between two colons, as an emoji. -/
def code? (content : Text) : Option Text :=
  match variants.find? fun (ending, _) => endsWith content ending with
  | some (ending, mark) =>
    (emoji? (lower (content.take (content.length - ending.length)))).map (· ++ [mark])
  | none => emoji? (lower content)

/-- The text with every name replaced. Each step consumes a character, so as many steps
as there are characters are enough. -/
def expandFrom : Nat → Text → Text
  | 0, t => t
  | _, [] => []
  | steps + 1, c :: rest =>
    if c = ':' then
      let content := rest.takeWhile fun d => d != ':' && !isBlank d
      match rest.drop content.length with
      | ':' :: after => (code? content).getD ([':'] ++ content ++ [':']) ++ expandFrom steps after
      | _ => c :: expandFrom steps rest
    else c :: expandFrom steps rest

/-- The text with every name of an emoji replaced by the emoji. -/
def expand (t : Text) : Text := expandFrom t.length t

end Graft.Console
