import Graft.Number.Shortest
import Graft.Text.Quoted
import Graft.Value.Basic

/-!
# Writing values

A value has two written forms. `json` is JSON on one line, with a blank after every
comma and colon, and with characters outside ASCII as they are. `literal` is the form
values take in messages: texts in single quotes, and the constants spelled `None`,
`True` and `False`. A text by itself is shown as it is (`display`).
-/

namespace Graft.Value

open Text

/-- A number as JSON writes it. -/
def floatJson : Binary64 → Text := Binary64.render "NaN".toList "Infinity".toList

/-- A number as messages show it. -/
def floatLiteral : Binary64 → Text := Binary64.render "nan".toList "inf".toList

/-- The separator between elements. -/
def comma : Text := ", ".toList

mutual

/-- The value as JSON. -/
def json : Value → Text
  | .null => "null".toList
  | .bool b => if b then "true".toList else "false".toList
  | .int i => ofInt i
  | .float x => floatJson x
  | .str t => quoteJson t
  | .list elements => ['['] ++ jsonElements elements ++ [']']
  | .object fields => ['{'] ++ jsonFields fields ++ ['}']

/-- The elements of a list as JSON, without the brackets. -/
def jsonElements : List Value → Text
  | [] => []
  | [v] => json v
  | v :: rest => json v ++ comma ++ jsonElements rest

/-- The fields of an object as JSON, without the braces. -/
def jsonFields : List (Text × Value) → Text
  | [] => []
  | [(key, v)] => quoteJson key ++ ": ".toList ++ json v
  | (key, v) :: rest => quoteJson key ++ ": ".toList ++ json v ++ comma ++ jsonFields rest

end

mutual

/-- The value as messages show it. -/
def literal : Value → Text
  | .null => "None".toList
  | .bool b => if b then "True".toList else "False".toList
  | .int i => ofInt i
  | .float x => floatLiteral x
  | .str t => quoteLiteral t
  | .list elements => ['['] ++ literalElements elements ++ [']']
  | .object fields => ['{'] ++ literalFields fields ++ ['}']

/-- The elements of a list in a message, without the brackets. -/
def literalElements : List Value → Text
  | [] => []
  | [v] => literal v
  | v :: rest => literal v ++ comma ++ literalElements rest

/-- The fields of an object in a message, without the braces. -/
def literalFields : List (Text × Value) → Text
  | [] => []
  | [(key, v)] => quoteLiteral key ++ ": ".toList ++ literal v
  | (key, v) :: rest =>
    quoteLiteral key ++ ": ".toList ++ literal v ++ comma ++ literalFields rest

end

/-- The value where a text is put together: a text as it is, anything else as a literal. -/
def display : Value → Text
  | .str t => t
  | v => literal v

end Graft.Value
