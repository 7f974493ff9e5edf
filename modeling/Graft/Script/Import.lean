import Graft.Script.Info

/-!
# Imports

The import of the component goes right after the start tag of the script. A document
without a script gets one, placed before everything else, that holds only the import
and, since nothing can be said about its style, an empty default export to register
the component in.
-/

namespace Graft.Script

open Text

namespace Import

/-- The two shapes in which a name is seen to be imported: on its own after `import`,
or as a word between the braces that follow `import`. -/
def patterns (name : Text) : List Pattern :=
  let source := Pattern.exactly "from".toList ++ [.edge]
  [Pattern.exactly "import".toList ++ Pattern.spacing ++ Pattern.exactly name ++
      Pattern.spacing ++ source,
    Pattern.exactly "import".toList ++ Pattern.blanks ++ Pattern.exactly ['{'] ++
      [.many (· != '}'), .edge] ++ Pattern.exactly name ++ [.edge, .many (· != '}')] ++
      Pattern.exactly ['}'] ++ Pattern.blanks ++ source]

/-- The document imports the name. -/
def present (code name : Text) : Bool := Pattern.occurs (patterns name) code

/-- The statement that imports a name from a path, which is written as it is. -/
def statement (name path : Text) : Text :=
  "import ".toList ++ name ++ " from '".toList ++ path ++ "';\n".toList

/-- A script region that holds one import. Scripts that register components get an
empty default export. -/
def synthesize (statement : Text) (dialect : Dialect) (typed : Bool) : Text :=
  let lang := if typed then " lang=\"ts\"".toList else []
  match dialect with
  | .setup =>
    "<script setup".toList ++ lang ++ ">\n".toList ++ statement ++ "</script>\n".toList
  | .options | .absent =>
    "<script".toList ++ lang ++ ">\n".toList ++ statement ++
      "\nexport default \x7b\x7d\n</script>\n".toList

/-- Import a name unless the document imports it already. -/
def add (code name path : Text) : Text :=
  if present code name then code
  else
    match startTag? code with
    | none => synthesize (statement name path) .options (isTyped code) ++ code
    | some tag => tag.before ++ tag.found ++ ['\n'] ++ statement name path ++ tag.after

end Import

end Graft.Script
