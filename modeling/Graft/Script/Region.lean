import Graft.Text.Pattern

/-!
# The script region

A component document has one script region. It opens with the first start tag and
closes at the last end tag, so everything between the two is its body, including
tags that other script blocks may have. A start tag that no end tag follows leaves
the region open.

The region is found lexically, over the whole document, and again by every step that
edits the script: a step changes the text, and with it where the region stands. What
the search returns is the text in three parts (`Region`), which always add up to the
document (`region?_eq_some`).
-/

namespace Graft.Script

open Text

/-- The tag that closes a script region. Only this spelling closes it. -/
def endTag : Text := "</script>".toList

/-- A letter of the tag's name in any case. Besides the two ASCII forms, the long s
counts as an s, and the dotless and the dotted i as an i. -/
def isLetter (letter c : Char) : Bool :=
  c.toLower == letter || (letter == 's' && c == 'ſ') ||
    (letter == 'i' && (c == 'ı' || c == 'İ'))

/-- The opening of a start tag, up to the end of its name. -/
def opening : Pattern :=
  .one (· == '<') :: "script".toList.map fun letter => .one (isLetter letter)

/-- A start tag: the name, then either nothing or a blank and attributes, which run to
the first closing bracket. -/
def startTagPatterns : List Pattern :=
  [opening ++ [.one isBlank, .many (· != '>'), .one (· == '>')],
    opening ++ [.one (· == '>')]]

/-- The document cut around its first start tag. -/
def startTag? (code : Text) : Option Cut := Pattern.search? startTagPatterns code

/-- The attributes of a start tag: what stands between its name and its bracket. -/
def attributes (tag : Text) : Text := (tag.drop 7).dropLast

/-- The attributes name `setup`: after a blank, and before a blank, an equals sign, a
slash or the end. -/
def declaresSetup (attributes : Text) : Bool :=
  let named := .one isBlank :: Pattern.exactly "setup".toList
  Pattern.occurs
    [named ++ [.one fun c => isBlank c || c == '=' || c == '/'], named ++ [.finish]] attributes

/-- The document says that its script is typed: the word `lang`, an equals sign and
then `ts` or `tsx` between two equal quotes, anywhere in the text. -/
def isTyped (code : Text) : Bool :=
  let spelled (quote : Char) (name : Text) : Pattern :=
    Pattern.exactly "lang".toList ++ Pattern.blanks ++ Pattern.exactly ['='] ++ Pattern.blanks ++
      Pattern.exactly (quote :: name ++ [quote])
  let quotes : List Char := ['"', '\x27']
  Pattern.occurs (quotes.flatMap fun q => [spelled q "ts".toList, spelled q "tsx".toList]) code

/-- The text holds a default export, or a call of the function that defines one. -/
def hasExport (body : Text) : Bool :=
  Pattern.occurs
    [Pattern.exactly "export".toList ++ Pattern.spacing ++ Pattern.exactly "default".toList ++
        [.edge],
      Pattern.exactly "defineComponent".toList ++ Pattern.blanks ++ Pattern.exactly ['(']] body

/-- A closed script region, with the text on both sides of its body. -/
structure Region where
  /-- The document up to the end of the start tag. -/
  head : Text
  /-- The script itself. -/
  body : Text
  /-- The document from the end tag on. -/
  tail : Text
deriving DecidableEq, Repr

/-- The document a region was found in. -/
def Region.code (r : Region) : Text := r.head ++ r.body ++ r.tail

/-- The closed script region of a document. -/
def region? (code : Text) : Option Region :=
  match startTag? code with
  | none => none
  | some tag =>
    match cutLast? endTag tag.after with
    | none => none
    | some (body, rest) => some ⟨tag.before ++ tag.found, body, endTag ++ rest⟩

/-- A region and the text around it are the document. -/
theorem region?_eq_some {code : Text} {r : Region} (h : region? code = some r) :
    r.code = code := by
  unfold region? at h
  split at h
  · exact absurd h (by simp)
  · rename_i tag htag
    split at h
    · exact absurd h (by simp)
    · rename_i body rest hcut
      simp only [Option.some.injEq] at h
      subst h
      rw [← Pattern.search?_eq_some htag, ← cutLast?_eq_some hcut]
      simp [Region.code]

end Graft.Script
