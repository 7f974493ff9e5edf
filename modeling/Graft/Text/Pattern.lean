import Graft.Text.Word

/-!
# Patterns

Scripts are read lexically, by looking for short shapes such as "the word `import`,
blanks, a name". A pattern is a list of pieces that must stand one after the other.
Runs are taken as long as they can be and given back one character at a time when
the pieces after them do not fit, so of all ways to fit a pattern at a place the one
with the longest runs, from the left, is found.

`matchAt?` fits a pattern at the start of a text, `search?` finds the leftmost place
where one of several patterns fits. Both return texts, not offsets, and what they
return adds up to the text they were given (`matchAt?_eq_some`, `search?_eq_some`).
-/

namespace Graft

open Text

/-- One piece of a pattern. -/
inductive Piece where
  /-- One character of a class. -/
  | one (accepts : Char → Bool)
  /-- Any number of characters of a class, as many as possible. -/
  | many (accepts : Char → Bool)
  /-- A place where a word begins or ends. -/
  | edge
  /-- The end of the text. -/
  | finish

/-- Pieces that stand one after the other. -/
abbrev Pattern := List Piece

namespace Pattern

/-- The characters of a text, each as it is. -/
def exactly (t : Text) : Pattern := t.map fun c => .one (· == c)

/-- Any number of blanks. -/
def blanks : Pattern := [.many isBlank]

/-- At least one blank. -/
def spacing : Pattern := [.one isBlank, .many isBlank]

/-- A word begins or ends between the character before and the text after. -/
def isEdge (before : Option Char) (after : Text) : Bool :=
  before.any isWord != after.head?.any isWord

/-- A run of a class, then whatever `next` finds: the longest run for which `next`
finds something. The result is what was consumed and what is left. -/
def runThen (accepts : Char → Bool) (next : Option Char → Text → Option (Text × Text)) :
    Option Char → Text → Option (Text × Text)
  | before, [] => next before []
  | before, c :: rest =>
    if accepts c then
      match runThen accepts next (some c) rest with
      | some (found, after) => some (c :: found, after)
      | none => next before (c :: rest)
    else next before (c :: rest)

/-- Fit a pattern at the start of a text that follows the character `before`. The
result is the part that fits and the part after it. -/
def matchAt? : Pattern → Option Char → Text → Option (Text × Text)
  | [], _, t => some ([], t)
  | .one _ :: _, _, [] => none
  | .one accepts :: pieces, _, c :: rest =>
    if accepts c then
      (matchAt? pieces (some c) rest).map fun (found, after) => (c :: found, after)
    else none
  | .many accepts :: pieces, before, t => runThen accepts (matchAt? pieces) before t
  | .edge :: pieces, before, t => if isEdge before t then matchAt? pieces before t else none
  | .finish :: pieces, before, t => if t.isEmpty then matchAt? pieces before t else none

/-- The first of several patterns that fits. -/
def matchAny? (patterns : List Pattern) (before : Option Char) (t : Text) :
    Option (Text × Text) :=
  patterns.findSome? fun p => matchAt? p before t

end Pattern

/-- A text cut in three around something that was found in it. -/
structure Cut where
  /-- What stands before it. -/
  before : Text
  /-- The part that was found. -/
  found : Text
  /-- What stands after it. -/
  after : Text
deriving DecidableEq, Repr

namespace Pattern

/-- The leftmost place in a text, which follows the character `before`, where one of
the patterns fits. -/
def searchFrom? (patterns : List Pattern) (before : Option Char) : Text → Option Cut
  | [] => (matchAny? patterns before []).map fun (found, after) => ⟨[], found, after⟩
  | c :: rest =>
    match matchAny? patterns before (c :: rest) with
    | some (found, after) => some ⟨[], found, after⟩
    | none =>
      (searchFrom? patterns (some c) rest).map fun cut => { cut with before := c :: cut.before }

/-- The leftmost place where one of the patterns fits. -/
def search? (patterns : List Pattern) (t : Text) : Option Cut := searchFrom? patterns none t

/-- One of the patterns fits somewhere. -/
def occurs (patterns : List Pattern) (t : Text) : Bool := (search? patterns t).isSome

/-! ## Nothing is lost -/

theorem runThen_eq_some {accepts : Char → Bool}
    {next : Option Char → Text → Option (Text × Text)}
    (hnext : ∀ {b t found after}, next b t = some (found, after) → found ++ after = t) :
    ∀ {t : Text} {b : Option Char} {found after : Text},
      runThen accepts next b t = some (found, after) → found ++ after = t
  | [], b, found, after, h => hnext h
  | c :: rest, b, found, after, h => by
    simp only [runThen] at h
    split at h
    · split at h
      · rename_i f a hr
        simp only [Option.some.injEq, Prod.mk.injEq] at h
        obtain ⟨rfl, rfl⟩ := h
        simp [runThen_eq_some hnext hr]
      · exact hnext h
    · exact hnext h

/-- The part that fits and the part after it make up the text. -/
theorem matchAt?_eq_some : ∀ {p : Pattern} {b : Option Char} {t found after : Text},
    matchAt? p b t = some (found, after) → found ++ after = t
  | [], b, t, found, after, h => by
    simp only [matchAt?, Option.some.injEq, Prod.mk.injEq] at h
    obtain ⟨rfl, rfl⟩ := h
    rfl
  | .one accepts :: pieces, b, [], found, after, h => by simp [matchAt?] at h
  | .one accepts :: pieces, b, c :: rest, found, after, h => by
    simp only [matchAt?] at h
    split at h
    · obtain ⟨⟨f, a⟩, hr, he⟩ := Option.map_eq_some_iff.1 h
      simp only [Prod.mk.injEq] at he
      obtain ⟨rfl, rfl⟩ := he
      simp [matchAt?_eq_some hr]
    · exact absurd h (by simp)
  | .many accepts :: pieces, b, t, found, after, h => by
    rw [matchAt?] at h
    exact runThen_eq_some (fun hr => matchAt?_eq_some hr) h
  | .edge :: pieces, b, t, found, after, h => by
    rw [matchAt?] at h
    split at h
    · exact matchAt?_eq_some h
    · exact absurd h (by simp)
  | .finish :: pieces, b, t, found, after, h => by
    rw [matchAt?] at h
    split at h
    · exact matchAt?_eq_some h
    · exact absurd h (by simp)

theorem matchAny?_eq_some {patterns : List Pattern} {b : Option Char} {t found after : Text}
    (h : matchAny? patterns b t = some (found, after)) : found ++ after = t := by
  obtain ⟨p, _, hp⟩ := List.exists_of_findSome?_eq_some h
  exact matchAt?_eq_some hp

/-- The three parts of a cut make up the text. -/
theorem searchFrom?_eq_some {patterns : List Pattern} : ∀ {t : Text} {b : Option Char} {cut : Cut},
    searchFrom? patterns b t = some cut → cut.before ++ cut.found ++ cut.after = t
  | [], b, cut, h => by
    obtain ⟨⟨f, a⟩, hm, rfl⟩ := Option.map_eq_some_iff.1 h
    simpa using matchAny?_eq_some hm
  | c :: rest, b, cut, h => by
    rw [searchFrom?] at h
    split at h
    · rename_i f a hm
      simp only [Option.some.injEq] at h
      subst h
      simpa using matchAny?_eq_some hm
    · obtain ⟨inner, hi, rfl⟩ := Option.map_eq_some_iff.1 h
      simp [← searchFrom?_eq_some hi]

theorem search?_eq_some {patterns : List Pattern} {t : Text} {cut : Cut}
    (h : search? patterns t = some cut) : cut.before ++ cut.found ++ cut.after = t :=
  searchFrom?_eq_some h

end Pattern

end Graft
