import Graft.Proofs.Imports

/-!
# Names that a script has already bound

A script binds a name by an import in one of several forms: on its own, with a list beside it, as
the whole module under a name, or in a list, possibly for another name there. To import a bound
name a second time is an error in the script, so a call should leave such a document alone.

Of these forms the search knows two, the name on its own and the list (`Clause.isRead`). It takes
blanks for white space, which leaves out the byte order mark, and it wants the edge of a word on
both sides of a name in a list, which a name with a dollar sign at one of its ends does not have.
This is all that goes wrong (`Declaration.Recognised`): a declaration that is recognised keeps its
name from being imported again in every document, and one that is not does so in no document where
it is the only import (`bound_name_kept_iff`).
-/

namespace Graft.Script.Import

open Text Registration

/-- White space in a script: a blank, or the byte order mark, which does not count as one. -/
def isGap (c : Char) : Bool := isBlank c || c == '\uFEFF'

/-- A character that can be part of a name in an import: no white space, and none of the marks that
stand between names. -/
def isNamePart (c : Char) : Bool := !isGap c && !",*\x7b\x7d".toList.contains c

/-- White space where it may be missing. -/
def IsGap (t : Text) : Prop := ∀ c ∈ t, isGap c = true

/-- White space where it may not. -/
def IsSpace (t : Text) : Prop := t ≠ [] ∧ IsGap t

/-- What an import has between `import` and `from`, around the name it binds. -/
inductive Clause where
  /-- The name on its own. -/
  | alone (before after : Text)
  /-- The name, a comma and a list in braces. -/
  | beside (before gap₁ gap₂ list after : Text)
  /-- A star, `as` and the name. -/
  | whole (before gap space after : Text)
  /-- A list in braces with the name in it, which `as` and another name may precede. -/
  | among (before left right after : Text)

namespace Clause

/-- The clause for a name. -/
def text (name : Text) : Clause → Text
  | alone before after => before ++ name ++ after
  | beside before gap₁ gap₂ list after =>
    before ++ name ++ gap₁ ++ ',' :: gap₂ ++ '{' :: list ++ '}' :: after
  | whole before gap space after => before ++ '*' :: gap ++ "as".toList ++ space ++ name ++ after
  | among before left right after => before ++ '{' :: (left ++ name ++ right) ++ '}' :: after

/-- The clause has white space where it is needed, and a name in a list stands by itself. -/
def Legal : Clause → Prop
  | alone before after => IsSpace before ∧ IsSpace after
  | beside before gap₁ gap₂ _ after => IsSpace before ∧ IsGap gap₁ ∧ IsGap gap₂ ∧ IsGap after
  | whole before gap space after => IsGap before ∧ IsGap gap ∧ IsSpace space ∧ IsSpace after
  | among before left right after => IsGap before ∧ IsGap after ∧ '}' ∉ left ∧ '}' ∉ right ∧
    left.getLast?.all (fun c => isGap c || c == ',') = true ∧
    right.head?.all (fun c => isGap c || c == ',') = true

/-- One of the two forms that the search knows. -/
def isRead : Clause → Bool
  | alone .. | among .. => true
  | beside .. | whole .. => false

/-- The white space behind `import` and in front of `from`. -/
def margins : Clause → Text
  | alone before after | beside before _ _ _ after | whole before _ _ after
  | among before _ _ after => before ++ after

/-- The list that the name stands in. -/
def list? (name : Text) : Clause → Option Text
  | among _ left right _ => some (left ++ name ++ right)
  | _ => none

theorem list?_eq_some {name list : Text} {clause : Clause} (h : clause.list? name = some list) :
    ∃ before left right after, clause = among before left right after ∧
      list = left ++ name ++ right := by
  cases clause with
  | among before left right after =>
      injection h with h
      exact ⟨before, left, right, after, rfl, h.symm⟩
  | alone before after => cases h
  | beside before gap₁ gap₂ list after => cases h
  | whole before gap space after => cases h

end Clause

/-- An import declaration that binds a name. -/
structure Declaration where
  /-- The name. -/
  name : Text
  /-- What stands around it. -/
  clause : Clause
  /-- White space behind `from`. -/
  gap : Text
  /-- The quotes of the module. -/
  quote : Char
  /-- The module. -/
  path : Text
  name_ne : name ≠ []
  name_parts : ∀ c ∈ name, isNamePart c = true
  clause_legal : clause.Legal
  gap_legal : IsGap gap
  quote_legal : quote = '\x27' ∨ quote = '"'

namespace Declaration

/-- What follows `from`. -/
def source (d : Declaration) : Text := d.gap ++ d.quote :: d.path ++ [d.quote]

/-- The declaration as it is written. -/
def text (d : Declaration) : Text :=
  "import".toList ++ (d.clause.text d.name ++ ("from".toList ++ d.source))

theorem text_eq (d : Declaration) :
    d.text = "import".toList ++ (d.clause.text d.name ++ ("from".toList ++ d.source)) := rfl

/-- The search sees that the declaration binds its name. -/
structure Recognised (d : Declaration) : Prop where
  /-- It knows the form. -/
  form : d.clause.isRead = true
  /-- The white space is blank. -/
  blank : '\uFEFF' ∉ d.clause.margins
  /-- The list mentions the name, with the edge of a word on both sides. -/
  mentioned : ∀ list ∈ d.clause.list? d.name, mentions d.name list = true

instance (d : Declaration) : Decidable d.Recognised :=
  decidable_of_iff (d.clause.isRead = true ∧ '\uFEFF' ∉ d.clause.margins ∧
      ∀ list ∈ d.clause.list? d.name, mentions d.name list = true)
    ⟨fun h => ⟨h.1, h.2.1, h.2.2⟩, fun h => ⟨h.form, h.blank, h.mentioned⟩⟩

/-- The only place where `import` stands is the declaration. -/
def Sole (d : Declaration) (before after : Text) : Prop :=
  ∀ x y, before ++ d.text ++ after = x ++ "import".toList ++ y → x = before

/-- The places of a text can be tried one after the other. -/
theorem sole_iff {d : Declaration} {before after : Text} : d.Sole before after ↔
    ∀ k ≤ (before ++ d.text ++ after).length,
      "import".toList <+: (before ++ d.text ++ after).drop k → k = before.length := by
  generalize hcode : before ++ d.text ++ after = code
  constructor
  · rintro hsole k hk ⟨y, hy⟩
    have hx : code.take k = before := by
      refine hsole _ y ?_
      rw [hcode, List.append_assoc, hy, List.take_append_drop]
    rw [← hx, List.length_take, Nat.min_eq_left hk]
  · intro hplaces x y hxy
    rw [hcode] at hxy
    have hlen : x.length = before.length := by
      refine hplaces x.length (by simp [hxy]) ⟨y, ?_⟩
      rw [hxy, List.append_assoc, List.drop_left]
    rw [hxy, List.append_assoc, List.append_assoc] at hcode
    exact (List.append_inj_left hcode hlen.symm).symm

instance (d : Declaration) (before after : Text) : Decidable (d.Sole before after) :=
  decidable_of_iff' _ sole_iff

end Declaration

/-! ## White space -/

theorem isGap_of_isBlank {c : Char} (h : isBlank c = true) : isGap c = true := by
  rw [isGap, h, Bool.true_or]

theorem not_isWord_of_isGap {c : Char} (h : isGap c = true) : isWord c = false := by
  rw [isGap, Bool.or_eq_true, beq_iff_eq] at h
  rcases h with h | rfl
  · exact not_isWord_of_not_isNameChar (not_isNameChar_of_isBlank h)
  · decide +kernel

/-- White space without a byte order mark is blank. -/
theorem IsGap.blank {t : Text} (h : IsGap t) (hmark : '\uFEFF' ∉ t) :
    ∀ c ∈ t, isBlank c = true := by
  intro c hc
  have hgap := h c hc
  rw [isGap, Bool.or_eq_true, beq_iff_eq] at hgap
  rcases hgap with hblank | rfl
  · exact hblank
  · exact absurd hc hmark

/-- White space is cut at the same place by whatever follows it. -/
theorem gap_inj {ws g x y : Text} {c d : Char} (hws : ∀ e ∈ ws, isBlank e = true) (hg : IsGap g)
    (hc : isGap c = false) (hd : isGap d = false) (h : ws ++ c :: x = g ++ d :: y) :
    ws = g ∧ c = d ∧ x = y :=
  append_cons_inj (not_mem_of_forall (fun e he => isGap_of_isBlank (hws e he)) hd)
    (not_mem_of_forall hg hc) h

/-- Blanks have no byte order mark. -/
theorem mark_not_mem {ws : Text} (h : ∀ c ∈ ws, isBlank c = true) : '\uFEFF' ∉ ws :=
  not_mem_of_forall h (by decide)

theorem isNamePart_iff {c : Char} : isNamePart c = true ↔
    isGap c = false ∧ c ≠ ',' ∧ c ≠ '*' ∧ c ≠ '{' ∧ c ≠ '}' := by
  simp [isNamePart]

namespace Declaration

variable {d : Declaration}

/-- A name starts with a character that is neither white space nor a mark. -/
theorem name_cons (d : Declaration) : ∃ c rest, d.name = c :: rest ∧ isGap c = false ∧
    c ≠ '*' ∧ c ≠ '{' := by
  obtain ⟨c, rest, hname⟩ := List.exists_cons_of_ne_nil d.name_ne
  obtain ⟨hgap, _, hstar, hbrace, _⟩ := isNamePart_iff.mp (d.name_parts c (by simp [hname]))
  exact ⟨c, rest, hname, hgap, hstar, hbrace⟩

theorem brace_not_mem_name (d : Declaration) : '}' ∉ d.name :=
  not_mem_of_forall d.name_parts (by decide)

theorem brace_not_mem_around (d : Declaration) {left right : Text} (hleft : '}' ∉ left)
    (hright : '}' ∉ right) : '}' ∉ left ++ d.name ++ right := by
  simp only [List.mem_append, not_or]
  exact ⟨⟨hleft, d.brace_not_mem_name⟩, hright⟩

/-- No word goes on behind `from`. -/
theorem source_head (d : Declaration) (after : Text) :
    (d.source ++ after).head?.any isWord = false := by
  have hquote : isWord d.quote = false := by
    rcases d.quote_legal with h | h
    · rw [h]
      decide +kernel
    · rw [h]
      decide +kernel
  unfold source
  cases hgap : d.gap with
  | nil => exact hquote
  | cons c rest => exact not_isWord_of_isGap (d.gap_legal c (by simp [hgap]))

/-! ## A declaration that is recognised -/

/-- A name that starts and ends with word characters is mentioned in its list. -/
theorem mentions_of_word_ends (hfirst : d.name.head?.any isWord = true)
    (hlast : d.name.getLast?.any isWord = true) {list : Text}
    (hlist : d.clause.list? d.name = some list) : mentions d.name list = true := by
  obtain ⟨before, left, right, after, hclause, rfl⟩ := Clause.list?_eq_some hlist
  have hlegal := d.clause_legal
  rw [hclause] at hlegal
  obtain ⟨_, _, _, _, hleft, hright⟩ := hlegal
  have hcomma : isWord ',' = false := by decide +kernel
  have hfree : ∀ o : Option Char, o.all (fun c => isGap c || c == ',') = true →
      o.any isWord = false := by
    intro o ho
    cases o with
    | none => rfl
    | some c =>
        rw [Option.all_some, Bool.or_eq_true, beq_iff_eq] at ho
        rcases ho with ho | rfl
        · exact not_isWord_of_isGap ho
        · exact hcomma
  -- what stands beside the name is no word character, so both its ends are edges
  refine (mentions_iff d.name_ne).mpr ⟨left, right, rfl, ?_, ?_⟩
  · rw [hfree _ hleft, hfirst]
    decide
  · rw [hfree _ hright, hlast]
    decide

/-- **A declaration that is recognised is seen in every document.** -/
theorem Recognised.present (h : d.Recognised) (before after : Text) :
    present (before ++ d.text ++ after) d.name = true := by
  rw [present_iff d.name_ne d.brace_not_mem_name]
  have hlegal := d.clause_legal
  have hmark := h.blank
  have hform := h.form
  have hmentioned := h.mentioned
  cases hclause : d.clause with
  | beside b g₁ g₂ l a => rw [hclause] at hform; exact absurd hform (by simp [Clause.isRead])
  | whole b g t a => rw [hclause] at hform; exact absurd hform (by simp [Clause.isRead])
  | alone b a =>
      rw [hclause] at hlegal hmark
      obtain ⟨⟨hb, hbgap⟩, ⟨ha, hagap⟩⟩ := hlegal
      rw [Clause.margins, List.mem_append, not_or] at hmark
      refine ⟨"import".toList ++ b ++ d.name ++ a ++ "from".toList,
        Or.inl ⟨b, a, ⟨hb, hbgap.blank hmark.1⟩, ⟨ha, hagap.blank hmark.2⟩, rfl⟩,
        before, d.source ++ after, ?_, d.source_head after⟩
      rw [text_eq, hclause, Clause.text]
      simp only [List.append_assoc]
  | among b left right a =>
      rw [hclause] at hlegal hmark hmentioned
      obtain ⟨hbgap, hagap, hleft, hright, _, _⟩ := hlegal
      rw [Clause.margins, List.mem_append, not_or] at hmark
      have hfree := d.brace_not_mem_around hleft hright
      refine ⟨"import".toList ++ b ++ '{' :: (left ++ d.name ++ right) ++ '}' :: a ++ "from".toList,
        Or.inr ⟨b, left ++ d.name ++ right, a, hbgap.blank hmark.1, ⟨hfree, hmentioned _ rfl⟩,
          hagap.blank hmark.2, rfl⟩, before, d.source ++ after, ?_, d.source_head after⟩
      rw [text_eq, hclause, Clause.text]
      simp only [List.append_assoc, List.cons_append]

/-! ## A declaration that is not -/

/-- Where the name on its own is found in place of the declaration, it is recognised. -/
theorem recognised_of_default {w x y : Text} (hw : IsDefault d.name w)
    (h : w ++ y = d.text ++ x) : d.Recognised := by
  obtain ⟨ws₁, ws₂, ⟨_, h₁⟩, ⟨_, h₂⟩, rfl⟩ := hw
  obtain ⟨c, rest, hname, hc, hstar, hbrace⟩ := d.name_cons
  have hfrom : "from".toList = 'f' :: "rom".toList := by decide
  have hlegal := d.clause_legal
  have hplace : ws₁ ++ c :: (rest ++ (ws₂ ++ 'f' :: ("rom".toList ++ y))) =
      d.clause.text d.name ++ 'f' :: ("rom".toList ++ (d.source ++ x)) := by
    rw [text_eq, hname, hfrom] at h
    simp only [List.append_assoc, List.cons_append] at h
    simpa only [hname, List.append_assoc, List.cons_append] using List.append_cancel_left h
  cases hclause : d.clause with
  | alone b a =>
      rw [hclause] at hplace hlegal
      simp only [Clause.text, hname, List.append_assoc, List.cons_append] at hplace
      obtain ⟨hb, _, hplace⟩ := gap_inj h₁ hlegal.1.2 hc hc hplace
      obtain ⟨ha, _, _⟩ := gap_inj h₂ hlegal.2.2 (by decide) (by decide)
        (List.append_cancel_left hplace)
      refine ⟨by rw [hclause]; rfl, ?_, by rw [hclause]; simp [Clause.list?]⟩
      rw [hclause, Clause.margins, ← hb, ← ha, List.mem_append, not_or]
      exact ⟨mark_not_mem h₁, mark_not_mem h₂⟩
  | beside b g₁ g₂ l a =>
      -- a comma would stand where `from` starts
      rw [hclause] at hplace hlegal
      simp only [Clause.text, hname, List.append_assoc, List.cons_append] at hplace
      obtain ⟨_, _, hplace⟩ := gap_inj h₁ hlegal.1.2 hc hc hplace
      obtain ⟨_, hcomma, _⟩ := gap_inj h₂ hlegal.2.1 (by decide) (by decide)
        (List.append_cancel_left hplace)
      exact absurd hcomma (by decide)
  | whole b g t a =>
      rw [hclause] at hplace hlegal
      simp only [Clause.text, List.append_assoc, List.cons_append] at hplace
      obtain ⟨_, he, _⟩ := gap_inj h₁ hlegal.1 hc (by decide) hplace
      exact absurd he hstar
  | among b left right a =>
      rw [hclause] at hplace hlegal
      simp only [Clause.text, List.append_assoc, List.cons_append] at hplace
      obtain ⟨_, he, _⟩ := gap_inj h₁ hlegal.1 hc (by decide) hplace
      exact absurd he hbrace

/-- So it is where a list is found. -/
theorem recognised_of_listed {w x y : Text} (hw : IsListed d.name w)
    (h : w ++ y = d.text ++ x) : d.Recognised := by
  obtain ⟨ws₁, list, ws₂, h₁, ⟨hlist, hmention⟩, h₂, rfl⟩ := hw
  obtain ⟨c, rest, hname, hc, _, hbrace⟩ := d.name_cons
  have hfrom : "from".toList = 'f' :: "rom".toList := by decide
  have hlegal := d.clause_legal
  have hplace : ws₁ ++ '{' :: (list ++ '}' :: (ws₂ ++ 'f' :: ("rom".toList ++ y))) =
      d.clause.text d.name ++ 'f' :: ("rom".toList ++ (d.source ++ x)) := by
    rw [text_eq, hfrom] at h
    simp only [List.append_assoc, List.cons_append] at h
    exact List.append_cancel_left h
  cases hclause : d.clause with
  | alone b a =>
      rw [hclause] at hplace hlegal
      simp only [Clause.text, hname, List.append_assoc, List.cons_append] at hplace
      obtain ⟨_, he, _⟩ := gap_inj h₁ hlegal.1.2 (by decide) hc hplace
      exact absurd he.symm hbrace
  | beside b g₁ g₂ l a =>
      rw [hclause] at hplace hlegal
      simp only [Clause.text, hname, List.append_assoc, List.cons_append] at hplace
      obtain ⟨_, he, _⟩ := gap_inj h₁ hlegal.1.2 (by decide) hc hplace
      exact absurd he.symm hbrace
  | whole b g t a =>
      rw [hclause] at hplace hlegal
      simp only [Clause.text, List.append_assoc, List.cons_append] at hplace
      obtain ⟨_, he, _⟩ := gap_inj h₁ hlegal.1 (by decide) (by decide) hplace
      exact absurd he (by decide)
  | among b left right a =>
      rw [hclause] at hplace hlegal
      obtain ⟨hbgap, hagap, hleft, hright, _, _⟩ := hlegal
      have hfree := d.brace_not_mem_around hleft hright
      rw [Clause.text, List.append_assoc, List.append_assoc, List.cons_append, List.cons_append,
        List.append_assoc] at hplace
      obtain ⟨hb, _, hplace⟩ := gap_inj h₁ hbgap (by decide) (by decide) hplace
      rw [← List.append_assoc (left ++ d.name)] at hplace
      -- the two lists end with the first closing brace
      obtain ⟨hsame, _, hplace⟩ := append_cons_inj hlist hfree hplace
      obtain ⟨ha, _, _⟩ := gap_inj h₂ hagap (by decide) (by decide) hplace
      refine ⟨by rw [hclause]; rfl, ?_, ?_⟩
      · rw [hclause, Clause.margins, ← hb, ← ha, List.mem_append, not_or]
        exact ⟨mark_not_mem h₁, mark_not_mem h₂⟩
      · rintro l hl
        rw [hclause] at hl
        injection hl with hl
        rw [← hl, ← hsame]
        exact hmention

/-- Where the declaration is the only import, nothing else is seen. -/
theorem recognised_of_present {before after : Text} (hsole : d.Sole before after)
    (h : present (before ++ d.text ++ after) d.name = true) : d.Recognised := by
  obtain ⟨w, hw, x, y, hcode, _⟩ := (present_iff d.name_ne d.brace_not_mem_name).mp h
  obtain ⟨rest, hrest⟩ : ∃ rest, w = "import".toList ++ rest := by
    rcases hw with ⟨ws₁, ws₂, _, _, rfl⟩ | ⟨ws₁, list, ws₂, _, _, _, rfl⟩
    · exact ⟨_, by simp only [List.append_assoc]; rfl⟩
    · exact ⟨_, by simp only [List.append_assoc]; rfl⟩
  have hx : x = before := by
    refine hsole x (rest ++ y) ?_
    rw [hcode, hrest]
    simp only [List.append_assoc]
  have hplace : w ++ y = d.text ++ after := by
    rw [hx, List.append_assoc, List.append_assoc] at hcode
    exact (List.append_cancel_left hcode).symm
  rcases hw with hw | hw
  · exact recognised_of_default hw hplace
  · exact recognised_of_listed hw hplace

/-- For a name that starts and ends with word characters, the form and the white space decide. -/
theorem recognised_iff (hfirst : d.name.head?.any isWord = true)
    (hlast : d.name.getLast?.any isWord = true) :
    d.Recognised ↔ d.clause.isRead = true ∧ '\uFEFF' ∉ d.clause.margins :=
  ⟨fun h => ⟨h.form, h.blank⟩,
    fun h => ⟨h.1, h.2, fun _ => mentions_of_word_ends hfirst hlast⟩⟩

end Declaration

/-- **Which bound names are left alone.** A declaration that is recognised keeps its name from being
imported again, in every document that has it and for every path. A declaration that is the
document's only import does so exactly when it is recognised. For a name that starts and ends with
word characters this is a matter of the form and of the white space around it: the name on its own
or in a list, with blanks. -/
theorem bound_name_kept_iff (d : Declaration) :
    (d.Recognised → ∀ code, d.text <:+: code → ∀ path, add code d.name path = code) ∧
    (∀ before after : Text, d.Sole before after → ∀ path,
      (add (before ++ d.text ++ after) d.name path = before ++ d.text ++ after ↔ d.Recognised)) ∧
    (d.name.head?.any isWord = true → d.name.getLast?.any isWord = true →
      (d.Recognised ↔ d.clause.isRead = true ∧ '\uFEFF' ∉ d.clause.margins)) := by
  refine ⟨?_, ?_, Declaration.recognised_iff⟩
  · rintro hseen code ⟨x, y, rfl⟩ path
    exact add_eq_self_iff.mpr (hseen.present x y)
  · intro before after hsole path
    rw [add_eq_self_iff]
    exact ⟨Declaration.recognised_of_present hsole, fun hseen => hseen.present before after⟩

/-- The name `api`, imported from `./api` by a clause. -/
def apiBy (clause : Clause) (hclause : clause.Legal) : Declaration where
  name := "api".toList
  clause := clause
  gap := " ".toList
  quote := '\x27'
  path := "./api".toList
  name_ne := by decide
  name_parts := forall_of_all (by decide)
  clause_legal := hclause
  gap_legal := forall_of_all (by decide)
  quote_legal := Or.inl rfl

theorem isSpace_blank : IsSpace [' '] := ⟨by decide, forall_of_all (by decide)⟩

/-- The declaration `import * as api from './api'`. -/
def wholeApi : Declaration :=
  apiBy (.whole [' '] [' '] [' '] [' '])
    ⟨isSpace_blank.2, isSpace_blank.2, isSpace_blank, isSpace_blank⟩

/-- The declaration `import api, { get } from './api'`. -/
def besideApi : Declaration :=
  apiBy (.beside [' '] [] [' '] " get ".toList [' '])
    ⟨isSpace_blank, forall_of_all (by decide), isSpace_blank.2, isSpace_blank.2⟩

/-- The declaration `import { get as api } from './api'`. -/
def renamedApi : Declaration :=
  apiBy (.among [' '] " get as ".toList [' '] [' '])
    ⟨isSpace_blank.2, isSpace_blank.2, by decide, by decide, by decide, by decide⟩

/-- A script with one declaration in it. -/
def scriptOf (d : Declaration) : Text := "<script>\n".toList ++ d.text ++ "\n</script>".toList

/-- A module under a name and a name with a list beside it are imported again, a name in a list is
not. In the first of the three documents the name is bound twice afterwards. -/
theorem api_imported_again :
    scriptOf wholeApi = "<script>\nimport * as api from './api'\n</script>".toList ∧
    add (scriptOf wholeApi) wholeApi.name "b".toList =
      "<script>\nimport api from 'b';\n\nimport * as api from './api'\n</script>".toList ∧
    add (scriptOf wholeApi) wholeApi.name "b".toList ≠ scriptOf wholeApi ∧
    add (scriptOf besideApi) besideApi.name "b".toList ≠ scriptOf besideApi ∧
    add (scriptOf renamedApi) renamedApi.name "b".toList = scriptOf renamedApi := by
  refine ⟨by decide +kernel, by decide +kernel, ?_, ?_, ?_⟩
  · exact (((bound_name_kept_iff wholeApi).2.1 _ _ (by decide +kernel) _).not).mpr
      (by decide +kernel)
  · exact (((bound_name_kept_iff besideApi).2.1 _ _ (by decide +kernel) _).not).mpr
      (by decide +kernel)
  · exact (bound_name_kept_iff renamedApi).1 (by decide +kernel) _ ⟨_, _, rfl⟩ _

end Graft.Script.Import
