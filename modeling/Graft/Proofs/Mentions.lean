import Graft.Proofs.Edits
import Graft.Proofs.Names
import Graft.Proofs.Parts

/-!
# When a map mentions a name

A component counts as registered when its name stands in the map as a whole word, with the
edge of a word on both sides. The test knows nothing of keys and values: it looks at the
text of all entries together.

Names are made of word characters and dollar signs. Where two texts meet next to any other
character no name lies across the place, and what is mentioned in both together is
mentioned in one of them (`mentions_append`). So the question comes down to single entries
(`mentions_extend`, `mentions_entry`), and there to the parts of a key between its hyphens
(`mentions_iff_mem_split`).

A dollar sign is no word character, though, and a name that starts or ends with one has no
edge there. Such a name is overlooked in its own entry (`mentions_entry_of_word_ends` says
that no other is).
-/

namespace Graft

namespace Script.Registration

open Text Pattern

/-! ## Names -/

/-- A character of an identifier. -/
def isNameChar (c : Char) : Bool := isWord c || c == '$'

/-- A text that can be a name: not empty, and made of the characters of an identifier. -/
def IsName (name : Text) : Prop := name ≠ [] ∧ ∀ c ∈ name, isNameChar c = true

theorem isWord_of_isAlpha {c : Char} (h : c.isAlpha = true) : isWord c = true := by
  have hcode : c.toNat < 128 := by
    have hrange : (decide ('A'.val ≤ c.val ∧ c.val ≤ 'Z'.val) ||
        (decide ('a'.val ≤ c.val) && decide (c.val ≤ 'z'.val))) = true := h
    simp only [Bool.or_eq_true, Bool.and_eq_true, decide_eq_true_eq,
      UInt32.le_iff_toNat_le] at hrange
    have hupper : 'Z'.val.toNat = 90 := rfl
    have hlower : 'z'.val.toNat = 122 := rfl
    change c.val.toNat < 128
    omega
  rw [isWord, isAlphanumeric, if_pos hcode, Char.isAlphanum, h]
  simp

/-- An identifier is a name. -/
theorem isName_of_isIdentifier {name : Text} (h : isIdentifier name = true) : IsName name := by
  cases name with
  | nil => exact absurd h (by simp [isIdentifier])
  | cons c rest =>
      rw [isIdentifier, Bool.and_eq_true, List.all_eq_true] at h
      refine ⟨by simp, ?_⟩
      intro d hd
      rcases List.mem_cons.mp hd with rfl | hd
      · have hfirst := h.1
        simp only [Bool.or_eq_true, beq_iff_eq] at hfirst
        rcases hfirst with (ha | rfl) | rfl
        · rw [isNameChar, isWord_of_isAlpha ha, Bool.true_or]
        · decide
        · decide
      · exact h.2 d hd

/-- A word is a name. -/
theorem isName_of_word {name : Text} (hne : name ≠ []) (h : ∀ c ∈ name, isWord c = true) :
    IsName name :=
  ⟨hne, fun c hc => by rw [isNameChar, h c hc, Bool.true_or]⟩

theorem not_isNameChar_of_isBlank {c : Char} (h : isBlank c = true) : isNameChar c = false := by
  rw [isNameChar, Bool.or_eq_false_iff]
  constructor
  · cases hw : isWord c with
    | false => rfl
    | true =>
        have hinner := (isInner_iff.mp (isInner_of_isWord hw)).1
        rw [h] at hinner
        exact absurd hinner (by simp)
  · rw [beq_eq_false_iff_ne]
    rintro rfl
    exact absurd h (by decide)

theorem not_isWord_of_not_isNameChar {c : Char} (h : isNameChar c = false) :
    isWord c = false := (Bool.or_eq_false_iff.mp h).1

/-- The fixed characters that a registration writes around names. -/
theorem not_isNameChar : ∀ c ∈ " ,:\x27-\x7b\x7d\n(".toList, isNameChar c = false :=
  forall_of_all (by decide +kernel)

/-! ## Where a name stands -/

/-- A name is mentioned where it stands between two edges of words. -/
theorem mentions_iff {name t : Text} (hne : name ≠ []) :
    mentions name t = true ↔ ∃ x y, t = x ++ name ++ y ∧
      x.getLast?.any isWord ≠ name.head?.any isWord ∧
      name.getLast?.any isWord ≠ y.head?.any isWord := by
  have hlast : ∀ b : Option Char, name.getLast?.or b = name.getLast? := by
    intro b
    rw [List.getLast?_eq_some_getLast hne]
    rfl
  have hhead : ∀ y : Text, (name ++ y).head? = name.head? := by
    intro y
    rw [List.head?_append, List.head?_eq_some_head hne]
    rfl
  unfold mentions
  rw [occurs_iff]
  simp only [List.mem_singleton, exists_eq_left, List.cons_append, fits_edge, fits_append,
    fits_exactly, isEdge, bne_iff_ne]
  constructor
  · intro h
    obtain ⟨x, _, y, rfl, hleft, _, _, rfl, rfl, hright, rfl⟩ := h
    rw [List.append_nil, hhead] at hleft
    rw [hlast, List.nil_append] at hright
    exact ⟨x, y, by simp, hleft, hright⟩
  · intro h
    obtain ⟨x, y, rfl, hleft, hright⟩ := h
    refine ⟨x, name, y, by simp, ?_, name, [], by simp, rfl, ?_, rfl⟩
    · rw [hhead]
      exact hleft
    · rw [hlast, List.nil_append]
      exact hright

/-- A place that no name lies across: the character on one of its sides is part of none. -/
abbrev rift (a b : Text) : Bool :=
  border (fun c => !isNameChar c) (fun c => !isNameChar c) a b

theorem rift_left {a b : Text} (h : ∀ c ∈ a, isNameChar c = false) : rift a b = true := by
  rw [rift, border, Bool.or_eq_true]
  left
  cases hl : a.getLast? with
  | none => rfl
  | some c =>
      rw [Option.all_some, h c (List.mem_of_mem_getLast? hl)]
      rfl

theorem rift_right {a b : Text} (h : ∀ c ∈ b, isNameChar c = false) : rift a b = true := by
  rw [rift, border, Bool.or_eq_true]
  right
  cases hh : b.head? with
  | none => rfl
  | some c =>
      rw [Option.all_some, h c (List.mem_of_mem_head? hh)]
      rfl

section Name

variable {name : Text} (hname : IsName name)

include hname

theorem IsName.any_head_of_rift {a y : Text} (h : rift a (name ++ y) = true) :
    a.getLast?.any isWord = false := by
  obtain ⟨c, v, rfl⟩ := List.exists_cons_of_ne_nil hname.1
  have hc : isNameChar c = true := hname.2 c (by simp)
  simp only [rift, border, List.cons_append, List.head?_cons, Option.all_some, hc,
    Bool.not_true, Bool.or_false] at h
  cases hl : a.getLast? with
  | none => rfl
  | some d =>
      rw [hl, Option.all_some, Bool.not_eq_true'] at h
      exact not_isWord_of_not_isNameChar h

theorem IsName.any_last_of_rift {x b : Text} (h : rift (x ++ name) b = true) :
    b.head?.any isWord = false := by
  have hlast : isNameChar (name.getLast hname.1) = true := hname.2 _ (List.getLast_mem hname.1)
  rw [rift, border, List.getLast?_append, List.getLast?_eq_some_getLast hname.1] at h
  simp only [Option.some_or, Option.all_some, hlast, Bool.not_true, Bool.false_or] at h
  cases hh : b.head? with
  | none => rfl
  | some d =>
      rw [hh, Option.all_some, Bool.not_eq_true'] at h
      exact not_isWord_of_not_isNameChar h

/-- A name does not lie across a rift. -/
theorem IsName.not_across {a b u v : Text} (hr : rift a b = true) (h : name = u ++ v)
    (hu : u <:+ a) (hv : v <+: b) : u = [] ∨ v = [] := by
  rcases List.eq_nil_or_concat u with hu0 | ⟨u', c, rfl⟩
  · exact Or.inl hu0
  · rcases v with _ | ⟨d, v⟩
    · exact Or.inr rfl
    · exfalso
      obtain ⟨p, rfl⟩ := hu
      obtain ⟨q, rfl⟩ := hv
      have hc := hname.2 c (by simp [h])
      have hd := hname.2 d (by simp [h])
      simp [border, hc, hd] at hr

/-- **A rift divides what is mentioned.** -/
theorem mentions_append {a b : Text} (hr : rift a b = true) :
    mentions name (a ++ b) = (mentions name a || mentions name b) := by
  rw [Bool.eq_iff_iff, Bool.or_eq_true, mentions_iff hname.1, mentions_iff hname.1,
    mentions_iff hname.1]
  constructor
  · rintro ⟨x, y, he, hleft, hright⟩
    rcases List.append_eq_append_iff.mp he with ⟨z, hz, rfl⟩ | ⟨z, rfl, rfl⟩
    · rcases List.append_eq_append_iff.mp hz with ⟨v, rfl, hv⟩ | ⟨v, rfl, rfl⟩
      · -- the name touches the rift, so it ends there or starts there
        rcases hname.not_across hr hv (List.suffix_append _ _) (List.prefix_append _ _)
          with rfl | rfl
        · rw [List.nil_append] at hv
          subst hv
          rw [List.append_nil] at hr
          refine Or.inr ⟨[], y, rfl, ?_, hright⟩
          rwa [hname.any_head_of_rift hr] at hleft
        · rw [List.append_nil] at hv
          subst hv
          rw [List.nil_append] at hr
          refine Or.inl ⟨x, [], by simp, hleft, ?_⟩
          rwa [hname.any_last_of_rift hr] at hright
      · refine Or.inr ⟨v, y, rfl, ?_, hright⟩
        cases hl : v.getLast? with
        | some c => rwa [List.getLast?_append, hl] at hleft
        | none =>
            rw [List.getLast?_eq_none_iff.mp hl] at hr hleft
            rwa [List.append_nil, hname.any_head_of_rift hr] at hleft
    · refine Or.inl ⟨x, z, rfl, hleft, ?_⟩
      cases z with
      | cons c z => exact hright
      | nil =>
          rw [List.append_nil] at hr
          rwa [List.nil_append, hname.any_last_of_rift hr] at hright
  · rintro (⟨x, y, rfl, hleft, hright⟩ | ⟨x, y, rfl, hleft, hright⟩)
    · refine ⟨x, y ++ b, by simp, hleft, ?_⟩
      cases y with
      | cons c y => exact hright
      | nil =>
          rw [List.append_nil] at hr
          rw [List.nil_append, hname.any_last_of_rift hr]
          exact hright
    · refine ⟨a ++ x, y, by simp, ?_, hright⟩
      cases hl : x.getLast? with
      | some c =>
          rw [List.getLast?_append, hl]
          rwa [hl] at hleft
      | none =>
          rw [List.getLast?_eq_none_iff.mp hl] at hr hleft ⊢
          rw [List.append_nil, hname.any_head_of_rift hr]
          exact hleft

/-- What has no character of a name mentions none. -/
theorem mentions_plain {t : Text} (h : ∀ c ∈ t, isNameChar c = false) :
    mentions name t = false := by
  rw [Bool.eq_false_iff]
  intro hm
  obtain ⟨x, y, rfl, _, _⟩ := (mentions_iff hname.1).mp hm
  obtain ⟨c, hc⟩ := List.exists_mem_of_ne_nil name hname.1
  have := h c (by simp [hc])
  rw [hname.2 c hc] at this
  exact absurd this (by simp)

theorem mentions_prepend {p t : Text} (hp : ∀ c ∈ p, isNameChar c = false) :
    mentions name (p ++ t) = mentions name t := by
  rw [mentions_append hname (rift_left hp), mentions_plain hname hp, Bool.false_or]

theorem mentions_postpend {t q : Text} (hq : ∀ c ∈ q, isNameChar c = false) :
    mentions name (t ++ q) = mentions name t := by
  rw [mentions_append hname (rift_right hq), mentions_plain hname hq, Bool.or_false]

/-! ## Entries -/

/-- Trailing blanks hold no part of a name. -/
theorem mentions_trimRight (t : Text) : mentions name (trimRight t) = mentions name t := by
  have hblank : ∀ c ∈ blankTail t, isNameChar c = false :=
    fun c hc => not_isNameChar_of_isBlank (isBlank_of_mem_blankTail c hc)
  have h := mentions_postpend hname (t := trimRight t) hblank
  rw [trimRight_append_blankTail] at h
  exact h.symm

/-- **A map with one more entry** mentions what it did, and what the entry does. -/
theorem mentions_extend (content component registerName : Text) :
    mentions name (extend content component registerName) =
      (mentions name content || mentions name (entry component registerName)) := by
  have hgap : ∀ comma : Text, comma = [] ∨ comma = [','] →
      mentions name (trimRight content ++ comma ++ [' '] ++ entry component registerName) =
        (mentions name content || mentions name (entry component registerName)) := by
    intro comma hcomma
    have hplain : ∀ c ∈ comma ++ [' '], isNameChar c = false := by
      intro c hc
      refine not_isNameChar c ?_
      rcases hcomma with rfl | rfl
      · exact (by decide : [' '] ⊆ _) hc
      · exact (by decide : [',', ' '] ⊆ _) hc
    have hsplit : trimRight content ++ comma ++ [' '] ++ entry component registerName =
        trimRight content ++ (comma ++ [' ']) ++ entry component registerName := by simp
    have hrift : rift (trimRight content ++ (comma ++ [' '])) (entry component registerName) =
        true := border_after (by rw [List.getLast?_concat]; decide +kernel)
    rw [hsplit, mentions_append hname hrift, mentions_postpend hname hplain,
      mentions_trimRight hname]
  unfold extend
  dsimp only
  split
  · exact hgap [] (Or.inl rfl)
  · exact hgap [','] (Or.inr rfl)

/-- Quotes around a key do not matter. -/
theorem mentions_key (registerName : Text) :
    mentions name (key registerName) = mentions name registerName := by
  have hquote : ∀ c ∈ ['\x27'], isNameChar c = false := by
    intro c hc
    exact not_isNameChar c ((by decide : ['\x27'] ⊆ _) hc)
  unfold key
  split
  · rfl
  · rw [mentions_postpend hname hquote, mentions_prepend hname hquote]

/-- An entry mentions what its key and its value mention. -/
theorem mentions_entry (component registerName : Text) :
    mentions name (entry component registerName) =
      (mentions name registerName || mentions name component) := by
  have hcolon : ∀ c ∈ ": ".toList, isNameChar c = false := by
    intro c hc
    exact not_isNameChar c ((by decide : ": ".toList ⊆ _) hc)
  have hrift : rift (key registerName ++ ": ".toList) component = true :=
    border_after (by decide +kernel)
  unfold entry
  rw [mentions_append hname hrift, mentions_postpend hname hcolon, mentions_key hname]

/-- **A name is seen in its own entry** if it starts and ends with word characters. -/
theorem mentions_entry_of_word_ends (registerName : Text)
    (hfirst : name.head?.any isWord = true) (hlast : name.getLast?.any isWord = true) :
    mentions name (entry name registerName) = true := by
  have hself : mentions name name = true := by
    rw [mentions_iff hname.1]
    exact ⟨[], [], by simp, by simp [hfirst], by simp [hlast]⟩
  rw [mentions_entry hname, hself, Bool.or_true]

/-- A name that is overlooked in its own entry has a dollar sign at one of its ends. -/
theorem dollar_of_not_mentions_entry {registerName : Text}
    (h : mentions name (entry name registerName) = false) :
    name.head? = some '$' ∨ name.getLast? = some '$' := by
  have hdollar : ∀ {o : Option Char}, o ≠ none → (∀ c, o = some c → isNameChar c = true) →
      o.any isWord = true ∨ o = some '$' := by
    intro o ho hchar
    obtain ⟨c, rfl⟩ := Option.ne_none_iff_exists'.mp ho
    have hc := hchar c rfl
    rw [isNameChar, Bool.or_eq_true, beq_iff_eq] at hc
    rcases hc with hc | rfl
    · exact Or.inl hc
    · exact Or.inr rfl
  have hhead := hdollar (o := name.head?) (by simpa using hname.1)
    fun c hc => hname.2 c (List.mem_of_mem_head? hc)
  have htail := hdollar (o := name.getLast?) (by simpa using hname.1)
    fun c hc => hname.2 c (List.mem_of_mem_getLast? hc)
  rcases hhead with hhead | hhead
  · rcases htail with htail | htail
    · rw [mentions_entry_of_word_ends hname registerName hhead htail] at h
      exact absurd h (by simp)
    · exact Or.inr htail
  · exact Or.inl hhead

end Name

/-! ## Words and hyphens -/

section Word

variable {word : Text} (hne : word ≠ []) (hword : ∀ c ∈ word, isWord c = true)

include hne hword

/-- A word mentions no other word. -/
theorem mentions_word {t : Text} (ht : ∀ c ∈ t, isWord c = true) :
    mentions word t = true ↔ word = t := by
  have hhead : word.head?.any isWord = true := by
    rw [List.head?_eq_some_head hne]
    exact hword _ (List.head_mem hne)
  have hlast : word.getLast?.any isWord = true := by
    rw [List.getLast?_eq_some_getLast hne]
    exact hword _ (List.getLast_mem hne)
  rw [mentions_iff hne, hhead, hlast]
  constructor
  · rintro ⟨x, y, rfl, hleft, hright⟩
    have hx : x = [] := by
      rcases List.eq_nil_or_concat x with hx | ⟨x, c, rfl⟩
      · exact hx
      · refine absurd ?_ hleft
        rw [List.concat_eq_append, List.getLast?_concat]
        exact ht c (by simp)
    have hy : y = [] := by
      cases y with
      | nil => rfl
      | cons c y => exact absurd (ht c (by simp)).symm hright
    simp [hx, hy]
  · rintro rfl
    exact ⟨[], [], by simp, by simp, by simp⟩

/-- **A key mentions its parts**, and nothing else. -/
theorem mentions_iff_mem_split {key : Text} (hkey : ∀ c ∈ key, isWord c = true ∨ c = '-') :
    mentions word key = true ↔ word ∈ split '-' key := by
  have hname := isName_of_word hne hword
  induction hn : key.length using Nat.strongRecOn generalizing key with
  | ind n ih =>
    by_cases hhyphen : '-' ∈ key
    · -- up to the first hyphen there is one word, and the rest is shorter
      obtain ⟨part, rest, rfl, hpart⟩ := List.eq_append_cons_of_mem hhyphen
      have hfirst : ∀ c ∈ part, isWord c = true := by
        intro c hc
        rcases hkey c (by simp [hc]) with h | rfl
        · exact h
        · exact absurd hc hpart
      have hrift : rift part (['-'] ++ rest) = true := border_before (by decide +kernel)
      have hrest : mentions word rest = true ↔ word ∈ split '-' rest :=
        ih rest.length (by rw [← hn, List.length_append, List.length_cons]; omega)
          (fun c hc => hkey c (by simp [hc])) rfl
      have hplain : ∀ c ∈ ['-'], isNameChar c = false := by
        intro c hc
        exact not_isNameChar c ((by decide : ['-'] ⊆ _) hc)
      rw [split_append_cons hpart, List.mem_cons, ← mentions_word hne hword hfirst, ← hrest,
        ← Bool.or_eq_true, ← mentions_prepend hname (t := rest) hplain,
        ← mentions_append hname hrift]
      rfl
    · have hall : ∀ c ∈ key, isWord c = true := by
        intro c hc
        rcases hkey c hc with h | rfl
        · exact h
        · exact absurd hc hhyphen
      rw [split_of_not_mem hhyphen, List.mem_singleton]
      exact mentions_word hne hword hall

end Word

end Script.Registration

end Graft
