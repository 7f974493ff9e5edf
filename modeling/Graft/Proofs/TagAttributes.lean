import Graft.Proofs.Detection

/-!
# How a start tag is read

A start tag has attributes: names, some of them with a value between quotes. The search for the tag
knows nothing of quotes. It takes the tag to end at the first closing bracket, and it takes the
script for one with `setup` where the word stands between a blank and something that ends a name,
wherever that is.

So a tag is read as it is meant exactly if no value has a closing bracket, and either some
attribute is named `setup` or no value shows the word (`start_tag_read_iff`). What is seen of a
list of attributes is said by `SeesSetup`, which goes through them as long as the tag has not
closed. The step that carries it is `showsSetup_attribute`: one attribute in front of anything.
-/

namespace Graft.Script

open Text Pattern

/-! ## Attributes -/

/-- A character at which the name of an attribute ends. -/
def endsName (c : Char) : Bool := isBlank c || c == '=' || c == '/' || c == '>'

/-- A quote around the value of an attribute. -/
def isQuote (c : Char) : Bool := c == '"' || c == '\x27'

/-- An attribute as it stands in a tag: a name, and a value between quotes where it has one. -/
structure Attribute where
  /-- What sets it off from what stands before it. -/
  gap : Text
  /-- The name. -/
  name : Text
  /-- The quote and the value. -/
  value : Option (Char × Text)
  /-- It is set off. -/
  gap_ne : gap ≠ []
  /-- It is set off by blanks. -/
  gap_blank : ∀ c ∈ gap, isBlank c = true
  /-- The name does not end before its end, and has no quote. -/
  name_plain : ∀ c ∈ name, endsName c = false ∧ isQuote c = false
  /-- The value does not have its own quote. -/
  value_quoted : ∀ v ∈ value, isQuote v.1 = true ∧ v.1 ∉ v.2

namespace Attribute

/-- What stands between the quotes. -/
def inside (a : Attribute) : Text :=
  match a.value with
  | none => []
  | some (_, v) => v

/-- The attribute as it is written. -/
def text (a : Attribute) : Text :=
  a.gap ++ a.name ++ match a.value with
    | none => []
    | some (q, v) => '=' :: q :: (v ++ [q])

end Attribute

/-- A start tag as it is written. -/
structure StartTag where
  /-- The bracket and the name. -/
  word : Text
  /-- The attributes, in order. -/
  attributes : List Attribute
  /-- What stands before the closing bracket. -/
  gap : Text
  /-- The name is that of a script. -/
  word_opens : IsOpening word
  /-- Nothing but blanks stands before the closing bracket. -/
  gap_blank : ∀ c ∈ gap, isBlank c = true

namespace StartTag

/-- What stands between the name of the tag and its closing bracket. -/
def inner (tag : StartTag) : Text := tag.attributes.flatMap Attribute.text ++ tag.gap

/-- The tag as it is written. -/
def text (tag : StartTag) : Text := tag.word ++ tag.inner ++ ['>']

/-- Only the tag itself has a closing bracket, and no value. -/
def ClosesOnce (tag : StartTag) : Prop := ∀ a ∈ tag.attributes, '>' ∉ a.inside

/-- Some attribute is named `setup`. -/
def IsSetup (tag : StartTag) : Prop := ∃ a ∈ tag.attributes, a.name = "setup".toList

end StartTag

/-! ## The word in a text -/

/-- The text starts with the word, and the word ends there. -/
def StartsSetup (t : Text) : Prop := ∃ c y, t = "setup".toList ++ c :: y ∧ endsName c = true

/-- The word stands in the text, after a blank and before something that ends a name, and the text
has no closing bracket before it. -/
def ShowsSetup (t : Text) : Prop :=
  ∃ x b y, t = x ++ b :: y ∧ '>' ∉ x ∧ isBlank b = true ∧ StartsSetup y

theorem not_startsSetup_of_head {c : Char} (hc : c ≠ 's') (t : Text) : ¬ StartsSetup (c :: t) := by
  rintro ⟨d, y, h, _⟩
  injection h with h _
  exact hc h

theorem not_showsSetup_nil : ¬ ShowsSetup [] := by
  rintro ⟨x, b, y, h, _⟩
  exact absurd h (by simp)

/-- The word is shown by the first character and what follows it, or further on. -/
theorem showsSetup_cons {d : Char} {t : Text} :
    ShowsSetup (d :: t) ↔ isBlank d = true ∧ StartsSetup t ∨ d ≠ '>' ∧ ShowsSetup t := by
  constructor
  · rintro ⟨x, b, y, h, hx, hb, hy⟩
    cases x with
    | nil =>
        injection h with hd ht
        exact Or.inl ⟨hd ▸ hb, ht ▸ hy⟩
    | cons e x =>
        injection h with hd ht
        rw [List.mem_cons, not_or] at hx
        exact Or.inr ⟨fun hclose => hx.1 (hclose ▸ hd), x, b, y, ht, hx.2, hb, hy⟩
  · rintro (⟨hd, ht⟩ | ⟨hd, x, b, y, rfl, hx, hb, hy⟩)
    · exact ⟨[], d, t, rfl, by simp, hd, ht⟩
    · exact ⟨d :: x, b, y, rfl, by simp [hx, Ne.symm hd], hb, hy⟩

theorem isBlank_ne_close {c : Char} (h : isBlank c = true) : c ≠ '>' := by
  rintro rfl
  exact absurd h (by decide)

/-- Characters that are no blanks and do not close the tag show nothing. -/
theorem showsSetup_append {u : Text} (h : ∀ c ∈ u, isBlank c = false ∧ c ≠ '>') (t : Text) :
    ShowsSetup (u ++ t) ↔ ShowsSetup t := by
  induction u with
  | nil => rfl
  | cons c u ih =>
      obtain ⟨hblank, hclose⟩ := h c (by simp)
      rw [List.cons_append, showsSetup_cons, ih fun d hd => h d (by simp [hd])]
      simp [hblank, hclose]

/-- Behind blanks the word can start where they end. -/
theorem showsSetup_blanks {gap : Text} (h : ∀ c ∈ gap, isBlank c = true) (hne : gap ≠ [])
    (t : Text) : ShowsSetup (gap ++ t) ↔ StartsSetup t ∨ ShowsSetup t := by
  induction gap with
  | nil => exact absurd rfl hne
  | cons c gap ih =>
      have hc := h c (by simp)
      rw [List.cons_append, showsSetup_cons]
      cases gap with
      | nil => simp [hc, isBlank_ne_close hc]
      | cons d gap =>
          have hd : d ≠ 's' := by
            rintro rfl
            exact absurd (h 's' (by simp)) (by decide)
          rw [ih (fun e he => h e (List.mem_cons_of_mem _ he)) (by simp)]
          simp [isBlank_ne_close hc, not_startsSetup_of_head hd]

/-- The word starts a name that ends exactly if it is the name. -/
theorem startsSetup_name {name t : Text} (hname : ∀ c ∈ name, endsName c = false)
    (ht : t.head?.any endsName = true) : StartsSetup (name ++ t) ↔ name = "setup".toList := by
  cases t with
  | nil => exact absurd ht (by simp)
  | cons d t =>
      have hd : endsName d = true := ht
      constructor
      · rintro ⟨c, y, h, hc⟩
        have hcname : c ∉ name := fun hmem => by
          rw [hname c hmem] at hc
          exact absurd hc (by simp)
        have hdword : d ∉ "setup".toList := by
          refine not_mem_of_forall (f := fun c => !endsName c) (forall_of_all (by decide)) ?_
          rw [hd, Bool.not_true]
        exact (append_cons_inj hcname hdword h).1
      · rintro rfl
        exact ⟨d, t, rfl, hd⟩

theorem isQuote_facts {q : Char} (h : isQuote q = true) :
    isBlank q = false ∧ q ≠ '>' ∧ endsName q = false ∧ q ∉ "setup".toList := by
  unfold isQuote at h
  rw [Bool.or_eq_true, beq_iff_eq, beq_iff_eq] at h
  rcases h with rfl | rfl
  · decide
  · decide

/-- A quote is no part of the word, so the word starts before the quote or not at all. -/
theorem startsSetup_quote {q : Char} (hq : isQuote q = true) (v t : Text) :
    StartsSetup (v ++ q :: t) ↔ StartsSetup v := by
  obtain ⟨_, _, hend, hword⟩ := isQuote_facts hq
  constructor
  · rintro ⟨c, y, h, hc⟩
    have hout : q ∉ "setup".toList ++ [c] := by
      rw [List.mem_append, List.mem_singleton, not_or]
      refine ⟨hword, ?_⟩
      rintro rfl
      rw [hc] at hend
      exact absurd hend (by simp)
    have hcut : v ++ q :: t = "setup".toList ++ [c] ++ y := by
      rw [h, List.append_assoc]
      rfl
    rcases List.append_eq_append_iff.mp hcut with ⟨z, hz, hrest⟩ | ⟨z, rfl, _⟩
    · cases z with
      | nil =>
          rw [List.append_nil] at hz
          exact ⟨c, [], hz.symm, hc⟩
      | cons e z =>
          injection hrest with he _
          exact absurd (by rw [hz, he]; simp) hout
    · exact ⟨c, z, by simp, hc⟩
  · rintro ⟨c, y, rfl, hc⟩
    exact ⟨c, y ++ q :: t, by simp, hc⟩

/-- **A value between quotes** shows the word itself, or lets be seen what stands behind it. -/
theorem showsSetup_quoted {q : Char} (hq : isQuote q = true) (v t : Text) :
    ShowsSetup (v ++ q :: t) ↔ ShowsSetup v ∨ '>' ∉ v ∧ ShowsSetup t := by
  obtain ⟨hblank, hclose, _⟩ := isQuote_facts hq
  induction v with
  | nil =>
      rw [List.nil_append, showsSetup_cons]
      simp [hblank, hclose, not_showsSetup_nil]
  | cons d v ih =>
      rw [List.cons_append, showsSetup_cons, showsSetup_cons, startsSetup_quote hq, ih,
        List.mem_cons, not_or, eq_comm (a := '>'), and_or_left, or_assoc, and_assoc]

/-! ## The word in a list of attributes -/

theorem endsName_of_isBlank {c : Char} (h : isBlank c = true) : endsName c = true := by
  simp [endsName, h]

/-- What is seen of a list of attributes: a name or a value with the word in it, as long as no
value before it closes the tag. -/
inductive SeesSetup : List Attribute → Prop where
  /-- The first attribute has the word for its name. -/
  | named {a : Attribute} {as : List Attribute} (h : a.name = "setup".toList) : SeesSetup (a :: as)
  /-- The first attribute has a value that shows the word. -/
  | shown {a : Attribute} {as : List Attribute} (h : ShowsSetup a.inside) : SeesSetup (a :: as)
  /-- It is seen behind the first attribute. -/
  | later {a : Attribute} {as : List Attribute} (hclose : '>' ∉ a.inside) (h : SeesSetup as) :
      SeesSetup (a :: as)

theorem seesSetup_cons {a : Attribute} {as : List Attribute} :
    SeesSetup (a :: as) ↔
      a.name = "setup".toList ∨ ShowsSetup a.inside ∨ '>' ∉ a.inside ∧ SeesSetup as := by
  constructor
  · intro h
    cases h with
    | named h => exact Or.inl h
    | shown h => exact Or.inr (Or.inl h)
    | later hclose h => exact Or.inr (Or.inr ⟨hclose, h⟩)
  · rintro (h | h | ⟨hclose, h⟩)
    · exact .named h
    · exact .shown h
    · exact .later hclose h

/-- Where no value closes the tag, the word is seen if it is a name or stands in a value. -/
theorem seesSetup_iff {as : List Attribute} (h : ∀ a ∈ as, '>' ∉ a.inside) :
    SeesSetup as ↔ (∃ a ∈ as, a.name = "setup".toList) ∨ ∃ a ∈ as, ShowsSetup a.inside := by
  induction as with
  | nil => exact iff_of_false nofun (by simp)
  | cons a as ih =>
      have hclose := h a (by simp)
      rw [seesSetup_cons, ih fun b hb => h b (List.mem_cons_of_mem a hb)]
      simp only [List.exists_mem_cons_iff, hclose, not_false_eq_true, true_and]
      rw [← or_assoc, or_or_or_comm]

/-- **One attribute in front of anything** that ends its name. -/
theorem showsSetup_attribute (a : Attribute) {t : Text} (ht : t.head?.any endsName = true) :
    ShowsSetup (a.text ++ t) ↔
      a.name = "setup".toList ∨ ShowsSetup a.inside ∨ '>' ∉ a.inside ∧ ShowsSetup t := by
  have hname : ∀ c ∈ a.name, endsName c = false := fun c hc => (a.name_plain c hc).1
  have hplain : ∀ c ∈ a.name, isBlank c = false ∧ c ≠ '>' := by
    intro c hc
    have hend := hname c hc
    simp only [endsName, Bool.or_eq_false_iff, beq_eq_false_iff_ne] at hend
    exact ⟨hend.1.1.1, hend.2⟩
  have hfront : ∀ {rest : Text}, rest.head?.any endsName = true →
      (ShowsSetup (a.gap ++ a.name ++ rest) ↔ a.name = "setup".toList ∨ ShowsSetup rest) := by
    intro rest hrest
    rw [List.append_assoc, showsSetup_blanks a.gap_blank a.gap_ne, startsSetup_name hname hrest,
      showsSetup_append hplain]
  unfold Attribute.text Attribute.inside
  cases hvalue : a.value with
  | none =>
      dsimp only
      rw [List.append_nil, hfront ht]
      simp [not_showsSetup_nil]
  | some value =>
      obtain ⟨q, v⟩ := value
      obtain ⟨hq, _⟩ := a.value_quoted (q, v) hvalue
      obtain ⟨hblank, hclose, _⟩ := isQuote_facts hq
      have hequals : ∀ c ∈ ['=', q], isBlank c = false ∧ c ≠ '>' := by
        intro c hc
        rcases List.mem_cons.mp hc with rfl | hc
        · decide
        · exact List.mem_singleton.mp hc ▸ ⟨hblank, hclose⟩
      have hrest : '=' :: q :: (v ++ [q]) ++ t = ['=', q] ++ (v ++ q :: t) := by simp
      dsimp only
      rw [List.append_assoc, hrest, hfront rfl, showsSetup_append hequals, showsSetup_quoted hq]

/-- What stands behind an attribute ends its name. -/
theorem head_ends {gap : Text} (hgap : ∀ c ∈ gap, isBlank c = true) (as : List Attribute)
    (t : Text) : (as.flatMap Attribute.text ++ gap ++ '>' :: t).head?.any endsName = true := by
  have hblanks : ∀ {u w : Text}, (∀ c ∈ u, isBlank c = true) → w.head?.any endsName = true →
      (u ++ w).head?.any endsName = true := by
    intro u w hu hw
    cases u with
    | nil => exact hw
    | cons c u => exact endsName_of_isBlank (hu c (by simp))
  cases as with
  | nil => exact hblanks hgap rfl
  | cons a as =>
      obtain ⟨c, rest, hgap'⟩ := List.exists_cons_of_ne_nil a.gap_ne
      have hc := a.gap_blank c (by rw [hgap']; simp)
      rw [List.flatMap_cons, Attribute.text, hgap']
      exact endsName_of_isBlank hc

/-- **What is shown between the name of a tag and its closing bracket** is what is seen of its
attributes. -/
theorem showsSetup_attributes {gap : Text} (hgap : ∀ c ∈ gap, isBlank c = true) (t : Text) :
    ∀ as : List Attribute,
      ShowsSetup (as.flatMap Attribute.text ++ gap ++ '>' :: t) ↔ SeesSetup as
  | [] => by
      have hclosed : ¬ ShowsSetup ('>' :: t) := by
        rw [showsSetup_cons]
        rintro (⟨h, _⟩ | ⟨h, _⟩)
        · exact absurd h (by decide)
        · exact h rfl
      refine iff_of_false (fun h => ?_) nofun
      rw [List.flatMap_nil, List.nil_append] at h
      by_cases hne : gap = []
      · rw [hne] at h
        exact hclosed h
      · rcases (showsSetup_blanks hgap hne _).mp h with h | h
        · exact not_startsSetup_of_head (by decide) t h
        · exact hclosed h
  | a :: as => by
      rw [List.flatMap_cons, List.append_assoc, List.append_assoc, ← List.append_assoc _ gap,
        showsSetup_attribute a (head_ends hgap as t), showsSetup_attributes hgap t as,
        seesSetup_cons]

/-- The search for the word, in a text that has no closing bracket, finds what is shown before
one. -/
theorem declaresSetup_iff {u : Text} (hu : '>' ∉ u) (v : Text) :
    declaresSetup u = true ↔ ShowsSetup (u ++ '>' :: v) := by
  have hword : '>' ∉ "setup".toList := by decide
  unfold declaresSetup
  rw [occurs_iff]
  simp only [List.mem_cons, List.not_mem_nil, or_false, exists_eq_or_imp, exists_eq_left,
    fits_append, fits_finish]
  constructor
  · rintro ⟨x, _, after, rfl, ⟨_, _, rfl, ⟨b, w, rfl, hb, hw⟩, ⟨c, _, rfl, hc, rfl⟩⟩ |
      ⟨_, _, rfl, ⟨b, w, rfl, hb, hw⟩, rfl, rfl⟩⟩
    · rw [fits_exactly.mp hw] at hu ⊢
      refine ⟨x, b, "setup".toList ++ c :: (after ++ '>' :: v), by simp, ?_, hb, c, _, rfl, ?_⟩
      · exact fun hmem => hu (List.mem_append_left _ hmem)
      · rw [endsName, Bool.or_eq_true]
        exact Or.inl hc
    · rw [fits_exactly.mp hw] at hu ⊢
      refine ⟨x, b, "setup".toList ++ '>' :: v, by simp, ?_, hb, '>', v, rfl, by decide⟩
      exact fun hmem => hu (List.mem_append_left _ hmem)
  · rintro ⟨x, b, _, h, hx, hb, c, y, rfl, hc⟩
    have hfront : '>' ∉ x ++ b :: "setup".toList := by
      rw [List.mem_append, List.mem_cons, not_or, not_or]
      exact ⟨hx, (isBlank_ne_close hb).symm, hword⟩
    have hcut : x ++ b :: "setup".toList ++ c :: y = u ++ '>' :: v := by
      rw [h, List.append_assoc]
      rfl
    by_cases hclose : c = '>'
    · -- the word ends where the tag does
      subst hclose
      obtain ⟨rfl, _, _⟩ := append_cons_inj hfront hu hcut
      exact ⟨x, b :: "setup".toList, [], by simp,
        Or.inr ⟨_, [], by simp, ⟨b, _, rfl, hb, fits_exactly.mpr rfl⟩, rfl, rfl⟩⟩
    · have hends : (isBlank c || c == '=' || c == '/') = true := by
        rw [endsName, Bool.or_eq_true] at hc
        exact hc.resolve_right fun h => hclose (beq_iff_eq.mp h)
      rcases List.append_eq_append_iff.mp hcut with ⟨z, rfl, hz⟩ | ⟨z, hz, hrest⟩
      · cases z with
        | nil =>
            injection hz with hz _
            exact absurd hz hclose
        | cons d z =>
            injection hz with hd _
            subst hd
            refine ⟨x, b :: ("setup".toList ++ [c]), z, by simp, Or.inl ?_⟩
            exact ⟨b :: "setup".toList, [c], rfl, ⟨b, _, rfl, hb, fits_exactly.mpr rfl⟩,
              c, [], rfl, hends, rfl⟩
      · cases z with
        | nil =>
            injection hrest with hrest _
            exact absurd hrest.symm hclose
        | cons d z =>
            injection hrest with hd _
            exact absurd (by rw [hz, hd]; simp) hfront

/-! ## The tag -/

/-- What the search takes for the attributes of a tag. -/
theorem attributes_eq {w : Text} (h : IsOpening w) (u : Text) :
    attributes (w ++ u ++ ['>']) = u := by
  rw [attributes, List.append_assoc, ← h.length_eq, List.drop_left, List.dropLast_concat]

theorem close_mem_text {a : Attribute} : '>' ∈ a.text ↔ '>' ∈ a.inside := by
  have hgap : '>' ∉ a.gap := not_mem_of_forall a.gap_blank (by decide)
  have hname : '>' ∉ a.name := fun h => absurd (a.name_plain _ h).1 (by decide)
  unfold Attribute.text Attribute.inside
  cases hvalue : a.value with
  | none => simp [hgap, hname]
  | some value =>
      have hq := (isQuote_facts (a.value_quoted value hvalue).1).2.1.symm
      simp [hgap, hname, hq]

namespace StartTag

variable (tag : StartTag)

/-- Only a value can have a closing bracket before that of the tag. -/
theorem close_mem_inner : '>' ∈ tag.inner ↔ ∃ a ∈ tag.attributes, '>' ∈ a.inside := by
  have hgap : '>' ∉ tag.gap := not_mem_of_forall tag.gap_blank (by decide)
  rw [inner, List.mem_append, or_iff_left hgap, List.mem_flatMap]
  simp only [close_mem_text]

theorem inner_head : tag.inner.head?.all isBlank = true := by
  unfold inner
  cases tag.attributes with
  | nil =>
      rw [List.flatMap_nil, List.nil_append]
      cases hgap : tag.gap with
      | nil => rfl
      | cons c gap => exact tag.gap_blank c (by simp [hgap])
  | cons a as =>
      obtain ⟨c, rest, hgap⟩ := List.exists_cons_of_ne_nil a.gap_ne
      rw [List.flatMap_cons, Attribute.text, hgap]
      exact a.gap_blank c (by simp [hgap])

variable {tag} {before after u v : Text}

/-- The tag is taken to end at its first closing bracket. -/
theorem startTag?_eq
    (hfirst : ∀ y, y <:+ before → y ≠ [] → ¬ Opens (y ++ tag.text ++ after))
    (hcut : tag.inner ++ ['>'] = u ++ '>' :: v) (hu : '>' ∉ u) :
    startTag? (before ++ tag.text ++ after) =
      some ⟨before, tag.word ++ u ++ ['>'], v ++ after⟩ := by
  have htext : ∀ y, y ++ tag.text ++ after = y ++ (tag.word ++ u ++ ['>']) ++ (v ++ after) := by
    intro y
    rw [text, List.append_assoc tag.word, hcut]
    simp
  have hhead : u.head?.all isBlank = true := by
    have hinner := tag.inner_head
    cases u with
    | nil => rfl
    | cons c u =>
        cases hi : tag.inner with
        | nil =>
            rw [hi] at hcut
            injection hcut with hc _
            exact absurd (hc ▸ List.mem_cons_self) hu
        | cons d rest =>
            rw [hi] at hcut hinner
            injection hcut with hd _
            exact hd ▸ hinner
  rw [htext]
  refine startTag?_eq_some ⟨tag.word, u, rfl, tag.word_opens, hhead, hu⟩ fun y hy hne => ?_
  rw [← htext]
  exact hfirst y hy hne

/-- Nothing of the tag is left behind its first closing bracket exactly if no value has one. -/
theorem rest_eq_nil_iff (hcut : tag.inner ++ ['>'] = u ++ '>' :: v) (hu : '>' ∉ u) :
    v = [] ↔ tag.ClosesOnce := by
  have hinner : tag.ClosesOnce ↔ '>' ∉ tag.inner := by
    rw [close_mem_inner, ClosesOnce]
    push Not
    rfl
  rw [hinner]
  constructor
  · rintro rfl
    rw [List.append_left_inj] at hcut
    exact hcut ▸ hu
  · intro hclose
    exact (append_cons_inj hclose hu hcut).2.2.symm

/-- What is left of the tag behind its first closing bracket ends in a closing bracket. -/
theorem rest_last (hcut : tag.inner ++ ['>'] = u ++ '>' :: v) : v = [] ∨ v.getLast? = some '>' := by
  rcases List.eq_nil_or_concat v with rfl | ⟨x, c, rfl⟩
  · exact Or.inl rfl
  · have hlast := congrArg List.getLast? hcut
    rw [List.concat_eq_append, ← List.cons_append, ← List.append_assoc, List.getLast?_concat,
      List.getLast?_concat] at hlast
    exact Or.inr (by rw [List.concat_eq_append, List.getLast?_concat, hlast])

end StartTag

/-- The line of an import stands behind a text that ends the tag only if it is empty. -/
theorem Import.line_comm {v : Text} (name path : Text) (hv : v = [] ∨ v.getLast? = some '>') :
    line name path ++ v = v ++ line name path ↔ v = [] := by
  constructor
  · intro h
    rcases hv with rfl | hv
    · rfl
    · -- the two texts end in different characters
      have hends := congrArg List.getLast? h
      rw [List.getLast?_append, List.getLast?_append, hv, getLast?_line] at hends
      exact absurd hends (by decide)
  · rintro rfl
    rw [List.append_nil, List.nil_append]

/-- **How a start tag is read.** The word is seen in the attributes, and in the values too, up to
the first closing bracket, and that bracket is taken for the end of the tag. So both answers are
the right ones exactly if no value has a closing bracket and, unless some attribute is named
`setup`, no value shows the word; and an import is put behind the tag exactly if no value has a
closing bracket. -/
theorem start_tag_read_iff (tag : StartTag) {code before after : Text}
    (hcode : code = before ++ tag.text ++ after)
    (hfirst : ∀ y, y <:+ before → y ≠ [] → ¬ Opens (y ++ tag.text ++ after)) :
    (detect code).hasScript = true ∧
      ((detect code).isSetup = true ↔ SeesSetup tag.attributes) ∧
      ((detect code).start = ((before ++ tag.text).length : Nat) ↔ tag.ClosesOnce) ∧
      (((detect code).isSetup = true ↔ tag.IsSetup) ∧
          (detect code).start = ((before ++ tag.text).length : Nat) ↔
        tag.ClosesOnce ∧ (tag.IsSetup ∨ ∀ a ∈ tag.attributes, ¬ ShowsSetup a.inside)) ∧
      ∀ name path, Import.present code name = false →
        (Import.add code name path = before ++ tag.text ++ Import.line name path ++ after ↔
          tag.ClosesOnce) := by
  obtain ⟨u, v, hcut, hu⟩ := List.eq_append_cons_of_mem (show '>' ∈ tag.inner ++ ['>'] by simp)
  have hfound := StartTag.startTag?_eq hfirst hcut hu
  have hrest := StartTag.rest_eq_nil_iff hcut hu
  rw [← hcode] at hfound
  obtain ⟨hscript, hsetup, hstart⟩ := detect_startTag hfound
  have hsees : (detect code).isSetup = true ↔ SeesSetup tag.attributes := by
    rw [hsetup, attributes_eq tag.word_opens, declaresSetup_iff hu v, ← hcut, StartTag.inner,
      showsSetup_attributes tag.gap_blank]
  have hends : (detect code).start = ((before ++ tag.text).length : Nat) ↔ tag.ClosesOnce := by
    have hlength := congrArg List.length hcut
    rw [hstart, ← hrest, Int.natCast_inj, ← List.length_eq_zero_iff]
    simp only [StartTag.text, List.length_append, List.length_cons, List.length_nil] at hlength ⊢
    omega
  refine ⟨hscript, hsees, hends, ?_, fun name path habsent => ?_⟩
  · rw [hsees, hends, and_comm]
    refine and_congr_right fun hclosed => ?_
    have hshown : (∀ a ∈ tag.attributes, ¬ ShowsSetup a.inside) ↔
        ¬ ∃ a ∈ tag.attributes, ShowsSetup a.inside := by simp
    rw [seesSetup_iff hclosed, ← StartTag.IsSetup, or_iff_left_iff_imp, hshown, imp_iff_or_not]
  · rw [Import.add_behind path hfound habsent, ← hrest,
      ← Import.line_comm name path (StartTag.rest_last hcut)]
    have htext : before ++ tag.text = before ++ (tag.word ++ u ++ ['>']) ++ v := by
      rw [StartTag.text, List.append_assoc tag.word, hcut]
      simp
    rw [htext]
    simp only [List.append_assoc, List.append_cancel_left_eq]
    rw [← List.append_assoc, ← List.append_assoc v, List.append_left_inj]

/-- A tag with the word in one value and a closing bracket in the other. -/
def titledTag : StartTag where
  word := "<script".toList
  attributes :=
    [⟨[' '], "title".toList, some ('"', "the setup of it".toList), by simp,
      forall_of_all (by decide), forall_of_all (by decide), fun v hv => by cases hv; decide⟩,
    ⟨[' '], "generic".toList, some ('\x27', "A<B>".toList), by simp,
      forall_of_all (by decide), forall_of_all (by decide), fun v hv => by cases hv; decide⟩]
  gap := []
  word_opens := isOpening_script
  gap_blank := by simp

/-- A script with an export behind the tag. -/
def titledPage : Text := titledTag.text ++ "\nexport default \x7b\x7d\n</script>\n".toList

/-- The script is taken for one with `setup`, and its import is put into a value. -/
theorem titledPage_misread :
    ¬ titledTag.IsSetup ∧ (detect titledPage).isSetup = true ∧
      (detect titledPage).start ≠ (titledTag.text.length : Nat) ∧
      Import.add titledPage "Card".toList "@/Card.vue".toList ≠
        titledTag.text ++ Import.line "Card".toList "@/Card.vue".toList ++
          "\nexport default \x7b\x7d\n</script>\n".toList := by
  have hnone : ∀ y : Text, y <:+ [] → y ≠ [] → ¬ Opens (y ++ titledTag.text ++
      "\nexport default \x7b\x7d\n</script>\n".toList) :=
    fun y hy hne => absurd (List.suffix_nil.mp hy) hne
  obtain ⟨_, hsees, hstart, _, himport⟩ := start_tag_read_iff titledTag (rfl : titledPage = _) hnone
  have hcloses : ¬ titledTag.ClosesOnce := fun h =>
    absurd (h _ (List.mem_cons_of_mem _ List.mem_cons_self)) (by decide)
  refine ⟨?_, hsees.mpr (.shown ?_), fun h => hcloses (hstart.mp h),
    fun h => hcloses ((himport _ _ ?_).mp h)⟩
  · rintro ⟨a, ha, hname⟩
    have hnames : titledTag.attributes.map Attribute.name =
        ["title".toList, "generic".toList] := rfl
    have hmem := List.mem_map_of_mem (f := Attribute.name) ha
    rw [hnames, hname] at hmem
    exact absurd hmem (by decide)
  · exact ⟨"the".toList, ' ', "setup of it".toList, rfl, by decide, rfl, ' ', "of it".toList,
      rfl, rfl⟩
  · decide +kernel

end Graft.Script
