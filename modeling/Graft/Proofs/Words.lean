import Graft.Text.Basic

/-!
# Words that no edit cuts

Every step of an injection looks for a place in a text and writes something there. The
places are not arbitrary: they stand right after a closing bracket or right before an
opening one, next to a brace or a comma, or at one end of the text. Such a place is a
*seam*. A *phrase* has none of these characters inside it and a blank on neither end, so it
cannot lie across a seam (`Phrase.not_across`). This is the whole reason why an opening
tag, a marker or a binding that stands in a document survives whatever is written into it.

What is written is set off on both sides more loosely, by a seam or by a blank: a *gap*. A
*solid* word is a phrase without blanks, and cannot lie across a gap either. So a solid word
in the text after an edit stood in the text before it or in what was written.

`InOrder` says that several phrases stand in a text one after the other. A text that falls
into two parts at a seam divides its phrases between them (`inOrder_split`), and the parts
can be treated on their own and put together again (`inOrder_append`).

The last section says in the same terms what the searches for a marker return.
-/

namespace Graft.Text

/-- A suffix of two texts together lies in the second, or reaches into the first. -/
theorem suffix_append_cases {y a b : Text} (h : y <:+ a ++ b) :
    y <:+ b ∨ ∃ z, z ≠ [] ∧ z <:+ a ∧ y = z ++ b := by
  obtain ⟨x, hx⟩ := h
  rcases List.append_eq_append_iff.mp hx with ⟨z, rfl, rfl⟩ | ⟨z, rfl, rfl⟩
  · cases z with
    | nil => exact Or.inl (List.suffix_refl b)
    | cons d z => exact Or.inr ⟨d :: z, by simp, List.suffix_append x _, rfl⟩
  · exact Or.inl (List.suffix_append z y)

/-- What holds of every character of a text can be computed. The test goes over the text: there
are too many characters to go over them all. -/
theorem forall_of_all {P : Char → Prop} [DecidablePred P] {t : Text}
    (h : t.all (fun c => decide (P c)) = true) : ∀ c ∈ t, P c :=
  fun c hc => of_decide_eq_true (List.all_eq_true.mp h c hc)

theorem isBlank_of_mem_blankTail {t : Text} : ∀ c ∈ blankTail t, isBlank c = true := by
  intro c hc
  rw [blankTail, List.mem_reverse] at hc
  exact List.all_eq_true.mp List.all_takeWhile c hc

/-- Where a text is cut before the blanks at its end. -/
theorem trimRight_append {x ws : Text} {c : Char} (hc : isBlank c = false)
    (hws : ∀ d ∈ ws, isBlank d = true) :
    trimRight (x ++ [c] ++ ws) = x ++ [c] ∧ blankTail (x ++ [c] ++ ws) = ws := by
  have hrev : (x ++ [c] ++ ws).reverse = ws.reverse ++ c :: x.reverse := by simp
  have hws' : ∀ d ∈ ws.reverse, isBlank d = true := fun d hd => hws d (by simpa using hd)
  rw [trimRight, blankTail, hrev, List.dropWhile_append_of_pos hws',
    List.takeWhile_append_of_pos hws']
  simp [hc]

/-- There is only one such place. -/
theorem spaced_inj {x y ws ws' : Text} {c d : Char} (hc : isBlank c = false)
    (hd : isBlank d = false) (hws : ∀ e ∈ ws, isBlank e = true)
    (hws' : ∀ e ∈ ws', isBlank e = true) (h : x ++ [c] ++ ws = y ++ [d] ++ ws') :
    x = y ∧ c = d ∧ ws = ws' := by
  obtain ⟨hx, hw⟩ := trimRight_append (x := x) hc hws
  obtain ⟨hy, hw'⟩ := trimRight_append (x := y) hd hws'
  rw [h] at hx hw
  have hfront : x ++ [c] = y ++ [d] := hx.symm.trans hy
  obtain ⟨hxy, hcd⟩ := List.append_inj' hfront rfl
  injection hcd with hcd
  exact ⟨hxy, hcd, hw.symm.trans hw'⟩

theorem endsWith_iff {t ending : Text} : endsWith t ending = true ↔ ∃ x, t = x ++ ending := by
  rw [endsWith, List.isSuffixOf_iff_suffix]
  constructor
  · rintro ⟨x, hx⟩
    exact ⟨x, hx.symm⟩
  · rintro ⟨x, hx⟩
    exact ⟨x, hx.symm⟩

/-- A text does not end in two different characters. -/
theorem endsWith_eq_false {t : Text} {c d : Char} (hcd : c ≠ d) (h : endsWith t [c] = true) :
    endsWith t [d] = false := by
  rw [Bool.eq_false_iff, Ne, endsWith_iff]
  rintro ⟨y, hy⟩
  obtain ⟨x, hx⟩ := endsWith_iff.mp h
  have hlast : [c] = [d] := List.append_inj_right' (hx.symm.trans hy) rfl
  exact hcd (List.singleton_inj.mp hlast)

/-- A character outside a class is not in a text of the class. -/
theorem not_mem_of_forall {f : Char → Bool} {t : Text} {d : Char} (h : ∀ c ∈ t, f c = true)
    (hd : f d = false) : d ∉ t := by
  intro hm
  rw [h d hm] at hd
  exact absurd hd (by simp)

/-- Where two texts are cut before characters that the other part in front does not have,
they are cut at the same place. -/
theorem append_cons_inj {a b x y : Text} {c d : Char} (hd : d ∉ a) (hc : c ∉ b)
    (h : a ++ c :: x = b ++ d :: y) : a = b ∧ c = d ∧ x = y := by
  rcases List.append_eq_append_iff.mp h with ⟨z, rfl, hz⟩ | ⟨z, rfl, hz⟩
  · cases z with
    | nil =>
        injection hz with hcd hxy
        exact ⟨by simp, hcd, hxy⟩
    | cons e z =>
        injection hz with he _
        exact absurd (by simp [he]) hc
  · cases z with
    | nil =>
        injection hz with hdc hyx
        exact ⟨by simp, hdc.symm, hyx.symm⟩
    | cons e z =>
        injection hz with he _
        exact absurd (by simp [he]) hd

/-! ## Borders -/

/-- The place between two texts has a character of the first class on its left or one of
the second class on its right. The ends of a text count. -/
def border (left right : Char → Bool) (a b : Text) : Bool :=
  a.getLast?.all left || b.head?.all right

section Border

variable {left right : Char → Bool} {a b c p q : Text}

/-- The end of a text is a border. -/
theorem border_end : border left right a [] = true := by simp [border]

theorem border_after (h : b.getLast?.any left = true) :
    border left right (a ++ b) c = true := by
  rw [border, List.getLast?_append]
  cases hb : b.getLast? with
  | none => rw [hb] at h; exact absurd h (by simp)
  | some d => rw [hb] at h; simp_all

theorem border_before (h : b.head?.any right = true) :
    border left right a (b ++ c) = true := by
  rw [border, List.head?_append]
  cases hb : b.head? with
  | none => rw [hb] at h; exact absurd h (by simp)
  | some d => rw [hb] at h; simp_all

/-- A place stays a border when text is added on the far sides, provided the ends of the
two texts were borders to that text. -/
theorem border_context (hp : p.getLast?.all left = true) (hq : q.head?.all right = true)
    (h : border left right a b = true) : border left right (p ++ a) (b ++ q) = true := by
  rw [border, Bool.or_eq_true] at h ⊢
  rw [List.getLast?_append, List.head?_append]
  rcases h with h | h
  · left
    cases ha : a.getLast? with
    | none => exact hp
    | some c => rw [ha] at h; exact h
  · right
    cases hb : b.head? with
    | none => exact hq
    | some c => rw [hb] at h; exact h

/-- Only the last character of the left side matters. -/
theorem border_append_left (ha : a ≠ []) (h : border left right a b = true) :
    border left right (p ++ a) b = true := by
  rw [border, List.getLast?_append, List.getLast?_eq_some_getLast ha, Option.some_or,
    ← List.getLast?_eq_some_getLast ha]
  exact h

/-- What is left of the left side still ends at the border. -/
theorem border_of_append (h : border left right (p ++ a) b = true) :
    border left right a b = true := by
  rw [border, Bool.or_eq_true] at h ⊢
  rw [List.getLast?_append] at h
  rcases h with h | h
  · left
    cases ha : a.getLast? with
    | none => rfl
    | some c => rw [ha] at h; exact h
  · exact Or.inr h

end Border

/-- A brace or a comma. -/
def isStop (c : Char) : Bool := c == '{' || c == '}' || c == ','

/-- A character after which a text can be opened up. -/
def closes (c : Char) : Bool := c == '>' || isStop c

/-- A character before which a text can be opened up. -/
def opens (c : Char) : Bool := c == '<' || isStop c

/-- A place where a text can be opened up. -/
abbrev seam (a b : Text) : Bool := border closes opens a b

/-- A place that is a seam or next to a blank. -/
abbrev gap (a b : Text) : Bool :=
  border (fun c => closes c || isBlank c) (fun c => opens c || isBlank c) a b

theorem gap_of_seam {a b : Text} (h : seam a b = true) : gap a b = true := by
  rw [seam, border, Bool.or_eq_true] at h
  rw [gap, border, Bool.or_eq_true]
  rcases h with h | h
  · left
    cases ha : a.getLast? with
    | none => rfl
    | some c => rw [ha] at h; simp_all
  · right
    cases hb : b.head? with
    | none => rfl
    | some c => rw [hb] at h; simp_all

theorem gap_context {a b p q : Text} (hp : p.getLast?.all closes = true)
    (hq : q.head?.all opens = true) (h : gap a b = true) : gap (p ++ a) (b ++ q) = true := by
  refine border_context ?_ ?_ h
  · cases hl : p.getLast? with
    | none => rfl
    | some c => rw [hl] at hp; simp_all
  · cases hh : q.head? with
    | none => rfl
    | some c => rw [hh] at hq; simp_all

/-- Blanks on the left of a gap leave it one. -/
theorem gap_append_blanks {a ws b : Text} (hws : ∀ c ∈ ws, isBlank c = true)
    (h : gap a b = true) : gap (a ++ ws) b = true := by
  rcases List.eq_nil_or_concat ws with rfl | ⟨v, d, rfl⟩
  · rw [List.append_nil]
    exact h
  · refine border_after ?_
    rw [List.concat_eq_append, List.getLast?_concat]
    simp [hws d (by simp)]

/-- Blanks on the right of a gap leave it one. -/
theorem gap_blanks_append {a ws b : Text} (hws : ∀ c ∈ ws, isBlank c = true)
    (h : gap a b = true) : gap a (ws ++ b) = true := by
  cases ws with
  | nil => exact h
  | cons d ws =>
      refine border_before (b := d :: ws) ?_
      simp [hws d (by simp)]

/-! ## Phrases -/

/-- A text that cannot lie across a seam: it holds no brace and no comma, an opening
bracket only at its start and a closing one only at its end, and no blank on either end.
A phrase with a blank in it does not end in a colon, because the blanks in front of the
colon of a `components` key are not kept. -/
structure Phrase (w : Text) : Prop where
  /-- There is something to cut. -/
  ne_nil : w ≠ []
  /-- No brace and no comma is part of it. -/
  unstopped : ∀ c ∈ w, isStop c = false
  /-- Only the first character can be an opening bracket. -/
  opens_first : '<' ∉ w.tail
  /-- Only the last character can be a closing bracket. -/
  closes_last : '>' ∉ w.dropLast
  /-- It does not start with a blank. -/
  head_solid : w.head?.any isBlank = false
  /-- It does not end with a blank. -/
  last_solid : w.getLast?.any isBlank = false
  /-- It does not end in a colon that a blank could stand in front of. -/
  colon : (∀ c ∈ w, isBlank c = false) ∨ w.getLast? ≠ some ':'

/-- A phrase without blanks. -/
structure Solid (w : Text) : Prop extends Phrase w where
  /-- No blank is part of it. -/
  unspaced : ∀ c ∈ w, isBlank c = false

theorem solid_of_chars {w : Text} (hne : w ≠ [])
    (hc : ∀ c ∈ w, isStop c = false ∧ isBlank c = false) (hopen : '<' ∉ w.tail)
    (hclose : '>' ∉ w.dropLast) : Solid w := by
  have hblank : ∀ c ∈ w, isBlank c = false := fun c hm => (hc c hm).2
  refine ⟨⟨hne, fun c hm => (hc c hm).1, hopen, hclose, ?_, ?_, Or.inl hblank⟩, hblank⟩
  · cases hh : w.head? with
    | none => rfl
    | some c => exact hblank c (List.mem_of_mem_head? hh)
  · cases hl : w.getLast? with
    | none => rfl
    | some c => exact hblank c (List.mem_of_mem_getLast? hl)

/-- The check that a text is a solid word. -/
def isSolid (w : Text) : Bool :=
  !w.isEmpty && w.all (fun c => !isStop c && !isBlank c) && !w.tail.contains '<' &&
    !w.dropLast.contains '>'

theorem isSolid_iff {w : Text} : isSolid w = true ↔ Solid w := by
  simp only [isSolid, Bool.and_eq_true, Bool.not_eq_true', List.all_eq_true,
    List.isEmpty_eq_false_iff, List.contains_eq_mem, decide_eq_false_iff_not]
  constructor
  · intro h
    exact solid_of_chars h.1.1.1 h.1.1.2 h.1.2 h.2
  · intro h
    exact ⟨⟨⟨h.ne_nil, fun c hc => ⟨h.unstopped c hc, h.unspaced c hc⟩⟩, h.opens_first⟩,
      h.closes_last⟩

instance (w : Text) : Decidable (Solid w) := decidable_of_iff _ isSolid_iff

/-- A character that may stand anywhere in a solid word. -/
def isInner (c : Char) : Bool := !isBlank c && !"\x7b\x7d,<>".toList.contains c

theorem isInner_iff {c : Char} :
    isInner c = true ↔ isBlank c = false ∧ isStop c = false ∧ c ≠ '<' ∧ c ≠ '>' := by
  simp [isInner, isStop, and_assoc]

/-- A blank is no brace, no comma and no bracket. -/
theorem not_stop_of_isBlank {c : Char} (h : isBlank c = true) :
    isStop c = false ∧ c ≠ '<' ∧ c ≠ '>' := by
  have hne : ∀ d, isBlank d = false → c ≠ d := by
    rintro d hd rfl
    rw [h] at hd
    exact absurd hd (by simp)
  refine ⟨?_, hne _ (by decide), hne _ (by decide)⟩
  simp [isStop, hne '{' (by decide), hne '}' (by decide), hne ',' (by decide)]

/-- An opening bracket and inner characters make a solid word. -/
theorem solid_of_inner {w : Text} (h : ∀ c ∈ w, isInner c = true) : Solid ('<' :: w) := by
  have hmem : ∀ c ∈ w, isBlank c = false ∧ isStop c = false ∧ c ≠ '<' ∧ c ≠ '>' :=
    fun c hc => isInner_iff.mp (h c hc)
  refine solid_of_chars (by simp) ?_ ?_ ?_
  · intro c hc
    rcases List.mem_cons.mp hc with rfl | hc
    · decide
    · exact ⟨(hmem c hc).2.1, (hmem c hc).1⟩
  · intro hc
    exact (hmem _ hc).2.2.1 rfl
  · intro hc
    rcases List.mem_cons.mp (List.dropLast_subset _ hc) with hc | hc
    · exact absurd hc (by decide)
    · exact (hmem _ hc).2.2.2 rfl

/-- A phrase that reaches up to a seam does not go beyond it. -/
theorem Phrase.not_across {w a b u v : Text} (hw : Phrase w) (hs : seam a b = true)
    (h : w = u ++ v) (hu : u <:+ a) (hv : v <+: b) : u = [] ∨ v = [] := by
  rcases List.eq_nil_or_concat u with hu0 | ⟨u', c, rfl⟩
  · exact Or.inl hu0
  · rcases v with _ | ⟨d, v'⟩
    · exact Or.inr rfl
    · exfalso
      obtain ⟨p, rfl⟩ := hu
      obtain ⟨q, rfl⟩ := hv
      have hc := hw.unstopped c (by simp [h])
      have hd := hw.unstopped d (by simp [h])
      have hclose : c ≠ '>' := by
        rintro rfl
        exact hw.closes_last (by simp [h])
      have hopen : d ≠ '<' := by
        rintro rfl
        exact hw.opens_first (by cases u' <;> simp [h])
      simp [border, closes, opens, hc, hd, hclose, hopen] at hs

/-- A solid word that reaches up to a gap does not go beyond it. -/
theorem Solid.not_across_gap {w a b u v : Text} (hw : Solid w) (hg : gap a b = true)
    (h : w = u ++ v) (hu : u <:+ a) (hv : v <+: b) : u = [] ∨ v = [] := by
  rcases List.eq_nil_or_concat u with hu0 | ⟨u', c, hc⟩
  · exact Or.inl hu0
  · rcases v with _ | ⟨d, v'⟩
    · exact Or.inr rfl
    · -- neither neighbour is a blank, so the gap is a seam
      refine hw.not_across ?_ h hu hv
      obtain ⟨p, rfl⟩ := hu
      obtain ⟨q, rfl⟩ := hv
      have hcb := hw.unspaced c (by simp [h, hc])
      have hdb := hw.unspaced d (by simp [h])
      simpa [border, hc, hcb, hdb] using hg

/-- A word that does not lie across the place between two texts stands in one of them. -/
theorem infix_append_of_not_across {w a b : Text}
    (h : ∀ u v, w = u ++ v → u <:+ a → v <+: b → u = [] ∨ v = []) :
    w <:+: a ++ b ↔ w <:+: a ∨ w <:+: b := by
  constructor
  · intro hin
    rcases List.infix_append_iff_ne_nil.mp hin with hin | hin | ⟨u, v, hu, hv, he, hua, hvb⟩
    · exact Or.inl hin
    · exact Or.inr hin
    · rcases h u v he hua hvb with h | h
      · exact absurd h hu
      · exact absurd h hv
  · intro hin
    rcases hin with hin | hin
    · exact hin.trans (List.prefix_append a b).isInfix
    · exact hin.trans (List.suffix_append a b).isInfix

/-- A phrase that stands in a text with a seam stands on one side of it. -/
theorem Phrase.infix_append {w a b : Text} (hw : Phrase w) (hs : seam a b = true) :
    w <:+: a ++ b ↔ w <:+: a ∨ w <:+: b :=
  infix_append_of_not_across fun _ _ => hw.not_across hs

/-- A solid word that stands in a text with a gap stands on one side of it. -/
theorem Solid.infix_append {w a b : Text} (hw : Solid w) (hg : gap a b = true) :
    w <:+: a ++ b ↔ w <:+: a ∨ w <:+: b :=
  infix_append_of_not_across fun _ _ => hw.not_across_gap hg

/-! ## Several phrases in order -/

/-- The phrases stand in the text in this order, without overlapping. -/
def InOrder : List Text → Text → Prop
  | [], _ => True
  | w :: ws, t => ∃ a b, t = a ++ w ++ b ∧ InOrder ws b

theorem inOrder_singleton {w t : Text} : InOrder [w] t ↔ w <:+: t := by
  constructor
  · intro h
    obtain ⟨a, b, rfl, _⟩ := h
    exact ⟨a, b, rfl⟩
  · intro h
    obtain ⟨a, b, rfl⟩ := h
    exact ⟨a, b, rfl, trivial⟩

/-- Text in front does not matter. -/
theorem InOrder.prepend {ws : List Text} {t : Text} (h : InOrder ws t) (x : Text) :
    InOrder ws (x ++ t) := by
  cases ws with
  | nil => trivial
  | cons w ws =>
      obtain ⟨a, b, rfl, hb⟩ := h
      exact ⟨x ++ a, b, by simp, hb⟩

/-- Phrases of two texts stand in order in the two texts put together. -/
theorem inOrder_append : ∀ {us vs : List Text} {a b : Text},
    InOrder us a → InOrder vs b → InOrder (us ++ vs) (a ++ b)
  | [], vs, a, b, _, hb => hb.prepend a
  | u :: us, vs, a, b, ha, hb => by
      obtain ⟨p, q, rfl, hq⟩ := ha
      exact ⟨p, q ++ b, by simp, inOrder_append hq hb⟩

/-- A text with a seam divides its phrases between the two sides. -/
theorem inOrder_split : ∀ {ws : List Text} {a b : Text}, (∀ w ∈ ws, Phrase w) →
    seam a b = true → InOrder ws (a ++ b) →
    ∃ us vs, ws = us ++ vs ∧ InOrder us a ∧ InOrder vs b
  | [], a, b, _, _, _ => ⟨[], [], rfl, trivial, trivial⟩
  | w :: ws, a, b, hw, hs, h => by
      obtain ⟨p, q, he, hq⟩ := h
      rcases List.append_eq_append_iff.mp he with ⟨r, hr, rfl⟩ | ⟨r, ha, hrest⟩
      · rcases List.append_eq_append_iff.mp hr with ⟨x, rfl, hx⟩ | ⟨x, rfl, rfl⟩
        · -- the phrase touches the seam, so it ends there or starts there
          rcases (hw w (by simp)).not_across hs hx (List.suffix_append p x)
            (List.prefix_append r q) with rfl | rfl
          · exact ⟨[], w :: ws, rfl, trivial, [], q, by rw [hx]; rfl, hq⟩
          · rw [List.append_nil] at hx
            subst hx
            exact ⟨[w], ws, rfl, ⟨p, [], by simp, trivial⟩, hq⟩
        · exact ⟨[], w :: ws, rfl, trivial, x, q, rfl, hq⟩
      · obtain ⟨us, vs, rfl, hus, hvs⟩ := inOrder_split (fun v hv => hw v (by simp [hv]))
          (border_of_append (p := p ++ w) (by rw [← ha]; exact hs)) (hrest ▸ hq)
        exact ⟨w :: us, vs, rfl, ⟨p, r, ha, hus⟩, hvs⟩

/-! ## What can be taken out of a text -/

/-- A stop can be taken out without touching any phrase. -/
theorem inOrder_strike {ws : List Text} {a b : Text} {c : Char} (hw : ∀ w ∈ ws, Phrase w)
    (hc : isStop c = true) (h : InOrder ws (a ++ c :: b)) : InOrder ws (a ++ b) := by
  have hleft : seam a (c :: b) = true := by
    refine border_before (b := [c]) ?_
    simp [opens, hc]
  have hright : seam [c] b = true := by
    refine border_after (a := []) ?_
    simp [closes, hc]
  obtain ⟨us, vs, rfl, hus, hvs⟩ := inOrder_split hw hleft h
  obtain ⟨vs₁, vs₂, rfl, hvs₁, hvs₂⟩ :=
    inOrder_split (b := b) (fun w hm => hw w (by simp [hm])) hright hvs
  -- a phrase between the two seams would be the stop itself
  have hnone : vs₁ = [] := by
    cases vs₁ with
    | nil => rfl
    | cons v vs₁ =>
        exfalso
        obtain ⟨p, q, he, _⟩ := hvs₁
        have hv := hw v (by simp)
        obtain ⟨d, hd⟩ := List.exists_mem_of_ne_nil v hv.ne_nil
        have hdc : d ∈ [c] := by rw [he]; simp [hd]
        have := hv.unstopped d hd
        rw [List.mem_singleton.mp hdc, hc] at this
        exact absurd this (by simp)
  subst hnone
  exact inOrder_append hus hvs₂

/-- A phrase that follows blanks starts behind them. -/
theorem Phrase.starts_after_blanks {w t b p q : Text} (hw : Phrase w)
    (ht : ∀ c ∈ t, isBlank c = true) (h : t ++ b = p ++ w ++ q) : ∃ r, b = r ++ w ++ q := by
  rw [List.append_assoc] at h
  rcases List.append_eq_append_iff.mp h with ⟨x, _, hb⟩ | ⟨x, rfl, hx⟩
  · exact ⟨x, by rw [hb]; simp⟩
  · cases x with
    | nil => exact ⟨[], by simpa using hx.symm⟩
    | cons d x =>
        -- a phrase that started in the blanks would start with one
        exfalso
        have hd := ht d (by simp)
        have hhead := hw.head_solid
        obtain ⟨e, w', rfl⟩ := List.exists_cons_of_ne_nil hw.ne_nil
        injection hx with hx _
        rw [hx] at hhead
        simp [hd] at hhead

/-- No phrase starts in leading blanks. -/
theorem inOrder_skip_blanks {ws : List Text} {t b : Text} (hw : ∀ w ∈ ws, Phrase w)
    (ht : ∀ c ∈ t, isBlank c = true) (h : InOrder ws (t ++ b)) : InOrder ws b := by
  cases ws with
  | nil => trivial
  | cons w ws =>
      obtain ⟨p, q, he, hq⟩ := h
      obtain ⟨r, hr⟩ := (hw w (by simp)).starts_after_blanks ht he
      exact ⟨r, q, hr, hq⟩

/-- A phrase followed by blanks ends before them. -/
theorem Phrase.ends_before_blanks {w a t p q : Text} (hw : Phrase w)
    (ht : ∀ c ∈ t, isBlank c = true) (h : a ++ t = p ++ w ++ q) :
    ∃ r, a = p ++ w ++ r ∧ q = r ++ t := by
  rcases List.append_eq_append_iff.mp h with ⟨r, hr, htq⟩ | ⟨r, ha, hq⟩
  · rcases List.eq_nil_or_concat r with rfl | ⟨v, d, rfl⟩
    · exact ⟨[], by simpa using hr.symm, by simpa using htq.symm⟩
    · -- a phrase that reached into the blanks would end in one
      exfalso
      have hd : isBlank d = true := ht d (by rw [htq]; simp)
      have hlast := hw.last_solid
      have hl := congrArg List.getLast? hr
      rw [List.getLast?_append, List.concat_eq_append, ← List.append_assoc,
        List.getLast?_concat] at hl
      cases hwl : w.getLast? with
      | none => exact hw.ne_nil (List.getLast?_eq_none_iff.mp hwl)
      | some e =>
          rw [hwl] at hl hlast
          injection hl with hl
          subst hl
          simp [hd] at hlast
  · exact ⟨r, ha, hq⟩

/-- No phrase ends in trailing blanks. -/
theorem inOrder_strip_blanks : ∀ {ws : List Text} {a t : Text}, (∀ w ∈ ws, Phrase w) →
    (∀ c ∈ t, isBlank c = true) → InOrder ws (a ++ t) → InOrder ws a
  | [], _, _, _, _, _ => trivial
  | w :: ws, a, t, hw, ht, h => by
      obtain ⟨p, q, he, hq⟩ := h
      obtain ⟨r, ha, rfl⟩ := (hw w (by simp)).ends_before_blanks ht he
      exact ⟨p, r, ha, inOrder_strip_blanks (fun v hv => hw v (by simp [hv])) ht hq⟩

/-- Blanks in front hold no part of a phrase. -/
theorem Phrase.infix_blanks_append {w t b : Text} (hw : Phrase w)
    (ht : ∀ c ∈ t, isBlank c = true) : w <:+: t ++ b ↔ w <:+: b := by
  have hphrase : ∀ v ∈ [w], Phrase v := fun v hv => List.mem_singleton.mp hv ▸ hw
  refine ⟨fun h => ?_, fun h => h.trans (List.suffix_append t b).isInfix⟩
  rw [← inOrder_singleton] at h ⊢
  exact inOrder_skip_blanks hphrase ht h

/-- Nor do blanks behind. -/
theorem Phrase.infix_append_blanks {w a t : Text} (hw : Phrase w)
    (ht : ∀ c ∈ t, isBlank c = true) : w <:+: a ++ t ↔ w <:+: a := by
  have hphrase : ∀ v ∈ [w], Phrase v := fun v hv => List.mem_singleton.mp hv ▸ hw
  refine ⟨fun h => ?_, fun h => h.trans (List.prefix_append a t).isInfix⟩
  rw [← inOrder_singleton] at h ⊢
  exact inOrder_strip_blanks hphrase ht h

/-- A phrase stands on one side of a seam, with blanks at the seam or without. -/
theorem Phrase.infix_spaced {w a t b : Text} (hw : Phrase w) (ht : ∀ c ∈ t, isBlank c = true)
    (hs : seam a b = true) : w <:+: a ++ t ++ b ↔ w <:+: a ∨ w <:+: b := by
  rw [seam, border, Bool.or_eq_true] at hs
  rcases hs with hs | hs
  · have hleft : seam a (t ++ b) = true := by rw [seam, border, hs, Bool.true_or]
    rw [List.append_assoc, hw.infix_append hleft, hw.infix_blanks_append ht]
  · have hright : seam (a ++ t) b = true := by rw [seam, border, hs, Bool.or_true]
    rw [hw.infix_append hright, hw.infix_append_blanks ht]

/-- Blanks at a seam can be taken out without touching any phrase. -/
theorem inOrder_erase {ws : List Text} {a t b : Text} (hw : ∀ w ∈ ws, Phrase w)
    (ht : ∀ c ∈ t, isBlank c = true) (hs : seam a b = true) (h : InOrder ws (a ++ t ++ b)) :
    InOrder ws (a ++ b) := by
  rw [seam, border, Bool.or_eq_true] at hs
  rcases hs with hs | hs
  · -- the seam is on the left of the blanks
    have hleft : seam a (t ++ b) = true := by rw [seam, border, hs, Bool.true_or]
    rw [List.append_assoc] at h
    obtain ⟨us, vs, rfl, hus, hvs⟩ := inOrder_split hw hleft h
    exact inOrder_append hus (inOrder_skip_blanks (fun w hm => hw w (by simp [hm])) ht hvs)
  · have hright : seam (a ++ t) b = true := by rw [seam, border, hs, Bool.or_true]
    obtain ⟨us, vs, rfl, hus, hvs⟩ := inOrder_split hw hright h
    exact inOrder_append (inOrder_strip_blanks (fun w hm => hw w (by simp [hm])) ht hus) hvs

/-- A phrase that ends in a colon has no blank in front of the colon. -/
theorem Phrase.ends_in_colon {w a t p : Text} (hw : Phrase w) (ht : ∀ c ∈ t, isBlank c = true)
    (h : a ++ t ++ [':'] = p ++ w) : ∃ r, a ++ [':'] = r ++ w := by
  rcases List.eq_nil_or_concat w with rfl | ⟨w', e, rfl⟩
  · exact absurd rfl hw.ne_nil
  · rw [List.concat_eq_append] at h hw ⊢
    rw [← List.append_assoc] at h
    obtain ⟨hat, he⟩ := List.append_inj' h rfl
    injection he with he _
    subst he
    have hunspaced : ∀ c ∈ w', isBlank c = false := by
      rcases hw.colon with hc | hc
      · exact fun c hm => hc c (by simp [hm])
      · exact absurd (by simp) hc
    rcases List.eq_nil_or_concat w' with rfl | ⟨w'', d, rfl⟩
    · exact ⟨a, rfl⟩
    · rcases List.eq_nil_or_concat t with rfl | ⟨t', e, rfl⟩
      · exact ⟨p, by rw [← List.append_assoc, ← hat, List.append_nil]⟩
      · exfalso
        have hed := congrArg List.getLast? hat
        simp only [List.concat_eq_append, ← List.append_assoc, List.getLast?_concat] at hed
        injection hed with hed
        have hd := hunspaced d (by simp)
        rw [← hed, ht e (by simp)] at hd
        exact absurd hd (by simp)

/-- Blanks in front of a final colon can be taken out. -/
theorem inOrder_erase_final_colon : ∀ {ws : List Text} {a t : Text}, (∀ w ∈ ws, Phrase w) →
    (∀ c ∈ t, isBlank c = true) → InOrder ws (a ++ t ++ [':']) → InOrder ws (a ++ [':'])
  | [], _, _, _, _, _ => trivial
  | w :: ws, a, t, hw, ht, h => by
      obtain ⟨p, q, he, hq⟩ := h
      rcases List.eq_nil_or_concat q with rfl | ⟨q', d, rfl⟩
      · -- the phrase ends with the colon, and then no blank stands in it
        rw [List.append_nil] at he
        obtain ⟨r, hr⟩ := (hw w (by simp)).ends_in_colon ht he
        exact ⟨r, [], by rw [hr, List.append_nil], hq⟩
      · rw [List.concat_eq_append, ← List.append_assoc] at he
        obtain ⟨he, hd⟩ := List.append_inj' he rfl
        obtain ⟨r, rfl, rfl⟩ := (hw w (by simp)).ends_before_blanks ht he
        rw [List.concat_eq_append, ← hd] at hq
        exact ⟨p, r ++ [':'], by simp,
          inOrder_erase_final_colon (fun v hm => hw v (by simp [hm])) ht hq⟩

/-- Blanks in front of the colon of a map can be taken out without touching any phrase. -/
theorem inOrder_erase_colon {ws : List Text} {a t blanks b : Text} (hw : ∀ w ∈ ws, Phrase w)
    (ht : ∀ c ∈ t, isBlank c = true) (hb : ∀ c ∈ blanks, isBlank c = true)
    (h : InOrder ws (a ++ t ++ (':' :: blanks ++ '{' :: b))) :
    InOrder ws (a ++ (':' :: blanks ++ '{' :: b)) := by
  have hbrace : seam (a ++ t ++ [':'] ++ blanks) ('{' :: b) = true :=
    border_before (b := ['{']) rfl
  have h' : InOrder ws (a ++ t ++ [':'] ++ blanks ++ '{' :: b) := by simpa using h
  -- no phrase goes past the brace, so only those that end with the colon come near it
  obtain ⟨us, vs, rfl, hus, hvs⟩ := inOrder_split hw hbrace h'
  have hphrase : ∀ u ∈ us, Phrase u := fun u hm => hw u (by simp [hm])
  have hkey := inOrder_erase_final_colon hphrase ht (inOrder_strip_blanks hphrase hb hus)
  have hblanks : InOrder vs (blanks ++ '{' :: b) := hvs.prepend blanks
  simpa using inOrder_append hkey hblanks

/-! ## What the searches for a marker return -/

theorem cut?_eq_none {m : Text} : ∀ {t : Text}, cut? m t = none ↔ ¬ m <:+: t
  | [] => by
      rw [cut?]
      cases m <;> simp
  | c :: t => by
      have ih := cut?_eq_none (m := m) (t := t)
      rw [cut?, List.infix_cons_iff, ← List.isPrefixOf_iff_prefix, not_or]
      split
      · rename_i hp
        simp [hp]
      · rename_i hp
        rw [Option.map_eq_none_iff, ih]
        simp [hp]

/-- No occurrence of the marker starts before the first one. -/
theorem cut?_first {m : Text} : ∀ {t before after a b : Text},
    cut? m t = some (before, after) → t = a ++ m ++ b → before.length ≤ a.length
  | [], before, after, a, b, h, _ => by
      rw [cut?] at h
      split at h
      · injection h with h; injection h with hb _
        subst hb
        exact Nat.zero_le _
      · exact absurd h (by simp)
  | c :: t, before, after, a, b, h, ht => by
      rw [cut?] at h
      split at h
      · injection h with h; injection h with hb _
        subst hb
        exact Nat.zero_le _
      · rename_i hp
        obtain ⟨⟨before', after'⟩, hrec, he⟩ := Option.map_eq_some_iff.mp h
        injection he with hb _
        subst hb
        cases a with
        | nil => exact absurd (List.isPrefixOf_iff_prefix.mpr ⟨b, ht.symm⟩) hp
        | cons d a =>
            injection ht with _ ht
            have := cut?_first hrec ht
            simp only [List.length_cons]
            omega

/-- A marker at the very start is the first one. -/
theorem cut?_append (m t : Text) : cut? m (m ++ t) = some ([], t) := by
  cases m with
  | nil => cases t <;> simp [cut?]
  | cons c m =>
      have hprefix : (c :: m).isPrefixOf (c :: (m ++ t)) = true :=
        List.isPrefixOf_iff_prefix.mpr (List.prefix_append (c :: m) t)
      rw [List.cons_append, cut?, if_pos hprefix]
      simp

theorem occursIn_iff {m t : Text} : occursIn m t = true ↔ m <:+: t := by
  rw [occursIn, Option.isSome_iff_ne_none, ne_eq, cut?_eq_none, Classical.not_not]

theorem cutLast?_eq_none {m : Text} : ∀ {t : Text}, cutLast? m t = none ↔ ¬ m <:+: t
  | [] => by
      rw [cutLast?]
      cases m <;> simp
  | c :: t => by
      have ih := cutLast?_eq_none (m := m) (t := t)
      rw [cutLast?, List.infix_cons_iff, ← List.isPrefixOf_iff_prefix, not_or]
      split
      · rename_i before after hr
        have hin : m <:+: t := ⟨before, after, cutLast?_eq_some hr⟩
        simp [hin]
      · rename_i hr
        simp [ih.mp hr]

/-- After the last occurrence of a marker there is no other, not even one that overlaps. -/
theorem cutLast?_last {m : Text} (hm : m ≠ []) : ∀ {t before after : Text},
    cutLast? m t = some (before, after) → ¬ m <:+: (m ++ after).tail
  | [], before, after, h => by
      cases m with
      | nil => exact absurd rfl hm
      | cons d m => exact absurd h (by simp [cutLast?])
  | c :: t, before, after, h => by
      have hwhole := cutLast?_eq_some h
      rw [cutLast?] at h
      split at h
      · rename_i b a hr
        injection h with h; injection h with _ ha
        subst ha
        exact cutLast?_last hm hr
      · rename_i hr
        split at h
        · injection h with h; injection h with hb _
          subst hb
          rw [← List.nil_append m, hwhole]
          exact cutLast?_eq_none.mp hr
        · exact absurd h (by simp)

/-- A word does not start in a text without its first character. -/
theorem infix_append_of_not_mem {d : Char} {w a b : Text} (hd : d ∉ a) :
    d :: w <:+: a ++ b ↔ d :: w <:+: b := by
  constructor
  · intro h
    rcases List.infix_append_iff_ne_nil.mp h with h | h | ⟨u, v, hu, _, he, hua, _⟩
    · exact absurd (h.subset (by simp)) hd
    · exact h
    · cases u with
      | nil => exact absurd rfl hu
      | cons e u =>
          injection he with he _
          exact absurd (hua.subset (by simp [he])) hd
  · exact fun h => h.trans (List.suffix_append a b).isInfix

/-- The last occurrence of a marker whose first character does not come back in it is the
one that no other follows. -/
theorem cutLast?_eq_some_iff {d : Char} {m t before after : Text} (hm : d ∉ m) :
    cutLast? (d :: m) t = some (before, after) ↔
      t = before ++ d :: m ++ after ∧ ¬ d :: m <:+: after := by
  constructor
  · intro h
    refine ⟨(cutLast?_eq_some h).symm, fun hin => cutLast?_last (by simp) h ?_⟩
    exact hin.trans (List.suffix_append m after).isInfix
  · intro h
    obtain ⟨rfl, h⟩ := h
    induction before with
    | nil =>
        have hnone : cutLast? (d :: m) (m ++ after) = none :=
          cutLast?_eq_none.mpr fun hin => h ((infix_append_of_not_mem hm).mp hin)
        rw [List.nil_append, List.cons_append, cutLast?, hnone]
        simp
    | cons c before ih =>
        rw [List.cons_append, List.cons_append, cutLast?, ih]

end Graft.Text
