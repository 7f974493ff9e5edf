import Graft.Proofs.Names
import Graft.Proofs.Presence

/-!
# Exports survive edits

What a registration does depends on whether the script exports something, and the next
registration asks again, of the text the first one left. The answer is never taken back.

A call that defines a component is a phrase, so it stays where it is. The words of a default
export are a phrase too, but what follows them matters as well: `default` must be the end of
its word. An edit writes something behind a word only with a gap in between, and where it
drops blanks there is a seam, so no word grows (`Edit.standsIn`).
-/

namespace Graft

open Text

/-- A text stands in another, and no word character follows it. -/
def StandsIn (w t : Text) : Prop := ∃ x y, t = x ++ w ++ y ∧ y.head?.any isWord = false

/-- What stands in a text with a seam stands on one side of it. -/
theorem Text.Phrase.placed {w a b p q : Text} (hw : Phrase w) (hs : seam a b = true)
    (h : a ++ b = p ++ w ++ q) :
    (∃ r, a = p ++ w ++ r ∧ q = r ++ b) ∨ ∃ r, b = r ++ w ++ q := by
  rcases List.append_eq_append_iff.mp h with ⟨z, hz, rfl⟩ | ⟨z, rfl, rfl⟩
  · rcases List.append_eq_append_iff.mp hz with ⟨v, rfl, hv⟩ | ⟨v, rfl, rfl⟩
    · rcases hw.not_across hs hv (List.suffix_append _ _) (List.prefix_append _ _) with rfl | rfl
      · exact Or.inr ⟨[], by rw [hv]; rfl⟩
      · rw [List.append_nil] at hv
        exact Or.inl ⟨[], by rw [hv, List.append_nil], rfl⟩
    · exact Or.inr ⟨v, rfl⟩
  · exact Or.inl ⟨z, rfl, rfl⟩

/-- What stands in a text around a character that it does not have stands on one side of it. -/
theorem Text.placed_char {w a b p q : Text} {c : Char} (hc : c ∉ w)
    (h : a ++ c :: b = p ++ w ++ q) :
    (∃ r, a = p ++ w ++ r ∧ q = r ++ c :: b) ∨ ∃ r, b = r ++ w ++ q := by
  rcases List.append_eq_append_iff.mp h with ⟨z, hz, hb⟩ | ⟨z, rfl, rfl⟩
  · cases z with
    | nil =>
        rw [List.append_nil] at hz
        exact Or.inl ⟨[], by rw [← hz, List.append_nil], hb.symm⟩
    | cons d z =>
        rw [List.cons_append, List.cons.injEq] at hb
        obtain ⟨rfl, hb⟩ := hb
        rcases List.append_eq_append_iff.mp hz with ⟨v, rfl, hv⟩ | ⟨v, rfl, hv⟩
        · exact absurd (by rw [hv]; simp) hc
        · cases v with
          | nil => exact absurd (by rw [List.nil_append] at hv; rw [← hv]; simp) hc
          | cons e v =>
              rw [List.cons_append, List.cons.injEq] at hv
              exact Or.inr ⟨v, by rw [hb, hv.2]⟩
  · exact Or.inl ⟨z, rfl, rfl⟩

/-- With blanks at a seam, what stands in the text stands on one side of the blanks. -/
theorem Text.Phrase.placed_spaced {w a blanks b p q : Text} (hw : Phrase w)
    (hb : ∀ c ∈ blanks, isBlank c = true) (hs : seam a b = true)
    (h : a ++ blanks ++ b = p ++ w ++ q) :
    (∃ r, a = p ++ w ++ r ∧ q = r ++ (blanks ++ b)) ∨ ∃ r, b = r ++ w ++ q := by
  rw [seam, border, Bool.or_eq_true] at hs
  rcases hs with hs | hs
  · have hleft : seam a (blanks ++ b) = true := by rw [seam, border, hs, Bool.true_or]
    rw [List.append_assoc] at h
    rcases hw.placed hleft h with h | ⟨r, hr⟩
    · exact Or.inl h
    · exact Or.inr (hw.starts_after_blanks hb hr)
  · have hright : seam (a ++ blanks) b = true := by rw [seam, border, hs, Bool.or_true]
    rcases hw.placed hright h with ⟨r, hr, rfl⟩ | h
    · obtain ⟨r', rfl, rfl⟩ := hw.ends_before_blanks hb hr
      exact Or.inl ⟨r', rfl, by simp⟩
    · exact Or.inr h

section Standing

variable {added : Text → Prop} {w : Text}

/-- What follows can be exchanged as long as no word character comes next. -/
theorem standsIn_append {p r s t : Text} (hr : (r ++ t).head?.any isWord = false)
    (hs : r = [] → s.head?.any isWord = false) : StandsIn w (p ++ w ++ r ++ s) := by
  refine ⟨p, r ++ s, by simp, ?_⟩
  cases r with
  | nil => exact hs rfl
  | cons c r => exact hr

/-- Behind a word character a gap is followed by no other. -/
theorem not_isWord_of_gap {p b : Text} (hword : w.getLast?.any isWord = true)
    (h : gap (p ++ w) b = true) : b.head?.any isWord = false := by
  have hinner : ∀ {c : Char}, isWord c = true → closes c = false ∧ opens c = false ∧
      isBlank c = false := by
    intro c hc
    obtain ⟨hblank, hstop, hopen, hclose⟩ := isInner_iff.mp (isInner_of_isWord hc)
    simp [closes, opens, hstop, hopen, hclose, hblank]
  cases hl : w.getLast? with
  | none => rw [hl] at hword; exact absurd hword (by simp)
  | some d =>
      rw [hl, Option.any_some] at hword
      obtain ⟨hclose, _, hblank⟩ := hinner hword
      rw [gap, border, List.getLast?_append, hl, Option.some_or, Option.all_some, hclose, hblank,
        Bool.or_false, Bool.false_or] at h
      cases hh : b.head? with
      | none => rfl
      | some c =>
          rw [hh, Option.all_some] at h
          rw [Option.any_some, Bool.eq_false_iff]
          intro hc
          rw [(hinner hc).2.1, (hinner hc).2.2] at h
          exact absurd h (by simp)

/-- **What ends a word goes on ending it** through every edit. -/
theorem Edit.standsIn (hw : Phrase w) (hword : w.getLast?.any isWord = true) (hcolon : ':' ∉ w)
    {a b : Text} (he : Edit added a b) (h : StandsIn w a) : StandsIn w b := by
  obtain ⟨p, q, hpq, hq⟩ := h
  cases he with
  | @insert a x b _ hs hl _ =>
      rcases hw.placed hs hpq with ⟨r, rfl, rfl⟩ | ⟨r, rfl⟩
      · have hnext : r = [] → (x ++ b).head?.any isWord = false := by
          rintro rfl
          rw [List.append_nil] at hl
          cases x with
          | nil => exact hq
          | cons c x => exact not_isWord_of_gap (b := c :: x) hword hl
        rw [List.append_assoc _ x]
        exact standsIn_append hq hnext
      · exact ⟨a ++ x ++ r, q, by simp, hq⟩
  | @erase a blanks b hb hs =>
      rcases hw.placed_spaced hb hs hpq with ⟨r, rfl, rfl⟩ | ⟨r, rfl⟩
      · refine standsIn_append hq ?_
        rintro rfl
        rw [List.append_nil] at hs
        exact not_isWord_of_gap hword (gap_of_seam hs)
      · exact ⟨a ++ r, q, by simp, hq⟩
  | @tighten a blanks ws b hb hws =>
      rw [List.cons_append] at hpq ⊢
      rcases placed_char hcolon hpq with ⟨r, hr, rfl⟩ | ⟨r, hr⟩
      · obtain ⟨r', rfl, rfl⟩ := hw.ends_before_blanks hb hr
        have hnext : r' = [] → isWord ':' = false := fun _ => by decide +kernel
        rw [List.append_assoc] at hq
        exact standsIn_append hq hnext
      · exact ⟨a ++ ':' :: r, q, by rw [hr]; simp, hq⟩

end Standing

namespace Script

/-- The words of a default export. -/
def IsExport (w : Text) : Prop :=
  ∃ ws, ws ≠ [] ∧ (∀ c ∈ ws, isBlank c = true) ∧
    w = "export".toList ++ ws ++ "default".toList

/-- The start of a call that defines a component. -/
def IsCall (w : Text) : Prop :=
  ∃ ws, (∀ c ∈ ws, isBlank c = true) ∧ w = "defineComponent".toList ++ ws ++ ['(']

theorem fits_isExport {b : Option Char} {w after : Text} :
    Pattern.Fits (Pattern.exactly "export".toList ++ Pattern.spacing ++
      Pattern.exactly "default".toList) b w after ↔ IsExport w := by
  simp only [Pattern.fits_append, Pattern.fits_exactly, Pattern.fits_spacing]
  constructor
  · rintro ⟨_, _, rfl, ⟨_, ws, rfl, rfl, hne, hws⟩, rfl⟩
    exact ⟨ws, hne, hws, rfl⟩
  · rintro ⟨ws, hne, hws, rfl⟩
    exact ⟨_, _, rfl, ⟨_, ws, rfl, rfl, hne, hws⟩, rfl⟩

theorem fits_isCall {b : Option Char} {w after : Text} :
    Pattern.Fits (Pattern.exactly "defineComponent".toList ++ Pattern.blanks ++
      Pattern.exactly ['(']) b w after ↔ IsCall w := by
  simp only [Pattern.fits_append, Pattern.fits_exactly, Pattern.fits_blanks]
  constructor
  · rintro ⟨_, _, rfl, ⟨_, ws, rfl, rfl, hws⟩, rfl⟩
    exact ⟨ws, hws, rfl⟩
  · rintro ⟨ws, hws, rfl⟩
    exact ⟨_, _, rfl, ⟨_, ws, rfl, rfl, hws⟩, rfl⟩

theorem hasExport_iff {body : Text} :
    hasExport body = true ↔
      (∃ w, IsExport w ∧ StandsIn w body) ∨ ∃ w, IsCall w ∧ w <:+: body := by
  -- the words end in a letter, so they are at an edge where no word character follows
  have hedge : ∀ {x w after : Text}, IsExport w →
      (Pattern.isEdge (w.getLast?.or x.getLast?) after = true ↔
        after.head?.any isWord = false) := by
    rintro x _ after ⟨ws, _, _, rfl⟩
    have hletter : isWord 't' = true := by decide +kernel
    have hlast : "default".toList.getLast? = some 't' := by decide
    rw [List.getLast?_append, hlast]
    simp [Pattern.isEdge, hletter]
  unfold hasExport
  simp only [Pattern.occurs_iff, List.mem_cons, List.not_mem_nil, or_false,
    exists_eq_or_imp, exists_eq_left, Pattern.fits_append (q := [.edge]), Pattern.fits_edge,
    fits_isExport, fits_isCall]
  constructor
  · rintro ⟨x, w, after, rfl, ⟨w, _, rfl, hw, hend, rfl⟩ | hw⟩
    · rw [List.nil_append, hedge hw] at hend
      exact Or.inl ⟨w, hw, x, after, by simp, hend⟩
    · exact Or.inr ⟨w, hw, x, after, by simp⟩
  · rintro (⟨w, hw, x, after, rfl, hend⟩ | ⟨w, hw, x, after, rfl⟩)
    · refine ⟨x, w, after, by simp, Or.inl ⟨w, [], by simp, hw, ?_, rfl⟩⟩
      rw [List.nil_append, hedge hw]
      exact hend
    · exact ⟨x, w, after, by simp, Or.inr hw⟩

/-! ## Where an exported object opens -/

/-- The opening of a default export: its words, a call if there is one, and a brace. -/
def IsExportOpening (w : Text) : Prop :=
  ∃ words ws call ws', IsExport words ∧ ws ≠ [] ∧ (∀ c ∈ ws, isBlank c = true) ∧
    (call = [] ∨ IsCall call) ∧ (∀ c ∈ ws', isBlank c = true) ∧
    w = words ++ ws ++ (call ++ ws') ++ ['{']

theorem Registration.fits_callPattern {b : Option Char} {w after : Text} :
    Pattern.Fits callPattern b w after ↔
      ∃ call ws, IsCall call ∧ (∀ c ∈ ws, isBlank c = true) ∧ w = call ++ ws := by
  rw [callPattern, Pattern.fits_append]
  simp only [fits_isCall, Pattern.fits_blanks]
  constructor
  · rintro ⟨call, ws, rfl, hcall, hws⟩
    exact ⟨call, ws, hcall, hws, rfl⟩
  · rintro ⟨call, ws, hcall, hws, rfl⟩
    exact ⟨call, ws, rfl, hcall, hws⟩

theorem Registration.fits_exportPatterns {b : Option Char} {w after : Text} :
    (∃ p ∈ exportPatterns, Pattern.Fits p b w after) ↔ IsExportOpening w := by
  simp only [exportPatterns, List.mem_cons, List.not_mem_nil, or_false, exists_eq_or_imp,
    exists_eq_left, Pattern.fits_append (q := Pattern.exactly ['{']),
    Pattern.fits_append (q := callPattern), Pattern.fits_append (q := Pattern.spacing),
    Pattern.fits_exactly, Pattern.fits_spacing, fits_callPattern, fits_isExport]
  constructor
  · rintro (⟨_, _, rfl, ⟨_, _, rfl, ⟨words, ws, rfl, hwords, hne, hws⟩, call, ws', hcall, hws', rfl⟩,
      rfl⟩ | ⟨_, _, rfl, ⟨words, ws, rfl, hwords, hne, hws⟩, rfl⟩)
    · exact ⟨words, ws, call, ws', hwords, hne, hws, Or.inr hcall, hws', rfl⟩
    · exact ⟨words, ws, [], [], hwords, hne, hws, Or.inl rfl, by simp, by simp⟩
  · rintro ⟨words, ws, call, ws', hwords, hne, hws, rfl | hcall, hws', rfl⟩
    · refine Or.inr ⟨_, _, rfl, ⟨words, ws ++ ws', by simp, hwords, by simp [hne], ?_⟩, rfl⟩
      exact List.forall_mem_append.mpr ⟨hws, hws'⟩
    · exact Or.inl ⟨_, _, rfl, ⟨_, _, rfl, ⟨words, ws, rfl, hwords, hne, hws⟩, call, ws', hcall,
        hws', rfl⟩, rfl⟩

/-- An opening starts with an `ex` that it has nowhere else, and only its last character is a
brace. -/
theorem IsExportOpening.inner {w : Text} (h : IsExportOpening w) :
    ∃ u, w = 'e' :: 'x' :: u ++ ['{'] ∧
      ∀ c, c ∉ "portdefaultdefineComponent(".toList → isBlank c = false → c ∉ u := by
  obtain ⟨_, ws, call, ws', ⟨v, _, hv, rfl⟩, _, hws, hcall, hws', rfl⟩ := h
  refine ⟨"port".toList ++ v ++ "default".toList ++ ws ++ (call ++ ws'), rfl, ?_⟩
  intro c hc hblank hm
  have hletters : ∀ {t : Text}, t ⊆ "portdefaultdefineComponent(".toList → c ∉ t :=
    fun ht hm => hc (ht hm)
  have hblanks : ∀ {t : Text}, (∀ d ∈ t, isBlank d = true) → c ∉ t :=
    fun ht => not_mem_of_forall ht hblank
  have hinner : c ∉ call := by
    rcases hcall with rfl | ⟨t, ht, rfl⟩
    · simp
    · simp only [List.mem_append, not_or]
      exact ⟨⟨hletters (by decide), hblanks ht⟩, hletters (by decide)⟩
  simp only [List.mem_append] at hm
  rcases hm with (((hm | hm) | hm) | hm) | hm | hm
  · exact hletters (by decide) hm
  · exact hblanks hv hm
  · exact hletters (by decide) hm
  · exact hblanks hws hm
  · exact hinner hm
  · exact hblanks hws' hm

theorem IsExportOpening.not_mem {w : Text} (h : IsExportOpening w) {c : Char}
    (hc : c ∉ "exportdefaultdefineComponent(\x7b".toList) (hblank : isBlank c = false) : c ∉ w := by
  obtain ⟨u, rfl, hu⟩ := h.inner
  have hout : ∀ {t : Text}, t ⊆ "exportdefaultdefineComponent(\x7b".toList → c ∉ t :=
    fun ht hm => hc (ht hm)
  have hends : c ∉ ['e', 'x'] ∧ c ∉ ['{'] := ⟨hout (by decide), hout (by decide)⟩
  have hinner : c ∉ u := hu c (hout (by decide)) hblank
  simp only [List.mem_cons, List.not_mem_nil, or_false, not_or] at hends
  simp [hends, hinner]

/-- Words with blanks between them are a phrase. -/
theorem phrase_spaced {front ws back : Text} (hfront : Solid front) (hback : Solid back)
    (hws : ∀ c ∈ ws, isBlank c = true) (hopen : '<' ∉ front ++ back) (hclose : '>' ∉ front ++ back)
    (hcolon : back.getLast? ≠ some ':') : Phrase (front ++ ws ++ back) := by
  have hmem : ∀ {c}, c ∈ front ++ ws ++ back → c ∈ front ++ back ∨ isBlank c = true := by
    intro c hc
    rcases List.mem_append.mp hc with hc | hc
    · rcases List.mem_append.mp hc with hc | hc
      · exact Or.inl (by simp [hc])
      · exact Or.inr (hws c hc)
    · exact Or.inl (by simp [hc])
  have hlast : (front ++ ws ++ back).getLast? = back.getLast? := by
    rw [List.getLast?_append, List.getLast?_eq_some_getLast hback.ne_nil, Option.some_or]
  refine ⟨?_, ?_, ?_, ?_, ?_, ?_, Or.inr (by rw [hlast]; exact hcolon)⟩
  · simp [hfront.ne_nil]
  · intro c hc
    rcases hmem hc with hc | hc
    · rcases List.mem_append.mp hc with hc | hc
      · exact hfront.unstopped c hc
      · exact hback.unstopped c hc
    · exact (not_stop_of_isBlank hc).1
  · intro hc
    rcases hmem (List.mem_of_mem_tail hc) with hc | hc
    · exact hopen hc
    · exact absurd rfl (not_stop_of_isBlank hc).2.1
  · intro hc
    rcases hmem (List.dropLast_subset _ hc) with hc | hc
    · exact hclose hc
    · exact absurd rfl (not_stop_of_isBlank hc).2.2
  · obtain ⟨c, v, rfl⟩ := List.exists_cons_of_ne_nil hfront.ne_nil
    exact hfront.head_solid
  · rw [hlast]
    exact hback.last_solid

/-- **An export survives every edit.** -/
theorem hasExport_of_edits {added : Text → Prop} {a b : Text} (he : Edits added a b)
    (h : hasExport a = true) : hasExport b = true := by
  induction he with
  | refl => exact h
  | tail _ hstep ih =>
      rw [hasExport_iff] at ih ⊢
      rcases ih with ⟨w, ⟨ws, hne, hws, rfl⟩, hw⟩ | ⟨w, ⟨ws, hws, rfl⟩, hw⟩
      · have hphrase : Phrase ("export".toList ++ ws ++ "default".toList) :=
          phrase_spaced (by decide) (by decide) hws (by decide) (by decide) (by decide)
        refine Or.inl ⟨_, ⟨ws, hne, hws, rfl⟩, hstep.standsIn hphrase ?_ ?_ hw⟩
        · have hlast : "default".toList.getLast? = some 't' := by decide
          rw [List.getLast?_append, hlast, Option.some_or]
          decide +kernel
        · intro hc
          simp only [List.mem_append] at hc
          rcases hc with (hc | hc) | hc
          · exact absurd hc (by decide)
          · exact absurd (hws _ hc) (by decide)
          · exact absurd hc (by decide)
      · have hphrase : Phrase ("defineComponent".toList ++ ws ++ ['(']) :=
          phrase_spaced (by decide) (by decide) hws (by decide) (by decide) (by decide)
        refine Or.inr ⟨_, ⟨ws, hws, rfl⟩, ?_⟩
        rw [← inOrder_singleton] at hw ⊢
        exact hstep.inOrder (fun v hv => List.mem_singleton.mp hv ▸ hphrase) hw

end Script

end Graft
