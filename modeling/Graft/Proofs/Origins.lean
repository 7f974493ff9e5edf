import Graft.Proofs.Edits

/-!
# Where a word comes from

What stands in a document after an edit stood there before or was written. For a solid word
this can be said exactly: it lies across no gap, and an edit leaves a gap on both sides of
what it writes and wherever it takes something out. So the word was in the document, or it
is in one of the texts that were written (`Edit.infix_origin`). The one place where two
texts meet without a gap is in front of a colon, hence the condition that the word has
none.
-/

namespace Graft

open Text

variable {added : Text → Prop}

/-- A word lies on one side of a character that it does not have. -/
theorem Text.infix_append_char {w a b : Text} {c : Char} (hc : c ∉ w) :
    w <:+: a ++ c :: b ↔ w <:+: a ∨ w <:+: b := by
  constructor
  · intro h
    rcases List.infix_append_iff_ne_nil.mp h with h | h | ⟨u, v, _, hv, he, _, hvb⟩
    · exact Or.inl h
    · rcases List.infix_cons_iff.mp h with h | h
      · cases w with
        | nil => exact Or.inl (List.nil_infix)
        | cons d w =>
            rw [List.cons_prefix_cons] at h
            exact absurd (by simp [h.1]) hc
      · exact Or.inr h
    · cases v with
      | nil => exact absurd rfl hv
      | cons d v =>
          rw [List.cons_prefix_cons] at hvb
          exact absurd (by simp [he, hvb.1]) hc
  · intro h
    rcases h with h | h
    · exact h.trans (List.prefix_append a (c :: b)).isInfix
    · exact h.trans ((List.suffix_cons c b).trans (List.suffix_append a (c :: b))).isInfix

/-- Blanks around a text hold no part of a solid word. -/
theorem Text.Solid.infix_of_padded {w p t q : Text} (hw : Solid w)
    (hp : ∀ c ∈ p, isBlank c = true) (hq : ∀ c ∈ q, isBlank c = true)
    (h : w <:+: p ++ t ++ q) : w <:+: t := by
  have hblanks : ∀ {x : Text}, (∀ c ∈ x, isBlank c = true) → ¬ w <:+: x := by
    intro x hx hin
    obtain ⟨c, hc⟩ := List.exists_mem_of_ne_nil w hw.ne_nil
    have := hw.unspaced c hc
    rw [hx c (hin.subset hc)] at this
    exact absurd this (by simp)
  have hleft : gap p t = true := by
    simpa using gap_append_blanks (a := []) hp (by simp [border])
  have hright : gap (p ++ t) q = true := by
    simpa using gap_blanks_append (a := p ++ t) (b := []) hq border_end
  rcases (hw.infix_append hright).mp h with h | h
  · rcases (hw.infix_append hleft).mp h with h | h
    · exact absurd h (hblanks hp)
    · exact h
  · exact absurd h (hblanks hq)

/-- **Traced back over every edit.** -/
theorem Edit.infix_origin {w a b : Text} (hw : Solid w) (hcolon : ':' ∉ w)
    (he : Edit added a b) (h : w <:+: b) : w <:+: a ∨ ∃ x, added x ∧ w <:+: x := by
  cases he with
  | @insert a x b hx hs hl hr =>
      have hright : gap (a ++ x) b = true := by
        cases x with
        | nil => simpa using gap_of_seam hs
        | cons c x => exact border_append_left (by simp) hr
      rcases (hw.infix_append hright).mp h with h | h
      · rcases (hw.infix_append hl).mp h with h | h
        · exact Or.inl (h.trans (List.prefix_append a b).isInfix)
        · exact Or.inr ⟨x, hx, h⟩
      · exact Or.inl (h.trans (List.suffix_append a b).isInfix)
  | @erase a blanks b _ hs =>
      rcases (hw.infix_append (gap_of_seam hs)).mp h with h | h
      · exact Or.inl (h.trans ⟨[], blanks ++ b, by simp⟩)
      · exact Or.inl (h.trans (List.suffix_append _ b).isInfix)
  | @tighten a blanks ws b _ _ =>
      -- no gap here: the word is kept apart by the colon it does not have
      rw [List.cons_append, infix_append_char hcolon] at h
      rcases h with h | h
      · exact Or.inl (h.trans ⟨[], blanks ++ (':' :: ws ++ '{' :: b), by simp⟩)
      · exact Or.inl (h.trans ⟨a ++ blanks ++ [':'], [], by simp⟩)

theorem Edits.infix_origin {w a b : Text} (hw : Solid w) (hcolon : ':' ∉ w)
    (he : Edits added a b) (h : w <:+: b) : w <:+: a ∨ ∃ x, added x ∧ w <:+: x := by
  induction he with
  | refl => exact Or.inl h
  | tail _ hstep ih =>
      rcases hstep.infix_origin hw hcolon h with h | h
      · exact ih h
      · exact Or.inr h

theorem Strike.infix_origin {w a b : Text} (hw : Solid w) (hs : Strike a b) (h : w <:+: b) :
    w <:+: a := by
  cases hs with
  | @mk a b c _ hg =>
      rcases (hw.infix_append hg).mp h with h | h
      · exact h.trans (List.prefix_append a (c :: b)).isInfix
      · exact h.trans ⟨a ++ [c], [], by simp⟩

end Graft
