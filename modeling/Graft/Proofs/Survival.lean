import Graft.Proofs.Edits

/-!
# Nothing that was written is lost

Blanks come and go when something is injected, but the other characters of a document are
its author's. An edit keeps all of them in order (`Edit.nonBlank_sublist`), so they are
a subsequence of what comes out. Only the repair of a setup script takes a character away,
one comma or one closing brace (`Strike.oneGone`), and which script is repaired is decided
after the tag and the import have gone in (`Spec.nonBlank_survives`).

That last point matters: a tag that opens a setup script makes one out of a document that
had none (`Spec.options_comma_lost`).
-/

namespace Graft

open Text

variable {added : Text → Prop}

/-- The characters of a text that are not blanks. -/
def Text.nonBlank (t : Text) : Text := t.filter fun c => !isBlank c

theorem Text.nonBlank_append (a b : Text) : nonBlank (a ++ b) = nonBlank a ++ nonBlank b :=
  List.filter_append a b

theorem Text.nonBlank_of_blanks {t : Text} (h : ∀ c ∈ t, isBlank c = true) : nonBlank t = [] := by
  rw [nonBlank, List.filter_eq_nil_iff]
  intro c hc
  simp [h c hc]

/-! ## Edits keep everything -/

/-- **Preserved by every edit.** -/
theorem Edit.nonBlank_sublist {a b : Text} (he : Edit added a b) :
    (nonBlank a).Sublist (nonBlank b) := by
  cases he with
  | @insert a x b _ _ _ _ =>
      simp only [nonBlank_append]
      exact (List.sublist_append_left (nonBlank a) (nonBlank x)).append (List.Sublist.refl _)
  | erase hb _ =>
      simp only [nonBlank_append, nonBlank_of_blanks hb, List.append_nil]
      exact List.Sublist.refl _
  | tighten hb _ =>
      simp only [nonBlank_append, nonBlank_of_blanks hb, List.append_nil]
      exact List.Sublist.refl _

theorem Edits.nonBlank_sublist {a b : Text} (he : Edits added a b) :
    (nonBlank a).Sublist (nonBlank b) := by
  induction he with
  | refl => exact List.Sublist.refl _
  | tail _ hstep ih => exact ih.trans hstep.nonBlank_sublist

/-! ## A repair takes one character -/

/-- The second text is the first without one comma or closing brace. -/
def OneGone (t m : Text) : Prop :=
  ∃ x c y, (c = ',' ∨ c = '}') ∧ t = x ++ c :: y ∧ m = x ++ y

theorem Strike.oneGone {a b : Text} (hs : Strike a b) : OneGone (nonBlank a) (nonBlank b) := by
  cases hs with
  | @mk a b c hc _ =>
      have hsolid : isBlank c = false := by
        rcases hc with rfl | rfl
        · decide
        · decide
      refine ⟨nonBlank a, c, nonBlank b, hc, ?_, nonBlank_append a b⟩
      rw [nonBlank_append]
      simp [nonBlank, hsolid]

/-- A subsequence loses the character that its text loses, or nothing. -/
theorem OneGone.sublist {t m u : Text} (h : OneGone t m) (hu : u.Sublist t) :
    ∃ v, v.Sublist m ∧ (v = u ∨ OneGone u v) := by
  obtain ⟨x, c, y, hc, rfl, rfl⟩ := h
  obtain ⟨u₁, u₂, rfl, hu₁, hu₂⟩ := List.sublist_append_iff.mp hu
  rcases List.sublist_cons_iff.mp hu₂ with hu₂ | ⟨u₃, rfl, hu₃⟩
  · exact ⟨u₁ ++ u₂, hu₁.append hu₂, Or.inl rfl⟩
  · exact ⟨u₁ ++ u₃, hu₁.append hu₃, Or.inr ⟨u₁, c, u₃, hc, rfl, rfl⟩⟩

/-! ## A whole injection -/

namespace Spec

/-- **Nothing is lost.** What is not blank comes out in order, except for at most one comma
or closing brace, and that only when the script that the registration sees is a setup
script. -/
theorem nonBlank_survives (s : Spec) (code : Text) :
    (∃ m : Text, m.Sublist (nonBlank (s.inject code)) ∧
      (m = nonBlank code ∨
        (Script.detect (s.imported code)).dialect = .setup ∧ OneGone (nonBlank code) m)) ∧
    ((Script.detect (s.imported code)).dialect ≠ .setup →
      (nonBlank code).Sublist (nonBlank (s.inject code))) := by
  rcases s.edits_inject code with he | ⟨hsetup, mid, hs, he⟩
  · have hall := he.nonBlank_sublist
    exact ⟨⟨nonBlank code, hall, Or.inl rfl⟩, fun _ => hall⟩
  · refine ⟨?_, fun hne => absurd hsetup hne⟩
    -- the struck character may be one that the tag or the import brought
    obtain ⟨m, hm, hcases⟩ := hs.oneGone.sublist (s.edits_imported code).nonBlank_sublist
    refine ⟨m, hm.trans he.nonBlank_sublist, ?_⟩
    rcases hcases with h | h
    · exact Or.inl h
    · exact Or.inr ⟨hsetup, h⟩

/-- A document whose only script exports an object can still lose a comma: the tag opens a
setup script in front of it, and the repair takes both for one. -/
theorem options_comma_lost :
    (Script.detect
        "<template></template><script>export default \x7b\x7d,</script>".toList).dialect =
      .options ∧
    ¬ (nonBlank "<template></template><script>export default \x7b\x7d,</script>".toList).Sublist
      (nonBlank (Spec.inject
        { componentName := "a".toList, importPath := "b".toList, registerName := "a".toList
          refName := "a".toList, customTemplate := some "<script setup>".toList }
        "<template></template><script>export default \x7b\x7d,</script>".toList)) := by
  decide +kernel

end Spec

end Graft
