import Graft.Text.Basic

/-!
# Parts of a text

A text is cut at a character into parts, and parts are joined by a separator. The two undo each
other: the parts of a text joined again are the text (`join_split`), and parts that do not have
the separator are found again in the text that they are joined to (`split_join`). So what is known
of the parts is known of the text, and a text that consists of given parts can be told by them.
-/

namespace Graft.Text

/-! ## Cutting -/

/-- A text without the character is not cut. -/
theorem split_of_not_mem {d : Char} : ∀ {t : Text}, d ∉ t → split d t = [t]
  | [], _ => rfl
  | c :: t, h => by
      have hc : c ≠ d := fun hc => h (by simp [hc])
      have ht : split d t = [t] := split_of_not_mem fun hd => h (by simp [hd])
      rw [split, if_neg hc, ht]

/-- A text is first cut at the first of the characters. -/
theorem split_append_cons {d : Char} : ∀ {part rest : Text}, d ∉ part →
    split d (part ++ d :: rest) = part :: split d rest
  | [], rest, _ => by rw [List.nil_append, split, if_pos rfl]
  | c :: part, rest, h => by
      have hc : c ≠ d := fun hc => h (by simp [hc])
      have hrest : split d (part ++ d :: rest) = part :: split d rest :=
        split_append_cons fun hd => h (by simp [hd])
      rw [List.cons_append, split, if_neg hc, hrest]

theorem split_ne_nil (d : Char) : ∀ t : Text, split d t ≠ []
  | [] => by simp [split]
  | c :: t => by
      unfold split
      split
      · simp
      · split
        · simp
        · simp

/-- Cutting at a character cuts what stands on both sides of it. -/
theorem split_append_sep (d : Char) (b : Text) : ∀ a : Text,
    split d (a ++ d :: b) = split d a ++ split d b
  | [] => by simp [split]
  | c :: a => by
      rw [List.cons_append, split, split, split_append_sep d b a]
      by_cases hc : c = d
      · rw [if_pos hc, if_pos hc, List.cons_append]
      · rw [if_neg hc, if_neg hc]
        cases ha : split d a with
        | nil => exact absurd ha (split_ne_nil d a)
        | cons part parts => rfl

/-- What a character that does not cut does to the parts: it goes to the front of the first. -/
theorem split_cons_of_ne {c d : Char} (hc : c ≠ d) {t part : Text} {parts : List Text}
    (h : split d t = part :: parts) : split d (c :: t) = (c :: part) :: parts := by
  rw [split, if_neg hc, h]

/-- The parts do not have the character at which the text was cut. -/
theorem not_mem_of_mem_split {d : Char} {part : Text} : ∀ {t : Text}, part ∈ split d t → d ∉ part
  | [], h => by
      rw [split, List.mem_singleton] at h
      simp [h]
  | c :: t, h => by
      by_cases hc : c = d
      · rw [split, if_pos hc] at h
        rcases List.mem_cons.mp h with h | h
        · simp [h]
        · exact not_mem_of_mem_split h
      · cases ht : split d t with
        | nil => exact absurd ht (split_ne_nil d t)
        | cons first parts =>
            rw [split_cons_of_ne hc ht] at h
            rcases List.mem_cons.mp h with rfl | h
            · have hfirst : d ∉ first := not_mem_of_mem_split (t := t) (by simp [ht])
              simp [Ne.symm hc, hfirst]
            · exact not_mem_of_mem_split (t := t) (by simp [ht, h])

/-- A text without the character goes to the end of the last part. -/
theorem split_append_of_not_mem {d : Char} {w : Text} (hw : d ∉ w) : ∀ t : Text,
    ∃ parts last, split d t = parts ++ [last] ∧ split d (t ++ w) = parts ++ [last ++ w]
  | [] => ⟨[], [], rfl, by rw [List.nil_append, split_of_not_mem hw]; rfl⟩
  | c :: t => by
      obtain ⟨parts, last, ht, htw⟩ := split_append_of_not_mem hw t
      by_cases hc : c = d
      · refine ⟨[] :: parts, last, ?_, ?_⟩
        · rw [split, if_pos hc, ht]
          rfl
        · rw [List.cons_append, split, if_pos hc, htw]
          rfl
      · cases parts with
        | nil =>
            exact ⟨[], c :: last, split_cons_of_ne hc ht, split_cons_of_ne hc htw⟩
        | cons first parts =>
            exact ⟨(c :: first) :: parts, last, split_cons_of_ne hc ht, split_cons_of_ne hc htw⟩

/-! ## Joining -/

theorem join_cons_cons (separator a b : Text) (rest : List Text) :
    join separator (a :: b :: rest) = a ++ separator ++ join separator (b :: rest) := by
  simp [join, List.intercalate]

theorem join_singleton (separator a : Text) : join separator [a] = a := by
  simp [join]

/-- **The parts of a text joined again are the text.** -/
theorem join_split (d : Char) : ∀ t : Text, join [d] (split d t) = t
  | [] => join_singleton _ _
  | c :: t => by
      have ih := join_split d t
      obtain ⟨part, parts, ht⟩ := List.exists_cons_of_ne_nil (split_ne_nil d t)
      rw [ht] at ih
      by_cases hc : c = d
      · rw [split, if_pos hc, ht, join_cons_cons, ih, hc]
        rfl
      · rw [split_cons_of_ne hc ht]
        cases parts with
        | nil =>
            rw [join_singleton] at ih ⊢
            rw [ih]
        | cons next rest =>
            rw [join_cons_cons] at ih ⊢
            rw [List.cons_append, List.cons_append, ih]

/-- **Parts without the separator are found again.** -/
theorem split_join {d : Char} : ∀ {parts : List Text}, parts ≠ [] → (∀ part ∈ parts, d ∉ part) →
    split d (join [d] parts) = parts
  | [], h, _ => absurd rfl h
  | [part], _, h => by rw [join_singleton, split_of_not_mem (h part (by simp))]
  | part :: next :: rest, _, h => by
      have ih : split d (join [d] (next :: rest)) = next :: rest :=
        split_join (by simp) fun p hp => h p (List.mem_cons_of_mem _ hp)
      rw [join_cons_cons, List.append_assoc, List.singleton_append,
        split_append_cons (h part (by simp)), ih]

/-- A join starts with the first of its parts. -/
theorem prefix_join (separator part : Text) (parts : List Text) :
    part <+: join separator (part :: parts) := by
  cases parts with
  | nil => exact (join_singleton separator part).symm ▸ List.prefix_refl part
  | cons next parts =>
      rw [join_cons_cons, List.append_assoc]
      exact List.prefix_append _ _

/-- Parts that are left out leave out characters of the join, and change none. -/
theorem join_sublist (separator : Text) {a b : List Text} (h : List.Sublist a b) :
    List.Sublist (join separator a) (join separator b) := by
  induction h with
  | slnil => exact List.Sublist.refl _
  | @cons a b part _ ih =>
      cases b with
      | nil => exact ih.trans (List.nil_sublist _)
      | cons next b =>
          rw [join_cons_cons]
          exact ih.trans (List.sublist_append_right _ _)
  | @cons_cons a b part hab ih =>
      cases a with
      | nil =>
          rw [join_singleton]
          exact (prefix_join separator part b).sublist
      | cons x a =>
          have hne : b ≠ [] := List.ne_nil_of_mem (hab.subset List.mem_cons_self)
          obtain ⟨y, b, rfl⟩ := List.exists_cons_of_ne_nil hne
          rw [join_cons_cons, join_cons_cons]
          exact (List.Sublist.refl _).append ih

end Graft.Text
