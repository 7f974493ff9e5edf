import Graft.Proofs.Words
import Graft.Text.Case

/-!
# The characters of a name

A component is found under its name and under the name in lower case. For both to be solid
words behind an opening bracket, lower case must not turn a character of a name into a
blank, a bracket, a brace or a comma. Those are few, and they are listed in ranges
(`outerRanges`), so the tables of lower case and of word characters are checked against
the list once (`lowerRuns_inner`, `alphanumericRanges_inner`) and never looked into again.
-/

namespace Graft.Text

/-- The characters that are not inner ones, in rising order. -/
def outerRanges : List (Nat × Nat) := [
  (0x9, 0xD), (0x1C, 0x20), (0x2C, 0x2C), (0x3C, 0x3C), (0x3E, 0x3E), (0x7B, 0x7B),
  (0x7D, 0x7D), (0x85, 0x85), (0xA0, 0xA0), (0x1680, 0x1680), (0x2000, 0x200A),
  (0x2028, 0x2029), (0x202F, 0x202F), (0x205F, 0x205F), (0x3000, 0x3000)]

theorem isInner_iff_outside {c : Char} :
    isInner c = true ↔ ∀ r ∈ outerRanges, c.toNat < r.1 ∨ r.2 < c.toNat := by
  have hchar : ∀ d : Char, c = d ↔ c.toNat = d.toNat :=
    fun d => ⟨congrArg _, fun h => Char.toNat_inj.mp h⟩
  have hcodes : '{'.toNat = 0x7B ∧ '}'.toNat = 0x7D ∧ ','.toNat = 0x2C ∧ '<'.toNat = 0x3C ∧
      '>'.toNat = 0x3E := by decide
  rw [isInner_iff]
  simp only [isStop, isBlank, outerRanges, hchar, hcodes, List.forall_mem_cons,
    Bool.or_eq_false_iff, Bool.and_eq_false_iff, decide_eq_false_iff_not, beq_eq_false_iff_ne,
    ne_eq]
  -- one range at a time: all of them at once are too many cases
  constructor
  · intro h
    refine ⟨?_, ?_, ?_, ?_, ?_, ?_, ?_, ?_, ?_, ?_, ?_, ?_, ?_, ?_, ?_, by simp⟩ <;> omega
  · intro h
    refine ⟨?_, ?_, ?_, ?_⟩ <;> omega

theorem isInner_ofNat {n : Nat} (h : ∀ r ∈ outerRanges, n < r.1 ∨ r.2 < n) :
    isInner (Char.ofNat n) = true := by
  by_cases hv : n.isValidChar
  · have hn : (Char.ofNat n).toNat = n := by rw [Char.ofNat, dif_pos hv]; rfl
    rw [isInner_iff_outside, hn]
    exact h
  · have hz : Char.ofNat n = '\x00' := by rw [Char.ofNat, dif_neg hv]; rfl
    rw [hz]
    decide

/-! ## Word characters -/

theorem exists_of_inRanges {n : Nat} : ∀ {ranges : List (Nat × Nat)}, inRanges n ranges = true →
    ∃ r ∈ ranges, r.1 ≤ n ∧ n ≤ r.2
  | [], h => absurd h (by simp [inRanges])
  | (low, high) :: rest, h => by
      rw [inRanges] at h
      split at h
      · exact absurd h (by simp)
      · rename_i hlow
        rcases Bool.or_eq_true _ _ ▸ h with hhigh | hrest
        · exact ⟨(low, high), by simp, by omega, of_decide_eq_true hhigh⟩
        · obtain ⟨r, hr, hn⟩ := exists_of_inRanges hrest
          exact ⟨r, by simp [hr], hn⟩

/-- Two ranges have no number in common. -/
def apart (r s : Nat × Nat) : Bool := Nat.blt r.2 s.1 || Nat.blt s.2 r.1

theorem alphanumericRanges_inner :
    (alphanumericRanges.all fun run => outerRanges.all (apart run)) = true := by decide +kernel

theorem isInner_of_isWord {c : Char} (h : isWord c = true) : isInner c = true := by
  rw [isWord, Bool.or_eq_true, decide_eq_true_eq] at h
  rcases h with rfl | h
  · decide
  · rw [isInner_iff_outside]
    intro r hr
    unfold isAlphanumeric at h
    split at h
    · have hletter : (65 ≤ c.toNat ∧ c.toNat ≤ 90) ∨ (97 ≤ c.toNat ∧ c.toNat ≤ 122) ∨
          (48 ≤ c.toNat ∧ c.toNat ≤ 57) := by
        have hcodes : (decide (65 ≤ c.val ∧ c.val ≤ 90) ||
            (decide (97 ≤ c.val) && decide (c.val ≤ 122)) ||
            (decide (48 ≤ c.val) && decide (c.val ≤ 57))) = true := h
        simpa [UInt32.le_iff_toNat_le, or_assoc] using hcodes
      have hout := (by decide : ∀ r ∈ outerRanges, (90 < r.1 ∨ r.2 < 65) ∧
        (122 < r.1 ∨ r.2 < 97) ∧ (57 < r.1 ∨ r.2 < 48)) r hr
      omega
    · obtain ⟨run, hrun, _, _⟩ := exists_of_inRanges h
      have hout := List.all_eq_true.mp (List.all_eq_true.mp alphanumericRanges_inner run hrun) r hr
      simp only [apart, Bool.or_eq_true, Nat.blt_eq] at hout
      omega

/-! ## Lower case -/

/-- A character without a run stays; any other moves by the offset of a run it is in. -/
theorem lowerOffset_cases (n : Nat) : ∀ runs : List (Nat × Nat × Nat × Int),
    lowerOffset n runs = 0 ∨ ∃ run ∈ runs, run.1 ≤ n ∧ n ≤ run.2.1 ∧
      lowerOffset n runs = run.2.2.2
  | [] => Or.inl rfl
  | (first, last, step, offset) :: rest => by
      rw [lowerOffset]
      split
      · rename_i h
        simp only [Bool.and_eq_true, decide_eq_true_eq] at h
        exact Or.inr ⟨_, List.mem_cons_self, h.1.1, h.1.2, rfl⟩
      · rcases lowerOffset_cases n rest with h | ⟨run, hrun, h⟩
        · exact Or.inl h
        · exact Or.inr ⟨run, List.mem_cons_of_mem _ hrun, h⟩

theorem lowerRuns_inner : ∀ run ∈ lowerRuns, 0 ≤ run.1 + run.2.2.2 ∧
    ∀ r ∈ outerRanges, run.2.1 + run.2.2.2 < r.1 ∨ r.2 < run.1 + run.2.2.2 := by decide +kernel

theorem isInner_toLower {c : Char} (h : isInner c = true) : isInner c.toLower = true := by
  unfold Char.toLower
  split
  · rename_i hc
    have hlow : 65 ≤ c.val.toNat := UInt32.le_iff_toNat_le.mp hc.1
    have hhigh : c.val.toNat ≤ 90 := UInt32.le_iff_toNat_le.mp hc.2
    have hshift : ('a'.val - 'A'.val).toNat = 32 := rfl
    have hval : (c.val + ('a'.val - 'A'.val)).toNat = c.val.toNat + 32 := by
      rw [UInt32.toNat_add]
      exact Nat.mod_eq_of_lt (by omega)
    rw [isInner_iff_outside, Char.toNat, hval]
    intro r hr
    have hout := (by decide : ∀ r ∈ outerRanges, 122 < r.1 ∨ r.2 < 97) r hr
    omega
  · exact h

/-- The lower case of an inner character is made of inner characters. -/
theorem isInner_lowerChar {c : Char} (h : isInner c = true) :
    ∀ d ∈ lowerChar c, isInner d = true := by
  unfold lowerChar
  split
  · intro d hd
    rw [List.mem_singleton.mp hd]
    exact isInner_toLower h
  · split
    · exact List.all_eq_true.mp (by decide)
    · split
      · exact List.all_eq_true.mp (by decide)
      · intro d hd
        rw [List.mem_singleton.mp hd]
        rcases lowerOffset_cases c.toNat lowerRuns with h0 | ⟨run, hrun, hfirst, hlast, hoffset⟩
        · rw [h0, Int.add_zero, Int.toNat_natCast, Char.ofNat_toNat]
          exact h
        · refine isInner_ofNat fun r hr => ?_
          obtain ⟨hpos, hout⟩ := lowerRuns_inner run hrun
          have := hout r hr
          rw [hoffset]
          omega

theorem isInner_lowerAfter : ∀ {before t : Text}, (∀ c ∈ t, isInner c = true) →
    ∀ c ∈ lowerAfter before t, isInner c = true
  | _, [], _ => by simp [lowerAfter]
  | before, c :: t, h => by
      intro d hd
      rw [lowerAfter, List.mem_append] at hd
      rcases hd with hd | hd
      · split at hd
        · rw [List.mem_singleton.mp hd]
          decide
        · exact isInner_lowerChar (h c (by simp)) d hd
      · exact isInner_lowerAfter (fun e he => h e (by simp [he])) d hd

/-- **Lower case keeps a name a name.** -/
theorem isInner_lower {t : Text} (h : ∀ c ∈ t, isInner c = true) :
    ∀ c ∈ lower t, isInner c = true := isInner_lowerAfter h

end Graft.Text
