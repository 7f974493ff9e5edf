import Graft.Proofs.Detection
import Graft.Proofs.Exports
import Graft.Proofs.Markers

/-!
# The offsets are exact

Every step that edits a script cuts the document at the two offsets that `detect` reports, and
none of them looks again at what stands there. This file says what the offsets are, by counting
characters in the document and without the pattern and the two searches that find them
(`offsets_exact`).

A start tag is described by the seven characters at its offset, each out of a short list
(`spellings`), and by what comes behind them (`OpensAt`). That this is what the pattern accepts is
`opensAt_iff`, and that the search takes the least such offset is `firstOpening_of_startTag?`. The
tag ends with the first closing bracket behind its name, because its attributes have none
(`firstAt_close`). The end tag is looked for behind the start tag only, but the last one there is
the last one of the document (`stop_cases`), so an end tag in front of the script, or between two
others, is never taken. Without a script both offsets are -1, and then the body is empty.
-/

namespace Graft.Script

open Text

/-! ## Start tags by their offsets -/

/-- The characters that count as each character of `<script`, in order. -/
def spellings : List Text :=
  ["<".toList, "sSſ".toList, "cC".toList, "rR".toList, "iIıİ".toList, "pP".toList, "tT".toList]

/-- A text spells `<script`, in any case. -/
def Spells (w : Text) : Prop := List.Forall₂ (fun accepted c => c ∈ accepted) spellings w

/-- A start tag opens at an offset: its name is spelled there, and a closing bracket comes next, or
a blank and, somewhere behind it, a closing bracket. -/
structure OpensAt (code : Text) (i : Nat) : Prop where
  /-- The name. -/
  name : Spells ((code.drop i).take 7)
  /-- What comes behind it. -/
  closed : code[i + 7]? = some '>' ∨
    (code[i + 7]?).any isBlank = true ∧ '>' ∈ code.drop (i + 8)

/-- A start tag opens at an offset and at no earlier one. -/
structure FirstOpening (code : Text) (i : Nat) : Prop where
  /-- It opens there. -/
  here : OpensAt code i
  /-- None opens before. -/
  first : ∀ j < i, ¬ OpensAt code j

/-- The codes at which a letter of the name can stand: from `A` to `z`, and three more. -/
def letterCodes : List Nat := List.range' 65 58 ++ [0x130, 0x131, 0x17F]

theorem mem_letterCodes {letter c : Char} (hletter : letter ∈ "script".toList)
    (h : isLetter letter c = true) : c.toNat ∈ letterCodes := by
  have hcode := isLetter_code hletter h
  simp only [letterCodes, List.mem_append, List.mem_range'_1, List.mem_cons, List.not_mem_nil,
    or_false]
  omega

/-- What counts as a letter of the name is listed. The list is checked code by code. -/
theorem isLetter_iff_mem {letter : Char} {accepted : Text}
    (hp : (letter, accepted) ∈ "script".toList.zip spellings.tail) (c : Char) :
    isLetter letter c = true ↔ c ∈ accepted := by
  have hcodes : ("script".toList.zip spellings.tail).all (fun p => letterCodes.all fun n =>
      isLetter p.1 (Char.ofNat n) == p.2.contains (Char.ofNat n)) = true := by decide +kernel
  have hlisted : ("script".toList.zip spellings.tail).all (fun p =>
      p.2.all fun c => decide (c.toNat ∈ letterCodes)) = true := by decide +kernel
  have hsame : c.toNat ∈ letterCodes → (isLetter letter c = true ↔ c ∈ accepted) := by
    intro hc
    have hcode := List.all_eq_true.mp (List.all_eq_true.mp hcodes _ hp) _ hc
    rw [Char.ofNat_toNat, beq_iff_eq] at hcode
    rw [hcode, List.contains_iff_mem]
  constructor
  · intro h
    exact (hsame (mem_letterCodes (List.of_mem_zip hp).1 h)).mp h
  · intro h
    exact (hsame (forall_of_all (List.all_eq_true.mp hlisted _ hp) c h)).mpr h

theorem forall₂_congr_left {α β γ : Type} {R : α → γ → Prop} {S : β → γ → Prop} {l : List α}
    {l' : List β} (h : List.Forall₂ (fun a b => ∀ c, R a c ↔ S b c) l l') (w : List γ) :
    List.Forall₂ R l w ↔ List.Forall₂ S l' w := by
  induction h generalizing w with
  | nil => rw [List.forall₂_nil_left_iff, List.forall₂_nil_left_iff]
  | cons hab _ ih =>
      rw [List.forall₂_cons_left_iff, List.forall₂_cons_left_iff]
      simp only [hab, ih]

theorem spells_iff {w : Text} : Spells w ↔ IsOpening w := by
  have hcons : spellings = ['<'] :: spellings.tail := by decide
  have hletters : List.Forall₂ (fun letter accepted => ∀ c, isLetter letter c = true ↔ c ∈ accepted)
      "script".toList spellings.tail := List.forall₂_iff_zip.mpr ⟨rfl, isLetter_iff_mem⟩
  rw [Spells, hcons, List.forall₂_cons_left_iff, IsOpening]
  simp only [← forall₂_congr_left hletters, List.mem_singleton]
  constructor
  · rintro ⟨_, letters, rfl, h, rfl⟩
    exact ⟨letters, rfl, h⟩
  · rintro ⟨letters, rfl, h⟩
    exact ⟨_, letters, rfl, h, rfl⟩

/-- A text opens with a start tag exactly if it starts with the name and what comes next closes
it. -/
theorem opens_iff_behind_name {t : Text} :
    Opens t ↔ IsOpening (t.take 7) ∧ ((t.drop 7).head? = some '>' ∨
      (t.drop 7).head?.any isBlank = true ∧ '>' ∈ (t.drop 7).tail) := by
  constructor
  · rintro ⟨_, rest, rfl, w, attributes, rfl, hw, hblank, _⟩
    rw [List.append_assoc, List.append_assoc, List.take_left' hw.length_eq,
      List.drop_left' hw.length_eq]
    refine ⟨hw, ?_⟩
    cases attributes with
    | nil => exact Or.inl rfl
    | cons c attributes => exact Or.inr ⟨hblank, by simp⟩
  · rintro ⟨hw, hclosed⟩
    have hcut : t = t.take 7 ++ t.drop 7 := (List.take_append_drop 7 t).symm
    cases hbehind : t.drop 7 with
    | nil =>
        rw [hbehind] at hclosed
        exact absurd hclosed (by simp)
    | cons c u =>
        rw [hbehind] at hclosed hcut
        rcases hclosed with hc | ⟨hblank, hmem⟩
        · injection hc with hc
          subst hc
          exact ⟨t.take 7 ++ [] ++ ['>'], u, by simpa using hcut, _, [], rfl, hw, rfl, by simp⟩
        · -- the tag ends with the first closing bracket behind the blank
          obtain ⟨a, rest, hrest, ha⟩ := List.eq_append_cons_of_mem hmem
          have hclose : '>' ∉ c :: a := by
            rw [List.mem_cons, not_or]
            exact ⟨(not_stop_of_isBlank hblank).2.2.symm, ha⟩
          rw [List.tail_cons] at hrest
          rw [hrest] at hcut
          exact ⟨t.take 7 ++ (c :: a) ++ ['>'], rest, by simpa using hcut, _, c :: a, rfl, hw,
            hblank, hclose⟩

section Offsets

variable {code : Text} {i : Nat} {cut : Cut}

/-- A start tag opens at an offset exactly if the rest of the text opens with one. -/
theorem opensAt_iff : OpensAt code i ↔ Opens (code.drop i) := by
  rw [opens_iff_behind_name, List.drop_drop, List.head?_drop, List.tail_drop, ← spells_iff]
  exact ⟨fun h => ⟨h.name, h.closed⟩, fun h => ⟨h.1, h.2⟩⟩

theorem FirstOpening.unique {j : Nat} (hi : FirstOpening code i) (hj : FirstOpening code j) :
    i = j := by
  rcases Nat.lt_trichotomy i j with h | h | h
  · exact absurd hi.here (hj.first i h)
  · exact h
  · exact absurd hj.here (hi.first j h)

/-- The search finds the tag that opens first. -/
theorem firstOpening_of_startTag? (h : startTag? code = some cut) :
    FirstOpening code cut.before.length := by
  obtain ⟨hcode, hfound, hleft⟩ := startTag?_spec h
  rw [List.append_assoc] at hcode
  constructor
  · rw [opensAt_iff, hcode, List.drop_left]
    exact ⟨cut.found, cut.after, rfl, hfound⟩
  · intro j hj
    have hne : cut.before.drop j ≠ [] := by
      rw [Ne, List.drop_eq_nil_iff]
      omega
    rw [opensAt_iff, hcode, List.drop_append_of_le_length (by omega), ← List.append_assoc]
    exact hleft _ (List.drop_suffix j cut.before) hne

theorem exists_opensAt_iff : (∃ i, OpensAt code i) ↔ ∃ cut, startTag? code = some cut := by
  constructor
  · rintro ⟨i, hi⟩
    cases h : startTag? code with
    | none =>
        exact absurd (opensAt_iff.mp hi) (startTag?_eq_none_iff.mp h _ (List.drop_suffix i code))
    | some cut => exact ⟨cut, rfl⟩
  · rintro ⟨cut, h⟩
    exact ⟨_, (firstOpening_of_startTag? h).here⟩

/-- The tag ends with the first closing bracket behind its name. -/
theorem firstAt_close (h : startTag? code = some cut) :
    ∃ k, FirstAt ['>'] (code.drop (cut.before.length + 7)) k ∧ cut.found.length = 7 + k + 1 := by
  obtain ⟨hcode, ⟨w, attributes, hfound, hw, _, hclose⟩, _⟩ := startTag?_spec h
  have hbehind : code.drop (cut.before.length + 7) = attributes ++ '>' :: cut.after := by
    rw [hcode, hfound, List.append_assoc, ← List.drop_drop, List.drop_left, List.append_assoc,
      List.append_assoc, List.drop_left' hw.length_eq]
    rfl
  refine ⟨attributes.length, ?_, ?_⟩
  · rw [hbehind]
    exact firstAt_char hclose cut.after
  · rw [hfound, List.length_append, List.length_append, hw.length_eq]
    rfl

/-! ## What the facts about a script say of it -/

theorem hasScript_iff : (detect code).hasScript = true ↔ ∃ i, OpensAt code i := by
  rw [exists_opensAt_iff]
  cases h : startTag? code with
  | none =>
      rw [detect_no_startTag h]
      simp
  | some cut => simp [(detect_startTag h).1]

/-- The script stops nowhere if no end tag starts behind the start tag, and otherwise at the last
end tag of the document. -/
theorem stop_cases (h : startTag? code = some cut) :
    ((detect code).stop = -1 ∧
      ∀ j, cut.before.length + cut.found.length ≤ j → ¬ endTag <+: code.drop j) ∨
    ∃ e : Nat, (detect code).stop = e ∧ LastAt endTag code e ∧
      cut.before.length + cut.found.length ≤ e := by
  obtain ⟨hcode, _, _⟩ := startTag?_spec h
  unfold detect
  rw [h]
  dsimp only
  cases hlast : cutLast? endTag cut.after with
  | none =>
      refine Or.inl ⟨rfl, fun j hj hin => cutLast?_eq_none.mp hlast ?_⟩
      obtain ⟨k, rfl⟩ := Nat.exists_eq_add_of_le hj
      rw [hcode, ← List.length_append, ← List.drop_drop, List.drop_left] at hin
      exact hin.isInfix.trans (List.drop_suffix k _).isInfix
  | some sides =>
      obtain ⟨body, rest⟩ := sides
      have hfront : cut.before ++ cut.found ++ body ++ cut.after.drop body.length = code := by
        rw [hcode, ← cutLast?_eq_some hlast, List.append_assoc body, List.drop_left]
        simp
      have hat := (lastAt_of_cutLast? (by decide) hlast).replace (cut.before ++ cut.found ++ body)
      rw [hfront, List.length_append, List.length_append] at hat
      exact Or.inr ⟨_, by simp, hat, by omega⟩

/-- The two offsets, by where the first start tag opens. -/
theorem bounds_of_firstOpening (hi : FirstOpening code i) :
    ∃ k : Nat, FirstAt ['>'] (code.drop (i + 7)) k ∧
      (detect code).start = ((i + 7 + k + 1 : Nat) : Int) ∧
      (((detect code).stop = -1 ∧ ∀ j, i + 7 + k + 1 ≤ j → ¬ endTag <+: code.drop j) ∨
        ∃ e : Nat, (detect code).stop = e ∧ LastAt endTag code e ∧ i + 7 + k + 1 ≤ e) := by
  obtain ⟨cut, hcut⟩ := exists_opensAt_iff.mp ⟨i, hi.here⟩
  obtain rfl := hi.unique (firstOpening_of_startTag? hcut)
  obtain ⟨k, hk, hlen⟩ := firstAt_close hcut
  have hend : cut.before.length + 7 + k + 1 = cut.before.length + cut.found.length := by omega
  refine ⟨k, hk, ?_⟩
  rw [hend]
  exact ⟨(detect_startTag hcut).2.2, stop_cases hcut⟩

/-- A closed script is what stands between the two offsets, and its exports are those of that
text. -/
theorem detect_closed (h : (detect code).stop ≠ -1) :
    ∃ s e : Nat, (detect code).start = s ∧ (detect code).stop = e ∧
      code.take s ++ (detect code).body code ++ code.drop e = code ∧
      (detect code).hasExport = hasExport ((detect code).body code) := by
  obtain ⟨r, hr⟩ := stop_ne_iff.mp h
  obtain ⟨cut, _, _, hdetect⟩ := detect_region hr
  have hcode : r.head ++ r.body ++ r.tail = code := region?_eq_some hr
  have hhead : code.take r.head.length = r.head := by
    rw [← hcode, List.append_assoc, List.take_left]
  have htail : code.drop (r.head.length + r.body.length) = r.tail := by
    rw [← hcode, ← List.length_append, List.drop_left]
  refine ⟨r.head.length, r.head.length + r.body.length, ?_, ?_, ?_, ?_⟩
  · rw [hdetect]
  · rw [hdetect, Int.natCast_add]
  · rw [body_detect hr, hhead, htail, hcode]
  · rw [body_detect hr, hdetect]

end Offsets

/-- **The offsets are exact.** There is a script exactly if a start tag opens somewhere. The first
one that does gives the first offset, right behind its closing bracket. The second offset is that
of the last end tag, if that stands behind the first offset, and -1 if none does. Between two
offsets stands the body, which decides about the exports; without a script there is no offset and no
body. -/
theorem offsets_exact (code : Text) :
    ((detect code).hasScript = true ↔ ∃ i, OpensAt code i) ∧
    (∀ i, FirstOpening code i → ∃ k, FirstAt ['>'] (code.drop (i + 7)) k ∧
      (detect code).start = ((i + 7 + k + 1 : Nat) : Int) ∧
      (((detect code).stop = -1 ∧ ∀ j, i + 7 + k + 1 ≤ j → ¬ endTag <+: code.drop j) ∨
        ∃ e : Nat, (detect code).stop = e ∧ LastAt endTag code e ∧ 0 < (detect code).start ∧
          (detect code).start ≤ (detect code).stop ∧
          (detect code).stop ≤ (code.length : Int) - 9)) ∧
    ((detect code).stop ≠ -1 →
      ∃ s e : Nat, (detect code).start = s ∧ (detect code).stop = e ∧
        code = code.take s ++ (detect code).body code ++ code.drop e ∧
        ((detect code).hasExport = true ↔
          (∃ w, IsExport w ∧ StandsIn w ((detect code).body code)) ∨
            ∃ w, IsCall w ∧ w <:+: (detect code).body code)) ∧
    ((detect code).hasScript = false →
      (detect code).dialect = .absent ∧ (detect code).start = -1 ∧ (detect code).stop = -1 ∧
        (detect code).body code = []) := by
  refine ⟨hasScript_iff, fun i hi => ?_, fun hclosed => ?_, fun hnone => ?_⟩
  · obtain ⟨k, hk, hstart, hstop⟩ := bounds_of_firstOpening hi
    refine ⟨k, hk, hstart, hstop.imp_right ?_⟩
    rintro ⟨e, he, hlast, hle⟩
    -- the end tag needs nine characters
    have hroom : 9 ≤ (code.drop e).length := hlast.here.length_le
    rw [List.length_drop] at hroom
    exact ⟨e, he, hlast, by omega, by omega, by omega⟩
  · obtain ⟨s, e, hs, he, hcode, hexport⟩ := detect_closed hclosed
    exact ⟨s, e, hs, he, hcode.symm, by rw [hexport, hasExport_iff]⟩
  · have habsent : startTag? code = none := by
      cases h : startTag? code with
      | none => rfl
      | some cut => exact absurd (detect_startTag h).1 (by rw [hnone]; simp)
    rw [detect_no_startTag habsent]
    exact ⟨rfl, rfl, rfl, rfl⟩

-- an end tag in front, a longer name, letters that only count as those of the name, and two end
-- tags behind them
example :
    detect "</script><scripts><ſcrİpt\n a>export default \x7b\x7d</script>\n</script>".toList =
      { hasScript := true, hasExport := true, start := 29, stop := 56 } := by
  decide +kernel

end Graft.Script
