import Graft.Script.Region
import Graft.Proofs.Fitting
import Graft.Proofs.Names
import Mathlib.Data.List.Forall2

/-!
# Where the script region stands

The region is found by two searches, for the first start tag and for the last end tag.
This file says what each of them answers in terms of the text alone.

A start tag is decided by the text up to its closing bracket (`opens_append`): whatever is
written after that bracket can neither make nor break a tag that starts before it. So the
first start tag is found again whatever follows it (`startTag?_replace`), and it is found
again behind any text in which no start tag opens (`startTag?_skip`). Every step looks for
the region afresh in the text the step before it left, and these two facts are why it
finds the same region there (`region?_replace`).
-/

namespace Graft.Script

open Text Pattern

/-! ## Openings -/

/-- The opening of a start tag: a bracket and the letters of the name, in any case. -/
def IsOpening (w : Text) : Prop :=
  ∃ letters, w = '<' :: letters ∧
    List.Forall₂ (fun letter c => isLetter letter c = true) "script".toList letters

theorem isOpening_script : IsOpening "<script".toList :=
  ⟨"script".toList, rfl, List.forall₂_same.mpr (List.all_eq_true.mp (by decide))⟩

theorem fits_letters : ∀ {letters : Text} {b : Option Char} {w after : Text},
    Fits (letters.map fun letter => .one (isLetter letter)) b w after ↔
      List.Forall₂ (fun letter c => isLetter letter c = true) letters w
  | [], b, w, after => by
      rw [List.forall₂_nil_left_iff]
      exact Iff.rfl
  | letter :: letters, b, w, after => by
      rw [List.forall₂_cons_left_iff]
      constructor
      · intro h
        obtain ⟨c, v, hw, hc, hv⟩ := h
        exact ⟨c, v, hc, fits_letters.mp hv, hw⟩
      · intro h
        obtain ⟨c, v, hc, hv, hw⟩ := h
        exact ⟨c, v, hw, hc, fits_letters.mpr hv⟩

theorem fits_opening {b : Option Char} {w after : Text} :
    Fits opening b w after ↔ IsOpening w := by
  constructor
  · intro h
    obtain ⟨c, v, rfl, hc, hv⟩ := h
    rw [beq_iff_eq.mp hc]
    exact ⟨v, rfl, fits_letters.mp hv⟩
  · intro h
    obtain ⟨v, rfl, hv⟩ := h
    exact ⟨'<', v, rfl, rfl, fits_letters.mpr hv⟩

theorem toLower_cases {c l : Char} (h : c.toLower = l) :
    c = l ∨ (65 ≤ c.toNat ∧ c.toNat ≤ 90) := by
  unfold Char.toLower at h
  split at h
  · rename_i hc
    exact Or.inr ⟨UInt32.le_iff_toNat_le.mp hc.1, UInt32.le_iff_toNat_le.mp hc.2⟩
  · exact Or.inl h

/-- The codes of what counts as a letter of the name. -/
theorem isLetter_code {l c : Char} (hl : l ∈ "script".toList) (h : isLetter l c = true) :
    (97 ≤ c.toNat ∧ c.toNat ≤ 122) ∨ (65 ≤ c.toNat ∧ c.toNat ≤ 90) ∨
      (0x130 ≤ c.toNat ∧ c.toNat ≤ 0x131) ∨ c.toNat = 0x17F := by
  have hlow : 97 ≤ l.toNat ∧ l.toNat ≤ 122 := of_decide_eq_true (List.all_eq_true.mp
    (by decide : "script".toList.all (fun l => decide (97 ≤ l.toNat ∧ l.toNat ≤ 122)) = true) l hl)
  simp only [isLetter, Bool.or_eq_true, Bool.and_eq_true, beq_iff_eq] at h
  rcases h with (h | ⟨_, rfl⟩) | ⟨_, rfl | rfl⟩
  · rcases toLower_cases h with rfl | h
    · exact Or.inl hlow
    · exact Or.inr (Or.inl h)
  · decide
  · decide
  · decide

/-- Everything behind the bracket of an opening is a letter of the name. -/
theorem isLetter_of_mem {letters w : Text} {c : Char} (hc : c ∈ w)
    (h : List.Forall₂ (fun letter c => isLetter letter c = true) letters w) :
    ∃ l ∈ letters, isLetter l c = true := by
  induction h with
  | nil => exact absurd hc (by simp)
  | @cons l d ls w hd _ ih =>
      rcases List.mem_cons.mp hc with rfl | hc
      · exact ⟨l, by simp, hd⟩
      · obtain ⟨l', hl', h⟩ := ih hc
        exact ⟨l', by simp [hl'], h⟩

/-- An opening is a solid word. It does not close, and has no colon. -/
theorem IsOpening.solid {w : Text} (h : IsOpening w) : Solid w ∧ '>' ∉ w ∧ ':' ∉ w := by
  obtain ⟨letters, rfl, hall⟩ := h
  have hinner : ∀ c ∈ letters, isInner c = true ∧ c ≠ ':' := by
    intro c hc
    obtain ⟨l, hl, hletter⟩ := isLetter_of_mem hc hall
    have hcode := isLetter_code hl hletter
    constructor
    · rw [isInner_iff_outside]
      intro r hr
      have hout := (by decide : ∀ r ∈ outerRanges, (122 < r.1 ∨ r.2 < 97) ∧
        (90 < r.1 ∨ r.2 < 65) ∧ (0x131 < r.1 ∨ r.2 < 0x130) ∧ (0x17F < r.1 ∨ r.2 < 0x17F)) r hr
      omega
    · rintro rfl
      exact absurd hcode (by decide)
  refine ⟨solid_of_inner fun c hc => (hinner c hc).1, ?_, ?_⟩
  · intro hc
    rcases List.mem_cons.mp hc with hc | hc
    · exact absurd hc (by decide)
    · exact absurd (hinner _ hc).1 (by decide)
  · intro hc
    rcases List.mem_cons.mp hc with hc | hc
    · exact absurd hc (by decide)
    · exact (hinner _ hc).2 rfl

theorem IsOpening.length_eq {w : Text} (h : IsOpening w) : w.length = 7 := by
  obtain ⟨letters, rfl, hletters⟩ := h
  rw [List.length_cons, ← hletters.length_eq]
  decide

/-! ## Start tags -/

/-- A whole start tag: an opening, attributes set off by a blank, and the first closing
bracket after them. -/
def IsStartTag (f : Text) : Prop :=
  ∃ w attributes, f = w ++ attributes ++ ['>'] ∧ IsOpening w ∧
    attributes.head?.all isBlank = true ∧ '>' ∉ attributes

/-- A start tag stands at the beginning of the text. -/
def Opens (t : Text) : Prop := ∃ f rest, t = f ++ rest ∧ IsStartTag f

theorem fits_startTag {b : Option Char} {w after : Text} :
    (∃ p ∈ startTagPatterns, Fits p b w after) ↔ IsStartTag w := by
  simp only [startTagPatterns, List.mem_cons, List.not_mem_nil, or_false, exists_eq_or_imp,
    exists_eq_left, fits_append, fits_opening]
  constructor
  · intro h
    rcases h with ⟨u, v, rfl, hu, ⟨c, v, rfl, hc, m, n, rfl, hm, ⟨d, n, rfl, hd, rfl⟩⟩⟩ |
      ⟨u, v, rfl, hu, ⟨d, v, rfl, hd, rfl⟩⟩
    · rw [beq_iff_eq.mp hd]
      refine ⟨u, c :: m, by simp, hu, hc, ?_⟩
      intro hmem
      rcases List.mem_cons.mp hmem with rfl | hmem
      · exact absurd hc (by decide)
      · exact absurd (hm _ hmem) (by decide)
    · rw [beq_iff_eq.mp hd]
      exact ⟨u, [], by simp, hu, rfl, by simp⟩
  · intro h
    obtain ⟨u, attributes, rfl, hu, hblank, hclose⟩ := h
    cases attributes with
    | nil => exact Or.inr ⟨u, ['>'], by simp, hu, '>', [], rfl, rfl, rfl⟩
    | cons c m =>
        refine Or.inl ⟨u, c :: (m ++ ['>']), by simp, hu, c, m ++ ['>'], rfl, hblank, m, ['>'],
          rfl, ?_, '>', [], rfl, rfl, rfl⟩
        intro d hd
        rw [bne_iff_ne]
        rintro rfl
        exact hclose (List.mem_cons_of_mem _ hd)

/-- A start tag ends with its only closing bracket. -/
theorem IsStartTag.closing {f : Text} (h : IsStartTag f) : ∃ g, f = g ++ ['>'] ∧ '>' ∉ g := by
  obtain ⟨w, attributes, rfl, hw, _, hclose⟩ := h
  refine ⟨w ++ attributes, rfl, ?_⟩
  rw [List.mem_append]
  intro h
  rcases h with h | h
  · exact hw.solid.2.1 h
  · exact hclose h

/-- A part of a start tag that has a closing bracket is the whole of it. -/
theorem IsStartTag.eq_of_prefix {u x : Text} (h : IsStartTag (u ++ x)) (hu : '>' ∈ u) :
    x = [] := by
  obtain ⟨g, hg, hclose⟩ := h.closing
  rcases List.append_eq_append_iff.mp hg with ⟨y, rfl, _⟩ | ⟨y, rfl, hy⟩
  · exact absurd (List.mem_append_left y hu) hclose
  · cases y with
    | nil => exact absurd (by simpa using hu) hclose
    | cons d y =>
        injection hy with _ hy
        exact (List.append_eq_nil_iff.mp hy.symm).2

/-- Whether a start tag stands at the beginning is decided by the text up to the first
closing bracket. -/
theorem opens_append {u r : Text} (hu : '>' ∈ u) : Opens (u ++ r) ↔ Opens u := by
  constructor
  · intro h
    obtain ⟨f, rest, he, hf⟩ := h
    rcases List.append_eq_append_iff.mp he with ⟨x, rfl, _⟩ | ⟨x, hx, _⟩
    · -- the tag is at least as long as the text, so it ends with it
      have hx : x = [] := hf.eq_of_prefix hu
      exact ⟨u, [], by simp, by rw [hx, List.append_nil] at hf; exact hf⟩
    · exact ⟨f, x, hx, hf⟩
  · intro h
    obtain ⟨f, rest, rfl, hf⟩ := h
    exact ⟨f, rest ++ r, by simp, hf⟩

theorem IsStartTag.close_mem {f : Text} (h : IsStartTag f) : '>' ∈ f := by
  obtain ⟨g, rfl, _⟩ := h.closing
  simp

/-- Two start tags at the same place are the same. -/
theorem IsStartTag.eq_of_append_eq {f g a b : Text} (hf : IsStartTag f) (hg : IsStartTag g)
    (h : f ++ a = g ++ b) : f = g ∧ a = b := by
  rcases List.append_eq_append_iff.mp h with ⟨x, rfl, rfl⟩ | ⟨x, rfl, rfl⟩
  · have hx : x = [] := hg.eq_of_prefix hf.close_mem
    simp [hx]
  · have hx : x = [] := hf.eq_of_prefix hg.close_mem
    simp [hx]

/-! ## The first start tag -/

theorem startTag?_eq_none_iff {code : Text} :
    startTag? code = none ↔ ∀ y, y <:+ code → ¬ Opens y := by
  constructor
  · rintro h _ ⟨x, rfl⟩ ⟨f, rest, rfl, hf⟩
    obtain ⟨p, hp, hfit⟩ := fits_startTag.mpr hf
    exact searchFrom?_eq_none h rfl p hp hfit
  · intro h
    cases hs : startTag? code with
    | none => rfl
    | some cut =>
        exfalso
        obtain hfit := fits_startTag.mp (searchFrom?_fits hs)
        refine h (cut.found ++ cut.after) ⟨cut.before, ?_⟩ ⟨cut.found, cut.after, rfl, hfit⟩
        rw [← List.append_assoc]
        exact search?_eq_some hs

/-- What the search for the first start tag returns: a start tag, in its place, with none
to its left. -/
theorem startTag?_spec {code : Text} {cut : Cut} (h : startTag? code = some cut) :
    code = cut.before ++ cut.found ++ cut.after ∧ IsStartTag cut.found ∧
      ∀ y, y <:+ cut.before → y ≠ [] → ¬ Opens (y ++ cut.found ++ cut.after) := by
  refine ⟨(search?_eq_some h).symm, fits_startTag.mp (searchFrom?_fits h), ?_⟩
  rintro y ⟨x, hx⟩ hy ⟨f, rest, he, hf⟩
  obtain ⟨p, hp, hfit⟩ := fits_startTag.mpr hf
  exact searchFrom?_leftmost h hx.symm hy he p hp hfit

/-- A start tag with none to its left is the one the search returns. -/
theorem startTag?_eq_some {before found after : Text} (hf : IsStartTag found)
    (hleft : ∀ y, y <:+ before → y ≠ [] → ¬ Opens (y ++ found ++ after)) :
    startTag? (before ++ found ++ after) = some ⟨before, found, after⟩ := by
  cases hs : startTag? (before ++ found ++ after) with
  | none =>
      refine absurd ⟨found, after, rfl, hf⟩ (startTag?_eq_none_iff.mp hs _ ⟨before, ?_⟩)
      rw [List.append_assoc]
  | some cut =>
      obtain ⟨b, f, a⟩ := cut
      obtain ⟨he, hf', hleft'⟩ := startTag?_spec hs
      dsimp only at he hf' hleft'
      rw [List.append_assoc, List.append_assoc] at he
      rcases List.append_eq_append_iff.mp he with ⟨x, rfl, hx⟩ | ⟨x, rfl, hx⟩
      · -- the two tags meet at one place, or one stands to the left of the other
        cases x with
        | nil =>
            obtain ⟨rfl, rfl⟩ := hf.eq_of_append_eq hf' hx
            simp
        | cons d x =>
            refine absurd ⟨found, after, ?_, hf⟩
              (hleft' (d :: x) (List.suffix_append _ _) (by simp))
            rw [List.append_assoc, hx]
      · cases x with
        | nil =>
            obtain ⟨rfl, rfl⟩ := hf'.eq_of_append_eq hf hx
            simp
        | cons d x =>
            refine absurd ⟨f, a, ?_, hf'⟩
              (hleft (d :: x) (List.suffix_append _ _) (by simp))
            rw [List.append_assoc, hx]

/-- The first start tag is found again whatever follows it. -/
theorem startTag?_replace {code after : Text} {cut : Cut} (h : startTag? code = some cut) :
    startTag? (cut.before ++ cut.found ++ after) = some ⟨cut.before, cut.found, after⟩ := by
  obtain ⟨_, hf, hleft⟩ := startTag?_spec h
  refine startTag?_eq_some hf fun y hy hne hopens => hleft y hy hne ?_
  have hclose : '>' ∈ y ++ cut.found := List.mem_append_right y hf.close_mem
  rw [opens_append hclose] at hopens ⊢
  exact hopens

/-- The first start tag is found again behind text in which none opens. -/
theorem startTag?_skip {front code : Text}
    (h : ∀ y, y <:+ front → y ≠ [] → ¬ Opens (y ++ code)) :
    startTag? (front ++ code) =
      (startTag? code).map fun cut => { cut with before := front ++ cut.before } := by
  cases hs : startTag? code with
  | none =>
      rw [Option.map_none, startTag?_eq_none_iff]
      intro y hy
      rcases suffix_append_cases hy with hy | ⟨z, hz, hza, rfl⟩
      · exact startTag?_eq_none_iff.mp hs y hy
      · exact h z hza hz
  | some cut =>
      obtain ⟨he, hf, hleft⟩ := startTag?_spec hs
      have hnew : ∀ y, y <:+ front ++ cut.before → y ≠ [] →
          ¬ Opens (y ++ cut.found ++ cut.after) := by
        intro y hy hne
        rcases suffix_append_cases hy with hy | ⟨z, hz, hza, rfl⟩
        · exact hleft y hy hne
        · have := h z hza hz
          rw [he] at this
          simpa using this
      have hfound := startTag?_eq_some hf hnew
      rw [he, ← List.append_assoc, ← List.append_assoc, hfound]
      rfl

/-! ## The region -/

/-- The end tag opens with its only opening bracket. -/
theorem endTag_eq : endTag = '<' :: "/script>".toList := by decide

theorem solid_endTag : Solid endTag := by decide

/-- The region starts after the first start tag and ends at an end tag that no other
follows. -/
theorem region?_eq_some_iff {code : Text} {r : Region} :
    region? code = some r ↔
      ∃ cut rest, startTag? code = some cut ∧ cut.after = r.body ++ endTag ++ rest ∧
        ¬ endTag <:+: rest ∧ r.head = cut.before ++ cut.found ∧ r.tail = endTag ++ rest := by
  unfold region?
  constructor
  · intro h
    split at h
    · exact absurd h (by simp)
    · rename_i cut hcut
      split at h
      · exact absurd h (by simp)
      · rename_i body rest hlast
        injection h with h
        subst h
        rw [endTag_eq, cutLast?_eq_some_iff (by decide)] at hlast
        exact ⟨cut, rest, hcut, hlast.1, hlast.2, rfl, rfl⟩
  · intro h
    obtain ⟨cut, rest, hcut, hafter, hlast, hhead, htail⟩ := h
    have : cutLast? endTag cut.after = some (r.body, rest) := by
      rw [endTag_eq, cutLast?_eq_some_iff (by decide)]
      exact ⟨hafter, hlast⟩
    rw [hcut]
    dsimp only
    rw [this]
    dsimp only
    rw [← hhead, ← htail]

/-- The body of a region can be replaced by any text without moving the region. -/
theorem region?_replace {code body : Text} {r : Region} (h : region? code = some r) :
    region? (r.head ++ body ++ r.tail) = some ⟨r.head, body, r.tail⟩ := by
  obtain ⟨cut, rest, hcut, _, hlast, hhead, htail⟩ := region?_eq_some_iff.mp h
  rw [region?_eq_some_iff]
  refine ⟨⟨cut.before, cut.found, body ++ endTag ++ rest⟩, rest, ?_, rfl, hlast, hhead, htail⟩
  rw [hhead, htail, ← startTag?_replace hcut]
  simp

/-- The head of a region ends with a closing bracket. -/
theorem region?_head_closes {code : Text} {r : Region} (h : region? code = some r) :
    r.head.getLast? = some '>' := by
  obtain ⟨cut, _, hcut, _, _, hhead, _⟩ := region?_eq_some_iff.mp h
  obtain ⟨g, hg, _⟩ := (startTag?_spec hcut).2.1.closing
  rw [hhead, hg]
  simp

/-- The tail of a region starts with an opening bracket. -/
theorem region?_tail_opens {code : Text} {r : Region} (h : region? code = some r) :
    r.tail.head? = some '<' := by
  obtain ⟨_, _, _, _, _, _, htail⟩ := region?_eq_some_iff.mp h
  rw [htail, endTag_eq]
  rfl

end Graft.Script
