import Graft.Proofs.Words
import Mathlib.Data.List.Infix

/-!
# Where a marker stands

A search returns what stands on either side of a marker, and a promise about a document is made
in offsets. A marker stands at an offset if it is a prefix of the text from there on; `FirstAt` and
`LastAt` say that it stands at no earlier or at no later one. The two ways of speaking agree:
the search for the first marker cuts the text at the offset of the first (`FirstAt.cut?_eq`), and
the search for the last one at that of the last (`lastAt_of_cutLast?`).

What follows the first marker can be exchanged without moving it, and so can what stands in front
of the last one (`FirstAt.replace`, `LastAt.replace`). A piece that is put in at an offset can be
taken out there again (`excise_splice`).
-/

namespace Graft.Text

/-! ## Offsets -/

/-- A marker stands in a text at an offset and at no earlier one. -/
structure FirstAt (marker t : Text) (i : Nat) : Prop where
  /-- It stands there. -/
  here : marker <+: t.drop i
  /-- It does not stand before. -/
  first : ∀ j < i, ¬ marker <+: t.drop j

/-- A marker stands in a text at an offset and at no later one. -/
structure LastAt (marker t : Text) (i : Nat) : Prop where
  /-- It stands there. -/
  here : marker <+: t.drop i
  /-- It does not stand after that. -/
  last : ∀ j, i < j → ¬ marker <+: t.drop j

/-- The marker and what follows it stand where the marker does. -/
theorem drop_eq_of_prefix {marker t : Text} {i : Nat} (h : marker <+: t.drop i) :
    t.drop i = marker ++ t.drop (i + marker.length) := by
  obtain ⟨rest, hrest⟩ := h
  have hdrop : t.drop (i + marker.length) = rest := by
    rw [← List.drop_drop, ← hrest, List.drop_left]
  rw [hdrop, hrest]

/-- Whether a marker stands at an offset before which nothing was left out is decided by the text
up to the end of the marker. -/
theorem firstAt_append {marker front rest : Text} :
    FirstAt marker (front ++ marker ++ rest) front.length ↔
      ∀ j < front.length, ¬ marker <+: (front ++ marker).drop j := by
  have hplace : ∀ j < front.length,
      (marker <+: (front ++ marker ++ rest).drop j ↔ marker <+: (front ++ marker).drop j) := by
    intro j hj
    have hle : j ≤ (front ++ marker).length := by
      rw [List.length_append]
      omega
    rw [List.drop_append_of_le_length hle]
    refine List.isPrefix_append_of_length ?_
    rw [List.length_drop, List.length_append]
    omega
  constructor
  · intro h j hj
    rw [← hplace j hj]
    exact h.first j hj
  · intro h
    refine ⟨?_, fun j hj => ?_⟩
    · rw [List.append_assoc, List.drop_left]
      exact List.prefix_append marker rest
    · rw [hplace j hj]
      exact h j hj

/-- A character stands first behind a text without it. -/
theorem firstAt_char {c : Char} {front : Text} (h : c ∉ front) (rest : Text) :
    FirstAt [c] (front ++ c :: rest) front.length := by
  have hrest : front ++ c :: rest = front ++ [c] ++ rest := by simp
  rw [hrest, firstAt_append]
  intro j hj hin
  rw [List.drop_append_of_le_length (by omega), List.drop_eq_getElem_cons hj] at hin
  obtain ⟨hc, _⟩ := List.cons_prefix_cons.mp hin
  exact h (hc ▸ List.getElem_mem hj)

theorem FirstAt.le_length {marker t : Text} {i : Nat} (h : FirstAt marker t i) :
    i ≤ t.length := by
  by_contra hlt
  -- nothing stands behind the end of the text, and then the end is an earlier place
  have hnil : t.drop i = t.drop t.length := by
    rw [List.drop_length, List.drop_eq_nil_of_le (by omega)]
  exact h.first t.length (by omega) (hnil ▸ h.here)

theorem FirstAt.split {marker t : Text} {i : Nat} (h : FirstAt marker t i) :
    t.take i ++ marker ++ t.drop (i + marker.length) = t := by
  rw [List.append_assoc, ← drop_eq_of_prefix h.here, List.take_append_drop]

/-- The first marker stays the first whatever follows it. -/
theorem FirstAt.replace {marker t : Text} {i : Nat} (h : FirstAt marker t i) (rest : Text) :
    FirstAt marker (t.take i ++ marker ++ rest) i := by
  have hlen : (t.take i).length = i := List.length_take_of_le h.le_length
  have hfront : FirstAt marker (t.take i ++ marker ++ t.drop (i + marker.length))
      (t.take i).length := by
    rw [hlen, h.split]
    exact h
  have hnew : FirstAt marker (t.take i ++ marker ++ rest) (t.take i).length :=
    firstAt_append.mpr (firstAt_append.mp hfront)
  rw [hlen] at hnew
  exact hnew

/-- The last marker stays the last whatever stands before it. -/
theorem LastAt.replace {marker t : Text} {i : Nat} (h : LastAt marker t i) (front : Text) :
    LastAt marker (front ++ t.drop i) front.length := by
  refine ⟨by rw [List.drop_left]; exact h.here, fun j hj => ?_⟩
  obtain ⟨k, rfl⟩ : ∃ k, j = front.length + k := ⟨j - front.length, by omega⟩
  rw [← List.drop_drop, List.drop_left, List.drop_drop]
  exact h.last _ (by omega)

/-- The search for the first marker cuts the text at its offset. -/
theorem FirstAt.cut?_eq {marker t : Text} {i : Nat} (h : FirstAt marker t i) :
    cut? marker t = some (t.take i, t.drop (i + marker.length)) := by
  cases hcut : cut? marker t with
  | none => exact absurd ⟨_, _, h.split⟩ (cut?_eq_none.mp hcut)
  | some sides =>
      obtain ⟨before, after⟩ := sides
      have ht := cut?_eq_some hcut
      -- neither of the two places stands before the other
      have hle : before.length ≤ i :=
        (cut?_first hcut h.split.symm).trans (List.length_take_le i t)
      have hge : ¬ before.length < i := by
        intro hlt
        refine h.first _ hlt ⟨after, ?_⟩
        rw [← ht, List.append_assoc, List.drop_left]
      have hlen : before.length = i := by omega
      have hbefore : t.take i = before := by
        rw [← ht, List.append_assoc, List.take_left' hlen]
      have hafter : t.drop (i + marker.length) = after := by
        rw [← ht, List.drop_left' (by rw [List.length_append, hlen])]
      rw [hbefore, hafter]

/-- Nothing stands behind the end of a text. -/
theorem lt_length_of_prefix_drop {marker t : Text} {i : Nat} (hmarker : marker ≠ [])
    (h : marker <+: t.drop i) : i < t.length := by
  by_contra hge
  rw [List.drop_eq_nil_of_le (by omega)] at h
  exact hmarker (List.prefix_nil.mp h)

theorem LastAt.le_length {marker t : Text} {i : Nat} (h : LastAt marker t i)
    (hmarker : marker ≠ []) : i ≤ t.length := by
  have hlt := lt_length_of_prefix_drop hmarker h.here
  omega

/-- Only offsets within the text have to be looked at. -/
theorem lastAt_iff {marker t : Text} {i : Nat} (hmarker : marker ≠ []) :
    LastAt marker t i ↔
      marker <+: t.drop i ∧ ∀ j < t.length, i < j → ¬ marker <+: t.drop j := by
  constructor
  · intro h
    exact ⟨h.here, fun j _ => h.last j⟩
  · rintro ⟨hhere, hlast⟩
    refine ⟨hhere, fun j hj hin => ?_⟩
    exact hlast j (lt_length_of_prefix_drop hmarker hin) hj hin

/-- After the last marker the text does not hold it any more. -/
theorem LastAt.not_infix {marker t : Text} {i : Nat} (h : LastAt marker t i)
    (hmarker : marker ≠ []) : ¬ marker <:+: t.drop (i + marker.length) := by
  rintro ⟨a, b, hab⟩
  have hpos : 0 < marker.length := List.length_pos_of_ne_nil hmarker
  refine h.last (i + marker.length + a.length) (by omega) ⟨b, ?_⟩
  rw [← List.drop_drop, ← hab, List.append_assoc, List.drop_left]

/-- The search for the last marker cuts the text at its offset. -/
theorem lastAt_of_cutLast? {marker t before after : Text} (hmarker : marker ≠ [])
    (h : cutLast? marker t = some (before, after)) : LastAt marker t before.length := by
  have ht : before ++ (marker ++ after) = t := by
    rw [← List.append_assoc]
    exact cutLast?_eq_some h
  refine ⟨by rw [← ht, List.drop_left]; exact List.prefix_append marker after, fun j hj hin => ?_⟩
  -- a later marker would start behind the first character of the one that was found
  obtain ⟨k, rfl⟩ : ∃ k, j = before.length + (1 + k) := ⟨j - before.length - 1, by omega⟩
  rw [← ht, ← List.drop_drop, List.drop_left, ← List.drop_drop, List.drop_one] at hin
  exact cutLast?_last hmarker h (hin.isInfix.trans (List.drop_suffix k _).isInfix)

/-! ## Putting in and taking out -/

/-- The text with a piece put in at an offset. -/
def splice (t : Text) (i : Nat) (piece : Text) : Text := t.take i ++ piece ++ t.drop i

/-- The text with so many characters taken out at an offset. -/
def excise (t : Text) (i n : Nat) : Text := t.take i ++ t.drop (i + n)

/-- What was put in can be taken out again. -/
theorem excise_splice {t piece : Text} {i : Nat} (hi : i ≤ t.length) :
    excise (splice t i piece) i piece.length = t := by
  have hlen : (t.take i).length = i := List.length_take_of_le hi
  unfold excise splice
  rw [List.append_assoc, List.take_left' hlen, ← List.append_assoc,
    List.drop_left' (by rw [List.length_append, hlen]), List.take_append_drop]

theorem splice_append {front rest piece : Text} {i : Nat} (h : front.length = i) :
    splice (front ++ rest) i piece = front ++ piece ++ rest := by
  unfold splice
  rw [List.take_left' h, List.drop_left' h]

end Graft.Text
