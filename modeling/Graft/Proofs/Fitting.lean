import Graft.Text.Pattern
import Graft.Proofs.Words

/-!
# What it means to fit

`matchAt?` is a search: it takes runs as long as it can and gives characters back. The
steps that edit a script rely on something simpler, namely on which texts a pattern can
stand for at all. `Fits` says that, piece by piece and without any search, and the two
agree: what the search finds fits (`matchAt?_fits`), and where something fits the search
finds something (`matchAt?_isSome`).

A fit is a statement about a text in its place. What stands before it and after it
matters only to the pieces that look around, the edge of a word and the end of the text.

The search through a whole text then has a plain meaning too: what it finds fits where it
stands (`searchFrom?_fits`), nothing fits further to the left (`searchFrom?_leftmost`),
and it comes back empty-handed only where nothing fits at all (`searchFrom?_eq_none`).
Text in which nothing starts to fit can be put in front of the text that is searched, and
what is found stays the same (`search?_skip`).
-/

namespace Graft.Pattern

open Text

/-- A text fits a pattern, between the character before it and the text after it. -/
def Fits : Pattern → Option Char → Text → Text → Prop
  | [], _, w, _ => w = []
  | .one accepts :: p, _, w, after =>
    ∃ c v, w = c :: v ∧ accepts c = true ∧ Fits p (some c) v after
  | .many accepts :: p, before, w, after =>
    ∃ u v, w = u ++ v ∧ (∀ c ∈ u, accepts c = true) ∧ Fits p (u.getLast?.or before) v after
  | .edge :: p, before, w, after => isEdge before (w ++ after) = true ∧ Fits p before w after
  | .finish :: p, before, w, after => w ++ after = [] ∧ Fits p before w after

/-- The character before what follows a text: its last one, or the one before it. -/
theorem getLast?_cons_or (c : Char) (u : Text) (b : Option Char) :
    (c :: u).getLast?.or b = u.getLast?.or (some c) := by
  rw [List.getLast?_cons]
  cases u.getLast? <;> rfl

/-! ## The search and the fit agree -/

/-- What a run takes, and where what follows it starts. -/
theorem runThen_split {accepts : Char → Bool}
    {next : Option Char → Text → Option (Text × Text)} :
    ∀ {t : Text} {b : Option Char} {found after : Text},
      runThen accepts next b t = some (found, after) →
      ∃ u v rest, t = u ++ rest ∧ found = u ++ v ∧ (∀ c ∈ u, accepts c = true) ∧
        next (u.getLast?.or b) rest = some (v, after)
  | [], b, found, after, h => ⟨[], found, [], rfl, rfl, by simp, h⟩
  | c :: t, b, found, after, h => by
      rw [runThen] at h
      split at h
      · rename_i hc
        split at h
        · -- the longer run worked out, so the rest of the search has an answer to extend
          rename_i f a hrec
          injection h with h; injection h with hf ha
          subst hf; subst ha
          obtain ⟨u, v, rest, ht, hf, hu, hnext⟩ := runThen_split hrec
          refine ⟨c :: u, v, rest, by rw [ht]; rfl, by rw [hf]; rfl, ?_, ?_⟩
          · intro d hd
            rcases List.mem_cons.mp hd with hd | hd
            · exact hd ▸ hc
            · exact hu d hd
          · rw [getLast?_cons_or]; exact hnext
        · exact ⟨[], found, c :: t, rfl, rfl, by simp, h⟩
      · exact ⟨[], found, c :: t, rfl, rfl, by simp, h⟩

/-- A run is found wherever one of its lengths lets what follows it be found. -/
theorem runThen_isSome {accepts : Char → Bool}
    {next : Option Char → Text → Option (Text × Text)} :
    ∀ {u rest : Text} {b : Option Char}, (∀ c ∈ u, accepts c = true) →
      (next (u.getLast?.or b) rest).isSome → (runThen accepts next b (u ++ rest)).isSome
  | [], [], b, _, h => h
  | [], c :: rest, b, _, h => by
      -- a longer run is tried first; if that fails the run may still be empty
      rw [List.nil_append, runThen]
      split
      · split
        · rfl
        · exact h
      · exact h
  | c :: u, rest, b, hu, h => by
      have hc : accepts c = true := hu c (by simp)
      have hrec : (runThen accepts next (some c) (u ++ rest)).isSome := by
        refine runThen_isSome (fun d hd => hu d (by simp [hd])) ?_
        rw [getLast?_cons_or] at h
        exact h
      obtain ⟨r, hr⟩ := Option.isSome_iff_exists.mp hrec
      rw [List.cons_append, runThen, if_pos hc, hr]
      rfl

/-- What the search finds fits. -/
theorem matchAt?_fits : ∀ {p : Pattern} {b : Option Char} {t found after : Text},
    matchAt? p b t = some (found, after) → Fits p b found after
  | [], b, t, found, after, h => by
      simp only [matchAt?, Option.some.injEq, Prod.mk.injEq] at h
      exact h.1.symm
  | .one accepts :: p, b, [], found, after, h => by simp [matchAt?] at h
  | .one accepts :: p, b, c :: t, found, after, h => by
      rw [matchAt?] at h
      split at h
      · rename_i hc
        obtain ⟨⟨f, a⟩, hrec, he⟩ := Option.map_eq_some_iff.1 h
        simp only [Prod.mk.injEq] at he
        obtain ⟨rfl, rfl⟩ := he
        exact ⟨c, f, rfl, hc, matchAt?_fits hrec⟩
      · exact absurd h (by simp)
  | .many accepts :: p, b, t, found, after, h => by
      rw [matchAt?] at h
      obtain ⟨u, v, rest, _, hf, hu, hnext⟩ := runThen_split h
      exact ⟨u, v, hf, hu, matchAt?_fits hnext⟩
  | .edge :: p, b, t, found, after, h => by
      rw [matchAt?] at h
      split at h
      · rename_i he
        refine ⟨?_, matchAt?_fits h⟩
        rw [matchAt?_eq_some h]
        exact he
      · exact absurd h (by simp)
  | .finish :: p, b, t, found, after, h => by
      rw [matchAt?] at h
      split at h
      · rename_i he
        refine ⟨?_, matchAt?_fits h⟩
        rw [matchAt?_eq_some h]
        exact List.isEmpty_iff.mp he
      · exact absurd h (by simp)

/-- Where something fits, the search finds something. -/
theorem matchAt?_isSome : ∀ {p : Pattern} {b : Option Char} {w after : Text},
    Fits p b w after → (matchAt? p b (w ++ after)).isSome
  | [], b, w, after, _ => rfl
  | .one accepts :: p, b, w, after, h => by
      obtain ⟨c, v, rfl, hc, hv⟩ := h
      rw [List.cons_append, matchAt?, if_pos hc, Option.isSome_map]
      exact matchAt?_isSome hv
  | .many accepts :: p, b, w, after, h => by
      obtain ⟨u, v, rfl, hu, hv⟩ := h
      rw [matchAt?, List.append_assoc]
      exact runThen_isSome hu (matchAt?_isSome hv)
  | .edge :: p, b, w, after, h => by
      rw [matchAt?, if_pos h.1]
      exact matchAt?_isSome h.2
  | .finish :: p, b, w, after, h => by
      rw [matchAt?, if_pos (List.isEmpty_iff.mpr h.1)]
      exact matchAt?_isSome h.2

/-! ## Patterns put together -/

/-- A text fits two patterns in a row when it falls into two parts that fit them. -/
theorem fits_append : ∀ {p q : Pattern} {b : Option Char} {w after : Text},
    Fits (p ++ q) b w after ↔
      ∃ u v, w = u ++ v ∧ Fits p b u (v ++ after) ∧ Fits q (u.getLast?.or b) v after
  | [], q, b, w, after => by
      constructor
      · intro h
        exact ⟨[], w, rfl, rfl, h⟩
      · intro h
        obtain ⟨u, v, rfl, rfl, hq⟩ := h
        exact hq
  | .one accepts :: p, q, b, w, after => by
      constructor
      · intro h
        obtain ⟨c, t, rfl, hc, ht⟩ := h
        obtain ⟨u, v, rfl, hp, hq⟩ := fits_append.mp ht
        exact ⟨c :: u, v, rfl, ⟨c, u, rfl, hc, hp⟩, by rw [getLast?_cons_or]; exact hq⟩
      · intro h
        obtain ⟨u, v, rfl, ⟨c, t, rfl, hc, ht⟩, hq⟩ := h
        rw [getLast?_cons_or] at hq
        exact ⟨c, t ++ v, rfl, hc, fits_append.mpr ⟨t, v, rfl, ht, hq⟩⟩
  | .many accepts :: p, q, b, w, after => by
      constructor
      · intro h
        obtain ⟨r, t, rfl, hr, ht⟩ := h
        obtain ⟨u, v, rfl, hp, hq⟩ := fits_append.mp ht
        refine ⟨r ++ u, v, by simp, ⟨r, u, rfl, hr, hp⟩, ?_⟩
        rw [List.getLast?_append, Option.or_assoc]
        exact hq
      · intro h
        obtain ⟨u, v, rfl, ⟨r, t, rfl, hr, ht⟩, hq⟩ := h
        rw [List.getLast?_append, Option.or_assoc] at hq
        exact ⟨r, t ++ v, by simp, hr, fits_append.mpr ⟨t, v, rfl, ht, hq⟩⟩
  | .edge :: p, q, b, w, after => by
      constructor
      · intro h
        obtain ⟨he, ht⟩ := h
        obtain ⟨u, v, rfl, hp, hq⟩ := fits_append.mp ht
        exact ⟨u, v, rfl, ⟨by rw [← List.append_assoc]; exact he, hp⟩, hq⟩
      · intro h
        obtain ⟨u, v, rfl, ⟨he, hp⟩, hq⟩ := h
        exact ⟨by rw [List.append_assoc]; exact he, fits_append.mpr ⟨u, v, rfl, hp, hq⟩⟩
  | .finish :: p, q, b, w, after => by
      constructor
      · intro h
        obtain ⟨he, ht⟩ := h
        obtain ⟨u, v, rfl, hp, hq⟩ := fits_append.mp ht
        exact ⟨u, v, rfl, ⟨by rw [← List.append_assoc]; exact he, hp⟩, hq⟩
      · intro h
        obtain ⟨u, v, rfl, ⟨he, hp⟩, hq⟩ := h
        exact ⟨by rw [List.append_assoc]; exact he, fits_append.mpr ⟨u, v, rfl, hp, hq⟩⟩

/-- Characters that have to stand as they are do. -/
@[simp] theorem fits_exactly : ∀ {t : Text} {b : Option Char} {w after : Text},
    Fits (exactly t) b w after ↔ w = t
  | [], b, w, after => Iff.rfl
  | c :: t, b, w, after => by
      constructor
      · intro h
        obtain ⟨d, v, rfl, hd, hv⟩ := h
        rw [fits_exactly.mp hv, beq_iff_eq.mp hd]
      · rintro rfl
        exact ⟨c, t, rfl, by simp, fits_exactly.mpr rfl⟩

/-- What a pattern ends with, every text that fits it ends with. -/
theorem Fits.ends_with {p : Pattern} {t : Text} {b : Option Char} {w after : Text}
    (h : Fits (p ++ exactly t) b w after) : ∃ x, w = x ++ t := by
  obtain ⟨x, _, he, _, hv⟩ := fits_append.mp h
  rw [fits_exactly.mp hv] at he
  exact ⟨x, he⟩

@[simp] theorem fits_many {accepts : Char → Bool} {b : Option Char} {w after : Text} :
    Fits [.many accepts] b w after ↔ ∀ c ∈ w, accepts c = true := by
  constructor
  · intro h
    obtain ⟨u, v, rfl, hu, rfl⟩ := h
    rw [List.append_nil]
    exact hu
  · intro h
    exact ⟨w, [], by simp, h, rfl⟩

@[simp] theorem fits_blanks {b : Option Char} {w after : Text} :
    Fits blanks b w after ↔ ∀ c ∈ w, isBlank c = true := fits_many

theorem fits_several {accepts : Char → Bool} {b : Option Char} {w after : Text} :
    Fits [.one accepts, .many accepts] b w after ↔ w ≠ [] ∧ ∀ c ∈ w, accepts c = true := by
  constructor
  · rintro ⟨c, ws, rfl, hc, hws⟩
    exact ⟨by simp, List.forall_mem_cons.mpr ⟨hc, fits_many.mp hws⟩⟩
  · rintro ⟨hne, hw⟩
    obtain ⟨c, ws, rfl⟩ := List.exists_cons_of_ne_nil hne
    obtain ⟨hc, hws⟩ := List.forall_mem_cons.mp hw
    exact ⟨c, ws, rfl, hc, fits_many.mpr hws⟩

@[simp] theorem fits_spacing {b : Option Char} {w after : Text} :
    Fits spacing b w after ↔ w ≠ [] ∧ ∀ c ∈ w, isBlank c = true := fits_several

@[simp] theorem fits_edge {p : Pattern} {b : Option Char} {w after : Text} :
    Fits (.edge :: p) b w after ↔ isEdge b (w ++ after) = true ∧ Fits p b w after := Iff.rfl

@[simp] theorem fits_finish {b : Option Char} {w after : Text} :
    Fits [.finish] b w after ↔ w = [] ∧ after = [] := by
  constructor
  · intro h
    obtain ⟨h, rfl⟩ := h
    exact ⟨rfl, h⟩
  · intro h
    obtain ⟨rfl, rfl⟩ := h
    exact ⟨rfl, rfl⟩

/-! ## Searching a whole text -/

theorem matchAny?_fits {patterns : List Pattern} {b : Option Char} {t found after : Text}
    (h : matchAny? patterns b t = some (found, after)) :
    ∃ p ∈ patterns, Fits p b found after := by
  obtain ⟨p, hp, hm⟩ := List.exists_of_findSome?_eq_some h
  exact ⟨p, hp, matchAt?_fits hm⟩

theorem matchAny?_eq_none {patterns : List Pattern} {b : Option Char} {w after : Text}
    (h : matchAny? patterns b (w ++ after) = none) :
    ∀ p ∈ patterns, ¬ Fits p b w after := by
  intro p hp hf
  have hm := matchAt?_isSome hf
  rw [List.findSome?_eq_none_iff.mp h p hp] at hm
  exact absurd hm (by simp)

/-- What the search finds fits where it stands. -/
theorem searchFrom?_fits {patterns : List Pattern} :
    ∀ {t : Text} {b : Option Char} {cut : Cut}, searchFrom? patterns b t = some cut →
      ∃ p ∈ patterns, Fits p (cut.before.getLast?.or b) cut.found cut.after
  | [], b, cut, h => by
      obtain ⟨⟨f, a⟩, hm, rfl⟩ := Option.map_eq_some_iff.1 h
      exact matchAny?_fits hm
  | c :: t, b, cut, h => by
      rw [searchFrom?] at h
      split at h
      · rename_i f a hm
        injection h with h
        subst h
        exact matchAny?_fits hm
      · obtain ⟨inner, hi, rfl⟩ := Option.map_eq_some_iff.1 h
        obtain ⟨p, hp, hf⟩ := searchFrom?_fits hi
        exact ⟨p, hp, by rw [getLast?_cons_or]; exact hf⟩

/-- Nothing fits to the left of what the search finds. -/
theorem searchFrom?_leftmost {patterns : List Pattern} :
    ∀ {t : Text} {b : Option Char} {cut : Cut}, searchFrom? patterns b t = some cut →
      ∀ {x y w after : Text}, cut.before = x ++ y → y ≠ [] →
        y ++ cut.found ++ cut.after = w ++ after →
        ∀ p ∈ patterns, ¬ Fits p (x.getLast?.or b) w after
  | [], b, cut, h, x, y, w, after, hx, hy, _ => by
      obtain ⟨⟨f, a⟩, _, rfl⟩ := Option.map_eq_some_iff.1 h
      exact absurd (List.append_eq_nil_iff.mp hx.symm).2 hy
  | c :: t, b, cut, h, x, y, w, after, hx, hy, hw => by
      rw [searchFrom?] at h
      split at h
      · injection h with h
        subst h
        exact absurd (List.append_eq_nil_iff.mp hx.symm).2 hy
      · rename_i hnone
        obtain ⟨inner, hi, rfl⟩ := Option.map_eq_some_iff.1 h
        cases x with
        | nil =>
            -- the place is the very start, where the search already looked
            have ht : c :: t = w ++ after := by
              rw [← hw, ← searchFrom?_eq_some hi]
              simp only [List.nil_append] at hx
              simp [← hx]
            rw [ht] at hnone
            exact matchAny?_eq_none hnone
        | cons d x =>
            simp only [List.cons_append, List.cons.injEq] at hx
            obtain ⟨rfl, hx⟩ := hx
            rw [getLast?_cons_or]
            exact searchFrom?_leftmost hi hx hy hw

/-- A search that finds nothing passed over nothing. -/
theorem searchFrom?_eq_none {patterns : List Pattern} :
    ∀ {t : Text} {b : Option Char}, searchFrom? patterns b t = none →
      ∀ {x w after : Text}, t = x ++ (w ++ after) →
        ∀ p ∈ patterns, ¬ Fits p (x.getLast?.or b) w after
  | [], b, h, x, w, after, ht => by
      obtain ⟨rfl, hw⟩ := List.append_eq_nil_iff.mp ht.symm
      refine matchAny?_eq_none ?_
      rw [hw]
      exact Option.map_eq_none_iff.mp h
  | c :: t, b, h, x, w, after, ht => by
      rw [searchFrom?] at h
      split at h
      · exact absurd h (by simp)
      · rename_i hnone
        cases x with
        | nil =>
            rw [ht] at hnone
            exact matchAny?_eq_none hnone
        | cons d x =>
            simp only [List.cons_append, List.cons.injEq] at ht
            obtain ⟨rfl, ht⟩ := ht
            rw [getLast?_cons_or]
            exact searchFrom?_eq_none (Option.map_eq_none_iff.mp h) ht

/-- What fits with nothing to its left, and as nothing else does in its place, is what the
search finds. -/
theorem search?_eq_some_of {patterns : List Pattern} {p : Pattern} {before found after : Text}
    (hp : p ∈ patterns) (hfit : Fits p before.getLast? found after)
    (hleft : ∀ x y w rest, before = x ++ y → y ≠ [] → y ++ found ++ after = w ++ rest →
      ∀ q ∈ patterns, ¬ Fits q x.getLast? w rest)
    (hunique : ∀ w rest, found ++ after = w ++ rest →
      ∀ q ∈ patterns, Fits q before.getLast? w rest → w = found) :
    search? patterns (before ++ found ++ after) = some ⟨before, found, after⟩ := by
  cases hs : search? patterns (before ++ found ++ after) with
  | none =>
      refine absurd ?_ (searchFrom?_eq_none hs (List.append_assoc before found after) p hp)
      rw [Option.or_none]
      exact hfit
  | some cut =>
      obtain ⟨b, f, a⟩ := cut
      obtain ⟨q, hq, hfit'⟩ := searchFrom?_fits hs
      have he := search?_eq_some hs
      dsimp only at he hfit'
      rw [Option.or_none] at hfit'
      rw [List.append_assoc, List.append_assoc] at he
      -- both stand at the same place, or one of them stands to the left of the other
      rcases List.append_eq_append_iff.mp he with ⟨x, rfl, hx⟩ | ⟨x, rfl, hx⟩
      · cases x with
        | nil =>
            rw [List.nil_append] at hx
            rw [List.append_nil] at hunique ⊢
            obtain rfl := hunique f a hx.symm q hq hfit'
            rw [List.append_cancel_left hx]
        | cons d x =>
            refine absurd hfit' (hleft b (d :: x) f a rfl (by simp) ?_ q hq)
            rw [List.append_assoc]
            exact hx.symm
      · cases x with
        | nil =>
            rw [List.append_nil] at hfit' ⊢
            rw [List.nil_append] at hx
            obtain rfl := hunique f a hx q hq hfit'
            rw [List.append_cancel_left hx]
        | cons d x =>
            have hplace : d :: x ++ f ++ a = found ++ after := by
              rw [List.append_assoc]
              exact hx.symm
            have hnone := searchFrom?_leftmost hs rfl (by simp) hplace p hp
            rw [Option.or_none] at hnone
            exact absurd hfit hnone

/-- A pattern occurs exactly where some part of the text fits it. -/
theorem occurs_iff {patterns : List Pattern} {t : Text} :
    occurs patterns t = true ↔
      ∃ x w after, t = x ++ (w ++ after) ∧ ∃ p ∈ patterns, Fits p x.getLast? w after := by
  constructor
  · intro h
    obtain ⟨cut, hcut⟩ := Option.isSome_iff_exists.mp h
    obtain ⟨p, hp, hf⟩ := searchFrom?_fits hcut
    rw [Option.or_none] at hf
    exact ⟨cut.before, cut.found, cut.after, by rw [← search?_eq_some hcut]; simp, p, hp, hf⟩
  · intro h
    obtain ⟨x, w, after, rfl, p, hp, hf⟩ := h
    rw [occurs, Option.isSome_iff_ne_none]
    intro hnone
    refine searchFrom?_eq_none hnone rfl p hp ?_
    rw [Option.or_none]
    exact hf

/-! ## What stands in front -/

/-- Of the character before, only whether it is a word character matters. -/
theorem runThen_congr {accepts : Char → Bool} {next : Option Char → Text → Option (Text × Text)}
    {b b' : Option Char} (hnext : ∀ t, next b t = next b' t) (t : Text) :
    runThen accepts next b t = runThen accepts next b' t := by
  cases t with
  | nil => exact hnext []
  | cons c t => rw [runThen, runThen, hnext]

theorem matchAt?_congr : ∀ {p : Pattern} {b b' : Option Char}, b.any isWord = b'.any isWord →
    ∀ t, matchAt? p b t = matchAt? p b' t
  | [], b, b', _, t => rfl
  | .one accepts :: p, b, b', _, [] => rfl
  | .one accepts :: p, b, b', _, c :: t => rfl
  | .many accepts :: p, b, b', h, t => by
      rw [matchAt?, matchAt?]
      exact runThen_congr (matchAt?_congr h) t
  | .edge :: p, b, b', h, t => by
      rw [matchAt?, matchAt?, isEdge, isEdge, h, matchAt?_congr h]
  | .finish :: p, b, b', h, t => by
      rw [matchAt?, matchAt?, matchAt?_congr h]

theorem searchFrom?_congr {patterns : List Pattern} {b b' : Option Char}
    (h : b.any isWord = b'.any isWord) (t : Text) :
    searchFrom? patterns b t = searchFrom? patterns b' t := by
  have hany : ∀ t, matchAny? patterns b t = matchAny? patterns b' t := by
    intro t
    unfold matchAny?
    simp only [matchAt?_congr h]
  cases t with
  | nil => rw [searchFrom?, searchFrom?, hany]
  | cons c t => rw [searchFrom?, searchFrom?, hany]

/-- The pattern fits nowhere in a text that starts in the first of two. -/
def Silent (p : Pattern) (front rest : Text) : Prop :=
  ∀ y, y <:+ front → y ≠ [] → ∀ b w after, y ++ rest = w ++ after → ¬ Fits p b w after

theorem silent_append {p : Pattern} {a b rest : Text} (ha : Silent p a (b ++ rest))
    (hb : Silent p b rest) : Silent p (a ++ b) rest := by
  intro y hy hne
  rcases suffix_append_cases hy with hy | ⟨z, hz, hza, rfl⟩
  · exact hb y hy hne
  · rw [List.append_assoc]
    exact ha z hza hz

/-- A pattern is silent in a text without the characters that a fit can start with. -/
theorem silent_of_heads {p : Pattern} {f : Char → Bool}
    (hp : ∀ b w after, Fits p b w after → w.head?.any f = true) {front rest : Text}
    (hfront : ∀ c ∈ front, f c = false) : Silent p front rest := by
  rintro y hsuffix hy b w after he hf
  cases y with
  | nil => exact hy rfl
  | cons c y =>
      have hhead := hp b w after hf
      cases w with
      | nil => exact absurd hhead (by simp)
      | cons d w =>
          injection he with hcd _
          have hc := hfront c (hsuffix.subset (by simp))
          rw [hcd] at hc
          rw [List.head?_cons, Option.any_some, hc] at hhead
          exact absurd hhead (by simp)

/-- Every fit is a word, then blanks, then a given character. Where that character could go
on with the word there is a blank between them. -/
def Leads (p : Pattern) (word : Text) (d : Char) : Prop :=
  ∀ b w after, Fits p b w after → ∃ ws v, (∀ c ∈ ws, isBlank c = true) ∧
    w = word ++ ws ++ d :: v ∧ (isWord d = true → ws ≠ [])

theorem Leads.append {p : Pattern} {word : Text} {d : Char} (h : Leads p word d) (q : Pattern) :
    Leads (p ++ q) word d := by
  intro b w after hf
  obtain ⟨u, v, rfl, hu, _⟩ := fits_append.mp hf
  obtain ⟨ws, x, hws, rfl, hgap⟩ := h b u _ hu
  exact ⟨ws, x ++ v, hws, by simp, hgap⟩

theorem Leads.edge {p : Pattern} {word : Text} {d : Char} (h : Leads p word d) :
    Leads (.edge :: p) word d :=
  fun b w after hf => h b w after hf.2

theorem leads_blanks {word : Text} {d : Char} (hd : isWord d = false) :
    Leads (exactly word ++ blanks ++ exactly [d]) word d := by
  intro b w after hf
  simp only [fits_append, fits_exactly, fits_blanks] at hf
  obtain ⟨_, _, rfl, ⟨_, ws, rfl, rfl, hws⟩, rfl⟩ := hf
  refine ⟨ws, [], hws, rfl, fun h => ?_⟩
  rw [hd] at h
  exact absurd h (by simp)

theorem leads_spacing {word t : Text} {d : Char} :
    Leads (exactly word ++ spacing ++ exactly (d :: t)) word d := by
  intro b w after hf
  simp only [fits_append, fits_exactly] at hf
  obtain ⟨_, _, rfl, ⟨_, ws, rfl, rfl, c, v, rfl, hc, hv⟩, rfl⟩ := hf
  rw [fits_many] at hv
  exact ⟨c :: v, t, by simpa using ⟨hc, hv⟩, rfl, fun _ => by simp⟩

/-- What blanks and a character start with is that character or a blank. -/
theorem blanks_append_cases {c d : Char} {rest ws x : Text} (hws : ∀ e ∈ ws, isBlank e = true)
    (h : c :: rest = ws ++ d :: x) :
    c = d ∨ isBlank c = true ∧ ∃ ws', (∀ e ∈ ws', isBlank e = true) ∧ rest = ws' ++ d :: x := by
  cases ws with
  | nil =>
      injection h with h _
      exact Or.inl h
  | cons e ws =>
      injection h with h hrest
      exact Or.inr ⟨h ▸ hws e (by simp), ws, fun e' he => hws e' (by simp [he]), hrest⟩

/-- Such a pattern is silent in a run that has neither a blank nor the given character, if
what comes behind the run is not what comes behind the word. -/
theorem Leads.silent {p : Pattern} {word run rest : Text} {c d : Char} (hp : Leads p word d)
    (hrun : ∀ e ∈ run, isBlank e = false) (hd : isWord d = false → d ∉ run) (hc : c ∉ word)
    (hrest : ∀ ws x, (∀ e ∈ ws, isBlank e = true) → c :: rest ≠ ws ++ d :: x) :
    Silent p run (c :: rest) := by
  intro y hy _ b w after he hf
  obtain ⟨ws, v, hws, rfl, hgap⟩ := hp b w after hf
  cases ws with
  | nil =>
      have hword : isWord d = false := by
        cases hw : isWord d with
        | false => rfl
        | true => exact absurd rfl (hgap hw)
      have hcut : word ++ d :: (v ++ after) = y ++ c :: rest := by simp [he]
      obtain ⟨_, rfl, rfl⟩ := append_cons_inj hc (fun hm => hd hword (hy.subset hm)) hcut
      exact hrest [] (v ++ after) (by simp) rfl
  | cons e ws =>
      have hblank : e ∉ y := by
        intro hm
        have := hrun e (hy.subset hm)
        rw [hws e (by simp)] at this
        exact absurd this (by simp)
      have hcut : word ++ e :: (ws ++ d :: (v ++ after)) = y ++ c :: rest := by simp [he]
      obtain ⟨_, rfl, rfl⟩ := append_cons_inj hc hblank hcut
      exact hrest (e :: ws) (v ++ after) hws rfl

/-- Silent text in front is passed over. -/
theorem searchFrom?_skip {patterns : List Pattern} {rest : Text} : ∀ {front : Text}
    {b : Option Char}, (∀ p ∈ patterns, Silent p front rest) →
      searchFrom? patterns b (front ++ rest) =
        (searchFrom? patterns (front.getLast?.or b) rest).map
          fun cut => { cut with before := front ++ cut.before }
  | [], b, _ => by
      rw [List.nil_append, List.getLast?_nil, Option.none_or]
      cases searchFrom? patterns b rest with
      | none => rfl
      | some cut => rfl
  | c :: front, b, h => by
      have hnone : matchAny? patterns b (c :: (front ++ rest)) = none := by
        cases hm : matchAny? patterns b (c :: (front ++ rest)) with
        | none => rfl
        | some r =>
            obtain ⟨w, after⟩ := r
            obtain ⟨p, hp, hf⟩ := matchAny?_fits hm
            exact absurd hf (h p hp (c :: front) (List.suffix_refl _) (by simp) b w after
              (matchAny?_eq_some hm).symm)
      have htail : ∀ p ∈ patterns, Silent p front rest :=
        fun p hp y hy => h p hp y (hy.trans (List.suffix_cons c front))
      rw [List.cons_append, searchFrom?, hnone, searchFrom?_skip htail, getLast?_cons_or]
      dsimp only
      rw [Option.map_map]
      rfl

/-- **Silent text in front changes nothing**, if it does not end within a word. -/
theorem search?_skip {patterns : List Pattern} {front rest : Text}
    (h : ∀ p ∈ patterns, Silent p front rest) (hend : front.getLast?.any isWord = false) :
    search? patterns (front ++ rest) =
      (search? patterns rest).map fun cut => { cut with before := front ++ cut.before } := by
  have hsame : searchFrom? patterns front.getLast? rest = searchFrom? patterns none rest :=
    searchFrom?_congr hend rest
  rw [search?, searchFrom?_skip h, Option.or_none, hsame]
  rfl

theorem occurs_skip {patterns : List Pattern} {front rest : Text}
    (h : ∀ p ∈ patterns, Silent p front rest) (hend : front.getLast?.any isWord = false) :
    occurs patterns (front ++ rest) = occurs patterns rest := by
  rw [occurs, search?_skip h hend, Option.isSome_map]
  rfl

end Graft.Pattern
