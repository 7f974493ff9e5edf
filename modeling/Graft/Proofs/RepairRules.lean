import Graft.Script.Repair
import Graft.Proofs.Fitting

/-!
# What the rules of a repair do

A rule looks through the whole body of a script for its shape, with nothing but blanks behind
it. Since a text is cut before the blanks at its end in one way only, the shape can stand in one
place only, and what the rule does can be said without a search: the shape that stands before
the blanks at the end is exchanged for its replacement (`Rule.mend?_eq_some_iff`).

The shapes are short, so their place can be told by the end of the body alone. A rule about a
comma asks for the last character that is no blank and for the one or two before it; the rule
about a brace asks for the last one and counts (`Rule.mend?_comma`, `Rule.mend?_extraClose`). Put
together, a repair is a handful of questions about the end of the body (`byEnding`), and the
question that is asked first, whether the body ends in a comma or a brace, is already among them
(`repair_by_ending`).
-/

namespace Graft.Script.Repair

open Text

/-! ## Shapes -/

/-- The texts that a rule looks for. -/
def Rule.Shaped : Rule → Text → Prop
  | .doubledClose, u => ∃ ws, (∀ c ∈ ws, isBlank c = true) ∧ u = ['}', ','] ++ ws ++ ['}']
  | .commaBeforeClose, u => ∃ ws, (∀ c ∈ ws, isBlank c = true) ∧ u = [','] ++ ws ++ ['}']
  | .commaAfterClose, u => ∃ ws, (∀ c ∈ ws, isBlank c = true) ∧ u = ['}'] ++ ws ++ [',']
  | .extraClose, u => u = ['}']

theorem Rule.fits_shape {rule : Rule} {b : Option Char} {u after : Text} :
    Pattern.Fits rule.shape b u after ↔ rule.Shaped u := by
  cases rule with
  | extraClose => exact Pattern.fits_exactly
  | doubledClose | commaBeforeClose | commaAfterClose =>
      simp only [shape, Shaped, Pattern.fits_append, Pattern.fits_exactly, Pattern.fits_blanks]
      constructor
      · rintro ⟨_, _, rfl, ⟨_, ws, rfl, rfl, hws⟩, rfl⟩
        exact ⟨ws, hws, rfl⟩
      · rintro ⟨ws, hws, rfl⟩
        exact ⟨_, _, rfl, ⟨_, ws, rfl, rfl, hws⟩, rfl⟩

/-- A shape ends in a comma or a closing brace. -/
theorem Rule.Shaped.last {rule : Rule} {u : Text} (h : rule.Shaped u) :
    ∃ x c, u = x ++ [c] ∧ isBlank c = false ∧ (c = ',' ∨ c = '}') := by
  cases rule with
  | doubledClose | commaBeforeClose =>
      obtain ⟨ws, _, rfl⟩ := h
      exact ⟨_, '}', rfl, by decide, Or.inr rfl⟩
  | commaAfterClose =>
      obtain ⟨ws, _, rfl⟩ := h
      exact ⟨_, ',', rfl, by decide, Or.inl rfl⟩
  | extraClose => exact ⟨[], '}', h, by decide, Or.inr rfl⟩

/-- The shape of a rule stands before the blanks at the end in one place only. -/
theorem Rule.Shaped.unique {rule : Rule} {a a' u u' ws ws' : Text} (hu : rule.Shaped u)
    (hu' : rule.Shaped u') (hws : ∀ c ∈ ws, isBlank c = true) (hws' : ∀ c ∈ ws', isBlank c = true)
    (h : a ++ u ++ ws = a' ++ u' ++ ws') : a = a' ∧ ws = ws' := by
  cases rule with
  | doubledClose =>
      obtain ⟨v, hv, rfl⟩ := hu
      obtain ⟨v', hv', rfl⟩ := hu'
      have hlast : a ++ ['}', ','] ++ v ++ ['}'] ++ ws = a' ++ ['}', ','] ++ v' ++ ['}'] ++ ws' := by
        simpa using h
      obtain ⟨hfront, _, hend⟩ := spaced_inj (by decide) (by decide) hws hws' hlast
      have hcomma : a ++ ['}'] ++ [','] ++ v = a' ++ ['}'] ++ [','] ++ v' := by simpa using hfront
      obtain ⟨hbrace, _, _⟩ := spaced_inj (by decide) (by decide) hv hv' hcomma
      exact ⟨List.append_cancel_right hbrace, hend⟩
  | commaBeforeClose | commaAfterClose =>
      obtain ⟨v, hv, rfl⟩ := hu
      obtain ⟨v', hv', rfl⟩ := hu'
      rw [← List.append_assoc, ← List.append_assoc, ← List.append_assoc a',
        ← List.append_assoc a'] at h
      obtain ⟨hfront, _, hend⟩ := spaced_inj (by decide) (by decide) hws hws' h
      obtain ⟨ha, _, _⟩ := spaced_inj (by decide) (by decide) hv hv' hfront
      exact ⟨ha, hend⟩
  | extraClose =>
      rw [show u = ['}'] from hu, show u' = ['}'] from hu'] at h
      obtain ⟨ha, _, hend⟩ := spaced_inj (by decide) (by decide) hws hws' h
      exact ⟨ha, hend⟩

/-! ## One rule -/

/-- What the search of a rule finds: its shape, and blanks up to the end. -/
theorem Rule.search?_found {rule : Rule} {body : Text} {cut : Cut}
    (h : Pattern.search? [rule.shape ++ Pattern.blanks ++ [.finish]] body = some cut) :
    ∃ u ws, rule.Shaped u ∧ (∀ c ∈ ws, isBlank c = true) ∧ body = cut.before ++ u ++ ws ∧
      blankTail cut.found ++ cut.after = ws := by
  obtain ⟨p, hp, hf⟩ := Pattern.searchFrom?_fits h
  rw [List.mem_singleton.mp hp] at hf
  simp only [Pattern.fits_append, fits_shape, Pattern.fits_blanks, Pattern.fits_finish] at hf
  obtain ⟨_, _, hfound, ⟨u, ws, rfl, hu, hws⟩, rfl, hafter⟩ := hf
  have hbody := Pattern.search?_eq_some h
  obtain ⟨x, c, rfl, hc, _⟩ := hu.last
  rw [List.append_nil] at hfound
  refine ⟨_, ws, hu, hws, ?_, ?_⟩
  · rw [← hbody, hfound, hafter]
    simp
  · rw [hfound, hafter, (trimRight_append hc hws).2, List.append_nil]

/-- **What a rule does.** The shape that stands before the blanks at the end is exchanged for
its replacement. -/
theorem Rule.mend?_eq_some_iff {rule : Rule} {body mended : Text} :
    rule.mend? body = some mended ↔ rule.admits body = true ∧ ∃ a u ws, rule.Shaped u ∧
      (∀ c ∈ ws, isBlank c = true) ∧ body = a ++ u ++ ws ∧ mended = a ++ rule.replacement ++ ws := by
  unfold mend?
  constructor
  · intro h
    split at h
    · exact absurd h (by simp)
    · rename_i cut hcut
      split at h
      · rename_i hadmits
        obtain ⟨u, ws, hu, hws, hbody, hback⟩ := search?_found hcut
        rw [List.append_assoc, hback] at h
        injection h with h
        exact ⟨hadmits, cut.before, u, ws, hu, hws, hbody, h.symm⟩
      · exact absurd h (by simp)
  · rintro ⟨hadmits, a, u, ws, hu, hws, hbody, rfl⟩
    cases hs : Pattern.search? [rule.shape ++ Pattern.blanks ++ [.finish]] body with
    | none =>
        have hplace : body = a ++ (u ++ ws ++ []) := by rw [hbody]; simp
        refine absurd ?_ (Pattern.searchFrom?_eq_none hs hplace _ List.mem_cons_self)
        simp only [Pattern.fits_append, fits_shape, Pattern.fits_blanks, Pattern.fits_finish]
        exact ⟨u ++ ws, [], by simp, ⟨u, ws, rfl, hu, hws⟩, rfl, trivial⟩
    | some cut =>
        obtain ⟨u', ws', hu', hws', hbody', hback⟩ := search?_found hs
        -- the two cuts of the body are the same
        obtain ⟨ha, hend⟩ := hu.unique hu' hws hws' (hbody.symm.trans hbody')
        dsimp only
        rw [if_pos hadmits, List.append_assoc, hback, ← ha, ← hend]

/-- What a rule can do: take out the comma in front of the last brace or behind it, with the
blanks between them, or the last brace itself where more braces close than open. -/
theorem Rule.mend?_cases {rule : Rule} {body mended : Text} (h : rule.mend? body = some mended) :
    ∃ a ws ws', (∀ c ∈ ws, isBlank c = true) ∧ (∀ c ∈ ws', isBlank c = true) ∧
      (body = a ++ ',' :: ws ++ '}' :: ws' ∧ mended = a ++ '}' :: ws' ∨
        body = a ++ '}' :: ws ++ ',' :: ws' ∧ mended = a ++ '}' :: ws' ∨
        body.count '{' < body.count '}' ∧ body = a ++ '}' :: ws' ∧ mended = a ++ ws') := by
  obtain ⟨hadmits, a, u, ws', hu, hws', rfl, rfl⟩ := mend?_eq_some_iff.mp h
  cases rule with
  | doubledClose =>
      obtain ⟨ws, hws, rfl⟩ := hu
      exact ⟨a ++ ['}'], ws, ws', hws, hws', Or.inl ⟨by simp, by simp [replacement]⟩⟩
  | commaBeforeClose =>
      obtain ⟨ws, hws, rfl⟩ := hu
      exact ⟨a, ws, ws', hws, hws', Or.inl ⟨by simp, by simp [replacement]⟩⟩
  | commaAfterClose =>
      obtain ⟨ws, hws, rfl⟩ := hu
      exact ⟨a, ws, ws', hws, hws', Or.inr (Or.inl ⟨by simp, by simp [replacement]⟩)⟩
  | extraClose =>
      obtain rfl : u = ['}'] := hu
      exact ⟨a, [], ws', by simp, hws', Or.inr (Or.inr
        ⟨of_decide_eq_true hadmits, by simp, by simp [replacement]⟩)⟩

/-! ## The first rule that applies -/

/-- A rule that applies finds a body that ends in a comma or a closing brace. -/
theorem Rule.isSuspect_of_mend? {rule : Rule} {body mended : Text}
    (h : rule.mend? body = some mended) : isSuspect body = true := by
  obtain ⟨_, a, u, ws, hu, hws, rfl, _⟩ := mend?_eq_some_iff.mp h
  obtain ⟨x, c, rfl, hblank, hc⟩ := hu.last
  rw [isSuspect, ← List.append_assoc, (trimRight_append hblank hws).1, List.getLast?_concat]
  rcases hc with rfl | rfl
  · rfl
  · rfl

/-- The look at the last character only saves the rules the work. -/
theorem first?_eq (body : Text) :
    first? body = Rule.all.findSome? fun rule => (rule.mend? body).map (rule, ·) := by
  unfold first?
  split
  · rfl
  · rename_i hs
    symm
    rw [List.findSome?_eq_none_iff]
    intro rule _
    cases hm : rule.mend? body with
    | none => rfl
    | some mended => exact absurd (Rule.isSuspect_of_mend? hm) hs

theorem mend?_of_first? {rule : Rule} {body mended : Text} (h : first? body = some (rule, mended)) :
    rule.mend? body = some mended := by
  rw [first?_eq] at h
  obtain ⟨r, _, hr⟩ := List.exists_of_findSome?_eq_some h
  obtain ⟨m, hm, he⟩ := Option.map_eq_some_iff.mp hr
  injection he with hrule hmended
  rw [← hrule, ← hmended]
  exact hm

/-- The body is left as it is, or one of the rules applies to it. -/
theorem mend_cases (body : Text) :
    mend body = body ∨ ∃ rule : Rule, rule.mend? body = some (mend body) := by
  unfold mend
  split
  · rename_i rule mended h
    exact Or.inr ⟨rule, mend?_of_first? h⟩
  · exact Or.inl rfl

/-! ## The rules without a search -/

/-- What stands before the last character of a text, blanks aside, without the blanks at its
end. -/
def beforeLast (body : Text) : Text := trimRight (trimRight body).dropLast

/-- A rule about a comma looks at the last character and at what stands before it. -/
theorem Rule.mend?_comma {rule : Rule} {c d : Char} (front : Text) (f : Text → Text)
    (hc : isBlank c = false) (hd : isBlank d = false) (body : Text)
    (hadmits : rule.admits body = true)
    (hshape : ∀ u, rule.Shaped u ↔
      ∃ ws, (∀ e ∈ ws, isBlank e = true) ∧ u = front ++ [c] ++ ws ++ [d])
    (hf : ∀ a, f (a ++ (front ++ [c])) = a ++ rule.replacement) :
    rule.mend? body =
      if endsWith (trimRight body) [d] && endsWith (beforeLast body) (front ++ [c]) then
        some (f (beforeLast body) ++ blankTail body)
      else none := by
  split
  · rename_i hends
    rw [Bool.and_eq_true, endsWith_iff, endsWith_iff] at hends
    obtain ⟨⟨x, hx⟩, a, ha⟩ := hends
    have hinner : trimRight x = a ++ (front ++ [c]) := by
      rw [← ha, beforeLast, hx, List.dropLast_concat]
    rw [ha, hf]
    refine mend?_eq_some_iff.mpr ⟨hadmits, a, front ++ [c] ++ blankTail x ++ [d], blankTail body,
      (hshape _).mpr ⟨_, isBlank_of_mem_blankTail, rfl⟩, isBlank_of_mem_blankTail, ?_, rfl⟩
    rw [← List.append_assoc, ← List.append_assoc, ← hinner, trimRight_append_blankTail, ← hx,
      trimRight_append_blankTail]
  · rename_i hends
    rw [Option.eq_none_iff_forall_ne_some]
    intro mended hm
    obtain ⟨_, a, u, ws, hu, hws, hbody, _⟩ := mend?_eq_some_iff.mp hm
    obtain ⟨v, hv, rfl⟩ := (hshape u).mp hu
    have hcut : body = a ++ front ++ [c] ++ v ++ [d] ++ ws := by rw [hbody]; simp
    have houter : trimRight body = a ++ front ++ [c] ++ v ++ [d] := by
      rw [hcut]
      exact (trimRight_append hd hws).1
    have hinner : beforeLast body = a ++ (front ++ [c]) := by
      rw [beforeLast, houter, List.dropLast_concat, (trimRight_append hc hv).1, List.append_assoc]
    refine hends ?_
    rw [Bool.and_eq_true, endsWith_iff, endsWith_iff]
    exact ⟨⟨_, houter⟩, a, hinner⟩

theorem Rule.mend?_doubledClose (body : Text) : Rule.doubledClose.mend? body =
    if endsWith (trimRight body) ['}'] && endsWith (beforeLast body) ['}', ','] then
      some ((beforeLast body).dropLast.dropLast ++ ['}', '}'] ++ blankTail body)
    else none :=
  mend?_comma ['}'] (fun t => t.dropLast.dropLast ++ ['}', '}']) (by decide) (by decide) body rfl
    (fun _ => Iff.rfl) (fun a => by simp [replacement])

theorem Rule.mend?_commaBeforeClose (body : Text) : Rule.commaBeforeClose.mend? body =
    if endsWith (trimRight body) ['}'] && endsWith (beforeLast body) [','] then
      some ((beforeLast body).dropLast ++ ['}'] ++ blankTail body)
    else none :=
  mend?_comma [] (fun t => t.dropLast ++ ['}']) (by decide) (by decide) body rfl
    (fun _ => Iff.rfl) (fun a => by simp [replacement])

theorem Rule.mend?_commaAfterClose (body : Text) : Rule.commaAfterClose.mend? body =
    if endsWith (trimRight body) [','] && endsWith (beforeLast body) ['}'] then
      some (beforeLast body ++ blankTail body)
    else none :=
  mend?_comma [] (fun t => t) (by decide) (by decide) body rfl (fun _ => Iff.rfl) (fun _ => rfl)

/-- The rule about a brace looks at the last character and counts. -/
theorem Rule.mend?_extraClose (body : Text) : Rule.extraClose.mend? body =
    if endsWith (trimRight body) ['}'] && decide (body.count '{' < body.count '}') then
      some ((trimRight body).dropLast ++ blankTail body)
    else none := by
  split
  · rename_i hends
    rw [Bool.and_eq_true, endsWith_iff] at hends
    obtain ⟨⟨a, ha⟩, hcount⟩ := hends
    refine mend?_eq_some_iff.mpr ⟨hcount, a, ['}'], blankTail body, rfl, isBlank_of_mem_blankTail,
      ?_, ?_⟩
    · rw [← ha, trimRight_append_blankTail]
    · rw [ha, List.dropLast_concat]
      simp [replacement]
  · rename_i hends
    rw [Option.eq_none_iff_forall_ne_some]
    intro mended hm
    obtain ⟨hcount, a, u, ws, hu, hws, hbody, _⟩ := mend?_eq_some_iff.mp hm
    have hkept : trimRight body = a ++ ['}'] := by
      rw [hbody, show u = ['}'] from hu]
      exact (trimRight_append (by decide) hws).1
    refine hends ?_
    rw [Bool.and_eq_true, endsWith_iff]
    exact ⟨⟨a, hkept⟩, hcount⟩

/-- What becomes of a body, and by which rule, told by its end: by the last character that is no
blank, and by the one or two before it that are none. -/
def byEnding (body : Text) : Text × Option Rule :=
  let kept := trimRight body
  let inner := beforeLast body
  if endsWith kept ['}'] then
    if endsWith inner ['}', ','] then
      (inner.dropLast.dropLast ++ ['}', '}'] ++ blankTail body, some .doubledClose)
    else if endsWith inner [','] then
      (inner.dropLast ++ ['}'] ++ blankTail body, some .commaBeforeClose)
    else if body.count '{' < body.count '}' then
      (kept.dropLast ++ blankTail body, some .extraClose)
    else (body, none)
  else if endsWith kept [','] then
    if endsWith inner ['}'] then (inner ++ blankTail body, some .commaAfterClose)
    else (body, none)
  else (body, none)

/-- **A repair is told by the end of the body**, and where the look at the last character rejects
a body none of the rules applies to it on its own. -/
theorem repair_by_ending (body : Text) :
    (mend body, (first? body).map Prod.fst) = byEnding body ∧
      (isSuspect body = false → ∀ rule : Rule, rule.mend? body = none) := by
  refine ⟨?_, ?_⟩
  · rw [mend, first?_eq]
    simp only [Rule.all, List.findSome?_cons, List.findSome?_nil, Rule.mend?_doubledClose,
      Rule.mend?_commaBeforeClose, Rule.mend?_commaAfterClose, Rule.mend?_extraClose, byEnding]
    cases hbrace : endsWith (trimRight body) ['}'] with
    | true =>
        -- the rule between the two rules about a brace asks for another last character
        have hcomma : endsWith (trimRight body) [','] = false :=
          endsWith_eq_false (by decide) hbrace
        cases endsWith (beforeLast body) ['}', ','] with
        | true => simp
        | false =>
            cases endsWith (beforeLast body) [','] with
            | true => simp
            | false =>
                by_cases hcount : body.count '{' < body.count '}'
                · simp [hcomma, hcount]
                · simp [hcomma, hcount]
    | false =>
        cases endsWith (trimRight body) [','] with
        | true =>
            cases endsWith (beforeLast body) ['}'] with
            | true => simp
            | false => simp
        | false => simp
  · intro hsuspect rule
    rw [Option.eq_none_iff_forall_ne_some]
    intro mended hm
    rw [Rule.isSuspect_of_mend? hm] at hsuspect
    exact absurd hsuspect (by simp)

end Graft.Script.Repair
