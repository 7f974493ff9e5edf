import Graft.Proofs.Detection

/-!
# Brackets stay nested

A script whose braces, parentheses and square brackets are well nested should come out well
nested: broken nesting would show up only much later, as a syntax error in a bundle.

`Nested` is the grammar of such texts. Proofs go through a reader that keeps the brackets
still to be closed (`settle`), for which a nested text changes nothing whatever is open
around it. So a nested text can be written anywhere or taken out again without touching the
nesting of the rest (`nested_insert_iff`), and this one fact covers every edit: what is
written is nested, and what is dropped is blank. The repair of a setup script could still
take a brace away, but only from a body with more closing braces than opening ones, which a
nested body is not (`Nested.count_eq`).
-/

namespace Graft

open Text

/-! ## Nested texts -/

/-- The bracket that closes an opening one. -/
def Text.closer? : Char → Option Char
  | '{' => some '}'
  | '(' => some ')'
  | '[' => some ']'
  | _ => none

/-- A brace, a parenthesis or a square bracket. -/
def Text.isBracket (c : Char) : Bool := "\x7b\x7d()[]".toList.contains c

/-- The brackets of a text are well nested. Its other characters do not matter. -/
inductive Nested : Text → Prop where
  /-- The empty text. -/
  | nil : Nested []
  /-- A character that is no bracket in front. -/
  | other {c : Char} {t : Text} : isBracket c = false → Nested t → Nested (c :: t)
  /-- A pair of brackets of one kind around a nested text, in front. -/
  | pair {o c : Char} {a b : Text} : closer? o = some c → Nested a → Nested b →
      Nested (o :: a ++ c :: b)

/-- The closing brackets that are owed after one more character: an opening bracket owes one
more, a closing one has to be the next that is owed. -/
def owedAfter (owed : Text) (c : Char) : Option Text :=
  match closer? c with
  | some d => some (d :: owed)
  | none =>
      if isBracket c then (if owed.head? = some c then some owed.tail else none) else some owed

/-- Read a text against the closing brackets that are owed. The result is what is owed at its
end, if no bracket came out of turn. -/
def settle (owed t : Text) : Option Text := t.foldlM owedAfter owed

theorem closer?_eq_some {o c : Char} (h : closer? o = some c) :
    closer? c = none ∧ isBracket c = true ∧ (o = '{' ↔ c = '}') ∧ o ≠ '}' ∧ c ≠ '{' := by
  unfold closer? at h
  split at h
  · injection h with h
    subst h
    decide
  · injection h with h
    subst h
    decide
  · injection h with h
    subst h
    decide
  · exact absurd h (by simp)

theorem closer?_of_not_bracket {c : Char} (h : isBracket c = false) : closer? c = none := by
  unfold closer?
  split
  · exact absurd h (by decide)
  · exact absurd h (by decide)
  · exact absurd h (by decide)
  · rfl

section Settle

variable {owed a b t : Text} {c d : Char}

theorem settle_cons : settle owed (c :: t) = (owedAfter owed c).bind fun left => settle left t :=
  List.foldlM_cons

theorem settle_append : settle owed (a ++ b) = (settle owed a).bind fun left => settle left b :=
  List.foldlM_append

theorem owedAfter_other (h : isBracket c = false) : owedAfter owed c = some owed := by
  rw [owedAfter, closer?_of_not_bracket h, h]
  rfl

theorem owedAfter_open (h : closer? c = some d) : owedAfter owed c = some (d :: owed) := by
  rw [owedAfter, h]

theorem owedAfter_close (h : closer? d = some c) : owedAfter (c :: owed) c = some owed := by
  obtain ⟨hc, hb, _⟩ := closer?_eq_some h
  rw [owedAfter, hc, hb]
  simp

/-- A nested text settles what it opens, whatever is owed around it. -/
theorem Nested.settle_eq (h : Nested t) : ∀ owed, settle owed t = some owed := by
  induction h with
  | nil => exact fun _ => rfl
  | other hc _ ih =>
      intro owed
      rw [settle_cons, owedAfter_other hc, Option.bind_some]
      exact ih owed
  | pair hcloser _ _ iha ihb =>
      intro owed
      rw [List.cons_append, settle_cons, owedAfter_open hcloser, Option.bind_some, settle_append,
        iha, Option.bind_some, settle_cons, owedAfter_close hcloser, Option.bind_some]
      exact ihb owed

end Settle

/-- Nested texts with the owed brackets between them, in their order. -/
def Completes : Text → Text → Prop
  | [], t => Nested t
  | d :: owed, t => ∃ a b, t = a ++ d :: b ∧ Nested a ∧ Completes owed b

/-- Something nested in front of a text is part of its first nested piece. -/
theorem Completes.prepend {x : Text} (hx : ∀ {t}, Nested t → Nested (x ++ t)) {owed t : Text}
    (h : Completes owed t) : Completes owed (x ++ t) := by
  cases owed with
  | nil => exact hx h
  | cons d owed =>
      obtain ⟨a, b, rfl, ha, hb⟩ := h
      exact ⟨x ++ a, b, by simp, hx ha, hb⟩

theorem completes_of_settle : ∀ {t owed : Text}, settle owed t = some [] → Completes owed t
  | [], owed, h => by
      injection h with h
      subst h
      exact Nested.nil
  | c :: t, owed, h => by
      rw [settle_cons, Option.bind_eq_some_iff] at h
      obtain ⟨left, hleft, hrest⟩ := h
      have hcompletes := completes_of_settle hrest
      unfold owedAfter at hleft
      split at hleft
      · -- an opening bracket: the pair that it starts goes in front of the rest
        rename_i d hcloser
        injection hleft with hleft
        subst hleft
        obtain ⟨a, b, rfl, ha, hb⟩ := hcompletes
        have hpair : Completes owed (c :: a ++ [d] ++ b) :=
          hb.prepend fun ht => by simpa using ha.pair hcloser ht
        simpa using hpair
      · split at hleft
        · -- a closing bracket: it is the one that is owed, and nothing stands before it
          split at hleft
          · rename_i howed
            injection hleft with hleft
            obtain ⟨d, rest, rfl⟩ : ∃ d rest, owed = d :: rest := by
              cases owed with
              | nil => exact absurd howed (by simp)
              | cons d rest => exact ⟨d, rest, rfl⟩
            injection howed with howed
            subst howed hleft
            exact ⟨[], t, rfl, Nested.nil, hcompletes⟩
          · exact absurd hleft (by simp)
        · rename_i hb
          injection hleft with hleft
          subst hleft
          have hother : Completes owed ([c] ++ t) :=
            hcompletes.prepend fun ht => ht.other (Bool.not_eq_true _ ▸ hb)
          exact hother

/-- **The reader decides nesting.** -/
theorem nested_iff {t : Text} : Nested t ↔ settle [] t = some [] :=
  ⟨fun h => h.settle_eq [], completes_of_settle⟩

instance (t : Text) : Decidable (Nested t) := decidable_of_iff _ nested_iff.symm

/-- **A nested text can be written anywhere, and taken out again.** -/
theorem nested_insert_iff {a x b : Text} (hx : Nested x) :
    Nested (a ++ x ++ b) ↔ Nested (a ++ b) := by
  rw [nested_iff, nested_iff, settle_append, settle_append, settle_append]
  cases settle [] a with
  | none => rfl
  | some owed => rw [Option.bind_some, Option.bind_some, hx.settle_eq, Option.bind_some]

/-- A text without brackets is nested. -/
theorem nested_of_plain {t : Text} (h : ∀ c ∈ t, isBracket c = false) : Nested t := by
  induction t with
  | nil => exact .nil
  | cons c t ih => exact (ih fun d hd => h d (by simp [hd])).other (h c (by simp))

theorem Nested.append {a b : Text} (ha : Nested a) (hb : Nested b) : Nested (a ++ b) :=
  (nested_insert_iff (a := []) ha).mpr hb

/-- As many braces close in a nested text as open. -/
theorem Nested.count_eq {t : Text} (h : Nested t) : t.count '{' = t.count '}' := by
  induction h with
  | nil => rfl
  | @other c t hc _ ih =>
      have hopen : c ≠ '{' := by
        rintro rfl
        exact absurd hc (by decide)
      have hclose : c ≠ '}' := by
        rintro rfl
        exact absurd hc (by decide)
      rw [List.count_cons_of_ne hopen, List.count_cons_of_ne hclose]
      exact ih
  | @pair o c a b hcloser _ _ iha ihb =>
      obtain ⟨_, _, hbrace, ho, hc⟩ := closer?_eq_some hcloser
      simp only [List.cons_append, List.count_append, List.count_cons, beq_iff_eq, hbrace, ho, hc,
        if_false]
      omega

/-! ## Edits keep the nesting -/

/-- A blank is no bracket. -/
theorem not_bracket_of_isBlank {c : Char} (h : isBlank c = true) : isBracket c = false := by
  have hne : ∀ d, isBlank d = false → c ≠ d := by
    rintro d hd rfl
    rw [h] at hd
    exact absurd hd (by simp)
  simp [isBracket, hne '{' (by decide), hne '}' (by decide), hne '(' (by decide),
    hne ')' (by decide), hne '[' (by decide), hne ']' (by decide)]

theorem nested_blanks {ws : Text} (h : ∀ c ∈ ws, isBlank c = true) : Nested ws :=
  nested_of_plain fun c hc => not_bracket_of_isBlank (h c hc)

variable {added : Text → Prop}

/-- **Kept by every edit.** -/
theorem Edit.nested_iff (hadded : ∀ x, added x → Nested x) {a b : Text} (he : Edit added a b) :
    Nested b ↔ Nested a := by
  cases he with
  | insert hx _ _ _ => exact nested_insert_iff (hadded _ hx)
  | erase hb _ => exact (nested_insert_iff (nested_blanks hb)).symm
  | tighten hb _ => exact (nested_insert_iff (nested_blanks hb)).symm

theorem Edits.nested_iff (hadded : ∀ x, added x → Nested x) {a b : Text} (he : Edits added a b) :
    Nested b ↔ Nested a := by
  induction he with
  | refl => exact Iff.rfl
  | tail _ hstep ih => exact (hstep.nested_iff hadded).trans ih

namespace Script

/-- A repair keeps the nesting: it takes commas and blanks, and a brace only from a body with
too many of them. -/
theorem Repair.nested_mend {body : Text} (h : Nested body) : Nested (mend body) := by
  rcases mend_cases body with hm | ⟨rule, hm⟩
  · rw [hm]
    exact h
  · obtain ⟨a, ws, ws', hws, _, ⟨hbody, hmend⟩ | ⟨hbody, hmend⟩ | ⟨hcount, _, _⟩⟩ :=
      Rule.mend?_cases hm
    · have hx : Nested (',' :: ws) := (nested_blanks hws).other (by decide)
      rw [hmend]
      rw [hbody] at h
      exact (nested_insert_iff hx).mp h
    · have hx : Nested (ws ++ [',']) := (nested_blanks hws).append (by decide)
      have hsplit : body = a ++ ['}'] ++ (ws ++ [',']) ++ ws' := by
        rw [hbody]
        simp
      have hmend' : mend body = a ++ ['}'] ++ ws' := by
        rw [hmend]
        simp
      rw [hmend']
      rw [hsplit] at h
      exact (nested_insert_iff hx).mp h
    · exact absurd h.count_eq (by omega)

/-- What an import brings has no brackets of its own. -/
theorem Import.nested_statement {name path : Text} (hname : ∀ c ∈ name, isBracket c = false)
    (hpath : ∀ c ∈ path, isBracket c = false) : Nested ('\n' :: statement name path) := by
  have hstart : Nested ('\n' :: "import ".toList) := by decide
  have hfrom : Nested " from '".toList := by decide
  have hend : Nested "';\n".toList := by decide
  exact (((hstart.append (nested_of_plain hname)).append hfrom).append
    (nested_of_plain hpath)).append hend

/-- An entry has no brackets of its own. -/
theorem Registration.nested_entry {name registerName : Text}
    (hname : ∀ c ∈ name, isBracket c = false)
    (hregister : ∀ c ∈ registerName, isBracket c = false) : Nested (entry name registerName) := by
  have hkey : Nested (key registerName) := by
    unfold key
    split
    · exact nested_of_plain hregister
    · have hquote : Nested "'".toList := by decide
      exact (hquote.append (nested_of_plain hregister)).append hquote
  have hcolon : Nested ": ".toList := by decide
  exact (hkey.append hcolon).append (nested_of_plain hname)

/-- Everything that a registration writes is nested. -/
theorem Registration.nested_additions {name registerName : Text}
    (hname : ∀ c ∈ name, isBracket c = false)
    (hregister : ∀ c ∈ registerName, isBracket c = false) :
    ∀ x ∈ additions name registerName, Nested x := by
  have hentry := nested_entry hname hregister
  -- around the entry stand fixed texts, which are nested without it
  have haround : ∀ {p q : Text}, Nested (p ++ q) → Nested (p ++ entry name registerName ++ q) :=
    fun h => (nested_insert_iff hentry).mpr h
  intro x hx
  simp only [additions, List.mem_cons, List.not_mem_nil, or_false] at hx
  rcases hx with rfl | rfl | rfl | rfl | rfl | rfl | rfl | rfl
  · decide
  · exact hentry.other (by decide)
  · exact (hentry.other (by decide)).other (by decide)
  · exact haround (by decide)
  · exact (haround (by decide)).append (by decide)
  · have h : Nested ("\nexport default defineComponent(\x7b\n  components: \x7b\n    ".toList ++
        entry name registerName ++ "\n  \x7d\n\x7d)\n".toList) := haround (by decide)
    unfold exportText
    simpa using h
  · have h : Nested ("\nexport default \x7b\n  components: \x7b\n    ".toList ++
        entry name registerName ++ "\n  \x7d\n\x7d\n".toList) := haround (by decide)
    unfold exportText
    simpa using h
  · decide

/-- **A registration keeps the nesting**, in a script of any style. -/
theorem nested_revise {code body name registerName : Text} (hbody : Nested body)
    (hname : ∀ c ∈ name, isBracket c = false)
    (hregister : ∀ c ∈ registerName, isBracket c = false) :
    Nested (revise code body name registerName) := by
  unfold revise
  split
  · exact hbody
  · exact Repair.nested_mend hbody
  · exact ((Registration.edits_edit code body name registerName).nested_iff
      (Registration.nested_additions hname hregister)).mpr hbody

/-- **Brackets stay nested.** A closed script with a nested body has one after the import and
the registration. -/
theorem nesting_kept {code name path registerName : Text} (hclosed : (detect code).stop ≠ -1)
    (hbody : Nested ((detect code).body code)) (hname : ∀ c ∈ name, isBracket c = false)
    (hregister : ∀ c ∈ registerName, isBracket c = false)
    (hpath : ∀ c ∈ path, isBracket c = false) :
    (detect (register (Import.add code name path) name registerName)).stop ≠ -1 ∧
      Nested ((detect (register (Import.add code name path) name registerName)).body
        (register (Import.add code name path) name registerName)) := by
  obtain ⟨r, hr⟩ := stop_ne_iff.mp hclosed
  obtain ⟨_, rfl, _, hregion⟩ := register_add_region hr name path registerName
  rw [body_detect hr] at hbody
  refine ⟨stop_ne_iff.mpr ⟨_, hregion⟩, ?_⟩
  rw [body_detect hregion]
  refine nested_revise ?_ hname hregister
  unfold Import.bodyWith
  split
  · exact hbody
  · exact (Import.nested_statement hname hpath).append hbody

/-- A typed page whose script exports nothing. -/
def typedPage : Text :=
  "<script lang='ts'>\nlet a = [f(\x7b\x7d)]\n</script>".toList

/-- The page gets an import and an export at the two ends of its script. -/
theorem typedPage_nesting_kept :
    Nested ((detect typedPage).body typedPage) ∧
      Nested ((detect (register (Import.add typedPage "toast".toList "t".toList) "toast".toList
        "my-toast".toList)).body (register (Import.add typedPage "toast".toList "t".toList)
          "toast".toList "my-toast".toList)) := by
  have hbody : Nested ((detect typedPage).body typedPage) := by decide +kernel
  exact ⟨hbody, (nesting_kept (by decide +kernel) hbody (forall_of_all (by decide))
    (forall_of_all (by decide)) (forall_of_all (by decide))).2⟩

end Script

end Graft
