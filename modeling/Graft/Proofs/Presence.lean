import Graft.Outcome
import Graft.Proofs.Edits
import Graft.Proofs.Names
import Graft.Proofs.Parts

/-!
# A component stays where it was put

An opening tag is a phrase, and so are a dynamic binding and the two markers of the markup
region. No edit cuts a phrase, none takes one away, and none changes the order in which they
stand (`Edit.inOrder`). What holds of one edit holds of a whole injection
(`Spec.inOrder_inject`), and of any run of injections (`Spec.inOrder_injectAll`).

From this the guarantee that matters to a build that runs again and again follows: once a
component has been put into a document it is found there ever after, so asking for it a
second time changes nothing, whatever else was injected in between
(`Spec.presence_persists`).
-/

namespace Graft

open Text

variable {added : Text → Prop}

/-! ## Phrases survive -/

/-- **Preserved by every edit.** -/
theorem Edit.inOrder {ws : List Text} (hw : ∀ w ∈ ws, Phrase w) {a b : Text}
    (he : Edit added a b) (h : InOrder ws a) : InOrder ws b := by
  cases he with
  | @insert a x b _ hs _ _ =>
      -- no phrase lies across the seam, so the list splits there
      obtain ⟨us, vs, rfl, hus, hvs⟩ := inOrder_split hw hs h
      rw [List.append_assoc]
      exact inOrder_append hus (hvs.prepend x)
  | erase hb hs => exact inOrder_erase hw hb hs h
  | tighten hb hws => exact inOrder_erase_colon hw hb hws h

theorem Edits.inOrder {ws : List Text} (hw : ∀ w ∈ ws, Phrase w) {a b : Text}
    (he : Edits added a b) (h : InOrder ws a) : InOrder ws b := by
  induction he with
  | refl => exact h
  | tail _ hstep ih => exact hstep.inOrder hw ih

/-- A character that is struck out is in no phrase. -/
theorem Strike.inOrder {ws : List Text} (hw : ∀ w ∈ ws, Phrase w) {a b : Text}
    (hs : Strike a b) (h : InOrder ws a) : InOrder ws b := by
  cases hs with
  | mk hc _ =>
      refine inOrder_strike hw ?_ h
      rcases hc with rfl | rfl
      · decide
      · decide

/-- **Preserved by every injection.** -/
theorem Spec.inOrder_inject {ws : List Text} (hw : ∀ w ∈ ws, Phrase w) (s : Spec) {code : Text}
    (h : InOrder ws code) : InOrder ws (s.inject code) := by
  rcases s.edits_inject code with he | ⟨_, mid, hs, he⟩
  · exact he.inOrder hw h
  · exact he.inOrder hw (hs.inOrder hw ((s.edits_imported code).inOrder hw h))

theorem Spec.infix_inject {w : Text} (hw : Phrase w) (s : Spec) {code : Text}
    (h : w <:+: code) : w <:+: s.inject code := by
  rw [← inOrder_singleton] at h ⊢
  exact s.inOrder_inject (fun v hv => List.mem_singleton.mp hv ▸ hw) h

/-- A run of injections, one after the other. -/
def Spec.injectAll (specs : List Spec) (code : Text) : Text :=
  specs.foldl (fun t s => s.inject t) code

theorem Spec.injectAll_append (earlier later : List Spec) (code : Text) :
    injectAll (earlier ++ later) code = injectAll later (injectAll earlier code) :=
  List.foldl_append

/-- What every injection keeps, a run of them keeps. -/
theorem Spec.injectAll_induction {P : Text → Prop} (hstep : ∀ s t, P t → P (Spec.inject s t))
    (specs : List Spec) : ∀ {code : Text}, P code → P (injectAll specs code) := by
  induction specs with
  | nil => intro code h; exact h
  | cons s specs ih => intro code h; exact ih (hstep s code h)

/-- **Preserved by every run.** -/
theorem Spec.inOrder_injectAll {ws : List Text} (hw : ∀ w ∈ ws, Phrase w) (specs : List Spec)
    {code : Text} (h : InOrder ws code) : InOrder ws (injectAll specs code) :=
  injectAll_induction (fun s _ => s.inOrder_inject hw) specs h

/-! ## Mentions survive -/

namespace Markup

/-- A dynamic binding to a name, with blanks wherever they may stand. -/
def IsBinding (name w : Text) : Prop :=
  ∃ q ∈ ['"', '\x27'], ∃ ws₁ ws₂ ws₃ ws₄ : Text,
    (∀ ws ∈ [ws₁, ws₂, ws₃, ws₄], ∀ c ∈ ws, isBlank c = true) ∧
      w = ":is".toList ++ ws₁ ++ ['='] ++ ws₂ ++ [q] ++ ws₃ ++ name ++ ws₄ ++ [q]

theorem fits_bindingPatterns {name w after : Text} {b : Option Char} :
    (∃ p ∈ bindingPatterns name, Pattern.Fits p b w after) ↔ IsBinding name w := by
  simp only [bindingPatterns, List.mem_map, IsBinding]
  constructor
  · intro h
    obtain ⟨_, ⟨q, hq, rfl⟩, hf⟩ := h
    simp only [Pattern.fits_append, Pattern.fits_exactly, Pattern.fits_blanks] at hf
    obtain ⟨_, _, rfl, ⟨_, ws₄, rfl, ⟨_, _, rfl, ⟨_, ws₃, rfl, ⟨_, _, rfl, ⟨_, ws₂, rfl,
      ⟨_, _, rfl, ⟨_, ws₁, rfl, rfl, h₁⟩, rfl⟩, h₂⟩, rfl⟩, h₃⟩, rfl⟩, h₄⟩, rfl⟩ := hf
    exact ⟨q, hq, ws₁, ws₂, ws₃, ws₄, by simpa using ⟨h₁, h₂, h₃, h₄⟩, rfl⟩
  · intro h
    obtain ⟨q, hq, ws₁, ws₂, ws₃, ws₄, hws, rfl⟩ := h
    simp only [List.mem_cons, List.not_mem_nil, or_false, forall_eq_or_imp, forall_eq] at hws
    obtain ⟨h₁, h₂, h₃, h₄⟩ := hws
    refine ⟨_, ⟨q, hq, rfl⟩, ?_⟩
    simp only [Pattern.fits_append, Pattern.fits_exactly, Pattern.fits_blanks]
    exact ⟨_, _, rfl, ⟨_, ws₄, rfl, ⟨_, _, rfl, ⟨_, ws₃, rfl, ⟨_, _, rfl, ⟨_, ws₂, rfl,
      ⟨_, _, rfl, ⟨_, ws₁, rfl, rfl, h₁⟩, rfl⟩, h₂⟩, rfl⟩, h₃⟩, rfl⟩, h₄⟩, rfl⟩

/-- A mention is one of two shapes of text, wherever it stands. -/
theorem mentions_iff {code name : Text} : mentions code name = true ↔
    '<' :: name <:+: code ∨ ∃ w, IsBinding name w ∧ w <:+: code := by
  rw [mentions, Bool.or_eq_true, occursIn_iff, Pattern.occurs_iff]
  refine or_congr_right ?_
  constructor
  · intro h
    obtain ⟨x, w, after, rfl, hf⟩ := h
    exact ⟨w, fits_bindingPatterns.mp hf, x, after, by simp⟩
  · intro h
    obtain ⟨w, hw, x, after, rfl⟩ := h
    exact ⟨x, w, after, by simp, fits_bindingPatterns.mpr hw⟩

/-- A binding to a name is a phrase: it starts with a colon and ends with a quote. -/
theorem IsBinding.phrase {name w : Text} (hname : ∀ c ∈ name, isInner c = true)
    (h : IsBinding name w) : Phrase w := by
  obtain ⟨q, hq, ws₁, ws₂, ws₃, ws₄, hws, rfl⟩ := h
  simp only [List.mem_cons, List.not_mem_nil, or_false, forall_eq_or_imp, forall_eq] at hws
  obtain ⟨h₁, h₂, h₃, h₄⟩ := hws
  have hquote : isInner q = true ∧ q ≠ ':' := by
    simp only [List.mem_cons, List.not_mem_nil, or_false] at hq
    rcases hq with rfl | rfl <;> decide
  have hblank : ∀ c, isBlank c = true → isStop c = false ∧ c ≠ '<' ∧ c ≠ '>' :=
    fun c hc => not_stop_of_isBlank hc
  have hinner : ∀ c, isInner c = true → isStop c = false ∧ c ≠ '<' ∧ c ≠ '>' :=
    fun c hc => (isInner_iff.mp hc).2
  have hmem : ∀ c ∈ ":is".toList ++ ws₁ ++ ['='] ++ ws₂ ++ [q] ++ ws₃ ++ name ++ ws₄ ++ [q],
      isStop c = false ∧ c ≠ '<' ∧ c ≠ '>' := by
    intro c hc
    simp only [List.mem_append] at hc
    rcases hc with (((((((hc | hc) | hc) | hc) | hc) | hc) | hc) | hc) | hc
    · exact hinner c (List.all_eq_true.mp (by decide : ":is".toList.all isInner = true) c hc)
    · exact hblank c (h₁ c hc)
    · rw [List.mem_singleton.mp hc]
      decide
    · exact hblank c (h₂ c hc)
    · rw [List.mem_singleton.mp hc]
      exact hinner q hquote.1
    · exact hblank c (h₃ c hc)
    · exact hinner c (hname c hc)
    · exact hblank c (h₄ c hc)
    · rw [List.mem_singleton.mp hc]
      exact hinner q hquote.1
  refine ⟨by simp, fun c hc => (hmem c hc).1, ?_, ?_, by simp; decide, ?_, Or.inr ?_⟩
  · exact fun hc => (hmem _ (List.mem_of_mem_tail hc)).2.1 rfl
  · exact fun hc => (hmem _ (List.dropLast_subset _ hc)).2.2 rfl
  · rw [List.getLast?_concat]
    exact (isInner_iff.mp hquote.1).1
  · rw [List.getLast?_concat]
    simpa using hquote.2

theorem mentions_inject {name : Text} (hname : ∀ c ∈ name, isInner c = true) (s : Spec)
    {code : Text} (h : mentions code name = true) : mentions (s.inject code) name = true := by
  rw [mentions_iff] at h ⊢
  rcases h with h | ⟨w, hw, h⟩
  · exact Or.inl (s.infix_inject (solid_of_inner hname).toPhrase h)
  · exact Or.inr ⟨w, hw, s.infix_inject (hw.phrase hname) h⟩

/-- **A component once found is found after every injection.** -/
theorem hasName_inject {name : Text} (hname : ∀ c ∈ name, isInner c = true) (s : Spec)
    {code : Text} (h : hasName code name = true) : hasName (s.inject code) name = true := by
  rw [hasName, Bool.or_eq_true] at h ⊢
  rcases h with h | h
  · exact Or.inl (mentions_inject hname s h)
  · exact Or.inr (mentions_inject (isInner_lower hname) s h)

end Markup

/-! ## Room for a tag -/

namespace Markup

/-- The markers that have to stand in a document for a tag to find its place. -/
def landmarks : Position → List Text
  | .beforeContent => [startTag]
  | .afterContent | .rootEnd => [startTag, endTag]

/-- The document has a place for a tag: a start marker and, unless the tag goes right
behind it, an end marker after it. -/
def HasRoom (code : Text) (position : Position) : Prop := InOrder (landmarks position) code

theorem solid_landmarks (position : Position) : ∀ w ∈ landmarks position, Solid w := by
  have hstart : Solid startTag := by decide
  have hend : Solid endTag := by decide
  cases position <;> simp [landmarks, hstart, hend]

/-- Room never goes away. -/
theorem HasRoom.injectAll {code : Text} {position : Position} (h : HasRoom code position)
    (specs : List Spec) : HasRoom (Spec.injectAll specs code) position :=
  Spec.inOrder_injectAll (fun w hw => (solid_landmarks position w hw).toPhrase) specs h

theorem infix_startTag_of_hasRoom {code : Text} {position : Position}
    (h : HasRoom code position) : startTag <:+: code := by
  cases position <;> obtain ⟨a, b, rfl, _⟩ := h <;> exact ⟨a, b, rfl⟩

theorem HasRoom.isPresent_markup {code : Text} {position : Position}
    (h : HasRoom code position) : Markup.isPresent code = true :=
  occursIn_iff.mpr (infix_startTag_of_hasRoom h)

/-- An end marker after any start marker stands after the first one. -/
theorem hasRoom_iff {code before after : Text} {position : Position}
    (hp : position ≠ .beforeContent) (hcut : cut? startTag code = some (before, after)) :
    HasRoom code position ↔ endTag <:+: after := by
  have hcode := cut?_eq_some hcut
  have hmarks : landmarks position = [startTag, endTag] := by
    cases position with
    | beforeContent => exact absurd rfl hp
    | afterContent => rfl
    | rootEnd => rfl
  unfold HasRoom
  rw [hmarks]
  constructor
  · intro h
    obtain ⟨a, b, hab, hb⟩ := h
    -- the first start marker stands no later than the one that was given
    have hfirst := cut?_first hcut hab
    have hsuffix : b <:+ after := by
      refine List.suffix_of_suffix_length_le ⟨a ++ startTag, hab.symm⟩
        ⟨before ++ startTag, hcode⟩ ?_
      have hlen := congrArg List.length (hcode.trans hab)
      simp only [List.length_append] at hlen
      omega
    exact (inOrder_singleton.mp hb).trans hsuffix.isInfix
  · intro h
    exact ⟨before, after, hcode.symm, inOrder_singleton.mpr h⟩

instance (code : Text) (position : Position) : Decidable (HasRoom code position) :=
  match hcut : cut? startTag code with
  | none => isFalse fun h => cut?_eq_none.mp hcut (infix_startTag_of_hasRoom h)
  | some (before, after) =>
      if hp : position = .beforeContent then
        isTrue (hp ▸ ⟨before, after, (cut?_eq_some hcut).symm, trivial⟩)
      else decidable_of_iff (occursIn endTag after = true)
        (occursIn_iff.trans (hasRoom_iff hp hcut).symm)

theorem infix_insertAtEnd (p content q tag : Text) : tag <:+: insertAtEnd p content q tag :=
  ⟨p ++ content ++ "  ".toList, ['\n'] ++ q, by simp [insertAtEnd]⟩

theorem infix_insertAfterRoot (p content q tag : Text) :
    tag <:+: insertAfterRoot p content q tag := by
  unfold insertAfterRoot
  split
  · exact infix_insertAtEnd p content q tag
  · rename_i cut _
    exact ⟨p ++ cut.before ++ trimRight cut.found ++ "\n  ".toList,
      blankTail cut.found ++ cut.after ++ q, by simp⟩

/-- **All or nothing in the markup.** Where there is room the tag ends up in the document;
where there is none the document stays as it is. -/
theorem insert_cases (code tag : Text) (position : Position) :
    HasRoom code position ∧ tag <:+: insert code tag position ∨
      ¬ HasRoom code position ∧ insert code tag position = code := by
  cases hcut : cut? startTag code with
  | none =>
      refine Or.inr ⟨fun h => cut?_eq_none.mp hcut (infix_startTag_of_hasRoom h), ?_⟩
      rw [insert, hcut]
  | some sides =>
      obtain ⟨before, after⟩ := sides
      rw [insert, hcut]
      cases position with
      | beforeContent =>
          refine Or.inl ⟨⟨before, after, (cut?_eq_some hcut).symm, trivial⟩, ?_⟩
          exact ⟨before ++ startTag ++ "\n  ".toList, "\n  ".toList ++ trimLeft after, by simp⟩
      | afterContent =>
          rw [hasRoom_iff (by decide) hcut]
          cases hlast : cutLast? endTag after with
          | none => exact Or.inr ⟨cutLast?_eq_none.mp hlast, by simp [hlast]⟩
          | some inner =>
              obtain ⟨content, rest⟩ := inner
              refine Or.inl ⟨⟨content, rest, cutLast?_eq_some hlast⟩, ?_⟩
              simp only [hlast]
              exact infix_insertAfterRoot _ _ _ _
      | rootEnd =>
          rw [hasRoom_iff (by decide) hcut]
          cases hlast : cutLast? endTag after with
          | none => exact Or.inr ⟨cutLast?_eq_none.mp hlast, by simp [hlast]⟩
          | some inner =>
              obtain ⟨content, rest⟩ := inner
              refine Or.inl ⟨⟨content, rest, cutLast?_eq_some hlast⟩, ?_⟩
              simp only [hlast]
              exact infix_insertAtEnd _ _ _ _

theorem HasRoom.infix_insert {code : Text} {position : Position} (h : HasRoom code position)
    (tag : Text) : tag <:+: insert code tag position := by
  rcases insert_cases code tag position with ⟨_, hin⟩ | ⟨hno, _⟩
  · exact hin
  · exact absurd h hno

end Markup

/-! ## The component stays -/

namespace Spec

/-- The spec has no custom template. An empty one counts as none. -/
def Plain (s : Spec) : Prop := s.customTemplate.getD [] = []

theorem tag_of_plain {s : Spec} (h : s.Plain) : s.tag = s.plainTag := by
  unfold tag
  split
  · rename_i c rest hc
    rw [Plain, hc] at h
    exact absurd h (by simp)
  · rfl

/-- A spec with a name and a path and nothing else. -/
def named (name path : Text) : Spec :=
  { componentName := name, importPath := path, registerName := name, refName := name }

/-- A plain tag opens with the name the component is registered under. -/
theorem opening_prefix_tag {s : Spec} (h : s.Plain) : '<' :: s.registerName <+: s.tag := by
  rw [tag_of_plain h]
  unfold plainTag element
  dsimp only
  rw [List.append_assoc, List.append_assoc, List.append_assoc, List.singleton_append,
    List.cons_prefix_cons]
  exact ⟨rfl, (prefix_join _ _ _).trans (List.prefix_append _ _)⟩

/-- A plain spec is looked for by its name alone. -/
theorem isPresent_of_plain {s : Spec} (h : s.Plain) (code : Text) :
    s.isPresent code = Markup.hasName code s.registerName := by
  unfold isPresent Markup.hasComponent
  rw [Plain] at h
  cases ht : s.customTemplate with
  | none => rw [Markup.hasTemplate, Bool.or_false]
  | some template =>
      rw [ht] at h
      rw [Markup.hasTemplate, show template = [] from h]
      simp

/-- An opening tag is enough for a component to be found. -/
theorem hasName_of_infix {code name : Text} (h : '<' :: name <:+: code) :
    Markup.hasName code name = true := by
  rw [Markup.hasName, Bool.or_eq_true]
  exact Or.inl (Markup.mentions_iff.mpr (Or.inl h))

/-- Injecting where the component is present changes nothing. -/
theorem inject_of_isPresent {s : Spec} {code : Text} (h : s.isPresent code = true) :
    s.inject code = code := by
  unfold inject
  rw [h, Bool.or_true, if_pos rfl]

/-- The registration keeps what stands in the document. -/
theorem infix_register {w code name registerName : Text} (hw : Phrase w) (h : w <:+: code) :
    w <:+: Script.register code name registerName := by
  have hws : ∀ v ∈ [w], Phrase v := fun v hv => List.mem_singleton.mp hv ▸ hw
  rw [← inOrder_singleton] at h ⊢
  rcases Script.edits_register code name registerName with he | ⟨_, mid, hs, he⟩
  · exact he.inOrder hws h
  · exact he.inOrder hws (hs.inOrder hws h)

/-- Where there is room, the opening tag of a plain spec stands in the result. -/
theorem opening_infix_inject {s : Spec} {code : Text} (hw : Phrase ('<' :: s.registerName))
    (hplain : s.Plain) (hroom : Markup.HasRoom code s.position)
    (habsent : s.isPresent code = false) : '<' :: s.registerName <:+: s.inject code := by
  have htag := (opening_prefix_tag hplain).isInfix.trans (hroom.infix_insert s.tag)
  have himported : '<' :: s.registerName <:+: s.imported code := by
    rw [← inOrder_singleton] at htag ⊢
    exact (Script.edits_add _ _ _).inOrder (fun v hv => List.mem_singleton.mp hv ▸ hw) htag
  rw [inject, hroom.isPresent_markup, habsent, if_neg (by simp)]
  exact infix_register hw himported

/-- **Established.** Where there is room, a plain spec finds its component afterwards. -/
theorem isPresent_inject {s : Spec} {code : Text}
    (hname : ∀ c ∈ s.registerName, isInner c = true) (hplain : s.Plain)
    (hroom : Markup.HasRoom code s.position) : s.isPresent (s.inject code) = true := by
  cases hpresent : s.isPresent code with
  | true =>
      rw [inject_of_isPresent hpresent]
      exact hpresent
  | false =>
      rw [isPresent_of_plain hplain]
      exact hasName_of_infix
        (opening_infix_inject (solid_of_inner hname).toPhrase hplain hroom hpresent)

/-- **Kept.** What a plain spec has found it finds after any run. -/
theorem isPresent_injectAll {s : Spec} (hname : ∀ c ∈ s.registerName, isInner c = true)
    (hplain : s.Plain) (specs : List Spec) {code : Text} (h : s.isPresent code = true) :
    s.isPresent (injectAll specs code) = true := by
  rw [isPresent_of_plain hplain] at h ⊢
  exact injectAll_induction (P := fun t => Markup.hasName t s.registerName = true)
    (fun other t => Markup.hasName_inject hname other) specs h

/-- A document that is not refused gets what an injection makes of it. -/
theorem transform_text {s : Spec} {docId code : Text} {targets : Option Targets}
    (h : Outcome.refusal? docId code targets = none) :
    (s.transform docId code targets).text = s.inject code := by
  unfold transform
  rw [h]
  dsimp only
  split
  · rename_i hpresent
    exact (inject_of_isPresent hpresent).symm
  · split
    · rename_i hsame
      exact hsame.symm
    · rfl

/-- A document that is not refused has markup. -/
theorem isPresent_of_refusal? {docId code : Text} {targets : Option Targets}
    (h : Outcome.refusal? docId code targets = none) : Markup.isPresent code = true := by
  cases hm : Markup.isPresent code with
  | true => rfl
  | false =>
      rw [Outcome.refusal?, hm] at h
      split at h
      · exact absurd h (by simp)
      · split at h
        · exact absurd h (by simp)
        · exact absurd h (by simp)

/-- Documents of one name that both have markup are refused alike. -/
theorem refusal?_congr {docId code code' : Text} {targets : Option Targets}
    (h : Markup.isPresent code = Markup.isPresent code') :
    Outcome.refusal? docId code targets = Outcome.refusal? docId code' targets := by
  unfold Outcome.refusal?
  rw [h]

/-- **A component stays.** An opening tag survives every injection. A plain spec finds its
component after injecting it, and from then on it changes nothing and the document is left
alone, whatever is injected before or after. -/
theorem presence_persists {name : Text} (hname : ∀ c ∈ name, isInner c = true) :
    (∀ (s : Spec) (code : Text), '<' :: name <:+: code → '<' :: name <:+: s.inject code) ∧
    ∀ (s : Spec) (code : Text), s.registerName = name → s.Plain →
      Markup.HasRoom code s.position →
      Markup.hasComponent (s.inject code) name none = true ∧
      s.inject (s.inject code) = s.inject code ∧
      (∀ docId targets, Outcome.refusal? docId code targets = none →
        s.transform docId (s.transform docId code targets).text targets =
          .skip docId (s.inject code) .alreadyPresent) ∧
      ∀ earlier later : List Spec, s.inject (injectAll (earlier ++ s :: later) code) =
        injectAll (earlier ++ s :: later) code := by
  refine ⟨fun s code h => s.infix_inject (solid_of_inner hname).toPhrase h, ?_⟩
  rintro s code rfl hplain hroom
  have hpresent := isPresent_inject hname hplain hroom
  refine ⟨?_, inject_of_isPresent hpresent, ?_, ?_⟩
  · rw [isPresent_of_plain hplain] at hpresent
    rw [Markup.hasComponent, hpresent, Bool.true_or]
  · intro docId targets haccept
    -- the result still has markup, so it is not refused either
    have hroom' : Markup.HasRoom (s.inject code) s.position := hroom.injectAll [s]
    have hsame : Markup.isPresent (s.inject code) = Markup.isPresent code := by
      rw [hroom.isPresent_markup, hroom'.isPresent_markup]
    rw [transform_text haccept, transform, refusal?_congr hsame, haccept]
    dsimp only
    rw [if_pos hpresent]
  · -- the earlier specs leave room, and the later ones leave the component
    intro earlier later
    rw [injectAll_append]
    exact inject_of_isPresent (isPresent_injectAll hname hplain later
      (isPresent_inject hname hplain (hroom.injectAll earlier)))

/-- A page with a setup script that gets mended when something is injected. -/
def setupPage : Text :=
  "<template>\n</template>\n<script setup>\nconst a = \x7b\x7d,\n</script>".toList

/-- A spec whose tag opens a script of its own. -/
def scriptOpener : Spec :=
  { named "badge".toList "b".toList with customTemplate := some "<script setup>".toList }

theorem presence_persists_setupPage :
    Markup.HasRoom setupPage .rootEnd ∧
    '<' :: "template".toList <:+: scriptOpener.inject setupPage ∧
    (named "toast".toList "t".toList).transform "a.vue".toList
      ((named "toast".toList "t".toList).transform "a.vue".toList setupPage none).text none =
        .skip "a.vue".toList ((named "toast".toList "t".toList).inject setupPage)
          .alreadyPresent ∧
    (named "toast".toList "t".toList).inject
        (injectAll [scriptOpener, named "toast".toList "t".toList, scriptOpener] setupPage) =
      injectAll [scriptOpener, named "toast".toList "t".toList, scriptOpener] setupPage := by
  have hroom : Markup.HasRoom setupPage .rootEnd := by decide
  have hmarker := presence_persists
    (List.all_eq_true.mp (by decide : "template".toList.all isInner = true))
  have htoast := presence_persists
    (List.all_eq_true.mp (by decide : "toast".toList.all isInner = true))
  obtain ⟨_, _, hskip, hrun⟩ := htoast.2 (named "toast".toList "t".toList) setupPage rfl rfl hroom
  refine ⟨hroom, hmarker.1 scriptOpener setupPage ?_, hskip _ none (by decide), ?_⟩
  · exact ⟨[], ">\n</template>\n<script setup>\nconst a = \x7b\x7d,\n</script>".toList, rfl⟩
  · exact hrun [scriptOpener] [scriptOpener]

end Spec

end Graft
