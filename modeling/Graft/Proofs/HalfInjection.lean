import Graft.Proofs.Origins
import Graft.Proofs.Presence
import Graft.Proofs.Survival

/-!
# When only half of an injection happens

The tag goes in first, and where the markup has no place for it the document stays as it
is (`Markup.insert_cases`). The two later steps do not know that: they go on to import and
register a component that no tag uses, and the document counts as changed.

This file says exactly when that happens (`Spec.half_injected_iff`): the component is not
there, there is no room for its tag, and the import is missing or the registration has
something to do. For the other direction an opening tag in the result has to be traced back
to the document or to one of the texts that were written, and those texts hold one only by
accident (`Spec.Echoes`).
-/

namespace Graft

open Text

/-! ## What the written texts hold -/

/-- A name of letters, digits, underscores and hyphens. -/
def IsTagName (name : Text) : Prop := ∀ c ∈ name, isWord c = true ∨ c = '-'

instance (name : Text) : Decidable (IsTagName name) :=
  decidable_of_iff (name.all (fun c => isWord c || c == '-') = true) (by simp [IsTagName])

theorem IsTagName.inner {name : Text} (h : IsTagName name) : ∀ c ∈ name, isInner c = true := by
  intro c hc
  rcases h c hc with hw | rfl
  · exact isInner_of_isWord hw
  · decide

/-- Other characters do not stand in the opening tag of such a name. -/
theorem IsTagName.not_mem_opening {name : Text} (h : IsTagName name) {c : Char}
    (hc : isWord c = false ∧ c ≠ '-' ∧ c ≠ '<') : c ∉ '<' :: name := by
  intro hm
  rcases List.mem_cons.mp hm with rfl | hm
  · exact hc.2.2 rfl
  · rcases h c hm with hw | rfl
    · rw [hc.1] at hw
      exact absurd hw (by simp)
    · exact hc.2.1 rfl

section Opening

variable {name : Text} (hname : IsTagName name)

include hname

/-- A text set in between others is the only place for an opening tag to come from. -/
theorem infix_middle {p x q : Text} {c : Char} (hp : '<' ∉ p) (hq : '<' ∉ q)
    (hc : isWord c = false ∧ c ≠ '-' ∧ c ≠ '<') :
    '<' :: name <:+: p ++ x ++ c :: q ↔ '<' :: name <:+: x := by
  rw [infix_append_char (hname.not_mem_opening hc), infix_append_of_not_mem hp]
  refine ⟨?_, Or.inl⟩
  intro h
  rcases h with h | h
  · exact h
  · exact absurd (h.subset (by simp)) hq

theorem infix_statement {component path : Text} :
    '<' :: name <:+: Script.Import.statement component path ↔
      '<' :: name <:+: component ∨ '<' :: name <:+: path := by
  have hsplit : Script.Import.statement component path =
      "import ".toList ++ component ++
        ' ' :: ("from '".toList ++ path ++ '\x27' :: ";\n".toList) := by
    unfold Script.Import.statement
    simp
  rw [hsplit, infix_append_char (hname.not_mem_opening (by decide)),
    infix_append_of_not_mem (by decide), infix_middle hname (by decide) (by decide) (by decide)]

/-- The tags of a new script hold the opening tag of a name that `script` starts with. -/
theorem infix_scriptTags {statement l : Text} {c : Char} (hl : '<' ∉ l)
    (hc : isWord c = false ∧ c ≠ '-' ∧ c ≠ '<') :
    '<' :: name <:+: "<script".toList ++ c :: (l ++ statement ++
        '\n' :: ("export default \x7b\x7d\n".toList ++ "</script>\n".toList)) ↔
      name <+: "script".toList ∨ '<' :: name <:+: statement := by
  have hstart : '<' :: name <:+: "<script".toList ↔ name <+: "script".toList := by
    rw [show "<script".toList = '<' :: "script".toList from rfl, List.infix_cons_iff,
      List.cons_prefix_cons]
    refine ⟨?_, fun h => Or.inl ⟨rfl, h⟩⟩
    intro h
    rcases h with h | h
    · exact h.2
    · exact absurd (h.subset List.mem_cons_self) (by decide)
  have hend : '<' :: name <:+: "</script>\n".toList → name <+: "script".toList := by
    intro h
    rw [show "</script>\n".toList = '<' :: '/' :: "script>\n".toList from rfl,
      List.infix_cons_iff, List.cons_prefix_cons] at h
    rcases h with ⟨_, h⟩ | h
    · -- a slash follows the bracket, which no name but the empty one leaves room for
      cases name with
      | nil => exact List.nil_prefix
      | cons d name =>
          rw [List.cons_prefix_cons] at h
          exact absurd (by simp [h.1]) (hname.not_mem_opening (c := '/') (by decide))
    · exact absurd (h.subset List.mem_cons_self) (by decide)
  rw [infix_append_char (hname.not_mem_opening hc), hstart,
    infix_append_char (hname.not_mem_opening (by decide)), infix_append_of_not_mem hl,
    infix_append_of_not_mem (by decide)]
  constructor
  · intro h
    rcases h with h | h | h
    · exact Or.inl h
    · exact Or.inr h
    · exact Or.inl (hend h)
  · intro h
    rcases h with h | h
    · exact Or.inl h
    · exact Or.inr (Or.inl h)

/-- What brings an import into a document holds an opening tag only if the name or the path
does, or if it comes with a script and `script` starts with the name. -/
theorem infix_addition {code component path : Text} :
    '<' :: name <:+: Script.Import.addition code component path ↔
      '<' :: name <:+: component ∨ '<' :: name <:+: path ∨
        Script.startTag? code = none ∧ name <+: "script".toList := by
  unfold Script.Import.addition
  cases htag : Script.startTag? code with
  | some tag =>
      dsimp only
      rw [show ∀ t : Text, '\n' :: t = ['\n'] ++ t from fun _ => rfl,
        infix_append_of_not_mem (by decide), infix_statement hname]
      simp
  | none =>
      dsimp only
      have hscript : '<' :: name <:+: Script.Import.synthesize
          (Script.Import.statement component path) .options (Script.isTyped code) ↔
          name <+: "script".toList ∨ '<' :: name <:+: Script.Import.statement component path := by
        cases Script.isTyped code with
        | false =>
            rw [← infix_scriptTags hname (l := "\n".toList) (c := '>') (by decide)
              (by decide)]
            unfold Script.Import.synthesize
            simp
        | true =>
            rw [← infix_scriptTags hname (l := "lang=\"ts\">\n".toList) (c := ' ')
              (by decide) (by decide)]
            unfold Script.Import.synthesize
            simp
      rw [hscript, infix_statement hname]
      simp only [true_and]
      rw [or_comm, or_assoc]

/-- An entry holds an opening tag only if the component's name does. -/
theorem infix_entry {component : Text} :
    '<' :: name <:+: Script.Registration.entry component name ↔ '<' :: name <:+: component := by
  have hopen : '<' ∉ name := fun h => (isInner_iff.mp (hname.inner _ h)).2.2.1 rfl
  unfold Script.Registration.entry
  refine infix_append_of_not_mem ?_
  unfold Script.Registration.key
  split <;> simp [hopen]

/-- So does everything else that a registration writes. -/
theorem infix_registration {component x : Text}
    (hx : x ∈ Script.Registration.additions component name) (h : '<' :: name <:+: x) :
    '<' :: name <:+: component := by
  have hmiddle : ∀ {p q : Text} {c : Char}, '<' ∉ p → '<' ∉ q →
      (isWord c = false ∧ c ≠ '-' ∧ c ≠ '<') →
      '<' :: name <:+: p ++ Script.Registration.entry component name ++ c :: q →
      '<' :: name <:+: component := fun hp hq hc h =>
    (infix_entry hname).mp ((infix_middle hname hp hq hc).mp h)
  simp only [Script.Registration.additions, List.mem_cons, List.not_mem_nil, or_false] at hx
  rcases hx with rfl | rfl | rfl | rfl | rfl | rfl | rfl | rfl
  · exact absurd (h.subset List.mem_cons_self) (by decide)
  · exact (infix_entry hname).mp ((infix_append_of_not_mem (a := [' ']) (by decide)).mp h)
  · exact (infix_entry hname).mp ((infix_append_of_not_mem (a := [',', ' ']) (by decide)).mp h)
  · exact hmiddle (p := "\n  components: \x7b\n    ".toList) (c := '\n')
      (q := "  \x7d".toList) (by decide) (by decide) (by decide) h
  · refine hmiddle (p := "\n  components: \x7b\n    ".toList) (c := '\n')
      (q := "  \x7d,".toList) (by decide) (by decide) (by decide) ?_
    rw [List.append_assoc] at h
    exact h
  · refine hmiddle (p := "\nexport default defineComponent(\x7b\n  components: \x7b\n    ".toList)
      (c := '\n') (q := "  \x7d\n\x7d)\n".toList) (by decide) (by decide) (by decide) ?_
    unfold Script.Registration.exportText at h
    simpa using h
  · refine hmiddle (p := "\nexport default \x7b\n  components: \x7b\n    ".toList)
      (c := '\n') (q := "  \x7d\n\x7d\n".toList) (by decide) (by decide) (by decide) ?_
    unfold Script.Registration.exportText at h
    simpa using h
  · exact absurd (h.subset List.mem_cons_self) (by decide)

/-- **Traced back over the later steps.** -/
theorem opening_origin {code component path : Text}
    (h : '<' :: name <:+: Script.register (Script.Import.add code component path) component name) :
    '<' :: name <:+: code ∨ '<' :: name <:+: component ∨
      Script.Import.present code component = false ∧
        '<' :: name <:+: Script.Import.addition code component path := by
  have hsolid : Solid ('<' :: name) := solid_of_inner hname.inner
  have hcolon : ':' ∉ '<' :: name := hname.not_mem_opening (by decide)
  have himported : '<' :: name <:+: Script.Import.add code component path ∨
      '<' :: name <:+: component := by
    rcases Script.edits_register (Script.Import.add code component path) component name with
      he | ⟨_, mid, hs, he⟩
    · rcases he.infix_origin hsolid hcolon h with h | ⟨x, hx, h⟩
      · exact Or.inl h
      · exact Or.inr (infix_registration hname hx h)
    · rcases he.infix_origin hsolid hcolon h with h | ⟨x, hx, h⟩
      · exact Or.inl (hs.infix_origin hsolid h)
      · exact Or.inr (infix_registration hname hx h)
  rcases himported with h | h
  · cases hpresent : Script.Import.present code component with
    | true =>
        rw [Script.Import.add, if_pos hpresent] at h
        exact Or.inl h
    | false =>
        rcases (Script.edits_add code component path).infix_origin hsolid hcolon h with
          h | ⟨x, rfl, h⟩
        · exact Or.inl h
        · exact Or.inr (Or.inr ⟨rfl, h⟩)
  · exact Or.inr (Or.inl h)

end Opening

/-! ## The later steps change something -/

/-- A document that imports a name holds it. -/
theorem Script.Import.infix_of_present {code name : Text} (h : present code name = true) :
    name <:+: code := by
  obtain ⟨x, w, after, rfl, p, hp, hf⟩ := Pattern.occurs_iff.mp h
  have hin : name <:+: w := by
    simp only [patterns, List.mem_cons, List.not_mem_nil, or_false] at hp
    rcases hp with rfl | rfl
    · simp only [Pattern.fits_append, Pattern.fits_exactly] at hf
      obtain ⟨_, v, rfl, ⟨_, u, rfl, ⟨t, _, rfl, _, rfl⟩, _⟩, _⟩ := hf
      exact ⟨t, u ++ v, by simp⟩
    · simp only [Pattern.fits_append, Pattern.fits_exactly] at hf
      obtain ⟨_, v₁, rfl, ⟨_, v₂, rfl, ⟨_, v₃, rfl, ⟨_, v₄, rfl, ⟨t, _, rfl, _, rfl⟩, _⟩, _⟩, _⟩,
        _⟩ := hf
      exact ⟨t, v₄ ++ v₃ ++ v₂ ++ v₁, by simp⟩
  exact hin.trans ⟨x, after, by simp⟩

/-- An import is at least two characters. -/
theorem Script.Import.two_le_addition (code name path : Text) :
    2 ≤ (nonBlank (addition code name path)).length := by
  have hstatement : ∀ p q, 2 ≤ (nonBlank (p ++ statement name path ++ q)).length := by
    intro p q
    have hword : (nonBlank "import ".toList).length = 6 := by decide
    unfold statement
    simp only [nonBlank_append, List.length_append]
    omega
  unfold addition
  cases startTag? code with
  | none =>
      dsimp only
      unfold synthesize
      exact hstatement _ _
  | some tag => simpa using hstatement ['\n'] []

namespace Spec

/-- A document that gains an import does not come out as it was: the registration takes
away one character at most. -/
theorem register_add_ne {code name path : Text} (registerName : Text)
    (h : Script.Import.present code name = false) :
    Script.register (Script.Import.add code name path) name registerName ≠ code := by
  obtain ⟨a, b, hcode, hadd, _⟩ := Script.Import.add_of_absent path h
  have hgain := Script.Import.two_le_addition code name path
  have hlength : (nonBlank code).length + 2 ≤
      (nonBlank (Script.Import.add code name path)).length := by
    rw [hadd]
    nth_rewrite 1 [hcode]
    simp only [nonBlank_append, List.length_append]
    omega
  -- two characters in and at most one out
  have hkeep : (nonBlank (Script.Import.add code name path)).length ≤
      (nonBlank (Script.register (Script.Import.add code name path) name registerName)).length +
        1 := by
    rcases Script.edits_register (Script.Import.add code name path) name registerName with
      he | ⟨_, mid, hs, he⟩
    · have := he.nonBlank_sublist.length_le
      omega
    · obtain ⟨x, c, y, _, hold, hnew⟩ := hs.oneGone
      have := he.nonBlank_sublist.length_le
      rw [hnew] at this
      rw [hold]
      simp only [List.length_append, List.length_cons] at this ⊢
      omega
  intro hsame
  rw [hsame] at hkeep
  omega

/-! ## Half an injection -/

/-- The component is not in the document and there is no place for its tag, but the later
steps still find something to write. -/
def Stranded (s : Spec) (code : Text) : Prop :=
  s.isPresent code = false ∧ ¬ Markup.HasRoom code s.position ∧
    (Script.Import.present code s.componentName = false ∨
      Script.register code s.componentName s.registerName ≠ code)

/-- The import happens to be written with the opening tag of the component in it: in the
imported name, in the path, or in the tag of the script around it. -/
def Echoes (s : Spec) (code : Text) : Prop :=
  Script.Import.present code s.componentName = false ∧
    ('<' :: s.registerName <:+: s.componentName ∨ '<' :: s.registerName <:+: s.importPath ∨
      Script.startTag? code = none ∧ s.registerName <+: "script".toList)

theorem opening_not_infix {s : Spec} {code : Text} (hplain : s.Plain)
    (h : s.isPresent code = false) : ¬ '<' :: s.registerName <:+: code := by
  intro hin
  rw [isPresent_of_plain hplain, hasName_of_infix hin] at h
  exact absurd h (by simp)

/-- Without room for the tag an injection is what the later steps make of the document. -/
theorem inject_of_no_room {s : Spec} {code : Text} (hmarkup : Markup.isPresent code = true)
    (habsent : s.isPresent code = false) (hroom : ¬ Markup.HasRoom code s.position) :
    s.inject code = Script.register (Script.Import.add code s.componentName s.importPath)
      s.componentName s.registerName := by
  rcases Markup.insert_cases code s.tag s.position with ⟨h, _⟩ | ⟨_, hinsert⟩
  · exact absurd h hroom
  · rw [inject, hmarkup, habsent, if_neg (by simp), inserted, imported, hinsert]

theorem Stranded.inject_ne {s : Spec} {code : Text} (h : s.Stranded code)
    (hmarkup : Markup.isPresent code = true) : s.inject code ≠ code := by
  obtain ⟨habsent, hroom, hcause⟩ := h
  rw [inject_of_no_room hmarkup habsent hroom]
  cases himport : Script.Import.present code s.componentName with
  | false => exact register_add_ne s.registerName himport
  | true =>
      rw [Script.Import.add, if_pos himport]
      rcases hcause with hcause | hcause
      · rw [himport] at hcause
        exact absurd hcause (by simp)
      · exact hcause

/-- Where the tag does not go in, the document changes exactly when the component is
stranded. -/
theorem unplaced_changes_iff {s : Spec} (hplain : s.Plain) (code : Text) :
    Markup.insert code s.tag s.position = code ∧ s.inject code ≠ code ↔
      Markup.isPresent code = true ∧ s.Stranded code := by
  constructor
  · intro h
    obtain ⟨hinsert, hchange⟩ := h
    have hgate : Markup.isPresent code = true ∧ s.isPresent code = false := by
      by_contra hgate
      refine hchange ?_
      rw [inject, if_pos]
      cases hm : Markup.isPresent code <;> cases hp : s.isPresent code <;> simp_all
    obtain ⟨hmarkup, habsent⟩ := hgate
    -- a tag that found its place would be in the document already
    have hroom : ¬ Markup.HasRoom code s.position := by
      intro hroom
      have hin := (opening_prefix_tag hplain).isInfix.trans (hroom.infix_insert s.tag)
      rw [hinsert] at hin
      exact opening_not_infix hplain habsent hin
    refine ⟨hmarkup, habsent, hroom, ?_⟩
    cases himport : Script.Import.present code s.componentName with
    | false => exact Or.inl rfl
    | true =>
        rw [inject_of_no_room hmarkup habsent hroom, Script.Import.add, if_pos himport] at hchange
        exact Or.inr hchange
  · intro h
    obtain ⟨hmarkup, hstranded⟩ := h
    refine ⟨?_, hstranded.inject_ne hmarkup⟩
    rcases Markup.insert_cases code s.tag s.position with ⟨h, _⟩ | ⟨_, hinsert⟩
    · exact absurd h hstranded.2.1
    · exact hinsert

/-- A stranded component has its opening tag in the result only by accident. -/
theorem Stranded.opening_infix_iff {s : Spec} {code : Text} (h : s.Stranded code)
    (hplain : s.Plain) (hname : IsTagName s.registerName)
    (hmarkup : Markup.isPresent code = true) :
    '<' :: s.registerName <:+: s.inject code ↔ s.Echoes code := by
  obtain ⟨habsent, hroom, _⟩ := h
  have hnot := opening_not_infix hplain habsent
  constructor
  · intro hin
    rw [inject_of_no_room hmarkup habsent hroom] at hin
    rcases opening_origin hname hin with hin | hin | ⟨himport, hin⟩
    · exact absurd hin hnot
    · -- a name that was imported before would stand in the document
      cases himport : Script.Import.present code s.componentName with
      | true => exact absurd (hin.trans (Script.Import.infix_of_present himport)) hnot
      | false => exact ⟨himport, Or.inl hin⟩
    · exact ⟨himport, (infix_addition hname).mp hin⟩
  · intro h
    obtain ⟨himport, hin⟩ := h
    obtain ⟨a, b, _, hadd, _⟩ := Script.Import.add_of_absent s.importPath himport
    have himported : '<' :: s.registerName <:+:
        Script.Import.add code s.componentName s.importPath := by
      rw [hadd]
      exact ((infix_addition hname).mpr hin).trans ⟨a, b, rfl⟩
    rw [inject_of_no_room hmarkup habsent hroom]
    exact infix_register (solid_of_inner hname.inner).toPhrase himported

/-- A document is changed if it is not refused, does not hold the component, and does not
come out as it was. -/
theorem mutated_iff {s : Spec} {docId code : Text} {targets : Option Targets} :
    (s.transform docId code targets).mutated = true ↔
      Outcome.refusal? docId code targets = none ∧ s.isPresent code = false ∧
        s.inject code ≠ code := by
  unfold transform
  cases hrefusal : Outcome.refusal? docId code targets with
  | some reason => simp [Outcome.mutated, Outcome.skip]
  | none =>
      dsimp only
      cases hpresent : s.isPresent code with
      | true => simp [Outcome.mutated, Outcome.skip]
      | false =>
          by_cases hsame : s.inject code = code
          · simp [hsame, Outcome.mutated, Outcome.skip]
          · simp [hsame, Outcome.mutated]

/-- **Half an injection.** A changed document lacks the opening tag exactly when the
component is stranded and the import does not hold that tag by accident. Where the tag
does not go in, the document changes exactly when the component is stranded. -/
theorem half_injected_iff {s : Spec} (hplain : s.Plain) (hname : IsTagName s.registerName)
    (docId code : Text) (targets : Option Targets) :
    ((s.transform docId code targets).mutated = true ∧
        ¬ '<' :: s.registerName <:+: (s.transform docId code targets).text ↔
      Outcome.refusal? docId code targets = none ∧ s.Stranded code ∧ ¬ s.Echoes code) ∧
    (Markup.insert code s.tag s.position = code ∧ s.inject code ≠ code ↔
      Markup.isPresent code = true ∧ s.Stranded code) := by
  have hunplaced := unplaced_changes_iff hplain code
  refine ⟨?_, hunplaced⟩
  rw [mutated_iff]
  constructor
  · intro h
    obtain ⟨⟨haccept, habsent, hchange⟩, hout⟩ := h
    have hmarkup := isPresent_of_refusal? haccept
    rw [transform_text haccept] at hout
    have hroom : ¬ Markup.HasRoom code s.position :=
      fun hroom => hout (opening_infix_inject (solid_of_inner hname.inner).toPhrase hplain hroom
        habsent)
    rcases Markup.insert_cases code s.tag s.position with ⟨h, _⟩ | ⟨_, hinsert⟩
    · exact absurd h hroom
    · have hstranded := (hunplaced.mp ⟨hinsert, hchange⟩).2
      exact ⟨haccept, hstranded, fun h => hout ((hstranded.opening_infix_iff hplain hname
        hmarkup).mpr h)⟩
  · intro h
    obtain ⟨haccept, hstranded, hecho⟩ := h
    have hmarkup := isPresent_of_refusal? haccept
    refine ⟨⟨haccept, hstranded.1, hstranded.inject_ne hmarkup⟩, ?_⟩
    rw [transform_text haccept, hstranded.opening_infix_iff hplain hname hmarkup]
    exact hecho

/-- A page whose markup never ends. -/
def openPage : Text :=
  "<template><view/>\n<script>\nexport default \x7b\x7d\n</script>".toList

/-- The page comes out with an import and a registration, and without the tag. -/
theorem openPage_half_injected :
    ((named "toast".toList "./t.vue".toList).transform "a.vue".toList openPage none).mutated =
        true ∧
      ¬ "<toast".toList <:+:
        ((named "toast".toList "./t.vue".toList).transform "a.vue".toList openPage none).text ∧
      Markup.insert openPage (named "toast".toList "./t.vue".toList).tag .rootEnd = openPage ∧
      (named "toast".toList "./t.vue".toList).inject openPage ≠ openPage := by
  have hstranded : (named "toast".toList "./t.vue".toList).Stranded openPage :=
    ⟨by decide +kernel, by decide +kernel, Or.inl (by decide +kernel)⟩
  have hecho : ¬ (named "toast".toList "./t.vue".toList).Echoes openPage := by
    intro h
    rcases h.2 with h | h | h
    · exact absurd h (by decide +kernel)
    · exact absurd h (by decide +kernel)
    · exact absurd h.1 (by decide +kernel)
  obtain ⟨hhalf, hunplaced⟩ := half_injected_iff (s := named "toast".toList "./t.vue".toList) rfl
    (by decide) "a.vue".toList openPage none
  obtain ⟨hmutated, hout⟩ := hhalf.mpr ⟨by decide +kernel, hstranded, hecho⟩
  exact ⟨hmutated, hout, hunplaced.mpr ⟨by decide +kernel, hstranded⟩⟩

end Spec

end Graft
