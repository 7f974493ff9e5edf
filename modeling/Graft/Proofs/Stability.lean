import Graft.Proofs.Detection
import Graft.Proofs.Names

/-!
# A script is read the same after an import

Every step looks at the document afresh. What it sees must not depend on which steps ran
before it, or the import would decide how the component is registered. The import goes to
the front of the body, so the question is whether any of the shapes that are looked for can
start in it.

Each of these shapes is a word, blanks and one more character (`Pattern.Leads`). Where a
word is imported from a plain path no such thing starts: the name is followed by `from`,
the path by a quote, and neither is what comes behind the word (`Import.Foreign.silent`).
So the text in front is passed over by the search for an export, for a `components` key and
for a stray comma or brace. The facts about the script stay the same but for its end
(`detection_stable`), and a setup script is only mended, as if the import were not there.
-/

namespace Graft.Script

open Text

/-! ## The frame of a script -/

/-- Two documents have the same first start tag at the same place, the same text from the
last end tag on, and scripts of the same style. -/
structure SameFrame (code code' : Text) : Prop where
  /-- The start tag and what stands before it. -/
  startTag : ∃ before found after after', startTag? code = some ⟨before, found, after⟩ ∧
    startTag? code' = some ⟨before, found, after'⟩
  /-- What follows the last end tag. -/
  endTag : ∃ before before' rest, cutLast? endTag code = some (before, rest) ∧
    cutLast? endTag code' = some (before', rest)
  /-- The style. -/
  dialect : (detect code').dialect = (detect code).dialect

/-- A new body leaves the frame as it is. -/
theorem sameFrame_replace {code : Text} {r : Region} (h : region? code = some r) (body : Text) :
    SameFrame code (r.head ++ body ++ r.tail) := by
  have hcode : r.head ++ r.body ++ r.tail = code := region?_eq_some h
  obtain ⟨cut, rest, hcut, _, hlast, hhead, htail⟩ := region?_eq_some_iff.mp h
  have hstop : ∀ x, cutLast? endTag (r.head ++ x ++ r.tail) = some (r.head ++ x, rest) := by
    intro x
    rw [endTag_eq, cutLast?_eq_some_iff (by decide), htail, ← endTag_eq]
    exact ⟨by simp, hlast⟩
  refine ⟨⟨cut.before, cut.found, cut.after, body ++ r.tail, hcut, ?_⟩, ?_, dialect_replace h body⟩
  · rw [List.append_assoc, hhead]
    exact startTag?_replace hcut
  · exact ⟨_, _, rest, hcode ▸ hstop r.body, hstop body⟩

/-! ## What a search can find in an import -/

/-- A character of a plain path: no blank, no quote, no brace, and neither a parenthesis
that opens nor a colon. -/
def Import.isPathChar (c : Char) : Bool :=
  !isBlank c && !"\x27\"(\x7b\x7d:".toList.contains c

/-- None of these is part of a word. -/
theorem not_isWord : ∀ c ∈ "\n(\x7b\x7d:=".toList, isWord c = false :=
  forall_of_all (by decide +kernel)

theorem Import.line_last (name path : Text) : (line name path).getLast?.any isWord = false := by
  rw [getLast?_line]
  exact not_isWord '\n' (by decide)

theorem Import.length_line (name path : Text) :
    (line name path).length = 18 + name.length + path.length := by
  rw [line_eq]
  simp only [List.length_append, String.length_toList]
  have h₁ : "\nimport ".length = 8 := by decide
  have h₂ : " from \x27".length = 7 := by decide
  have h₃ : "\x27;\n".length = 3 := by decide
  omega

theorem Import.line_append_ne (name path t : Text) : line name path ++ t ≠ t := by
  intro h
  have hlength := congrArg List.length h
  rw [List.length_append, length_line] at hlength
  omega

/-- The characters that an import has besides the name and the path. -/
def Import.letters : Text := "\nimport from \x27;".toList

/-- A shape that nothing in an import looks like: a word that starts with another letter, and
then a character that comes neither behind the name nor behind the path. -/
structure Import.Foreign (p : Pattern) (word : Text) (d : Char) : Prop where
  /-- The word and the character that lead every fit. -/
  leads : p.Leads word d
  /-- The word has no blank and no quote. -/
  inner : ∀ c ∈ word, isBlank c = false ∧ c ≠ '\x27'
  /-- It does not start in the fixed parts of the import. -/
  start : word.head?.any (fun c => !letters.contains c) = true
  /-- Neither the next word nor the quote goes on with it. -/
  next : isBlank d = false ∧ d ≠ 'f' ∧ d ≠ '\x27'
  /-- The path does not have the character, or there is a blank before it. -/
  plain : isWord d = true ∨ isPathChar d = false

theorem Import.Foreign.silent_letters {p : Pattern} {word front rest : Text} {d : Char}
    (h : Foreign p word d) (hfront : front ⊆ letters) : Pattern.Silent p front rest := by
  refine Pattern.silent_of_heads (f := fun c => !letters.contains c) ?_ ?_
  · intro b w after hf
    obtain ⟨ws, v, _, rfl, _⟩ := h.leads b w after hf
    have hstart := h.start
    cases word with
    | nil => exact absurd hstart (by simp)
    | cons c word => exact hstart
  · intro c hc
    have hmem := hfront hc
    simpa only [Bool.not_eq_false', List.contains_iff_mem] using hmem

theorem Import.Foreign.append {p : Pattern} {word : Text} {d : Char} (h : Foreign p word d)
    (q : Pattern) : Foreign (p ++ q) word d :=
  ⟨h.leads.append q, h.inner, h.start, h.next, h.plain⟩

/-- A default export is foreign to an import. -/
theorem Import.foreign_export : Foreign (Pattern.exactly "export".toList ++ Pattern.spacing ++
    Pattern.exactly "default".toList) "export".toList 'd' :=
  ⟨Pattern.leads_spacing, forall_of_all (by decide), by decide, by decide,
    Or.inl (by decide +kernel)⟩

/-- So is the call of the function that defines a component. -/
theorem Import.foreign_call : Foreign (Pattern.exactly "defineComponent".toList ++
    Pattern.blanks ++ Pattern.exactly ['(']) "defineComponent".toList '(' :=
  ⟨Pattern.leads_blanks (not_isWord '(' (by decide)), forall_of_all (by decide), by decide,
    by decide, Or.inr (by decide)⟩

/-- So is a `components` key. -/
theorem Import.foreign_key : Foreign Registration.keyPattern "components".toList ':' :=
  ⟨(Pattern.leads_blanks (not_isWord ':' (by decide))).edge, forall_of_all (by decide),
    by decide, by decide, Or.inr (by decide)⟩

/-- A character that is in none of the parts of an import is not in it. -/
theorem Import.not_mem_line_of_parts {name path : Text} {d : Char} (hname : d ∉ name)
    (hpath : d ∉ path) (hfixed : d ∉ letters) : d ∉ line name path := by
  intro hm
  rw [line_eq] at hm
  simp only [List.mem_append] at hm
  rcases hm with hm | hm | hm | hm | hm
  · exact hfixed ((by decide : "\nimport ".toList ⊆ letters) hm)
  · exact hname hm
  · exact hfixed ((by decide : " from \x27".toList ⊆ letters) hm)
  · exact hpath hm
  · exact hfixed ((by decide : "\x27;\n".toList ⊆ letters) hm)

section Line

variable {name path : Text} (hname : ∀ c ∈ name, isWord c = true)
  (hpath : ∀ c ∈ path, Import.isPathChar c = true)

include hname hpath

theorem Import.not_mem_line {d : Char} (hword : isWord d = false)
    (hplain : isPathChar d = false) (hfixed : d ∉ letters) :
    d ∉ line name path :=
  not_mem_line_of_parts (not_mem_of_forall hname hword) (not_mem_of_forall hpath hplain) hfixed

/-- **Nothing starts in an import.** The words of an import are followed by a word or by a
quote, and never by what a foreign shape goes on with. -/
theorem Import.Foreign.silent {p : Pattern} {word : Text} {d : Char} (h : Foreign p word d)
    (rest : Text) : Pattern.Silent p (line name path) rest := by
  have hfirst : Pattern.Silent p name
      (" from \x27".toList ++ (path ++ "\x27;\n".toList) ++ rest) := by
    refine h.leads.silent ?_ ?_ ?_ ?_
    · exact fun e he => (isInner_iff.mp (isInner_of_isWord (hname e he))).1
    · exact not_mem_of_forall hname
    · exact fun hm => absurd (h.inner _ hm).1 (by decide)
    · -- one blank, and then a letter
      intro ws x hws he
      obtain heq | ⟨_, ws', hws', he'⟩ := Pattern.blanks_append_cases hws he
      · exact absurd (heq ▸ h.next.1) (by decide)
      · obtain heq | ⟨hf, _⟩ := Pattern.blanks_append_cases hws' he'
        · exact h.next.2.1 heq.symm
        · exact absurd hf (by decide)
  have hsecond : Pattern.Silent p path ("\x27;\n".toList ++ rest) := by
    refine h.leads.silent ?_ ?_ ?_ ?_
    · intro e he
      have hchar := hpath e he
      rw [isPathChar, Bool.and_eq_true, Bool.not_eq_true'] at hchar
      exact hchar.1
    · intro hd
      rcases h.plain with hword | hplain
      · rw [hd] at hword
        exact absurd hword (by simp)
      · exact not_mem_of_forall hpath hplain
    · exact fun hm => (h.inner _ hm).2 rfl
    · intro ws x hws he
      obtain heq | ⟨hq, _⟩ := Pattern.blanks_append_cases hws he
      · exact h.next.2.2 heq.symm
      · exact absurd hq (by decide)
  rw [line_eq]
  refine Pattern.silent_append (h.silent_letters (by decide)) (Pattern.silent_append hfirst ?_)
  refine Pattern.silent_append (h.silent_letters (by decide)) (Pattern.silent_append hsecond ?_)
  exact h.silent_letters (by decide)

/-- The import does not say that the script is typed: an equals sign can only stand in the
path, and behind it there is only one quote. -/
theorem Import.isTyped_line : isTyped (line name path) = false := by
  rw [Bool.eq_false_iff]
  intro h
  obtain ⟨w, ⟨q, hq, lang, _, ws₁, ws₂, _, rfl⟩, hin⟩ := isTyped_iff.mp h
  have hnone : q ∉ path := not_mem_of_forall hpath
    (forall_of_all (P := fun q => isPathChar q = false) (by decide) q hq)
  have hequals : '=' ∉ name := not_mem_of_forall hname (not_isWord '=' (by decide))
  -- what follows the equals sign has two quotes
  have htail : '=' :: (ws₂ ++ (q :: lang ++ [q])) <:+: line name path :=
    List.IsInfix.trans ⟨"lang".toList ++ ws₁, [], by simp⟩ hin
  rw [line_eq, infix_append_of_not_mem (by decide), infix_append_of_not_mem hequals,
    infix_append_of_not_mem (by decide)] at htail
  have hcount := htail.sublist.count_le q
  have htwo : 2 ≤ ('=' :: (ws₂ ++ (q :: lang ++ [q]))).count q := by
    simp only [List.count_cons, List.count_append, List.count_nil, beq_self_eq_true, if_true]
    omega
  have hone : (path ++ "\x27;\n".toList).count q ≤ 1 := by
    rw [List.count_append, List.count_eq_zero.mpr hnone]
    exact forall_of_all (P := fun q => 0 + "\x27;\n".toList.count q ≤ 1) (by decide) q hq
  omega

/-! ## The facts about the script -/

/-- An export is found behind the import or not at all. -/
theorem hasExport_line (body : Text) :
    hasExport (Import.line name path ++ body) = hasExport body := by
  refine Pattern.occurs_skip ?_ (Import.line_last name path)
  intro p hp
  simp only [List.mem_cons, List.not_mem_nil, or_false] at hp
  rcases hp with rfl | rfl
  · exact (Import.foreign_export.append _).silent hname hpath body
  · exact Import.foreign_call.silent hname hpath body

/-- So is a `components` key, and with it the shape of the script. -/
theorem Registration.state_line (body : Text) :
    State.of (hasExport (Import.line name path ++ body)) (Import.line name path ++ body) =
      State.of (hasExport body) body := by
  have hkey : Pattern.occurs [keyPattern] (Import.line name path ++ body) =
      Pattern.occurs [keyPattern] body :=
    Pattern.occurs_skip (List.forall_mem_singleton.mpr (Import.foreign_key.silent hname hpath body))
      (Import.line_last name path)
  rw [hasExport_line hname hpath, State.of, State.of, hkey]

/-! ## The repair -/

/-- No rule finds its shape at a place in the import. -/
theorem Repair.Rule.silent_line (rule : Rule) (body : Text) :
    Pattern.Silent (rule.shape ++ Pattern.blanks ++ [.finish]) (Import.line name path) body := by
  have hbrace : ∀ {q : Pattern},
      Pattern.Silent (.one (· == '}') :: q) (Import.line name path) body := by
    intro q
    refine Pattern.silent_of_heads (f := (· == '}')) ?_ ?_
    · intro b w after hf
      obtain ⟨c, v, rfl, hc, _⟩ := hf
      exact hc
    · intro c hc
      rw [beq_eq_false_iff_ne]
      rintro rfl
      exact Import.not_mem_line hname hpath (not_isWord '}' (by decide)) (by decide) (by decide) hc
  cases rule with
  | doubledClose => exact hbrace
  | commaBeforeClose =>
      have h : Import.Foreign (shape .commaBeforeClose) [','] '}' :=
        ⟨Pattern.leads_blanks (not_isWord '}' (by decide)), forall_of_all (by decide), by decide,
          by decide, Or.inr (by decide)⟩
      exact ((h.append _).append _).silent hname hpath body
  | commaAfterClose => exact hbrace
  | extraClose => exact hbrace

/-- The import has no braces to count. -/
theorem Repair.Rule.admits_line (rule : Rule) (body : Text) :
    rule.admits (Import.line name path ++ body) = rule.admits body := by
  have hopen : (Import.line name path).count '{' = 0 := List.count_eq_zero.mpr
    (Import.not_mem_line hname hpath (not_isWord '{' (by decide)) (by decide) (by decide))
  have hclose : (Import.line name path).count '}' = 0 := List.count_eq_zero.mpr
    (Import.not_mem_line hname hpath (not_isWord '}' (by decide)) (by decide) (by decide))
  cases rule with
  | doubledClose => rfl
  | commaBeforeClose => rfl
  | commaAfterClose => rfl
  | extraClose =>
      unfold admits
      rw [List.count_append, List.count_append, hopen, hclose, Nat.zero_add, Nat.zero_add]

theorem Repair.Rule.mend?_line (rule : Rule) (body : Text) :
    rule.mend? (Import.line name path ++ body) =
      (rule.mend? body).map (Import.line name path ++ ·) := by
  have hskip : ∀ p ∈ [rule.shape ++ Pattern.blanks ++ [.finish]],
      Pattern.Silent p (Import.line name path) body :=
    List.forall_mem_singleton.mpr (Rule.silent_line hname hpath rule body)
  unfold mend?
  rw [Pattern.search?_skip hskip (Import.line_last name path), Rule.admits_line hname hpath]
  cases Pattern.search? [rule.shape ++ Pattern.blanks ++ [.finish]] body with
  | none => rfl
  | some cut =>
      dsimp only [Option.map_some]
      split
      · simp only [Option.map_some, List.append_assoc]
      · rfl

/-- **The repair does not see the import.** -/
theorem Repair.mend_line (body : Text) :
    mend (Import.line name path ++ body) = Import.line name path ++ mend body := by
  have hfirst : first? (Import.line name path ++ body) =
      (first? body).map fun found => (found.1, Import.line name path ++ found.2) := by
    rw [first?_eq, first?_eq, List.map_findSome?]
    congr 1
    funext rule
    dsimp only [Function.comp]
    rw [Rule.mend?_line hname hpath]
    cases rule.mend? body with
    | none => rfl
    | some mended => rfl
  unfold mend
  rw [hfirst]
  cases first? body with
  | none => rfl
  | some found => rfl

/-! ## The registration -/

/-- A map is extended behind the import. -/
theorem Registration.mergeIntoMap_line (body component registerName : Text) :
    mergeIntoMap (Import.line name path ++ body) component registerName =
      Import.line name path ++ mergeIntoMap body component registerName := by
  have hmap : Import.Foreign mapPattern "components".toList ':' :=
    (((Import.foreign_key.append _).append _).append _).append _
  have hskip : ∀ p ∈ [mapPattern], Pattern.Silent p (Import.line name path) body :=
    List.forall_mem_singleton.mpr (hmap.silent hname hpath body)
  unfold mergeIntoMap
  rw [Pattern.search?_skip hskip (Import.line_last name path)]
  cases Pattern.search? [mapPattern] body with
  | none => rfl
  | some cut =>
      dsimp only [Option.map_some]
      split
      · rfl
      · simp only [List.append_assoc]

/-- The exported object is found behind the import. -/
theorem Registration.exportOpening?_line (body : Text) :
    exportOpening? (Import.line name path ++ body) = (exportOpening? body).map
      fun cut => { cut with before := Import.line name path ++ cut.before } := by
  have hskip : ∀ p ∈ exportPatterns, Pattern.Silent p (Import.line name path) body := by
    intro p hp
    simp only [exportPatterns, List.mem_cons, List.not_mem_nil, or_false] at hp
    rcases hp with rfl | rfl
    · exact (((Import.foreign_export.append _).append _).append _).silent hname hpath body
    · exact ((Import.foreign_export.append _).append _).silent hname hpath body
  have hskip' : ∀ p ∈ [callPattern ++ Pattern.exactly ['{']],
      Pattern.Silent p (Import.line name path) body :=
    List.forall_mem_singleton.mpr
      (((Import.foreign_call.append _).append _).silent hname hpath body)
  unfold exportOpening?
  rw [Pattern.search?_skip hskip (Import.line_last name path),
    Pattern.search?_skip hskip' (Import.line_last name path)]
  cases Pattern.search? exportPatterns body with
  | none => rfl
  | some cut => rfl

theorem Registration.addMap_line (body component registerName : Text) :
    addMap (Import.line name path ++ body) component registerName =
      Import.line name path ++ addMap body component registerName := by
  unfold addMap
  rw [exportOpening?_line hname hpath]
  cases exportOpening? body with
  | none => rfl
  | some cut =>
      dsimp only [Option.map_some]
      simp only [List.append_assoc]

omit hpath in
/-- An appended export does not make up for the import: it brings another one, or it is not long
enough. -/
theorem Registration.appendExport_line_ne (code₁ code₂ body component registerName : Text) :
    appendExport code₁ (Import.line name path ++ body) component registerName ≠
      appendExport code₂ body component registerName := by
  have hshort : ∀ t t', (exportText t component registerName).length ≤
      (exportText t' component registerName).length + 17 := by
    have hfirst : "\nexport default defineComponent(\x7b\n".toList.length = 34 := by decide +kernel
    have hlast : "\x7d)\n".toList.length = 3 := by decide +kernel
    have hfirst' : "\nexport default \x7b\n".toList.length = 18 := by decide +kernel
    have hlast' : "\x7d\n".toList.length = 2 := by decide +kernel
    intro t t'
    unfold exportText
    cases t <;> cases t' <;>
      simp only [Bool.false_eq_true, if_false, if_true, List.length_append] <;> omega
  unfold appendExport
  dsimp only
  generalize (isTyped code₁ && !Import.present code₁ "defineComponent".toList) = first
  generalize (isTyped code₂ && !Import.present code₂ "defineComponent".toList) = second
  intro h
  have hlength := congrArg List.length h
  simp only [List.length_append, Import.length_line] at hlength
  have hle := hshort (isTyped code₂) (isTyped code₁)
  cases second with
  | false =>
      simp only [Bool.false_eq_true, if_false, List.length_nil] at hlength
      omega
  | true =>
      cases first with
      | true => omega
      | false =>
          -- both bodies start with an import, but one of them goes on with a brace
          have hcall : '\n' :: defineImport = "\nimport ".toList ++
              '{' :: " defineComponent \x7d from \x27vue\x27;\n".toList := rfl
          rw [if_neg (by simp), if_pos rfl, hcall, Import.line_eq] at h
          simp only [List.nil_append, List.append_assoc] at h
          have h := List.append_cancel_left h
          cases name with
          | nil => exact absurd (List.cons.inj h).1 (by decide)
          | cons c name =>
              have hc := not_mem_of_forall hname (not_isWord '{' (by decide))
              rw [(List.cons.inj h).1] at hc
              exact hc List.mem_cons_self

/-- **An import is never made up for**: the body that gets it differs from the one that does
not, whatever else the two documents are. -/
theorem revise_line_ne {code₁ code₂ : Text}
    (hdialect : (detect code₁).dialect = (detect code₂).dialect)
    (body component registerName : Text) :
    revise code₁ (Import.line name path ++ body) component registerName ≠
      revise code₂ body component registerName := by
  unfold revise
  rw [← hdialect]
  cases (detect code₁).dialect with
  | absent => exact Import.line_append_ne name path body
  | setup =>
      dsimp only
      rw [Repair.mend_line hname hpath]
      exact Import.line_append_ne name path _
  | options =>
      dsimp only
      unfold Registration.edit
      rw [Registration.state_line hname hpath]
      cases Registration.State.of (hasExport body) body with
      | mapped =>
          dsimp only
          rw [Registration.mergeIntoMap_line hname hpath]
          exact Import.line_append_ne name path _
      | exported =>
          dsimp only
          rw [Registration.addMap_line hname hpath]
          exact Import.line_append_ne name path _
      | noExport => exact Registration.appendExport_line_ne hname _ _ _ _ _

/-! ## Both steps -/

omit hname hpath in
theorem Import.add_missing {code : Text} {r : Region} (h : region? code = some r)
    (hmissing : present code name = false) :
    add code name path = r.head ++ (line name path ++ r.body) ++ r.tail := by
  have hbody : bodyWith code name path r.body = line name path ++ r.body := by
    rw [bodyWith, hmissing]
    rfl
  rw [add_region h, hbody]

/-- **The facts after an import** are those before it, but for where the script ends. -/
theorem detect_add {code : Text} {r : Region} (h : region? code = some r)
    (hmissing : Import.present code name = false) :
    detect (Import.add code name path) = { detect code with
      stop := (detect code).stop + (Import.line name path).length } := by
  have htyped : isTyped (r.head ++ (Import.line name path ++ r.body) ++ r.tail) = isTyped code := by
    rw [← Import.add_missing h hmissing, isTyped_add h, Import.isTyped_line hname hpath,
      Bool.and_false, Bool.or_false]
  obtain ⟨_, _, _, hdetect⟩ := detect_region h
  rw [Import.add_missing h hmissing, detect_replace h, htyped, hasExport_line hname hpath, hdetect,
    List.length_append]
  simp only [Info.mk.injEq, true_and]
  omega

end Line

/-- **Detection is stable.** After the import of a word from a plain path, and after the
registration that follows, a closed script has the same frame. The import changes nothing that
is known of it but where it ends, and not its shape. A setup script is mended and gets the
import, and nothing else is written into it. -/
theorem detection_stable {code name path : Text} (registerName : Text)
    (hclosed : (detect code).stop ≠ -1) (hname : ∀ c ∈ name, isWord c = true)
    (hpath : ∀ c ∈ path, Import.isPathChar c = true)
    (hmissing : Import.present code name = false) :
    let imported := Import.add code name path
    let registered := register imported name registerName
    SameFrame code imported ∧ SameFrame code registered ∧
      detect imported = { detect code with
        stop := (detect code).stop + (Import.line name path).length } ∧
      Registration.state (detect imported) imported = Registration.state (detect code) code ∧
      ((detect code).dialect = .setup → (detect registered).body registered =
        Import.line name path ++ Repair.mend ((detect code).body code)) := by
  obtain ⟨r, hr⟩ := stop_ne_iff.mp hclosed
  intro imported registered
  have himported : imported = r.head ++ (Import.line name path ++ r.body) ++ r.tail :=
    Import.add_missing hr hmissing
  have hregion : region? imported = some ⟨r.head, Import.line name path ++ r.body, r.tail⟩ := by
    rw [himported]
    exact region?_replace hr
  have hregistered : registered = r.head ++
      revise imported (Import.line name path ++ r.body) name registerName ++ r.tail :=
    register_region hregion name registerName
  have hframe : SameFrame code imported := himported ▸ sameFrame_replace hr _
  refine ⟨hframe, hregistered ▸ sameFrame_replace hr _, detect_add hname hpath hr hmissing, ?_, ?_⟩
  · obtain ⟨_, _, _, hdetect⟩ := detect_region hr
    have hexport : (detect imported).hasExport = hasExport (Import.line name path ++ r.body) := by
      obtain ⟨_, _, _, hdetect'⟩ := detect_region hregion
      rw [hdetect']
    rw [Registration.state, Registration.state, body_detect hregion, body_detect hr, hexport,
      Registration.state_line hname hpath, hdetect]
  · intro hsetup
    have hstyle : (detect imported).dialect = .setup := hframe.dialect.trans hsetup
    have hregion' : region? registered = some ⟨r.head,
        revise imported (Import.line name path ++ r.body) name registerName, r.tail⟩ := by
      rw [hregistered]
      exact region?_replace hr
    rw [body_detect hregion', body_detect hr, revise, hstyle]
    exact Repair.mend_line hname hpath r.body

/-- A setup script with a stray comma at its end, and with words in it that look like an
export. -/
def strayPage : Text :=
  "<script setup>\nconst exported = \x7b a: defineComponents,\x7d \n</script>\n".toList

/-- The comma goes as it would without the import. -/
theorem strayPage_stable :
    (detect strayPage).stop ≠ -1 ∧ Import.present strayPage "Toast".toList = false ∧
      (detect (register (Import.add strayPage "Toast".toList "@/c,d/Toast.vue".toList)
          "Toast".toList "toast".toList)).body
        (register (Import.add strayPage "Toast".toList "@/c,d/Toast.vue".toList)
          "Toast".toList "toast".toList) =
        "\nimport Toast from '@/c,d/Toast.vue';\n".toList ++
          "\nconst exported = \x7b a: defineComponents\x7d \n".toList := by
  have hmissing : Import.present strayPage "Toast".toList = false := by decide +kernel
  have hclosed : (detect strayPage).stop ≠ -1 := by decide +kernel
  refine ⟨hclosed, hmissing, ?_⟩
  rw [(detection_stable "toast".toList hclosed (forall_of_all (by decide +kernel))
    (forall_of_all (by decide)) hmissing).2.2.2.2 (by decide +kernel)]
  decide +kernel

end Graft.Script
