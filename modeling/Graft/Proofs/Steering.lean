import Graft.Proofs.Stability
import Graft.Proofs.Presence

/-!
# What the markup can tell the script

A spec says what goes into the markup and what goes into the script, and one would expect
the props of the tag to have no bearing on the script. They have: the script steps look at
the document with the tag in it, and three of their questions are asked of the whole text.
Does it import the component, does it say that its script is typed, and does it import the
function that defines a component?

Nothing else leaks. The script part of the result is the same for two specs of the same
component exactly when the questions that are asked have the same answers
(`script_part_eq_iff`). Of the three only the second can be said by the tag alone: a
document with the tag is typed if the document or the tag is (`isTyped_insert`).
-/

namespace Graft

open Text

/-! ## Phrases around the tag -/

/-- A tag as a spec without a template writes it: nothing outside its brackets. -/
structure Text.Bracketed (tag : Text) : Prop where
  /-- It opens with a bracket. -/
  head : tag.head? = some '<'
  /-- It closes with a bracket. -/
  last : tag.getLast? = some '>'

theorem Spec.Plain.bracketed {s : Spec} (h : s.Plain) : Bracketed s.tag := by
  rw [Spec.tag_of_plain h, Spec.plainTag, Spec.element]
  refine ⟨rfl, ?_⟩
  rw [List.getLast?_concat]

/-- A phrase that stands in a text with a tag put into it stands in the text or in the tag. -/
theorem Text.Bracketed.infix_between {w a b t u v tag : Text} (htag : Bracketed tag)
    (hw : Phrase w) (hs : seam a b = true) (ht : ∀ c ∈ t, isBlank c = true)
    (hu : ∀ c ∈ u, isBlank c = true) (hv : ∀ c ∈ v, isBlank c = true) :
    w <:+: a ++ u ++ (tag ++ v ++ b) ↔ w <:+: a ++ t ++ b ∨ w <:+: tag := by
  -- the brackets of the tag are seams, and no phrase reaches over one
  have hleft : seam a (tag ++ v ++ b) = true := by
    rw [List.append_assoc]
    exact border_before (by rw [htag.head]; rfl)
  have hright : seam tag b = true := border_after (a := []) (by rw [htag.last]; rfl)
  rw [hw.infix_spaced hu hleft, hw.infix_spaced hv hright, hw.infix_spaced ht hs, or_right_comm,
    or_assoc]

namespace Markup

theorem infix_insertAtEnd_iff {w content tag : Text} (hw : Phrase w) (htag : Bracketed tag) :
    w <:+: enclose (insertAtEnd [] content [] tag) ↔ w <:+: enclose content ∨ w <:+: tag := by
  have hseam : seam (startTag ++ content) endTag = true := by
    rw [← List.append_nil endTag]
    exact border_before (by decide)
  have h := htag.infix_between hw hseam (t := []) (u := "  ".toList) (v := ['\n'])
    (by simp) (forall_of_all (by decide)) (forall_of_all (by decide))
  rw [List.append_nil] at h
  rw [enclose, enclose, ← h]
  simp [insertAtEnd]

/-- **The tag adds its own phrases** to the markup and no others. -/
theorem infix_grown_iff {w content tag : Text} (hw : Phrase w) (htag : Bracketed tag)
    (position : Position) :
    w <:+: enclose (grown content tag position) ↔ w <:+: enclose content ∨ w <:+: tag := by
  cases position with
  | beforeContent =>
      -- the blanks that the content started with are replaced, which no phrase can tell
      have hseam : ∀ t, seam startTag t = true := fun t => border_after (a := []) (by decide)
      have hblank : ∀ c ∈ content.takeWhile isBlank, isBlank c = true :=
        List.all_eq_true.mp List.all_takeWhile
      have h := htag.infix_between hw (hseam (trimLeft content ++ endTag)) hblank
        (u := "\n  ".toList) (v := "\n  ".toList) (forall_of_all (by decide))
        (forall_of_all (by decide))
      have hcontent : enclose content =
          startTag ++ content.takeWhile isBlank ++ (trimLeft content ++ endTag) := by
        rw [enclose, trimLeft, List.append_assoc, List.append_assoc,
          ← List.append_assoc (content.takeWhile isBlank), List.takeWhile_append_dropWhile]
      have hgrown : enclose (grown content tag .beforeContent) = startTag ++ "\n  ".toList ++
          (tag ++ "\n  ".toList ++ (trimLeft content ++ endTag)) := by
        show startTag ++ ("\n  ".toList ++ tag ++ "\n  ".toList ++ trimLeft content) ++ endTag = _
        simp only [List.append_assoc]
      rw [hgrown, hcontent]
      exact h
  | afterContent =>
      show w <:+: enclose (insertAfterRoot [] content [] tag) ↔ _
      unfold insertAfterRoot
      split
      · exact infix_insertAtEnd_iff hw htag
      · rename_i cut hcut
        obtain ⟨hafter, x, ws, hfound, hws⟩ := closingPattern_found hcut
        obtain ⟨hkeep, htail⟩ := trimRight_append (x := x) (c := '>') (by decide) hws
        have hcontent := Pattern.search?_eq_some hcut
        have hseam : seam (startTag ++ cut.before ++ (x ++ ['>'])) endTag = true :=
          border_after (by simp [closes])
        have h := htag.infix_between hw hseam hws (u := "\n  ".toList) (v := ws)
          (forall_of_all (by decide)) hws
        rw [← hcontent, hfound, hkeep, htail, hafter]
        simpa [enclose] using h
  | rootEnd => exact infix_insertAtEnd_iff hw htag

/-- A phrase that stands in a document with a tag in its markup stands in the document or in the
tag. -/
theorem IsRegion.infix_insert_iff {w code before content after tag : Text}
    (h : IsRegion code before content after) (hw : Phrase w) (htag : Bracketed tag)
    (position : Position) :
    w <:+: insert code tag position ↔ w <:+: code ∨ w <:+: tag := by
  have hcode : code = before ++ enclose content ++ after := by
    rw [← cut?_eq_some h.start, enclose]
    simp
  have hsplit : ∀ content', w <:+: before ++ enclose content' ++ after ↔
      (w <:+: before ∨ w <:+: enclose content') ∨ w <:+: after := by
    intro content'
    have hleft : seam before (enclose content') = true := by
      simp [seam, border, enclose_head, opens]
    have hright : seam (before ++ enclose content') after = true :=
      border_after (by rw [enclose_last]; rfl)
    rw [hw.infix_append hright, hw.infix_append hleft]
  rw [h.insert_eq, hcode, hsplit, hsplit, infix_grown_iff hw htag]
  simp only [or_comm, or_left_comm]

end Markup

namespace Script

/-- A document with a tag in its markup is typed if the document is or the tag. -/
theorem isTyped_insert {code before content after tag : Text}
    (h : Markup.IsRegion code before content after) (htag : Bracketed tag) (position : Position) :
    isTyped (Markup.insert code tag position) = (isTyped code || isTyped tag) :=
  isTyped_eq_or fun _ hw => h.infix_insert_iff hw.phrase htag position

/-! ## What a registration asks the document -/

/-- A call ends in a parenthesis, a plain export does not. -/
theorem Registration.exportText_ne (a b name registerName : Text) :
    a ++ exportText true name registerName ≠ b ++ exportText false name registerName := by
  have hcall : ∃ x, a ++ exportText true name registerName = x ++ ")\n".toList :=
    ⟨a ++ ("\nexport default defineComponent(\x7b\n".toList ++ ("  components: \x7b\n    ".toList ++
      entry name registerName ++ "\n  \x7d\n".toList) ++ ['}']), by simp [exportText]⟩
  have hplain : ∃ y, b ++ exportText false name registerName = y ++ "\x7d\n".toList :=
    ⟨b ++ ("\nexport default \x7b\n".toList ++ ("  components: \x7b\n    ".toList ++
      entry name registerName ++ "\n  \x7d\n".toList)), by simp [exportText]⟩
  obtain ⟨x, hx⟩ := hcall
  obtain ⟨y, hy⟩ := hplain
  rw [hx, hy]
  intro h
  exact absurd (List.append_inj' h rfl).2 (by decide)

/-- An appended export asks whether the document is typed, and if it is, whether it has the
import. -/
theorem Registration.appendExport_eq_iff {code₁ code₂ : Text} (body name registerName : Text) :
    appendExport code₁ body name registerName = appendExport code₂ body name registerName ↔
      isTyped code₁ = isTyped code₂ ∧ (isTyped code₁ = true →
        Import.present code₁ "defineComponent".toList =
          Import.present code₂ "defineComponent".toList) := by
  have himport : ∀ rest, '\n' :: defineImport ++ rest ≠ [] ++ rest := by
    intro rest h
    have hlength := congrArg List.length h
    simp only [List.length_append, List.length_cons, List.length_nil] at hlength
    omega
  unfold appendExport
  dsimp only
  cases isTyped code₁ with
  | false =>
      cases isTyped code₂ with
      | false => exact iff_of_true rfl ⟨rfl, fun h => absurd h (by decide)⟩
      | true =>
          exact iff_of_false (exportText_ne _ _ name registerName).symm
            fun h => absurd h.1 (by decide)
  | true =>
      cases isTyped code₂ with
      | false =>
          exact iff_of_false (exportText_ne _ _ name registerName) fun h => absurd h.1 (by decide)
      | true =>
          cases Import.present code₁ "defineComponent".toList with
          | false =>
              cases Import.present code₂ "defineComponent".toList with
              | false => exact iff_of_true rfl ⟨rfl, fun _ => rfl⟩
              | true =>
                  refine iff_of_false ?_ (by decide)
                  rw [List.append_assoc, List.append_assoc]
                  exact himport _
          | true =>
              cases Import.present code₂ "defineComponent".toList with
              | false =>
                  refine iff_of_false ?_ (by decide)
                  rw [List.append_assoc, List.append_assoc]
                  exact (himport _).symm
              | true => exact iff_of_true rfl ⟨rfl, fun _ => rfl⟩

/-- Where there is an export, nothing is asked. -/
theorem Registration.edit_of_hasExport {body : Text} (h : hasExport body = true)
    (code₁ code₂ name registerName : Text) :
    edit code₁ body name registerName = edit code₂ body name registerName := by
  unfold edit State.of
  rw [h]
  cases Pattern.occurs [keyPattern] body with
  | false => rfl
  | true => rfl

/-- **Two documents are answered alike** by a registration in the same body exactly when it
does not ask, or gets the same answers. -/
theorem revise_eq_iff {code₁ code₂ : Text}
    (hdialect : (detect code₁).dialect = (detect code₂).dialect) (body name registerName : Text) :
    revise code₁ body name registerName = revise code₂ body name registerName ↔
      ((detect code₁).dialect = .options → hasExport body = false →
        isTyped code₁ = isTyped code₂ ∧ (isTyped code₁ = true →
          Import.present code₁ "defineComponent".toList =
            Import.present code₂ "defineComponent".toList)) := by
  unfold revise
  rw [← hdialect]
  cases (detect code₁).dialect with
  | absent => simp
  | setup => simp
  | options =>
      dsimp only
      cases hexport : hasExport body with
      | false =>
          have hedit : ∀ code, Registration.edit code body name registerName =
              Registration.appendExport code body name registerName := by
            intro code
            rw [Registration.edit, hexport]
            rfl
          rw [hedit, hedit, Registration.appendExport_eq_iff]
          simp
      | true =>
          exact iff_of_true (Registration.edit_of_hasExport hexport _ _ _ _)
            fun _ h => absurd h (by simp)

/-! ## The script part of a document -/

/-- The start tag and the body of a closed script. -/
def part? (code : Text) : Option (Text × Text) :=
  match startTag? code with
  | none => none
  | some cut => (cutLast? endTag cut.after).map fun (body, _) => (cut.found, body)

theorem part?_eq_some {code before tag body rest : Text}
    (hstart : startTag? code = some ⟨before, tag, body ++ endTag ++ rest⟩)
    (hend : ¬ endTag <:+: rest) : part? code = some (tag, body) := by
  have hlast : cutLast? endTag (body ++ endTag ++ rest) = some (body, rest) := by
    rw [endTag_eq, cutLast?_eq_some_iff (by decide), ← endTag_eq]
    exact ⟨rfl, hend⟩
  unfold part?
  rw [hstart]
  dsimp only
  rw [hlast]
  rfl

end Script

/-- The script part of a document with a layout, whatever is filled in. -/
theorem Layout.Of.part?_fill {l : Layout} {code content body content' : Text}
    (h : l.Of code content body) (hfree : Script.Free (Markup.enclose content')) (body' : Text) :
    Script.part? (l.fill (Markup.enclose content') body') = some (l.tag, body') :=
  Script.part?_eq_some (h.startTag?_fill hfree body') (h.rest_endTag hfree)

namespace Spec

/-! ## Two specs of one component -/

/-- Two specs differ at most in what they put into the markup. -/
structure SameScript (s₁ s₂ : Spec) : Prop where
  /-- The name of the import. -/
  componentName : s₁.componentName = s₂.componentName
  /-- Its path. -/
  importPath : s₁.importPath = s₂.importPath
  /-- The name of the registration. -/
  registerName : s₁.registerName = s₂.registerName

theorem SameScript.symm {s₁ s₂ : Spec} (h : SameScript s₁ s₂) : SameScript s₂ s₁ :=
  ⟨h.componentName.symm, h.importPath.symm, h.registerName.symm⟩

/-- The document with the tag in it is seen to import the component. -/
def findsImport (s : Spec) (code : Text) : Bool :=
  Script.Import.present (Markup.insert code s.tag s.position) s.componentName

/-- The document, the tag or a new import says that the script is typed. -/
def readsTyped (s : Spec) (code : Text) : Bool :=
  Script.isTyped code || Script.isTyped s.tag ||
    !s.findsImport code && Script.isTyped (Script.Import.line s.componentName s.importPath)

/-- The document with tag and import in it is seen to import the function that defines a
component. -/
def findsCall (s : Spec) (code : Text) : Bool :=
  Script.Import.present (s.imported code) "defineComponent".toList

/-- The body of the script once the import is in. -/
def bodyWith (s : Spec) (code body : Text) : Text :=
  Script.Import.bodyWith (Markup.insert code s.tag s.position) s.componentName s.importPath body

/-- What is asked of the two documents has the same answers. The last two questions are asked
for an options script that exports nothing, and the very last one if it is typed. -/
structure ReadAlike (s₁ s₂ : Spec) (code body : Text) : Prop where
  /-- Whether the component is imported. -/
  imports : s₁.findsImport code = s₂.findsImport code
  /-- Whether the script is typed and has what a typed export needs. -/
  exports : (Script.detect code).dialect = .options →
    Script.hasExport (s₁.bodyWith code body) = false →
    s₁.readsTyped code = s₂.readsTyped code ∧
      (s₁.readsTyped code = true → s₁.findsCall code = s₂.findsCall code)

section Layout

variable {l : Layout} {code content body : Text} {s : Spec} (h : l.Of code content body)
  (htag : Script.Free s.tag) (hfree : Script.Free (Markup.enclose content))

include h htag hfree

/-- The script is found in the document with the tag in it. -/
theorem region?_insert :
    Script.region? (Markup.insert code s.tag s.position) = some
      ⟨l.front (Markup.enclose (Markup.grown content s.tag s.position)) ++ l.tag, body,
        Script.endTag ++ l.rest (Markup.enclose (Markup.grown content s.tag s.position))⟩ := by
  rw [h.markup.insert_eq, ← Layout.fill_eq]
  exact h.region?_fill (hfree.grown htag s.position) body

theorem imported_fill :
    s.imported code =
      l.fill (Markup.enclose (Markup.grown content s.tag s.position)) (s.bodyWith code body) := by
  rw [imported, Script.Import.add_region (region?_insert h htag hfree), Layout.fill]
  simp only [List.append_assoc]
  rfl

theorem inserted_fill :
    s.inserted code =
      l.fill (Markup.enclose (Markup.grown content s.tag s.position)) (s.revised code body) := by
  rw [(inserted_region (region?_insert h htag hfree)).1, Layout.fill]
  simp only [List.append_assoc]

/-- The tag leaves the style of the script alone. -/
theorem dialect_imported :
    (Script.detect (s.imported code)).dialect = (Script.detect code).dialect := by
  rw [imported_fill h htag hfree, Script.dialect_startTag (h.startTag?_fill
    (hfree.grown htag s.position) _), Script.dialect_startTag h.start]

theorem isTyped_imported (hplain : s.Plain) :
    Script.isTyped (s.imported code) = s.readsTyped code := by
  rw [imported, Script.isTyped_add (region?_insert h htag hfree),
    Script.isTyped_insert h.markup hplain.bracketed]
  rfl

end Layout

theorem bodyWith_of_found {s : Spec} {code : Text} (h : s.findsImport code = true) (body : Text) :
    s.bodyWith code body = body :=
  if_pos h

theorem bodyWith_of_missing {s : Spec} {code : Text} (h : s.findsImport code = false)
    (body : Text) :
    s.bodyWith code body = Script.Import.line s.componentName s.importPath ++ body := by
  have hmissing : ¬ s.findsImport code = true := by simp [h]
  exact if_neg hmissing

section TwoSpecs

variable {l : Layout} {code content body : Text} {s₁ s₂ : Spec} (h : l.Of code content body)
  (htag₁ : Script.Free s₁.tag) (htag₂ : Script.Free s₂.tag)
  (hfree : Script.Free (Markup.enclose content)) (hsame : SameScript s₁ s₂)

include h htag₁ htag₂ hfree hsame

/-- Where only one of two documents is seen to import the component, the bodies differ. -/
theorem revised_ne (hname : ∀ c ∈ s₁.componentName, isWord c = true)
    (hpath : ∀ c ∈ s₁.importPath, Script.Import.isPathChar c = true)
    (hmissing : s₁.findsImport code = false) (hfound : s₂.findsImport code = true) :
    s₁.revised code body ≠ s₂.revised code body := by
  have hdialect : (Script.detect (s₁.imported code)).dialect =
      (Script.detect (s₂.imported code)).dialect := by
    rw [dialect_imported h htag₁ hfree, dialect_imported h htag₂ hfree]
  have hline : s₁.revised code body = Script.revise (s₁.imported code)
      (Script.Import.line s₁.componentName s₁.importPath ++ body) s₁.componentName
        s₁.registerName := by
    rw [← bodyWith_of_missing hmissing body]
    rfl
  have hbody : s₂.revised code body =
      Script.revise (s₂.imported code) body s₁.componentName s₁.registerName := by
    rw [hsame.componentName, hsame.registerName]
    exact congrArg (fun b => Script.revise (s₂.imported code) b _ _) (bodyWith_of_found hfound body)
  rw [hline, hbody]
  exact Script.revise_line_ne hname hpath hdialect body s₁.componentName s₁.registerName

/-- **The bodies agree exactly when the answers do.** Where the first answers differ this is known
for plain names. -/
theorem revised_eq_iff (hplain₁ : s₁.Plain) (hplain₂ : s₂.Plain)
    (himport : s₁.findsImport code = s₂.findsImport code ∨
      (∀ c ∈ s₁.componentName, isWord c = true) ∧
        ∀ c ∈ s₁.importPath, Script.Import.isPathChar c = true) :
    s₁.revised code body = s₂.revised code body ↔ ReadAlike s₁ s₂ code body := by
  by_cases halike : s₁.findsImport code = s₂.findsImport code
  · have hdialect : (Script.detect (s₁.imported code)).dialect =
        (Script.detect (s₂.imported code)).dialect := by
      rw [dialect_imported h htag₁ hfree, dialect_imported h htag₂ hfree]
    have hbody : s₁.bodyWith code body = s₂.bodyWith code body := by
      cases hfound : s₁.findsImport code with
      | true => rw [bodyWith_of_found hfound, bodyWith_of_found (halike ▸ hfound)]
      | false =>
          rw [bodyWith_of_missing hfound, bodyWith_of_missing (halike ▸ hfound),
            hsame.componentName, hsame.importPath]
    have hrevised : s₂.revised code body = Script.revise (s₂.imported code)
        (s₁.bodyWith code body) s₁.componentName s₁.registerName := by
      rw [hbody, hsame.componentName, hsame.registerName]
      rfl
    have hiff := Script.revise_eq_iff hdialect (s₁.bodyWith code body) s₁.componentName
      s₁.registerName
    rw [dialect_imported h htag₁ hfree, isTyped_imported h htag₁ hfree hplain₁,
      isTyped_imported h htag₂ hfree hplain₂] at hiff
    rw [hrevised]
    exact ⟨fun heq => ⟨halike, hiff.mp heq⟩, fun hread => hiff.mpr hread.exports⟩
  · -- one of the two gets an import that the other does not get
    obtain ⟨hname, hpath⟩ := himport.resolve_left halike
    refine iff_of_false ?_ fun hread => halike hread.imports
    cases hfound : s₁.findsImport code with
    | false =>
        have hfound' : s₂.findsImport code = true := by
          cases hs₂ : s₂.findsImport code with
          | false => exact absurd (hfound.trans hs₂.symm) halike
          | true => rfl
        exact revised_ne h htag₁ htag₂ hfree hsame hname hpath hfound hfound'
    | true =>
        have hfound' : s₂.findsImport code = false := by
          cases hs₂ : s₂.findsImport code with
          | false => rfl
          | true => exact absurd (hfound.trans hs₂.symm) halike
        rw [hsame.componentName] at hname
        rw [hsame.importPath] at hpath
        exact (revised_ne h htag₂ htag₁ hfree hsame.symm hname hpath hfound' hfound).symm

end TwoSpecs

/-! ## Documents without a script -/

/-- A new script is not a setup script. -/
theorem declaresSetup_newTag (typed : Bool) :
    Script.declaresSetup (Script.attributes (Script.Import.newTag typed)) = false := by
  cases typed with
  | false => decide +kernel
  | true => decide +kernel

theorem dialect_newTag (typed : Bool) (rest : Text) :
    (Script.detect (Script.Import.newTag typed ++ rest)).dialect = .options := by
  rw [Script.dialect_startTag (Script.startTag?_front (Script.Import.isStartTag_newTag typed) rest),
    declaresSetup_newTag]
  rfl

/-- A new script has an export to register the component in. -/
theorem hasExport_new (t : Text) :
    Script.hasExport (t ++ "\nexport default \x7b\x7d\n".toList) = true := by
  rw [Script.hasExport, Pattern.occurs_iff]
  refine ⟨t ++ ['\n'], "export default".toList, " \x7b\x7d\n".toList, by simp, _,
    List.mem_cons_self, ?_⟩
  simp only [Pattern.fits_append, Pattern.fits_exactly]
  -- the word ends where the blank before the brace starts
  have hedge : Pattern.isEdge (some 't') " \x7b\x7d\n".toList = true := by decide +kernel
  exact ⟨"export default".toList, [], rfl, ⟨"export ".toList, "default".toList, rfl,
    ⟨"export".toList, [' '], rfl, rfl, ' ', [], rfl, by decide, [], [], rfl, by simp, rfl⟩, rfl⟩,
    hedge, rfl⟩

/-- A document without a script that does not import the component gets one whose start tag says
whether it is typed, and whose body says nothing about the rest of the document. -/
theorem part?_of_missing {s : Spec} {code : Text}
    (hstart : Script.startTag? (Markup.insert code s.tag s.position) = none)
    (hend : ¬ Script.endTag <:+: Markup.insert code s.tag s.position)
    (hmissing : s.findsImport code = false) :
    Script.part? (s.inserted code) =
      some (Script.Import.newTag (Script.isTyped (Markup.insert code s.tag s.position)),
        Script.Registration.edit [] (Script.Import.line s.componentName s.importPath ++
          "\nexport default \x7b\x7d\n".toList) s.componentName s.registerName) := by
  -- the new script comes first, so its start tag is the one that is found
  obtain ⟨hend', hregion⟩ := scriptless_imported hstart hend hmissing
  have hfront : ∀ body, Script.startTag?
      (Script.Import.newTag (Script.isTyped (Markup.insert code s.tag s.position)) ++ body ++
        (Script.endTag ++ '\n' :: Markup.insert code s.tag s.position)) =
      some ⟨[], Script.Import.newTag (Script.isTyped (Markup.insert code s.tag s.position)),
        body ++ Script.endTag ++ '\n' :: Markup.insert code s.tag s.position⟩ := by
    intro body
    rw [List.append_assoc, Script.startTag?_front (Script.Import.isStartTag_newTag _),
      List.append_assoc]
  have hdialect : (Script.detect (s.imported code)).dialect = .options := by
    rw [← Script.region?_eq_some hregion, Script.Region.code, List.append_assoc, dialect_newTag]
  rw [inserted, Script.register_region hregion, Script.part?_eq_some (hfront _) hend',
    Script.revise, hdialect]
  dsimp only
  rw [Script.Registration.edit_of_hasExport (hasExport_new _) _ []]
  rfl

theorem part?_of_found {s : Spec} {code : Text}
    (hstart : Script.startTag? (Markup.insert code s.tag s.position) = none)
    (hend : ¬ Script.endTag <:+: Markup.insert code s.tag s.position)
    (hfound : s.findsImport code = true) : Script.part? (s.inserted code) = none := by
  obtain ⟨block, hinserted, hblock, _⟩ := scriptless_block hstart hend
  rw [hinserted, hblock hfound, List.nil_append, Script.part?, hstart]

theorem newTag_inj {t t' : Bool} :
    Script.Import.newTag t = Script.Import.newTag t' ↔ t = t' := by
  cases t <;> cases t' <;> decide

/-- New scripts agree exactly when both documents get one, with the same start tag, or neither. -/
theorem part?_inserted_eq_iff {s₁ s₂ : Spec} {code before content after : Text}
    (hmarkup : Markup.IsRegion code before content after)
    (hstart : Script.startTag? code = none) (hend : ¬ Script.endTag <:+: code)
    (htag₁ : Script.Free s₁.tag) (htag₂ : Script.Free s₂.tag)
    (hfree : Script.Free (Markup.enclose content)) (hsame : SameScript s₁ s₂)
    (hplain₁ : s₁.Plain) (hplain₂ : s₂.Plain) :
    Script.part? (s₁.inserted code) = Script.part? (s₂.inserted code) ↔
      s₁.findsImport code = s₂.findsImport code ∧ (s₁.findsImport code = false →
        (Script.isTyped code || Script.isTyped s₁.tag) =
          (Script.isTyped code || Script.isTyped s₂.tag)) := by
  obtain ⟨hstart₁, hend₁⟩ := scriptless_insert htag₁ hfree hmarkup hstart hend
  obtain ⟨hstart₂, hend₂⟩ := scriptless_insert htag₂ hfree hmarkup hstart hend
  have htyped₁ := Script.isTyped_insert hmarkup hplain₁.bracketed s₁.position
  have htyped₂ := Script.isTyped_insert hmarkup hplain₂.bracketed s₂.position
  cases hfound₁ : s₁.findsImport code with
  | true =>
      rw [part?_of_found hstart₁ hend₁ hfound₁]
      cases hfound₂ : s₂.findsImport code with
      | true =>
          rw [part?_of_found hstart₂ hend₂ hfound₂]
          simp
      | false =>
          rw [part?_of_missing hstart₂ hend₂ hfound₂]
          simp
  | false =>
      rw [part?_of_missing hstart₁ hend₁ hfound₁]
      cases hfound₂ : s₂.findsImport code with
      | true =>
          rw [part?_of_found hstart₂ hend₂ hfound₂]
          simp
      | false =>
          rw [part?_of_missing hstart₂ hend₂ hfound₂, htyped₁, htyped₂, hsame.componentName,
            hsame.importPath, hsame.registerName]
          simp only [Option.some.injEq, Prod.mk.injEq, and_true, true_and, forall_const]
          exact newTag_inj

/-! ## The two runs -/

theorem inject_of_absent {s : Spec} {code before content after : Text}
    (hmarkup : Markup.IsRegion code before content after) (habsent : s.isPresent code = false) :
    s.inject code = s.inserted code := by
  have hpresent : Markup.isPresent code = true := by
    rw [Markup.isPresent, occursIn, hmarkup.start]
    rfl
  rw [inject, hpresent, habsent, if_neg (by simp)]

/-- **What the markup can tell the script.** Two specs that differ only in what they put into the
markup leave the same start tag, and the same body exactly when the component is present or what
is read in the document with the tag is the same. If the two documents are not alike in whether
they import the component, that the bodies differ is said of plain names. -/
theorem script_part_eq_iff {s₁ s₂ : Spec} {code content : Text} (hsame : SameScript s₁ s₂)
    (hplain₁ : s₁.Plain) (hplain₂ : s₂.Plain) (htag₁ : Script.Free s₁.tag)
    (htag₂ : Script.Free s₂.tag) (hfree : Script.Free (Markup.enclose content)) :
    (∀ (l : Layout) (body : Text), l.Of code content body → ∃ body₁ body₂,
      Script.part? (s₁.inject code) = some (l.tag, body₁) ∧
      Script.part? (s₂.inject code) = some (l.tag, body₂) ∧
      (s₁.isPresent code = true ∨ ReadAlike s₁ s₂ code body → body₁ = body₂) ∧
      (s₁.findsImport code = s₂.findsImport code ∨
          (∀ c ∈ s₁.componentName, isWord c = true) ∧
            (∀ c ∈ s₁.importPath, Script.Import.isPathChar c = true) →
        body₁ = body₂ → s₁.isPresent code = true ∨ ReadAlike s₁ s₂ code body)) ∧
    (∀ before after : Text, Markup.IsRegion code before content after →
      Script.startTag? code = none → ¬ Script.endTag <:+: code →
      (Script.part? (s₁.inject code) = Script.part? (s₂.inject code) ↔
        s₁.isPresent code = true ∨ s₁.findsImport code = s₂.findsImport code ∧
          (s₁.findsImport code = false →
            (Script.isTyped code || Script.isTyped s₁.tag) =
              (Script.isTyped code || Script.isTyped s₂.tag)))) := by
  have hpresent : s₂.isPresent code = s₁.isPresent code := by
    rw [isPresent_of_plain hplain₁, isPresent_of_plain hplain₂, hsame.registerName]
  cases habsent : s₁.isPresent code with
  | true =>
      rw [inject_of_isPresent habsent, inject_of_isPresent (hpresent.trans habsent)]
      refine ⟨fun l body h => ?_, fun _ _ _ _ _ => by simp⟩
      have hpart : Script.part? code = some (l.tag, body) :=
        Script.part?_eq_some h.start (h.rest_endTag hfree)
      exact ⟨body, body, hpart, hpart, fun _ => rfl, fun _ _ => Or.inl rfl⟩
  | false =>
      have hinject₁ : ∀ {before after}, Markup.IsRegion code before content after →
          s₁.inject code = s₁.inserted code := fun h => inject_of_absent h habsent
      have hinject₂ : ∀ {before after}, Markup.IsRegion code before content after →
          s₂.inject code = s₂.inserted code :=
        fun h => inject_of_absent h (hpresent.trans habsent)
      constructor
      · intro l body h
        have hiff := revised_eq_iff h htag₁ htag₂ hfree hsame hplain₁ hplain₂
        refine ⟨s₁.revised code body, s₂.revised code body, ?_, ?_, ?_, ?_⟩
        · rw [hinject₁ h.markup, inserted_fill h htag₁ hfree]
          exact h.part?_fill (hfree.grown htag₁ s₁.position) _
        · rw [hinject₂ h.markup, inserted_fill h htag₂ hfree]
          exact h.part?_fill (hfree.grown htag₂ s₂.position) _
        · rintro (hpresent | hread)
          · exact absurd hpresent (by simp)
          · exact (hiff (Or.inl hread.imports)).mpr hread
        · intro himport hbody
          exact Or.inr ((hiff himport).mp hbody)
      · intro before after hmarkup hstart hend
        rw [hinject₁ hmarkup, hinject₂ hmarkup, part?_inserted_eq_iff hmarkup hstart hend htag₁
          htag₂ hfree hsame hplain₁ hplain₂]
        simp

/-- A component without props. -/
def bareTag : Spec := named "toast".toList "t".toList

/-- The same component with a prop that reads like the language of a script. -/
def typedProp : Spec := { bareTag with props := [("lang".toList, .str "ts".toList)] }

/-- The same component elsewhere, with a tag that says nothing about a script. -/
def quietProp : Spec := { bareTag with
  position := .beforeContent, withRef := false, props := [("lang".toList, .str "en".toList)] }

/-- A document without a script gets a typed one because of a prop. A prop that says nothing about
a script leaves the script of a page without an export as it is for the tag without props. -/
theorem prop_steers_script :
    (SameScript bareTag typedProp ∧ bareTag.Plain ∧ typedProp.Plain ∧ Script.Free bareTag.tag ∧
      Script.Free typedProp.tag ∧ Script.Free (Markup.enclose []) ∧
      Markup.IsRegion (Markup.enclose []) [] [] [] ∧ Script.startTag? (Markup.enclose []) = none ∧
      ¬ Script.endTag <:+: Markup.enclose [] ∧
      Script.part? (bareTag.inject (Markup.enclose [])) ≠
        Script.part? (typedProp.inject (Markup.enclose [])) ∧
      (Script.part? (bareTag.inject (Markup.enclose []))).map Prod.fst =
        some "<script>".toList ∧
      (Script.part? (typedProp.inject (Markup.enclose []))).map Prod.fst =
        some "<script lang=\"ts\">".toList) ∧
    scriptFirstLayout.Of scriptFirstPage "\n<b></b>\n".toList "\nlet a\n".toList ∧
      Script.part? (bareTag.inject scriptFirstPage) =
        Script.part? (quietProp.inject scriptFirstPage) := by
  have htag : Script.Free bareTag.tag := by decide +kernel
  refine ⟨?_, ?_⟩
  · have hscript : SameScript bareTag typedProp := ⟨rfl, rfl, rfl⟩
    have htyped : Script.Free typedProp.tag := by decide +kernel
    have hfree : Script.Free (Markup.enclose []) := by decide +kernel
    have hmarkup : Markup.IsRegion (Markup.enclose []) [] [] [] := Markup.isRegion_alone []
    have hstart : Script.startTag? (Markup.enclose []) = none := by decide +kernel
    have hend : ¬ Script.endTag <:+: Markup.enclose [] := by decide +kernel
    have hiff := (script_part_eq_iff hscript rfl rfl htag htyped hfree).2 [] [] hmarkup hstart hend
    refine ⟨hscript, rfl, rfl, htag, htyped, hfree, hmarkup, hstart, hend, fun hsame => ?_,
      by decide +kernel, by decide +kernel⟩
    rcases hiff.mp hsame with hpresent | ⟨_, hread⟩
    · exact absurd hpresent (by decide +kernel)
    · exact absurd (hread (by decide +kernel)) (by decide +kernel)
  · have hlayout := scriptFirstLayout_of_page
    have hscript : SameScript bareTag quietProp := ⟨rfl, rfl, rfl⟩
    have hfree : Script.Free (Markup.enclose "\n<b></b>\n".toList) := by decide +kernel
    have hread : ReadAlike bareTag quietProp scriptFirstPage "\nlet a\n".toList :=
      ⟨by decide +kernel, fun _ _ => ⟨by decide +kernel, fun h => absurd h (by decide +kernel)⟩⟩
    obtain ⟨body₁, body₂, h₁, h₂, hsame, _⟩ :=
      (script_part_eq_iff hscript rfl rfl htag (by decide +kernel) hfree).1 _ _ hlayout
    rw [h₁, h₂, hsame (Or.inr hread)]
    exact ⟨hlayout, rfl⟩

end Spec

end Graft
