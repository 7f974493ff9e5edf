import Graft.Injection
import Graft.Proofs.RepairRules
import Graft.Proofs.ScriptRegion
import Mathlib.Logic.Relation

/-!
# Every step is a handful of small edits

The three steps of an injection rewrite a document in a dozen different ways. Seen from
the text they all do the same few things: write something at a seam, drop blanks, and, in
a setup script only, strike out one comma or one closing brace. This file says so once for
each step (`edits_insert`, `edits_add`, `edits_register`). What holds of one small edit
then holds of a whole injection, and nothing after this file looks into the steps again.

An edit also records what was written. The texts a step can write are listed beside it
(`Markup.additions`, `Script.Import.addition`, `Script.Registration.additions`).
-/

namespace Graft

open Text

/-! ## Edits -/

/-- One small change to a text. Only texts that are `added` are written. -/
inductive Edit (added : Text → Prop) : Text → Text → Prop where
  /-- A text is written at a seam, with a gap on either side of it. -/
  | insert {a x b : Text} : added x → seam a b = true → gap a x = true → gap x b = true →
      Edit added (a ++ b) (a ++ x ++ b)
  /-- Blanks are dropped at a seam. -/
  | erase {a blanks b : Text} : (∀ c ∈ blanks, isBlank c = true) → seam a b = true →
      Edit added (a ++ blanks ++ b) (a ++ b)
  /-- Blanks are dropped between a key and its colon. -/
  | tighten {a blanks ws b : Text} : (∀ c ∈ blanks, isBlank c = true) →
      (∀ c ∈ ws, isBlank c = true) →
      Edit added (a ++ blanks ++ (':' :: ws ++ '{' :: b)) (a ++ (':' :: ws ++ '{' :: b))

/-- Any number of small changes. -/
abbrev Edits (added : Text → Prop) : Text → Text → Prop := Relation.ReflTransGen (Edit added)

/-- A comma or a closing brace is struck out, at a gap. -/
inductive Strike : Text → Text → Prop where
  | mk {a b : Text} {c : Char} : c = ',' ∨ c = '}' → gap a b = true →
      Strike (a ++ c :: b) (a ++ b)

variable {added : Text → Prop}

theorem Edit.mono {other : Text → Prop} (h : ∀ x, added x → other x) {a b : Text}
    (he : Edit added a b) : Edit other a b := by
  cases he with
  | insert hx hs hl hr => exact .insert (h _ hx) hs hl hr
  | erase hb hs => exact .erase hb hs
  | tighten hb hws => exact .tighten hb hws

theorem Edits.mono {other : Text → Prop} (h : ∀ x, added x → other x) {a b : Text}
    (he : Edits added a b) : Edits other a b := by
  induction he with
  | refl => exact .refl
  | tail _ hstep ih => exact ih.tail (hstep.mono h)

/-- An edit of a part that borders on seams is an edit of the whole. -/
theorem Edit.context {p q a b : Text} (hp : p.getLast?.all closes = true)
    (hq : q.head?.all opens = true) (he : Edit added a b) :
    Edit added (p ++ a ++ q) (p ++ b ++ q) := by
  cases he with
  | @insert a x b hx hs hl hr =>
      have hl' : gap (p ++ a) x = true := by simpa using gap_context (q := []) hp rfl hl
      have hr' : gap x (b ++ q) = true := by simpa using gap_context (p := []) rfl hq hr
      simpa using Edit.insert hx (border_context hp hq hs) hl' hr'
  | @erase a blanks b hb hs => simpa using Edit.erase hb (border_context hp hq hs)
  | @tighten a blanks ws b hb hws =>
      simpa using Edit.tighten (a := p ++ a) (b := b ++ q) hb hws

theorem Edits.context {p q a b : Text} (hp : p.getLast?.all closes = true)
    (hq : q.head?.all opens = true) (he : Edits added a b) :
    Edits added (p ++ a ++ q) (p ++ b ++ q) := by
  induction he with
  | refl => exact .refl
  | tail _ hstep ih => exact ih.tail (hstep.context hp hq)

theorem Strike.context {p q a b : Text} (hp : p.getLast?.all closes = true)
    (hq : q.head?.all opens = true) (hs : Strike a b) : Strike (p ++ a ++ q) (p ++ b ++ q) := by
  cases hs with
  | mk hc hg => simpa using Strike.mk hc (gap_context hp hq hg)

/-! ## The tag -/

/-- The texts that go into the markup with a tag. -/
def Markup.additions (tag : Text) : List Text :=
  ["\n  ".toList ++ tag ++ "\n  ".toList, "\n  ".toList ++ tag, "  ".toList ++ tag ++ ['\n']]

/-- A closing tag, and the blanks that follow it up to the end. -/
theorem closingPattern_found {content : Text} {cut : Cut}
    (h : Pattern.search? [Markup.closingPattern] content = some cut) :
    cut.after = [] ∧ ∃ x ws, cut.found = x ++ ['>'] ++ ws ∧ ∀ c ∈ ws, isBlank c = true := by
  obtain ⟨p, hp, hf⟩ := Pattern.searchFrom?_fits h
  rw [List.mem_singleton.mp hp] at hf
  simp only [Markup.closingPattern, Pattern.fits_append, Pattern.fits_exactly,
    Pattern.fits_blanks, Pattern.fits_finish] at hf
  obtain ⟨_, _, he, ⟨_, ws, rfl, ⟨x, _, rfl, _, rfl⟩, hws⟩, rfl, hafter⟩ := hf
  exact ⟨hafter, x, ws, by rw [he, List.append_nil], hws⟩

theorem edits_insertAtEnd (p content q tag : Text) (hq : q.head?.any opens = true) :
    Edits (· ∈ Markup.additions tag) (p ++ content ++ q)
      (Markup.insertAtEnd p content q tag) := by
  have h := Edit.insert (a := p ++ content) (x := "  ".toList ++ tag ++ ['\n']) (b := q)
    (show _ ∈ Markup.additions tag by simp [Markup.additions])
    (by simpa using border_before (c := []) hq)
    (by rw [List.append_assoc]; exact border_before (by decide)) (border_after (by decide))
  unfold Markup.insertAtEnd
  exact .single (by simpa using h)

theorem edits_insertAfterRoot (p content q tag : Text) (hq : q.head?.any opens = true) :
    Edits (· ∈ Markup.additions tag) (p ++ content ++ q)
      (Markup.insertAfterRoot p content q tag) := by
  unfold Markup.insertAfterRoot
  split
  · exact edits_insertAtEnd p content q tag hq
  · rename_i cut hcut
    obtain ⟨hafter, x, ws, hfound, hws⟩ := closingPattern_found hcut
    obtain ⟨hkeep, htail⟩ := trimRight_append (x := x) (c := '>') (by decide) hws
    have hcontent := Pattern.search?_eq_some hcut
    have hbefore : seam ("\n  ".toList ++ tag) q = true := by
      simpa using border_before (c := []) hq
    have hright := gap_blanks_append hws (gap_of_seam hbefore)
    have h := Edit.insert (a := p ++ cut.before ++ (x ++ ['>'])) (b := ws ++ q)
      (show "\n  ".toList ++ tag ∈ Markup.additions tag by simp [Markup.additions])
      (by rw [← List.append_assoc]; exact border_after (by decide))
      (by rw [← List.append_assoc]; exact border_after (by decide)) hright
    rw [hfound] at hcontent ⊢
    rw [hkeep, htail, hafter, ← hcontent, hafter]
    exact .single (by simpa using h)

/-- **The tag.** Putting a tag into the markup writes it at a seam. -/
theorem edits_insert (code tag : Text) (position : Position) :
    Edits (· ∈ Markup.additions tag) code (Markup.insert code tag position) := by
  unfold Markup.insert
  split
  · exact .refl
  · rename_i before after hcut
    have hcode := cut?_eq_some hcut
    cases position with
    | beforeContent =>
        -- the blanks behind the marker go first, then the tag is written in their place
        have hclose : ∀ t, seam (before ++ Markup.startTag) t = true :=
          fun t => border_after (by decide)
        have hblank : ∀ c ∈ after.takeWhile isBlank, isBlank c = true :=
          List.all_eq_true.mp List.all_takeWhile
        have hsplit : after.takeWhile isBlank ++ trimLeft after = after :=
          List.takeWhile_append_dropWhile
        have herase : Edit (· ∈ Markup.additions tag)
            (before ++ Markup.startTag ++ after.takeWhile isBlank ++ trimLeft after)
            (before ++ Markup.startTag ++ trimLeft after) :=
          .erase hblank (hclose _)
        have hinsert := Edit.insert (b := trimLeft after)
          (show "\n  ".toList ++ tag ++ "\n  ".toList ∈ Markup.additions tag by
            simp [Markup.additions])
          (hclose _) (gap_of_seam (hclose _)) (border_after (by decide))
        rw [List.append_assoc, hsplit, hcode] at herase
        exact .head herase (.single (by simpa using hinsert))
    | afterContent =>
        dsimp only
        split
        · exact .refl
        · rename_i content rest hlast
          rw [← hcode, ← cutLast?_eq_some hlast, List.append_assoc content, ← List.append_assoc]
          exact edits_insertAfterRoot _ _ _ _ rfl
    | rootEnd =>
        dsimp only
        split
        · exact .refl
        · rename_i content rest hlast
          rw [← hcode, ← cutLast?_eq_some hlast, List.append_assoc content, ← List.append_assoc]
          exact edits_insertAtEnd _ _ _ _ rfl

/-! ## The import -/

namespace Script

/-- The text that brings an import into a document: the statement, with a script around
it where there is none. -/
def Import.addition (code name path : Text) : Text :=
  match startTag? code with
  | none => synthesize (statement name path) .options (isTyped code)
  | some _ => '\n' :: statement name path

/-- A missing import is written right after the start tag, or in front of the document. -/
theorem Import.add_of_absent {code name : Text} (path : Text) (h : present code name = false) :
    ∃ a b, code = a ++ b ∧ add code name path = a ++ addition code name path ++ b ∧
      seam a b = true ∧ gap a (addition code name path) = true ∧
      gap (addition code name path) b = true := by
  unfold add addition
  rw [h, if_neg (by simp)]
  cases htag : startTag? code with
  | none => exact ⟨[], code, rfl, rfl, rfl, rfl, border_after (by decide)⟩
  | some tag =>
      obtain ⟨hcode, hfound, _⟩ := startTag?_spec htag
      obtain ⟨g, hg, _⟩ := hfound.closing
      have hclose : ∀ t, seam (tag.before ++ tag.found) t = true := by
        intro t
        rw [hg, ← List.append_assoc]
        exact border_after (by decide)
      refine ⟨tag.before ++ tag.found, tag.after, hcode, by simp, hclose _,
        gap_of_seam (hclose _), ?_⟩
      unfold statement
      dsimp only
      rw [← List.cons_append]
      exact border_after (by decide)

/-- **The import.** It is written once, at a seam, unless it is there. -/
theorem edits_add (code name path : Text) :
    Edits (· = Import.addition code name path) code (Import.add code name path) := by
  cases h : Import.present code name with
  | true =>
      rw [Import.add, if_pos h]
  | false =>
      obtain ⟨a, b, hcode, hadd, hs, hl, hr⟩ := Import.add_of_absent path h
      rw [hadd]
      nth_rewrite 2 [hcode]
      exact .single (.insert rfl hs hl hr)

/-! ## The registration -/

namespace Registration

/-- The texts that a registration writes into a script. -/
def additions (name registerName : Text) : List Text :=
  let map := "\n  components: \x7b\n    ".toList ++ entry name registerName ++ "\n  \x7d".toList
  [[' '], ' ' :: entry name registerName, ',' :: ' ' :: entry name registerName,
    map, map ++ [','], exportText true name registerName, exportText false name registerName,
    '\n' :: defineImport]

/-- What a literal map is made of. -/
theorem mapPattern_found {body : Text} {cut : Cut}
    (h : Pattern.search? [mapPattern] body = some cut) :
    ∃ ws₁ ws₂ content, (∀ c ∈ ws₁, isBlank c = true) ∧ (∀ c ∈ ws₂, isBlank c = true) ∧
      '}' ∉ content ∧
      cut.found = "components".toList ++ ws₁ ++ [':'] ++ ws₂ ++ ['{'] ++ content ++ ['}'] := by
  obtain ⟨p, hp, hf⟩ := Pattern.searchFrom?_fits h
  rw [List.mem_singleton.mp hp] at hf
  simp only [mapPattern, keyPattern, Pattern.fits_append, Pattern.fits_exactly,
    Pattern.fits_blanks, Pattern.fits_many, Pattern.fits_edge] at hf
  obtain ⟨_, _, he, ⟨_, content, rfl, ⟨_, _, rfl, ⟨_, ws₂, rfl, ⟨_, _, rfl,
    ⟨_, ws₁, rfl, ⟨_, rfl⟩, h₁⟩, rfl⟩, h₂⟩, rfl⟩, hcontent⟩, rfl⟩ := hf
  refine ⟨ws₁, ws₂, content, h₁, h₂, ?_, he⟩
  intro hc
  exact absurd (hcontent _ hc) (by decide)

/-- The content of a literal map is what stands between its braces. -/
theorem mapContent_found {ws₁ ws₂ content : Text} (h₁ : ∀ c ∈ ws₁, isBlank c = true)
    (h₂ : ∀ c ∈ ws₂, isBlank c = true) :
    mapContent ("components".toList ++ ws₁ ++ [':'] ++ ws₂ ++ ['{'] ++ content ++ ['}']) =
      content := by
  have hkey : ∀ c ∈ "components".toList ++ ws₁ ++ [':'] ++ ws₂, (c != '{') = true := by
    intro c hc
    rw [bne_iff_ne]
    rintro rfl
    simp only [List.mem_append] at hc
    rcases hc with ((hc | hc) | hc) | hc
    · exact absurd hc (by decide)
    · exact absurd (h₁ _ hc) (by decide)
    · exact absurd hc (by decide)
    · exact absurd (h₂ _ hc) (by decide)
  unfold mapContent
  rw [List.append_assoc, List.append_assoc _ ['{'], List.dropWhile_append_of_pos hkey]
  simp

/-- The key of a map is written without blanks before its colon and with one after it. -/
theorem edits_respace (name registerName p q : Text) {ws₁ ws₂ : Text}
    (h₁ : ∀ c ∈ ws₁, isBlank c = true) (h₂ : ∀ c ∈ ws₂, isBlank c = true) :
    Edits (· ∈ additions name registerName)
      (p ++ "components".toList ++ ws₁ ++ [':'] ++ ws₂ ++ ['{'] ++ q)
      (p ++ "components: \x7b".toList ++ q) := by
  have hfirst : Edit (· ∈ additions name registerName)
      (p ++ "components".toList ++ ws₁ ++ ([':'] ++ ws₂ ++ ['{'] ++ q))
      (p ++ "components".toList ++ ([':'] ++ ws₂ ++ ['{'] ++ q)) := by
    simpa using Edit.tighten (a := p ++ "components".toList) (b := q) h₁ h₂
  have hsecond : Edit (· ∈ additions name registerName)
      (p ++ "components:".toList ++ ws₂ ++ (['{'] ++ q))
      (p ++ "components:".toList ++ (['{'] ++ q)) := .erase h₂ (border_before rfl)
  have hthird : Edit (· ∈ additions name registerName)
      (p ++ "components:".toList ++ (['{'] ++ q))
      (p ++ "components:".toList ++ [' '] ++ (['{'] ++ q)) :=
    .insert (by simp [additions]) (border_before rfl) (border_before (b := [' ']) (c := []) rfl)
      (border_before rfl)
  have hmeet : p ++ "components".toList ++ ([':'] ++ ws₂ ++ ['{'] ++ q) =
      p ++ "components:".toList ++ ws₂ ++ (['{'] ++ q) := by simp
  rw [hmeet] at hfirst
  have hall : Edits (· ∈ additions name registerName) _ _ :=
    .head hfirst (.head hsecond (.single hthird))
  simpa using hall

/-- The content of a map loses the blanks at its end and gains the entry. -/
theorem edits_extend (name registerName p content q : Text) :
    Edits (· ∈ additions name registerName) (p ++ content ++ (['}'] ++ q))
      (p ++ extend content name registerName ++ (['}'] ++ q)) := by
  have hdrop : Edit (· ∈ additions name registerName)
      (p ++ trimRight content ++ blankTail content ++ (['}'] ++ q))
      (p ++ trimRight content ++ (['}'] ++ q)) := .erase isBlank_of_mem_blankTail (border_before rfl)
  rw [List.append_assoc p, trimRight_append_blankTail] at hdrop
  refine .head hdrop (.single ?_)
  unfold extend
  dsimp only
  split
  · have h : Edit (· ∈ additions name registerName) (p ++ trimRight content ++ (['}'] ++ q))
        (p ++ trimRight content ++ (' ' :: entry name registerName) ++ (['}'] ++ q)) :=
      .insert (by simp [additions]) (border_before rfl) (border_before (b := [' ']) rfl)
        (border_before rfl)
    simpa using h
  · have h : Edit (· ∈ additions name registerName) (p ++ trimRight content ++ (['}'] ++ q))
        (p ++ trimRight content ++ (',' :: ' ' :: entry name registerName) ++ (['}'] ++ q)) :=
      .insert (by simp [additions]) (border_before rfl) (border_before (b := [',']) rfl)
        (border_before rfl)
    simpa using h

/-- Merging an entry respaces the key of the map and extends its content. -/
theorem edits_mergeIntoMap (body name registerName : Text) :
    Edits (· ∈ additions name registerName) body (mergeIntoMap body name registerName) := by
  unfold mergeIntoMap
  split
  · exact .refl
  · rename_i cut hcut
    obtain ⟨ws₁, ws₂, content, h₁, h₂, _, hfound⟩ := mapPattern_found hcut
    have hbody := Pattern.search?_eq_some hcut
    rw [hfound] at hbody ⊢
    dsimp only
    rw [mapContent_found h₁ h₂]
    split
    · exact .refl
    · have hkey := edits_respace name registerName cut.before (content ++ (['}'] ++ cut.after))
        h₁ h₂
      have hentry := edits_extend name registerName
        (cut.before ++ "components: \x7b".toList) content cut.after
      rw [← hbody]
      exact .trans (by simpa using hkey) (by simpa using hentry)

/-- The exported object opens with a brace. -/
theorem exportOpening?_found {body : Text} {cut : Cut} (h : exportOpening? body = some cut) :
    cut.before ++ cut.found ++ cut.after = body ∧ ∃ x, cut.found = x ++ ['{'] := by
  unfold exportOpening? at h
  split at h
  · rename_i cut' hcut
    injection h with h
    subst h
    refine ⟨Pattern.search?_eq_some hcut, ?_⟩
    obtain ⟨p, hp, hf⟩ := Pattern.searchFrom?_fits hcut
    simp only [exportPatterns, List.mem_cons, List.not_mem_nil, or_false] at hp
    rcases hp with rfl | rfl
    · exact Pattern.Fits.ends_with hf
    · exact Pattern.Fits.ends_with hf
  · refine ⟨Pattern.search?_eq_some h, ?_⟩
    obtain ⟨p, hp, hf⟩ := Pattern.searchFrom?_fits h
    rw [List.mem_singleton.mp hp] at hf
    exact Pattern.Fits.ends_with hf

/-- A map is added right after the brace of the exported object. -/
theorem edits_addMap (body name registerName : Text) :
    Edits (· ∈ additions name registerName) body (addMap body name registerName) := by
  unfold addMap
  split
  · exact .refl
  · rename_i cut hcut
    obtain ⟨hbody, x, hx⟩ := exportOpening?_found hcut
    have hopen : ∀ t, seam (cut.before ++ cut.found) t = true := by
      intro t
      rw [hx, ← List.append_assoc]
      exact border_after (by decide)
    nth_rewrite 1 [← hbody]
    dsimp only
    refine .single ?_
    split
    · have h := Edit.insert (b := cut.after)
        (show "\n  components: \x7b\n    ".toList ++ entry name registerName ++
          "\n  \x7d".toList ∈ additions name registerName by simp [additions])
        (hopen _) (gap_of_seam (hopen _)) (border_after (by decide))
      simpa using h
    · have h := Edit.insert (b := cut.after)
        (show "\n  components: \x7b\n    ".toList ++ entry name registerName ++
          "\n  \x7d".toList ++ [','] ∈ additions name registerName by simp [additions])
        (hopen _) (gap_of_seam (hopen _)) (border_after (by decide))
      simpa using h

theorem exportText_mem (typed : Bool) (name registerName : Text) :
    exportText typed name registerName ∈ additions name registerName := by
  cases typed <;> simp [additions]

theorem gap_exportText (t : Text) (typed : Bool) (name registerName : Text) :
    gap t (exportText typed name registerName) = true := by
  have hhead : (exportText typed name registerName).head?.any isBlank = true := by
    cases typed <;> rfl
  rw [← List.append_nil (exportText typed name registerName)]
  refine border_before ?_
  cases hh : (exportText typed name registerName).head? with
  | none => rw [hh] at hhead; exact absurd hhead (by simp)
  | some c => rw [hh] at hhead; simp_all

/-- A default export is written at the end of the script, and the import it may need at
its start. -/
theorem edits_appendExport (code body name registerName : Text) :
    Edits (· ∈ additions name registerName) body
      (appendExport code body name registerName) := by
  have hend : ∀ t, Edits (· ∈ additions name registerName) t
      (t ++ exportText (isTyped code) name registerName) := by
    intro t
    have h := Edit.insert (a := t) (b := []) (exportText_mem (isTyped code) name registerName)
      border_end (gap_exportText t _ _ _) border_end
    exact .single (by simpa using h)
  unfold appendExport
  dsimp only
  split
  · -- the import goes to the front before the export is written at the end
    have h : Edit (· ∈ additions name registerName) ([] ++ body)
        ([] ++ '\n' :: defineImport ++ body) :=
      .insert (by simp [additions]) rfl rfl (border_after (a := ['\n']) (by decide))
    exact .head (by simpa using h) (hend _)
  · exact hend body

theorem edits_edit (code body name registerName : Text) :
    Edits (· ∈ additions name registerName) body (edit code body name registerName) := by
  unfold edit
  split
  · exact edits_mergeIntoMap body name registerName
  · exact edits_addMap body name registerName
  · exact edits_appendExport code body name registerName

end Registration

/-! ## The repair -/

/-- **The repair.** A rule strikes out one comma or closing brace, and drops the blanks
that stood beside it. -/
theorem Repair.Rule.mend?_strike {rule : Rule} {body mended : Text}
    (h : rule.mend? body = some mended) :
    ∃ mid, Strike body mid ∧ Edits added mid mended := by
  obtain ⟨a, ws, ws', hws, hws', ⟨rfl, rfl⟩ | ⟨rfl, rfl⟩ | ⟨_, rfl, rfl⟩⟩ := mend?_cases h
  · have hbrace : seam a ('}' :: ws') = true := border_before (b := ['}']) (by decide)
    refine ⟨a ++ ws ++ '}' :: ws', ?_, .single (.erase hws hbrace)⟩
    have hs := Strike.mk (c := ',') (Or.inl rfl) (gap_blanks_append hws (gap_of_seam hbrace))
    simpa using hs
  · have hbrace : seam (a ++ ['}']) ws' = true := border_after (by decide)
    refine ⟨a ++ '}' :: ws ++ ws', ?_, .single ?_⟩
    · have hs := Strike.mk (c := ',') (Or.inl rfl) (gap_append_blanks hws (gap_of_seam hbrace))
      simpa using hs
    · have he : Edit added (a ++ ['}'] ++ ws ++ ws') (a ++ ['}'] ++ ws') := .erase hws hbrace
      simpa using he
  · -- nothing but blanks follows, so the brace leaves a gap
    refine ⟨a ++ ws', Strike.mk (Or.inr rfl) ?_, .refl⟩
    simpa using gap_blanks_append (a := a) hws' border_end

theorem Repair.mend_strike (body : Text) :
    mend body = body ∨ ∃ mid, Strike body mid ∧ Edits added mid (mend body) := by
  rcases mend_cases body with h | ⟨rule, h⟩
  · exact Or.inl h
  · exact Or.inr (Rule.mend?_strike h)

/-- **The registration.** It writes its texts at seams of the script. Only a setup script
can lose a character, and it loses no more than one. -/
theorem edits_register (code name registerName : Text) :
    Edits (· ∈ Registration.additions name registerName) code (register code name registerName) ∨
      (detect code).dialect = .setup ∧ ∃ mid, Strike code mid ∧
        Edits (· ∈ Registration.additions name registerName) mid
          (register code name registerName) := by
  have hregion : ∀ {r : Region}, region? code = some r →
      r.head.getLast?.all closes = true ∧ r.tail.head?.all opens = true := by
    intro r hr
    rw [region?_head_closes hr, region?_tail_opens hr]
    exact ⟨rfl, rfl⟩
  unfold register
  split
  · exact Or.inl .refl
  · rename_i hdialect
    unfold repairTail
    split
    · exact Or.inl .refl
    · rename_i r hr
      obtain ⟨hhead, htail⟩ := hregion hr
      have hcode : r.head ++ r.body ++ r.tail = code := region?_eq_some hr
      rcases Repair.mend_strike r.body with hm | ⟨mid, hs, he⟩
      · rw [hm, hcode]
        exact Or.inl .refl
      · -- the repair works on the body alone, which borders on two tags
        refine Or.inr ⟨hdialect, r.head ++ mid ++ r.tail, ?_, he.context hhead htail⟩
        nth_rewrite 1 [← hcode]
        exact hs.context hhead htail
  · split
    · exact Or.inl .refl
    · rename_i r hr
      obtain ⟨hhead, htail⟩ := hregion hr
      have he := (Registration.edits_edit code r.body name registerName).context hhead htail
      have hcode : r.head ++ r.body ++ r.tail = code := region?_eq_some hr
      rw [hcode] at he
      exact Or.inl he

end Script

/-! ## A whole injection -/

theorem Spec.edits_imported (s : Spec) (code : Text) :
    Edits (fun _ => True) code (s.imported code) :=
  .trans ((edits_insert code s.tag s.position).mono fun _ _ => trivial)
    ((Script.edits_add _ s.componentName s.importPath).mono fun _ _ => trivial)

/-- **An injection is edits.** A character other than a blank goes only when the script the
registration sees is a setup script, and then it is one comma or closing brace. -/
theorem Spec.edits_inject (s : Spec) (code : Text) :
    Edits (fun _ => True) code (s.inject code) ∨
      (Script.detect (s.imported code)).dialect = .setup ∧ ∃ mid,
        Strike (s.imported code) mid ∧ Edits (fun _ => True) mid (s.inject code) := by
  unfold inject
  split
  · exact Or.inl .refl
  · rcases Script.edits_register (s.imported code) s.componentName s.registerName with
      he | ⟨hd, mid, hs, he⟩
    · exact Or.inl (.trans (s.edits_imported code) (he.mono fun _ _ => trivial))
    · exact Or.inr ⟨hd, mid, hs, he.mono fun _ _ => trivial⟩

end Graft
