import Graft.Proofs.Separation

/-!
# What is known of a closed script

The facts that the steps decide by are found by one pass over the whole document, and the
steps look at them again and again. For a document whose script is closed they can be read
off its region (`detect_region`): the style is that of the start tag, the export is that of
the body, and the two offsets are where the head and the body end. A step that writes only
into the body therefore leaves the style alone (`dialect_replace`), and what it can change
is listed in `detect_replace`.

Whether a script is typed is asked of the whole document, by looking for a `lang` attribute
anywhere. Such an attribute is a phrase, so it cannot come about where two texts meet at a
seam, and the answer for an edited document is put together from the answers for its parts
(`isTyped_append`, `isTyped_add`).
-/

namespace Graft.Script

open Text

variable {code : Text} {r : Region}

/-- The facts about a document with a closed script, read off its region. -/
theorem detect_region (h : region? code = some r) :
    ∃ cut, startTag? code = some cut ∧ r.head = cut.before ++ cut.found ∧
      detect code =
        { hasScript := true
          isSetup := declaresSetup (attributes cut.found)
          isTyped := isTyped code
          hasExport := hasExport r.body
          start := r.head.length
          stop := r.head.length + r.body.length } := by
  obtain ⟨cut, rest, hcut, hafter, hlast, hhead, _⟩ := region?_eq_some_iff.mp h
  have hstop : cutLast? endTag cut.after = some (r.body, rest) := by
    rw [endTag_eq, cutLast?_eq_some_iff (by decide)]
    exact ⟨hafter, hlast⟩
  refine ⟨cut, hcut, hhead, ?_⟩
  unfold detect
  rw [hcut]
  dsimp only
  rw [hstop, hhead, List.length_append]

/-- The second offset is given exactly where the script is closed. -/
theorem stop_ne_iff : (detect code).stop ≠ -1 ↔ ∃ r, region? code = some r := by
  constructor
  · intro h
    unfold detect at h
    unfold region?
    cases hcut : startTag? code with
    | none =>
        rw [hcut] at h
        exact absurd rfl h
    | some cut =>
        rw [hcut] at h
        dsimp only at h ⊢
        cases hlast : cutLast? endTag cut.after with
        | none =>
            rw [hlast] at h
            exact absurd rfl h
        | some found => exact ⟨_, rfl⟩
  · intro h
    obtain ⟨r, hr⟩ := h
    obtain ⟨cut, _, _, hdetect⟩ := detect_region hr
    rw [hdetect]
    dsimp only
    omega

/-- The text between the two offsets is the body of the region. -/
theorem body_detect (h : region? code = some r) : (detect code).body code = r.body := by
  obtain ⟨cut, _, _, hdetect⟩ := detect_region h
  have hcode : r.head ++ r.body ++ r.tail = code := region?_eq_some h
  have hstop : ((r.head.length : Int) + r.body.length).toNat = (r.head ++ r.body).length := by
    rw [List.length_append]
    omega
  rw [hdetect, Info.body, if_neg (by dsimp only; omega)]
  dsimp only
  rw [hstop, Int.toNat_natCast, ← hcode, List.take_left, List.drop_left]

/-- What a new body changes about the facts: whether it exports, whether the document says
that its script is typed, and where the script ends. -/
theorem detect_replace (h : region? code = some r) (body : Text) :
    detect (r.head ++ body ++ r.tail) =
      { detect code with
        isTyped := isTyped (r.head ++ body ++ r.tail)
        hasExport := hasExport body
        stop := r.head.length + body.length } := by
  obtain ⟨cut, hcut, hhead, hdetect⟩ := detect_region h
  have hregion : region? (r.head ++ body ++ r.tail) = some ⟨r.head, body, r.tail⟩ :=
    region?_replace h
  obtain ⟨cut', hcut', _, hdetect'⟩ := detect_region hregion
  have hsame : cut'.found = cut.found := by
    have hfound : startTag? (cut.before ++ cut.found ++ (body ++ r.tail)) = some _ :=
      startTag?_replace hcut
    rw [← hhead, ← List.append_assoc, hcut'] at hfound
    injection hfound with hfound
    rw [hfound]
  rw [hdetect, hdetect', hsame]

/-- The style of a script is that of its start tag, whatever its body. -/
theorem dialect_replace (h : region? code = some r) (body : Text) :
    (detect (r.head ++ body ++ r.tail)).dialect = (detect code).dialect := by
  rw [detect_replace h]
  rfl

/-- Without a start tag nothing is known but whether the document says that it is typed. -/
theorem detect_no_startTag (h : startTag? code = none) :
    detect code = { isTyped := isTyped code } := by
  unfold detect
  rw [h]

/-- The facts that are read off the first start tag. -/
theorem detect_startTag {cut : Cut} (h : startTag? code = some cut) :
    (detect code).hasScript = true ∧
      (detect code).isSetup = declaresSetup (attributes cut.found) ∧
      (detect code).start = ((cut.before.length + cut.found.length : Nat) : Int) := by
  unfold detect
  rw [h]
  dsimp only
  split
  · exact ⟨rfl, rfl, rfl⟩
  · exact ⟨rfl, rfl, rfl⟩

/-- The style is read off the first start tag. -/
theorem dialect_startTag {cut : Cut} (h : startTag? code = some cut) :
    (detect code).dialect = if declaresSetup (attributes cut.found) then .setup else .options := by
  obtain ⟨hscript, hsetup, _⟩ := detect_startTag h
  rw [Info.dialect, hscript, hsetup]
  rfl

/-! ## Typed documents -/

/-- The text that says that a script is typed, with blanks wherever they may stand. -/
def IsTypeMark (w : Text) : Prop :=
  ∃ q ∈ ['"', '\x27'], ∃ lang ∈ ["ts".toList, "tsx".toList], ∃ ws₁ ws₂ : Text,
    (∀ c ∈ ws₁ ++ ws₂, isBlank c = true) ∧
      w = "lang".toList ++ ws₁ ++ ['='] ++ ws₂ ++ (q :: lang ++ [q])

/-- A document is typed exactly where a mark stands in it. -/
theorem isTyped_iff : isTyped code = true ↔ ∃ w, IsTypeMark w ∧ w <:+: code := by
  simp only [isTyped, Pattern.occurs_iff, List.mem_flatMap]
  constructor
  · intro h
    obtain ⟨x, w, after, rfl, p, ⟨q, hq, hp⟩, hf⟩ := h
    have hmark : ∃ lang ∈ ["ts".toList, "tsx".toList], p = Pattern.exactly "lang".toList ++
        Pattern.blanks ++ Pattern.exactly ['='] ++ Pattern.blanks ++
        Pattern.exactly (q :: lang ++ [q]) := by
      simpa only [List.mem_cons, List.not_mem_nil, or_false, exists_eq_or_imp, exists_eq_left]
        using hp
    obtain ⟨lang, hlang, rfl⟩ := hmark
    simp only [Pattern.fits_append, Pattern.fits_exactly, Pattern.fits_blanks] at hf
    obtain ⟨_, _, rfl, ⟨_, ws₂, rfl, ⟨_, _, rfl, ⟨_, ws₁, rfl, rfl, h₁⟩, rfl⟩, h₂⟩, rfl⟩ := hf
    refine ⟨_, ⟨q, hq, lang, hlang, ws₁, ws₂, ?_, rfl⟩, x, after, by simp⟩
    intro c hc
    rcases List.mem_append.mp hc with hc | hc
    · exact h₁ c hc
    · exact h₂ c hc
  · intro h
    obtain ⟨w, ⟨q, hq, lang, hlang, ws₁, ws₂, hws, hw⟩, x, after, rfl⟩ := h
    refine ⟨x, w, after, by simp, Pattern.exactly "lang".toList ++
        Pattern.blanks ++ Pattern.exactly ['='] ++ Pattern.blanks ++
        Pattern.exactly (q :: lang ++ [q]), ⟨q, hq, ?_⟩, ?_⟩
    · simp only [List.mem_cons, List.not_mem_nil, or_false] at hlang ⊢
      rcases hlang with rfl | rfl
      · exact Or.inl rfl
      · exact Or.inr rfl
    · simp only [Pattern.fits_append, Pattern.fits_exactly, Pattern.fits_blanks]
      exact ⟨_, _, hw, ⟨_, ws₂, rfl, ⟨_, _, rfl, ⟨_, ws₁, rfl, rfl,
        fun c hc => hws c (List.mem_append_left _ hc)⟩, rfl⟩,
        fun c hc => hws c (List.mem_append_right _ hc)⟩, rfl⟩

/-- A mark is made of blanks, letters, an equals sign and quotes. -/
theorem IsTypeMark.mem {w : Text} (h : IsTypeMark w) {c : Char} (hc : c ∈ w) :
    isBlank c = true ∨ c ∈ "lang=tsx\"\x27".toList := by
  obtain ⟨q, hq, lang, hlang, ws₁, ws₂, hws, rfl⟩ := h
  have hfixed : ∀ t : Text, t ⊆ "lang=tsx\"\x27".toList → c ∈ t →
      isBlank c = true ∨ c ∈ "lang=tsx\"\x27".toList := fun t ht hc => Or.inr (ht hc)
  rw [List.mem_append, List.mem_append, List.mem_append, List.mem_append] at hc
  rcases hc with (((hc | hc) | hc) | hc) | hc
  · exact hfixed _ (by decide) hc
  · exact Or.inl (hws c (List.mem_append_left _ hc))
  · exact hfixed _ (by decide) hc
  · exact Or.inl (hws c (List.mem_append_right _ hc))
  · simp only [List.mem_cons, List.not_mem_nil, or_false] at hq hlang
    rcases hq with rfl | rfl <;> rcases hlang with rfl | rfl <;> exact hfixed _ (by decide) hc

/-- A mark is a phrase: it starts with a letter and ends with a quote. -/
theorem IsTypeMark.phrase {w : Text} (h : IsTypeMark w) : Phrase w := by
  have hmem : ∀ c ∈ w, isStop c = false ∧ c ≠ '<' ∧ c ≠ '>' := by
    intro c hc
    rcases h.mem hc with hb | hf
    · exact not_stop_of_isBlank hb
    · exact forall_of_all (P := fun c => isStop c = false ∧ c ≠ '<' ∧ c ≠ '>') (by decide) c hf
  obtain ⟨q, hq, lang, hlang, ws₁, ws₂, hws, rfl⟩ := h
  have hlast : ("lang".toList ++ ws₁ ++ ['='] ++ ws₂ ++ (q :: lang ++ [q])).getLast? = some q := by
    rw [← List.append_assoc, List.getLast?_concat]
  have hquote : isBlank q = false ∧ q ≠ ':' :=
    forall_of_all (P := fun q => isBlank q = false ∧ q ≠ ':') (by decide) q hq
  refine ⟨by simp, fun c hc => (hmem c hc).1, ?_, ?_, rfl, ?_, Or.inr ?_⟩
  · exact fun hc => (hmem _ (List.mem_of_mem_tail hc)).2.1 rfl
  · exact fun hc => (hmem _ (List.dropLast_subset _ hc)).2.2 rfl
  · rw [hlast]
    exact hquote.1
  · rw [hlast]
    simpa using hquote.2

/-- A text is typed if one of two others is, when its marks are those of the two. -/
theorem isTyped_eq_or {t a b : Text}
    (h : ∀ w, IsTypeMark w → (w <:+: t ↔ w <:+: a ∨ w <:+: b)) :
    isTyped t = (isTyped a || isTyped b) := by
  rw [Bool.eq_iff_iff, Bool.or_eq_true, isTyped_iff, isTyped_iff, isTyped_iff]
  constructor
  · intro ht
    obtain ⟨w, hw, hin⟩ := ht
    rcases (h w hw).mp hin with hin | hin
    · exact Or.inl ⟨w, hw, hin⟩
    · exact Or.inr ⟨w, hw, hin⟩
  · intro ht
    rcases ht with ⟨w, hw, hin⟩ | ⟨w, hw, hin⟩
    · exact ⟨w, hw, (h w hw).mpr (Or.inl hin)⟩
    · exact ⟨w, hw, (h w hw).mpr (Or.inr hin)⟩

/-- No mark lies across a seam. -/
theorem isTyped_append {a b : Text} (hs : seam a b = true) :
    isTyped (a ++ b) = (isTyped a || isTyped b) :=
  isTyped_eq_or fun _ hw => hw.phrase.infix_append hs

/-- Nor does one lie across the end of a line that a semicolon ends. -/
theorem isTyped_line_append (a b : Text) :
    isTyped (a ++ ";\n".toList ++ b) = (isTyped (a ++ ";\n".toList) || isTyped b) := by
  refine isTyped_eq_or fun w hw => ?_
  have hsemi : ';' ∉ w := by
    intro hc
    rcases hw.mem hc with h | h
    · exact absurd h (by decide)
    · exact absurd h (by decide)
  have hline : ∀ t, w <:+: a ++ ";\n".toList ++ t ↔ w <:+: a ∨ w <:+: t := by
    intro t
    have hskip : w <:+: ['\n'] ++ t ↔ w <:+: t :=
      hw.phrase.infix_blanks_append (forall_of_all (by decide))
    rw [← hskip, ← infix_append_char hsemi]
    simp
  have hend : w <:+: a ++ ";\n".toList ↔ w <:+: a := by
    have hnil : ¬ w <:+: [] := fun h => hw.phrase.ne_nil (List.infix_nil.mp h)
    have h := hline []
    rw [List.append_nil] at h
    rw [h, or_iff_left hnil]
  rw [hline b, hend]

/-- What an import adds to a script. -/
def Import.line (name path : Text) : Text := '\n' :: statement name path

theorem Import.line_eq {name path : Text} : line name path =
    "\nimport ".toList ++ (name ++ (" from \x27".toList ++ (path ++ "\x27;\n".toList))) := by
  unfold line statement
  simp

theorem Import.getLast?_line (name path : Text) : (line name path).getLast? = some '\n' := by
  have hline : line name path = "\nimport ".toList ++ (name ++ (" from \x27".toList ++
      (path ++ "\x27;".toList))) ++ ['\n'] := by
    rw [line_eq]
    simp
  rw [hline, List.getLast?_concat]

/-- Behind the start tag of a script a missing import is one line. -/
theorem Import.add_behind {code name : Text} {cut : Cut} (path : Text)
    (htag : startTag? code = some cut) (hmissing : present code name = false) :
    add code name path = cut.before ++ cut.found ++ line name path ++ cut.after := by
  rw [add, if_neg (by simp [hmissing]), htag]
  simp only [line, List.append_assoc, List.cons_append, List.nil_append]

theorem isTyped_import {head rest : Text} (name path : Text) (hhead : head.getLast? = some '>') :
    isTyped (head ++ (Import.line name path ++ rest)) =
      (isTyped (head ++ rest) || isTyped (Import.line name path)) := by
  have hseam : ∀ t, seam head t = true := fun t => by simp [seam, border, hhead, closes]
  have hend : Import.line name path = "\nimport ".toList ++ (name ++ (" from \x27".toList ++
      (path ++ ['\x27']))) ++ ";\n".toList := by
    rw [Import.line_eq]
    simp
  rw [isTyped_append (hseam _), isTyped_append (hseam _), hend, isTyped_line_append,
    Bool.or_left_comm, Bool.or_comm, Bool.or_assoc]

/-- A document is typed after an import if it was typed before, or if the import says so. -/
theorem isTyped_add (h : region? code = some r) (name path : Text) :
    isTyped (Import.add code name path) =
      (isTyped code || !Import.present code name && isTyped (Import.line name path)) := by
  have hcode : r.head ++ r.body ++ r.tail = code := region?_eq_some h
  rw [Import.add_region h, Import.bodyWith]
  split
  · rename_i hpresent
    rw [hcode, hpresent]
    simp
  · rename_i hpresent
    have hline : '\n' :: Import.statement name path = Import.line name path := rfl
    rw [hline, List.append_assoc, List.append_assoc,
      isTyped_import name path (region?_head_closes h), ← List.append_assoc, hcode]
    simp [hpresent]

end Graft.Script
