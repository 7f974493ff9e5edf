import Graft.Proofs.Origins

/-!
# The steps of an injection keep out of each other's way

Every step looks for its place in the text that the step before it left behind. In a
document whose markup and script stand apart this makes no difference: the tag goes into
the markup region and into nothing else (`Markup.IsRegion.insert_eq`), it does not move the
script region (`Layout.region?_fill`), and the import and the registration stay inside that
region.

A `Layout` is a document with two places left out, one for the markup region and one for
the body of the script. An injection fills the first with the markup as the tag alone would
leave it, the second with the revised script, and touches nothing else
(`Spec.steps_keep_apart`).
-/

namespace Graft

open Text

/-! ## The markup region -/

/-- A character that is not blank stops trimming. -/
theorem Text.trimLeft_append_cons {t u : Text} {c : Char} (hc : isBlank c = false) :
    trimLeft (t ++ c :: u) = trimLeft t ++ c :: u := by
  unfold trimLeft
  induction t with
  | nil => simp [hc]
  | cons d t ih =>
      rw [List.cons_append, List.dropWhile_cons, List.dropWhile_cons]
      split
      · exact ih
      · rfl

namespace Markup

/-- The markup region of a document: its content, and the text before and after the two
markers. -/
structure IsRegion (code before content after : Text) : Prop where
  /-- The first start marker is where it should be. -/
  start : cut? startTag code = some (before, content ++ endTag ++ after)
  /-- The last end marker after it too. -/
  stop : cutLast? endTag (content ++ endTag ++ after) = some (content, after)

/-- A content between the two markers. -/
def enclose (content : Text) : Text := startTag ++ content ++ endTag

theorem enclose_last (content : Text) : (enclose content).getLast? = some '>' := by
  rw [enclose, List.getLast?_append]
  rfl

theorem enclose_head (content : Text) : (enclose content).head? = some '<' := rfl

/-- The content of a markup region with a tag put into it. -/
def grown (content tag : Text) : Position → Text
  | .beforeContent => "\n  ".toList ++ tag ++ "\n  ".toList ++ trimLeft content
  | .afterContent => insertAfterRoot [] content [] tag
  | .rootEnd => insertAtEnd [] content [] tag

theorem insertAtEnd_eq (p content q tag : Text) :
    insertAtEnd p content q tag = p ++ insertAtEnd [] content [] tag ++ q := by
  simp [insertAtEnd]

theorem insertAfterRoot_eq (p content q tag : Text) :
    insertAfterRoot p content q tag = p ++ insertAfterRoot [] content [] tag ++ q := by
  unfold insertAfterRoot
  split
  · exact insertAtEnd_eq p content q tag
  · simp

theorem endTag_eq : endTag = '<' :: "/template>".toList := by decide

/-- **The tag stays in the markup.** -/
theorem IsRegion.insert_eq {code before content after : Text}
    (h : IsRegion code before content after) (tag : Text) (position : Position) :
    insert code tag position =
      before ++ enclose (grown content tag position) ++ after := by
  unfold insert
  rw [h.start]
  dsimp only
  cases position with
  | beforeContent =>
      have htrim : trimLeft (content ++ endTag ++ after) = trimLeft content ++ endTag ++ after := by
        rw [endTag_eq, List.append_assoc, List.cons_append, trimLeft_append_cons (by decide)]
        simp
      dsimp only
      rw [htrim]
      unfold grown enclose
      simp
  | afterContent =>
      rw [h.stop]
      dsimp only
      rw [insertAfterRoot_eq]
      unfold grown enclose
      simp
  | rootEnd =>
      rw [h.stop]
      dsimp only
      rw [insertAtEnd_eq]
      unfold grown enclose
      simp

/-- The region taken on its own is a document whose markup is all there is. -/
theorem isRegion_alone (content : Text) :
    IsRegion (enclose content) [] content [] := by
  unfold enclose
  constructor
  · rw [List.append_assoc, List.append_nil]
    exact cut?_append startTag (content ++ endTag)
  · rw [endTag_eq, cutLast?_eq_some_iff (by decide)]
    exact ⟨rfl, by simp⟩

/-- What a tag alone makes of the region. -/
theorem insert_alone (content tag : Text) (position : Position) :
    insert (enclose content) tag position = enclose (grown content tag position) := by
  rw [(isRegion_alone content).insert_eq tag position]
  simp

end Markup

/-! ## Texts without a script -/

namespace Script

/-- A text in which no start tag opens and no end tag stands. -/
def Free (t : Text) : Prop := Pattern.occurs [opening] t = false ∧ occursIn endTag t = false

instance (t : Text) : Decidable (Free t) :=
  inferInstanceAs (Decidable (Pattern.occurs [opening] t = false ∧ occursIn endTag t = false))

theorem free_iff {t : Text} :
    Free t ↔ (∀ w, IsOpening w → ¬ w <:+: t) ∧ ¬ endTag <:+: t := by
  unfold Free
  rw [← Bool.not_eq_true, ← Bool.not_eq_true, occursIn_iff, Pattern.occurs_iff]
  refine and_congr_left fun _ => ?_
  constructor
  · intro h w hw hin
    obtain ⟨x, y, rfl⟩ := hin
    exact h ⟨x, w, y, by simp, opening, by simp, fits_opening.mpr hw⟩
  · intro h hin
    obtain ⟨x, w, y, rfl, p, hp, hf⟩ := hin
    rw [List.mem_singleton.mp hp] at hf
    exact h w (fits_opening.mp hf) ⟨x, y, by simp⟩

/-- A solid word in the markup after a tag went in was there or is in the tag. -/
theorem infix_insert {w code tag : Text} {position : Position} (hw : Solid w) (hcolon : ':' ∉ w)
    (h : w <:+: Markup.insert code tag position) : w <:+: code ∨ w <:+: tag := by
  rcases (edits_insert code tag position).infix_origin hw hcolon h with h | ⟨x, hx, h⟩
  · exact Or.inl h
  · right
    simp only [Markup.additions, List.mem_cons, List.not_mem_nil, or_false] at hx
    rcases hx with rfl | rfl | rfl
    · exact hw.infix_of_padded (List.all_eq_true.mp (by decide)) (List.all_eq_true.mp (by decide)) h
    · exact hw.infix_of_padded (p := "\n  ".toList) (q := [])
        (List.all_eq_true.mp (by decide)) (by simp) (by rw [List.append_nil]; exact h)
    · exact hw.infix_of_padded (List.all_eq_true.mp (by decide)) (List.all_eq_true.mp (by decide)) h

/-- Markup without a script stays so when a tag without one goes in. -/
theorem Free.insert {code tag : Text} (hcode : Free code) (htag : Free tag)
    (position : Position) : Free (Markup.insert code tag position) := by
  rw [free_iff] at hcode htag ⊢
  constructor
  · intro w hw hin
    rcases infix_insert hw.solid.1 hw.solid.2.2 hin with h | h
    · exact hcode.1 w hw h
    · exact htag.1 w hw h
  · intro hin
    rcases infix_insert solid_endTag (by decide) hin with h | h
    · exact hcode.2 h
    · exact htag.2 h

theorem Free.grown {content tag : Text} (hcontent : Free (Markup.enclose content))
    (htag : Free tag) (position : Position) :
    Free (Markup.enclose (Markup.grown content tag position)) := by
  rw [← Markup.insert_alone]
  exact hcontent.insert htag position

/-! ## The script stays where it is -/

/-- An end tag around the markup does not come from markup without one. -/
theorem not_endTag_around {a content content' b : Text} (hfree : Free (Markup.enclose content'))
    (h : ¬ endTag <:+: a ++ Markup.enclose content ++ b) :
    ¬ endTag <:+: a ++ Markup.enclose content' ++ b := by
  -- the markup starts and ends at a seam, so an end tag lies in one of the three parts
  have hhead : (Markup.enclose content').head?.any opens = true := by
    rw [Markup.enclose_head]
    rfl
  have hleft : gap a (Markup.enclose content') = true :=
    gap_of_seam (by simpa using border_before (c := []) hhead)
  have hright : gap (a ++ Markup.enclose content') b = true :=
    border_after (by rw [Markup.enclose_last]; rfl)
  intro hin
  rcases (solid_endTag.infix_append hright).mp hin with hin | hin
  · rcases (solid_endTag.infix_append hleft).mp hin with hin | hin
    · exact h (hin.trans ⟨[], Markup.enclose content ++ b, by simp⟩)
    · exact (free_iff.mp hfree).2 hin
  · exact h (hin.trans (List.suffix_append _ b).isInfix)

/-- A start tag that opens before the markup is decided by the start marker. -/
theorem not_opens_startTag {before content mid rest : Text}
    (h : ∀ y, y <:+ before ++ Markup.enclose content ++ mid → y ≠ [] → ¬ Opens (y ++ rest)) :
    ∀ y, y <:+ before → y ≠ [] → ¬ Opens (y ++ Markup.startTag) := by
  intro y hy hne
  have hsuffix : y ++ Markup.enclose content ++ mid <:+
      before ++ Markup.enclose content ++ mid := by
    obtain ⟨x, rfl⟩ := hy
    exact ⟨x, by simp⟩
  have hnot := h _ hsuffix (by simp [hne])
  have hclose : '>' ∈ y ++ Markup.startTag := List.mem_append_right y (by decide)
  rw [← opens_append (r := content ++ Markup.endTag ++ mid ++ rest) hclose]
  simpa only [Markup.enclose, List.append_assoc] using hnot

/-- Markup without a script is passed over when the start tag is looked for: none opens in
it, and one that opened before it would be decided by the start marker. -/
theorem startTag?_behind {before content code : Text} (hfree : Free (Markup.enclose content))
    (hbefore : ∀ y, y <:+ before → y ≠ [] → ¬ Opens (y ++ Markup.startTag)) :
    startTag? (before ++ Markup.enclose content ++ code) =
      (startTag? code).map fun cut =>
        { cut with before := before ++ Markup.enclose content ++ cut.before } := by
  refine startTag?_skip fun y hy hne hopens => ?_
  rcases suffix_append_cases hy with hy | ⟨z, hz, hzb, rfl⟩
  · -- inside the markup: the opening ends before the bracket that ends the markup
    obtain ⟨f, rest, he, w, attributes, rfl, hw, _⟩ := hopens
    have hclose : '>' ∈ y := by
      obtain ⟨x, hx⟩ := hy
      have hlast := congrArg List.getLast? hx
      rw [List.getLast?_append_of_ne_nil _ hne, Markup.enclose_last] at hlast
      exact List.mem_of_mem_getLast? hlast
    have hprefix : w <+: y ++ code := ⟨attributes ++ ['>'] ++ rest, by rw [he]; simp⟩
    rcases List.prefix_or_prefix_of_prefix hprefix (List.prefix_append y code) with h | h
    · exact (free_iff.mp hfree).1 w hw (h.isInfix.trans hy.isInfix)
    · exact hw.solid.2.1 (h.subset hclose)
  · have hclose : '>' ∈ z ++ Markup.startTag := List.mem_append_right z (by decide)
    refine hbefore z hzb hz ((opens_append (r := content ++ Markup.endTag ++ code) hclose).mp ?_)
    rw [Markup.enclose] at hopens
    simpa only [List.append_assoc] using hopens

end Script

/-- A document with a place left out for its markup region and one for the body of its
script. -/
inductive Layout where
  /-- The script stands before the markup. -/
  | scriptFirst (front tag gap after : Text)
  /-- The script stands after the markup. -/
  | scriptLast (before gap tag after : Text)

namespace Layout

/-- The start tag of the script. -/
def tag : Layout → Text
  | scriptFirst _ tag _ _ => tag
  | scriptLast _ _ tag _ => tag

/-- What stands before the script. -/
def front : Layout → Text → Text
  | scriptFirst front _ _ _, _ => front
  | scriptLast before gap _ _, markup => before ++ markup ++ gap

/-- What stands after the script. -/
def rest : Layout → Text → Text
  | scriptFirst _ _ gap after, markup => gap ++ markup ++ after
  | scriptLast _ _ _ after, _ => after

/-- What stands before the markup. -/
def before : Layout → Text → Text
  | scriptFirst front tag gap _, body => front ++ tag ++ body ++ Script.endTag ++ gap
  | scriptLast before _ _ _, _ => before

/-- What stands after the markup. -/
def after : Layout → Text → Text
  | scriptFirst _ _ _ after, _ => after
  | scriptLast _ gap tag after, body => gap ++ tag ++ body ++ Script.endTag ++ after

/-- The document with its markup region and the body of its script filled in. -/
def fill (l : Layout) (markup body : Text) : Text :=
  l.front markup ++ l.tag ++ body ++ Script.endTag ++ l.rest markup

theorem fill_eq (l : Layout) (markup body : Text) :
    l.fill markup body = l.before body ++ markup ++ l.after body := by
  cases l <;> simp [fill, front, rest, before, after, tag]

/-- A document is laid out in this way: the markup region and the script region are found
at their places. -/
structure Of (l : Layout) (code content body : Text) : Prop where
  /-- The markup region. -/
  markup : Markup.IsRegion code (l.before body) content (l.after body)
  /-- The first start tag of a script. -/
  start : Script.startTag? code = some
    ⟨l.front (Markup.enclose content), l.tag,
      body ++ Script.endTag ++ l.rest (Markup.enclose content)⟩
  /-- The last end tag after it. -/
  stop : cutLast? Script.endTag (body ++ Script.endTag ++ l.rest (Markup.enclose content)) =
    some (body, l.rest (Markup.enclose content))

variable {l : Layout} {code content body : Text}

/-- No end tag stands behind the script, whatever markup without one is filled in. -/
theorem Of.rest_endTag (h : l.Of code content body) {content' : Text}
    (hfree : Script.Free (Markup.enclose content')) :
    ¬ Script.endTag <:+: l.rest (Markup.enclose content') := by
  have hstop := h.stop
  rw [Script.endTag_eq, cutLast?_eq_some_iff (by decide), ← Script.endTag_eq] at hstop
  have hrest := hstop.2
  cases l with
  | scriptLast before gap tag after => exact hrest
  | scriptFirst front tag gap after => exact Script.not_endTag_around hfree hrest

/-- The script is found again at its place, whatever is filled in. -/
theorem Of.startTag?_fill (h : l.Of code content body) {content' : Text}
    (hfree : Script.Free (Markup.enclose content'))
    (body' : Text) : Script.startTag? (l.fill (Markup.enclose content') body') = some
      ⟨l.front (Markup.enclose content'), l.tag,
        body' ++ Script.endTag ++ l.rest (Markup.enclose content')⟩ := by
  have hstart := h.start
  cases l with
  | scriptFirst front tag gap after =>
      -- everything that is filled in comes after the start tag
      have hfound : Script.startTag?
          (front ++ tag ++ (body' ++ Script.endTag ++ (gap ++ Markup.enclose content' ++ after))) =
          some ⟨front, tag, body' ++ Script.endTag ++ (gap ++ Markup.enclose content' ++ after)⟩ :=
        Script.startTag?_replace hstart
      simpa [fill, Layout.front, Layout.tag, rest] using hfound
  | scriptLast before gap tag after =>
      obtain ⟨_, htag, hleft⟩ := Script.startTag?_spec hstart
      dsimp only [Layout.front, Layout.tag, rest] at hstart htag hleft
      -- the tag is found in what follows the markup, and the markup is passed over
      have hgap : Script.startTag? (gap ++ tag ++ (body' ++ Script.endTag ++ after)) =
          some ⟨gap, tag, body' ++ Script.endTag ++ after⟩ := by
        refine Script.startTag?_eq_some htag fun y hy hne hopens => ?_
        have hclose : '>' ∈ y ++ tag := List.mem_append_right y htag.close_mem
        refine hleft y (hy.trans (List.suffix_append _ gap)) hne ?_
        rw [Script.opens_append hclose] at hopens ⊢
        exact hopens
      have hleft' : ∀ y, y <:+ before ++ Markup.enclose content ++ gap → y ≠ [] →
          ¬ Script.Opens (y ++ (tag ++ (body ++ Script.endTag ++ after))) := by
        intro y hy hne
        rw [← List.append_assoc]
        exact hleft y hy hne
      have hfound : Script.startTag? (before ++ Markup.enclose content' ++
          (gap ++ tag ++ (body' ++ Script.endTag ++ after))) = _ :=
        Script.startTag?_behind hfree (Script.not_opens_startTag hleft')
      rw [hgap] at hfound
      simpa [fill, Layout.front, Layout.tag, rest] using hfound

/-- **The script stays where it is.** -/
theorem Of.region?_fill (h : l.Of code content body) {content' : Text}
    (hfree : Script.Free (Markup.enclose content')) (body' : Text) :
    Script.region? (l.fill (Markup.enclose content') body') = some
      ⟨l.front (Markup.enclose content') ++ l.tag, body',
        Script.endTag ++ l.rest (Markup.enclose content')⟩ := by
  rw [Script.region?_eq_some_iff]
  exact ⟨_, l.rest (Markup.enclose content'), h.startTag?_fill hfree body', rfl,
    h.rest_endTag hfree, rfl, rfl⟩

end Layout

/-! ## The later steps stay in the script -/

namespace Script

/-- The body of a script with an import in front of it, unless the document has that. -/
def Import.bodyWith (code name path body : Text) : Text :=
  if present code name then body else '\n' :: statement name path ++ body

theorem Import.add_region {code : Text} {r : Region} (h : region? code = some r)
    (name path : Text) :
    add code name path = r.head ++ bodyWith code name path r.body ++ r.tail := by
  have hcode : r.head ++ r.body ++ r.tail = code := region?_eq_some h
  obtain ⟨cut, rest, hcut, hafter, _, hhead, htail⟩ := region?_eq_some_iff.mp h
  unfold add bodyWith
  split
  · exact hcode.symm
  · rw [hcut]
    dsimp only
    rw [hafter, hhead, htail]
    simp

/-- The body of a script after a registration. -/
def revise (code body name registerName : Text) : Text :=
  match (detect code).dialect with
  | .absent => body
  | .setup => Repair.mend body
  | .options => Registration.edit code body name registerName

theorem register_region {code : Text} {r : Region} (h : region? code = some r)
    (name registerName : Text) :
    register code name registerName = r.head ++ revise code r.body name registerName ++ r.tail := by
  have hcode : r.head ++ r.body ++ r.tail = code := region?_eq_some h
  unfold register revise
  cases (detect code).dialect with
  | absent => exact hcode.symm
  | setup => rw [repairTail, h]
  | options => rw [h]

/-- The import and the registration one after the other revise the body of the script, and
the region is found again around it. -/
theorem register_add_region {code : Text} {r : Region} (h : region? code = some r)
    (name path registerName : Text) :
    ∃ body, body = revise (Import.add code name path) (Import.bodyWith code name path r.body)
        name registerName ∧
      register (Import.add code name path) name registerName = r.head ++ body ++ r.tail ∧
      region? (register (Import.add code name path) name registerName) =
        some ⟨r.head, body, r.tail⟩ := by
  have hregion : region? (Import.add code name path) =
      some ⟨r.head, Import.bodyWith code name path r.body, r.tail⟩ := by
    rw [Import.add_region h]
    exact region?_replace h
  have hregister : register (Import.add code name path) name registerName = r.head ++ _ ++ r.tail :=
    register_region hregion name registerName
  refine ⟨_, rfl, hregister, ?_⟩
  rw [hregister]
  exact region?_replace h

theorem not_mem_additions {name registerName : Text} (hname : '<' ∉ name)
    (hregister : '<' ∉ registerName) : ∀ x ∈ Registration.additions name registerName, '<' ∉ x := by
  have hentry : '<' ∉ Registration.entry name registerName := by
    unfold Registration.entry Registration.key
    split <;> simp [hname, hregister]
  intro x hx
  simp only [Registration.additions, List.mem_cons, List.not_mem_nil, or_false] at hx
  rcases hx with rfl | rfl | rfl | rfl | rfl | rfl | rfl | rfl
  · decide
  · simp [hentry]
  · simp [hentry]
  · simp [hentry]
  · simp [hentry]
  · simp [Registration.exportText, hentry]
  · simp [Registration.exportText, hentry]
  · decide

/-- A registration writes no tag into a script. -/
theorem not_mem_revise {code body name registerName : Text} (hbody : '<' ∉ body)
    (hname : '<' ∉ name) (hregister : '<' ∉ registerName) :
    '<' ∉ revise code body name registerName := by
  have hword : Solid ['<'] := by decide
  have hmem : ∀ {t : Text}, '<' ∈ t ↔ ['<'] <:+: t := by
    intro t
    constructor
    · intro h
      obtain ⟨a, b, rfl⟩ := List.append_of_mem h
      exact ⟨a, b, by simp⟩
    · exact fun h => h.subset (by simp)
  rw [hmem] at hbody ⊢
  intro h
  unfold revise at h
  split at h
  · exact hbody h
  · have hmend : Repair.mend body = body ∨
        ∃ mid, Strike body mid ∧ Edits (fun _ => False) mid (Repair.mend body) :=
      Repair.mend_strike body
    rcases hmend with hm | ⟨mid, hs, he⟩
    · rw [hm] at h
      exact hbody h
    · rcases he.infix_origin hword (by decide) h with h | ⟨x, hx, _⟩
      · exact hbody (hs.infix_origin hword h)
      · exact hx
  · rcases (Registration.edits_edit code body name registerName).infix_origin hword (by decide) h
      with h | ⟨x, hx, h⟩
    · exact hbody h
    · exact not_mem_additions hname hregister x hx (hmem.mpr h)

/-- A start tag that a document starts with is its first. -/
theorem startTag?_front {tag : Text} (htag : IsStartTag tag) (rest : Text) :
    startTag? (tag ++ rest) = some ⟨[], tag, rest⟩ := by
  have hstart : startTag? ([] ++ tag ++ rest) = some ⟨[], tag, rest⟩ := by
    refine startTag?_eq_some htag ?_
    intro y hy hne
    exact absurd (List.suffix_nil.mp hy) hne
  rw [← hstart, List.nil_append]

/-- A document that starts with a start tag has its script there. -/
theorem region?_front {tag body rest : Text} (htag : IsStartTag tag) (hend : ¬ endTag <:+: rest) :
    region? (tag ++ body ++ (endTag ++ rest)) = some ⟨tag, body, endTag ++ rest⟩ := by
  rw [region?_eq_some_iff]
  refine ⟨⟨[], tag, body ++ endTag ++ rest⟩, rest, ?_, rfl, hend, rfl, rfl⟩
  rw [← startTag?_front htag]
  simp only [List.append_assoc]

/-- The start tag of a new script. -/
def Import.newTag (typed : Bool) : Text :=
  if typed then "<script lang=\"ts\">".toList else "<script>".toList

theorem Import.isStartTag_newTag (typed : Bool) : IsStartTag (newTag typed) := by
  cases typed with
  | false => exact ⟨_, [], rfl, isOpening_script, rfl, by simp⟩
  | true => exact ⟨_, " lang=\"ts\"".toList, rfl, isOpening_script, by decide, by decide⟩

/-- A new script is one block: a start tag, a body, and an end tag on a line. -/
theorem Import.synthesize_eq (statement : Text) (typed : Bool) :
    synthesize statement .options typed = newTag typed ++
      ('\n' :: statement ++ "\nexport default \x7b\x7d\n".toList) ++ (endTag ++ ['\n']) := by
  unfold synthesize newTag endTag
  cases typed <;> simp

/-- An import brings a script to a document without one. -/
theorem Import.region?_add_new {code name : Text} (hstart : startTag? code = none)
    (hend : ¬ endTag <:+: code) (himport : present code name = false) (path : Text) :
    ¬ endTag <:+: '\n' :: code ∧ region? (add code name path) = some
      ⟨newTag (isTyped code), '\n' :: statement name path ++ "\nexport default \x7b\x7d\n".toList,
        endTag ++ '\n' :: code⟩ := by
  have hend' : ¬ endTag <:+: '\n' :: code := by
    intro hin
    rw [endTag_eq, ← List.singleton_append (l := code), infix_append_of_not_mem (by decide),
      ← endTag_eq] at hin
    exact hend hin
  refine ⟨hend', ?_⟩
  rw [add, himport, if_neg (by simp), hstart]
  dsimp only
  rw [← region?_front (isStartTag_newTag _) hend', synthesize_eq]
  simp only [List.append_assoc, List.singleton_append]

end Script

/-! ## A whole injection -/

namespace Spec

/-- The body of a script after an injection. -/
def revised (s : Spec) (code body : Text) : Text :=
  Script.revise (s.imported code)
    (Script.Import.bodyWith (Markup.insert code s.tag s.position) s.componentName s.importPath body)
    s.componentName s.registerName

/-- Once the tag is in, the later steps only revise the body of the script. -/
theorem inserted_region {s : Spec} {code : Text} {r : Script.Region}
    (h : Script.region? (Markup.insert code s.tag s.position) = some r) :
    s.inserted code = r.head ++ s.revised code r.body ++ r.tail ∧
      Script.region? (s.inserted code) = some ⟨r.head, s.revised code r.body, r.tail⟩ := by
  obtain ⟨_, rfl, hinserted, hregion⟩ :=
    Script.register_add_region h s.componentName s.importPath s.registerName
  exact ⟨hinserted, hregion⟩

/-- A document without a script stays without one when the tag goes in. -/
theorem scriptless_insert {s : Spec} {code before content after : Text}
    (htag : Script.Free s.tag) (hfree : Script.Free (Markup.enclose content))
    (hmarkup : Markup.IsRegion code before content after)
    (hstart : Script.startTag? code = none) (hend : ¬ Script.endTag <:+: code) :
    Script.startTag? (Markup.insert code s.tag s.position) = none ∧
      ¬ Script.endTag <:+: Markup.insert code s.tag s.position := by
  have hcode : code = before ++ Markup.enclose content ++ after := by
    rw [← cut?_eq_some hmarkup.start, Markup.enclose]
    simp
  have hfree' := hfree.grown htag s.position
  rw [hcode] at hend
  rw [Script.startTag?_eq_none_iff, hcode] at hstart
  rw [hmarkup.insert_eq]
  refine ⟨?_, Script.not_endTag_around hfree' hend⟩
  have hbefore : ∀ y, y <:+ before ++ Markup.enclose content ++ after → y ≠ [] →
      ¬ Script.Opens (y ++ []) := by
    intro y hy _
    rw [List.append_nil]
    exact hstart y hy
  have hafter : Script.startTag? after = none := by
    rw [Script.startTag?_eq_none_iff]
    intro y hy
    exact hstart y (hy.trans (List.suffix_append _ after))
  rw [Script.startTag?_behind hfree' (Script.not_opens_startTag hbefore), hafter]
  rfl

/-- A document without a script has one once the tag and the import are in. -/
theorem scriptless_imported {s : Spec} {code : Text}
    (hstart : Script.startTag? (Markup.insert code s.tag s.position) = none)
    (hend : ¬ Script.endTag <:+: Markup.insert code s.tag s.position)
    (himport : Script.Import.present (Markup.insert code s.tag s.position) s.componentName =
      false) :
    ¬ Script.endTag <:+: '\n' :: Markup.insert code s.tag s.position ∧
      Script.region? (s.imported code) = some
        ⟨Script.Import.newTag (Script.isTyped (Markup.insert code s.tag s.position)),
          '\n' :: Script.Import.statement s.componentName s.importPath ++
            "\nexport default \x7b\x7d\n".toList,
          Script.endTag ++ '\n' :: Markup.insert code s.tag s.position⟩ :=
  Script.Import.region?_add_new hstart hend himport s.importPath

/-- A document without a script gets at most one, as a block in front. -/
theorem scriptless_block {s : Spec} {code : Text}
    (hstart : Script.startTag? (Markup.insert code s.tag s.position) = none)
    (hend : ¬ Script.endTag <:+: Markup.insert code s.tag s.position) :
    ∃ block, s.inserted code = block ++ Markup.insert code s.tag s.position ∧
      (Script.Import.present (Markup.insert code s.tag s.position) s.componentName = true →
        block = []) ∧
      (Script.Import.present (Markup.insert code s.tag s.position) s.componentName = false →
        ∃ tag body, block = tag ++ body ++ Script.endTag ++ ['\n'] ∧
          Script.region? (s.inserted code) = some
            ⟨tag, body, Script.endTag ++ '\n' :: Markup.insert code s.tag s.position⟩ ∧
          ('<' ∉ s.componentName → '<' ∉ s.registerName → '<' ∉ s.importPath → '<' ∉ body)) := by
  cases himport : Script.Import.present (Markup.insert code s.tag s.position) s.componentName with
  | true =>
      refine ⟨[], ?_, fun _ => rfl, fun h => absurd h (by simp)⟩
      have hdialect : (Script.detect (Markup.insert code s.tag s.position)).dialect = .absent := by
        rw [Script.detect, hstart]
        rfl
      rw [inserted, imported, Script.Import.add, if_pos himport, Script.register, hdialect]
      rfl
  | false =>
      obtain ⟨tag, htag, htag'⟩ : ∃ tag, Script.IsStartTag tag ∧ tag = Script.Import.newTag
          (Script.isTyped (Markup.insert code s.tag s.position)) :=
        ⟨_, Script.Import.isStartTag_newTag _, rfl⟩
      obtain ⟨hend', hregion⟩ := scriptless_imported hstart hend himport
      rw [← htag'] at hregion
      obtain ⟨body, hbody⟩ : ∃ body, body = Script.revise (s.imported code)
          ('\n' :: Script.Import.statement s.componentName s.importPath ++
            "\nexport default \x7b\x7d\n".toList) s.componentName s.registerName := ⟨_, rfl⟩
      have hinserted : s.inserted code =
          tag ++ body ++ (Script.endTag ++ '\n' :: Markup.insert code s.tag s.position) := by
        rw [inserted, Script.register_region hregion, hbody]
      refine ⟨tag ++ body ++ Script.endTag ++ ['\n'], ?_, fun h => absurd h (by simp),
        fun _ => ⟨tag, body, rfl, ?_, ?_⟩⟩
      · rw [hinserted]
        simp only [List.append_assoc, List.singleton_append]
      · rw [hinserted]
        exact Script.region?_front htag hend'
      · intro hname hregister hpath
        rw [hbody]
        refine Script.not_mem_revise ?_ hname hregister
        unfold Script.Import.statement
        simp [hname, hpath]

/-- **The steps keep out of each other's way.** Where markup and script stand apart, an
injection fills in the markup as the tag alone would leave it and the revised script, and
nothing else changes. A document without a script gets at most one, in front. -/
theorem steps_keep_apart {s : Spec} {code content : Text} (htag : Script.Free s.tag)
    (hfree : Script.Free (Markup.enclose content)) (habsent : s.isPresent code = false) :
    (∀ (l : Layout) (body : Text), l.Of code content body →
      Markup.insert code s.tag s.position =
        l.fill (Markup.insert (Markup.enclose content) s.tag s.position) body ∧
      s.inject code =
        l.fill (Markup.insert (Markup.enclose content) s.tag s.position) (s.revised code body) ∧
      Script.region? (s.inject code) = some
        ⟨l.front (Markup.insert (Markup.enclose content) s.tag s.position) ++ l.tag,
          s.revised code body,
          Script.endTag ++ l.rest (Markup.insert (Markup.enclose content) s.tag s.position)⟩) ∧
    (∀ before after : Text, Markup.IsRegion code before content after →
      Script.startTag? code = none → ¬ Script.endTag <:+: code →
      Markup.insert code s.tag s.position =
        before ++ Markup.insert (Markup.enclose content) s.tag s.position ++ after ∧
      ∃ block, s.inject code = block ++ Markup.insert code s.tag s.position ∧
        (Script.Import.present (Markup.insert code s.tag s.position) s.componentName = true →
          block = []) ∧
        (Script.Import.present (Markup.insert code s.tag s.position) s.componentName = false →
          ∃ tag body, block = tag ++ body ++ Script.endTag ++ ['\n'] ∧
            Script.region? (s.inject code) = some
              ⟨tag, body, Script.endTag ++ '\n' :: Markup.insert code s.tag s.position⟩ ∧
            ('<' ∉ s.componentName → '<' ∉ s.registerName → '<' ∉ s.importPath →
              '<' ∉ body))) := by
  have hinject : ∀ {before after : Text}, Markup.IsRegion code before content after →
      s.inject code = s.inserted code := by
    intro before after hmarkup
    have hpresent : Markup.isPresent code = true := by
      rw [Markup.isPresent, occursIn, hmarkup.start]
      rfl
    rw [inject, hpresent, habsent, if_neg (by simp)]
  rw [Markup.insert_alone]
  constructor
  · intro l body h
    have hplaced : Markup.insert code s.tag s.position =
        l.fill (Markup.enclose (Markup.grown content s.tag s.position)) body := by
      rw [h.markup.insert_eq, Layout.fill_eq]
    have hregion := h.region?_fill (hfree.grown htag s.position) body
    rw [← hplaced] at hregion
    obtain ⟨hinserted, hfound⟩ := inserted_region hregion
    rw [hinject h.markup]
    refine ⟨hplaced, ?_, hfound⟩
    rw [hinserted, Layout.fill]
    simp only [List.append_assoc]
  · intro before after hmarkup hstart hend
    obtain ⟨hstart', hend'⟩ := scriptless_insert htag hfree hmarkup hstart hend
    rw [hinject hmarkup]
    exact ⟨hmarkup.insert_eq s.tag s.position, scriptless_block hstart' hend'⟩

/-- A tag that reads like a script. -/
def scriptLike : Spec :=
  { componentName := "toast".toList, importPath := "t".toList, registerName := "toast".toList
    position := .afterContent, refName := "toast".toList
    customTemplate := some "<i>components: \x7b\x7d, export default \x7b</i>".toList }

/-- A page with its script in front. -/
def scriptFirstPage : Text :=
  "<script>\nlet a\n</script>\n<template>\n<b></b>\n</template>\n".toList

/-- The layout of that page. -/
def scriptFirstLayout : Layout :=
  .scriptFirst [] "<script>".toList "\n".toList "\n".toList

theorem scriptFirstLayout_of_page :
    scriptFirstLayout.Of scriptFirstPage "\n<b></b>\n".toList "\nlet a\n".toList :=
  ⟨⟨by decide +kernel, by decide +kernel⟩, by decide +kernel, by decide +kernel⟩

/-- The tag goes into the page beside its script, and a page of markup alone gets a script. -/
theorem scriptLike_keeps_apart :
    scriptFirstLayout.Of scriptFirstPage "\n<b></b>\n".toList "\nlet a\n".toList ∧
    scriptLike.inject scriptFirstPage = scriptFirstLayout.fill
      (Markup.insert (Markup.enclose "\n<b></b>\n".toList) scriptLike.tag .afterContent)
      (scriptLike.revised scriptFirstPage "\nlet a\n".toList) ∧
    (Script.region? (scriptLike.inject (Markup.enclose []))).isSome = true := by
  have htag : Script.Free scriptLike.tag := by decide +kernel
  have hfree : Script.Free (Markup.enclose "\n<b></b>\n".toList) := by decide +kernel
  have habsent : scriptLike.isPresent scriptFirstPage = false := by decide +kernel
  have hfree' : Script.Free (Markup.enclose []) := by decide +kernel
  have habsent' : scriptLike.isPresent (Markup.enclose []) = false := by decide +kernel
  obtain ⟨_, _, _, _, hblock⟩ := (steps_keep_apart htag hfree' habsent').2 [] []
    (Markup.isRegion_alone []) (by decide +kernel) (by decide +kernel)
  obtain ⟨_, _, _, hregion, _⟩ := hblock (by decide +kernel)
  have hlayout := scriptFirstLayout_of_page
  refine ⟨hlayout, ((steps_keep_apart htag hfree habsent).1 _ _ hlayout).2.1, ?_⟩
  rw [hregion]
  rfl

end Spec

end Graft
