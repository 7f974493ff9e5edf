import Graft.Proofs.Exports
import Graft.Proofs.Mentions
import Graft.Proofs.Stability

/-!
# Imports over any sequence of calls

Whether a name is imported is asked of the whole document, and each call asks again, of the text
that the calls before it left. So a statement that is written must be recognised from then on, and
nothing that is written later may hide it, or hide an import that the document came with.

The two shapes that count as an import are said here without any search (`present_iff`). The first
one has no closing bracket in it, so a line that is written behind a start tag does not fall into
it. It can fall between the braces of the second, if a start tag stands there, and then the list
gets longer but still mentions what it did, as long as the line brings no closing brace with it
(`present_insert`). The rest is a step lemma (`present_add`) and a run lemma over the calls
(`present_addAll`).
-/

namespace Graft.Script.Import

open Text Registration

/-! ## The two shapes -/

/-- `import`, a name and `from`, with blanks between them. -/
def IsDefault (name w : Text) : Prop :=
  ∃ ws₁ ws₂, (ws₁ ≠ [] ∧ ∀ c ∈ ws₁, isBlank c = true) ∧ (ws₂ ≠ [] ∧ ∀ c ∈ ws₂, isBlank c = true) ∧
    w = "import".toList ++ ws₁ ++ name ++ ws₂ ++ "from".toList

/-- `import`, a list in braces that mentions the name, and `from`. -/
def IsListed (name w : Text) : Prop :=
  ∃ ws₁ list ws₂, (∀ c ∈ ws₁, isBlank c = true) ∧ ('}' ∉ list ∧ mentions name list = true) ∧
    (∀ c ∈ ws₂, isBlank c = true) ∧
    w = "import".toList ++ ws₁ ++ '{' :: list ++ '}' :: ws₂ ++ "from".toList

/-- Both shapes end with `from` as a word. -/
theorem fits_source {p : Pattern} {b : Option Char} {w after : Text} :
    Pattern.Fits (p ++ (Pattern.exactly "from".toList ++ [.edge])) b w after ↔
      ∃ u, w = u ++ "from".toList ∧ Pattern.Fits p b u ("from".toList ++ after) ∧
        after.head?.any isWord = false := by
  have hletter : isWord 'm' = true := by decide +kernel
  have hlast : "from".toList.getLast? = some 'm' := by decide
  have hedge : ∀ c : Option Char, Pattern.isEdge ("from".toList.getLast?.or c) after = true ↔
      after.head?.any isWord = false := by
    intro c
    rw [hlast]
    simp [Pattern.isEdge, hletter]
  simp only [Pattern.fits_append, Pattern.fits_exactly, Pattern.fits_edge]
  constructor
  · rintro ⟨u, _, rfl, hu, _, _, rfl, rfl, hend, rfl⟩
    rw [List.append_nil] at hu ⊢
    rw [List.nil_append, hedge] at hend
    exact ⟨u, rfl, hu, hend⟩
  · rintro ⟨u, rfl, hu, hend⟩
    refine ⟨u, _, rfl, hu, _, [], (List.append_nil _).symm, rfl, ?_, rfl⟩
    rw [List.nil_append, hedge]
    exact hend

/-- Inside the braces the name stands between two edges of words. The braces themselves are part
of no word. -/
theorem fits_list {name w after : Text} (hne : name ≠ []) (hbrace : '}' ∉ name) :
    Pattern.Fits ([.many (· != '}'), .edge] ++ Pattern.exactly name ++ [.edge, .many (· != '}')] ++
        Pattern.exactly ['}']) (some '{') w after ↔
      ∃ list, w = list ++ ['}'] ∧ '}' ∉ list ∧ mentions name list = true := by
  have hopen : isWord '{' = false := by decide +kernel
  have hclose : isWord '}' = false := by decide +kernel
  have hfree : ∀ t : Text, (∀ c ∈ t, (c != '}') = true) ↔ '}' ∉ t := by
    intro t
    simp only [bne_iff_ne, ne_eq]
    exact ⟨fun h hm => h _ hm rfl, fun h c hc he => h (he ▸ hc)⟩
  have hfirst : ∀ (x : Text), (x.getLast?.or (some '{')).any isWord = x.getLast?.any isWord := by
    intro x
    cases x.getLast? with
    | none => exact hopen
    | some c => rfl
  have hnext : ∀ (y : Text), (y ++ '}' :: after).head?.any isWord = y.head?.any isWord := by
    intro y
    cases y with
    | nil => exact hclose
    | cons c y => rfl
  have hhead : ∀ y : Text, (name ++ y).head? = name.head? := by
    intro y
    rw [List.head?_append, List.head?_eq_some_head hne]
    rfl
  have hlast : ∀ c : Option Char, name.getLast?.or c = name.getLast? := by
    intro c
    rw [List.getLast?_eq_some_getLast hne]
    rfl
  simp only [Pattern.fits_append, Pattern.fits_exactly]
  constructor
  · rintro ⟨_, _, rfl, ⟨_, y, rfl, ⟨_, n, rfl, ⟨x, _, rfl, hx, hleft, rfl⟩, hn⟩, hright, hy⟩, rfl⟩
    rw [hn, List.append_nil] at hright
    rw [hn, List.nil_append, Pattern.isEdge, bne_iff_ne, hfirst, hhead] at hleft
    rw [List.getLast?_append, Option.or_assoc, hlast, Pattern.isEdge, bne_iff_ne] at hright
    refine ⟨x ++ name ++ y, by rw [hn, List.append_nil], ?_, ?_⟩
    · have hx' := (hfree x).mp hx
      have hy' := (hfree y).mp (Pattern.fits_many.mp hy)
      simp [hx', hbrace, hy']
    · refine (mentions_iff hne).mpr ⟨x, y, rfl, hleft, ?_⟩
      rw [← hnext y]
      exact hright
  · rintro ⟨list, rfl, hlist, hm⟩
    obtain ⟨x, y, rfl, hleft, hright⟩ := (mentions_iff hne).mp hm
    simp only [List.mem_append, not_or] at hlist
    refine ⟨x ++ name ++ y, ['}'], rfl, ⟨x ++ name, y, rfl, ⟨x, name, rfl,
      ⟨x, [], by simp, (hfree x).mpr hlist.1.1, ?_, rfl⟩, rfl⟩, ?_,
      Pattern.fits_many.mpr ((hfree y).mpr hlist.2)⟩, rfl⟩
    · rw [List.nil_append, Pattern.isEdge, bne_iff_ne, hfirst, hhead]
      exact hleft
    · rw [List.getLast?_append, Option.or_assoc, hlast, Pattern.isEdge, bne_iff_ne]
      show name.getLast?.any isWord ≠ (y ++ '}' :: after).head?.any isWord
      rw [hnext]
      exact hright

theorem fits_default {name u rest : Text} {b : Option Char} :
    Pattern.Fits (Pattern.exactly "import".toList ++ Pattern.spacing ++ Pattern.exactly name ++
        Pattern.spacing) b u rest ↔ IsDefault name (u ++ "from".toList) := by
  simp only [Pattern.fits_append, Pattern.fits_exactly, Pattern.fits_spacing]
  constructor
  · rintro ⟨_, ws₂, rfl, ⟨_, _, rfl, ⟨_, ws₁, rfl, rfl, h₁⟩, rfl⟩, h₂⟩
    exact ⟨ws₁, ws₂, h₁, h₂, rfl⟩
  · rintro ⟨ws₁, ws₂, h₁, h₂, he⟩
    rw [List.append_cancel_right he]
    exact ⟨_, ws₂, rfl, ⟨_, _, rfl, ⟨_, ws₁, rfl, rfl, h₁⟩, rfl⟩, h₂⟩

theorem fits_listed {name u rest : Text} {b : Option Char} (hne : name ≠ []) (hbrace : '}' ∉ name) :
    Pattern.Fits (Pattern.exactly "import".toList ++ Pattern.blanks ++ Pattern.exactly ['{'] ++
        ([.many (· != '}'), .edge] ++ Pattern.exactly name ++ [.edge, .many (· != '}')] ++
          Pattern.exactly ['}']) ++ Pattern.blanks) b u rest ↔
      IsListed name (u ++ "from".toList) := by
  have hfront : ∀ {ws : Text}, ("import".toList ++ ws ++ ['{']).getLast?.or b = some '{' := by
    intro ws
    rw [List.getLast?_concat]
    rfl
  have hopen : ∀ {i t : Text}, Pattern.Fits (Pattern.exactly "import".toList ++ Pattern.blanks ++
      Pattern.exactly ['{']) b i t ↔
        ∃ ws, (∀ c ∈ ws, isBlank c = true) ∧ i = "import".toList ++ ws ++ ['{'] := by
    intro i t
    simp only [Pattern.fits_append, Pattern.fits_exactly, Pattern.fits_blanks]
    constructor
    · rintro ⟨_, _, rfl, ⟨_, ws, rfl, rfl, hws⟩, rfl⟩
      exact ⟨ws, hws, rfl⟩
    · rintro ⟨ws, hws, rfl⟩
      exact ⟨_, _, rfl, ⟨_, ws, rfl, rfl, hws⟩, rfl⟩
  rw [Pattern.fits_append]
  constructor
  · rintro ⟨_, ws₂, rfl, hu, h₂⟩
    obtain ⟨i, l, rfl, hi, hl⟩ := Pattern.fits_append.mp hu
    obtain ⟨ws₁, h₁, rfl⟩ := hopen.mp hi
    rw [hfront, fits_list hne hbrace] at hl
    obtain ⟨list, rfl, hlist⟩ := hl
    exact ⟨ws₁, list, ws₂, h₁, hlist, Pattern.fits_blanks.mp h₂, by simp⟩
  · rintro ⟨ws₁, list, ws₂, h₁, hlist, h₂, he⟩
    rw [List.append_cancel_right he]
    refine ⟨"import".toList ++ ws₁ ++ ['{'] ++ (list ++ ['}']), ws₂, by simp, ?_,
      Pattern.fits_blanks.mpr h₂⟩
    refine Pattern.fits_append.mpr ⟨_, _, rfl, hopen.mpr ⟨ws₁, h₁, rfl⟩, ?_⟩
    rw [hfront, fits_list hne hbrace]
    exact ⟨list, rfl, hlist⟩

/-- **What counts as an import** stands in the document in one of the two shapes, with `from` at
the end of its word. -/
theorem present_iff {code name : Text} (hne : name ≠ []) (hbrace : '}' ∉ name) :
    present code name = true ↔ ∃ w, (IsDefault name w ∨ IsListed name w) ∧ StandsIn w code := by
  have hregroup : Pattern.exactly "import".toList ++ Pattern.blanks ++ Pattern.exactly ['{'] ++
      [.many (· != '}'), .edge] ++ Pattern.exactly name ++ [.edge, .many (· != '}')] ++
      Pattern.exactly ['}'] ++ Pattern.blanks =
      Pattern.exactly "import".toList ++ Pattern.blanks ++ Pattern.exactly ['{'] ++
      ([.many (· != '}'), .edge] ++ Pattern.exactly name ++ [.edge, .many (· != '}')] ++
        Pattern.exactly ['}']) ++ Pattern.blanks := by simp only [List.append_assoc]
  unfold present
  simp only [Pattern.occurs_iff, patterns, List.mem_cons, List.not_mem_nil, or_false,
    exists_eq_or_imp, exists_eq_left, hregroup, fits_source, fits_default, fits_listed hne hbrace]
  constructor
  · rintro ⟨x, w, after, rfl, ⟨u, rfl, hu, hend⟩ | ⟨u, rfl, hu, hend⟩⟩
    · exact ⟨_, Or.inl hu, x, after, by simp, hend⟩
    · exact ⟨_, Or.inr hu, x, after, by simp, hend⟩
  · rintro ⟨w, hw, x, after, rfl, hend⟩
    refine ⟨x, w, after, by simp, ?_⟩
    rcases hw with hw | hw
    · obtain ⟨ws₁, ws₂, _, _, rfl⟩ := id hw
      exact Or.inl ⟨_, rfl, hw, hend⟩
    · obtain ⟨ws₁, list, ws₂, _, _, _, rfl⟩ := id hw
      exact Or.inr ⟨_, rfl, hw, hend⟩

/-! ## What is written is recognised -/

/-- A name that is a word. -/
def IsWordName (name : Text) : Prop := name ≠ [] ∧ ∀ c ∈ name, isWord c = true

instance (name : Text) : Decidable (IsWordName name) :=
  decidable_of_iff (name ≠ [] ∧ name.all isWord = true) (by rw [List.all_eq_true]; rfl)

theorem IsWordName.not_mem {name : Text} (h : IsWordName name) {c : Char}
    (hc : isWord c = false) : c ∉ name :=
  not_mem_of_forall h.2 hc

/-- A text with the statement in it imports the name. -/
theorem present_of_statement {name : Text} (hname : IsWordName name) (path x y : Text) :
    present (x ++ statement name path ++ y) name = true := by
  have hspace : isWord ' ' = false := by decide +kernel
  have hstatement : statement name path =
      "import ".toList ++ name ++ " from '".toList ++ path ++ "';\n".toList := rfl
  have himport : "import ".toList = "import".toList ++ [' '] := by decide
  have hfrom : " from '".toList = [' '] ++ "from".toList ++ " '".toList := by decide
  have hrest : " '".toList = [' ', '\x27'] := by decide
  rw [present_iff hname.1 (hname.not_mem (by decide +kernel))]
  refine ⟨"import".toList ++ [' '] ++ name ++ [' '] ++ "from".toList,
    Or.inl ⟨[' '], [' '], ⟨by simp, forall_of_all (by decide)⟩,
      ⟨by simp, forall_of_all (by decide)⟩, rfl⟩,
    x, " '".toList ++ (path ++ ("';\n".toList ++ y)), ?_, ?_⟩
  · rw [hstatement, himport, hfrom]
    simp only [List.append_assoc]
  · rw [hrest]
    exact hspace

/-- What a call writes holds the statement. -/
theorem addition_eq (code name path : Text) :
    ∃ x y, addition code name path = x ++ statement name path ++ y := by
  unfold addition
  split
  · refine ⟨newTag (isTyped code) ++ ['\n'],
      "\nexport default \x7b\x7d\n".toList ++ (endTag ++ ['\n']), ?_⟩
    rw [synthesize_eq]
    simp only [List.append_assoc, List.cons_append, List.nil_append]
  · exact ⟨['\n'], [], by simp⟩

/-- **A call makes the name imported.** -/
theorem present_add_self {name : Text} (hname : IsWordName name) (code path : Text) :
    present (add code name path) name = true := by
  cases h : present code name with
  | true =>
      rw [add, if_pos h]
      exact h
  | false =>
      obtain ⟨a, b, _, hadd, _⟩ := add_of_absent path h
      obtain ⟨x, y, hxy⟩ := addition_eq code name path
      have htext : add code name path = (a ++ x) ++ statement name path ++ (y ++ b) := by
        rw [hadd, hxy]
        simp only [List.append_assoc]
      rw [htext]
      exact present_of_statement hname path _ _

/-! ## Nothing is hidden -/

/-- Where one text stands in two put together: in the second, in the first with something behind
it, or with its first part at the end of the first. -/
theorem append_eq_around {a b x w y : Text} (hw : w ≠ []) (h : a ++ b = x ++ w ++ y) :
    (∃ r, x = a ++ r ∧ b = r ++ w ++ y) ∨ (∃ r, r ≠ [] ∧ a = x ++ w ++ r ∧ y = r ++ b) ∨
      ∃ u v, u ≠ [] ∧ w = u ++ v ∧ a = x ++ u ∧ b = v ++ y := by
  rw [List.append_assoc] at h
  rcases List.append_eq_append_iff.mp h with ⟨r, rfl, rfl⟩ | ⟨u, rfl, hu⟩
  · exact Or.inl ⟨r, rfl, by simp⟩
  · rcases List.append_eq_append_iff.mp hu with ⟨r, rfl, rfl⟩ | ⟨v, rfl, rfl⟩
    · cases r with
      | nil => exact Or.inr (Or.inr ⟨w, [], hw, by simp, by simp, rfl⟩)
      | cons c r => exact Or.inr (Or.inl ⟨c :: r, by simp, by simp, rfl⟩)
    · cases u with
      | nil => exact Or.inl ⟨[], by simp, by simp⟩
      | cons c u => exact Or.inr (Or.inr ⟨c :: u, v, by simp, rfl, rfl, rfl⟩)

/-- A part that ends with a character of the middle alone ends in the middle. -/
theorem split_middle {front middle back u v : Text} {c : Char} (hfront : c ∉ front)
    (hback : c ∉ back) (hu : u.getLast? = some c) (h : front ++ middle ++ back = u ++ v) :
    ∃ m₁ m₂, middle = m₁ ++ m₂ ∧ u = front ++ m₁ ∧ v = m₂ ++ back ∧ m₁.getLast? = some c := by
  have hmem : c ∈ u := List.mem_of_mem_getLast? hu
  rw [List.append_assoc] at h
  rcases List.append_eq_append_iff.mp h with ⟨z, rfl, hz⟩ | ⟨z, rfl, _⟩
  · have hz' : z.getLast? = some c := by
      cases hl : z.getLast? with
      | none =>
          rw [List.getLast?_eq_none_iff.mp hl, List.append_nil] at hmem
          exact absurd hmem hfront
      | some d =>
          rw [List.getLast?_append, hl] at hu
          exact hu
    rcases List.append_eq_append_iff.mp hz with ⟨m, rfl, rfl⟩ | ⟨m, rfl, rfl⟩
    · -- the part would reach into the back
      cases hm : m.getLast? with
      | none =>
          rw [List.getLast?_eq_none_iff.mp hm] at hz' ⊢
          exact ⟨middle, [], by simp, by simp, rfl, by simpa using hz'⟩
      | some d =>
          rw [List.getLast?_append, hm] at hz'
          injection hz' with hd
          subst hd
          exact absurd (List.mem_append_left v (List.mem_of_mem_getLast? hm)) hback
    · exact ⟨z, m, rfl, rfl, rfl, hz'⟩
  · exact absurd (List.mem_append_left z hmem) hfront

/-- A list in which a line is written behind a closing bracket mentions what it did. -/
theorem mentions_insert {name l₁ line l₂ : Text} (hname : IsName name)
    (hl : l₁.getLast? = some '>') (hend : line.getLast? = some '\n')
    (h : mentions name (l₁ ++ l₂) = true) : mentions name (l₁ ++ line ++ l₂) = true := by
  have hbracket : isNameChar '>' = false := by decide +kernel
  have hbreak : isNameChar '\n' = false := not_isNameChar '\n' (by decide)
  have hleft : ∀ t, rift l₁ t = true := by
    intro t
    rw [rift, border, hl, Option.all_some, hbracket]
    rfl
  have hright : rift line l₂ = true := by
    rw [rift, border, hend, Option.all_some, hbreak]
    rfl
  rw [mentions_append hname (hleft l₂), Bool.or_eq_true] at h
  rw [List.append_assoc, mentions_append hname (hleft _), mentions_append hname hright]
  rcases h with h | h
  · rw [h, Bool.true_or]
  · rw [h, Bool.or_true, Bool.or_true]

/-- **A line behind a closing bracket hides no import**, if it has no closing brace. -/
theorem present_insert {a b line name : Text} (hname : IsWordName name)
    (ha : a.getLast? = some '>') (hline : '}' ∉ line) (hend : line.getLast? = some '\n')
    (h : present (a ++ b) name = true) : present (a ++ line ++ b) name = true := by
  have hbrace : '}' ∉ name := hname.not_mem (by decide +kernel)
  have hbracket : '>' ∉ name := hname.not_mem (by decide +kernel)
  rw [present_iff hname.1 hbrace] at h ⊢
  obtain ⟨w, hw, x, y, he, hy⟩ := h
  have hne : w ≠ [] := by
    rcases hw with ⟨_, _, _, _, rfl⟩ | ⟨_, _, _, _, _, _, rfl⟩
    · simp
    · simp
  rcases append_eq_around hne he with ⟨r, rfl, rfl⟩ | ⟨r, hr, rfl, rfl⟩ | ⟨u, v, hu, rfl, rfl, rfl⟩
  · exact ⟨w, hw, a ++ line ++ r, y, by simp, hy⟩
  · refine ⟨w, hw, x, r ++ line ++ b, by simp, ?_⟩
    obtain ⟨c, r, rfl⟩ := List.exists_cons_of_ne_nil hr
    exact hy
  · -- the bracket is part of the import, so it stands between the braces of a list
    have hlast : u.getLast? = some '>' := by
      rw [List.getLast?_append, List.getLast?_eq_some_getLast hu, Option.some_or,
        ← List.getLast?_eq_some_getLast hu] at ha
      exact ha
    have hmem : '>' ∈ u ++ v := List.mem_append_left v (List.mem_of_mem_getLast? hlast)
    have hblank : ∀ {ws : Text}, (∀ c ∈ ws, isBlank c = true) → '>' ∉ ws :=
      fun hws => not_mem_of_forall hws (by decide)
    rcases hw with ⟨ws₁, ws₂, h₁, h₂, hw⟩ | ⟨ws₁, list, ws₂, h₁, hlist, h₂, hw⟩
    · rw [hw] at hmem
      simp [hblank h₁.2, hblank h₂.2, hbracket] at hmem
    · have hparts : "import".toList ++ ws₁ ++ ['{'] ++ list ++ ('}' :: ws₂ ++ "from".toList) =
          u ++ v := by
        rw [hw]
        simp only [List.append_assoc, List.cons_append, List.nil_append]
      obtain ⟨l₁, l₂, rfl, rfl, rfl, hl⟩ := split_middle
        (by simp [hblank h₁]) (by simp [hblank h₂]) hlast hparts
      refine ⟨"import".toList ++ ws₁ ++ '{' :: (l₁ ++ line ++ l₂) ++ '}' :: ws₂ ++ "from".toList,
        Or.inr ⟨ws₁, l₁ ++ line ++ l₂, ws₂, h₁, ⟨?_, ?_⟩, h₂, rfl⟩, x, y, ?_, hy⟩
      · have hfree := hlist.1
        rw [List.mem_append, not_or] at hfree
        simp [hfree.1, hfree.2, hline]
      · exact mentions_insert (isName_of_word hname.1 hname.2) hl hend hlist.2
      · simp only [List.append_assoc, List.cons_append, List.nil_append]

/-! ## One call -/

/-- A document without a script gets one in front of it. -/
theorem add_in_front {code name : Text} (path : Text) (htag : startTag? code = none)
    (hmissing : present code name = false) :
    add code name path = synthesize (statement name path) .options (isTyped code) ++ code := by
  rw [add, if_neg (by simp [hmissing]), htag]

/-- A call leaves the text as it is exactly if the name is imported. -/
theorem add_eq_self_iff {code name path : Text} :
    add code name path = code ↔ present code name = true := by
  constructor
  · intro h
    cases hmissing : present code name with
    | true => rfl
    | false =>
        obtain ⟨a, b, hcode, hadd, _⟩ := add_of_absent path hmissing
        obtain ⟨x, y, hxy⟩ := addition_eq code name path
        -- the text got longer by the statement at least
        have hlength := congrArg List.length (hadd.symm.trans (h.trans hcode))
        have hline := length_line name path
        rw [line, List.length_cons] at hline
        rw [hxy] at hlength
        simp only [List.length_append] at hlength
        omega
  · intro h
    rw [add, if_pos h]

/-- **A call hides no import.** -/
theorem present_add {name path word : Text} (hname : IsWordName name) (hpath : '}' ∉ path)
    (hword : IsWordName word) {code : Text} (h : present code word = true) :
    present (add code name path) word = true := by
  have hbrace : isWord '}' = false := by decide +kernel
  cases hmissing : present code name with
  | true =>
      rw [add_eq_self_iff.mpr hmissing]
      exact h
  | false =>
      cases htag : startTag? code with
      | none =>
          rw [add_in_front path htag hmissing]
          rw [present_iff hword.1 (hword.not_mem hbrace)] at h ⊢
          obtain ⟨w, hw, x, y, hcode, hy⟩ := h
          refine ⟨w, hw, synthesize (statement name path) .options (isTyped code) ++ x, y, ?_, hy⟩
          simp only [hcode, List.append_assoc]
      | some cut =>
          obtain ⟨hcode, hfound, _⟩ := startTag?_spec htag
          obtain ⟨g, hg, _⟩ := hfound.closing
          have hline : '}' ∉ line name path :=
            not_mem_line_of_parts (hname.not_mem hbrace) hpath (by decide)
          have hlast : (cut.before ++ cut.found).getLast? = some '>' := by
            rw [hg, ← List.append_assoc, List.getLast?_concat]
          rw [add_behind path htag hmissing]
          rw [hcode] at h
          exact present_insert hword hlast hline (getLast?_line name path) h

/-! ## Sequences of calls -/

/-- Make several calls, one after the other, each of them with a name and a path. -/
def addAll (calls : List (Text × Text)) (code : Text) : Text :=
  calls.foldl (fun t call => add t call.1 call.2) code

/-- A call whose name is a word, and whose path has no closing brace. -/
def Sound (call : Text × Text) : Prop := IsWordName call.1 ∧ '}' ∉ call.2

instance (call : Text × Text) : Decidable (Sound call) := inferInstanceAs (Decidable (_ ∧ _))

theorem addAll_append (earlier later : List (Text × Text)) (code : Text) :
    addAll (earlier ++ later) code = addAll later (addAll earlier code) :=
  List.foldl_append

/-- What is imported stays imported over any number of calls. -/
theorem present_addAll {word : Text} (hword : IsWordName word) :
    ∀ {calls : List (Text × Text)} {code : Text}, (∀ call ∈ calls, Sound call) →
      present code word = true → present (addAll calls code) word = true
  | [], _, _, h => h
  | call :: calls, code, hcalls, h => by
      obtain ⟨hname, hpath⟩ := hcalls call (by simp)
      have hrest : ∀ c ∈ calls, Sound c := fun c hc => hcalls c (List.mem_cons_of_mem call hc)
      show present (addAll calls (add code call.1 call.2)) word = true
      exact present_addAll hword hrest (present_add hname hpath hword h)

/-- After a sequence of calls every name in it is imported. -/
theorem present_of_mem {calls : List (Text × Text)} {call : Text × Text} (code : Text)
    (hcalls : ∀ call ∈ calls, Sound call) (hmem : call ∈ calls) :
    present (addAll calls code) call.1 = true := by
  obtain ⟨earlier, later, rfl⟩ := List.append_of_mem hmem
  have hname := (hcalls call hmem).1
  have hlater : ∀ c ∈ later, Sound c := fun c hc => hcalls c (by simp [hc])
  rw [addAll_append]
  show present (addAll later (add (addAll earlier code) call.1 call.2)) call.1 = true
  exact present_addAll hname hlater (present_add_self hname (addAll earlier code) call.2)

/-- **Imports over any sequence of calls.** At the end every name of a call is imported, and so is
every word that was imported at the start. On the way, a call whose name came up before changes
nothing, whatever its path. A call that does change a text with a script writes one line behind
the first start tag, which stays the first one, and leaves everything else in place. -/
theorem imports_accumulate {calls : List (Text × Text)} (hcalls : ∀ call ∈ calls, Sound call)
    (code : Text) :
    (∀ call ∈ calls, present (addAll calls code) call.1 = true) ∧
    (∀ word, IsWordName word → present code word = true →
      present (addAll calls code) word = true) ∧
    ∀ earlier call later, calls = earlier ++ call :: later →
      let text := addAll earlier code
      (call.1 ∈ earlier.map Prod.fst → ∀ path, add text call.1 path = text) ∧
      (∀ cut, startTag? text = some cut → add text call.1 call.2 ≠ text →
        ∃ written, written = "\nimport ".toList ++ call.1 ++ " from '".toList ++ call.2 ++
            "';\n".toList ∧
          text = cut.before ++ cut.found ++ cut.after ∧
          add text call.1 call.2 = cut.before ++ cut.found ++ (written ++ cut.after) ∧
          startTag? (add text call.1 call.2) =
            some ⟨cut.before, cut.found, written ++ cut.after⟩) := by
  refine ⟨fun call hmem => present_of_mem code hcalls hmem,
    fun word hword h => present_addAll hword hcalls h, ?_⟩
  rintro earlier call later rfl text
  have hearlier : ∀ c ∈ earlier, Sound c := fun c hc => hcalls c (by simp [hc])
  refine ⟨?_, ?_⟩
  · intro hagain path
    obtain ⟨c, hc, hname⟩ := List.mem_map.mp hagain
    rw [add_eq_self_iff, ← hname]
    exact present_of_mem code hearlier hc
  · intro cut htag hchanged
    have hmissing : present text call.1 = false := by
      rw [Bool.eq_false_iff]
      exact fun h => hchanged (add_eq_self_iff.mpr h)
    have hadd : add text call.1 call.2 =
        cut.before ++ cut.found ++ (line call.1 call.2 ++ cut.after) := by
      rw [add_behind call.2 htag hmissing, List.append_assoc]
    refine ⟨line call.1 call.2, ?_, (startTag?_spec htag).1, hadd, ?_⟩
    · rw [line_eq]
      simp only [List.append_assoc]
    · rw [hadd]
      exact startTag?_replace htag

/-- A document in which a start tag stands between the braces of an import. -/
def splitImport : Text := "import \x7b <script>toast, menu \x7d from './ui'".toList

/-- Two calls that write something and one that does not. -/
def threeCalls : List (Text × Text) :=
  [("card".toList, "./a/card".toList), ("list".toList, "from".toList), ("card".toList, "b".toList)]

/-- The lines go between the braces, and the names in them are still imported. -/
theorem splitImport_accumulates :
    present splitImport "toast".toList = true ∧
      addAll threeCalls splitImport = "import \x7b <script>\nimport list from 'from';\n".toList ++
        "\nimport card from './a/card';\ntoast, menu \x7d from './ui'".toList ∧
      present (addAll threeCalls splitImport) "toast".toList = true := by
  have hsound : ∀ call ∈ threeCalls, Sound call := by decide +kernel
  have htoast : present splitImport "toast".toList = true := by decide +kernel
  exact ⟨htoast, by decide +kernel,
    (imports_accumulate hsound splitImport).2.1 _ (by decide +kernel) htoast⟩

end Graft.Script.Import
