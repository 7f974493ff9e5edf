import Graft.Proofs.Mentions
import Graft.Proofs.Presence

/-!
# Reading back what is written

A tag and a map entry are texts in a language that someone else reads. This file has the readers:
one for a tag with its attributes, one for the entities in the value of an attribute, and one for
a key in single quotes. None of them knows how the texts are made.

A tag is read back exactly (`read_tag`): the name, the reference, and the props in order. The value
of a bound prop is JSON with two characters written as entities, and since the ampersand of an
entity is written as an entity too, one pass over the value undoes both (`decode_entities`),
whatever the JSON says.

The value of a plain prop and the text of a quoted key are written as they are, and a text with a
quote of the surrounding language in it is not read back (`spliced_text_iff`).
-/

namespace Graft

open Text

/-- A marker is found behind a text that does not have its first character. -/
theorem Text.cut?_of_not_mem {d : Char} {m : Text} : ∀ {a : Text} (b : Text), d ∉ a →
    cut? (d :: m) (a ++ d :: (m ++ b)) = some (a, b)
  | [], b, _ => cut?_append (d :: m) b
  | c :: a, b, h => by
      have hc : d ≠ c := fun hc => h (by simp [hc])
      have hrec := cut?_of_not_mem (m := m) b fun hd => h (List.mem_cons_of_mem c hd)
      have hstart : (d :: m).isPrefixOf (c :: (a ++ d :: (m ++ b))) = false := by
        simp [List.isPrefixOf, hc]
      rw [List.cons_append, cut?, hstart, hrec]
      rfl

namespace Spec

/-! ## Entities -/

/-- A value with the two entities undone, in one pass. -/
def decode : Text → Text
  | '&' :: 'q' :: 'u' :: 'o' :: 't' :: ';' :: t => '"' :: decode t
  | '&' :: 'a' :: 'm' :: 'p' :: ';' :: t => '&' :: decode t
  | c :: t => c :: decode t
  | [] => []

theorem decode_cons_of_ne {c : Char} (hc : c ≠ '&') (t : Text) :
    decode (c :: t) = c :: decode t := by
  rw [decode]
  · rintro _ rfl
    exact absurd rfl hc
  · rintro _ rfl
    exact absurd rfl hc

theorem length_decode_le (t : Text) : (decode t).length ≤ t.length := by
  fun_induction decode t with
  | case1 t ih => simp only [List.length_cons]; omega
  | case2 t ih => simp only [List.length_cons]; omega
  | case3 c t _ _ ih => simp only [List.length_cons]; omega
  | case4 => simp

/-- A value stands for itself exactly if it holds no entity. -/
theorem decode_eq_self_iff {t : Text} :
    decode t = t ↔ ¬ "&quot;".toList <:+: t ∧ ¬ "&amp;".toList <:+: t := by
  fun_induction decode t with
  | case1 t ih => exact iff_of_false (by simp) fun h => h.1 ⟨[], t, rfl⟩
  | case2 t ih =>
      refine iff_of_false ?_ fun h => h.2 ⟨[], t, rfl⟩
      intro h
      have hshort := length_decode_le t
      have hlength := congrArg List.length h
      simp only [List.length_cons] at hlength
      omega
  | case3 c t hquot hamp ih =>
      -- an entity that starts here is one of the cases above
      have hquot' : ¬ "&quot;".toList <+: c :: t := by
        rintro ⟨r, hr⟩
        injection hr with hc hr
        exact hquot r hc.symm hr.symm
      have hamp' : ¬ "&amp;".toList <+: c :: t := by
        rintro ⟨r, hr⟩
        injection hr with hc hr
        exact hamp r hc.symm hr.symm
      rw [List.cons.injEq, List.infix_cons_iff, List.infix_cons_iff, or_iff_right hquot',
        or_iff_right hamp', ← ih, eq_self_iff_true, true_and]
  | case4 => exact iff_of_true rfl (by decide)

/-- A JSON text is written character by character. -/
theorem entities_eq (t : Text) : entities t = t.flatMap fun c =>
    if c = '&' then "&amp;".toList else if c = '"' then "&quot;".toList else [c] := by
  have hentities : entities t =
      (t.flatMap fun c => if c = '&' then "&amp;".toList else [c]).flatMap
        fun c => if c = '"' then "&quot;".toList else [c] := rfl
  rw [hentities, List.flatMap_assoc]
  congr 1
  funext c
  by_cases hamp : c = '&'
  · rw [if_pos hamp, if_pos hamp]
    decide
  · rw [if_neg hamp, if_neg hamp, List.flatMap_singleton]

/-- **Entities are undone exactly**, also where the text holds something that looks like one. -/
theorem decode_entities (t : Text) : decode (entities t) = t := by
  rw [entities_eq]
  induction t with
  | nil => rfl
  | cons c t ih =>
      rw [List.flatMap_cons]
      by_cases hamp : c = '&'
      · rw [if_pos hamp, hamp]
        exact congrArg ('&' :: ·) ih
      · by_cases hquot : c = '"'
        · rw [if_neg hamp, if_pos hquot, hquot]
          exact congrArg ('"' :: ·) ih
        · rw [if_neg hamp, if_neg hquot, List.singleton_append, decode_cons_of_ne hamp, ih]

/-- No quote is left. -/
theorem quote_not_mem_entities (t : Text) : '"' ∉ entities t := by
  rw [entities_eq, List.mem_flatMap]
  rintro ⟨c, _, hc⟩
  by_cases hamp : c = '&'
  · rw [if_pos hamp] at hc
    exact absurd hc (by decide)
  · by_cases hquot : c = '"'
    · rw [if_neg hamp, if_pos hquot] at hc
      exact absurd hc (by decide)
    · rw [if_neg hamp, if_neg hquot, List.mem_singleton] at hc
      exact hquot hc.symm

/-! ## Attributes -/

/-- A character of the key of an attribute: no blank, quote, equals sign or closing bracket. -/
def isKeyChar (c : Char) : Bool := !isBlank c && !"\"=>".toList.contains c

/-- A character of the name of a tag: no blank, quote or closing bracket. -/
def isTagChar (c : Char) : Bool := !isBlank c && !"\">".toList.contains c

/-- Read `key="value"` at the start of a text. The key runs to the first equals sign that a quote
follows, the value to the next quote. The result is the two and what is left. -/
def readAttribute? (t : Text) : Option ((Text × Text) × Text) :=
  match cut? "=\"".toList t with
  | none => none
  | some (key, rest) =>
    if key.all isKeyChar then
      (cut? ['"'] rest).map fun (value, after) => ((key, value), after)
    else none

theorem length_of_readAttribute? {t after : Text} {a : Text × Text}
    (h : readAttribute? t = some (a, after)) : after.length < t.length := by
  unfold readAttribute? at h
  split at h
  · exact absurd h (by simp)
  · rename_i key rest hkey
    split at h
    · obtain ⟨⟨value, after'⟩, hvalue, he⟩ := Option.map_eq_some_iff.mp h
      injection he with _ he
      subst he
      have hlength := congrArg List.length (cut?_eq_some hkey)
      have hlength' := congrArg List.length (cut?_eq_some hvalue)
      simp only [List.length_append, List.length_singleton] at hlength hlength'
      omega
    · exact absurd h (by simp)

/-- Read attributes, each of them after one space, as long as a space follows. -/
def readAttributes (t : Text) : Option (List (Text × Text) × Text) :=
  match t with
  | ' ' :: rest =>
    match _h : readAttribute? rest with
    | none => none
    | some (a, rest) => (readAttributes rest).map fun (as, after) => (a :: as, after)
  | t => some ([], t)
termination_by t.length
decreasing_by
  have := length_of_readAttribute? _h
  simp only [List.length_cons]
  omega

/-- A tag as it is read: its name, and its attributes in order. -/
structure Element where
  /-- The name, which the end of the tag repeats. -/
  name : Text
  /-- Keys and values, as they stand in the tag. -/
  attributes : List (Text × Text)
deriving DecidableEq, Repr

/-- Read a tag without content. Nothing may be left. -/
def readElement? : Text → Option Element
  | '<' :: t =>
    let name := t.takeWhile isTagChar
    match readAttributes (t.dropWhile isTagChar) with
    | none => none
    | some (attributes, rest) =>
      if name ≠ [] ∧ rest = "></".toList ++ name ++ ['>'] then some ⟨name, attributes⟩ else none
  | _ => none

theorem readAttribute?_assign {key value : Text} (hkey : ∀ c ∈ key, isKeyChar c = true)
    (hvalue : '"' ∉ value) (rest : Text) :
    readAttribute? (assign key value ++ rest) = some ((key, value), rest) := by
  have hequals : '=' ∉ key := not_mem_of_forall hkey (by decide)
  have htext : assign key value ++ rest = key ++ '=' :: (['"'] ++ (value ++ '"' :: rest)) := by
    simp [assign]
  have hcut : cut? ['"'] (value ++ '"' :: rest) = some (value, rest) :=
    cut?_of_not_mem (m := []) rest hvalue
  have hmark : "=\"".toList = ['=', '"'] := by decide
  rw [readAttribute?, htext, hmark, cut?_of_not_mem _ hequals]
  dsimp only
  rw [if_pos (List.all_eq_true.mpr hkey), hcut]
  rfl

/-- Where no space follows there is no attribute. -/
theorem readAttributes_stop {t : Text} (h : t.head? ≠ some ' ') :
    readAttributes t = some ([], t) := by
  rw [readAttributes]
  · rintro rest rfl
    exact h rfl

/-- Attributes as a tag has them. -/
def spell (attributes : List (Text × Text)) : Text :=
  attributes.flatMap fun a => ' ' :: assign a.1 a.2

/-- **Attributes are read one by one.** -/
theorem readAttributes_spell {rest : Text} (hrest : rest.head? ≠ some ' ') :
    ∀ {attributes : List (Text × Text)},
      (∀ a ∈ attributes, (∀ c ∈ a.1, isKeyChar c = true) ∧ '"' ∉ a.2) →
      readAttributes (spell attributes ++ rest) = some (attributes, rest)
  | [], _ => readAttributes_stop hrest
  | a :: as, h => by
      obtain ⟨hkey, hvalue⟩ := h a (by simp)
      have hrec := readAttributes_spell hrest fun b hb => h b (List.mem_cons_of_mem a hb)
      have htext : spell (a :: as) ++ rest =
          ' ' :: (assign a.1 a.2 ++ (spell as ++ rest)) := by simp [spell]
      have hfirst := readAttribute?_assign hkey hvalue (spell as ++ rest)
      rw [htext, readAttributes]
      split
      · rename_i hnone
        rw [hfirst] at hnone
        exact absurd hnone (by simp)
      · rename_i b rest' hsome
        rw [hfirst] at hsome
        injection hsome with hsome
        injection hsome with hb hr
        subst hb; subst hr
        rw [hrec]
        rfl

/-! ## The tag -/

/-- A prop as it stands in a tag: a text under its key, anything else as JSON under a colon
and its key. -/
def writtenProp (p : Text × Value) : Text × Text :=
  match p.2.text? with
  | some t => (p.1, t)
  | none => (':' :: p.1, entities p.2.json)

theorem prop_eq (p : Text × Value) :
    prop p.1 p.2 = assign (writtenProp p).1 (writtenProp p).2 := by
  obtain ⟨key, v⟩ := p
  cases v <;> rfl

/-- The reference, where there is one. -/
def reference (s : Spec) : List (Text × Text) :=
  if s.withRef then [("ref".toList, s.refName)] else []

/-- The end of a tag. -/
def closing (name : Text) : Text := "></".toList ++ name ++ ['>']

theorem closing_head (name : Text) : (closing name).head? = some '>' := rfl

theorem join_spaces (first : Text) : ∀ parts : List Text,
    join [' '] (first :: parts) = first ++ parts.flatMap (' ' :: ·)
  | [] => by simp [join]
  | part :: parts => by
      have hrec := join_spaces part parts
      rw [join] at hrec ⊢
      rw [List.intercalate_cons_cons, hrec]
      simp

/-- What a tag is made of. -/
theorem tag_eq {s : Spec} (h : s.Plain) : s.tag =
    '<' :: s.registerName ++ spell (s.reference ++ s.props.map writtenProp) ++
      closing s.registerName := by
  have hparts : (if s.withRef then [assign "ref".toList s.refName] else []) ++
      (s.props.map fun p => prop p.1 p.2) =
      (s.reference ++ s.props.map writtenProp).map fun a => assign a.1 a.2 := by
    rw [List.map_append, List.map_map]
    congr 1
    · unfold reference
      split <;> rfl
    · exact List.map_congr_left fun p _ => prop_eq p
  have hplain : s.plainTag = element s.registerName
      ((if s.withRef then [assign "ref".toList s.refName] else []) ++
        (s.props.map fun p => prop p.1 p.2)) := rfl
  rw [tag_of_plain h, hplain, hparts, element, join_spaces, List.flatMap_map]
  simp [closing, spell]

/-- A spec whose tag can be read: no character of a name, a key or a plain value ends it early.
The values of bound props are not restricted. -/
structure Legible (s : Spec) : Prop where
  /-- The tag is made from the spec. -/
  plain : s.Plain
  /-- There is a name. -/
  name_ne : s.registerName ≠ []
  /-- The name has no blank, quote or closing bracket. -/
  name_chars : ∀ c ∈ s.registerName, isTagChar c = true
  /-- The reference has no quote. -/
  ref_chars : s.withRef = true → '"' ∉ s.refName
  /-- The keys have no blank, quote, equals sign or closing bracket. -/
  key_chars : ∀ p ∈ s.props, ∀ c ∈ p.1, isKeyChar c = true
  /-- The plain values have no quote. -/
  text_chars : ∀ p ∈ s.props, ∀ t, p.2.text? = some t → '"' ∉ t

/-- What an attribute has to say about a prop: a text as it is, and anything else as JSON, once
the entities are undone. -/
def Carries (p : Text × Value) (a : Text × Text) : Prop :=
  match p.2.text? with
  | some t => a = (p.1, t)
  | none => a.1 = ':' :: p.1 ∧ decode a.2 = p.2.json

theorem carries_writtenProp (p : Text × Value) : Carries p (writtenProp p) := by
  unfold Carries writtenProp
  cases p.2.text? with
  | some t => rfl
  | none => exact ⟨rfl, decode_entities _⟩

/-- The attributes of a legible spec end where they should. -/
theorem Legible.attributes {s : Spec} (h : s.Legible) :
    ∀ a ∈ s.reference ++ s.props.map writtenProp,
      (∀ c ∈ a.1, isKeyChar c = true) ∧ '"' ∉ a.2 := by
  intro a ha
  rcases List.mem_append.mp ha with ha | ha
  · unfold reference at ha
    split at ha
    · rename_i href
      have hkey : ∀ c ∈ "ref".toList, isKeyChar c = true := forall_of_all (by decide)
      rw [List.mem_singleton.mp ha]
      exact ⟨hkey, h.ref_chars href⟩
    · exact absurd ha (by simp)
  · obtain ⟨p, hp, rfl⟩ := List.mem_map.mp ha
    have hkey := h.key_chars p hp
    unfold writtenProp
    cases htext : p.2.text? with
    | some t => exact ⟨hkey, h.text_chars p hp t htext⟩
    | none => exact ⟨List.forall_mem_cons.mpr ⟨by decide, hkey⟩, quote_not_mem_entities _⟩

/-- **A tag is read back.** The reader finds the name of the tag, the reference exactly where there
is one, and one attribute for each prop, in order: a text under its key, anything else as JSON
under a colon and its key. -/
theorem read_tag {s : Spec} (h : s.Legible) :
    ∃ attributes, readElement? s.tag = some ⟨s.registerName,
        (if s.withRef then [("ref".toList, s.refName)] else []) ++ attributes⟩ ∧
      List.Forall₂ Carries s.props attributes := by
  refine ⟨s.props.map writtenProp, ?_, ?_⟩
  · -- behind the name comes a space or the closing bracket, and neither is part of it
    have hstop : (spell (s.reference ++ s.props.map writtenProp) ++
        closing s.registerName).head?.any isTagChar = false := by
      cases s.reference ++ s.props.map writtenProp with
      | nil =>
          show (closing s.registerName).head?.any isTagChar = false
          rw [closing_head]
          decide
      | cons a as => exact (by decide : isTagChar ' ' = false)
    have hname : ∀ rest : Text, rest.head?.any isTagChar = false →
        (s.registerName ++ rest).takeWhile isTagChar = s.registerName ∧
          (s.registerName ++ rest).dropWhile isTagChar = rest := by
      intro rest hrest
      rw [List.takeWhile_append_of_pos h.name_chars, List.dropWhile_append_of_pos h.name_chars]
      cases rest with
      | nil => simp
      | cons c rest =>
          have hc : isTagChar c = false := hrest
          simp [hc]
    obtain ⟨htake, hdrop⟩ := hname _ hstop
    have hread : readAttributes (spell (s.reference ++ s.props.map writtenProp) ++
        closing s.registerName) =
          some (s.reference ++ s.props.map writtenProp, closing s.registerName) :=
      readAttributes_spell (by rw [closing_head]; decide) h.attributes
    rw [tag_eq h.plain, List.cons_append, List.cons_append, List.append_assoc, readElement?,
      htake, hdrop, hread]
    dsimp only
    rw [if_pos ⟨h.name_ne, rfl⟩]
    rfl
  · rw [List.forall₂_map_right_iff]
    exact List.forall₂_same.mpr fun p _ => carries_writtenProp p

/-- Tabs with a reference, a text, and a list whose JSON has quotes and looks like entities. -/
def tabs : Spec :=
  { componentName := "tabs".toList
    importPath := "./tabs.vue".toList
    registerName := "x-tabs".toList
    refName := "main".toList
    props := [("title".toList, .str "a > b".toList),
      ("items".toList, .list [.str "&quot; \"> x=\"".toList, .object [("k".toList, .null)]])] }

/-- The list is read back with everything in it. -/
theorem tabs_read : tabs.Legible ∧ ∃ items, readElement? tabs.tag = some ⟨"x-tabs".toList,
      [("ref".toList, "main".toList), ("title".toList, "a > b".toList),
        (":items".toList, items)]⟩ ∧
    decode items = "[\"&quot; \\\"> x=\\\"\", \x7b\"k\": null\x7d]".toList := by
  have hlegible : tabs.Legible :=
    { plain := rfl
      name_ne := by decide
      name_chars := forall_of_all (by decide)
      ref_chars := fun _ => by decide
      key_chars := List.forall_mem_cons.mpr ⟨forall_of_all (by decide),
        List.forall_mem_cons.mpr ⟨forall_of_all (by decide), by simp⟩⟩
      text_chars := by
        simp [tabs, Value.text?] }
  refine ⟨hlegible, ?_⟩
  obtain ⟨attributes, hread, hprops⟩ := read_tag hlegible
  obtain ⟨a, later, ha, hlater, rfl⟩ := List.forall₂_cons_left_iff.mp hprops
  obtain ⟨b, last, hb, hlast, rfl⟩ := List.forall₂_cons_left_iff.mp hlater
  obtain rfl := List.forall₂_nil_left_iff.mp hlast
  obtain ⟨key, items⟩ := b
  have hkey : key = ":items".toList := hb.1
  have htitle : a = ("title".toList, "a > b".toList) := ha
  subst hkey htitle
  exact ⟨items, hread, hb.2.trans (by decide +kernel)⟩

/-! ## A text between quotes -/

/-- At the start of a text stands an attribute with the key, whose value stands for the text `v`,
and it is followed by the next attribute or by the end of the tag. -/
def Shows (key v t : Text) : Prop :=
  ∃ value after, readAttribute? t = some ((key, value), after) ∧ decode value = v ∧
    (after.head? = some ' ' ∨ after.head? = some '>')

/-- **A text in an attribute is read back exactly if it holds no quote and no entity.** -/
theorem shows_assign_iff {key v rest : Text} (hkey : ∀ c ∈ key, isKeyChar c = true)
    (hrest : rest.head? = some ' ' ∨ rest.head? = some '>') :
    Shows key v (assign key v ++ rest) ↔
      '"' ∉ v ∧ ¬ "&quot;".toList <:+: v ∧ ¬ "&amp;".toList <:+: v := by
  rw [← decode_eq_self_iff]
  constructor
  · rintro ⟨value, after, hread, hv, _⟩
    by_cases hquote : '"' ∈ v
    · -- the value is cut off at the quote, and undoing entities makes nothing longer
      exfalso
      obtain ⟨p, q, rfl, hp⟩ := List.eq_append_cons_of_mem hquote
      have hcut : assign key (p ++ '"' :: q) ++ rest =
          assign key p ++ (q ++ '"' :: rest) := by simp [assign]
      rw [hcut, readAttribute?_assign hkey hp] at hread
      injection hread with hread
      injection hread with hread _
      injection hread with _ hvalue
      have hlength := congrArg List.length hv
      have hshort := length_decode_le p
      rw [← hvalue, List.length_append, List.length_cons] at hlength
      omega
    · rw [readAttribute?_assign hkey hquote] at hread
      injection hread with hread
      injection hread with hread _
      injection hread with _ hvalue
      rw [← hvalue] at hv
      exact ⟨hquote, hv⟩
  · rintro ⟨hquote, hv⟩
    exact ⟨v, rest, readAttribute?_assign hkey hquote rest, hv, hrest⟩

end Spec

namespace Script.Registration

/-- What a character stands for behind a backslash. -/
def escaped (c : Char) : Char :=
  if c = 'n' then '\n' else if c = 'r' then '\r' else if c = 't' then '\t' else c

/-- Read a literal in single quotes behind its opening quote, up to the next quote that is not
escaped: the text it stands for, and what is left. -/
def readQuoted : Text → Option (Text × Text)
  | [] => none
  | '\x27' :: t => some ([], t)
  | '\\' :: c :: t => (readQuoted t).map fun (v, rest) => (escaped c :: v, rest)
  | c :: t => (readQuoted t).map fun (v, rest) => (c :: v, rest)

/-- The literal is longer than what it stands for. -/
theorem length_of_readQuoted {t v rest : Text} (h : readQuoted t = some (v, rest)) :
    v.length + rest.length < t.length := by
  fun_induction readQuoted t generalizing v rest with
  | case1 => exact absurd h (by simp)
  | case2 t =>
      injection h with h
      injection h with hv hrest
      subst hv; subst hrest
      simp
  | case3 c t ih =>
      obtain ⟨⟨u, r⟩, hu, he⟩ := Option.map_eq_some_iff.mp h
      injection he with hv hrest
      subst hv; subst hrest
      have := ih hu
      simp only [List.length_cons]
      omega
  | case4 c t _ _ ih =>
      obtain ⟨⟨u, r⟩, hu, he⟩ := Option.map_eq_some_iff.mp h
      injection he with hv hrest
      subst hv; subst hrest
      have := ih hu
      simp only [List.length_cons]
      omega

theorem readQuoted_cons {c : Char} (hquote : c ≠ '\x27') (hslash : c ≠ '\\') (t : Text) :
    readQuoted (c :: t) = (readQuoted t).map fun (v, rest) => (c :: v, rest) := by
  rw [readQuoted]
  · exact hquote
  · rintro _ _ rfl
    exact absurd rfl hslash

/-- A text between single quotes is read back exactly if it has neither a quote nor a backslash. -/
theorem readQuoted_closed_iff : ∀ {v : Text},
    readQuoted (v ++ ['\x27']) = some (v, []) ↔ '\x27' ∉ v ∧ '\\' ∉ v
  | [] => iff_of_true rfl (by simp)
  | c :: v => by
      by_cases hquote : c = '\x27'
      · -- the literal ends at once
        subst hquote
        exact iff_of_false (by simp [readQuoted]) (by simp)
      · by_cases hslash : c = '\\'
        · -- the backslash is lost, so the text comes back shorter
          subst hslash
          refine iff_of_false ?_ (by simp)
          intro h
          cases hrest : v ++ ['\x27'] with
          | nil => exact absurd hrest (by simp)
          | cons d t =>
              rw [List.cons_append, hrest, readQuoted] at h
              obtain ⟨⟨u, r⟩, hu, he⟩ := Option.map_eq_some_iff.mp h
              injection he with hv hr
              injection hv with _ hv
              have hshort := length_of_readQuoted hu
              have hlength := congrArg List.length hrest
              rw [List.length_append, List.length_singleton, List.length_cons] at hlength
              rw [hv] at hshort
              omega
        · have hrec := readQuoted_closed_iff (v := v)
          rw [List.cons_append, readQuoted_cons hquote hslash, Option.map_eq_some_iff]
          have hinner :
              (∃ p, readQuoted (v ++ ['\x27']) = some p ∧ (c :: p.1, p.2) = (c :: v, [])) ↔
              readQuoted (v ++ ['\x27']) = some (v, []) := by
            constructor
            · rintro ⟨⟨u, r⟩, hu, he⟩
              simp only [Prod.mk.injEq, List.cons.injEq, true_and] at he
              obtain ⟨rfl, rfl⟩ := he
              exact hu
            · intro h
              exact ⟨(v, []), h, rfl⟩
          rw [hinner, hrec]
          simp [Ne.symm hquote, Ne.symm hslash]

/-- A key names the text `v`: it is an identifier, the text itself, or a literal in single quotes
that stands for the text and is not followed by anything. -/
def Names (key v : Text) : Prop :=
  isIdentifier key = true ∧ key = v ∨
    ∃ literal, key = '\x27' :: literal ∧ readQuoted literal = some (v, [])

/-- **A register name is read back exactly if it has neither a quote nor a backslash.** -/
theorem names_key_iff {v : Text} : Names (key v) v ↔ '\x27' ∉ v ∧ '\\' ∉ v := by
  unfold key
  cases hid : isIdentifier v with
  | true =>
      -- no character of an identifier has to be escaped
      have hname := (isName_of_isIdentifier hid).2
      refine iff_of_true (Or.inl ⟨hid, rfl⟩) ⟨?_, ?_⟩
      · exact not_mem_of_forall hname (by decide +kernel)
      · exact not_mem_of_forall hname (by decide +kernel)
  | false =>
      have hquoted : isIdentifier ('\x27' :: (v ++ ['\x27'])) = false := rfl
      rw [← readQuoted_closed_iff]
      constructor
      · rintro (⟨hid', _⟩ | ⟨literal, he, hread⟩)
        · exact absurd (hid'.symm.trans hquoted) (by simp)
        · have hliteral : v ++ ['\x27'] = literal := (List.cons.inj he).2
          rw [hliteral]
          exact hread
      · intro h
        exact Or.inr ⟨v ++ ['\x27'], rfl, h⟩

end Script.Registration

namespace Spec

open Script.Registration in
/-- **What is spliced in is read back exactly where it needs no escape.** A text is written as it is
between the quotes of a plain prop, wherever the prop stands in the tag, and between the quotes of a
key. -/
theorem spliced_text_iff {s : Spec} (hplain : s.Plain) {key v : Text}
    (hkey : ∀ c ∈ key, isKeyChar c = true) {earlier later : List (Text × Value)}
    (hprops : s.props = earlier ++ (key, .str v) :: later) :
    (∃ front rest, { s with props := earlier }.tag = front ++ closing s.registerName ∧
      s.tag = front ++ ' ' :: rest ∧
      (Shows key v rest ↔ '"' ∉ v ∧ ¬ "&quot;".toList <:+: v ∧ ¬ "&amp;".toList <:+: v)) ∧
    (Names (Script.Registration.key v) v ↔ '\x27' ∉ v ∧ '\\' ∉ v) := by
  refine ⟨?_, names_key_iff⟩
  have hspell : ∀ as bs, spell (as ++ bs) = spell as ++ spell bs :=
    fun _ _ => List.flatMap_append
  have hrest : ∀ as, (spell as ++ closing s.registerName).head? = some ' ' ∨
      (spell as ++ closing s.registerName).head? = some '>' := by
    intro as
    cases as with
    | nil => exact Or.inr (closing_head s.registerName)
    | cons a as => exact Or.inl rfl
  refine ⟨'<' :: s.registerName ++ spell (s.reference ++ earlier.map writtenProp),
    assign key v ++ (spell (later.map writtenProp) ++ closing s.registerName), ?_, ?_,
    shows_assign_iff hkey (hrest _)⟩
  · exact tag_eq (s := { s with props := earlier }) hplain
  · have hown : spell (writtenProp (key, .str v) :: later.map writtenProp) =
        ' ' :: (assign key v ++ spell (later.map writtenProp)) := rfl
    rw [tag_eq hplain, hprops, List.map_append, List.map_cons, ← List.append_assoc, hspell, hown]
    simp only [List.append_assoc, List.cons_append]

/-- A text with the quotes of both languages. -/
def quotedText : Text := "it's \"5\"".toList

/-- A component whose only prop is that text. -/
def quoted : Spec :=
  { componentName := ['a']
    importPath := ['b']
    registerName := ['a']
    refName := ['a']
    withRef := false
    props := [("title".toList, .str quotedText)] }

/-- Neither the prop nor a key is read back. -/
theorem quoted_misread : quoted.Plain ∧
    (∃ rest, quoted.tag = "<a ".toList ++ rest ∧ ¬ Shows "title".toList quotedText rest) ∧
    ¬ Script.Registration.Names (Script.Registration.key quotedText) quotedText := by
  obtain ⟨⟨front, rest, hfront, htag, hshows⟩, hnames⟩ := @spliced_text_iff quoted rfl
    "title".toList quotedText (forall_of_all (by decide)) [] [] rfl
  have hstart : { quoted with props := [] }.tag = "<a".toList ++ closing quoted.registerName := by
    decide
  have hopen : front = "<a".toList := List.append_cancel_right (hfront.symm.trans hstart)
  refine ⟨rfl, ⟨rest, ?_, ?_⟩, ?_⟩
  · rw [htag, hopen]
    rfl
  · rw [hshows]
    exact fun h => h.1 (by decide)
  · rw [hnames]
    exact fun h => h.1 (by decide)

end Spec

end Graft
