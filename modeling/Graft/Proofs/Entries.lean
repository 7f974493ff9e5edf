import Graft.Proofs.Idempotence

/-!
# The entries of a map after many registrations

Components are registered one after the other, and each registration reads the map that the
ones before it have written. In a script that exports an object without a `components` key the
first registration adds a map, and every later one merges into it.

A later component is dropped where an earlier entry already mentions its name. For names that
are words this happens in two ways: the name is that of the earlier component, or it is one of
the parts of the earlier key between hyphens (`hides`). What is kept is a fold over the
sequence (`kept`), and the entries of the map are exactly those of the kept components, in the
order in which they came (`entries_registerAll`). So all of them arrive exactly if none hides
a later one (`kept_eq_iff`).

The invariant that carries the run is `Carries`: the script is still an exporting one, and its
first literal map lists what has been kept so far.
-/

namespace Graft

open Text

/-! ## Lists in a text -/

/-- An item of a list: something without a comma, and no blank on either end. -/
structure Text.IsItem (t : Text) : Prop where
  /-- There is something. -/
  ne_nil : t ≠ []
  /-- No comma is part of it. -/
  comma : ',' ∉ t
  /-- It does not start with a blank. -/
  head : t.head?.any isBlank = false
  /-- It does not end with a blank. -/
  last : t.getLast?.any isBlank = false

/-- The items of a list, between its commas. -/
def Text.items (t : Text) : List Text := (split ',' t).map trim

namespace Text

variable {front back : Text} (hfront : ∀ c ∈ front, isBlank c = true)
  (hback : ∀ c ∈ back, isBlank c = true)

include hback in
theorem IsItem.trimRight_append {p e : Text} (he : IsItem e) :
    trimRight (p ++ e ++ back) = p ++ e := by
  rcases List.eq_nil_or_concat e with rfl | ⟨x, c, rfl⟩
  · exact absurd rfl he.ne_nil
  · have hlast := he.last
    rw [List.concat_eq_append, List.getLast?_concat, Option.any_some] at hlast
    have h := (Text.trimRight_append (x := p ++ x) hlast hback).1
    rwa [List.concat_eq_append, ← List.append_assoc p]

include hfront hback in
theorem IsItem.trim_eq {e : Text} (he : IsItem e) : trim (front ++ e ++ back) = e := by
  obtain ⟨c, x, rfl⟩ := List.exists_cons_of_ne_nil he.ne_nil
  have hhead := he.head
  rw [List.head?_cons, Option.any_some] at hhead
  have hleft : trimLeft (front ++ c :: x ++ back) = [] ++ c :: x ++ back := by
    rw [trimLeft, List.append_assoc, List.dropWhile_append_of_pos hfront, List.cons_append,
      List.dropWhile_cons_of_neg (by simp [hhead])]
    rfl
  rw [trim, hleft, he.trimRight_append hback]
  rfl

/-- A list is read back from its text. -/
theorem items_join {front back : Text} (hfront : ∀ c ∈ front, isBlank c = true)
    (hback : ∀ c ∈ back, isBlank c = true) : ∀ {es : List Text}, es ≠ [] → (∀ e ∈ es, IsItem e) →
      items (front ++ join ", ".toList es ++ back) = es
  | [], h, _ => absurd rfl h
  | [e], _, hes => by
      have he := hes e (by simp)
      have hcomma : ',' ∉ front ++ e ++ back := by
        intro hm
        rcases List.mem_append.mp hm with hm | hm
        · rcases List.mem_append.mp hm with hm | hm
          · exact absurd (hfront _ hm) (by decide)
          · exact he.comma hm
        · exact absurd (hback _ hm) (by decide)
      have hjoin : join ", ".toList [e] = e := by simp [join, List.intercalate]
      rw [hjoin, items, split_of_not_mem hcomma, List.map_singleton, he.trim_eq hfront hback]
  | e :: e' :: rest, _, hes => by
      have he := hes e (by simp)
      have hcomma : ',' ∉ front ++ e := by
        intro hm
        rcases List.mem_append.mp hm with hm | hm
        · exact absurd (hfront _ hm) (by decide)
        · exact he.comma hm
      have hcut : front ++ join ", ".toList (e :: e' :: rest) ++ back =
          (front ++ e) ++ ',' :: ([' '] ++ join ", ".toList (e' :: rest) ++ back) := by
        rw [join_cons_cons]
        simp
      have hfirst : trim (front ++ e) = e := by
        have h : trim (front ++ e ++ []) = e := he.trim_eq hfront (by simp)
        rwa [List.append_nil] at h
      have hrest : items ([' '] ++ join ", ".toList (e' :: rest) ++ back) = e' :: rest :=
        items_join (forall_of_all (by decide)) hback (by simp)
          fun d hd => hes d (List.mem_cons_of_mem e hd)
      rw [items] at hrest ⊢
      rw [hcut, split_append_cons hcomma, List.map_cons, hfirst, hrest]

/-- One more item goes to the end of the text. -/
theorem join_concat (separator e : Text) : ∀ {es : List Text}, es ≠ [] →
    join separator (es ++ [e]) = join separator es ++ separator ++ e
  | [], h => absurd rfl h
  | [d], _ => by simp [join, List.intercalate]
  | d :: d' :: rest, _ => by
      have ih : join separator (d' :: rest ++ [e]) = join separator (d' :: rest) ++ separator ++ e :=
        join_concat separator e (by simp)
      rw [List.cons_append, List.cons_append, join_cons_cons, join_cons_cons, ← List.cons_append, ih]
      simp

/-- The text of a list ends with its last item. -/
theorem isItem_join_last (separator : Text) : ∀ {es : List Text}, es ≠ [] →
    (∀ e ∈ es, IsItem e) → ∃ p e, IsItem e ∧ join separator es = p ++ e
  | [], h, _ => absurd rfl h
  | [e], _, hes => ⟨[], e, hes e (by simp), by simp [join, List.intercalate]⟩
  | e :: e' :: rest, _, hes => by
      obtain ⟨p, d, hd, hjoin⟩ : ∃ p d, IsItem d ∧ join separator (e' :: rest) = p ++ d :=
        isItem_join_last separator (by simp) fun d hd => hes d (List.mem_cons_of_mem e hd)
      exact ⟨e ++ separator ++ p, d, hd, by rw [join_cons_cons, hjoin]; simp⟩

end Text

namespace Script

open Registration

/-! ## What is kept -/

/-- A component's name is a word, and the name it is registered under has hyphens at most
besides. -/
def WellNamed (p : Text × Text) : Prop :=
  p.1 ≠ [] ∧ (∀ c ∈ p.1, isWord c = true) ∧ ∀ c ∈ p.2, isWord c = true ∨ c = '-'

/-- The entry of the first component mentions the name of the second. -/
def hides (p q : Text × Text) : Bool := q.1 == p.1 || (split '-' p.2).contains q.1

/-- One more component, unless one that is kept hides it. -/
def keep (kept : List (Text × Text)) (q : Text × Text) : List (Text × Text) :=
  if kept.any (hides · q) then kept else kept ++ [q]

/-- The components of a sequence that get an entry. -/
def kept (pairs : List (Text × Text)) : List (Text × Text) := pairs.foldl keep []

theorem keep_subset {done : List (Text × Text)} {p q : Text × Text} (h : p ∈ keep done q) :
    p ∈ done ∨ p = q := by
  unfold keep at h
  split at h
  · exact Or.inl h
  · simpa using h

theorem length_foldl_keep_le : ∀ (pairs done : List (Text × Text)),
    (pairs.foldl keep done).length ≤ done.length + pairs.length
  | [], done => by simp
  | q :: pairs, done => by
      have hrest := length_foldl_keep_le pairs (keep done q)
      have hkeep : (keep done q).length ≤ done.length + 1 := by
        unfold keep
        split
        · omega
        · simp
      rw [List.foldl_cons, List.length_cons]
      omega

theorem foldl_keep_eq_iff : ∀ (pairs done : List (Text × Text)),
    pairs.foldl keep done = done ++ pairs ↔
      (∀ p ∈ done, ∀ q ∈ pairs, hides p q = false) ∧
        pairs.Pairwise fun p q => hides p q = false
  | [], done => by simp
  | q :: pairs, done => by
      rw [List.foldl_cons, List.pairwise_cons]
      by_cases hq : done.any (hides · q) = true
      · -- one is dropped, and what follows cannot make up for it
        rw [keep, if_pos hq]
        refine iff_of_false ?_ ?_
        · intro h
          have hlength := length_foldl_keep_le pairs done
          rw [h, List.length_append, List.length_cons] at hlength
          omega
        · rintro ⟨h, _⟩
          obtain ⟨p, hp, hhides⟩ := List.any_eq_true.mp hq
          rw [h p hp q (by simp)] at hhides
          exact absurd hhides (by simp)
      · have hfree : ∀ p ∈ done, hides p q = false := by
          intro p hp
          rw [Bool.eq_false_iff]
          intro hhides
          exact hq (List.any_eq_true.mpr ⟨p, hp, hhides⟩)
        have hassoc : done ++ q :: pairs = done ++ [q] ++ pairs := by simp
        rw [keep, if_neg hq, hassoc, foldl_keep_eq_iff pairs (done ++ [q])]
        constructor
        · rintro ⟨hdone, hpairs⟩
          refine ⟨?_, fun p hp => hdone q (by simp) p hp, hpairs⟩
          intro p hp d hd
          rcases List.mem_cons.mp hd with rfl | hd
          · exact hfree p hp
          · exact hdone p (by simp [hp]) d hd
        · rintro ⟨hdone, hq, hpairs⟩
          refine ⟨?_, hpairs⟩
          intro p hp d hd
          rcases List.mem_append.mp hp with hp | hp
          · exact hdone p hp d (by simp [hd])
          · rw [List.mem_singleton.mp hp]
            exact hq d hd

/-- **Nothing is dropped** exactly if no component hides a later one. -/
theorem kept_eq_iff (pairs : List (Text × Text)) :
    kept pairs = pairs ↔ pairs.Pairwise fun p q => hides p q = false := by
  have h := foldl_keep_eq_iff pairs []
  rw [List.nil_append] at h
  rw [kept, h]
  simp

/-! ## Entries -/

/-- The entry of a pair of names. -/
def pairEntry (p : Text × Text) : Text := entry p.1 p.2

/-- What is in an entry is in one of its two names, or is a quote or what joins them. -/
theorem not_mem_entry_of_names {c : Char} {name registerName : Text} (hname : c ∉ name)
    (hregister : c ∉ registerName) (hplain : c ∉ "\x27: ".toList) : c ∉ entry name registerName := by
  have hrest : c ≠ '\x27' ∧ c ∉ ": ".toList := by
    constructor
    · rintro rfl
      exact hplain (by decide)
    · intro hc
      exact hplain ((by decide : ": ".toList ⊆ _) hc)
  have hkey : c ∉ key registerName := by
    unfold key
    split
    · exact hregister
    · simp [hregister, hrest.1]
  intro hc
  unfold entry at hc
  rcases List.mem_append.mp hc with hc | hc
  · rcases List.mem_append.mp hc with hc | hc
    · exact hkey hc
    · exact hrest.2 hc
  · exact hname hc

/-- An entry starts with a quote or with the first character of an identifier. -/
theorem entry_head (name registerName : Text) : ∃ c rest, entry name registerName = c :: rest ∧
    (isNameChar c = true ∨ c = '\x27') := by
  unfold entry key
  split
  · rename_i hid
    obtain ⟨hne, hchars⟩ := isName_of_isIdentifier hid
    obtain ⟨c, rest, rfl⟩ := List.exists_cons_of_ne_nil hne
    exact ⟨c, _, rfl, Or.inl (hchars c (by simp))⟩
  · exact ⟨'\x27', _, rfl, Or.inr rfl⟩

theorem not_isBlank_of_isNameChar {c : Char} (h : isNameChar c = true) : isBlank c = false := by
  rw [Bool.eq_false_iff]
  intro hblank
  rw [not_isNameChar_of_isBlank hblank] at h
  exact absurd h (by simp)

/-- The entry of a word is an item of a list, whatever the word is registered under. -/
theorem isItem_entry {name registerName : Text} (hne : name ≠ [])
    (hword : ∀ c ∈ name, isWord c = true) (hcomma : ',' ∉ registerName) :
    IsItem (entry name registerName) := by
  refine ⟨?_, ?_, ?_, ?_⟩
  · simp [entry]
  · exact not_mem_entry_of_names (not_mem_of_forall hword (by decide +kernel)) hcomma (by decide)
  · obtain ⟨c, rest, hentry, hc⟩ := entry_head name registerName
    rw [hentry, List.head?_cons, Option.any_some]
    rcases hc with hc | rfl
    · exact not_isBlank_of_isNameChar hc
    · decide
  · unfold entry
    rw [List.getLast?_append, List.getLast?_eq_some_getLast hne, Option.some_or, Option.any_some]
    exact not_isBlank_of_isNameChar ((isName_of_word hne hword).2 _ (List.getLast_mem hne))

section Entry

variable {p : Text × Text} (hp : WellNamed p)

include hp

/-- A stop is not part of an entry. -/
theorem WellNamed.not_mem_entry {c : Char} (hword : isWord c = false)
    (hplain : c ∉ "-\x27: ".toList) : c ∉ pairEntry p := by
  have hregister : c ∉ p.2 := by
    intro hc
    rcases hp.2.2 c hc with h | rfl
    · rw [hword] at h
      exact absurd h (by simp)
    · exact absurd (by decide) hplain
  refine not_mem_entry_of_names (not_mem_of_forall hp.2.1 hword) hregister ?_
  intro hc
  exact hplain ((by decide : "\x27: ".toList ⊆ _) hc)

theorem WellNamed.isItem : IsItem (pairEntry p) := by
  refine isItem_entry hp.1 hp.2.1 ?_
  intro hc
  rcases hp.2.2 _ hc with h | h
  · exact absurd h (by decide +kernel)
  · exact absurd h (by decide)

/-- An entry mentions the word of its value and the parts of its key. -/
theorem WellNamed.mentions_entry {q : Text × Text} (hq : WellNamed q) :
    mentions q.1 (pairEntry p) = hides p q := by
  have hname := isName_of_word hq.1 hq.2.1
  have hkey := mentions_iff_mem_split hq.1 hq.2.1 hp.2.2
  have hvalue := mentions_word hq.1 hq.2.1 hp.2.1
  rw [pairEntry, Registration.mentions_entry hname, hides, Bool.or_comm, Bool.eq_iff_iff,
    Bool.or_eq_true, Bool.or_eq_true, hkey, hvalue, beq_iff_eq, List.contains_iff_mem]

end Entry

/-! ## The map lists what is kept -/

/-- The content of a map lists the entries of some components, and mentions what they do. -/
structure Lists (content : Text) (done : List (Text × Text)) : Prop where
  /-- The entries stand between blanks, with commas between them. -/
  text : ∃ front back, (∀ c ∈ front, isBlank c = true) ∧ (∀ c ∈ back, isBlank c = true) ∧
    content = front ++ join ", ".toList (done.map pairEntry) ++ back
  /-- A name is mentioned if one of the entries mentions it. -/
  mentioned : ∀ name, IsName name → mentions name content = done.any (mentions name <| pairEntry ·)

theorem lists_soleEntry (q : Text × Text) : Lists (soleEntry q.1 q.2) [q] := by
  refine ⟨⟨'\n' :: List.replicate 4 ' ', '\n' :: List.replicate 2 ' ',
    forall_of_all (by decide), forall_of_all (by decide), ?_⟩, ?_⟩
  · simp [soleEntry, join, List.intercalate, pairEntry]
  · intro name hname
    rw [mentions_soleEntry hname]
    simp [pairEntry]

/-- **One more entry** is listed behind the others. -/
theorem Lists.extend {content : Text} {done : List (Text × Text)} (h : Lists content done)
    (hne : done ≠ []) (hdone : ∀ p ∈ done, WellNamed p) (q : Text × Text) :
    Lists (extend content q.1 q.2) (done ++ [q]) := by
  have hitems : ∀ e ∈ done.map pairEntry, IsItem e := by
    intro e he
    obtain ⟨p, hp, rfl⟩ := List.mem_map.mp he
    exact (hdone p hp).isItem
  have hmap : done.map pairEntry ≠ [] := by simpa using hne
  refine ⟨?_, ?_⟩
  · obtain ⟨front, back, hfront, hback, rfl⟩ := h.text
    obtain ⟨x, e, he, hjoin⟩ := isItem_join_last ", ".toList hmap hitems
    have hkept : trimRight (front ++ join ", ".toList (done.map pairEntry) ++ back) =
        front ++ join ", ".toList (done.map pairEntry) := by
      rw [hjoin, ← List.append_assoc front]
      exact he.trimRight_append hback
    have hcomma : ((front ++ join ", ".toList (done.map pairEntry)).isEmpty ||
        (front ++ join ", ".toList (done.map pairEntry)).getLast? == some ',') = false := by
      rw [hjoin, ← List.append_assoc, List.getLast?_append,
        List.getLast?_eq_some_getLast he.ne_nil, Option.some_or]
      have hlast : e.getLast he.ne_nil ≠ ',' := by
        intro hc
        exact he.comma (hc ▸ List.getLast_mem he.ne_nil)
      simp [he.ne_nil, hlast]
    refine ⟨front, [], hfront, by simp, ?_⟩
    unfold Registration.extend
    dsimp only
    rw [hkept, hcomma, if_neg (by simp), List.map_append, List.map_singleton,
      join_concat _ _ hmap]
    simp [pairEntry]
  · intro name hname
    rw [mentions_extend hname, h.mentioned name hname]
    simp [pairEntry]

/-! ## The run -/

/-- Register components one after the other. -/
def registerAll (pairs : List (Text × Text)) (code : Text) : Text :=
  pairs.foldl (fun code p => register code p.1 p.2) code

/-- The entries of the first literal map of a document's script. -/
def entries (code : Text) : List Text :=
  match region? code with
  | none => []
  | some r =>
    match firstMap? r.body with
    | none => []
    | some content => items content

/-- The state of a script between two registrations: before the first one it exports an object
without a `components` key, after that its first literal map lists what has been kept. -/
def CarriesBody (body : Text) : List (Text × Text) → Prop
  | [] => Pattern.occurs [keyPattern] body = false ∧ (exportOpening? body).isSome = true
  | p :: done => ∃ content, firstMap? body = some content ∧ Lists content (p :: done)

/-- A document with a closed options script that exports an object and lists what has been
kept. -/
structure Carries (code : Text) (done : List (Text × Text)) : Prop where
  /-- The script is an options script. -/
  options : (detect code).dialect = .options
  /-- It is closed, exports something and lists the components. -/
  body : ∃ r, region? code = some r ∧ hasExport r.body = true ∧ CarriesBody r.body done
  /-- The names of the components are words. -/
  named : ∀ p ∈ done, WellNamed p

/-- A script that opens an exported object exports something. -/
theorem hasExport_of_exportOpening? {body : Text} (h : (exportOpening? body).isSome = true) :
    hasExport body = true := by
  obtain ⟨cut, hcut⟩ := Option.isSome_iff_exists.mp h
  rw [hasExport_iff]
  unfold exportOpening? at hcut
  split at hcut
  · rename_i found hfound
    obtain ⟨p, hp, hfit⟩ := Pattern.searchFrom?_fits hfound
    obtain ⟨words, ws, call, ws', hwords, hne, hws, _, _, hopening⟩ :=
      fits_exportPatterns.mp ⟨p, hp, hfit⟩
    obtain ⟨c, ws, rfl⟩ := List.exists_cons_of_ne_nil hne
    refine Or.inl ⟨words, hwords, found.before, c :: ws ++ (call ++ ws') ++ ['{'] ++ found.after,
      ?_, ?_⟩
    · rw [← Pattern.search?_eq_some hfound, hopening]
      simp
    · exact not_isWord_of_not_isNameChar (not_isNameChar_of_isBlank (hws c (by simp)))
  · obtain ⟨p, hp, hfit⟩ := Pattern.searchFrom?_fits hcut
    rw [List.mem_singleton.mp hp] at hfit
    obtain ⟨_, v, hfound, hw, _⟩ := Pattern.fits_append.mp hfit
    obtain ⟨call, ws, hcall, _, rfl⟩ := fits_callPattern.mp hw
    refine Or.inr ⟨call, hcall, cut.before, ws ++ v ++ cut.after, ?_⟩
    rw [← Pattern.search?_eq_some hcut, hfound]
    simp

/-- One registration in a script keeps its component unless it is hidden. -/
theorem CarriesBody.edit {body : Text} {done : List (Text × Text)} {q : Text × Text}
    (hexport : hasExport body = true) (h : CarriesBody body done)
    (hdone : ∀ p ∈ done, WellNamed p) (hq : WellNamed q) (code : Text) :
    CarriesBody (edit code body q.1 q.2) (keep done q) := by
  have hentry : '}' ∉ entry q.1 q.2 := hq.not_mem_entry (by decide +kernel) (by decide)
  cases done with
  | nil =>
      -- the first registration adds the map
      obtain ⟨hkey, hopen⟩ := h
      obtain ⟨cut, hcut⟩ := Option.isSome_iff_exists.mp hopen
      have hadd : Registration.edit code body q.1 q.2 = addMap body q.1 q.2 := by
        rw [Registration.edit, State.of, hexport, hkey]
        rfl
      rw [hadd]
      exact ⟨_, firstMap?_addMap hkey hcut hentry, lists_soleEntry q⟩
  | cons p done =>
      -- every later one merges into it, and looks for its name among the entries
      obtain ⟨content, hmap, hlists⟩ := h
      have hmerge : Registration.edit code body q.1 q.2 = mergeIntoMap body q.1 q.2 := by
        rw [Registration.edit, State.of, hexport, occurs_key_of_firstMap? hmap]
        rfl
      have hnext := firstMap?_mergeIntoMap hmap hentry
      have hseen : mentions q.1 content = (p :: done).any (hides · q) := by
        rw [hlists.mentioned q.1 (isName_of_word hq.1 hq.2.1), Bool.eq_iff_iff, List.any_eq_true,
          List.any_eq_true]
        refine exists_congr fun d => and_congr_right fun hd => ?_
        rw [(hdone d hd).mentions_entry hq]
      rw [hmerge, keep, ← hseen]
      split at hnext
      · rename_i hm
        rw [if_pos hm]
        exact ⟨content, hnext, hlists⟩
      · rename_i hm
        rw [if_neg hm]
        exact ⟨_, hnext, hlists.extend (by simp) hdone q⟩

/-- **The step**: one registration. -/
theorem Carries.register {code : Text} {done : List (Text × Text)} {q : Text × Text}
    (h : Carries code done) (hq : WellNamed q) :
    Carries (register code q.1 q.2) (keep done q) := by
  obtain ⟨r, hregion, hexport, hbody⟩ := h.body
  have hregister : Script.register code q.1 q.2 =
      r.head ++ Registration.edit code r.body q.1 q.2 ++ r.tail := by
    rw [Script.register, h.options, hregion]
  rw [hregister]
  refine ⟨?_, ⟨⟨r.head, Registration.edit code r.body q.1 q.2, r.tail⟩, region?_replace hregion,
    hasExport_edit code hexport, hbody.edit hexport h.named hq code⟩, ?_⟩
  · rw [dialect_replace hregion]
    exact h.options
  · intro p hp
    rcases keep_subset hp with hp | rfl
    · exact h.named p hp
    · exact hq

/-- **The run**: any number of registrations. -/
theorem Carries.registerAll : ∀ {pairs : List (Text × Text)} {code : Text}
    {done : List (Text × Text)}, Carries code done → (∀ p ∈ pairs, WellNamed p) →
    Carries (registerAll pairs code) (pairs.foldl keep done)
  | [], _, _, h, _ => h
  | q :: pairs, code, done, h, hpairs => by
      have hstep := h.register (hpairs q (by simp))
      have hrest : Carries (Script.registerAll pairs (Script.register code q.1 q.2))
          (pairs.foldl keep (keep done q)) :=
        Carries.registerAll hstep fun p hp => hpairs p (List.mem_cons_of_mem q hp)
      exact hrest

theorem Carries.entries_eq {code : Text} {done : List (Text × Text)} (h : Carries code done) :
    entries code = done.map pairEntry := by
  obtain ⟨r, hregion, _, hbody⟩ := h.body
  rw [entries, hregion]
  dsimp only
  cases done with
  | nil =>
      cases hmap : firstMap? r.body with
      | none => rfl
      | some content =>
          have hkey := occurs_key_of_firstMap? hmap
          rw [hbody.1] at hkey
          exact absurd hkey (by simp)
  | cons p done =>
      obtain ⟨content, hmap, hlists⟩ := hbody
      obtain ⟨front, back, hfront, hback, hcontent⟩ := hlists.text
      rw [hmap]
      dsimp only
      rw [hcontent]
      refine items_join hfront hback (by simp) ?_
      intro e he
      obtain ⟨d, hd, rfl⟩ := List.mem_map.mp he
      exact (h.named d hd).isItem

/-- **The entries after a sequence of registrations.** In a closed options script that exports
an object and has no `components` key, the entries of the first literal map are those of the
components that no earlier one hides, in order; these are all of them exactly if no component
has a later one's name, or its name as a part of its key. -/
theorem entries_registerAll {code : Text} {r : Region} {pairs : List (Text × Text)}
    (hdialect : (detect code).dialect = .options) (hregion : region? code = some r)
    (hexport : (exportOpening? r.body).isSome = true)
    (hkey : Pattern.occurs [keyPattern] r.body = false) (hpairs : ∀ p ∈ pairs, WellNamed p) :
    entries (registerAll pairs code) = (kept pairs).map (fun p => entry p.1 p.2) ∧
      (kept pairs = pairs ↔
        pairs.Pairwise fun p q => q.1 ≠ p.1 ∧ q.1 ∉ split '-' p.2) := by
  have hstart : Carries code [] :=
    ⟨hdialect, ⟨r, hregion, hasExport_of_exportOpening? hexport, hkey, hexport⟩, by simp⟩
  refine ⟨(hstart.registerAll hpairs).entries_eq, ?_⟩
  rw [kept_eq_iff]
  simp [hides]

instance (p : Text × Text) : Decidable (WellNamed p) :=
  decidable_of_iff ((!p.1.isEmpty && p.1.all isWord && p.2.all fun c => isWord c || c == '-') = true)
    (by simp [WellNamed, and_assoc])

/-- A script with an export and no map. -/
def emptyExport : Text := "<script>export default \x7b\x7d</script>".toList

/-- The last component is dropped, because its name is a part of the first key. -/
def userCards : List (Text × Text) :=
  [("userCard".toList, "user-card".toList), ("table".toList, "table".toList),
    ("card".toList, "base".toList)]

/-- Distinct names are not enough for every component to arrive. -/
theorem card_is_lost :
    userCards.Pairwise (fun p q => q.1 ≠ p.1 ∧ q.2 ≠ p.2) ∧
      entries (registerAll userCards emptyExport) ≠ userCards.map fun p => entry p.1 p.2 := by
  decide +kernel

/-- The entries of the three components are those of the first two. -/
theorem userCards_entries :
    (∀ p ∈ userCards, WellNamed p) ∧
      entries (registerAll userCards emptyExport) =
        ["'user-card': userCard".toList, "table: table".toList] := by
  have hnamed : ∀ p ∈ userCards, WellNamed p := by decide +kernel
  have hregion : region? emptyExport = some ⟨"<script>".toList, "export default \x7b\x7d".toList,
      "</script>".toList⟩ := by decide +kernel
  refine ⟨hnamed, ?_⟩
  rw [(entries_registerAll (by decide +kernel) hregion (by decide +kernel) (by decide +kernel)
    hnamed).1]
  decide +kernel

end Script

end Graft
