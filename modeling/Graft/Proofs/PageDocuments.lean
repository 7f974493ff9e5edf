import Graft.Proofs.PageReach
import Graft.Proofs.Parts

/-!
# Whether a page's document is found

The name of a page is the root of its package and its path with a slash between them, as they
are written. The document of the page stands where the two lead as paths, and in the text of a
path no name is empty and no name is a single dot. The two agree on paths that are written as
paths are, and on no others: a package without a root gives its pages names that start with a
slash, and a root with a slash at its end gives names with two.

The document of a page is one name behind another (`documentIn_eq`), so the directory that holds
the project only puts something in front of it (`exists_front`). What is left is the document seen
from that directory, and there a page finds its own document exactly if its package's root is
`Straight` and nothing has a backslash (`covers_own_iff`). A page that does not can still be found
by chance, through the name of another page (`page_found_everywhere_iff`).
-/

namespace Graft

open Text

namespace Path

/-! ## Paths as they are written -/

/-- A relative path as it is written: it is read and written again without a change. -/
def Normal (t : Text) : Prop := (ofText t).isAbsolute = false ∧ (ofText t).toText = t

instance (t : Text) : Decidable (Normal t) := inferInstanceAs (Decidable (_ ∧ _))

theorem isAbsolute_ofText {t : Text} :
    (ofText t).isAbsolute = true ↔ ∃ rest, t = '/' :: rest := by
  unfold ofText isAbsolute
  constructor
  · intro h
    cases t with
    | nil => simp at h
    | cons c rest =>
        by_cases hc : c = '/'
        · exact ⟨rest, by rw [hc]⟩
        · split at h <;> simp_all
  · rintro ⟨rest, rfl⟩
    split <;> simp_all

theorem root_of_relative {p : Path} (h : p.isAbsolute = false) : p.root = [] := by
  unfold isAbsolute at h
  simpa using h

theorem toText_of_ne_nil {p : Path} (h : p.root ++ join ['/'] p.names ≠ []) :
    p.toText = p.root ++ join ['/'] p.names := by
  unfold toText
  split
  · contradiction
  · rfl

/-- A name that is kept. -/
theorem mem_names {t name : Text} :
    name ∈ (ofText t).names ↔ name ∈ split '/' t ∧ name ≠ [] ∧ name ≠ ['.'] := by
  unfold ofText
  simp

/-- The names of a path in normal form are all its parts, unless it is the single dot. -/
theorem Normal.parts {t : Text} (h : Normal t) :
    t = ['.'] ∨ ∀ part ∈ split '/' t, part ≠ [] ∧ part ≠ ['.'] := by
  obtain ⟨hrel, htext⟩ := h
  rw [toText, root_of_relative hrel, List.nil_append] at htext
  have hnames : ∀ name ∈ (ofText t).names, '/' ∉ name :=
    fun name hname => not_mem_of_mem_split (mem_names.mp hname).1
  cases hjoin : join ['/'] (ofText t).names with
  | nil =>
      rw [hjoin] at htext
      exact Or.inl htext.symm
  | cons c rest =>
      rw [hjoin] at htext
      have hne : (ofText t).names ≠ [] := by
        intro hnil
        rw [hnil] at hjoin
        exact absurd hjoin (by simp [join])
      have hsplit : split '/' t = (ofText t).names := by
        have hback := split_join hne hnames
        rw [hjoin] at hback
        exact htext ▸ hback
      rw [hsplit]
      exact Or.inr fun part hpart => (mem_names.mp hpart).2

/-! ## Names one behind another -/

/-- Names with a slash behind each of them. -/
def lead (names : List Text) : Text := names.flatMap (· ++ ['/'])

theorem lead_append (a b : List Text) : lead (a ++ b) = lead a ++ lead b := List.flatMap_append

/-- What is joined to the end of some names stands behind them. -/
theorem join_append_lead {b : List Text} (hb : b ≠ []) : ∀ a : List Text,
    join ['/'] (a ++ b) = lead a ++ join ['/'] b
  | [] => rfl
  | name :: a => by
      obtain ⟨next, rest, hnext⟩ :=
        List.exists_cons_of_ne_nil (List.append_ne_nil_of_right_ne_nil a hb)
      rw [List.cons_append, hnext, join_cons_cons, ← hnext, join_append_lead hb a]
      simp [lead]

theorem lead_eq_join {names : List Text} (h : names ≠ []) :
    lead names = join ['/'] names ++ ['/'] := by
  rcases List.eq_nil_or_concat names with rfl | ⟨init, last, rfl⟩
  · exact absurd rfl h
  · rw [List.concat_eq_append, lead_append, join_append_lead (by simp), join_singleton]
    simp [lead]

/-- What a path puts in front of others is nothing, or ends in a slash. -/
theorem front_cases (dir : Text) (names : List Text) :
    (ofText dir).root ++ lead names = [] ∨
      ∃ front, (ofText dir).root ++ lead names = front ++ ['/'] := by
  by_cases h : names = []
  · subst h
    unfold ofText
    dsimp only [lead]
    split
    · exact Or.inr ⟨[], rfl⟩
    · exact Or.inr ⟨['/'], rfl⟩
    · exact Or.inr ⟨[], rfl⟩
    · exact Or.inl rfl
  · exact Or.inr ⟨_, by rw [lead_eq_join h, List.append_assoc]⟩

/-- The names of a path are what is written, less some of its characters. -/
theorem lead_sublist (t : Text) : List.Sublist (lead (ofText t).names) (t ++ ['/']) := by
  by_cases h : (ofText t).names = []
  · rw [h]
    exact List.nil_sublist _
  · have hsub := join_sublist ['/'] (List.filter_sublist (l := split '/' t)
      (p := fun name => !name.isEmpty && name != ['.']))
    rw [join_split] at hsub
    rw [lead_eq_join h]
    exact hsub.append (List.Sublist.refl _)

/-- A path that leads down, written as it is: in normal form, and not the single dot. -/
def Straight (t : Text) : Prop := Normal t ∧ t ≠ ['.']

instance (t : Text) : Decidable (Straight t) := inferInstanceAs (Decidable (_ ∧ _))

/-- **The straight paths** are those that stand in front of others as they are written. -/
theorem lead_names_eq_iff {t : Text} (h : (ofText t).isAbsolute = false) :
    lead (ofText t).names = t ++ ['/'] ↔ Straight t := by
  have hroot := root_of_relative h
  by_cases hnames : (ofText t).names = []
  · -- only the single dot is written for no names
    refine iff_of_false (by simp [hnames, lead]) fun hstraight => hstraight.2 ?_
    rw [← hstraight.1.2, toText, hroot, hnames]
    rfl
  · rw [lead_eq_join hnames, List.append_left_inj]
    obtain ⟨name, rest, hcons⟩ := List.exists_cons_of_ne_nil hnames
    have hjoin : join ['/'] (ofText t).names ≠ [] := by
      have hname : name ≠ [] := (mem_names.mp (by rw [hcons]; simp)).2.1
      rw [hcons]
      exact fun hnil => hname (List.prefix_nil.mp (hnil ▸ prefix_join ['/'] name rest))
    have hwritten : (ofText t).toText = join ['/'] (ofText t).names := by
      rw [toText_of_ne_nil (by rw [hroot]; exact hjoin), hroot, List.nil_append]
    rw [← hwritten]
    refine ⟨fun heq => ⟨⟨h, heq⟩, ?_⟩, fun hstraight => hstraight.1.2⟩
    rintro rfl
    exact hnames rfl

end Path

namespace Targets

open Graft.Path

/-! ## Documents -/

/-- The name of the document of a page: its path is seen from the directory of its package. -/
def documentIn (base : Path) (path : Text) : Text :=
  (base.appendText (path ++ documentSuffix)).toText

/-- The path of a document keeps all its parts. -/
theorem ofText_document {path : Text} (h : Normal path) :
    ofText (path ++ documentSuffix) = ⟨[], split '/' (path ++ documentSuffix)⟩ := by
  have hrel : (ofText (path ++ documentSuffix)).isAbsolute = false := by
    rw [Bool.eq_false_iff]
    intro habs
    obtain ⟨rest, hrest⟩ := isAbsolute_ofText.mp habs
    cases path with
    | nil => exact absurd hrest (by simp [documentSuffix])
    | cons c path =>
        injection hrest with hc _
        subst hc
        exact absurd h.1 (by rw [isAbsolute_ofText.mpr ⟨path, rfl⟩]; simp)
  have hkept : ∀ part ∈ split '/' (path ++ documentSuffix), part ≠ [] ∧ part ≠ ['.'] := by
    rcases h.parts with rfl | hparts
    · decide
    · obtain ⟨parts, last, hpath, hdocument⟩ :=
        split_append_of_not_mem (d := '/') (w := documentSuffix) (by decide) path
      rw [hdocument]
      intro part hpart
      rcases List.mem_append.mp hpart with hpart | hpart
      · exact hparts part (by rw [hpath]; simp [hpart])
      · -- the last part has the ending of documents
        rw [List.mem_singleton.mp hpart]
        refine ⟨by simp [documentSuffix], fun hdot => ?_⟩
        have hlength := congrArg List.length hdot
        simp [documentSuffix] at hlength
  have hnames : (ofText (path ++ documentSuffix)).names = split '/' (path ++ documentSuffix) :=
    List.filter_eq_self.mpr fun part hpart => by simp [hkept part hpart]
  rw [← hnames, ← root_of_relative hrel]

/-- **The name of a document**: the names of its directory, and the path behind them. -/
theorem documentIn_eq {path : Text} (h : Normal path) (base : Path) :
    documentIn base path = base.root ++ lead base.names ++ (path ++ documentSuffix) := by
  have hbehind : join ['/'] (base.names ++ split '/' (path ++ documentSuffix)) =
      lead base.names ++ (path ++ documentSuffix) := by
    rw [join_append_lead (split_ne_nil _ _), join_split]
  rw [documentIn, appendText, ofText_document h, append, if_neg (by simp [isAbsolute]),
    toText_of_ne_nil (by rw [hbehind]; simp [documentSuffix]), hbehind, List.append_assoc]

/-- A directory that holds the project puts something in front of the names of its documents. -/
theorem exists_front {root path : Text} (hroot : (ofText root).isAbsolute = false)
    (hpath : Normal path) (dir : Text) :
    ∃ front, (front = [] ∨ ∃ x, front = x ++ ['/']) ∧
      documentIn ((ofText dir).appendText root) path =
        front ++ documentIn (ofText root) path := by
  refine ⟨(ofText dir).root ++ lead (ofText dir).names, front_cases dir _, ?_⟩
  rw [documentIn_eq hpath, documentIn_eq hpath, root_of_relative hroot, appendText, append,
    if_neg (by rw [hroot]; simp), lead_append]
  simp

/-- What has a page's document in itself has it still behind a slash. -/
theorem Covers.behind {page name front : Text} (h : Covers page name)
    (hfront : front = [] ∨ ∃ x, front = x ++ ['/']) : Covers page (front ++ name) := by
  rcases hfront with rfl | ⟨x, rfl⟩
  · exact h
  · rcases h with rfl | h
    · exact Or.inr ⟨x, [], by simp⟩
    · exact Or.inr (h.trans (List.suffix_append _ _).isInfix)

instance (page name : Text) : Decidable (Covers page name) := inferInstanceAs (Decidable (_ ∨ _))

/-- A text that is not longer than the name of a page's document can only be that name. -/
theorem covers_of_length {page name : Text} (h : name.length ≤ (page ++ documentSuffix).length) :
    Covers page name ↔ name = page ++ documentSuffix := by
  refine ⟨fun hcovers => ?_, Or.inl⟩
  rcases hcovers with heq | hinfix
  · exact heq
  · have hlength := hinfix.length_le
    rw [List.cons_append, List.length_cons] at hlength
    omega

/-! ## Backslashes -/

theorem slashed_append (a b : Text) : slashed (a ++ b) = slashed a ++ slashed b :=
  List.flatMap_append

theorem length_slashed (t : Text) : (slashed t).length = t.length := by
  unfold slashed replaceChar
  induction t with
  | nil => rfl
  | cons c t ih =>
      rw [List.flatMap_cons, List.length_append, ih]
      split <;> simp [Nat.add_comm]

theorem backslash_not_mem_slashed (t : Text) : '\\' ∉ slashed t := by
  unfold slashed replaceChar
  intro hmem
  obtain ⟨c, _, hc⟩ := List.mem_flatMap.mp hmem
  split at hc
  · exact absurd hc (by decide)
  · rename_i hne
    exact hne (List.mem_singleton.mp hc).symm

theorem slashed_eq_self_iff {t : Text} : slashed t = t ↔ '\\' ∉ t :=
  ⟨fun h => h ▸ backslash_not_mem_slashed t, slashed_of_not_mem⟩

theorem slashed_documentSuffix : slashed documentSuffix = documentSuffix := rfl

/-! ## A page's own document -/

/-- A page of the main package finds its document, unless its path has a backslash. -/
theorem covers_main_iff {path : Text} :
    Covers path (slashed (path ++ documentSuffix)) ↔ '\\' ∉ path := by
  rw [covers_of_length (Nat.le_of_eq (length_slashed _)), slashed_append, slashed_documentSuffix,
    List.append_left_inj, slashed_eq_self_iff]

/-- **A page of a sub-package finds its document** if the root of the package is straight and
neither the root nor the path has a backslash. -/
theorem covers_own_iff {root path : Text} (hroot : (ofText root).isAbsolute = false)
    (hpath : Normal path) :
    Covers (root ++ '/' :: path) (slashed (documentIn (ofText root) path)) ↔
      Straight root ∧ '\\' ∉ root ∧ '\\' ∉ path := by
  have hsub := lead_sublist root
  have hpage : root ++ '/' :: path = root ++ ['/'] ++ path := by simp
  have hlength : (slashed (documentIn (ofText root) path)).length ≤
      (root ++ '/' :: path ++ documentSuffix).length := by
    have hlead := hsub.length_le
    rw [length_slashed, documentIn_eq hpath, root_of_relative hroot, hpage]
    simp only [List.length_append, List.nil_append] at hlead ⊢
    omega
  rw [covers_of_length hlength, documentIn_eq hpath, root_of_relative hroot, List.nil_append,
    slashed_append, slashed_append, slashed_documentSuffix, ← List.append_assoc,
    List.append_left_inj, hpage, ← lead_names_eq_iff hroot, ← slashed_eq_self_iff (t := path)]
  constructor
  · intro heq
    obtain ⟨hlead, htail⟩ := List.append_inj' heq (length_slashed path)
    -- nothing was left out of the root, so nothing was turned in it either
    have hwhole : lead (ofText root).names = root ++ ['/'] := by
      refine hsub.eq_of_length ?_
      rw [← length_slashed (lead _), hlead]
    refine ⟨hwhole, fun hmem => ?_, htail⟩
    exact backslash_not_mem_slashed (lead (ofText root).names) (by rw [hlead]; simp [hmem])
  · rintro ⟨hlead, hslash, htail⟩
    rw [hlead, htail, slashed_append, slashed_of_not_mem hslash]
    rfl

/-! ## The pages of a project -/

/-- The sub-packages of a manifest. -/
def packages (manifest : Value) : List Value :=
  match manifest.get "subPackages".toList with
  | .list packages => packages
  | _ => []

/-- The root of a sub-package, empty where none is given. -/
def HasRoot (package : Value) (root : Text) : Prop :=
  package.get "root".toList = .str root ∨ package.get "root".toList = .null ∧ root = []

/-- A manifest whose pages are named by relative paths as they are written, and whose
sub-packages have a relative path for their root or none. -/
structure IsLayout (manifest : Value) : Prop where
  /-- Only an object has packages. -/
  isObject : ∃ fields, manifest = .object fields
  /-- The pages of the main package. -/
  main : ∀ path ∈ pagePaths manifest, ∃ t, path = .str t ∧ Normal t
  /-- The roots of the sub-packages. -/
  roots : ∀ package ∈ packages manifest,
    ∃ root, HasRoot package root ∧ (ofText root).isAbsolute = false
  /-- The pages of the sub-packages. -/
  pages : ∀ package ∈ packages manifest, ∀ path ∈ pagePaths package,
    ∃ t, path = .str t ∧ Normal t

theorem IsLayout.isManifest {manifest : Value} (h : IsLayout manifest) : IsManifest manifest where
  isObject := h.isObject
  texts path hpath := by
    obtain ⟨t, ht, _⟩ := h.main path hpath
    exact ⟨t, ht⟩

theorem HasRoot.unique {package : Value} {root other : Text} (h : HasRoot package root)
    (h' : HasRoot package other) : root = other := by
  rcases h with h | ⟨h, rfl⟩
  · rcases h' with h' | ⟨h', _⟩
    · exact Value.str.inj (h.symm.trans h')
    · exact absurd (h.symm.trans h') (by simp)
  · rcases h' with h' | ⟨_, rfl⟩
    · exact absurd (h.symm.trans h') (by simp)
    · rfl

/-- The pages of a sub-package have its root in front of them. -/
theorem subPaths_eq {package : Value} {root : Text} (h : HasRoot package root) :
    subPaths package = (pagePaths package).map fun path => .str (root ++ '/' :: path.display) := by
  have hroot : ((package.get "root".toList).orElse (.str [])).display = root := by
    rcases h with h | ⟨h, rfl⟩
    · rw [h]
      cases root with
      | nil => rfl
      | cons c root => rfl
    · rw [h]
      rfl
  unfold subPaths
  dsimp only
  rw [hroot]
  simp

/-- With nothing to include or to exclude every page is selected. -/
theorem ofManifest_all {manifest : Value} {all : List Value} (h : extract manifest = .ok all) :
    ofManifest manifest (texts []) (texts []) = .ok ⟨all, all⟩ := by
  rw [ofManifest, h]
  rfl

theorem extract_eq {manifest : Value} (h : IsLayout manifest) :
    extract manifest = .ok (pagePaths manifest ++ (packages manifest).flatMap subPaths) := by
  obtain ⟨fields, rfl⟩ := h.isObject
  rfl

/-- A document that is accepted wherever the project stands is accepted as it is seen from
there, and the other way round. -/
theorem accepted_everywhere_iff (targets : Targets)
    (h : ∀ page ∈ targets.selected, ∃ t, page = .str t) {root path : Text}
    (hroot : (ofText root).isAbsolute = false) (hpath : Normal path) :
    (∀ dir, targets.accepts (documentIn ((ofText dir).appendText root) path) = true) ↔
      ∃ page, .str page ∈ targets.selected ∧
        Covers page (slashed (documentIn (ofText root) path)) := by
  constructor
  · intro hall
    have hhere : (ofText []).appendText root = ofText root := by
      rw [appendText, append, if_neg (by rw [hroot]; simp)]
      exact congrArg (Path.mk · (ofText root).names) (root_of_relative hroot).symm
    have haccepts := hall []
    rw [hhere, accepts_iff h] at haccepts
    exact haccepts
  · rintro ⟨page, hpage, hcovers⟩ dir
    obtain ⟨front, hfront, hname⟩ := exists_front hroot hpath dir
    rw [hname, accepts_iff h, slashed_append]
    refine ⟨page, hpage, hcovers.behind ?_⟩
    rcases hfront with rfl | ⟨x, rfl⟩
    · exact Or.inl rfl
    · exact Or.inr ⟨slashed x, slashed_append x _⟩

/-- A name is covered by the page itself or by another one. -/
theorem exists_covers_iff {pages : List Value} {own name : Text} (h : .str own ∈ pages) :
    (∃ page, .str page ∈ pages ∧ Covers page name) ↔
      Covers own name ∨ ∃ other, .str other ∈ pages ∧ other ≠ own ∧ Covers other name := by
  constructor
  · rintro ⟨page, hpage, hcovers⟩
    by_cases heq : page = own
    · exact Or.inl (heq ▸ hcovers)
    · exact Or.inr ⟨page, hpage, heq, hcovers⟩
  · rintro (hcovers | ⟨other, hother, _, hcovers⟩)
    · exact ⟨own, h, hcovers⟩
    · exact ⟨other, hother, hcovers⟩

/-- **Which pages are found.** With nothing to include or to exclude every page is selected. The
document of a page of the main package is accepted wherever the project stands exactly if its path
has no backslash, and that of a page of a sub-package exactly if moreover the root of the package
is straight and has no backslash; or else if the name of some other page covers the document. -/
theorem page_found_everywhere_iff {manifest : Value} (h : IsLayout manifest) :
    ∃ targets : Targets, ofManifest manifest (texts []) (texts []) = .ok targets ∧
      (∀ path, .str path ∈ pagePaths manifest →
        .str path ∈ targets.selected ∧
        ((∀ dir, targets.accepts (documentIn (ofText dir) path) = true) ↔
          '\\' ∉ path ∨ ∃ other, .str other ∈ targets.selected ∧ other ≠ path ∧
            Covers other (slashed (path ++ documentSuffix)))) ∧
      ∀ package ∈ packages manifest, ∀ root path, HasRoot package root →
        .str path ∈ pagePaths package →
          .str (root ++ '/' :: path) ∈ targets.selected ∧
          ((∀ dir, targets.accepts (documentIn ((ofText dir).appendText root) path) = true) ↔
            Straight root ∧ '\\' ∉ root ∧ '\\' ∉ path ∨
              ∃ other, .str other ∈ targets.selected ∧ other ≠ root ++ '/' :: path ∧
                Covers other (slashed (documentIn (ofText root) path))) := by
  have hextract := extract_eq h
  obtain ⟨pages, hpages⟩ : ∃ pages : List Text,
      pagePaths manifest ++ (packages manifest).flatMap subPaths = pages.map .str := by
    obtain ⟨paths, hpaths⟩ := extract_texts h.isManifest
    exact ⟨paths, Except.ok.inj (hextract.symm.trans hpaths)⟩
  have htexts : ∀ page ∈ pages.map Value.str, ∃ t, page = .str t := fun page hpage => by
    obtain ⟨t, _, rfl⟩ := List.mem_map.mp hpage
    exact ⟨t, rfl⟩
  rw [hpages] at hextract
  refine ⟨⟨pages.map .str, pages.map .str⟩, ofManifest_all hextract, fun path hmem => ?_,
    fun package hpackage root path hroot hmem => ?_⟩
  · obtain ⟨t, ht, hnormal⟩ := h.main _ hmem
    obtain rfl := Value.str.inj ht
    have hself : .str path ∈ pages.map Value.str := hpages ▸ List.mem_append_left _ hmem
    have hmain : ∀ dir, (ofText dir).appendText [] = ofText dir := fun dir => by
      rw [appendText, append]
      exact congrArg (Path.mk _) (List.append_nil _)
    have hnone : (ofText []).isAbsolute = false := rfl
    have hfound := accepted_everywhere_iff ⟨pages.map .str, pages.map .str⟩ htexts hnone hnormal
    have hhere : documentIn (ofText []) path = path ++ documentSuffix := documentIn_eq hnormal _
    simp only [hmain, hhere] at hfound
    refine ⟨hself, ?_⟩
    rw [hfound, exists_covers_iff hself, covers_main_iff]
  · obtain ⟨t, ht, hnormal⟩ := h.pages package hpackage _ hmem
    obtain rfl := Value.str.inj ht
    obtain ⟨root', hroot', hrelative⟩ := h.roots package hpackage
    obtain rfl := hroot.unique hroot'
    have hsub : .str (root ++ '/' :: path) ∈ subPaths package := by
      rw [subPaths_eq hroot]
      exact List.mem_map.mpr ⟨_, hmem, rfl⟩
    have hself : .str (root ++ '/' :: path) ∈ pages.map Value.str :=
      hpages ▸ List.mem_append_right _ (List.mem_flatMap.mpr ⟨package, hpackage, hsub⟩)
    refine ⟨hself, ?_⟩
    rw [accepted_everywhere_iff _ htexts hrelative hnormal, exists_covers_iff hself,
      covers_own_iff hrelative hnormal]

/-- A package with one page. -/
def onePage (fields : List (Text × Value)) (path : Text) : Value :=
  .object (("pages".toList, .list [.object [("path".toList, .str path)]]) :: fields)

theorem pagePaths_onePage (fields : List (Text × Value)) {path : Text} (h : path ≠ []) :
    pagePaths (onePage fields path) = [.str path] := by
  obtain ⟨c, rest, rfl⟩ := List.exists_cons_of_ne_nil h
  rfl

/-- A project with a sub-package that has a root, and with one that has none. -/
def rootless : Value :=
  onePage [("subPackages".toList, .list
    [onePage [("root".toList, .str "shop".toList)] "cart".toList, onePage [] "index".toList])]
    "home".toList

theorem isLayout_rootless : IsLayout rootless := by
  have hnormal : ∀ {fields path}, path ≠ [] → Normal path →
      ∀ page ∈ pagePaths (onePage fields path), ∃ t, page = .str t ∧ Normal t := by
    intro fields path hne hpath page hpage
    rw [pagePaths_onePage fields hne, List.mem_singleton] at hpage
    exact ⟨path, hpage, hpath⟩
  have hpackages : ∀ package ∈ packages rootless,
      package = onePage [("root".toList, .str "shop".toList)] "cart".toList ∨
        package = onePage [] "index".toList := by
    intro package hpackage
    rcases List.mem_cons.mp hpackage with hshop | hbare
    · exact Or.inl hshop
    · exact Or.inr (List.mem_singleton.mp hbare)
  refine ⟨⟨_, rfl⟩, hnormal (by decide) (by decide), fun package hpackage => ?_,
    fun package hpackage => ?_⟩
  · rcases hpackages package hpackage with rfl | rfl
    · exact ⟨"shop".toList, Or.inl rfl, rfl⟩
    · exact ⟨[], Or.inr ⟨rfl, rfl⟩, rfl⟩
  · rcases hpackages package hpackage with rfl | rfl
    · exact hnormal (by decide) (by decide)
    · exact hnormal (by decide) (by decide)

/-- The page of the package with a root is found, and that of the other one is not. -/
theorem rootless_index_missed :
    IsLayout rootless ∧ ∃ targets, ofManifest rootless (texts []) (texts []) = .ok targets ∧
      .str "/index".toList ∈ targets.selected ∧
      (∀ dir, targets.accepts
        (documentIn ((ofText dir).appendText "shop".toList) "cart".toList) = true) ∧
      ¬ ∀ dir, targets.accepts (documentIn ((ofText dir).appendText []) "index".toList) = true := by
  have hlayout := isLayout_rootless
  obtain ⟨targets, htargets, _, hsub⟩ := page_found_everywhere_iff hlayout
  have hselected : targets.selected =
      ["home".toList, "shop/cart".toList, "/index".toList].map .str := by
    have hcomputed : ofManifest rootless (texts []) (texts []) =
        .ok ⟨["home".toList, "shop/cart".toList, "/index".toList].map .str,
          ["home".toList, "shop/cart".toList, "/index".toList].map .str⟩ := rfl
    rw [hcomputed] at htargets
    injection htargets with htargets
    rw [← htargets]
  have hshop := hsub _ List.mem_cons_self "shop".toList "cart".toList (Or.inl rfl)
    List.mem_cons_self
  have hindex := hsub _ (List.mem_cons_of_mem _ List.mem_cons_self) [] "index".toList
    (Or.inr ⟨rfl, rfl⟩) List.mem_cons_self
  refine ⟨hlayout, targets, htargets, hindex.1, hshop.2.mpr (Or.inl (by decide)), fun hfound => ?_⟩
  rcases hindex.2.mp hfound with hown | ⟨other, hother, hne, hcovers⟩
  · exact absurd hown (by decide)
  · simp only [hselected, List.map_cons, List.map_nil, List.mem_cons, Value.str.injEq,
      List.not_mem_nil, or_false] at hother
    rcases hother with rfl | rfl | rfl
    · exact absurd hcovers (by decide)
    · exact absurd hcovers (by decide)
    · exact hne rfl

end Targets

end Graft
