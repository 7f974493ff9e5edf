import Graft.Disk
import Mathlib.Data.List.Nodup

/-!
# Rewriting the files of a tree

A run reads documents, one after the other, and rewrites some of them on the way. That this
comes to the same as reading them all first is a matter of what a path can tell: where it
leads depends on which places there are and which of them are directories, not on what the
files hold. So writing to a file that is there moves no path (`SameShape.arrival_eq`), and of
what paths lead to only that one file is different (`nodeAt?_setAt`).

The documents below a directory are places of their own, each behind a path of its own
(`documents_apart`), because the names of a tree are unique and none of them leads up.
-/

namespace Graft.Disk

open Text

/-- A tree of distinct places, none of which is reached by going up. -/
structure Proper (disk : Disk) : Prop where
  /-- The names of a place are unique. -/
  distinct : (disk.entries.map Prod.fst).Nodup
  /-- No name stands for the directory above. -/
  named : ∀ entry ∈ disk.entries, Path.parentName ∉ entry.1

instance (disk : Disk) : Decidable disk.Proper :=
  decidable_of_iff ((disk.entries.map Prod.fst).Nodup ∧
    ∀ entry ∈ disk.entries, Path.parentName ∉ entry.1)
    ⟨fun h => ⟨h.1, h.2⟩, fun h => ⟨h.distinct, h.named⟩⟩

/-! ## Changing one place -/

theorem lookup_cons_ne {q k : List Text} (h : q ≠ k) (node : Node)
    (entries : List (List Text × Node)) : ((k, node) :: entries).lookup q = entries.lookup q := by
  rw [List.lookup_cons, beq_eq_false_iff_ne.mpr h]

/-- Replacing the node of one place in a list of entries. -/
theorem lookup_replace (place q : List Text) (node : Node) :
    ∀ entries : List (List Text × Node),
      (entries.map fun entry => if entry.1 == place then (place, node) else entry).lookup q =
        if q = place ∧ entries.any (·.1 == place) = true then some node else entries.lookup q
  | [] => by simp
  | (k, old) :: entries => by
      have ih := lookup_replace place q node entries
      rw [List.map_cons, List.any_cons]
      by_cases hk : k = place
      · subst hk
        rw [if_pos (by simp)]
        by_cases hq : q = k
        · rw [hq, List.lookup_cons_self, if_pos (by simp)]
        · rw [if_neg (by simp [hq])] at ih
          rw [lookup_cons_ne hq, lookup_cons_ne hq, ih, if_neg (by simp [hq])]
      · rw [if_neg (by simp [hk])]
        by_cases hq : q = k
        · rw [hq, List.lookup_cons_self, List.lookup_cons_self, if_neg (by simp [hk])]
        · rw [lookup_cons_ne hq, lookup_cons_ne hq, ih, beq_eq_false_iff_ne.mpr hk, Bool.false_or]

/-- **Changing a place changes nothing else.** -/
theorem nodeAt?_setAt (disk : Disk) {place : List Text} (hplace : place ≠ []) (node : Node)
    (q : List Text) :
    (disk.setAt place node).nodeAt? q = if q = place then some node else disk.nodeAt? q := by
  cases q with
  | nil =>
      rw [if_neg (Ne.symm hplace)]
      rfl
  | cons name q =>
      have hnode : ∀ d : Disk, d.nodeAt? (name :: q) = d.entries.lookup (name :: q) := fun d => rfl
      rw [hnode, hnode, setAt]
      dsimp only
      by_cases hany : disk.entries.any (·.1 == place) = true
      · rw [if_pos hany, lookup_replace, hany]
        simp
      -- a place that is not there yet is put last, where no entry can hide it
      · rw [if_neg hany, List.lookup_append]
        by_cases hq : name :: q = place
        · have hnone : disk.entries.lookup place = none := by
            rw [List.lookup_eq_none_iff]
            intro entry hentry
            rw [bne_iff_ne]
            intro hplace
            exact hany (List.any_eq_true.mpr ⟨entry, hentry, by simp [hplace]⟩)
          rw [hq, hnone, Option.none_or, List.lookup_cons_self, if_pos rfl]
        · rw [if_neg hq, lookup_cons_ne hq, List.lookup_nil, Option.or_none]

/-- Two trees with the same places and the same directories. -/
structure SameShape (disk disk' : Disk) : Prop where
  /-- Relative paths start from the same directory. -/
  here : disk'.here = disk.here
  /-- The same places are there. -/
  isSome : ∀ place, (disk'.nodeAt? place).isSome = (disk.nodeAt? place).isSome
  /-- The same places are directories. -/
  directory : ∀ place, disk'.nodeAt? place = some .directory ↔ disk.nodeAt? place = some .directory

theorem SameShape.refl (disk : Disk) : SameShape disk disk := ⟨rfl, fun _ => rfl, fun _ => Iff.rfl⟩

theorem SameShape.trans {a b c : Disk} (h : SameShape a b) (h' : SameShape b c) : SameShape a c :=
  ⟨h'.here.trans h.here, fun place => (h'.isSome place).trans (h.isSome place),
    fun place => (h'.directory place).trans (h.directory place)⟩

/-- A file that gets another content stays a file. -/
theorem sameShape_setAt {disk : Disk} {place : List Text} {old : Bytes}
    (h : disk.nodeAt? place = some (.file old)) (new : Bytes) :
    place ≠ [] ∧ SameShape disk (disk.setAt place (.file new)) := by
  have hplace : place ≠ [] := by
    rintro rfl
    simp [nodeAt?] at h
  refine ⟨hplace, rfl, ?_, ?_⟩
  · intro q
    rw [nodeAt?_setAt disk hplace]
    split
    · rename_i hq
      rw [hq, h]
      rfl
    · rfl
  · intro q
    rw [nodeAt?_setAt disk hplace]
    split
    · rename_i hq
      rw [hq, h]
      simp
    · rfl

namespace SameShape

variable {disk disk' : Disk} (h : SameShape disk disk')

include h

theorem follow_eq : ∀ (names place : List Text), disk'.follow place names = disk.follow place names
  | [], place => rfl
  | name :: names, place => by
      rw [follow, follow, follow_eq names, follow_eq names, h.isSome]
      simp only [h.directory]

/-- **Paths lead to the same places.** -/
theorem arrival_eq (p : Path) : disk'.arrival p = disk.arrival p := by
  unfold arrival
  rw [h.here, h.follow_eq]

theorem place?_eq (p : Path) : disk'.place? p = disk.place? p := by
  unfold place?
  rw [h.arrival_eq]

/-- A path to a place with the same content reads the same. -/
theorem readText_eq {p : Path}
    (hsame : ∀ place, disk.place? p = some place → disk'.nodeAt? place = disk.nodeAt? place) :
    disk'.readText p = disk.readText p := by
  have hfind : disk'.find? p = disk.find? p := by
    unfold find?
    rw [h.arrival_eq]
    cases harrival : disk.arrival p with
    | place names =>
        have hplace : disk.place? p = some names := by rw [place?, harrival]
        dsimp only
        rw [hsame names hplace]
    | nowhere => rfl
    | overlong => rfl
  rw [readText, readText, hfind]

end SameShape

/-- A text is read from a file. -/
theorem exists_file_of_readText {disk : Disk} {p : Path} {t : Text}
    (h : disk.readText p = .ok t) :
    ∃ place content, disk.place? p = some place ∧ disk.nodeAt? place = some (.file content) := by
  unfold readText find? at h
  cases harrival : disk.arrival p with
  | overlong =>
      rw [harrival] at h
      exact absurd h (by simp [bind, Except.bind])
  | nowhere =>
      rw [harrival] at h
      exact absurd h (by simp [bind, Except.bind])
  | place names =>
      have hplace : disk.place? p = some names := by rw [place?, harrival]
      rw [harrival] at h
      simp only [bind, Except.bind] at h
      cases hnode : disk.nodeAt? names with
      | none =>
          rw [hnode] at h
          exact absurd h (by simp)
      | some node =>
          cases node with
          | directory =>
              rw [hnode] at h
              exact absurd h (by simp)
          | file content => exact ⟨names, content, hplace, hnode⟩

/-! ## The documents below a directory -/

theorem follow_append (disk : Disk) : ∀ (names rest place : List Text),
    disk.follow place (names ++ rest) =
      match disk.follow place names with
      | .place place' => disk.follow place' rest
      | other => other
  | [], rest, place => rfl
  | name :: names, rest, place => by
      rw [List.cons_append, follow, follow]
      split
      · split
        · rfl
        · split
          · exact follow_append disk names rest _
          · split
            · exact follow_append disk names rest _
            · rfl
      · rfl

/-- Names that never go up lead down. -/
theorem follow_down {disk : Disk} : ∀ {names place arrived : List Text},
    Path.parentName ∉ names → disk.follow place names = .place arrived → arrived = place ++ names
  | [], place, arrived, _, h => by
      injection h with h
      rw [← h, List.append_nil]
  | name :: names, place, arrived, hup, h => by
      rw [List.mem_cons, not_or] at hup
      rw [follow, if_neg (Ne.symm hup.1)] at h
      split at h
      · split at h
        · exact absurd h (by simp)
        · split at h
          · rw [follow_down hup.2 h]
            simp
          · exact absurd h (by simp)
      · exact absurd h (by simp)

theorem arrival_eq_follow {disk : Disk} {p : Path} {place : List Text}
    (h : disk.place? p = some place) :
    disk.follow (if p.isAbsolute then [] else disk.here) p.names = .place place := by
  unfold place? arrival at h
  split at h
  · rename_i names harrival
    injection h with h
    subst h
    split at harrival
    · exact absurd harrival (by simp)
    · split at harrival
      · exact absurd harrival (by simp)
      · exact harrival
  · exact absurd h (by simp)

/-- Where a document's path leads, if it leads anywhere. -/
theorem place?_below {disk : Disk} {directory : Path} {place names arrived : List Text}
    (hdirectory : disk.place? directory = some place) (hup : Path.parentName ∉ names)
    (h : disk.place? (directory.append ⟨[], names⟩) = some arrived) : arrived = place ++ names := by
  have hbase := arrival_eq_follow hdirectory
  have hpath := arrival_eq_follow h
  have happend : directory.append ⟨[], names⟩ = ⟨directory.root, directory.names ++ names⟩ := rfl
  rw [happend] at hpath
  have hroot : (⟨directory.root, directory.names ++ names⟩ : Path).isAbsolute =
      directory.isAbsolute := rfl
  rw [hroot, follow_append, hbase] at hpath
  exact follow_down hup hpath

theorem insertSorted_perm (p : Path) : ∀ paths : List Path,
    (Path.insertSorted p paths).Perm (p :: paths)
  | [] => List.Perm.refl _
  | q :: rest => by
      rw [Path.insertSorted]
      split
      · exact List.Perm.refl _
      · exact ((insertSorted_perm p rest).cons q).trans (List.Perm.swap p q rest)

theorem sort_perm : ∀ paths : List Path, (Path.sort paths).Perm paths
  | [] => List.Perm.refl _
  | p :: rest => (insertSorted_perm p (Path.sort rest)).trans ((sort_perm rest).cons p)

/-- The path of an entry below a place, if it is that of a document. -/
def document? (directory : Path) (place : List Text) (entry : List Text × Node) : Option Path :=
  let names := entry.1.drop place.length
  if place.isPrefixOf entry.1 && !names.isEmpty &&
      endsWith (names.getLast?.getD []) documentSuffix then
    some (directory.append ⟨[], names⟩)
  else none

theorem document?_eq_some {directory : Path} {place : List Text} {entry : List Text × Node}
    {p : Path} (h : document? directory place entry = some p) :
    ∃ names, entry.1 = place ++ names ∧ p = directory.append ⟨[], names⟩ := by
  unfold document? at h
  dsimp only at h
  split at h
  · rename_i hcond
    simp only [Bool.and_eq_true, List.isPrefixOf_iff_prefix] at hcond
    obtain ⟨names, hnames⟩ := hcond.1.1
    injection h with h
    refine ⟨names, hnames.symm, ?_⟩
    rw [← h, ← hnames, List.drop_left]
  · exact absurd h (by simp)

theorem documents_perm {disk : Disk} {directory : Path} {place : List Text}
    (h : disk.place? directory = some place) :
    (disk.documents directory).Perm (disk.entries.filterMap (document? directory place)) := by
  unfold documents
  rw [h]
  exact sort_perm _

/-- **Different documents are at different places.** -/
theorem documents_apart {disk : Disk} (hdisk : disk.Proper) (directory : Path) :
    (disk.documents directory).Pairwise fun p q =>
      ∀ place, disk.place? p = some place → disk.place? q ≠ some place := by
  cases hplace : disk.place? directory with
  | none =>
      have hnone : disk.documents directory = [] := by
        unfold documents
        rw [hplace]
      rw [hnone]
      exact List.Pairwise.nil
  | some place =>
      have hperm := documents_perm hplace
      -- entries at different places give different paths, in whatever order
      have hnodup : (disk.documents directory).Nodup := by
        rw [hperm.nodup_iff]
        refine List.Pairwise.filterMap _ ?_ (List.pairwise_map.mp hdisk.distinct)
        rintro e e' hne p hp _ hp' rfl
        obtain ⟨names, hnames, rfl⟩ := document?_eq_some hp
        obtain ⟨names', hnames', hsame⟩ := document?_eq_some hp'
        have hlast : directory.names ++ names = directory.names ++ names' :=
          congrArg Path.names hsame
        exact hne (by rw [hnames, hnames', List.append_cancel_left hlast])
      refine hnodup.pairwise_of_forall_ne ?_
      intro p hp q hq hne arrived hpa hqa
      rw [hperm.mem_iff, List.mem_filterMap] at hp hq
      obtain ⟨e, he, hpe⟩ := hp
      obtain ⟨e', he', hqe⟩ := hq
      obtain ⟨names, hnames, rfl⟩ := document?_eq_some hpe
      obtain ⟨names', hnames', rfl⟩ := document?_eq_some hqe
      -- no place has a parent's name in it, so each path leads straight down to its entry
      have hup : ∀ {e : List Text × Node} {names : List Text}, e ∈ disk.entries →
          e.1 = place ++ names → Path.parentName ∉ names := by
        intro e names he hnames hm
        exact hdisk.named e he (by rw [hnames]; simp [hm])
      have hleft := place?_below hplace (hup he hnames) hpa
      have hright := place?_below hplace (hup he' hnames') hqa
      rw [hleft] at hright
      exact hne (by rw [List.append_cancel_left hright])

end Graft.Disk
