/-
# What writing leaves alone

To write a file changes what stands at its location. Everything else in the tree stays as it was,
apart from directories that are made where nothing stood. So a file is still found under every path
that led to it, unless the path means the place that was written. To write over a file what it holds
already is to change nothing.
-/

import Ensemble.Proofs.Dictionary
import Ensemble.Proofs.File.Writing

namespace Ensemble.FileTree

variable {tree middle other after : FileTree} {path : String} {locations : List (List String)}

/-- A tree differs from another only at some locations, and in directories that stand where nothing
stood. -/
structure ChangesAt (locations : List (List String)) (tree other : FileTree) : Prop where
  keeps : tree.KeepsDirectories other
  elsewhere : ∀ key, (∀ location ∈ locations, keyOf location ≠ key) →
    other.entries.get? key = tree.entries.get? key ∨
      tree.entries.get? key = none ∧ other.entries.get? key = some .directory

theorem AddsDirectories.changesAt (h : tree.AddsDirectories other) : ChangesAt [] tree other :=
  ⟨h.keepsDirectories, fun key _ => h key⟩

theorem changesAt_write {mode : WriteMode} {content : ByteArray}
    (h : tree.write path mode content = .ok after) :
    ChangesAt [Path.location path] tree after := by
  obtain ⟨place, name, new, hplace, hname, -, -, hwritten, rfl⟩ := write_ok h
  rw [location_eq hplace hname]
  refine ⟨KeepsDirectories.put_file (fun hdirectory => ?_) new, fun key hkey => Or.inl ?_⟩
  · rw [entryAt_append, hdirectory] at hwritten
    exact written_directory mode content new hwritten
  · rw [put, Dictionary.get?_insert, if_neg (hkey _ List.mem_cons_self)]

namespace ChangesAt

theorem trans {others : List (List String)} (h : ChangesAt locations tree middle)
    (hmiddle : ChangesAt others middle other) : ChangesAt (locations ++ others) tree other := by
  refine ⟨h.keeps.trans hmiddle.keeps, fun key hkey => ?_⟩
  obtain ⟨hfirst, hsecond⟩ := List.forall_mem_append.1 hkey
  rcases hmiddle.elsewhere key hsecond with hsame | ⟨hnone, hmade⟩
  · rw [hsame]
    exact h.elsewhere key hfirst
  · rcases h.elsewhere key hfirst with hsame | ⟨-, hmade'⟩
    · exact Or.inr ⟨hsame ▸ hnone, hmade⟩
    · cases hnone.symm.trans hmade'

/-- Elsewhere stand the files that stood there, and no others. -/
theorem file_iff (h : ChangesAt locations tree other) {key : String}
    (hkey : ∀ location ∈ locations, keyOf location ≠ key) (content : ByteArray) :
    other.entries.get? key = some (.file content) ↔
      tree.entries.get? key = some (.file content) := by
  rcases h.elsewhere key hkey with hsame | ⟨hnone, hmade⟩
  · rw [hsame]
  · rw [hnone, hmade]
    exact iff_of_false (fun h => by cases h) (fun h => by cases h)

/-- A file is still found under its path, unless the path means a place that was changed. -/
theorem entry (h : ChangesAt locations tree other) {content : ByteArray}
    (hentry : tree.entry path = .ok (.file content)) (hpath : Path.location path ∉ locations)
    (hnames : ∀ location ∈ locations, ∀ name ∈ location, Path.IsName name) :
    other.entry path = .ok (.file content) := by
  obtain ⟨place, name, hplace, hname, hplain, hshort, hget⟩ := entry_file hentry
  have hkey : ∀ location ∈ locations, keyOf location ≠ keyOf (Path.location path) := by
    intro location hlocation heq
    have hsame := keyOf_injective (hnames location hlocation) (Path.isName_location path) heq
    exact hpath (hsame ▸ hlocation)
  rw [entry_of_place (h.keeps.place hplace) hname hplain hshort, entryAt_append,
    ← location_eq hplace hname, (h.file_iff hkey content).2 hget]
  rfl

end ChangesAt

/-- To write over a file what it holds already changes nothing. -/
theorem write_of_entry {content : ByteArray} (h : tree.entry path = .ok (.file content)) :
    tree.write path .overwrite content = .ok tree := by
  obtain ⟨place, name, hplace, hname, hplain, hshort, hget⟩ := entry_file h
  rw [location_eq hplace hname] at hget
  have hsame : tree.put (place.directory ++ [name]) (.file content) = tree := by
    have hentries : tree.entries.insert (keyOf (place.directory ++ [name])) (.file content) =
        tree.entries := by
      apply Dictionary.ext_get?
      intro key
      rw [Dictionary.get?_insert]
      split
      next heq => rw [← heq, hget]
      next => rfl
    rw [put, hentries]
  simp only [write, hplace, hname, hplain, hshort, entryAt_append, hget, written, hsame, bind,
    Except.bind, pure, Except.pure, Bool.false_eq_true, if_false]

end Ensemble.FileTree
