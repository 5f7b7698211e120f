/-
# Files that were written

A file that is written stands afterwards under the path that it was written to: a path that led to
a place still leads there, because a file never takes the place of a directory. What is written over
a file is its whole content.
-/

import Ensemble.Proofs.File.Directory

namespace Ensemble.FileTree

variable {tree after : FileTree} {path : String} {place : Place} {name : String}
  {mode : WriteMode} {content new : ByteArray}

/-- What it takes to write a file, and what comes of it. -/
theorem write_ok (h : tree.write path mode content = .ok after) :
    ∃ place name new, tree.place path = .ok place ∧ place.name = some name ∧
      place.meansDirectory = false ∧ ¬ longestName < name.utf8ByteSize ∧
      written mode content (tree.entryAt (place.directory ++ [name])) = .ok new ∧
      after = tree.put (place.directory ++ [name]) (.file new) := by
  simp only [write, bind, Except.bind, pure, Except.pure, throw, throwThe,
    MonadExceptOf.throw] at h
  split at h
  next => cases h
  next place hplace =>
    split at h
    next => cases h
    next name hname =>
      split at h
      next => cases h
      next hplain =>
        split at h
        next => cases h
        next hshort =>
          split at h
          next => cases h
          next new hwritten =>
            exact ⟨place, name, new, hplace, hname, Bool.eq_false_iff.2 hplain, hshort, hwritten,
              (Except.ok.inj h).symm⟩

/-- A directory is not written over. -/
theorem written_directory (mode : WriteMode) (content new : ByteArray) :
    written mode content (some .directory) ≠ .ok new := by
  intro h
  cases h

/-- A file that is written has the content that its mode says, given what stood there before. -/
theorem entry_write (h : tree.write path mode content = .ok after) :
    ∃ new, written mode content (tree.entry path).toOption = .ok new ∧
      after.entry path = .ok (.file new) := by
  obtain ⟨place, name, new, hplace, hname, hplain, hshort, hwritten, rfl⟩ := write_ok h
  have hfree : tree.entries.get? (keyOf (place.directory ++ [name])) ≠ some .directory := by
    intro hdirectory
    rw [entryAt_append, hdirectory] at hwritten
    exact written_directory mode content new hwritten
  have hkept : (tree.put (place.directory ++ [name]) (.file new)).place path = .ok place :=
    (KeepsDirectories.put_file hfree new).place hplace
  refine ⟨new, ?_, ?_⟩
  · rw [entry_of_place hplace hname hplain hshort]
    cases hentry : tree.entryAt (place.directory ++ [name]) with
    | none => rwa [hentry] at hwritten
    | some entry => rwa [hentry] at hwritten
  · rw [entry_of_place hkept hname hplain hshort, entryAt_append, put,
      Dictionary.get?_insert, if_pos rfl]
    rfl

/-- What is written over a file is its whole content. -/
theorem entry_write_overwrite (h : tree.write path .overwrite content = .ok after) :
    after.entry path = .ok (.file content) := by
  obtain ⟨new, hwritten, hentry⟩ := entry_write h
  have hnew : new = content := by
    cases hbefore : (tree.entry path).toOption with
    | none =>
        rw [hbefore] at hwritten
        exact (Except.ok.inj hwritten).symm
    | some entry =>
        rw [hbefore] at hwritten
        cases entry with
        | directory => exact absurd hwritten (written_directory _ _ _)
        | file old => exact (Except.ok.inj hwritten).symm
  rw [hentry, hnew]

/-! ## Texts -/

/-- A file is written once the directories that lead to it stand. -/
theorem writeInto_ok {createsDirectories : Bool}
    (h : tree.writeInto path mode createsDirectories content = (after, none)) :
    ∃ prepared : FileTree, prepared.write path mode content = .ok after := by
  rw [writeInto.eq_def] at h
  split at h
  next => cases h
  next prepared _ =>
    split at h
    next written hwritten =>
      obtain ⟨rfl, -⟩ := Prod.mk.inj h
      exact ⟨prepared, hwritten⟩
    next => cases h

/-- A text is written when its path is not blank and its bytes are. -/
theorem writeText_ok {text : String} {createsDirectories : Bool} {outcome : WriteOutcome}
    (h : tree.writeText path text mode createsDirectories = .ok (outcome, after)) {size : Nat}
    (hsize : outcome.result = .ok size) :
    tree.writeInto path mode createsDirectories text.toUTF8 = (after, none) := by
  rw [writeText] at h
  cases hpath : requirePath path with
  | error error =>
      rw [hpath] at h
      cases h
  | ok _ =>
      rw [hpath] at h
      simp only [bind, Except.bind, pure, Except.pure] at h
      split at h
      next last hwritten =>
        obtain ⟨-, rfl⟩ := Prod.mk.inj (Except.ok.inj h)
        exact hwritten
      next =>
        obtain ⟨rfl, -⟩ := Prod.mk.inj (Except.ok.inj h)
        cases hsize

theorem fromUTF8?_toUTF8 (text : String) : String.fromUTF8? text.toUTF8 = some text := by
  have hvalid : text.toUTF8.IsValidUTF8 := text.isValidUTF8
  rw [String.fromUTF8?, dif_pos hvalid]
  rfl

/-- A text that is written over a file is its whole content, and is read back. -/
theorem readText_writeText {text : String} {createsDirectories : Bool} {outcome : WriteOutcome}
    (h : tree.writeText path text .overwrite createsDirectories = .ok (outcome, after))
    {size : Nat} (hsize : outcome.result = .ok size) :
    after.entry path = .ok (.file text.toUTF8) ∧ after.readText path = .ok text := by
  obtain ⟨prepared, hwritten⟩ := writeInto_ok (writeText_ok h hsize)
  have hentry := entry_write_overwrite hwritten
  refine ⟨hentry, ?_⟩
  simp only [readText, hentry, bind, Except.bind, fromUTF8?_toUTF8, pure, Except.pure]

end Ensemble.FileTree
