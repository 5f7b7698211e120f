/-
# Making directories

To make the directories of a path adds directories where nothing stood, and changes nothing else,
whether it succeeds or not. To make those that stand already is to change nothing at all. It may
still fail then, but only for a path that is too long or has a null character.
-/

import Ensemble.Proofs.File.Location

namespace Ensemble

namespace Path

theorem essentialNames_cases (path : String) :
    essentialNames path = (names path).filter (· != ".") ∨
      essentialNames path = "." :: (names path).filter (· != ".") := by
  rw [essentialNames]
  split
  next hnames => exact Or.inl (by rw [hnames]; rfl)
  next first rest hnames =>
    rw [hnames]
    by_cases hdot : first = "."
    · subst hdot
      rw [List.filter_cons_of_neg (by simp)]
      split
      · exact Or.inl rfl
      · exact Or.inr rfl
    · rw [List.filter_cons_of_pos (by simpa using hdot), if_neg (fun h => hdot h.1)]
      exact Or.inl rfl

theorem essentialNames_sublist (path : String) : (essentialNames path).Sublist (names path) := by
  rw [essentialNames]
  split
  next hnames => exact List.nil_sublist _
  next first rest hnames =>
    rw [hnames]
    dsimp only
    split
    · exact List.filter_sublist.trans (List.sublist_cons_self _ _)
    · exact List.filter_sublist.cons_cons _

end Path

namespace FileTree

variable {tree other : FileTree} {path : String} {here found names : List String}

/-- A tree differs from another only in directories that stand where nothing stood. -/
def AddsDirectories (tree other : FileTree) : Prop :=
  ∀ key, other.entries.get? key = tree.entries.get? key ∨
    tree.entries.get? key = none ∧ other.entries.get? key = some .directory

namespace AddsDirectories

theorem refl (tree : FileTree) : tree.AddsDirectories tree := fun _ => Or.inl rfl

theorem trans {third : FileTree} (h : tree.AddsDirectories other)
    (hother : other.AddsDirectories third) : tree.AddsDirectories third := by
  intro key
  rcases hother key with hsame | ⟨hnone, hmade⟩
  · rw [hsame]
    exact h key
  · rcases h key with hsame | ⟨-, hmade'⟩
    · exact Or.inr ⟨hsame ▸ hnone, hmade⟩
    · cases hnone.symm.trans hmade'

theorem keepsDirectories (h : tree.AddsDirectories other) : tree.KeepsDirectories other := by
  intro key hkey
  rcases h key with hsame | ⟨hnone, -⟩
  · rw [hsame, hkey]
  · cases hnone.symm.trans hkey

end AddsDirectories

/-- A directory is made only where nothing stands, and then it stands there. -/
theorem makeDirectory_ok {made : FileTree} (h : tree.makeDirectory path = .ok made) :
    tree.AddsDirectories made ∧ made.isDirectory path = true ∧ tree.isDirectory path = false := by
  simp only [makeDirectory, bind, Except.bind, pure, Except.pure, throw, throwThe,
    MonadExceptOf.throw] at h
  split at h
  next => cases h
  next place hplace =>
    split at h
    next => cases h
    next name hname =>
      split at h
      next => cases h
      next hshort =>
        split at h
        next => cases h
        next hfree =>
          obtain rfl := Except.ok.inj h
          have hadds : tree.AddsDirectories (tree.put (place.directory ++ [name]) .directory) := by
            intro key
            rw [put, Dictionary.get?_insert]
            split
            next heq =>
              rw [entryAt_append, heq] at hfree
              exact Or.inr ⟨hfree, rfl⟩
            next => exact Or.inl rfl
          refine ⟨hadds, ?_, ?_⟩
          · rw [isDirectory_iff_entry,
              entry_of_named (hadds.keepsDirectories.place hplace) hname hshort, entryAt_append,
              put, Dictionary.get?_insert, if_pos rfl]
          · rw [Bool.eq_false_iff, ne_eq, isDirectory_iff_entry,
              entry_of_named hplace hname hshort, hfree]
            exact fun hentry => by cases hentry

/-- Nothing is made where a directory stands. -/
theorem ensureDirectory_of_isDirectory (h : tree.isDirectory path = true) :
    tree.ensureDirectory path = .ok tree := by
  rw [ensureDirectory]
  split
  next made hmade =>
    rw [(makeDirectory_ok hmade).2.2] at h
    cases h
  next => rw [if_pos h]

theorem ensureDirectory_ok {made : FileTree} (h : tree.ensureDirectory path = .ok made) :
    tree.AddsDirectories made ∧ made.isDirectory path = true := by
  rw [ensureDirectory] at h
  split at h
  next made' hmade =>
    obtain rfl := Except.ok.inj h
    exact ⟨(makeDirectory_ok hmade).1, (makeDirectory_ok hmade).2.1⟩
  next =>
    split at h
    next hthere =>
      obtain rfl := Except.ok.inj h
      exact ⟨.refl _, hthere⟩
    next => cases h

/-- To make the directories of a path adds nothing else, whether it succeeds or not. -/
theorem addsDirectories_ensurePath (tree : FileTree) (rooted : Bool) (names : List String) :
    tree.AddsDirectories (tree.ensurePath rooted names).1 := by
  induction names generalizing tree with
  | nil => exact .refl tree
  | cons last before ih =>
      simp only [ensurePath]
      split
      next made hmade => exact (ensureDirectory_ok hmade).1
      next =>
        have houter := ih tree
        split
        next outer error heq =>
          rw [heq] at houter
          exact houter
        next outer heq =>
          rw [heq] at houter
          split
          next made hmade => exact houter.trans (ensureDirectory_ok hmade).1
          next => exact houter
      next => exact .refl tree

/-- Once the directories of a path are made they stand. -/
theorem isDirectory_ensurePath {made : FileTree} {rooted : Bool} {last : String}
    {before : List String} (h : tree.ensurePath rooted (last :: before) = (made, none)) :
    made.isDirectory (Path.ofNames rooted (last :: before).reverse) = true := by
  simp only [ensurePath] at h
  split at h
  next made' hmade =>
    obtain ⟨rfl, -⟩ := Prod.mk.inj h
    exact (ensureDirectory_ok hmade).2
  next =>
    split at h
    next => cases h
    next =>
      split at h
      next made' hmade =>
        obtain ⟨rfl, -⟩ := Prod.mk.inj h
        exact (ensureDirectory_ok hmade).2
      next => cases h
  next => cases h

theorem ensurePath_of_isDirectory {rooted : Bool} {names : List String}
    (h : names ≠ [] → tree.isDirectory (Path.ofNames rooted names.reverse) = true) :
    tree.ensurePath rooted names = (tree, none) := by
  cases names with
  | nil => rfl
  | cons last before =>
      simp only [ensurePath, ensureDirectory_of_isDirectory (h (List.cons_ne_nil _ _))]

/-- Directories that were made are not made again as long as they are kept. -/
theorem ensurePath_again {made after : FileTree} {rooted : Bool}
    (h : tree.ensurePath rooted names = (made, none)) (hkeeps : made.KeepsDirectories after) :
    after.ensurePath rooted names = (after, none) := by
  cases names with
  | nil => rfl
  | cons last before =>
      exact ensurePath_of_isDirectory fun _ => hkeeps.isDirectory (isDirectory_ensurePath h)

/-- Where names lead through directories none is made. It only fails for a path that cannot lead
anywhere. -/
theorem ensurePath_of_leads {rooted : Bool} (hnames : ∀ name ∈ names, Path.IsName name)
    (hleads : tree.Leads [] names found) :
    (tree.ensurePath rooted names.reverse).1 = tree ∧
      (IsUsable (Path.ofNames rooted names) → (tree.ensurePath rooted names.reverse).2 = none) := by
  by_cases husable : IsUsable (Path.ofNames rooted names)
  · have hthere : names.reverse ≠ [] →
        tree.isDirectory (Path.ofNames rooted names.reverse.reverse) = true := by
      intro hsome
      have hread : Path.names (Path.ofNames rooted names) = names :=
        Path.names_ofNames rooted hnames
      rw [List.reverse_reverse]
      refine isDirectory_iff.2 ⟨husable, fun hempty => ?_, found, by rwa [hread]⟩
      rw [hempty] at hread
      exact hsome (List.reverse_eq_nil_iff.2 hread.symm)
    rw [ensurePath_of_isDirectory hthere]
    exact ⟨rfl, fun _ => rfl⟩
  · -- A path that cannot lead anywhere is refused before its outer directories are tried.
    refine ⟨?_, fun h => absurd h husable⟩
    cases hreverse : names.reverse with
    | nil => rfl
    | cons last before =>
        have hpath : Path.ofNames rooted (last :: before).reverse = Path.ofNames rooted names := by
          rw [← hreverse, List.reverse_reverse]
        have hfails : ∀ error, tree.place (Path.ofNames rooted names) = .error error →
            tree.ensureDirectory (Path.ofNames rooted names) = .error error := by
          intro error herror
          have hnot : tree.isDirectory (Path.ofNames rooted names) = false := by
            rw [Bool.eq_false_iff, ne_eq, isDirectory_iff_entry, entry_of_place_error herror]
            exact fun hentry => by cases hentry
          have hmake : tree.makeDirectory (Path.ofNames rooted names) = .error error := by
            rw [makeDirectory, herror]
            rfl
          rw [ensureDirectory, hmake]
          simp only [hnot, Bool.false_eq_true, if_false]
        rcases @place_of_not_isUsable tree _ husable with herror | herror <;>
          simp only [ensurePath, hpath, hfails _ herror]

/-! ## The directory of a place -/

theorem IsUsable.ofNames (h : IsUsable path) {parts : List String}
    (hparts : parts.Sublist (Path.names path)) :
    IsUsable (Path.ofNames (Path.isRooted path) parts) := by
  have hsub := Path.ofNames_sublist hparts
  exact ⟨fun hnull => h.plain (hsub.mem hnull),
    Nat.le_trans (Text.utf8ByteSize_le_of_sublist hsub) h.short⟩

/-- When all names of a path but the last lead somewhere, so does the path of its directory. -/
theorem leads_essentialNames (h : tree.Leads [] (Path.names path).dropLast found) :
    ∃ parent, tree.Leads [] (Path.essentialNames path).dropLast parent := by
  rcases List.eq_nil_or_concat (Path.names path) with hnames | ⟨front, last, hnames⟩
  · have hnone : Path.essentialNames path = [] :=
      List.sublist_nil.1 (hnames ▸ Path.essentialNames_sublist path)
    rw [hnone]
    exact ⟨[], .arrived []⟩
  · rw [List.concat_eq_append] at hnames
    rw [hnames, List.dropLast_concat] at h
    have hprefix : ((Path.names path).filter (· != ".")).dropLast <+:
        front.filter (· != ".") := by
      rw [hnames, List.filter_append]
      by_cases hdot : last = "."
      · rw [List.filter_cons_of_neg (by simpa using hdot), List.filter_nil, List.append_nil]
        exact List.dropLast_prefix _
      · rw [List.filter_cons_of_pos (by simpa using hdot), List.filter_nil]
        exact ⟨[], by rw [List.append_nil, List.dropLast_concat]⟩
    obtain ⟨parent, hparent⟩ := h.withoutDots.of_prefix hprefix
    rcases Path.essentialNames_cases path with hkept | hkept
    · exact ⟨parent, hkept ▸ hparent⟩
    · rw [hkept]
      cases hrest : (Path.names path).filter (· != ".") with
      | nil => exact ⟨[], .arrived []⟩
      | cons name rest =>
          rw [hrest] at hparent
          exact ⟨parent, .stay hparent⟩

theorem addsDirectories_ensureParent (tree : FileTree) (path : String) :
    tree.AddsDirectories (tree.ensureParent path).1 := by
  rw [ensureParent]
  split
  next names _ => exact addsDirectories_ensurePath tree _ _
  next => exact .refl tree

theorem ensureParent_again {made after : FileTree} (h : tree.ensureParent path = (made, none))
    (hkeeps : made.KeepsDirectories after) : after.ensureParent path = (after, none) := by
  rw [ensureParent] at h ⊢
  split at h
  next names _ => exact ensurePath_again h hkeeps
  next => rfl

/-- The directory of a place is not made when it stands. It only fails for a path that cannot lead
anywhere. -/
theorem ensureParent_of_leads (h : tree.Leads [] (Path.names path).dropLast found) :
    (tree.ensureParent path).1 = tree ∧
      (IsUsable path → (tree.ensureParent path).2 = none) := by
  obtain ⟨parent, hparent⟩ := leads_essentialNames h
  have hsub : (Path.essentialNames path).dropLast.Sublist (Path.names path) :=
    (List.dropLast_sublist _).trans (Path.essentialNames_sublist path)
  have hnames : ∀ name ∈ (Path.essentialNames path).dropLast, Path.IsName name :=
    fun name hname => Path.isName_of_mem_names (hsub.mem hname)
  have hmade := @ensurePath_of_leads tree _ _ (Path.isRooted path) hnames hparent
  rw [ensureParent, Path.parentNames?]
  split
  next names heq =>
    split at heq
    next => cases heq
    next =>
      obtain rfl := Option.some.inj heq
      exact ⟨hmade.1, fun husable => hmade.2 (husable.ofNames hsub)⟩
  next => exact ⟨rfl, fun _ => rfl⟩

end FileTree

end Ensemble
