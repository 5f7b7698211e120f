/-
# Where paths lead

The names of a path lead from directory to directory. Where they lead to is a matter of the names
alone; what stands in a tree only decides whether they lead anywhere. So a path still leads to its
place in every tree that keeps the directories on the way.
-/

import Ensemble.File.Outcome
import Ensemble.Proofs.File.Path

namespace Ensemble

namespace Path

/-- Where names lead to from a location: one dot stays, two go back. -/
def follow : List String → List String → List String
  | location, [] => location
  | location, name :: rest =>
    if name = "." then follow location rest
    else if name = ".." then follow location.dropLast rest
    else follow (location ++ [name]) rest

/-- The location that a path means, whatever stands there. -/
def location (path : String) : List String :=
  follow [] (names path)

/-- A name that leads into a directory. -/
def IsOrdinary (name : String) : Prop :=
  name ≠ "." ∧ name ≠ ".."

theorem follow_append (here front behind : List String) :
    follow here (front ++ behind) = follow (follow here front) behind := by
  induction front generalizing here with
  | nil => rfl
  | cons name rest ih =>
      simp only [List.cons_append, follow]
      split
      next => exact ih here
      next =>
        split
        next => exact ih here.dropLast
        next => exact ih (here ++ [name])

theorem follow_ordinary (here : List String) {names : List String}
    (h : ∀ name ∈ names, IsOrdinary name) : follow here names = here ++ names := by
  induction names generalizing here with
  | nil => rw [follow, List.append_nil]
  | cons name rest ih =>
      have hname := h name List.mem_cons_self
      rw [follow, if_neg hname.1, if_neg hname.2,
        ih _ fun other hother => h other (List.mem_cons_of_mem _ hother), List.append_assoc,
        List.singleton_append]

/-- A location is made of names. -/
theorem isName_follow {here names : List String} (hhere : ∀ name ∈ here, IsName name)
    (hnames : ∀ name ∈ names, IsName name) : ∀ name ∈ follow here names, IsName name := by
  induction names generalizing here with
  | nil => exact hhere
  | cons name rest ih =>
      obtain ⟨hname, hrest⟩ := List.forall_mem_cons.1 hnames
      rw [follow]
      split
      next => exact ih hhere hrest
      next =>
        split
        next =>
          exact ih (fun other hother => hhere other ((List.dropLast_sublist here).mem hother)) hrest
        next =>
          refine ih (fun other hother => ?_) hrest
          rcases List.mem_append.1 hother with hother | hother
          · exact hhere other hother
          · rwa [List.mem_singleton.1 hother]

theorem isName_location (path : String) : ∀ name ∈ location path, IsName name :=
  isName_follow (List.forall_mem_nil _) fun _ => isName_of_mem_names

/-- A path continued by ordinary names means what stands under them at the location of the path. -/
theorem location_join (base : String) {path : String} (hrooted : isRooted path = false)
    (h : ∀ name ∈ names path, IsOrdinary name) :
    location (join base path) = location base ++ names path := by
  rw [location, names_join base hrooted, follow_append]
  exact follow_ordinary _ h

end Path

namespace FileTree

variable {tree other : FileTree} {path : String} {here found names : List String}

theorem entryAt_append (tree : FileTree) (here : List String) (name : String) :
    tree.entryAt (here ++ [name]) = tree.entries.get? (keyOf (here ++ [name])) := by
  rw [entryAt, if_neg (by simp)]

/-- Locations are told apart by their keys. -/
theorem keyOf_injective {left right : List String} (hleft : ∀ name ∈ left, Path.IsName name)
    (hright : ∀ name ∈ right, Path.IsName name) (h : keyOf left = keyOf right) : left = right :=
  calc left = Path.names (keyOf left) := (Path.names_intercalate hleft).symm
    _ = Path.names (keyOf right) := congrArg Path.names h
    _ = right := Path.names_intercalate hright

/-! ## Following names -/

/-- Names lead from a location to another, through directories. -/
inductive Leads (tree : FileTree) : List String → List String → List String → Prop
  | arrived (here : List String) : Leads tree here [] here
  | stay {here rest found : List String} (h : Leads tree here rest found) :
      Leads tree here ("." :: rest) found
  | back {here rest found : List String} (h : Leads tree here.dropLast rest found) :
      Leads tree here (".." :: rest) found
  | into {here rest found : List String} {name : String} (hname : Path.IsOrdinary name)
      (hshort : ¬ longestName < name.utf8ByteSize)
      (hdirectory : tree.entryAt (here ++ [name]) = some .directory)
      (h : Leads tree (here ++ [name]) rest found) : Leads tree here (name :: rest) found

theorem enter_eq_ok_iff : tree.enter here names = .ok found ↔ tree.Leads here names found := by
  constructor
  · intro h
    induction names generalizing here with
    | nil =>
        obtain rfl := Except.ok.inj h
        exact .arrived here
    | cons name rest ih =>
        rw [enter] at h
        split at h
        next hdot => exact hdot ▸ .stay (ih h)
        next hdot =>
          split at h
          next hdots => exact hdots ▸ .back (ih h)
          next hdots =>
            split at h
            next => cases h
            next hshort =>
              split at h
              next hdirectory => exact .into ⟨hdot, hdots⟩ hshort hdirectory (ih h)
              next => cases h
              next => cases h
  · intro h
    induction h with
    | arrived => rfl
    | stay _ ih => rwa [enter, if_pos rfl]
    | back _ ih => rwa [enter, if_neg (by decide), if_pos rfl]
    | into hname hshort hdirectory _ ih =>
        rw [enter, if_neg hname.1, if_neg hname.2, if_neg hshort, hdirectory]
        exact ih

namespace Leads

/-- Where names lead to is a matter of the names alone. -/
theorem eq_follow (h : tree.Leads here names found) : found = Path.follow here names := by
  induction h with
  | arrived => rfl
  | stay _ ih => rwa [Path.follow, if_pos rfl]
  | back _ ih => rwa [Path.follow, if_neg (by decide), if_pos rfl]
  | into hname _ _ _ ih => rwa [Path.follow, if_neg hname.1, if_neg hname.2]

theorem append {middle behind : List String} (h : tree.Leads here names middle)
    (hbehind : tree.Leads middle behind found) : tree.Leads here (names ++ behind) found := by
  induction h with
  | arrived => exact hbehind
  | stay _ ih => exact .stay (ih hbehind)
  | back _ ih => exact .back (ih hbehind)
  | into hname hshort hdirectory _ ih => exact .into hname hshort hdirectory (ih hbehind)

theorem of_append {front behind : List String} (h : tree.Leads here (front ++ behind) found) :
    ∃ middle, tree.Leads here front middle ∧ tree.Leads middle behind found := by
  induction front generalizing here with
  | nil => exact ⟨here, .arrived here, h⟩
  | cons name rest ih =>
      rw [List.cons_append] at h
      cases h with
      | stay h =>
          obtain ⟨middle, hfront, hbehind⟩ := ih h
          exact ⟨middle, .stay hfront, hbehind⟩
      | back h =>
          obtain ⟨middle, hfront, hbehind⟩ := ih h
          exact ⟨middle, .back hfront, hbehind⟩
      | into hname hshort hdirectory h =>
          obtain ⟨middle, hfront, hbehind⟩ := ih h
          exact ⟨middle, .into hname hshort hdirectory hfront, hbehind⟩

theorem of_prefix {front : List String} (h : tree.Leads here names found)
    (hfront : front <+: names) : ∃ middle, tree.Leads here front middle := by
  obtain ⟨behind, rfl⟩ := hfront
  obtain ⟨middle, hmiddle, -⟩ := h.of_append
  exact ⟨middle, hmiddle⟩

/-- Single dots lead nowhere else. -/
theorem withoutDots (h : tree.Leads here names found) :
    tree.Leads here (names.filter (· != ".")) found := by
  induction h with
  | arrived => exact .arrived _
  | stay _ ih => exact ih
  | back _ ih => exact .back ih
  | into hname hshort hdirectory _ ih =>
      rw [List.filter_cons_of_pos (by simpa using hname.1)]
      exact .into hname hshort hdirectory ih

end Leads

/-! ## Trees that keep directories -/

/-- Every directory of a tree stands in another. -/
def KeepsDirectories (tree other : FileTree) : Prop :=
  ∀ key, tree.entries.get? key = some .directory → other.entries.get? key = some .directory

namespace KeepsDirectories

theorem refl (tree : FileTree) : tree.KeepsDirectories tree := fun _ h => h

theorem trans {third : FileTree} (h : tree.KeepsDirectories other)
    (hother : other.KeepsDirectories third) : tree.KeepsDirectories third :=
  fun key hkey => hother key (h key hkey)

/-- A file does not take the place of a directory. -/
theorem put_file {location : List String}
    (hfree : tree.entries.get? (keyOf location) ≠ some .directory) (content : ByteArray) :
    tree.KeepsDirectories (tree.put location (.file content)) := by
  intro key hkey
  have hother : keyOf location ≠ key := fun heq => hfree (heq ▸ hkey)
  rw [put, Dictionary.get?_insert, if_neg hother, hkey]

/-- Names lead through directories that are kept. -/
theorem leads (hkeeps : tree.KeepsDirectories other) (h : tree.Leads here names found) :
    other.Leads here names found := by
  induction h with
  | arrived => exact .arrived _
  | stay _ ih => exact .stay ih
  | back _ ih => exact .back ih
  | into hname hshort hdirectory _ ih =>
      rw [entryAt_append] at hdirectory
      refine .into hname hshort ?_ ih
      rw [entryAt_append, hkeeps _ hdirectory]

end KeepsDirectories

/-! ## Places -/

/-- A path that can lead somewhere: it has no null character and is not too long. -/
structure IsUsable (path : String) : Prop where
  plain : '\x00' ∉ path.toList
  short : path.utf8ByteSize ≤ longestPath

/-- The place of the last name of a path in a directory. -/
def placeIn (directory : List String) (path last : String) : Place :=
  if last = "." then ⟨directory, none, true⟩
  else if last = ".." then ⟨directory.dropLast, none, true⟩
  else ⟨directory, some last, Path.endsWithSlash path⟩

theorem place_of_not_isUsable (h : ¬ IsUsable path) :
    tree.place path = .error .nullCharacter ∨ tree.place path = .error .nameTooLong := by
  by_cases hplain : '\x00' ∈ path.toList
  · refine Or.inl ?_
    simp only [place, List.contains_iff_mem, hplain, if_true]
    rfl
  · have hlong : longestPath < path.utf8ByteSize := by
      by_contra hshort
      exact h ⟨hplain, by omega⟩
    refine Or.inr ?_
    simp only [place, List.contains_iff_mem, hplain, hlong, if_true, if_false]
    rfl

theorem place_of_names_nil (husable : IsUsable path) (hnames : Path.names path = [])
    (hsome : path ≠ "") : tree.place path = .ok ⟨[], none, true⟩ := by
  have hshort : ¬ longestPath < path.utf8ByteSize := by have := husable.short; omega
  have hempty : path.isEmpty = false := by simpa using hsome
  simp only [place, List.contains_iff_mem, husable.plain, hshort, hnames, hempty, if_false,
    List.getLast?_nil, Bool.false_eq_true]
  rfl

theorem place_of_names (husable : IsUsable path) {front : List String} {last : String}
    (hnames : Path.names path = front ++ [last]) :
    tree.place path = (tree.enter [] front).map fun directory => placeIn directory path last := by
  have hshort : ¬ longestPath < path.utf8ByteSize := by have := husable.short; omega
  simp only [place, List.contains_iff_mem, husable.plain, hshort, hnames, if_false,
    List.getLast?_concat, List.dropLast_concat, bind, Except.bind, pure, Except.pure]
  cases tree.enter [] front with
  | error error => rfl
  | ok directory =>
      simp only [Except.map, placeIn]
      split
      next => rfl
      next =>
        split
        next => rfl
        next => rfl

/-- What it takes for a path to lead to a place. -/
theorem place_ok {place : Place} (h : tree.place path = .ok place) :
    IsUsable path ∧ path ≠ "" ∧ (Path.names path = [] ∧ place = ⟨[], none, true⟩ ∨
      ∃ front last directory, Path.names path = front ++ [last] ∧ tree.Leads [] front directory ∧
        place = placeIn directory path last) := by
  have husable : IsUsable path := by
    by_contra hunusable
    rcases @place_of_not_isUsable tree path hunusable with herror | herror <;>
      cases herror.symm.trans h
  have hsome : path ≠ "" := by
    rintro rfl
    cases h
  refine ⟨husable, hsome, ?_⟩
  rcases List.eq_nil_or_concat (Path.names path) with hnames | ⟨front, last, hnames⟩
  · rw [place_of_names_nil husable hnames hsome] at h
    exact Or.inl ⟨hnames, (Except.ok.inj h).symm⟩
  · rw [List.concat_eq_append] at hnames
    rw [place_of_names husable hnames] at h
    cases hentered : tree.enter [] front with
    | error error =>
        rw [hentered] at h
        cases h
    | ok directory =>
        rw [hentered] at h
        exact Or.inr ⟨front, last, directory, hnames, enter_eq_ok_iff.1 hentered,
          (Except.ok.inj h).symm⟩

theorem placeIn_ordinary {directory : List String} {last : String} (h : Path.IsOrdinary last) :
    placeIn directory path last = ⟨directory, some last, Path.endsWithSlash path⟩ := by
  rw [placeIn, if_neg h.1, if_neg h.2]

/-- A place with a name is that of an ordinary last name. -/
theorem place_named {place : Place} {name : String} (h : tree.place path = .ok place)
    (hname : place.name = some name) :
    IsUsable path ∧ Path.IsOrdinary name ∧ place.meansDirectory = Path.endsWithSlash path ∧
      ∃ front, Path.names path = front ++ [name] ∧ tree.Leads [] front place.directory := by
  obtain ⟨husable, -, ⟨-, rfl⟩ | ⟨front, last, directory, hnames, hfront, rfl⟩⟩ := place_ok h
  · cases hname
  · by_cases hordinary : Path.IsOrdinary last
    · rw [placeIn_ordinary hordinary] at hname ⊢
      obtain rfl := Option.some.inj hname
      exact ⟨husable, hordinary, rfl, front, hnames, hfront⟩
    · rw [placeIn] at hname
      split at hname
      next => cases hname
      next hdot =>
        split at hname
        next => cases hname
        next hdots => exact absurd ⟨hdot, hdots⟩ hordinary

/-- The location of a place with a name is what its path means. -/
theorem location_eq {place : Place} {name : String} (h : tree.place path = .ok place)
    (hname : place.name = some name) : Path.location path = place.directory ++ [name] := by
  obtain ⟨-, hordinary, -, front, hnames, hfront⟩ := place_named h hname
  rw [Path.location, hnames, Path.follow_append, ← hfront.eq_follow,
    Path.follow_ordinary _ (List.forall_mem_singleton.2 hordinary)]

/-- A path leads to the same place in a tree that keeps the directories. -/
theorem KeepsDirectories.place (hkeeps : tree.KeepsDirectories other) {place : Place}
    (h : tree.place path = .ok place) : other.place path = .ok place := by
  obtain ⟨husable, hsome, ⟨hnames, rfl⟩ | ⟨front, last, directory, hnames, hfront, rfl⟩⟩ :=
    place_ok h
  · exact place_of_names_nil husable hnames hsome
  · rw [place_of_names husable hnames, enter_eq_ok_iff.2 (hkeeps.leads hfront)]
    rfl

/-! ## Entries -/

/-- A path that means a directory has one. -/
theorem entry_of_unnamed {place : Place} (hplace : tree.place path = .ok place)
    (hname : place.name = none) : tree.entry path = .ok .directory := by
  simp only [entry, hplace, hname, bind, Except.bind, pure, Except.pure]

/-- A path that names something in a directory has the entry that is kept there, but no file when it
means a directory. -/
theorem entry_of_named {place : Place} {name : String} (hplace : tree.place path = .ok place)
    (hname : place.name = some name) (hshort : ¬ longestName < name.utf8ByteSize) :
    tree.entry path =
      match tree.entryAt (place.directory ++ [name]) with
      | none => .error .notFound
      | some (.file content) =>
        if place.meansDirectory then .error .notDirectory else .ok (.file content)
      | some .directory => .ok .directory := by
  rw [entry, hplace]
  dsimp only [bind, Except.bind]
  rw [hname]
  dsimp only
  rw [if_neg hshort]
  cases tree.entryAt (place.directory ++ [name]) with
  | none => rfl
  | some found => cases found <;> rfl

/-- A path that names a file in a directory has the entry that is kept there. -/
theorem entry_of_place {place : Place} {name : String} (hplace : tree.place path = .ok place)
    (hname : place.name = some name) (hplain : place.meansDirectory = false)
    (hshort : ¬ longestName < name.utf8ByteSize) :
    tree.entry path =
      (tree.entryAt (place.directory ++ [name])).elim (.error .notFound) .ok := by
  rw [entry_of_named hplace hname hshort, hplain]
  cases tree.entryAt (place.directory ++ [name]) with
  | none => rfl
  | some entry => cases entry <;> rfl

/-- What it takes for a path to lead to a file. -/
theorem entry_file {content : ByteArray} (h : tree.entry path = .ok (.file content)) :
    ∃ place name, tree.place path = .ok place ∧ place.name = some name ∧
      place.meansDirectory = false ∧ ¬ longestName < name.utf8ByteSize ∧
      tree.entries.get? (keyOf (Path.location path)) = some (.file content) := by
  cases hplace : tree.place path with
  | error error => simp [entry, hplace, bind, Except.bind] at h
  | ok place =>
      cases hname : place.name with
      | none => cases (entry_of_unnamed hplace hname).symm.trans h
      | some name =>
          by_cases hlong : longestName < name.utf8ByteSize
          · simp [entry, hplace, hname, hlong, bind, Except.bind, throw, throwThe,
              MonadExceptOf.throw] at h
          · rw [entry_of_named hplace hname hlong] at h
            refine ⟨place, name, rfl, hname, ?_, hlong, ?_⟩
            · cases hslash : place.meansDirectory with
              | false => rfl
              | true =>
                  rw [hslash] at h
                  split at h <;> cases h
            · rw [location_eq hplace hname, ← entryAt_append]
              split at h
              next => cases h
              next content' heq =>
                split at h
                next => cases h
                next =>
                  obtain rfl := FileEntry.file.inj (Except.ok.inj h)
                  exact heq
              next => cases h

theorem entry_of_place_error {error : FileError} (h : tree.place path = .error error) :
    tree.entry path = .error error := by
  rw [entry, h]
  rfl

theorem isDirectory_iff_entry :
    tree.isDirectory path = true ↔ tree.entry path = .ok .directory := by
  rw [isDirectory, entry?]
  cases tree.entry path with
  | error error => simp [Except.toOption]
  | ok entry => cases entry <;> simp [Except.toOption]

/-- A directory is where all names of a path lead. -/
theorem isDirectory_iff :
    tree.isDirectory path = true ↔
      IsUsable path ∧ path ≠ "" ∧ ∃ found, tree.Leads [] (Path.names path) found := by
  rw [isDirectory_iff_entry]
  constructor
  · intro h
    cases hplace : tree.place path with
    | error error => cases (entry_of_place_error hplace).symm.trans h
    | ok place =>
        obtain ⟨husable, hsome, ⟨hnames, -⟩ | ⟨front, last, directory, hnames, hfront, rfl⟩⟩ :=
          place_ok hplace
        · rw [hnames]
          exact ⟨husable, hsome, [], .arrived []⟩
        · refine ⟨husable, hsome, ?_⟩
          rw [hnames]
          by_cases hdot : last = "."
          · subst hdot
            exact ⟨_, hfront.append (.stay (.arrived _))⟩
          by_cases hdots : last = ".."
          · subst hdots
            exact ⟨_, hfront.append (.back (.arrived _))⟩
          rw [placeIn_ordinary ⟨hdot, hdots⟩] at hplace
          by_cases hlong : longestName < last.utf8ByteSize
          · simp [entry, hplace, hlong, bind, Except.bind, throw, throwThe,
              MonadExceptOf.throw] at h
          · rw [entry_of_named hplace rfl hlong] at h
            split at h
            next => cases h
            next =>
              split at h
              next => cases h
              next => cases h
            next hdirectory =>
              exact ⟨_, hfront.append (.into ⟨hdot, hdots⟩ hlong hdirectory (.arrived _))⟩
  · rintro ⟨husable, hsome, found, hleads⟩
    rcases List.eq_nil_or_concat (Path.names path) with hnames | ⟨front, last, hnames⟩
    · exact entry_of_unnamed (place_of_names_nil husable hnames hsome) rfl
    · rw [List.concat_eq_append] at hnames
      rw [hnames] at hleads
      obtain ⟨directory, hfront, hlast⟩ := hleads.of_append
      have hplace : tree.place path = .ok (placeIn directory path last) := by
        rw [place_of_names husable hnames, enter_eq_ok_iff.2 hfront]
        rfl
      cases hlast with
      | stay _ => exact entry_of_unnamed hplace rfl
      | back _ => exact entry_of_unnamed hplace rfl
      | into hname hshort hdirectory _ =>
          rw [placeIn_ordinary hname] at hplace
          rw [entry_of_named hplace rfl hshort, hdirectory]

/-- Directories that are kept are found under the same paths. -/
theorem KeepsDirectories.isDirectory (hkeeps : tree.KeepsDirectories other)
    (h : tree.isDirectory path = true) : other.isDirectory path = true := by
  obtain ⟨husable, hsome, found, hleads⟩ := isDirectory_iff.1 h
  exact isDirectory_iff.2 ⟨husable, hsome, found, hkeeps.leads hleads⟩

end FileTree

end Ensemble
