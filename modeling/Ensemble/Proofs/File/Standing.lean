/-
# Files that stand under a path

A path may name a file that does not stand yet, in a directory that does. What comes of writing to
it is a matter of what the file holds, and what it holds is read back in whole and in part. Not
every path without an entry names a file: one that is too long, or ends with a slash, cannot be
written to.
-/

import Ensemble.Proofs.File.Writing
import Ensemble.Proofs.Text.Lines

namespace Ensemble.FileTree

variable {tree after : FileTree} {path : String} {text? : Option String}

/-! ## Paths that name files -/

/-- Nothing stands under a path, but its directory does. -/
structure Vacant (tree : FileTree) (path : String) : Prop where
  inDirectory : ∃ directory, tree.enter [] (Path.names path).dropLast = .ok directory
  absent : tree.contains path = false

/-- A path that a file can have. -/
structure NamesFile (path : String) : Prop where
  usable : IsUsable path
  shortName : ∀ name, (Path.names path).getLast? = some name → name.utf8ByteSize ≤ longestName
  unslashed : Path.endsWithSlash path = false

/-- A path names a file, which holds a text or does not stand yet. -/
def Stands (tree : FileTree) (path : String) (text? : Option String) : Prop :=
  ∃ place name, tree.place path = .ok place ∧ place.name = some name ∧
    place.meansDirectory = false ∧ ¬ longestName < name.utf8ByteSize ∧
    tree.entryAt (place.directory ++ [name]) = text?.map fun text => .file text.toUTF8

theorem stands_of_vacant (hsome : path ≠ "") (hvacant : tree.Vacant path)
    (hnames : NamesFile path) : tree.Stands path none := by
  have habsent : tree.entry path ≠ .ok .directory := by
    intro hentry
    have hcontains := hvacant.absent
    rw [contains, entry?, hentry] at hcontains
    cases hcontains
  obtain ⟨directory, henter⟩ := hvacant.inDirectory
  rcases List.eq_nil_or_concat (Path.names path) with hnone | ⟨front, last, hlast⟩
  · exact absurd (entry_of_unnamed (place_of_names_nil hnames.usable hnone hsome) rfl) habsent
  · rw [List.concat_eq_append] at hlast
    rw [hlast, List.dropLast_concat] at henter
    have hplace : tree.place path = .ok (placeIn directory path last) := by
      rw [place_of_names hnames.usable hlast, henter]
      rfl
    have hordinary : Path.IsOrdinary last := by
      constructor
      · rintro rfl
        exact habsent (entry_of_unnamed hplace rfl)
      · rintro rfl
        exact habsent (entry_of_unnamed hplace rfl)
    rw [placeIn_ordinary hordinary] at hplace
    have hshort : ¬ longestName < last.utf8ByteSize := by
      have := hnames.shortName last (by rw [hlast, List.getLast?_concat])
      omega
    refine ⟨_, last, hplace, rfl, hnames.unslashed, hshort, ?_⟩
    have hcontains := hvacant.absent
    rw [contains, entry?, entry_of_place hplace rfl hnames.unslashed hshort] at hcontains
    cases hentry : tree.entryAt (directory ++ [last]) with
    | none => rfl
    | some entry =>
        rw [hentry] at hcontains
        cases hcontains

theorem namesFile_of_write {mode : WriteMode} {content : ByteArray}
    (h : tree.write path mode content = .ok after) : NamesFile path := by
  obtain ⟨place, name, -, hplace, hname, hplain, hshort, -, -⟩ := write_ok h
  obtain ⟨husable, -, hslash, front, hnames, -⟩ := place_named hplace hname
  refine ⟨husable, fun last hlast => ?_, hslash ▸ hplain⟩
  rw [hnames, List.getLast?_concat] at hlast
  obtain rfl := Option.some.inj hlast
  omega

namespace Stands

variable (h : tree.Stands path text?)
include h

theorem contains_eq : tree.contains path = text?.isSome := by
  obtain ⟨place, name, hplace, hname, hplain, hshort, hentry⟩ := h
  rw [contains, entry?, entry_of_place hplace hname hplain hshort, hentry]
  cases text? <;> rfl

theorem leads_parent : ∃ found, tree.Leads [] (Path.names path).dropLast found := by
  obtain ⟨place, name, hplace, hname, -⟩ := h
  obtain ⟨-, -, -, front, hnames, hfront⟩ := place_named hplace hname
  rw [hnames, List.dropLast_concat]
  exact ⟨_, hfront⟩

theorem isUsable : IsUsable path := by
  obtain ⟨place, name, hplace, hname, -⟩ := h
  exact (place_named hplace hname).1

/-- The directory of a file that is written stands already. -/
theorem ensureParent_eq : tree.ensureParent path = (tree, none) := by
  obtain ⟨found, hfound⟩ := h.leads_parent
  obtain ⟨hsame, hnone⟩ := ensureParent_of_leads hfound
  exact Prod.ext hsame (hnone h.isUsable)

/-- What comes of writing to a file is a matter of what it holds. -/
theorem write_eq (mode : WriteMode) (content : ByteArray) :
    ∃ place name, tree.place path = .ok place ∧ place.name = some name ∧
      tree.write path mode content =
        (written mode content (text?.map fun text => .file text.toUTF8)).map
          fun new => tree.put (place.directory ++ [name]) (.file new) := by
  obtain ⟨place, name, hplace, hname, hplain, hshort, hentry⟩ := h
  refine ⟨place, name, hplace, hname, ?_⟩
  simp only [write, hplace, hname, hplain, hshort, hentry, bind, Except.bind, pure, Except.pure,
    Bool.false_eq_true, if_false]
  cases written mode content (text?.map fun text => .file text.toUTF8) <;> rfl

/-- A file that is put where a file may stand holds its text. -/
theorem put {place : Place} {name : String} (hplace : tree.place path = .ok place)
    (hname : place.name = some name) (text : String) :
    (tree.put (place.directory ++ [name]) (.file text.toUTF8)).Stands path (some text) := by
  obtain ⟨place', name', hplace', hname', hplain, hshort, hentry⟩ := h
  obtain rfl := Except.ok.inj (hplace'.symm.trans hplace)
  obtain rfl := Option.some.inj (hname'.symm.trans hname)
  have hfree : tree.entries.get? (keyOf (place'.directory ++ [name'])) ≠ some .directory := by
    rw [← entryAt_append, hentry]
    cases text? <;> simp
  refine ⟨place', name', (KeepsDirectories.put_file hfree _).place hplace, hname, hplain, hshort,
    ?_⟩
  rw [entryAt_append, FileTree.put, Dictionary.get?_insert, if_pos rfl]
  rfl

end Stands

/-! ## Reading back -/

/-- A file is read back: in whole, in lines, and with a limit as the first lines of the text. -/
structure ReadsBack (tree : FileTree) (path text : String) : Prop where
  whole : tree.read path none = .ok ⟨path, .ok text⟩
  lines : tree.readLines path = .ok (.ok (Text.lines text))
  limited : ∀ limit, ∃ kept : String, tree.read path (some limit) = .ok ⟨path, .ok kept⟩ ∧
    kept.toList <+: text.toList ∧ Text.lines kept = (Text.lines text).take limit ∧
    (ReadOutcome.mk path (.ok kept)).lineCount = min limit (Text.lines text).length

theorem lines_firstLines (text : String) (limit : Nat) :
    Text.lines (firstLines (some limit) text) = (Text.lines text).take limit := by
  rw [firstLines, Text.lines, Text.lineChars, String.toList_ofList, Text.inclusiveLines_take,
    Text.lines, Text.lineChars, List.map_take, List.map_take]

theorem Stands.readsBack {text : String} (h : tree.Stands path (some text))
    (hpath : requirePath path = .ok ()) : tree.ReadsBack path text := by
  have hthere : tree.contains path = true := h.contains_eq
  obtain ⟨place, name, hplace, hname, hplain, hshort, hentry⟩ := h
  have hfile : tree.entry path = .ok (.file text.toUTF8) := by
    rw [entry_of_place hplace hname hplain hshort, hentry]
    rfl
  have htext : tree.fileText path = .ok text := by
    have hisFile : tree.isFile path = true := by rw [isFile, entry?, hfile]; rfl
    have hread : tree.readText path = .ok text := by
      simp only [readText, hfile, bind, Except.bind, fromUTF8?_toUTF8, pure, Except.pure]
    rw [fileText, hthere, hisFile, hread]
    rfl
  have hread : ∀ limit, tree.read path limit = .ok ⟨path, .ok (firstLines limit text)⟩ := by
    intro limit
    rw [read, hpath, htext]
    rfl
  refine ⟨hread none, ?_, fun limit => ⟨_, hread (some limit), ?_, lines_firstLines text limit, ?_⟩⟩
  · rw [readLines, hpath, htext]
    rfl
  · rw [firstLines, String.toList_ofList]
    exact Text.flatten_take_prefix text.toList limit
  · have hcontent : (ReadOutcome.mk path (.ok (firstLines (some limit) text))).content =
        firstLines (some limit) text := rfl
    rw [ReadOutcome.lineCount, hcontent, lines_firstLines, List.length_take]

/-! ## Names that are too long -/

/-- In no directory does a name stand that is too long, and none is written there. -/
theorem refused_of_overlong (husable : IsUsable path) {front directory : List String}
    {last : String} (hnames : Path.names path = front ++ [last])
    (hleads : tree.Leads [] front directory) (hordinary : Path.IsOrdinary last)
    (hslash : Path.endsWithSlash path = false) (hlong : longestName < last.utf8ByteSize) :
    tree.Vacant path ∧
      ∀ mode content, tree.writeInto path mode false content = (tree, some .nameTooLong) := by
  have henter := enter_eq_ok_iff.2 hleads
  have hplace : tree.place path = .ok ⟨directory, some last, false⟩ := by
    rw [place_of_names husable hnames, henter]
    exact congrArg Except.ok ((placeIn_ordinary hordinary).trans (by rw [hslash]))
  refine ⟨⟨⟨directory, by rw [hnames, List.dropLast_concat, henter]⟩, ?_⟩, fun mode content => ?_⟩
  · simp [contains, entry?, entry, hplace, hlong, bind, Except.bind, throw, throwThe,
      MonadExceptOf.throw, Except.toOption]
  · simp [writeInto, write, hplace, hlong, bind, Except.bind, throw, throwThe,
      MonadExceptOf.throw]

end Ensemble.FileTree
