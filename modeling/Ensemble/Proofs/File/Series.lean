/-
# Writing to one path again and again

A path that names a file which does not stand yet, in a directory that does, is written to in any
way, as often as one likes. Only a file that has to be new is refused, and only once there is one.
The file then holds what the last writing that began it anew wrote, and behind it what was appended
since. It is read back in whole and in part, and lines that were written are the lines that are
read. To a path that does not name a file every writing fails, and changes nothing.
-/

import Ensemble.Proofs.File.Standing
import Mathlib.Data.List.Induction

namespace Ensemble

/-- A way of writing to a path. -/
inductive Writing where
  | text (content : String) (mode : WriteMode) (createsDirectories : Bool)
  | lines (written : List String) (mode : WriteMode) (createsDirectories : Bool)
  | appended (content : String)

/-- Nothing was written. -/
def WriteOutcome.Failed (outcome : WriteOutcome) : Prop :=
  outcome.error? ≠ none

namespace Writing

/-- Write to a path. -/
def apply (path : String) (tree : FileTree) : Writing → Except PathError (WriteOutcome × FileTree)
  | text content mode createsDirectories => tree.writeText path content mode createsDirectories
  | lines written mode createsDirectories =>
    tree.writeLines path written mode createsDirectories
  | appended content => tree.appendText path content

/-- The text that is written. -/
def content : Writing → String
  | text content _ _ => content
  | lines written _ _ => String.join (written.map (· ++ "\n"))
  | appended content => content

/-- What becomes of a file that exists already. -/
def mode : Writing → WriteMode
  | text _ mode _ => mode
  | lines _ mode _ => mode
  | appended _ => .append

/-- Whether missing directories are made. -/
def createsDirectories : Writing → Bool
  | text _ _ createsDirectories => createsDirectories
  | lines _ _ createsDirectories => createsDirectories
  | appended _ => false

/-- The lines that are written, if it is lines. -/
def lines? : Writing → Option (List String)
  | lines written _ _ => some written
  | _ => none

/-- What a file holds after a writing, given what it held before. -/
def textAfter (writing : Writing) (before? : Option String) : String :=
  (if writing.mode = .append then before?.getD "" else "") ++ writing.content

/-- Every way of writing comes down to writing a text. -/
theorem apply_eq (path : String) (tree : FileTree) (writing : Writing) :
    writing.apply path tree =
      tree.writeText path writing.content writing.mode writing.createsDirectories := by
  cases writing <;> rfl

/-- Write to a path again and again: each writing with its outcome, and the tree afterwards. -/
def applyAll (path : String) :
    FileTree → List Writing → Except PathError (List (Writing × WriteOutcome) × FileTree)
  | tree, [] => .ok ([], tree)
  | tree, writing :: rest => do
    let (outcome, next) ← writing.apply path tree
    let (entries, after) ← applyAll path next rest
    return ((writing, outcome) :: entries, after)

section Running

variable {path : String} {tree middle after : FileTree} {writings rest : List Writing}
  {ledger entries : List (Writing × WriteOutcome)} {writing : Writing} {outcome : WriteOutcome}

theorem applyAll_cons_ok_iff :
    applyAll path tree (writing :: rest) = .ok (ledger, after) ↔
      ∃ outcome next entries, writing.apply path tree = .ok (outcome, next) ∧
        applyAll path next rest = .ok (entries, after) ∧
        ledger = (writing, outcome) :: entries := by
  simp only [applyAll, bind, Except.bind, pure, Except.pure]
  constructor
  · intro h
    split at h
    next => cases h
    next result happly =>
      split at h
      next => cases h
      next others hrest =>
        obtain ⟨rfl, rfl⟩ := Prod.mk.inj (Except.ok.inj h)
        exact ⟨result.1, result.2, others.1, happly, hrest, rfl⟩
  · rintro ⟨outcome, next, entries, happly, hrest, rfl⟩
    simp only [happly, hrest]

theorem applyAll_concat (h : applyAll path tree writings = .ok (entries, middle))
    (hlast : writing.apply path middle = .ok (outcome, after)) :
    applyAll path tree (writings ++ [writing]) = .ok (entries ++ [(writing, outcome)], after) := by
  induction writings generalizing tree entries with
  | nil =>
      obtain ⟨rfl, rfl⟩ := Prod.mk.inj (Except.ok.inj h)
      exact applyAll_cons_ok_iff.2 ⟨outcome, after, [], hlast, rfl, rfl⟩
  | cons first rest ih =>
      obtain ⟨outcome', next, others, hfirst, hrest, rfl⟩ := applyAll_cons_ok_iff.1 h
      exact applyAll_cons_ok_iff.2 ⟨outcome', next, _, hfirst, ih hrest, rfl⟩

end Running

/-! ## Which writings a file is made of -/

/-- A writing that began the file anew. -/
def Begins (entry : Writing × WriteOutcome) : Prop :=
  entry.1.mode ≠ .append ∧ ¬ entry.2.Failed

/-- The writings that append. -/
def appends (entries : List (Writing × WriteOutcome)) : List Writing :=
  (entries.map Prod.fst).filter (·.mode = .append)

theorem appends_append (entries others : List (Writing × WriteOutcome)) :
    appends (entries ++ others) = appends entries ++ appends others := by
  rw [appends, List.map_append, List.filter_append]
  rfl

/-- The writings that a file is made of: the last that began it anew, if there is one, and all that
appended to it since. -/
inductive MadeBy : List (Writing × WriteOutcome) → List Writing → Prop
  | appended {entries : List (Writing × WriteOutcome)} (hnone : ∀ entry ∈ entries, ¬ Begins entry) :
      MadeBy entries (appends entries)
  | begun {before since : List (Writing × WriteOutcome)} {entry : Writing × WriteOutcome}
      (hbegins : Begins entry) (hlast : ∀ later ∈ since, ¬ Begins later) :
      MadeBy (before ++ entry :: since) (entry.1 :: appends since)

namespace MadeBy

variable {entries : List (Writing × WriteOutcome)} {entry : Writing × WriteOutcome}
  {makers : List Writing}

theorem concat_of_begins (h : Begins entry) : MadeBy (entries ++ [entry]) [entry.1] :=
  .begun h (List.forall_mem_nil _)

theorem concat_of_not_begins (h : MadeBy entries makers) (hnot : ¬ Begins entry) :
    MadeBy (entries ++ [entry]) (makers ++ appends [entry]) := by
  cases h with
  | appended hnone =>
      rw [← appends_append]
      exact .appended (List.forall_mem_append.2 ⟨hnone, List.forall_mem_singleton.2 hnot⟩)
  | begun hbegins hlast =>
      rw [List.append_assoc, List.cons_append, List.cons_append, ← appends_append]
      exact .begun hbegins (List.forall_mem_append.2 ⟨hlast, List.forall_mem_singleton.2 hnot⟩)

end MadeBy

end Writing

namespace FileTree

variable {tree after : FileTree} {path : String} {text? : Option String}

/-! ## One writing -/

theorem writeText_of_requirePath (hpath : requirePath path = .ok ()) (text : String)
    (mode : WriteMode) (createsDirectories : Bool) {error? : Option FileError}
    (h : tree.writeInto path mode createsDirectories text.toUTF8 = (after, error?)) :
    tree.writeText path text mode createsDirectories =
      .ok (⟨path, mode, error?.elim (.ok text.utf8ByteSize) .error⟩, after) := by
  rw [writeText, hpath]
  simp only [bind, Except.bind, h]
  cases error? <;> rfl

namespace Stands

/-- A file that has to be new is refused once there is one. -/
theorem apply_refused {text : String} (h : tree.Stands path (some text))
    (hpath : requirePath path = .ok ()) {writing : Writing} (hnew : writing.mode = .createNew) :
    writing.apply path tree = .ok (⟨path, writing.mode, .error .exists⟩, tree) := by
  obtain ⟨place, name, -, -, hwrite⟩ := h.write_eq .createNew writing.content.toUTF8
  have hrefused : tree.writeInto path .createNew writing.createsDirectories
      writing.content.toUTF8 = (tree, some .exists) := by
    rw [writeInto, h.ensureParent_eq, ite_self]
    simp only [hwrite, Option.map_some, written, Except.map]
  rw [Writing.apply_eq, hnew]
  exact writeText_of_requirePath hpath _ _ _ hrefused

/-- Every other writing succeeds. -/
theorem apply_done (h : tree.Stands path text?) (hpath : requirePath path = .ok ())
    {writing : Writing} (hfree : writing.mode = .createNew → text? = none) :
    ∃ next, writing.apply path tree =
        .ok (⟨path, writing.mode, .ok writing.content.utf8ByteSize⟩, next) ∧
      next.Stands path (some (writing.textAfter text?)) := by
  obtain ⟨place, name, hplace, hname, hwrite⟩ := h.write_eq writing.mode writing.content.toUTF8
  have hwritten : written writing.mode writing.content.toUTF8
      (text?.map fun text => .file text.toUTF8) = .ok (writing.textAfter text?).toUTF8 := by
    cases text? with
    | none => simp [written, Writing.textAfter]
    | some old =>
        cases hmode : writing.mode with
        | overwrite => simp [written, Writing.textAfter, hmode]
        | append => simp [written, Writing.textAfter, hmode]
        | createNew => cases hfree hmode
  have hdone : tree.writeInto path writing.mode writing.createsDirectories
      writing.content.toUTF8 =
        (tree.put (place.directory ++ [name]) (.file (writing.textAfter text?).toUTF8), none) := by
    rw [writeInto, h.ensureParent_eq, ite_self]
    simp only [hwrite, hwritten, Except.map]
  rw [Writing.apply_eq]
  exact ⟨_, writeText_of_requirePath hpath _ _ _ hdone, h.put hplace hname _⟩

end Stands

/-- Where a path does not name a file nothing is written. -/
theorem apply_of_not_namesFile (hpath : requirePath path = .ok ()) (hvacant : tree.Vacant path)
    (hnames : ¬ NamesFile path) (writing : Writing) :
    ∃ error, writing.apply path tree = .ok (⟨path, writing.mode, .error error⟩, tree) := by
  obtain ⟨directory, henter⟩ := hvacant.inDirectory
  obtain ⟨hsame, -⟩ := ensureParent_of_leads (enter_eq_ok_iff.1 henter)
  have hfails : ∃ error, tree.writeInto path writing.mode writing.createsDirectories
      writing.content.toUTF8 = (tree, some error) := by
    rw [writeInto.eq_def]
    split
    next prepared error heq =>
      refine ⟨error, congrArg (·, some error) ?_⟩
      split at heq
      · rw [← hsame, heq]
      · cases heq
    next prepared heq =>
      obtain rfl : prepared = tree := by
        split at heq
        · rw [← hsame, heq]
        · exact (Prod.mk.inj heq).1.symm
      cases hwrite : prepared.write path writing.mode writing.content.toUTF8 with
      | ok written => exact absurd (namesFile_of_write hwrite) hnames
      | error error => exact ⟨error, rfl⟩
  obtain ⟨error, hfails⟩ := hfails
  refine ⟨error, ?_⟩
  rw [Writing.apply_eq]
  exact writeText_of_requirePath hpath _ _ _ hfails

/-! ## A series of writings -/

/-- How a writing fares: it fails just where a file has to be new and there is one already. Then
nothing changes, and else the whole text is written. -/
structure Fares (path : String) (tree : FileTree) (writing : Writing) (outcome : WriteOutcome)
    (next : FileTree) : Prop where
  failed_iff : outcome.Failed ↔ writing.mode = .createNew ∧ tree.contains path = true
  unchanged : outcome.Failed → next = tree ∧ outcome.bytesWritten = 0
  complete : ¬ outcome.Failed → outcome.bytesWritten = writing.content.utf8ByteSize

theorem not_failed_ok (path : String) (mode : WriteMode) (size : Nat) :
    ¬ WriteOutcome.Failed ⟨path, mode, .ok size⟩ :=
  fun h => h rfl

theorem failed_error (path : String) (mode : WriteMode) (error : FileError) :
    WriteOutcome.Failed ⟨path, mode, .error error⟩ :=
  Option.some_ne_none _

/-- A writing either fails and leaves the text, or it succeeds and is the text's last part. -/
theorem Stands.step (h : tree.Stands path text?) (hpath : requirePath path = .ok ())
    (writing : Writing) :
    ∃ outcome next text, writing.apply path tree = .ok (outcome, next) ∧
      Fares path tree writing outcome next ∧ next.Stands path (some text) ∧
      (outcome.Failed → text = text?.getD "") ∧
      (¬ outcome.Failed → text = writing.textAfter text?) := by
  have hcontains := h.contains_eq
  by_cases hrefused : writing.mode = .createNew ∧ tree.contains path = true
  · obtain ⟨text, rfl⟩ := Option.isSome_iff_exists.1 (hcontains ▸ hrefused.2)
    have hfailed := failed_error path writing.mode .exists
    have hfares : Fares path tree writing ⟨path, writing.mode, .error .exists⟩ tree :=
      ⟨iff_of_true hfailed hrefused, fun _ => ⟨rfl, rfl⟩, fun hnot => absurd hfailed hnot⟩
    exact ⟨_, tree, text, h.apply_refused hpath hrefused.1, hfares, h, fun _ => rfl,
      fun hnot => absurd hfailed hnot⟩
  · have hfree : writing.mode = .createNew → text? = none := by
      intro hnew
      rw [← Option.not_isSome_iff_eq_none, ← hcontains]
      exact fun hthere => hrefused ⟨hnew, hthere⟩
    obtain ⟨next, happly, hnext⟩ := h.apply_done hpath hfree
    have hdone := not_failed_ok path writing.mode writing.content.utf8ByteSize
    exact ⟨_, next, _, happly, ⟨iff_of_false hdone hrefused, fun hfailed => absurd hfailed hdone,
      fun _ => rfl⟩, hnext, fun hfailed => absurd hfailed hdone, fun _ => rfl⟩

/-- After a series of writings the file holds what the writings it is made of wrote. -/
theorem Stands.series (h : tree.Stands path none) (hpath : requirePath path = .ok ())
    (writings : List Writing) :
    ∃ ledger after makers text?, Writing.applyAll path tree writings = .ok (ledger, after) ∧
      ledger.map Prod.fst = writings ∧ Writing.MadeBy ledger makers ∧
      after.Stands path text? ∧ (writings ≠ [] → text?.isSome) ∧
      text?.getD "" = String.join (makers.map Writing.content) := by
  -- From the end: what the last writing makes of the file is a matter of what it held before.
  induction writings using List.reverseRecOn with
  | nil =>
      exact ⟨[], tree, [], none, rfl, rfl, .appended (List.forall_mem_nil _), h,
        fun hsome => absurd rfl hsome, rfl⟩
  | append_singleton writings writing ih =>
      obtain ⟨ledger, middle, makers, text?, hrun, hledger, hmakers, hstands, -, htext⟩ := ih
      obtain ⟨outcome, after, text, happly, hfares, hafter, hkept, hadded⟩ :=
        hstands.step hpath writing
      have hrun' := Writing.applyAll_concat hrun happly
      have hledger' : (ledger ++ [(writing, outcome)]).map Prod.fst = writings ++ [writing] := by
        rw [List.map_append, hledger]
        rfl
      by_cases hbegins : Writing.Begins (writing, outcome)
      · refine ⟨_, after, _, some text, hrun', hledger', .concat_of_begins hbegins, hafter,
          fun _ => rfl, ?_⟩
        rw [Option.getD_some, hadded hbegins.2, Writing.textAfter, if_neg hbegins.1]
        simp
      · refine ⟨_, after, _, some text, hrun', hledger', hmakers.concat_of_not_begins hbegins,
          hafter, fun _ => rfl, ?_⟩
        rw [Option.getD_some, List.map_append, String.join_append, ← htext]
        by_cases hfailed : outcome.Failed
        · rw [hkept hfailed]
          simp [Writing.appends, (hfares.failed_iff.1 hfailed).1]
        · have happend : writing.mode = .append := by
            by_contra hother
            exact hbegins ⟨hother, hfailed⟩
          rw [hadded hfailed, Writing.textAfter, if_pos happend]
          simp [Writing.appends, happend]

/-- Where a path does not name a file a series of writings fails from first to last and changes
nothing. -/
theorem series_of_not_namesFile (hpath : requirePath path = .ok ()) (hvacant : tree.Vacant path)
    (hnames : ¬ NamesFile path) (writings : List Writing) :
    ∃ ledger, Writing.applyAll path tree writings = .ok (ledger, tree) ∧
      ledger.map Prod.fst = writings ∧
      ∀ entry ∈ ledger, entry.2.Failed ∧ entry.2.bytesWritten = 0 := by
  induction writings with
  | nil => exact ⟨[], rfl, rfl, List.forall_mem_nil _⟩
  | cons writing rest ih =>
      obtain ⟨ledger, hrun, hledger, hfailed⟩ := ih
      obtain ⟨error, happly⟩ := apply_of_not_namesFile hpath hvacant hnames writing
      refine ⟨(writing, ⟨path, writing.mode, .error error⟩) :: ledger, ?_, ?_, ?_⟩
      · exact Writing.applyAll_cons_ok_iff.2 ⟨_, tree, ledger, happly, hrun, rfl⟩
      · rw [List.map_cons, hledger]
      · exact List.forall_mem_cons.2 ⟨⟨failed_error _ _ _, rfl⟩, hfailed⟩

/-- Lines that all writings wrote are read back one after another. -/
theorem lines_of_makers {makers : List Writing} {written : List (List String)}
    (h : makers.map Writing.lines? = written.map some)
    (hplain : ∀ line ∈ written.flatten, Text.IsPlainLine line) :
    Text.lines (String.join (makers.map Writing.content)) = written.flatten := by
  have hcontent : String.join (makers.map Writing.content) =
      String.join (written.flatten.map (· ++ "\n")) := by
    induction makers generalizing written with
    | nil =>
        obtain rfl := List.map_eq_nil_iff.1 h.symm
        rfl
    | cons maker makers ih =>
        cases written with
        | nil => cases h
        | cons lines written =>
            rw [List.map_cons, List.map_cons, List.cons.injEq] at h
            have hmaker : maker.content = String.join (lines.map (· ++ "\n")) := by
              cases maker with
              | lines other _ _ => rw [Writing.content, Option.some.inj h.1]
              | text _ _ _ => cases h.1
              | appended _ => cases h.1
            have hrest := ih h.2 fun line hline =>
              hplain line (by rw [List.flatten_cons]; exact List.mem_append_right _ hline)
            rw [List.map_cons, String.join_cons, hmaker, hrest, List.flatten_cons, List.map_append,
              String.join_append]
  rw [hcontent, Text.lines_join hplain]

/-- A path without an entry, in a directory that stands, is written to in any way, as often as one
likes. If the path names a file, a writing fails just where the file has to be new and is not; the
file holds what the last writing that began it anew wrote, and behind it what was appended since;
and that is read back, with a limit as the first of its lines. If the path does not name a file
nothing is written at all. -/
theorem series_read_back (hpath : requirePath path = .ok ()) (hvacant : tree.Vacant path)
    (writings : List Writing) :
    (NamesFile path →
      ∃ ledger after makers, Writing.applyAll path tree writings = .ok (ledger, after) ∧
        ledger.map Prod.fst = writings ∧ Writing.MadeBy ledger makers ∧
        (∀ writing : Writing, ∃ outcome next, writing.apply path after = .ok (outcome, next) ∧
          Fares path after writing outcome next) ∧
        (writings ≠ [] → after.ReadsBack path (String.join (makers.map Writing.content))) ∧
        ∀ written : List (List String), writings ≠ [] →
          makers.map Writing.lines? = written.map some →
          (∀ line ∈ written.flatten, Text.IsPlainLine line) →
            after.readLines path = .ok (.ok written.flatten)) ∧
    (¬ NamesFile path →
      ∃ ledger, Writing.applyAll path tree writings = .ok (ledger, tree) ∧
        ledger.map Prod.fst = writings ∧
        ∀ entry ∈ ledger, entry.2.Failed ∧ entry.2.bytesWritten = 0) := by
  refine ⟨fun hnames => ?_, fun hnames => series_of_not_namesFile hpath hvacant hnames writings⟩
  have hsome : path ≠ "" := by
    rintro rfl
    cases hpath
  obtain ⟨ledger, after, makers, text?, hrun, hledger, hmakers, hstands, hwritten, htext⟩ :=
    (stands_of_vacant hsome hvacant hnames).series hpath writings
  have hreads : writings ≠ [] →
      after.ReadsBack path (String.join (makers.map Writing.content)) := by
    intro hany
    obtain ⟨text, rfl⟩ := Option.isSome_iff_exists.1 (hwritten hany)
    rw [← htext]
    exact hstands.readsBack hpath
  have hfares : ∀ writing : Writing, ∃ outcome next,
      writing.apply path after = .ok (outcome, next) ∧ Fares path after writing outcome next := by
    intro writing
    obtain ⟨outcome, next, -, happly, hfares, -⟩ := hstands.step hpath writing
    exact ⟨outcome, next, happly, hfares⟩
  refine ⟨ledger, after, makers, hrun, hledger, hmakers, hfares, hreads, ?_⟩
  intro written hany hlines hplain
  rw [(hreads hany).lines, lines_of_makers hlines hplain]

/-- Lines, more lines behind them, and a text that comes too late to be the first. -/
theorem series_read_back_notes :
    requirePath "notes.txt" = .ok () ∧ empty.Vacant "notes.txt" ∧ NamesFile "notes.txt" ∧
      ∃ ledger after makers,
        Writing.applyAll "notes.txt" empty
          [.lines ["one", ""] .createNew true, .lines ["two"] .append false,
            .text "three" .createNew false] = .ok (ledger, after) ∧
        Writing.MadeBy ledger makers ∧
        after.ReadsBack "notes.txt" (String.join (makers.map Writing.content)) := by
  have hvacant : empty.Vacant "notes.txt" := ⟨⟨[], rfl⟩, by decide +kernel⟩
  have hnames : NamesFile "notes.txt" := by
    refine ⟨⟨by decide +kernel, by decide +kernel⟩, fun name hname => ?_, by decide +kernel⟩
    obtain rfl : "notes.txt" = name :=
      Option.some.inj ((by decide +kernel : some "notes.txt" = _).trans hname)
    decide +kernel
  obtain ⟨ledger, after, makers, hrun, -, hmakers, -, hreads, -⟩ :=
    (series_read_back (by decide +kernel) hvacant _).1 hnames
  exact ⟨by decide +kernel, hvacant, hnames, ledger, after, makers, hrun, hmakers,
    hreads (List.cons_ne_nil _ _)⟩

/-- A name may be too long for a file. Then the first writing to it already fails, although nothing
stands there and no file has to be new. -/
theorem overlong_name_not_written :
    ∃ path : String, path = String.ofList (List.replicate 256 'a') ∧
      requirePath path = .ok () ∧ empty.Vacant path ∧
      (Writing.text "x" .overwrite false).apply path empty =
        .ok (⟨path, .overwrite, .error .nameTooLong⟩, empty) ∧
      ¬ (WriteOutcome.Failed ⟨path, .overwrite, .error .nameTooLong⟩ ↔
        WriteMode.overwrite = .createNew ∧ empty.contains path = true) := by
  refine ⟨_, rfl, ?_⟩
  generalize hpath : String.ofList (List.replicate 256 'a') = path
  have hchars : path.toList = List.replicate 256 'a' := by rw [← hpath, String.toList_ofList]
  have hsize : path.utf8ByteSize = 256 := by
    rw [← Text.length_bytes, Text.bytes_eq_flatMap, hchars]
    decide +kernel
  have hother : ∀ short : String, short.utf8ByteSize ≠ 256 → path ≠ short :=
    fun short hshort heq => hshort (heq ▸ hsize)
  have hnames : Path.names path = [] ++ [path] := by
    have hname : Path.IsName path := ⟨hother "" (by decide), by rw [hchars]; decide⟩
    have hsingle := Path.names_intercalate (List.forall_mem_singleton.2 hname)
    rwa [String.intercalate_singleton] at hsingle
  have hslash : Path.endsWithSlash path = false := by
    rw [Path.endsWithSlash, hchars, List.getLast?_replicate]
    rfl
  have hblank : requirePath path = .ok () := by
    rw [requirePath, Text.isBlankText, hchars]
    decide
  have husable : IsUsable path := ⟨by rw [hchars]; decide, by rw [hsize]; decide⟩
  have hordinary : Path.IsOrdinary path := ⟨hother "." (by decide), hother ".." (by decide)⟩
  have hlong : longestName < path.utf8ByteSize := by rw [hsize]; decide
  have hleads : empty.Leads [] [] [] := .arrived []
  obtain ⟨hvacant, hrefused⟩ := refused_of_overlong husable hnames hleads hordinary hslash hlong
  refine ⟨hblank, hvacant, writeText_of_requirePath hblank _ _ _ (hrefused _ _), fun hiff => ?_⟩
  cases (hiff.1 (failed_error _ _ _)).1

end FileTree

end Ensemble
