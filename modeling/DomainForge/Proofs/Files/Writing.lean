import DomainForge.CommandLine.Run
import DomainForge.Proofs.Generation
import Mathlib.Logic.Function.Basic

/-!
# What a run leaves on a disk

A run writes the generated files one after another, and the test whether a file is there sees what
the run itself has written. So files that go to one place are treated differently by the two rules:
the last one counts if files are overwritten, and the first one if existing files are skipped.

This is shown on disks that map places to contents (`Store`), where every directory can be made and
every file can be written. Which paths lead to one place is left open. One file is a step
(`writeFile_run`); what a run leaves at a place is told by what was there and by the files that go
there (`save_overwrite`, `save_skipExisting`), and all else about repeated runs follows from that.
-/

namespace DomainForge

/-- A generated file as what a run writes: its path and its content. -/
def OutputFile.entry (file : OutputFile) : String × String :=
  (file.path, file.content)

/-- The contents of files by their places. -/
abbrev Store (Place : Type) := Place → Option String

/-- An action that only looks at its state. -/
def Reads {σ α : Type} (action : StateM σ α) : Prop :=
  ∀ state, (action.run state).2 = state

namespace Reads

variable {σ α β : Type}

theorem pure (result : α) : Reads (Pure.pure result : StateM σ α) :=
  fun _ => rfl

/-- An action leaves what is left before something that only looks. -/
theorem run_bind (action : StateM σ α) {next : α → StateM σ β}
    (hnext : ∀ result, Reads (next result)) (state : σ) :
    ((action >>= next).run state).2 = (action.run state).2 :=
  hnext (action.run state).1 (action.run state).2

theorem bind {action : StateM σ α} {next : α → StateM σ β} (haction : Reads action)
    (hnext : ∀ result, Reads (next result)) : Reads (action >>= next) :=
  fun state => (run_bind action hnext state).trans (haction state)

end Reads

namespace Store

variable {Place : Type} [DecidableEq Place]

/-- A store as a disk, given the place that each path leads to. -/
def disk (placeOf : String → Place) : Disk (StateM (Store Place)) where
  read? path := return (← get) (placeOf path)
  isPresent path := return ((← get) (placeOf path)).isSome
  makeDirectories _ := pure true
  write path content := do
    modify fun store => Function.update store (placeOf path) (some content)
    pure true

/-! ## One file -/

/-- Whether a rule leaves alone what is at a place. -/
def keeps (rule : WriteRule) (store : Store Place) (target : Place) : Bool :=
  rule == .skipExisting && (store target).isSome

/-- A store after one file has been written by a rule. -/
def put (rule : WriteRule) (store : Store Place) (target : Place) (content : String) :
    Store Place :=
  if keeps rule store target then store else Function.update store target (some content)

theorem leaves_run (placeOf : String → Place) (rule : WriteRule) (path : String)
    (store : Store Place) :
    ((disk placeOf).leaves rule path).run store = (keeps rule store (placeOf path), store) := by
  cases rule <;> rfl

theorem create_run (placeOf : String → Place) (path content : String) (store : Store Place) :
    ((disk placeOf).create path content).run store =
      (.ok (), Function.update store (placeOf path) (some content)) := by
  unfold Disk.create Disk.makeParent
  cases Path.parent? path <;> rfl

/-- One file: it is skipped if its place is kept, and else put there. -/
theorem writeFile_run (placeOf : String → Place) (rule : WriteRule) (path content : String)
    (store : Store Place) :
    ((disk placeOf).writeFile rule path content).run store =
      (.ok (if keeps rule store (placeOf path) then .skipped else .written),
        put rule store (placeOf path) content) := by
  unfold Disk.writeFile put
  rw [StateT.run_bind, leaves_run]
  cases keeps rule store (placeOf path) with
  | true => rfl
  | false =>
    exact congrArg (fun outcome => (outcome.1.map fun _ => WriteResult.written, outcome.2))
      (create_run placeOf path content store)

/-- What overwrites comes before what was there. -/
theorem put_overwrite (store : Store Place) (place target : Place) (content : String) :
    put .overwrite store place content target =
      (if place = target then some content else none).or (store target) := by
  by_cases h : place = target
  · subst h
    simp [put, keeps]
  · simp [put, keeps, h, Function.update_of_ne (Ne.symm h)]

/-- What was there comes before what is put. -/
theorem put_skipExisting (store : Store Place) (place target : Place) (content : String) :
    put .skipExisting store place content target =
      (store target).or (if place = target then some content else none) := by
  unfold put keeps
  by_cases h : place = target
  · subst h
    cases hstore : store place <;> simp [hstore]
  · cases (store place).isSome <;> simp [h, Function.update_of_ne (Ne.symm h)]

/-! ## Files in order -/

/-- A store after entries have been written in order. `place` tells the place of a path. -/
def save (rule : WriteRule) (place : String → Place) (store : Store Place)
    (entries : List (String × String)) : Store Place :=
  entries.foldl (fun store entry => put rule store (place entry.1) entry.2) store

/-- What an entry has for a place. -/
def contentFor (place : String → Place) (target : Place) (entry : String × String) :
    Option String :=
  if place entry.1 = target then some entry.2 else none

/-- The content of the first entry for a place. -/
def firstFor (place : String → Place) (entries : List (String × String)) (target : Place) :
    Option String :=
  entries.findSome? (contentFor place target)

/-- The content of the last entry for a place. -/
def lastFor (place : String → Place) (entries : List (String × String)) (target : Place) :
    Option String :=
  entries.reverse.findSome? (contentFor place target)

section Laws

variable (place : String → Place) (entries : List (String × String)) (store : Store Place)

/-- The last file for a place wins. -/
theorem save_overwrite (target : Place) :
    save .overwrite place store entries target =
      (lastFor place entries target).or (store target) := by
  induction entries generalizing store with
  | nil => rfl
  | cons entry rest ih =>
    have hlast : lastFor place (entry :: rest) target =
        (lastFor place rest target).or (contentFor place target entry) := by
      unfold lastFor
      rw [List.reverse_cons, List.findSome?_append]
      simp
    have hrest := ih (put .overwrite store (place entry.1) entry.2)
    rw [put_overwrite, ← contentFor] at hrest
    rw [hlast, Option.or_assoc]
    exact hrest

/-- What was there wins, and then the first file for a place. -/
theorem save_skipExisting (target : Place) :
    save .skipExisting place store entries target =
      (store target).or (firstFor place entries target) := by
  induction entries generalizing store with
  | nil => simp [save, firstFor]
  | cons entry rest ih =>
    have hfirst : firstFor place (entry :: rest) target =
        (contentFor place target entry).or (firstFor place rest target) := by
      unfold firstFor
      rw [List.findSome?_cons]
      cases contentFor place target entry <;> rfl
    have hrest := ih (put .skipExisting store (place entry.1) entry.2)
    rw [put_skipExisting, ← contentFor] at hrest
    rw [hfirst, ← Option.or_assoc]
    exact hrest

/-- By either rule, a run leaves something where something was, and at the places of its entries. -/
theorem isSome_save (rule : WriteRule) (target : Place) :
    (save rule place store entries target).isSome =
      ((store target).isSome || entries.any (place ·.1 = target)) := by
  have hfor : ∀ found : List (String × String),
      (found.findSome? (contentFor place target)).isSome = found.any (place ·.1 = target) := by
    intro found
    rw [List.isSome_findSome?]
    refine congrArg found.any (funext fun entry => ?_)
    by_cases h : place entry.1 = target <;> simp [contentFor, h]
  cases rule with
  | overwrite =>
    rw [save_overwrite, Option.isSome_or, lastFor, hfor, List.any_reverse, Bool.or_comm]
  | skipExisting => rw [save_skipExisting, Option.isSome_or, firstFor, hfor]

end Laws

/-- The paths of the entries at some positions, in order. -/
def pathsWhere (entries : List (String × String)) (chosen : Nat → String × String → Bool) :
    List String :=
  (entries.zipIdx.filter fun found => chosen found.2 found.1).map (·.1.1)

theorem pathsWhere_cons (entry : String × String) (rest : List (String × String))
    (chosen : Nat → String × String → Bool) :
    pathsWhere (entry :: rest) chosen =
      (if chosen 0 entry then [entry.1] else []) ++ pathsWhere rest fun i => chosen (i + 1) := by
  unfold pathsWhere
  rw [List.zipIdx_cons, Nat.zero_add, List.zipIdx_succ, List.filter_cons, List.filter_map]
  split <;> simp [Function.comp_def]

/-- What a run tells about entries: each is kept by the rule or not, in the store that those before
it have left. -/
def summary (rule : WriteRule) (place : String → Place) (store : Store Place)
    (entries : List (String × String)) : WriteSummary :=
  { written := pathsWhere entries fun i entry =>
      !keeps rule (save rule place store (entries.take i)) (place entry.1)
    skipped := pathsWhere entries fun i entry =>
      keeps rule (save rule place store (entries.take i)) (place entry.1) }

/-- The summary of a run notes its first file and goes on from the store after it. -/
theorem summary_cons (rule : WriteRule) (place : String → Place) (store : Store Place)
    (entry : String × String) (rest : List (String × String)) :
    summary rule place store (entry :: rest) =
      (summary rule place (put rule store (place entry.1) entry.2) rest).note entry.1
        (if keeps rule store (place entry.1) then .skipped else .written) := by
  unfold summary
  rw [pathsWhere_cons, pathsWhere_cons]
  simp only [List.take_zero, List.take_succ_cons, save, List.foldl_nil, List.foldl_cons]
  by_cases hkeeps : keeps rule store (place entry.1) = true
  · simp [WriteSummary.note, hkeeps]
  · simp [WriteSummary.note, hkeeps]

/-- All files: by induction over them, with the store passed from one to the next. -/
theorem writeFiles_run (placeOf : String → Place) (rule : WriteRule) (directory : String)
    (files : List OutputFile) (store : Store Place) :
    ((disk placeOf).writeFiles rule directory files).run store =
      (.ok (summary rule (fun path => placeOf (Path.join directory path)) store
          (files.map OutputFile.entry)),
        save rule (fun path => placeOf (Path.join directory path)) store
          (files.map OutputFile.entry)) := by
  induction files generalizing store with
  | nil => rfl
  | cons file rest ih =>
    let result := if keeps rule store (placeOf (Path.join directory file.path)) then
      WriteResult.skipped else .written
    have hrest := ih (put rule store (placeOf (Path.join directory file.path)) file.content)
    unfold Disk.writeFiles
    rw [StateT.run_bind, writeFile_run, List.map_cons, summary_cons]
    exact congrArg (fun outcome => (outcome.1.map (·.note file.path result), outcome.2)) hrest

/-! ## Repeated runs -/

theorem pathsWhere_congr {entries : List (String × String)}
    {chosen other : Nat → String × String → Bool}
    (h : ∀ i, ∀ entry ∈ entries, chosen i entry = other i entry) :
    pathsWhere entries chosen = pathsWhere entries other := by
  refine congrArg (List.map _) (List.filter_congr fun found hfound => ?_)
  exact h found.2 found.1 (List.fst_mem_of_mem_zipIdx hfound)

theorem pathsWhere_true (entries : List (String × String)) :
    pathsWhere entries (fun _ _ => true) = entries.map (·.1) := by
  have hentries := congrArg (List.map (·.1)) (List.zipIdx_map_fst 0 entries)
  rw [List.map_map] at hentries
  rw [pathsWhere, List.filter_eq_self.2 fun _ _ => rfl]
  exact hentries

theorem pathsWhere_false (entries : List (String × String)) :
    pathsWhere entries (fun _ _ => false) = [] := by
  simp [pathsWhere]

/-- Whether there was nothing at the place of an entry, and no entry before it goes there. -/
def isNew (place : String → Place) (store : Store Place) (entries : List (String × String))
    (i : Nat) (entry : String × String) : Bool :=
  (store (place entry.1)).isNone &&
    (entries.take i).all fun earlier => place earlier.1 ≠ place entry.1

section Summary

variable (place : String → Place) (store : Store Place) (entries : List (String × String))

theorem summary_overwrite :
    summary .overwrite place store entries = { written := entries.map (·.1), skipped := [] } := by
  have hkeeps : ∀ (store : Store Place) (target : Place), keeps .overwrite store target = false :=
    fun _ _ => rfl
  simp only [summary, hkeeps, Bool.not_false, pathsWhere_true, pathsWhere_false]

/-- A file is kept if its place was taken at first or by an earlier file. -/
theorem keeps_skipExisting (i : Nat) (entry : String × String) :
    keeps .skipExisting (save .skipExisting place store (entries.take i)) (place entry.1) =
      !isNew place store entries i entry := by
  have hkeeps : ∀ store : Store Place,
      keeps .skipExisting store (place entry.1) = (store (place entry.1)).isSome := fun _ => rfl
  rw [hkeeps, isSome_save, isNew, Bool.not_and, List.not_all_eq_any_not]
  simp

/-- Without overwriting, the new files are written and the others skipped. -/
theorem summary_skipExisting :
    summary .skipExisting place store entries =
      { written := pathsWhere entries (isNew place store entries)
        skipped := pathsWhere entries fun i entry => !isNew place store entries i entry } := by
  simp only [summary, keeps_skipExisting, Bool.not_not]

section Taken

variable {place store entries} (htaken : ∀ entry ∈ entries, (store (place entry.1)).isSome = true)

include htaken

theorem save_of_taken : save .skipExisting place store entries = store := by
  induction entries with
  | nil => rfl
  | cons entry rest ih =>
    have hput : put .skipExisting store (place entry.1) entry.2 = store :=
      if_pos (htaken entry List.mem_cons_self)
    have hsave : save .skipExisting place store (entry :: rest) =
        save .skipExisting place (put .skipExisting store (place entry.1) entry.2) rest := rfl
    rw [hsave, hput]
    exact ih fun other hother => htaken other (List.mem_cons_of_mem _ hother)

theorem summary_of_taken :
    summary .skipExisting place store entries =
      { written := [], skipped := entries.map (·.1) } := by
  have hold : ∀ i, ∀ entry ∈ entries, isNew place store entries i entry = false := by
    intro i entry hentry
    simp [isNew, Option.isSome_iff_ne_none.1 (htaken entry hentry)]
  have hskipped : ∀ i, ∀ entry ∈ entries, (!isNew place store entries i entry) = true := by
    intro i entry hentry
    rw [hold i entry hentry]
    rfl
  rw [summary_skipExisting, pathsWhere_congr hold, pathsWhere_congr hskipped, pathsWhere_false,
    pathsWhere_true]

end Taken

/-- After a run every place is taken. -/
theorem taken_save (rule : WriteRule) :
    ∀ entry ∈ entries, (save rule place store entries (place entry.1)).isSome = true := by
  intro entry hentry
  rw [isSome_save, Bool.or_eq_true, List.any_eq_true]
  exact .inr ⟨entry, hentry, decide_eq_true rfl⟩

/-- A second run changes nothing. -/
theorem save_overwrite_twice :
    save .overwrite place (save .overwrite place store entries) entries =
      save .overwrite place store entries := by
  funext target
  rw [save_overwrite, save_overwrite, ← Option.or_assoc, Option.or_self]

end Summary

/-! ## Generated files -/

section Output

variable (placeOf : String → Place) (directory : String)

/-- What a run leaves and tells. -/
def runOf (found : Preparation) (rule : WriteRule) (store : Store Place) :
    Except OutputError WriteSummary × Store Place :=
  ((disk placeOf).writeOutput rule directory found).run store

/-- The place that a path of the output directory leads to. -/
def placeIn (path : String) : Place :=
  placeOf (Path.join directory path)

/-- A run whose files are generated writes them all. -/
theorem runOf_eq {found : Preparation} {files : List OutputFile} (hfiles : found.files = .ok files)
    (rule : WriteRule) (store : Store Place) :
    runOf placeOf directory found rule store =
      (.ok (summary rule (placeIn placeOf directory) store (files.map OutputFile.entry)),
        save rule (placeIn placeOf directory) store (files.map OutputFile.entry)) := by
  unfold runOf Disk.writeOutput
  rw [hfiles]
  exact congrArg (fun outcome => (outcome.1.mapError OutputError.write, outcome.2))
    (writeFiles_run placeOf rule directory files store)

theorem runOf_error {found : Preparation} {fault : GenerationError}
    (hfiles : found.files = .error fault) (rule : WriteRule) (store : Store Place) :
    runOf placeOf directory found rule store = (.error (.generation fault), store) := by
  unfold runOf Disk.writeOutput
  rw [hfiles]
  rfl

open CommandLine

/-- Preparing a model writes nothing. -/
theorem reads_prepareModel [DocumentFormat] [PatternLanguage] (path : String)
    (overrides : Overrides) :
    Reads ((disk placeOf).prepareModel path overrides) := by
  have hread : ∀ path, Reads ((disk placeOf).read? path) := fun _ _ => rfl
  have hpath : Reads ((disk placeOf).settingsPath? overrides) := by
    unfold Disk.settingsPath?
    cases overrides.settingsPath with
    | some path => exact .pure _
    | none => exact .bind (fun _ => rfl) fun _ => .pure _
  refine .bind (.bind hpath fun found => ?_) fun settings => ?_
  · cases found with
    | none => exact .pure _
    | some path =>
      refine .bind (.bind (hread path) fun text => ?_) fun settings => ?_
      · cases text <;> exact .pure _
      · cases settings <;> exact .pure _
  · cases settings with
    | error fault => exact .pure _
    | ok settings =>
      refine .bind (.bind (hread _) fun text => ?_) fun model => ?_
      · cases text <;> exact .pure _
      · cases model <;> exact .pure _

/-- A dry run shows the files and leaves the store alone. -/
theorem generate_run [DocumentFormat] [PatternLanguage] {found : Preparation}
    {files : List OutputFile} (hfiles : found.files = .ok files) {path : String}
    {overrides : Overrides} {store : Store Place}
    (hfound : (((disk placeOf).prepareModel path overrides).run store).1 = .ok found)
    (quiet skipExisting : Bool) :
    ((disk placeOf).generate quiet path overrides directory true skipExisting).run store =
        ({ output := (Report.ofPreview files).output
           diagnostics := Disk.warningLines quiet found }, store) ∧
      (((disk placeOf).generate quiet path overrides directory false skipExisting).run store).2 =
        (runOf placeOf directory found (if skipExisting then .skipExisting else .overwrite)
          store).2 := by
  have hprepare : ((disk placeOf).prepareModel path overrides).run store = (.ok found, store) :=
    Prod.ext hfound (reads_prepareModel placeOf path overrides store)
  unfold Disk.generate
  rw [StateT.run_bind, StateT.run_bind, hprepare]
  constructor
  · have hpreview : Disk.preview found = .ofReport (.ofPreview files) := by
      unfold Disk.preview
      rw [hfiles]
    refine (congrArg (fun outcome => ({ outcome with
      diagnostics := Disk.warningLines quiet found ++ outcome.diagnostics }, store))
        hpreview).trans ?_
    simp [CommandResult.ofReport, Report.ofPreview]
  · refine Reads.run_bind ((disk placeOf).writeOutput _ directory found) (fun outcome => ?_) store
    cases outcome <;> exact .pure _

/-- How the runs of a generator treat what it has to write. -/
structure WritesEntries [DocumentFormat] [PatternLanguage] (found : Preparation)
    (entries : List (String × String)) : Prop where
  /-- Overwriting, the last entry for a place counts, and all are written. -/
  overwrite : ∀ store, runOf placeOf directory found .overwrite store =
    (.ok { written := entries.map (·.1), skipped := [] },
      fun target => (lastFor (placeIn placeOf directory) entries target).or (store target))
  /-- Skipping existing files, what was there counts, and after it the first entry for a place. An
  entry is written if it is new, and else it is skipped. -/
  skipExisting : ∀ store, runOf placeOf directory found .skipExisting store =
    (.ok {
        written := pathsWhere entries (isNew (placeIn placeOf directory) store entries)
        skipped := pathsWhere entries fun i entry =>
          !isNew (placeIn placeOf directory) store entries i entry },
      fun target => (store target).or (firstFor (placeIn placeOf directory) entries target))
  overwrite_twice : ∀ store, runOf placeOf directory found .overwrite
      (runOf placeOf directory found .overwrite store).2 =
    runOf placeOf directory found .overwrite store
  /-- After a run by either rule there is nothing new. -/
  skipExisting_after : ∀ rule store, runOf placeOf directory found .skipExisting
      (runOf placeOf directory found rule store).2 =
    (.ok { written := [], skipped := entries.map (·.1) },
      (runOf placeOf directory found rule store).2)
  /-- The command shows the entries in order and leaves the store alone if it is told to only show
  them, and else it puts them into the store in the same order. -/
  dryRun : ∀ (quiet skip : Bool) (path : String) (overrides : Overrides) (store : Store Place),
    (((disk placeOf).prepareModel path overrides).run store).1 = .ok found →
      ((disk placeOf).generate quiet path overrides directory true skip).run store =
          ({ output := entries.flatMap (fun entry => [Report.divider entry.1, entry.2]) ++
              [Report.divider "Summary",
                Report.counted entries.length "file" ++ " would be generated"]
             diagnostics := Disk.warningLines quiet found }, store) ∧
        (((disk placeOf).generate quiet path overrides directory false skip).run store).2 =
          entries.foldl (fun store entry =>
            put (if skip then .skipExisting else .overwrite) store
              (placeIn placeOf directory entry.1) entry.2) store

variable {placeOf directory}

theorem writesEntries_of_files [DocumentFormat] [PatternLanguage] {found : Preparation}
    {files : List OutputFile} (hfiles : found.files = .ok files) :
    WritesEntries placeOf directory found (files.map OutputFile.entry) := by
  have hrun := runOf_eq placeOf directory hfiles
  refine ⟨?_, ?_, ?_, ?_, ?_⟩
  · intro store
    rw [hrun, summary_overwrite, funext (save_overwrite _ _ store)]
  · intro store
    rw [hrun, summary_skipExisting, funext (save_skipExisting _ _ store)]
  · intro store
    rw [hrun, hrun, save_overwrite_twice, summary_overwrite, summary_overwrite]
  · intro rule store
    have htaken := taken_save (placeIn placeOf directory) store (files.map OutputFile.entry) rule
    rw [hrun, hrun, summary_of_taken htaken, save_of_taken htaken]
  · intro quiet skip path overrides store hfound
    obtain ⟨hshown, hwritten⟩ := generate_run placeOf directory hfiles hfound quiet skip
    rw [hshown, hwritten, hrun]
    refine ⟨?_, rfl⟩
    simp [Report.ofPreview, List.flatMap_map, OutputFile.entry]

variable (placeOf directory)

/-- **Which file is left at a path.** On a disk where nothing fails, a run that overwrites leaves
the last file of each path, and a run that skips existing files leaves what was there, or else the
first one. Nothing else changes, a second run changes nothing, and a dry run shows what a run
writes. Without files nothing is written at all, but a model that has been prepared has files. -/
theorem runs_writeEntries [DocumentFormat] [PatternLanguage] :
    (∀ found : Preparation,
      (∃ fault, found.files = .error fault ∧ ∀ rule store,
        runOf placeOf directory found rule store = (.error (.generation fault), store)) ∨
      ∃ files, found.files = .ok files ∧
        WritesEntries placeOf directory found (files.map OutputFile.entry)) ∧
    ∀ model settings, ∃ found files, prepare model settings = .ok found ∧
      found.files = .ok files ∧
        WritesEntries placeOf directory found (files.map OutputFile.entry) := by
  constructor
  · intro found
    cases hfiles : found.files with
    | error fault => exact .inl ⟨fault, rfl, runOf_error placeOf directory hfiles⟩
    | ok files => exact .inr ⟨files, rfl, writesEntries_of_files hfiles⟩
  · intro model settings
    have hfiles := files_prepared model settings
    exact ⟨_, _, prepare_eq_ok model settings, hfiles, writesEntries_of_files hfiles⟩

end Output

end Store

end DomainForge
