import IssueTracker.Proofs.Command.Parts
import IssueTracker.Proofs.Store.Readable
import IssueTracker.Proofs.Terminal.Line

/-!
# Commands that pass a value of no vocabulary

A type, status or priority that is not in its vocabulary is refused before anything is changed.  The message
is printed as markup, so what it holds of the value is shown as it is for a value that is plain text.  A
value with a tag is shown without it, and one that closes a tag ends the command with a fault
(`unsupported_reported`).
-/

namespace IssueTracker

/-! ## Refusals -/

theorem Vocabulary.check_eq_error {v : Vocabulary} {value : String}
    (unsupported : Text.lower (Text.strip value) ∉ v.words) :
    v.check (some value) = .error (.unsupported v (some value)) := by
  rw [check, Option.getD_some]
  exact if_neg (by simpa using unsupported)

/-- A command that passes a value for a field with a vocabulary, with nothing wrong that is looked at before
    it: the title of a new issue and the issue that is edited are there, and a priority comes after a type
    that is accepted. -/
inductive Passes (s : Store) (value : String) : Vocabulary → Command → Prop
  | createType {n : NewIssue} {mine : Bool} (titled : Text.strip (n.title.getD "") ≠ "")
      (passed : n.type = some value) : Passes s value .type (.create n mine)
  | createPriority {n : NewIssue} {mine : Bool} (titled : Text.strip (n.title.getD "") ≠ "")
      (typed : Text.lower (Text.strip (n.type.getD "")) ∈ issueTypes)
      (passed : n.priority = some value) : Passes s value .priority (.create n mine)
  | editType {id : Int} {c : Changes} (there : ∃ i, s.find? id = .ok (some i))
      (titled : ∀ title, c.title = some title → Text.strip title ≠ "")
      (passed : c.type = some value) : Passes s value .type (.edit id c)
  | editPriority {id : Int} {c : Changes} (there : ∃ i, s.find? id = .ok (some i))
      (titled : ∀ title, c.title = some title → Text.strip title ≠ "")
      (typed : ∀ type, c.type = some type → Text.lower (Text.strip type) ∈ issueTypes)
      (passed : c.priority = some value) : Passes s value .priority (.edit id c)
  | setStatus {id : Int} : Passes s value .status (.setStatus id value)
  | list {all : Bool} {format : Format} (filled : value ≠ "") :
      Passes s value .status (.list (some value) all format)

section
variable {value : String} {n : NewIssue} {c : Changes} {s : Store} {id : Int} {now : Moment}

theorem checkTitle_titled {title : String} (titled : Text.strip title ≠ "") :
    checkTitle title = .ok (Text.strip title) :=
  checkTitle_eq_ok.mpr ⟨rfl, titled⟩

theorem NewIssue.check_type {e : StoreError} (titled : Text.strip (n.title.getD "") ≠ "")
    (fails : Vocabulary.type.check n.type = .error e) : n.check now = .error e := by
  rw [NewIssue.check, checkTitle_titled titled, fails]
  rfl

theorem NewIssue.check_priority {e : StoreError} (titled : Text.strip (n.title.getD "") ≠ "")
    (typed : Text.lower (Text.strip (n.type.getD "")) ∈ issueTypes)
    (fails : Vocabulary.priority.check n.priority = .error e) : n.check now = .error e := by
  have accepted : Vocabulary.type.check n.type = .ok (Text.lower (Text.strip (n.type.getD ""))) :=
    Vocabulary.check_eq_ok.mpr ⟨rfl, typed⟩
  rw [NewIssue.check, checkTitle_titled titled, accepted, fails]
  rfl

private theorem exists_mapM_checkTitle {title : Option String}
    (titled : ∀ t, title = some t → Text.strip t ≠ "") : ∃ checked, title.mapM checkTitle = .ok checked := by
  cases title with
  | none => exact ⟨none, rfl⟩
  | some t => exact ⟨_, optionMapM_eq_ok_some.mpr ⟨t, rfl, checkTitle_titled (titled t rfl)⟩⟩

theorem Changes.check_type (titled : ∀ title, c.title = some title → Text.strip title ≠ "")
    (passed : c.type = some value) (unsupported : Text.lower (Text.strip value) ∉ issueTypes) :
    c.check = .error (.unsupported .type (some value)) := by
  obtain ⟨title, checked⟩ := exists_mapM_checkTitle titled
  have fails := Vocabulary.check_eq_error (v := .type) unsupported
  rw [Changes.check, checked, passed]
  simp only [Option.mapM_some, fails]
  rfl

theorem Changes.check_priority (titled : ∀ title, c.title = some title → Text.strip title ≠ "")
    (typed : ∀ type, c.type = some type → Text.lower (Text.strip type) ∈ issueTypes)
    (passed : c.priority = some value) (unsupported : Text.lower (Text.strip value) ∉ priorities) :
    c.check = .error (.unsupported .priority (some value)) := by
  obtain ⟨title, checked⟩ := exists_mapM_checkTitle titled
  obtain ⟨type, accepted⟩ : ∃ type, c.type.mapM (fun type => Vocabulary.type.check (some type)) = .ok type := by
    cases is : c.type with
    | none => exact ⟨none, rfl⟩
    | some t =>
      exact ⟨_, optionMapM_eq_ok_some.mpr ⟨t, rfl, Vocabulary.check_eq_ok.mpr ⟨rfl, typed t is⟩⟩⟩
  have fails := Vocabulary.check_eq_error (v := .priority) unsupported
  rw [Changes.check, checked, accepted, passed]
  simp only [Option.mapM_some, fails]
  rfl

theorem Database.update_eq_error {i : Issue} {e : StoreError} (there : s.find? id = .ok (some i))
    (fails : c.check = .error e) : (ready s).update id c now = .error e := by
  have found : (ready s).get id = .ok i := get_eq_ok.mpr ⟨s, rfl, there⟩
  rw [update, found, fails]
  rfl

theorem Database.list_eq_error {e : StoreError} (readable : s.IsReadable) (filled : value ≠ "")
    (fails : Vocabulary.status.check (some value) = .error e) : (ready s).list (some value) = .error e := by
  have each : ∀ r ∈ s.records, ∃ i, s.issueOf r = .ok i ∧ s.issueOf r = .ok i := fun r member =>
    (s.issueOf_readable (readable r member)).imp fun _ reads => ⟨reads, reads⟩
  obtain ⟨issues, reads, _⟩ := exists_mapM_eq_ok each
  refine bind_eq_error.mpr (Or.inr ⟨s, rfl, bind_eq_error.mpr (Or.inr ⟨issues, reads, ?_⟩)⟩)
  split
  · rename_i same
    cases same
  · rename_i same
    exact absurd (Option.some.inj same) filled
  · rename_i status same
    cases same
    exact bind_eq_error.mpr (Or.inl fails)

end

/-! ## Commands -/

/-- A command line whose command is carried out on the project in a directory: the settings there can be
    read, or are not looked at. -/
structure CarriesOut [Json.Nesting] (w : Workspace) (arguments : List String) (root : Path)
    (wanted : Command) : Prop where
  line : ∃ line, CommandLine.read arguments = .ok line ∧
    Command.read line.name line.arguments = .ok wanted ∧
    line.directory.or (w.find none) = some root ∧
    (line.plain = false → ∃ settings,
      Settings.load (w.settingsFile (ProjectPaths.ofRoot root).settings) = .ok settings)
  there : w.isDirectory root

namespace Run

/-- How a command ends that reports an error in markup, and the session after it. -/
def failed (s : Session) (markup : String) : Ending × Session :=
  match Terminal.shown ("[bold red]Error:[/] " ++ markup) with
  | .ok text => (.exit 1, s.printing text)
  | .error e => (.fault (.markup e), s)

variable {α β : Type} {s : Session} {root : Path} {wanted : Command} {value markup : String} {v : Vocabulary}
  {store : Store}

/-- Such a command exits with code 1, also by a fault, and changes nothing. -/
theorem failed_code (s : Session) (markup : String) :
    (failed s markup).1.code = 1 ∧ (failed s markup).2.workspace = s.workspace := by
  rw [failed]
  cases Terminal.shown ("[bold red]Error:[/] " ++ markup) with
  | ok text => exact ⟨rfl, rfl⟩
  | error e => exact ⟨rfl, rfl⟩

theorem fail_run : (fail markup : Run α).run s = (.error (failed s markup).1, (failed s markup).2) := by
  rw [failed]
  cases shows : Terminal.shown ("[bold red]Error:[/] " ++ markup) with
  | ok text => exact failWith_run shows
  | error e =>
    refine run_bind_error ?_
    simp only [print, shows]
    rfl

/-- How a command ends when an operation on the store fails: with what is reported of it, or with a fault. -/
def refused (isReported : StoreError → Bool) (s : Session) (e : StoreError) : Ending × Session :=
  if isReported e then failed s e.message else (.fault (.failure (.store e)), s)

/-- An operation that fails ends its command. -/
theorem stored_error {isReported : StoreError → Bool} {outcome : Except StoreError α} {e : StoreError}
    (fails : outcome = .error e) (rest : α → Run β) : (stored isReported outcome >>= rest).run s =
      (.error (refused isReported s e).1, (refused isReported s e).2) := by
  rw [fails, stored, refused]
  split
  · exact run_bind_error fail_run
  · exact run_bind_error rfl

theorem change_error {paths : ProjectPaths} {id : Int} {isReported : StoreError → Bool}
    {operation : Database → Moment → Except StoreError Database} {e : StoreError}
    (isReady : s.workspace.database paths.database = .ready store)
    (fails : operation (.ready store) s.workspace.clock = .error e) :
    (change paths id isReported operation).run s =
      (.error (refused isReported s e).1, (refused isReported s e).2) := by
  rw [change, run_bind_ok workspace_run, run_bind_ok database_eq, isReady]
  exact stored_error fails _

/-- A new issue that is refused, whoever it is assigned to, ends its command. -/
theorem create_error {paths : ProjectPaths} {n : NewIssue} {mine : Bool} {e : StoreError}
    (isReady : s.workspace.database paths.database = .ready store)
    (fails : ∀ assignee, ({ n with assignee } : NewIssue).check s.workspace.clock = .error e) :
    (create paths n mine).run s =
      (.error (refused isAboutValue s e).1, (refused isAboutValue s e).2) := by
  rw [create, run_bind_ok workspace_run, run_bind_ok database_eq, isReady]
  refine stored_error (bind_eq_error.mpr (Or.inl ?_)) _
  cases mine
  · exact fails n.assignee
  · exact fails (some s.workspace.user)

/-- Nothing is done before the value is refused, and nothing after it. -/
theorem command_unsupported [Json.Nesting] {asked : Option Path} (there : s.workspace.isDirectory root)
    (isReady : s.workspace.database (ProjectPaths.ofRoot root).database = .ready store)
    (readable : store.IsReadable) (passes : Passes store value v wanted)
    (unsupported : Text.lower (Text.strip value) ∉ v.words) :
    (command asked (some root) wanted).run s =
      (.error (failed s (StoreError.unsupported v (some value)).message).1,
        (failed s (StoreError.unsupported v (some value)).message).2) := by
  have fails := Vocabulary.check_eq_error unsupported
  -- All of these commands report the error, whatever else they do.
  have reports (isReported : StoreError → Bool) (reported : isReported (.unsupported v (some value)) = true) :
      failed s (StoreError.unsupported v (some value)).message =
        refused isReported s (.unsupported v (some value)) := (if_pos reported).symm
  cases passes with
  | createType titled passed =>
    rw [← passed] at fails
    rw [reports isAboutValue rfl, command, run_bind_ok (projectPaths_run there), ← passed]
    exact create_error isReady fun _ => NewIssue.check_type titled fails
  | createPriority titled typed passed =>
    rw [← passed] at fails
    rw [reports isAboutValue rfl, command, run_bind_ok (projectPaths_run there), ← passed]
    exact create_error isReady fun _ => NewIssue.check_priority titled typed fails
  | @editType id c found titled passed =>
    obtain ⟨i, found⟩ := found
    have refused (now : Moment) :
        (Database.ready store).update id c now = .error (.unsupported .type (some value)) :=
      Database.update_eq_error found (Changes.check_type titled passed unsupported)
    rw [reports isAboutEither rfl, command, run_bind_ok (projectPaths_run there)]
    exact run_bind_error (change_error isReady (refused _))
  | @editPriority id c found titled typed passed =>
    obtain ⟨i, found⟩ := found
    have refused (now : Moment) :
        (Database.ready store).update id c now = .error (.unsupported .priority (some value)) :=
      Database.update_eq_error found (Changes.check_priority titled typed passed unsupported)
    rw [reports isAboutEither rfl, command, run_bind_ok (projectPaths_run there)]
    exact run_bind_error (change_error isReady (refused _))
  | setStatus =>
    rw [reports isAboutEither rfl, command, run_bind_ok (projectPaths_run there)]
    exact run_bind_error (change_error isReady (bind_eq_error.mpr (Or.inl fails)))
  | list filled =>
    rw [reports isAboutValue rfl, command, run_bind_ok (projectPaths_run there), list, run_bind_ok database_eq, isReady]
    exact stored_error (Database.list_eq_error readable filled fails) _

/-- The command line does what its command does. -/
theorem commandLine_run [Json.Nesting] {arguments : List String}
    (carries : CarriesOut s.workspace arguments root wanted) :
    ∃ asked, (commandLine arguments).run s = (command asked (some root) wanted).run s := by
  obtain ⟨line, reads, wants, found, looks⟩ := carries.line
  refine ⟨line.directory, ?_⟩
  have finds : (project line.directory line.plain).run s = (.ok (some root), s) := by
    rw [project, run_bind_ok workspace_run, found]
    dsimp only
    rw [carries.there, Bool.true_and]
    cases plain : line.plain with
    | true => rfl
    | false =>
      obtain ⟨settings, loads⟩ := looks plain
      have reads : (Run.settings (ProjectPaths.ofRoot root).settings).run s = (.ok settings, s) := by
        rw [Run.settings, run_bind_ok settingsFile_eq, loads]
        rfl
      exact run_bind_ok reads
  rw [commandLine, reads]
  dsimp only
  rw [run_bind_ok finds, wants]

end Run

private theorem toList_unsupported (name value words : String) :
    ("Unsupported " ++ name ++ ": " ++ value ++ " (expected one of: " ++ words ++ ")").toList =
      ("Unsupported " ++ name ++ ":").toList ++ ' ' :: (value.toList ++ ' ' ::
        ("(expected one of:".toList ++ ' ' :: (words ++ ")").toList)) := by
  simp

/-- The message about a plain value is plain text. -/
theorem isPlain_unsupported {value : String} (v : Vocabulary) (plain : Terminal.IsPlain value.toList) :
    Terminal.IsPlain (StoreError.unsupported v (some value)).message.toList := by
  have about : Terminal.IsPlain ("Unsupported " ++ v.name ++ ":").toList := by
    cases v <;> exact Terminal.isPlain_of_notMem (by decide) (by decide) (by decide)
  have expected : Terminal.IsPlain "(expected one of:".toList :=
    Terminal.isPlain_of_notMem (by decide) (by decide) (by decide)
  have words : Terminal.IsPlain (", ".intercalate v.words ++ ")").toList := by
    cases v <;> exact Terminal.isPlain_of_notMem (by decide) (by decide) (by decide)
  have noOpening : '[' ∉ ("Unsupported " ++ v.name ++ ":").toList := by cases v <;> decide
  have noClosing : ']' ∉ "(expected one of:".toList ++ ' ' :: (", ".intercalate v.words ++ ")").toList := by
    cases v <;> decide
  have whole := about.append_space
    (plain.append_space (expected.append_space words (Or.inl (by decide))) (Or.inr noClosing)) (Or.inl noOpening)
  exact (congrArg Terminal.IsPlain (toList_unsupported v.name value (", ".intercalate v.words))).mpr whole

/-- A line end or a tab in the message is one of the value. -/
theorem notMem_unsupported {value : String} (v : Vocabulary) {c : Char} (isEnd : c = '\n' ∨ c = '\t')
    (absent : c ∉ value.toList) :
    c ∉ ("Error: " ++ (StoreError.unsupported v (some value)).message).toList := by
  have label : c ∉ "Error: ".toList := by rcases isEnd with rfl | rfl <;> decide
  have about : c ∉ ("Unsupported " ++ v.name ++ ":").toList := by
    rcases isEnd with rfl | rfl <;> cases v <;> decide
  have expected : c ∉ ' ' :: ("(expected one of:".toList ++ ' ' :: (", ".intercalate v.words ++ ")").toList) := by
    rcases isEnd with rfl | rfl <;> cases v <;> decide
  have space : c ≠ ' ' := by rcases isEnd with rfl | rfl <;> decide
  have message : c ∉ (StoreError.unsupported v (some value)).message.toList := by
    refine (congrArg (c ∉ ·) (toList_unsupported v.name value (", ".intercalate v.words))).mpr ?_
    rw [List.mem_append, List.mem_cons, List.mem_append, not_or, not_or, not_or]
    exact ⟨about, space, absent, expected⟩
  rw [String.toList_append, List.mem_append, not_or]
  exact ⟨label, message⟩

/-- A project without issues and settings. -/
def emptyProject : Workspace where
  tree := ⟨[([".issuemap"], .directory), ([".issuemap", "issues.db"], .database (.ready {}))]⟩
  here := []
  clock := .earliest
  user := ""

/-- A command line is carried out on the project that is found, if this has no settings of its own. -/
theorem CarriesOut.of_missing [Json.Nesting] {w : Workspace} {root : Path} (line : CommandLine)
    {arguments : List String} {wanted : Command} (reads : CommandLine.read arguments = .ok line)
    (wants : Command.read line.name line.arguments = .ok wanted) (here : line.directory = none)
    (found : w.find none = some root)
    (missing : w.settingsFile (ProjectPaths.ofRoot root).settings = .missing) (there : w.isDirectory root) :
    CarriesOut w arguments root wanted where
  line := by
    refine ⟨line, reads, wants, ?_, fun _ => ⟨{}, by rw [missing]; rfl⟩⟩
    rw [here]
    exact found
  there := there

theorem carriesOut_emptyProject [Json.Nesting] (line : CommandLine) {arguments : List String} {wanted : Command}
    (reads : CommandLine.read arguments = .ok line) (wants : Command.read line.name line.arguments = .ok wanted)
    (here : line.directory = none) : CarriesOut emptyProject arguments ⟨1, [".issuemap"]⟩ wanted :=
  .of_missing line reads wants here (by decide +kernel) (by decide +kernel) (by decide +kernel)

theorem database_emptyProject :
    emptyProject.database (ProjectPaths.ofRoot ⟨1, [".issuemap"]⟩).database = .ready {} := by
  decide +kernel

end IssueTracker
