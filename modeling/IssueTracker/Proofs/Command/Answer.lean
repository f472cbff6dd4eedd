import IssueTracker.Proofs.Command.Parts

/-!
# What commands answer

Seven commands show an answer, as a table or in JSON.  Each has one value to show in JSON, which the project
and the query decide (`Workspace.Answers`).  Going on, such a command has printed something in a format that
it knows, in JSON first that value, and nothing behind it but that a search was saved (`Run.command_shows`).
-/

namespace IssueTracker

namespace Command

/-- The format in which a command is to show its answer, if it shows one. -/
def format? : Command → Option Format
  | list _ _ format | labels format | inspect _ format | explain _ format | listSearches format => some format
  | search _ options _ | runSearch _ options => some options.format
  | _ => none

/-- The name under which a command is to save its search; an empty one does not count. -/
def saveAs : Command → String
  | search _ _ name => name.getD ""
  | _ => ""

end Command

/-- The issues that a listing shows of those it finds: without a status those that are not done or closed,
    unless all are wanted. -/
def listing (status : Option String) (all : Bool) (found : List Issue) : List Issue :=
  if status.getD "" = "" && !all then found.filter fun i => !isClosing (i.status.getD "") else found

/-- The value that a command is to show in JSON, with the project that is kept in a directory. -/
inductive Workspace.Answers [Json.Nesting] (w : Workspace) : Option Path → Command → Json → Prop
  | list {root : Path} {status : Option String} {all : Bool} {format : Format} {found : List Issue}
      (listed : (w.database (ProjectPaths.ofRoot root).database).list status = .ok found) :
      w.Answers (some root) (.list status all format) (.array ((listing status all found).map Issue.document))
  | labels {root : Path} {format : Format} {names : List String}
      (used : (w.database (ProjectPaths.ofRoot root).database).labels = .ok names) :
      w.Answers (some root) (.labels format) (.strings names)
  | inspect {root : Path} {id : Int} {format : Format} {i : Issue}
      (there : (w.database (ProjectPaths.ofRoot root).database).get id = .ok i) :
      w.Answers (some root) (.inspect id format) i.document
  | search {root : Path} {raw : String} {options : SearchOptions} {saveAs : Option String} {q : Query}
      {limit : Nat} {r : SearchResult} (parsed : parseQuery raw = .ok q)
      (isLimit : Run.IsDefaultLimit w (.ofRoot root) options.limit limit)
      (runs : Search.execute (w.database (ProjectPaths.ofRoot root).database) q w.clock limit = .ok r) :
      w.Answers (some root) (.search raw options saveAs) (r.document raw)
  | explain {root : Option Path} {raw : String} {format : Format} {q : Query}
      (parsed : parseQuery raw = .ok q) :
      w.Answers root (.explain raw format) q.document
  | runSearch {root : Path} {name raw : String} {options : SearchOptions} {q : Query} {limit : Nat}
      {r : SearchResult}
      (saved : SavedSearch.load (w.settingsFile (ProjectPaths.ofRoot root).settings) name = .ok raw)
      (parsed : parseQuery raw = .ok q) (isLimit : Run.IsDefaultLimit w (.ofRoot root) options.limit limit)
      (runs : Search.execute (w.database (ProjectPaths.ofRoot root).database) q w.clock limit = .ok r) :
      w.Answers (some root) (.runSearch name options) (r.document raw)
  | listSearches {root : Path} {format : Format} {searches : List (AnyText × AnyText)}
      (saved : SavedSearch.list (w.settingsFile (ProjectPaths.ofRoot root).settings) = .ok searches) :
      w.Answers (some root) (.listSearches format) (.texts searches)

/-- The other workspace is the same, but for a file that was written. -/
def Workspace.WritesFile (w w' : Workspace) : Prop :=
  w' = w ∨ ∃ path content, w' = { w with tree := w.tree.write w.here path (.file content) }

/-- How a command goes on that shows an answer. -/
structure Session.Shows [Json.Nesting] (s : Session) (root : Option Path) (wanted : Command) (s' : Session) :
    Prop where
  writes : s.workspace.WritesFile s'.workspace
  known : ∀ name, wanted.format? = some (.other name) → ∃ id, wanted = .inspect id (.other name)
  json : wanted.format? = some .json → ∃ answer said, s.workspace.Answers root wanted answer ∧ answer.IsPlain ∧
    s'.output = s.output ++ (answer.chars 0 ++ '\n' :: said) ∧ (wanted.saveAs = "" → said = [])

/-- How a command ends that shows no answer.  The exit code 2 tells of a query that cannot be read. -/
structure Session.Refuses (s : Session) (wanted : Command) (e : Ending) (s' : Session) : Prop where
  writes : s.workspace.WritesFile s'.workspace
  code : e.code = 1 ∨ e.code = 2 ∧ ∀ name, wanted.format? ≠ some (.other name)

/-- Between two sessions some text was printed, if any, and that is all. -/
def Session.PrintsTo (s s' : Session) : Prop := ∃ text, s' = s.writing text

theorem Session.PrintsTo.refl (s : Session) : s.PrintsTo s := ⟨[], by simp [writing]⟩

theorem Session.PrintsTo.writing {s s' : Session} (prints : s.PrintsTo s') (text : List Char) :
    s.PrintsTo (s'.writing text) := by
  obtain ⟨before, rfl⟩ := prints
  exact ⟨before ++ text, by simp [Session.writing]⟩

namespace Run

variable {s : Session} {root : Path} {wanted : Command}

theorem allowsFailure_refuses {w : Workspace} (writes : s.workspace.WritesFile w) :
    AllowsFailure 1 w (s.Refuses wanted) :=
  fun _ _ code same => ⟨same ▸ writes, Or.inl code⟩

theorem allowsFailure_refusesQuery (known : ∀ name, wanted.format? ≠ some (.other name)) :
    AllowsFailure 2 s.workspace (s.Refuses wanted) :=
  fun _ _ code same => ⟨Or.inl same, Or.inr ⟨code, known⟩⟩

theorem refuses : AllowsFailure 1 s.workspace (s.Refuses wanted) := allowsFailure_refuses (Or.inl rfl)

theorem shows_table [Json.Nesting] {project : Option Path} (isTable : wanted.format? = some .table)
    {s' : Session} (printed : s.PrintsTo s') : s.Shows project wanted s' := by
  obtain ⟨text, rfl⟩ := printed
  refine ⟨Or.inl rfl, fun name isOther => ?_, fun isJson => ?_⟩
  · rw [isTable] at isOther
    cases isOther
  · rw [isTable] at isJson
    cases isJson

theorem shows_json [Json.Nesting] {project : Option Path} {answer : Json} (isJson : wanted.format? = some .json)
    (answers : s.workspace.Answers project wanted answer) (plain : answer.IsPlain) :
    s.Shows project wanted (s.writing (answer.chars 0 ++ ['\n'])) where
  writes := Or.inl rfl
  known name isOther := by
    rw [isJson] at isOther
    cases isOther
  json _ := ⟨answer, [], answers, plain, rfl, fun _ => rfl⟩

/-! ## Printing -/

section
variable {s' : Session} {P : Unit → Session → Prop} {E : Ending → Session → Prop}
  (allows : AllowsFailure 1 s.workspace E)
include allows

/-- A text is printed behind others. -/
theorem writeShown_prints {lines : Except Terminal.MarkupError (List (List Char))} (printed : s.PrintsTo s')
    (goesOn : ∀ s'', s.PrintsTo s'' → P () s'') : (writeShown lines).Meets s' P E := by
  have allows' : AllowsFailure 1 s'.workspace E := by
    obtain ⟨text, rfl⟩ := printed
    exact allows
  exact writeShown_meets allows' fun text => goesOn _ (printed.writing text)

theorem print_prints {markup : String} {next : Run Unit} (printed : s.PrintsTo s')
    (later : ∀ s'', s.PrintsTo s'' → next.Meets s'' P E) : (print markup >>= fun _ => next).Meets s' P E :=
  .bind (writeShown_prints allows printed later)

/-- One of two texts is printed. -/
theorem printEither_meets {c : Prop} [Decidable c] {markup : String}
    {lines : Except Terminal.MarkupError (List (List Char))} (goesOn : ∀ s'', s.PrintsTo s'' → P () s'') :
    (if c then print markup else writeShown lines).Meets s P E := by
  split
  · exact writeShown_prints allows (.refl s) goesOn
  · exact writeShown_prints allows (.refl s) goesOn

/-- A note may stand before the rest. -/
theorem afterNote_meets {c : Prop} [Decidable c] {note : String} {next : Run Unit}
    (later : ∀ s'', s.PrintsTo s'' → (¬c → s'' = s) → next.Meets s'' P E) :
    (if c then print note >>= fun _ => next else next).Meets s P E := by
  split
  · rename_i noted
    exact print_prints allows (.refl s) fun s'' printed => later s'' printed (absurd noted)
  · exact later s (.refl s) fun _ => rfl

theorem showResult_meets {raw : String} {r : SearchResult} {format : Format} (printed : s.PrintsTo s')
    (json : format = .json → (r.document raw).IsPlain →
      P () (s'.writing ((r.document raw).chars 0 ++ ['\n'])))
    (text : format ≠ .json → ∀ s'', s.PrintsTo s'' → P () s'') : (showResult raw r format).Meets s' P E := by
  unfold showResult
  split
  · rename_i isJson
    have allows' : AllowsFailure 1 s'.workspace E := by
      obtain ⟨text, rfl⟩ := printed
      exact allows
    exact printJson_meets allows' (json isJson)
  rename_i notJson
  split
  · refine print_prints allows printed fun _ printed => ?_
    refine print_prints allows printed fun _ printed => ?_
    refine print_prints allows printed fun _ printed => ?_
    refine print_prints allows printed fun _ printed => ?_
    refine print_prints allows printed fun _ printed => ?_
    exact writeShown_prints allows printed (text notJson)
  · refine print_prints allows printed fun _ printed => ?_
    exact writeShown_prints allows printed (text notJson)

end

/-- A format that is known and not JSON is that of a table. -/
theorem eq_table {format : Format} (known : ∀ name, format ≠ .other name) (notJson : format ≠ .json) :
    format = .table := by
  cases format with
  | table => rfl
  | json => exact absurd rfl notJson
  | other name => exact absurd rfl (known name)

section
variable [Json.Nesting]

/-! ## Issues -/

theorem list_shows {status : Option String} {all : Bool} {format : Format} :
    (list (.ofRoot root) status all format).Meets s (fun _ => s.Shows (some root) (.list status all format))
      (s.Refuses (.list status all format)) := by
  refine .bind (.of_ok database_eq (.bind (stored_meets refuses fun found listed => ?_)))
  cases format with
  | json => exact printJson_meets refuses (shows_json rfl (.list listed))
  | other name => exact fail_meets refuses
  | table => exact printEither_meets refuses fun _ => shows_table rfl

theorem labels_shows {format : Format} :
    (labels (.ofRoot root) format).Meets s (fun _ => s.Shows (some root) (.labels format))
      (s.Refuses (.labels format)) := by
  refine .bind (.of_ok database_eq (.bind (unreported_meets refuses fun names used => ?_)))
  cases format with
  | json => exact printJson_meets refuses (shows_json rfl (.labels used))
  | other name => exact fail_meets refuses
  | table => exact printEither_meets refuses fun _ => shows_table rfl

/-- An issue is shown in any format: in those that are not known as in a table. -/
theorem inspect_shows {id : Int} {format : Format} :
    (inspect (.ofRoot root) id format).Meets s (fun _ => s.Shows (some root) (.inspect id format))
      (s.Refuses (.inspect id format)) := by
  refine .bind (.of_ok database_eq (.bind (stored_meets refuses fun i there => ?_)))
  split
  · rename_i isJson
    exact printJson_meets refuses (shows_json (congrArg some isJson) (.inspect there))
  · rename_i notJson
    refine writeShown_prints refuses (.refl s) fun s' printed => ?_
    obtain ⟨text, rfl⟩ := printed
    refine ⟨Or.inl rfl, fun name isOther => ?_, fun isJson => absurd (Option.some.inj isJson) notJson⟩
    exact ⟨id, congrArg (Command.inspect id) (Option.some.inj isOther)⟩

/-! ## Searches -/

theorem explain_shows {project : Option Path} {raw : String} {q : Query} {format : Format}
    (known : ∀ name, format ≠ .other name) (parsed : parseQuery raw = .ok q) :
    (explain q format).Meets s (fun _ => s.Shows project (.explain raw format))
      (s.Refuses (.explain raw format)) := by
  unfold explain
  split
  · rename_i isJson
    exact printJson_meets refuses (shows_json (congrArg some isJson) (.explain parsed))
  · rename_i notJson
    have isTable : (Command.explain raw format).format? = some .table := congrArg some (eq_table known notJson)
    exact writeShown_prints refuses (.refl s) fun _ => shows_table isTable

theorem listSearches_shows {format : Format} (known : ∀ name, format ≠ .other name) :
    (listSearches (.ofRoot root) format).Meets s (fun _ => s.Shows (some root) (.listSearches format))
      (s.Refuses (.listSearches format)) := by
  refine .bind (.of_ok settingsFile_eq (.bind (saved_meets refuses fun searches saved => ?_)))
  split
  · rename_i isJson
    exact printJson_meets refuses (shows_json (congrArg some isJson) (.listSearches saved))
  rename_i notJson
  have isTable : (Command.listSearches format).format? = some .table := congrArg some (eq_table known notJson)
  split
  · refine print_prints refuses (.refl s) fun _ printed => ?_
    exact writeShown_prints refuses printed fun _ => shows_table isTable
  · refine .bind (unreported_meets refuses fun shown _ => ?_)
    exact writeShown_prints refuses (.refl s) fun _ => shows_table isTable

/-- A result is shown in a format that is known, in JSON before anything else. -/
theorem showResult_shows {project : Option Path} {raw : String} {r : SearchResult} {format : Format}
    {s' : Session} {P : Unit → Session → Prop} (known : ∀ name, format ≠ .other name)
    (isFormat : wanted.format? = some format)
    (answers : s.workspace.Answers project wanted (r.document raw)) (printed : s.PrintsTo s')
    (first : format = .json → s' = s)
    (goesOn : ∀ s'', s.Shows project wanted s'' → s''.workspace = s.workspace → P () s'') :
    (showResult raw r format).Meets s' P (s.Refuses wanted) := by
  refine showResult_meets refuses printed (fun isJson plain => ?_) fun notJson s'' printed => ?_
  · rw [first isJson]
    exact goesOn _ (shows_json (isFormat.trans (congrArg some isJson)) answers plain) rfl
  · have isTable := isFormat.trans (congrArg some (eq_table known notJson))
    obtain ⟨text, rfl⟩ := printed
    exact goesOn _ (shows_table isTable ⟨text, rfl⟩) rfl

theorem runSearch_shows {name : String} {options : SearchOptions}
    (known : ∀ name, options.format ≠ .other name) :
    (runSearch (.ofRoot root) name options).Meets s (fun _ => s.Shows (some root) (.runSearch name options))
      (s.Refuses (.runSearch name options)) := by
  have knows : ∀ other, (Command.runSearch name options).format? ≠ some (.other other) :=
    fun other isOther => known other (Option.some.inj isOther)
  refine .bind (defaultLimit_meets refuses fun limit isLimit => ?_)
  refine .bind (.of_ok settingsFile_eq (.bind (saved_meets refuses fun text saved => ?_)))
  refine .bind (savedQuery_meets refuses (allowsFailure_refusesQuery knows) ?_)
  rintro raw q rfl parsed
  refine .bind (execute_meets refuses fun again r isAgain runs => ?_)
  obtain rfl : limit = again := by
    rcases isAgain with same | ⟨missing, _⟩
    · exact Option.some.inj same
    · cases missing
  refine afterNote_meets refuses fun s' printed first => ?_
  have answers := Workspace.Answers.runSearch saved parsed isLimit runs
  refine showResult_shows known rfl answers printed (fun isJson => first ?_) fun _ shows _ => shows
  rw [isJson]
  exact nofun

/-- What is said of saving a search stands behind the answer. -/
theorem say_shows {project : Option Path} {s' : Session} {markup : String} (shows : s.Shows project wanted s')
    (named : wanted.saveAs ≠ "") :
    (print markup).Meets s' (fun _ => s.Shows project wanted) (s.Refuses wanted) := by
  refine print_meets (allowsFailure_refuses shows.writes) fun text => ?_
  refine ⟨shows.writes, shows.known, fun isJson => ?_⟩
  obtain ⟨answer, said, answers, plain, output, _⟩ := shows.json isJson
  exact ⟨answer, said ++ text, answers, plain, by simp [Session.writing, output],
    fun unnamed => absurd unnamed named⟩

/-- So does what is said of a text that can be printed. -/
theorem sayPrintable_shows {project : Option Path} {s' : Session} {text : AnyText} {markup : String → String}
    (shows : s.Shows project wanted s') (named : wanted.saveAs ≠ "") :
    (printable text >>= fun message => print (markup message)).Meets s' (fun _ => s.Shows project wanted)
      (s.Refuses wanted) :=
  .bind (printable_meets (allowsFailure_refuses shows.writes) fun _ _ => say_shows shows named)

theorem search_shows {raw : String} {q : Query} {options : SearchOptions} {saveAs : Option String}
    (known : ∀ name, options.format ≠ .other name) (parsed : parseQuery raw = .ok q) :
    (search (.ofRoot root) raw q options saveAs).Meets s
      (fun _ => s.Shows (some root) (.search raw options saveAs)) (s.Refuses (.search raw options saveAs)) := by
  refine .bind (execute_meets refuses fun limit r isLimit runs => ?_)
  refine afterNote_meets refuses fun s' printed first => ?_
  have answers : s.workspace.Answers (some root) (.search raw options saveAs) (r.document raw) :=
    .search parsed isLimit runs
  refine .bind (showResult_shows known rfl answers printed (fun isJson => first ?_) fun s'' shows same => ?_)
  · rw [isJson]
    simp
  dsimp only
  split
  · rename_i named
    refine .bind (trySave_meets (allowsFailure_refuses shows.writes) (fun outcome content => ?_) fun error => ?_)
    · have written : s.workspace.WritesFile
          (s''.putting (ProjectPaths.ofRoot root).settings (.file content)).workspace := by
        refine Or.inr ⟨(ProjectPaths.ofRoot root).settings, content, ?_⟩
        rw [← same]
        rfl
      cases outcome with
      | none => exact say_shows ⟨written, shows.known, shows.json⟩ named
      | some error => exact sayPrintable_shows ⟨written, shows.known, shows.json⟩ named
    · exact sayPrintable_shows shows named
  · exact shows

/-! ## Commands -/

/-- A command that shows an answer shows the one that it is to show, or ends without one. -/
theorem command_shows {asked project : Option Path} {format : Format}
    (isFormat : wanted.format? = some format) :
    (command asked project wanted).Meets s (fun _ => s.Shows project wanted) (s.Refuses wanted) := by
  cases wanted with
  | list status all format =>
    refine .bind (projectPaths_meets refuses ?_)
    rintro root rfl _
    exact list_shows
  | labels format =>
    refine .bind (projectPaths_meets refuses ?_)
    rintro root rfl _
    exact labels_shows
  | inspect id format =>
    refine .bind (projectPaths_meets refuses ?_)
    rintro root rfl _
    exact inspect_shows
  | search raw options saveAs =>
    refine .bind (checkFormat_meets refuses fun known => ?_)
    have knows : ∀ other, (Command.search raw options saveAs).format? ≠ some (.other other) :=
      fun other isOther => known other (Option.some.inj isOther)
    refine .bind (query_meets refuses (allowsFailure_refusesQuery knows) fun q parsed => ?_)
    refine .bind (projectPaths_meets refuses ?_)
    rintro root rfl _
    exact search_shows known parsed
  | explain raw format =>
    refine .bind (checkFormat_meets refuses fun known => ?_)
    have knows : ∀ other, (Command.explain raw format).format? ≠ some (.other other) :=
      fun other isOther => known other (Option.some.inj isOther)
    refine .bind (query_meets refuses (allowsFailure_refusesQuery knows) fun q parsed => ?_)
    exact explain_shows known parsed
  | runSearch name options =>
    refine .bind (checkFormat_meets refuses fun known => ?_)
    refine .bind (projectPaths_meets refuses ?_)
    rintro root rfl _
    exact runSearch_shows known
  | listSearches format =>
    refine .bind (checkFormat_meets refuses fun known => ?_)
    refine .bind (projectPaths_meets refuses ?_)
    rintro root rfl _
    exact listSearches_shows known
  | init | create | edit | setStatus | close | reopen | delete | saveSearch | deleteSearch => cases isFormat

end

end Run

end IssueTracker
