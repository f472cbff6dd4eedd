import IssueTracker.Proofs.Command.Answer
import IssueTracker.Proofs.Command.Reached
import IssueTracker.Proofs.Command.Unsupported
import IssueTracker.Proofs.Location
import IssueTracker.Proofs.Search
import IssueTracker.Proofs.Settings.SavedSearch
import IssueTracker.Proofs.Terminal.Table
import IssueTracker.Proofs.Terminal.Verbatim

/-!
# How saved searches are shown

Saving a search writes the settings file and leaves the rest of the project as it is, so a search that was saved
is loaded, run and listed (`Workspace.withSettings`).  It is printed with its tags escaped; a query in which this
leaves nothing to be read as markup is shown as it was typed (`savedSearch_verbatim`).
-/

namespace IssueTracker

open Terminal (IsPrintable IsKept IsOneLine)

/-! ## Settings that were written -/

namespace Workspace
variable {w : Workspace} {root : Path} {settings : Settings} {content : Bytes}

/-- The workspace in which the settings of a project were written. -/
def withSettings (w : Workspace) (root : Path) (content : Bytes) : Workspace :=
  { w with tree := w.tree.write w.here (ProjectPaths.ofRoot root).settings (.file content) }

/-- Where settings can be loaded there is no directory. -/
theorem noDirectory_of_load [Json.Nesting]
    (loads : Settings.load (w.settingsFile (ProjectPaths.ofRoot root).settings) = .ok settings) :
    w.tree.find? w.here (ProjectPaths.ofRoot root).settings ≠ some .directory := by
  intro found
  rw [settingsFile, found] at loads
  cases loads

section
variable [Json.Nesting]
    (loads : Settings.load (w.settingsFile (ProjectPaths.ofRoot root).settings) = .ok settings)
include loads

theorem isDirectory_withSettings (path : Path) : (w.withSettings root content).isDirectory path = w.isDirectory path :=
  Tree.isDirectory_congr (Tree.isDirectoryAt_write_file (noDirectory_of_load loads)) w.here path

/-- The project that is found is the same. -/
theorem find_withSettings : (w.withSettings root content).find none = w.find none := by
  have same : (w.withSettings root content).isDirectory = w.isDirectory :=
    funext (isDirectory_withSettings loads)
  have nearest (start : Path) : (w.withSettings root content).nearest start = w.nearest start := by
    rw [Surroundings.nearest, Surroundings.nearest, same]
  rw [Surroundings.find, Surroundings.find, nearest]
  rfl

variable (there : w.isDirectory root)
include there

theorem find?_withSettings (path : Path) :
    (w.withSettings root content).tree.find? (w.withSettings root content).here path =
      if w.tree.place? w.here path = some ((root.resolve w.here).names ++ [settingsName]) then some (.file content)
      else w.tree.find? w.here path :=
  Tree.find?_write_file (Tree.place?_child there (by decide)) (noDirectory_of_load loads) path

theorem settingsFile_withSettings :
    (w.withSettings root content).settingsFile (ProjectPaths.ofRoot root).settings = .content content := by
  have leads : w.tree.place? w.here (ProjectPaths.ofRoot root).settings =
      some ((root.resolve w.here).names ++ [settingsName]) :=
    Tree.place?_child there (by decide)
  rw [settingsFile, find?_withSettings loads there, if_pos leads]

theorem database_withSettings : (w.withSettings root content).database (ProjectPaths.ofRoot root).database =
    w.database (ProjectPaths.ofRoot root).database := by
  have leads : w.tree.place? w.here (ProjectPaths.ofRoot root).database =
      some ((root.resolve w.here).names ++ [databaseName]) :=
    Tree.place?_child there (by decide)
  have apart : ¬ w.tree.place? w.here (ProjectPaths.ofRoot root).database =
      some ((root.resolve w.here).names ++ [settingsName]) := by
    rw [leads]
    intro same
    have names := List.append_cancel_left (Option.some.inj same)
    revert names
    decide
  rw [database, database, find?_withSettings loads there, if_neg apart]

end

end Workspace

/-- Command lines are carried out on the same project when its settings were written. -/
theorem CarriesOut.withSettings [Json.Nesting] {w : Workspace} {root : Path} {settings settings' : Settings}
    {content : Bytes} {arguments : List String} {wanted : Command}
    (carries : CarriesOut w arguments root wanted)
    (loads : Settings.load (w.settingsFile (ProjectPaths.ofRoot root).settings) = .ok settings)
    (loads' : Settings.load (.content content) = .ok settings') :
    CarriesOut (w.withSettings root content) arguments root wanted where
  line := by
    obtain ⟨line, reads, wants, found, _⟩ := carries.line
    refine ⟨line, reads, wants, ?_, fun _ => ⟨settings', ?_⟩⟩
    · rw [Workspace.find_withSettings loads]
      exact found
    · rw [Workspace.settingsFile_withSettings loads carries.there]
      exact loads'
  there := by
    rw [Workspace.isDirectory_withSettings loads]
    exact carries.there

/-! ## Parts that only print -/

theorem Session.PrintsTo.trans {s s' s'' : Session} (first : s.PrintsTo s') (second : s'.PrintsTo s'') :
    s.PrintsTo s'' := by
  obtain ⟨text, rfl⟩ := second
  exact first.writing text

namespace Run
variable {α β : Type} {s : Session} {root : Path} {name raw : String} {q : Query}

/-- However a part of a command goes on or ends, it has printed some text, if any, and that is all. -/
def OnlyPrints (x : Run α) : Prop := ∀ s, x.Meets s (fun _ => s.PrintsTo) (fun _ => s.PrintsTo)

theorem OnlyPrints.meets {x : Run α} (prints : x.OnlyPrints) {s s' : Session} (before : s.PrintsTo s') :
    x.Meets s' (fun _ => s.PrintsTo) (fun _ => s.PrintsTo) :=
  (prints s').mono (fun _ _ => before.trans) (fun _ _ => before.trans)

theorem OnlyPrints.bind {x : Run α} {f : α → Run β} (first : x.OnlyPrints) (next : ∀ a, (f a).OnlyPrints) :
    (x >>= f).OnlyPrints := fun s =>
  .bind ((first s).mono (fun a _ before => (next a).meets before) fun _ _ => id)

theorem OnlyPrints.ite {c : Prop} [Decidable c] {x y : Run α} (yes : x.OnlyPrints) (no : y.OnlyPrints) :
    (if c then x else y).OnlyPrints := by
  split
  · exact yes
  · exact no

theorem onlyPrints_writeShown (lines : Except Terminal.MarkupError (List (List Char))) :
    (writeShown lines).OnlyPrints := by
  intro s
  cases lines with
  | ok lines => exact (Session.PrintsTo.refl s).writing _
  | error e => exact Session.PrintsTo.refl s

theorem onlyPrints_print (markup : String) : (print markup).OnlyPrints := onlyPrints_writeShown _

theorem onlyPrints_printJson (value : Json) : (printJson value).OnlyPrints := by
  intro s
  rw [printJson]
  split
  · exact (Session.PrintsTo.refl s).writing _
  · exact Session.PrintsTo.refl s

theorem onlyPrints_showResult (raw : String) (r : SearchResult) (format : Format) :
    (showResult raw r format).OnlyPrints := by
  unfold showResult
  apply OnlyPrints.ite (onlyPrints_printJson _)
  apply OnlyPrints.ite
  · apply (onlyPrints_print _).bind fun _ => ?_
    apply (onlyPrints_print _).bind fun _ => ?_
    apply (onlyPrints_print _).bind fun _ => ?_
    apply (onlyPrints_print _).bind fun _ => ?_
    apply (onlyPrints_print _).bind fun _ => ?_
    exact onlyPrints_print _
  · exact (onlyPrints_print _).bind fun _ => onlyPrints_writeShown _

/-- However a command line ends, what holds of the session at its end does. -/
theorem Meets.session [Json.Nesting] {w : Workspace} {input : List Char} {arguments : List String}
    {P : Session → Prop}
    (meets : (commandLine arguments).Meets { workspace := w, input } (fun _ => P) (fun _ => P)) :
    P (w.run input arguments).2 := by
  rcases meets.outcome with ⟨_, holds⟩ | holds
  · exact holds
  · exact holds

theorem query_run {about : String} (parsed : parseQuery raw = .ok q) : (query about raw).run s = (.ok q, s) := by
  rw [query, parsed]
  rfl

theorem saved_run {paths : ProjectPaths} {outcome : Except SavedError α} {a : α} (is : outcome = .ok a) :
    (saved paths outcome).run s = (.ok a, s) := by
  rw [is]
  rfl

/-! ## Saving -/

/-- A search that is saved is written to the settings of the project, and nothing else is. -/
theorem saveSearch_prints [Json.Nesting] {asked : Option Path} {content : Written}
    (there : s.workspace.isDirectory root) (parsed : parseQuery raw = .ok q)
    (saves : SavedSearch.save (s.workspace.settingsFile (ProjectPaths.ofRoot root).settings)
      (some (name : AnyText)) raw = .ok content) (whole : content.fault = none) :
    let written := s.putting (ProjectPaths.ofRoot root).settings (.file (Text.encodeUtf8 content.chars))
    (command asked (some root) (.saveSearch name raw)).Meets s (fun _ => written.PrintsTo)
      (fun _ => written.PrintsTo) := by
  intro written
  have changes : (changeSettings (ProjectPaths.ofRoot root).settings
      (SavedSearch.save · (some (name : AnyText)) raw)).run s = (.ok (.ok ()), written) := by
    rw [changeSettings, run_bind_ok settingsFile_eq, saves]
    dsimp only
    rw [putSettings, run_bind_ok put_run, Written.outcome, whole]
    rfl
  have keeps : (trySave (.ofRoot root) name raw false).run s = (.ok none, written) := by
    rw [trySave, run_bind_ok changes]
    rfl
  have tells : (print (styled "green" ("Search query saved as '" ++ Terminal.escaped name ++ "'")) >>= fun _ =>
      print ("Run with: issuemap saved run \"" ++ Terminal.escaped name ++ "\"")).OnlyPrints :=
    (onlyPrints_print _).bind fun _ => onlyPrints_print _
  rw [Meets, command, run_bind_ok (projectPaths_run there), saveSearch, run_bind_ok (query_run parsed),
    run_bind_ok keeps]
  exact tells written

end Run

/-! ## Plain names -/

/-- A name that is the same in markup: printable ASCII characters, none of which belongs to an emoji code, a tag
    or an escape. -/
structure IsPlainName (name : String) : Prop extends IsName name where
  ascii : Terminal.IsPrintableAscii name.toList
  noColon : ':' ∉ name.toList
  noOpening : '[' ∉ name.toList
  noBackslash : '\\' ∉ name.toList

/-- What is printed before a saved search that is run. -/
def runningLabel (name : String) : List Char := ("Running saved search '" ++ name ++ "': ").toList

namespace IsPlainName
variable {name : String} (plain : IsPlainName name)
include plain

theorem isOneLine : IsOneLine name.toList where
  printable := plain.ascii.isPrintable
  ending := (Text.strip_eq_self_iff.mp plain.trimmed).2

theorem isKept : IsKept name.toList :=
  Terminal.isKept_of_notMem (by rw [List.count_eq_zero.mpr plain.noColon]; decide) plain.noBackslash

theorem ascii_runningLabel : Terminal.IsPrintableAscii (runningLabel name) := by
  have before : Terminal.IsPrintableAscii "Running saved search '".toList := by decide
  have behind : Terminal.IsPrintableAscii "': ".toList := by decide
  intro c member
  rw [runningLabel, String.toList_append, String.toList_append] at member
  rcases List.mem_append.mp member with first | last
  · rcases List.mem_append.mp first with word | inName
    · exact before c word
    · exact plain.ascii c inName
  · exact behind c last

/-- The label is shown as it is before any query. -/
theorem isShownAsIs : Terminal.IsShownAsIs (runningLabel name) := by
  have words : ("Running saved search '" ++ name ++ "':").toList =
      ("Running saved search '" ++ name ++ "'").toList ++ [':'] := by
    simp
  have whole : runningLabel name = ("Running saved search '" ++ name ++ "':").toList ++ [' '] := by
    simp [runningLabel]
  have noOpening : '[' ∉ ("Running saved search '" ++ name ++ "':").toList := by
    simp [plain.noOpening]
  have noColon : ':' ∉ ("Running saved search '" ++ name ++ "':").toList.dropLast := by
    rw [words, List.dropLast_concat]
    simp [plain.noColon]
  have printed : ("Running saved search '" ++ name ++ "':").toList.any Terminal.isStripped = false := by
    apply List.any_eq_false.mpr
    intro c member
    rw [plain.ascii_runningLabel.isPrintable.isStripped_eq_false c (whole ▸ List.mem_append_left _ member)]
    decide
  rw [whole]
  exact Terminal.isShownAsIs_of_shownPiece noOpening (Terminal.isPlain_of_notMem noOpening noColon printed).shown

end IsPlainName

/-! ## Running and listing -/

namespace Run
variable {s : Session} {root : Path} {name raw : String} {q : Query} {settings : Settings}

theorem defaultLimit_run [Json.Nesting] {paths : ProjectPaths}
    (loads : Settings.load (s.workspace.settingsFile paths.settings) = .ok settings) (asked : Option Nat) :
    ∃ limit, (defaultLimit paths asked).run s = (.ok limit, s) := by
  cases asked with
  | some limit => exact ⟨limit, rfl⟩
  | none =>
    have reads : (Run.settings paths.settings).run s = (.ok settings, s) := by
      rw [Run.settings, run_bind_ok settingsFile_eq, loads]
      rfl
    exact ⟨settings.defaultLimit, by rw [defaultLimit, run_bind_ok reads]; rfl⟩

/-- A saved search that can be run is printed behind its label, before its result. -/
theorem runSearch_prints [Json.Nesting] {asked : Option Path} {options : SearchOptions}
    (there : s.workspace.isDirectory root)
    (loads : Settings.load (s.workspace.settingsFile (ProjectPaths.ofRoot root).settings) = .ok settings)
    (saved : SavedSearch.load (s.workspace.settingsFile (ProjectPaths.ofRoot root).settings) name =
      .ok (raw : AnyText))
    (parsed : parseQuery raw = .ok q)
    (answers : ∀ limit, ∃ r, Search.execute (s.workspace.database (ProjectPaths.ofRoot root).database) q
      s.workspace.clock limit = .ok r)
    (isTable : options.format = .table) (plain : IsPlainName name) :
    let printed := s.printing (runningLabel name ++ (Terminal.shownText (Terminal.escape raw.toList) ++ ['\n']))
    (command asked (some root) (.runSearch name options)).Meets s (fun _ => printed.PrintsTo)
      (fun _ => printed.PrintsTo) := by
  intro printed
  obtain ⟨limit, isLimit⟩ := defaultLimit_run loads options.limit
  obtain ⟨r, runs⟩ := answers limit
  have known : (checkFormat options.format).run s = (.ok (), s) := by
    rw [isTable]
    rfl
  have executes : (execute (.ofRoot root) q (some limit)).run s = (.ok r, s) := by
    have asks : (defaultLimit (.ofRoot root) (some limit)).run s = (.ok limit, s) := rfl
    rw [execute, run_bind_ok asks, run_bind_ok workspace_run, run_bind_ok database_eq, runs]
    rfl
  have reads : (savedQuery name raw).run s = (.ok (raw, q), s) := by
    rw [savedQuery, run_bind_ok (query_run parsed)]
    rfl
  have shows : Terminal.shown ("Running saved search '" ++ Terminal.escaped name ++ "': " ++
      Terminal.escaped raw ++ "\n") =
      .ok (runningLabel name ++ (Terminal.shownText (Terminal.escape raw.toList) ++ ['\n'])) := by
    apply Terminal.shown_escaped plain.isShownAsIs
    simp [runningLabel, Terminal.escaped, Terminal.escape_eq_self plain.noOpening plain.noBackslash]
  rw [Meets, command, run_bind_ok known, run_bind_ok (projectPaths_run there), runSearch, run_bind_ok isLimit,
    run_bind_ok settingsFile_eq, run_bind_ok (saved_run saved), run_bind_ok reads]
  dsimp only
  rw [run_bind_ok executes, if_pos isTable, run_bind_ok (print_run shows)]
  exact onlyPrints_showResult raw r options.format printed

theorem printableSearches_run (searches : List (String × String)) :
    (printableSearches (searches.map (Prod.map .plain .plain))).run s = (.ok searches, s) := by
  have prints : printableSearches (searches.map (Prod.map .plain .plain)) =
      unreported .unprintable (.ok searches) := by
    refine congrArg (unreported Fault.unprintable) (mapM_eq_ok.mpr ?_)
    rw [List.forall₂_map_left_iff]
    exact List.forall₂_same.mpr fun _ _ => rfl
  rw [prints]
  rfl

/-- The saved searches are listed in the lines of their table, if there are any. -/
theorem listSearches_run [Json.Nesting] {asked : Option Path} {searches : List (String × String)}
    {lines : List (List Char)} (there : s.workspace.isDirectory root)
    (loads : Settings.load (s.workspace.settingsFile (ProjectPaths.ofRoot root).settings) = .ok settings)
    (saved : settings.savedSearches = searches.map (Prod.map .plain .plain)) (filled : searches ≠ [])
    (shows : (savedTable searches).lines = .ok lines) :
    (command asked (some root) (.listSearches .table)).run s =
      (.ok (), s.writing (lines.flatMap (· ++ ['\n']))) := by
  have known : (checkFormat .table).run s = (.ok (), s) := rfl
  have lists : SavedSearch.list (s.workspace.settingsFile (ProjectPaths.ofRoot root).settings) =
      .ok (searches.map (Prod.map .plain .plain)) := by
    rw [SavedSearch.list, SavedSearch.settings_eq loads, ← saved]
    rfl
  rw [command, run_bind_ok known, run_bind_ok (projectPaths_run there), listSearches,
    run_bind_ok settingsFile_eq, run_bind_ok (saved_run lists), if_neg (by decide), if_neg (by simpa using filled),
    run_bind_ok (printableSearches_run searches), shows]
  rfl

end Run

/-! ## The table -/

private theorem exists_shown_escaped (text : String) :
    ∃ cs, Terminal.shown (Terminal.escaped text) = .ok cs := by
  refine ⟨_, Terminal.shown_of_escaped ?_⟩
  rw [Terminal.escaped, String.toList_ofList]
  exact Terminal.escaped_escape text.toList

private theorem exists_shown_plain {text : String} (noOpening : '[' ∉ text.toList) :
    ∃ cs, Terminal.shown text = .ok cs := by
  refine ⟨_, Terminal.shown_of_escaped (.free ?_)⟩
  simpa using Terminal.TagFree.nil.append noOpening

/-- The table of saved searches can be shown, whatever the searches are. -/
theorem exists_savedTable_lines (saved : List (String × String)) :
    ∃ lines, (savedTable saved).lines = .ok lines := by
  apply Terminal.Table.exists_lines
  · intro title isTitle
    cases isTitle
    have noDigit : '[' ∉ Nat.toDigits 10 saved.length := by
      intro member
      have isDecimal := Text.all_isDecimal_toDigits saved.length _ member
      revert isDecimal
      decide
    have noOpening : '[' ∉ ("Saved Searches (" ++ toString saved.length ++ ")").toList := by
      rw [Nat.toString_eq_repr, Nat.repr_eq_ofList_toDigits]
      simp [noDigit]
    exact exists_shown_plain noOpening
  · intro column member
    simp only [savedTable, List.mem_cons, List.not_mem_nil, or_false] at member
    rcases member with rfl | rfl
    · exact exists_shown_plain (by decide)
    · exact exists_shown_plain (by decide)
  · intro column member search _
    simp only [savedTable, List.mem_cons, List.not_mem_nil, or_false] at member
    rcases member with rfl | rfl
    · exact exists_shown_escaped search.1
    · exact exists_shown_escaped search.2

/-- A text that is kept is the same in a cell. -/
theorem shown_escaped_eq {text : String} (kept : IsKept text.toList) (printable : IsPrintable text.toList) :
    Terminal.shown (Terminal.escaped text) = .ok text.toList := by
  have whole : (Terminal.escaped text).toList = Terminal.escape text.toList := by
    rw [Terminal.escaped, String.toList_ofList]
  have allEscaped : Terminal.Escaped (Terminal.escaped text).toList := whole ▸ Terminal.escaped_escape text.toList
  rw [Terminal.shown_of_escaped allEscaped, whole,
    Terminal.shownText_escape kept printable.isStripped_eq_false]

/-- A row of the table in which a name and a query stand, with spaces behind them. -/
def savedRow (name raw : String) (a b : Nat) : List Char :=
  '│' :: ' ' :: (name.toList ++ Terminal.spaces a ++ [' ', '│', ' '] ++ raw.toList ++ Terminal.spaces b ++ [' ', '│'])

/-- The row of a search that is kept holds its name and its query. -/
theorem mem_savedTable_lines {saved : List (String × String)} {name raw : String} {lines : List (List Char)}
    (shows : (savedTable saved).lines = .ok lines) (isSaved : (name, raw) ∈ saved)
    (nameKept : IsKept name.toList) (nameFits : IsOneLine name.toList) (rawKept : IsKept raw.toList)
    (rawFits : IsOneLine raw.toList) :
    ∃ a b, savedRow name raw a b ∈ lines := by
  have isItem : (name, raw) ∈ (savedTable saved).items := List.mem_mergeSort.mpr isSaved
  obtain ⟨i, there⟩ := List.getElem?_of_mem isItem
  have cells : List.Forall₂ (fun (column : Terminal.Column (String × String)) text =>
      Terminal.shown (column.cell (name, raw)) = .ok text ∧ column.alignment = .left ∧ IsOneLine text)
      (savedTable saved).columns [name.toList, raw.toList] :=
    .cons ⟨shown_escaped_eq nameKept nameFits.printable, rfl, nameFits⟩
      (.cons ⟨shown_escaped_eq rawKept rawFits.printable, rfl, rawFits⟩ .nil)
  obtain ⟨parts, texts, isLine⟩ := Terminal.Table.mem_lines shows there cells
  obtain ⟨⟨first, a⟩, behind, rfl, rfl, texts'⟩ := List.map_eq_cons_iff.mp texts
  obtain ⟨⟨second, b⟩, others, rfl, rfl, texts''⟩ := List.map_eq_cons_iff.mp texts'
  obtain rfl := List.map_eq_nil_iff.mp texts''
  refine ⟨a, b, ?_⟩
  have row : Terminal.between '│' '│' '│' ([(name.toList, a), (raw.toList, b)].map fun part =>
      ' ' :: (part.1 ++ Terminal.spaces part.2) ++ [' ']) = savedRow name raw a b := by
    simp [Terminal.between, savedRow]
  rw [← row]
  exact isLine

/-! ## From saving to showing -/

/-- A project whose issues a query can be run on: they can be listed and searched, and none of them brings the
    query to an age of more digits than a number may have. -/
structure Workspace.CanAnswer (w : Workspace) (root : Path) (q : Query) : Prop where
  issues : ∃ issues, (w.database (ProjectPaths.ofRoot root).database).list none = .ok issues ∧
    (∀ i ∈ issues, i.isSearchable) ∧ ∀ i ∈ issues, ¬ q.ReachesLongAge i w.clock
  naive : w.clock.isNaive

theorem Workspace.CanAnswer.exists_execute_eq_ok {w : Workspace} {root : Path} {q : Query} {raw : String}
    (canAnswer : w.CanAnswer root q) (parsed : parseQuery raw = .ok q) (limit : Int) :
    ∃ r, Search.execute (w.database (ProjectPaths.ofRoot root).database) q w.clock limit = .ok r := by
  obtain ⟨issues, listed, searchable, short⟩ := canAnswer.issues
  exact Search.exists_execute_eq_ok listed
    ((execute_parseQuery parsed searchable canAnswer.naive).1.mpr short) limit

/-- What a command does that is carried out is what its command line does. -/
theorem CarriesOut.meets [Json.Nesting] {s : Session} {arguments : List String} {root : Path} {wanted : Command}
    {P : Unit → Session → Prop} {E : Ending → Session → Prop} (carries : CarriesOut s.workspace arguments root wanted)
    (meets : ∀ asked, (Run.command asked (some root) wanted).Meets s P E) :
    (Run.commandLine arguments).Meets s P E := by
  obtain ⟨asked, same⟩ := Run.commandLine_run carries
  rw [Run.Meets, same]
  exact meets asked

/-- A line that fits is printed as it is, and the empty line behind its end. -/
theorem Session.output_printing {s : Session} {line : List Char} (printable : IsPrintable line)
    (fits : Terminal.width line ≤ Terminal.screenColumns)
    (ending : line.length ≤ Terminal.screenColumns ∨ ∀ c, line.getLast? = some c → Text.isBlank c = false) :
    (s.printing (line ++ ['\n'])).output = s.output ++ (line ++ ['\n', '\n']) := by
  have noJoiner := printable.notMem (c := Terminal.joiner) (by decide +kernel)
  have noTab := printable.notMem (c := '\t') (by decide +kernel)
  have noLineEnd := printable.notMem (c := '\n') (by decide +kernel)
  have asIs : Terminal.fit Terminal.screenColumns .fold line = line := if_pos fits
  have nothing : ({ columns := Terminal.screenColumns } : Terminal.Arrangement).layOut [] = [[]] := by decide
  rw [printing]
  dsimp only
  rw [Terminal.Arrangement.layOut_append_lineEnd _ noLineEnd, nothing,
    Terminal.Arrangement.lines_of_fits noJoiner noTab fits ending, Terminal.Arrangement.align]
  simp [asIs]

/-- A plain label and a query without blanks around it end with no blank, or are no longer than they are wide. -/
theorem IsPlainName.ending {name raw : String} (plain : IsPlainName name) (trimmed : Text.strip raw = raw)
    {columns : Nat} (fits : Terminal.width (runningLabel name ++ raw.toList) ≤ columns) :
    (runningLabel name ++ raw.toList).length ≤ columns ∨
      ∀ c, (runningLabel name ++ raw.toList).getLast? = some c → Text.isBlank c = false := by
  by_cases isEmpty : raw.toList = []
  · rw [isEmpty, List.append_nil] at fits ⊢
    rw [plain.ascii_runningLabel.width_eq] at fits
    exact Or.inl fits
  · right
    intro c last
    rw [List.getLast?_append_of_ne_nil _ isEmpty] at last
    exact (Text.strip_eq_self_iff.mp trimmed).2 c last

/-- A search that is saved is written to the settings, from which it is loaded as it was typed. -/
theorem CarriesOut.saveSearch [Json.Nesting] {w : Workspace} {root : Path} {settings : Settings}
    {name raw : String} {q : Query}
    {arguments : List String} (carries : CarriesOut w arguments root (.saveSearch name raw))
    (accepted : Settings.load (w.settingsFile (ProjectPaths.ofRoot root).settings) = .ok settings)
    (isName : IsName name) (parsed : parseQuery raw = .ok q)
    (plain : (SavedSearch.after (.save name raw) settings).IsPlain) (input : List Char) :
    ∃ content settings', (w.run input arguments).2.workspace = w.withSettings root content ∧
      Settings.load (.content content) = .ok settings' ∧ settings'.IsPlain ∧
      SavedSearch.load (.content content) name = .ok (raw : AnyText) := by
  have trimmed : AnyText.strip name = name := congrArg AnyText.plain isName.trimmed
  have whole := (Settings.fault_save (SavedSearch.isStorable_after (Settings.isStorable_of_load accepted)
    (.save name raw))).mpr plain
  have performs : (SavedSearch.Call.save name raw).perform (w.settingsFile (ProjectPaths.ofRoot root).settings) =
      .ok (SavedSearch.after (.save name raw) settings).save := by
    have notEmpty : (name : AnyText) ≠ "" := fun empty => isName.notEmpty (AnyText.plain.inj empty)
    rw [SavedSearch.Call.perform, SavedSearch.save, Option.getD_some, trimmed, if_neg notEmpty,
      SavedSearch.settings_eq accepted, SavedSearch.after, SavedSearch.Call.change, trimmed]
    rfl
  cases SavedSearch.ends accepted (.save name raw) with
  | refused refuses => rw [performs] at refuses; cases refuses
  | cut broken => exact absurd plain broken
  | written _ _ ends accepted' left plain' =>
    rw [performs, SettingsFile.change, Written.outcome, whole] at ends
    cases ends
    refine ⟨_, _, ?_, accepted', plain', ?_⟩
    · obtain ⟨text, written⟩ := Run.Meets.session (carries.meets (s := { workspace := w, input }) fun _ =>
        Run.saveSearch_prints carries.there parsed performs whole)
      rw [written]
      rfl
    · rw [← SettingsFile.ofWritten, SavedSearch.load_eq accepted', left, SavedSearch.answer_change,
        SavedSearch.Call.key, trimmed, if_pos rfl]
      rfl

/-- A saved search that is run is printed behind its label, before all else. -/
theorem CarriesOut.runSearch [Json.Nesting] {w : Workspace} {root : Path} {settings : Settings}
    {name raw : String} {q : Query}
    {arguments : List String} {options : SearchOptions} (carries : CarriesOut w arguments root (.runSearch name options))
    (loads : Settings.load (w.settingsFile (ProjectPaths.ofRoot root).settings) = .ok settings)
    (saved : SavedSearch.load (w.settingsFile (ProjectPaths.ofRoot root).settings) name = .ok (raw : AnyText))
    (parsed : parseQuery raw = .ok q)
    (answers : ∀ limit, ∃ r, Search.execute (w.database (ProjectPaths.ofRoot root).database) q w.clock limit = .ok r)
    (isTable : options.format = .table) (plain : IsPlainName name) (input : List Char) :
    ∃ rest, (w.run input arguments).2.output = (({ workspace := w, input } : Session).printing
      (runningLabel name ++ (Terminal.shownText (Terminal.escape raw.toList) ++ ['\n']))).output ++ rest := by
  obtain ⟨rest, prints⟩ := Run.Meets.session (carries.meets (s := { workspace := w, input }) fun _ =>
    Run.runSearch_prints carries.there loads saved parsed answers isTable plain)
  exact ⟨rest, by rw [prints]; rfl⟩

/-- The saved searches are listed, and nothing else is done. -/
theorem CarriesOut.listSearches [Json.Nesting] {w : Workspace} {root : Path} {settings : Settings}
    {searches : List (String × String)} {lines : List (List Char)} {arguments : List String}
    (carries : CarriesOut w arguments root (.listSearches .table))
    (loads : Settings.load (w.settingsFile (ProjectPaths.ofRoot root).settings) = .ok settings)
    (saved : settings.savedSearches = searches.map (Prod.map .plain .plain)) (filled : searches ≠ [])
    (shows : (savedTable searches).lines = .ok lines) (input : List Char) :
    w.run input arguments = (.exit 0, { workspace := w, input, output := lines.flatMap (· ++ ['\n']) }) := by
  obtain ⟨asked, same⟩ := Run.commandLine_run (s := { workspace := w, input }) carries
  rw [Workspace.run, same,
    Run.listSearches_run (s := { workspace := w, input }) carries.there loads saved filled shows]
  rfl

/-- A search that is loaded is among those that are saved. -/
theorem SavedSearch.mem_of_load [Json.Nesting] {file : SettingsFile} {settings : Settings} {name raw : AnyText}
    (accepted : Settings.load file = .ok settings) (loads : load file name = .ok raw) :
    (name, raw) ∈ settings.savedSearches := by
  rw [load_eq accepted, find?] at loads
  cases found : settings.savedSearches.find? (·.1 == name) with
  | none =>
    rw [found] at loads
    cases loads
  | some search =>
    rw [found] at loads
    cases loads
    have isName : search.1 = name := by simpa using List.find?_some found
    rw [← isName]
    exact List.mem_of_find?_eq_some found

private theorem isPlainName_q : IsPlainName "q" where
  notEmpty := by decide
  trimmed := by decide
  ascii := by decide
  noColon := by decide
  noOpening := by decide
  noBackslash := by decide

end IssueTracker
